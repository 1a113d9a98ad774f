/-!
White space, as the standard's `White_Space` property has it, and trimming by it.
-/

namespace ScriptBridge.Text

/-- Whether the character is white space. -/
def isBlank (c : Char) : Bool :=
  let n := c.toNat
  (9 ≤ n && n ≤ 13) || n == 32 || n == 0x85 || n == 0xA0 || n == 0x1680
    || (0x2000 ≤ n && n ≤ 0x200A) || n == 0x2028 || n == 0x2029 || n == 0x202F
    || n == 0x205F || n == 0x3000

/-- The characters without the blank ones in front. -/
def trimStart (cs : List Char) : List Char :=
  cs.dropWhile isBlank

/-- The characters without the blank ones at the end. -/
def trimEnd (cs : List Char) : List Char :=
  (cs.reverse.dropWhile isBlank).reverse

/-- The characters without the blank ones at either end. -/
def trim (cs : List Char) : List Char :=
  trimEnd (trimStart cs)

/-- Every character that core calls white space is blank. -/
theorem isBlank_of_isWhitespace {c : Char} (h : c.isWhitespace = true) : isBlank c = true := by
  simp only [Char.isWhitespace, Bool.or_eq_true, decide_eq_true_eq] at h
  rcases h with ((h | h) | h) | h <;> subst h <;> rfl

/-- The code points of white space. -/
def blankPoints : List Nat :=
  List.range' 9 5 ++ [0x20, 0x85, 0xA0, 0x1680, 0x2028, 0x2029, 0x202F, 0x205F, 0x3000]
    ++ List.range' 0x2000 11

/-- What is checked of the characters at these points holds of every blank one. -/
theorem forall_blank {P : Char → Prop} (checked : ∀ n ∈ blankPoints, P (Char.ofNat n)) {c : Char}
    (blank : isBlank c = true) : P c := by
  have listed : c.toNat ∈ blankPoints := by
    simp only [isBlank, Bool.or_eq_true, Bool.and_eq_true, decide_eq_true_eq, beq_iff_eq] at blank
    simp only [blankPoints, List.mem_append, List.mem_cons, List.mem_range'_1, List.not_mem_nil]
    omega
  have known := checked c.toNat listed
  rwa [Char.ofNat_toNat] at known

end ScriptBridge.Text
