import ScriptBridge.Text.Basic
import ScriptBridge.Token.Basic
/-!
Where tokens stand in their text. The offsets of a token fall between characters of the text, and the
tokens of a text stand one behind the other. So the text from the first token of a window to its last one
is a piece of whole characters.
-/

namespace ScriptBridge

namespace Text

/-- The byte offset falls between two characters of the text, or at one of its ends. -/
def IsBoundary (text : List Char) (offset : Nat) : Prop :=
  ∃ before after, text = before ++ after ∧ Token.byteCount before = offset

/-- The piece of the text that stands between two byte offsets. -/
def IsPiece (text : List Char) (start stop : Nat) (piece : List Char) : Prop :=
  ∃ before after, text = before ++ piece ++ after ∧ Token.byteCount before = start
    ∧ Token.byteCount (before ++ piece) = stop

end Text

namespace Token

theorem byteCount_append (cs others : List Char) :
    byteCount (cs ++ others) = byteCount cs + byteCount others := by
  induction cs with
  | nil => exact (Nat.zero_add _).symm
  | cons c rest ih => rw [List.cons_append, byteCount, byteCount, ih, Nat.add_assoc]

theorem eq_nil_of_byteCount {cs : List Char} (empty : byteCount cs = 0) : cs = [] := by
  cases cs with
  | nil => rfl
  | cons c rest =>
      have size := c.utf8Size_pos
      rw [byteCount] at empty
      omega

end Token

open Token

namespace Text

/-! ### Pieces of a text -/

theorem dropBytes_append (before rest : List Char) :
    dropBytes (byteCount before) (before ++ rest) = rest := by
  induction before with
  | nil => cases rest <;> rfl
  | cons c before ih =>
      have size := c.utf8Size_pos
      rw [List.cons_append, dropBytes, byteCount, if_neg (by omega), Nat.add_sub_cancel_left, ih]

theorem takeBytes_append (piece after : List Char) :
    takeBytes (byteCount piece) (piece ++ after) = piece := by
  induction piece with
  | nil => cases after <;> rfl
  | cons c piece ih =>
      have size := c.utf8Size_pos
      rw [List.cons_append, takeBytes, byteCount, if_neg (by omega), Nat.add_sub_cancel_left, ih]

/-- What is cut out between two offsets is the piece that stands there. -/
theorem IsPiece.sliceBytes {text piece : List Char} {start stop : Nat}
    (stands : IsPiece text start stop piece) : sliceBytes start stop text = piece := by
  obtain ⟨before, after, rfl, rfl, rfl⟩ := stands
  rw [Text.sliceBytes, byteCount_append, Nat.add_sub_cancel_left, List.append_assoc, dropBytes_append,
    takeBytes_append]

/-- Between two boundaries there is a piece. -/
theorem IsBoundary.exists_piece {text : List Char} {start stop : Nat}
    (starts : IsBoundary text start) (stops : IsBoundary text stop) (ordered : start ≤ stop) :
    ∃ piece, IsPiece text start stop piece := by
  obtain ⟨before, rest, rfl, rfl⟩ := starts
  obtain ⟨upTo, after, same, rfl⟩ := stops
  rcases List.append_eq_append_iff.1 same with ⟨piece, rfl, rfl⟩ | ⟨surplus, rfl, -⟩
  · exact ⟨piece, before, after, (List.append_assoc ..).symm, rfl, rfl⟩
  · -- the second offset does not come first, so the two are one
    rw [byteCount_append] at ordered
    obtain rfl := eq_nil_of_byteCount (show byteCount surplus = 0 by omega)
    exact ⟨[], upTo, rest, by simp, by simp, by simp⟩

end Text

namespace Token

/-- From an offset on, these tokens stand in the text one behind the other. -/
inductive Stand (text : List Char) : Nat → List Token → Prop where
  | nil {offset : Nat} : Stand text offset []
  | cons {offset : Nat} {token : Token} {rest : List Token} (behind : offset ≤ token.start)
      (starts : Text.IsBoundary text token.start) (nonempty : token.start < token.stop)
      (stops : Text.IsBoundary text token.stop) (others : Stand text token.stop rest) :
      Stand text offset (token :: rest)

namespace Stand

variable {text : List Char} {offset : Nat} {tokens : List Token}

theorem mono {earlier : Nat} (stand : Stand text offset tokens) (le : earlier ≤ offset) :
    Stand text earlier tokens := by
  cases stand with
  | nil => exact .nil
  | cons behind starts nonempty stops others =>
      exact .cons (Nat.le_trans le behind) starts nonempty stops others

theorem drop (stand : Stand text offset tokens) (count : Nat) :
    Stand text offset (tokens.drop count) := by
  induction stand generalizing count with
  | nil =>
      rw [List.drop_nil]
      exact .nil
  | cons behind starts nonempty stops others ih =>
      cases count with
      | zero => exact .cons behind starts nonempty stops others
      | succ count => exact (ih count).mono (Nat.le_trans behind (Nat.le_of_lt nonempty))

theorem take (stand : Stand text offset tokens) (count : Nat) :
    Stand text offset (tokens.take count) := by
  induction stand generalizing count with
  | nil =>
      rw [List.take_nil]
      exact .nil
  | cons behind starts nonempty stops others ih =>
      cases count with
      | zero => exact .nil
      | succ count => exact .cons behind starts nonempty stops (ih count)

/-- The last token stops at a boundary behind all that came before. -/
theorem last {final : Token} (stand : Stand text offset tokens) (isLast : tokens.getLast? = some final) :
    Text.IsBoundary text final.stop ∧ offset ≤ final.stop := by
  induction stand with
  | nil => cases isLast
  | @cons offset token rest behind starts nonempty stops others ih =>
      have forward : offset ≤ token.stop := Nat.le_trans behind (Nat.le_of_lt nonempty)
      cases rest with
      | nil =>
          cases isLast
          exact ⟨stops, forward⟩
      | cons next rest =>
          rw [List.getLast?_cons_cons] at isLast
          obtain ⟨ends, later⟩ := ih isLast
          exact ⟨ends, Nat.le_trans forward later⟩

/-- From the first token to the last one there is a piece of the text. -/
theorem exists_piece {first final : Token} (stand : Stand text offset tokens)
    (isFirst : tokens.head? = some first) (isLast : tokens.getLast? = some final) :
    ∃ piece, Text.IsPiece text first.start final.stop piece := by
  cases stand with
  | nil => cases isFirst
  | cons behind starts nonempty stops others =>
      cases isFirst
      obtain ⟨ends, later⟩ :=
        (Stand.cons (Nat.le_refl _) starts nonempty stops others).last isLast
      exact starts.exists_piece ends later

end Stand

/-- A token that takes these characters stands in front of the tokens behind them. -/
theorem Stand.front {before taken after : List Char} {token : Token} {rest : List Token}
    (starts : token.start = byteCount before) (stops : token.stop = byteCount (before ++ taken))
    (nonempty : taken ≠ [])
    (others : Stand (before ++ taken ++ after) (byteCount (before ++ taken)) rest) :
    Stand (before ++ taken ++ after) (byteCount before) (token :: rest) := by
  have size : byteCount taken ≠ 0 := fun empty => nonempty (eq_nil_of_byteCount empty)
  refine .cons (Nat.le_of_eq starts.symm) ?_ ?_ ?_ ?_
  · exact ⟨before, taken ++ after, List.append_assoc .., starts.symm⟩
  · rw [starts, stops, byteCount_append]
    omega
  · exact ⟨before ++ taken, after, rfl, stops.symm⟩
  · rw [stops]
    exact others

/-- The tokens that a scan finds stand one behind the other in what it reads, whatever was read before
it. -/
theorem stand_scan (offset : Nat) (touchesWord : Bool) (cs before : List Char)
    (here : byteCount before = offset) :
    Stand (before ++ cs) offset (scan offset touchesWord cs) := by
  induction offset, touchesWord, cs using scan.induct generalizing before with
  | case1 offset touchesWord =>
      rw [scan]
      exact .nil
  | case2 offset touchesWord c rest blank ih =>
      rw [scan, if_pos blank]
      have behind := ih (before ++ [c]) (by rw [byteCount_append, here]; rfl)
      rw [List.append_assoc] at behind
      exact behind.mono (Nat.le_add_right ..)
  | case3 offset touchesWord rest body stop notBlank ih =>
      subst here
      rw [scan, if_neg notBlank, if_pos rfl]
      have ends : byteCount (before ++ '"' :: body.taken) = stop := by
        rw [byteCount_append, byteCount, ← Nat.add_assoc]
        rfl
      have behind := ih (before ++ '"' :: body.taken) ends
      have whole : before ++ '"' :: rest = before ++ ('"' :: body.taken) ++ body.rest := by
        rw [List.append_assoc, List.cons_append, splitString_append]
      rw [whole]
      exact .front rfl ends.symm (List.cons_ne_nil _ _) (by rwa [ends])
  | case4 offset touchesWord c rest notBlank unquoted word tail stop ih =>
      subst here
      rw [scan, if_neg notBlank, if_neg unquoted, if_pos word]
      have ends : byteCount (before ++ c :: tail) = stop := by
        rw [byteCount_append, byteCount, ← Nat.add_assoc]
      have behind := ih (before ++ c :: tail) ends
      have whole : before ++ c :: rest = before ++ (c :: tail) ++ (splitWord rest).2 := by
        rw [List.append_assoc, List.cons_append, splitWord_append]
      rw [whole]
      exact .front rfl ends.symm (List.cons_ne_nil _ _) (by rwa [ends])
  | case5 offset touchesWord c rest notBlank unquoted noWord ih =>
      subst here
      rw [scan, if_neg notBlank, if_neg unquoted, if_neg noWord]
      have ends : byteCount (before ++ [c]) = byteCount before + c.utf8Size := byteCount_append ..
      have behind := ih (before ++ [c]) ends
      rw [List.append_cons]
      exact .front rfl ends.symm (List.cons_ne_nil _ _) (by rwa [ends])

/-- The tokens of a text stand in it one behind the other. -/
theorem stand_tokenize (text : String) : Stand text.toList 0 (tokenize text) :=
  stand_scan 0 false text.toList [] rfl

end Token

end ScriptBridge
