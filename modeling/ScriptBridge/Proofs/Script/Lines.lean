import ScriptBridge.Script.Line
/-!
Lines of scripts, taken apart and put together again. Lines that are written one below the other are read
back up to a carriage return at their ends, and that is blank: what a line holds does not depend on it.
-/

namespace ScriptBridge.Script

/-- These lines one below the other. -/
def unlines (written : List (List Char)) : String :=
  String.ofList (written.flatMap (· ++ ['\n']))

theorem linesFrom_cons (current : List Char) (c : Char) (rest : List Char) :
    linesFrom current (c :: rest)
      = if c = '\n' then dropReturn current.reverse :: linesFrom [] rest
        else linesFrom (c :: current) rest := by
  by_cases ends : c = '\n'
  · rw [if_pos ends, ends, linesFrom]
  · rw [if_neg ends, linesFrom.eq_3 _ _ _ ends]

theorem linesFrom_append (current : List Char) {line : List Char} (rest : List Char)
    (unbroken : '\n' ∉ line) :
    linesFrom current (line ++ '\n' :: rest)
      = dropReturn (current.reverse ++ line) :: linesFrom [] rest := by
  induction line generalizing current with
  | nil => rw [List.nil_append, linesFrom, List.append_nil]
  | cons c line ih =>
      rw [List.mem_cons, not_or] at unbroken
      rw [List.cons_append, linesFrom_cons, if_neg (Ne.symm unbroken.1), ih _ unbroken.2,
        List.reverse_cons, List.append_assoc, List.singleton_append]

/-- Written lines are read back, without the carriage returns in front of their line feeds. -/
theorem lines_unlines {written : List (List Char)} (unbroken : ∀ line ∈ written, '\n' ∉ line) :
    lines (unlines written) = written.map dropReturn := by
  rw [lines, unlines, String.toList_ofList]
  induction written with
  | nil => rfl
  | cons line rest ih =>
      rw [List.flatMap_cons, List.append_assoc, List.singleton_append,
        linesFrom_append [] _ (unbroken line (List.mem_cons_self ..)), List.map_cons,
        ih fun other listed => unbroken other (List.mem_cons_of_mem _ listed)]
      rfl

theorem mem_of_mem_dropReturn {c : Char} {line : List Char} (listed : c ∈ dropReturn line) : c ∈ line := by
  rw [dropReturn] at listed
  split at listed
  · exact List.dropLast_subset line listed
  · exact listed

theorem not_mem_linesFrom {current source line : List Char} (unbroken : '\n' ∉ current)
    (listed : line ∈ linesFrom current source) : '\n' ∉ line := by
  induction source generalizing current with
  | nil =>
      rw [linesFrom] at listed
      split at listed
      · cases listed
      · rw [List.mem_singleton.1 listed, List.mem_reverse]
        exact unbroken
  | cons c rest ih =>
      rw [linesFrom_cons] at listed
      split at listed
      · rcases List.mem_cons.1 listed with same | listed
        · rw [same]
          intro broken
          exact unbroken (List.mem_reverse.1 (mem_of_mem_dropReturn broken))
        · exact ih (by simp) listed
      · next other =>
          apply ih _ listed
          rw [List.mem_cons, not_or]
          exact ⟨Ne.symm other, unbroken⟩

/-- No line holds a line feed. -/
theorem not_mem_lines {source : String} {line : List Char} (listed : line ∈ lines source) :
    '\n' ∉ line :=
  not_mem_linesFrom (by simp) listed

theorem trim_concat {cs : List Char} {c : Char} (blank : Text.isBlank c = true) :
    Text.trim (cs ++ [c]) = Text.trim cs := by
  rw [Text.trim, Text.trimStart, List.dropWhile_append]
  split
  · next empty =>
      rw [Text.trim, Text.trimStart, List.isEmpty_iff.1 empty, List.dropWhile_cons_of_pos blank]
      rfl
  · rw [Text.trim, Text.trimEnd, List.reverse_append, List.reverse_singleton, List.singleton_append,
      List.dropWhile_cons_of_pos blank]
    rfl

/-- A character that neither opens a quote nor a comment stands at the end of the line, or in its
comment. -/
theorem stripCommentFrom_concat (quoted : Bool) (line : List Char) {c : Char} (noQuote : c ≠ '"')
    (noComment : c ≠ '#') :
    stripCommentFrom quoted (line ++ [c]) = stripCommentFrom quoted line
      ∨ stripCommentFrom quoted (line ++ [c]) = stripCommentFrom quoted line ++ [c] := by
  induction line generalizing quoted with
  | nil => simp [stripCommentFrom, noQuote, noComment]
  | cons d rest ih =>
      rw [List.cons_append, stripCommentFrom, stripCommentFrom]
      split
      · simpa using ih !quoted
      · split
        · exact Or.inl rfl
        · simpa using ih quoted

/-- What a line holds does not depend on a carriage return at its end. -/
theorem contentOf_dropReturn (line : List Char) : contentOf (dropReturn line) = contentOf line := by
  rw [dropReturn]
  split
  · next returns =>
      obtain ⟨before, rfl⟩ := List.getLast?_eq_some_iff.1 returns
      rw [List.dropLast_concat]
      have blank : Text.isBlank '\r' = true := rfl
      rcases stripCommentFrom_concat false before (by decide : '\r' ≠ '"') (by decide) with same | longer
      · rw [contentOf, contentOf, stripComment, stripComment, same]
      · rw [contentOf, contentOf, stripComment, stripComment, longer]
        simp only [trim_concat blank]
        -- nothing but the carriage return may stand in front of the comment
        cases stripCommentFrom false before with
        | nil => rfl
        | cons first rest => rfl
  · rfl

end ScriptBridge.Script
