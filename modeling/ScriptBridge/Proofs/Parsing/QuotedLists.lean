import ScriptBridge.Proofs.Expressions.Values
import ScriptBridge.Proofs.Parsing.FirstMatch
import ScriptBridge.Proofs.Parsing.ListGrammar
import ScriptBridge.Proofs.Parsing.Wording
import ScriptBridge.Proofs.Token.Quotation
/-!
Lists of strings between quotes. Such a list is taken apart at its separators and nowhere else, since a string
is one token whatever it stands for. Where strings are not written out without quotes, and no expression for
them can be made of quoted strings, a plural slot for strings reads the list as the texts that its items stand
for, in order.
-/

namespace ScriptBridge

/-- Whatever it is evaluated with, the expression yields these texts. -/
def Expression.YieldsTexts (texts : List String) (expression : Expression) : Prop :=
  ∀ world event, expression.values world event = .ok (texts.map .text)

theorem Expression.YieldsTexts.all_eq {texts : List String} {expression : Expression}
    (yields : expression.YieldsTexts texts) (world : World) (event : Event) :
    expression.all .text world event = .ok texts :=
  (Expression.all_eq_ok_iff ValueKind.faithful_text).2 (yields world event)

/-- What may not be written out is not read. -/
theorem TypeInfo.parse?_eq_none {info : TypeInfo} {context : ParseContext}
    (cannot : info.canParse context = false) (world : World) (text : String) :
    info.parse? world text context = none := by
  rw [parse?]
  cases given : info.parser with
  | none => rfl
  | some parser =>
      rw [canParse, given, Option.any_some] at cannot
      exact if_neg (by simp [cannot])

namespace Parsing

open Token

/-- The token separates the items of a list: it is a comma or the word `and`. -/
def Separates (token : Token) : Prop :=
  listMark token = .comma ∨ listMark token = .conjunction

/-- Strings with a separator between each two, and the texts that they stand for. -/
inductive QuotedList : List Token → List String → Prop where
  | single {token : Token} {text : String} (quotes : token.Quotes text) : QuotedList [token] [text]
  | more {token separator : Token} {tokens : List Token} {text : String} {texts : List String}
      (quotes : token.Quotes text) (separates : Separates separator)
      (rest : QuotedList tokens texts) : QuotedList (token :: separator :: tokens) (text :: texts)

theorem listMark_quotes {token : Token} {text : String} (quotes : token.Quotes text) :
    listMark token = .content := by
  rw [listMark, quotes.isQuoted]

theorem not_isLiteral_of_quotes {token : Token} {text : String} (quotes : token.Quotes text)
    (word : String) : token.isLiteral word = false := by
  simp [isLiteral, quotes.isQuoted]

theorem exists_isLiteral_of_separates {token : Token} (separates : Separates token) :
    ∃ separator ∈ [",", "and"], token.isLiteral separator = true := by
  rcases separates with comma | conjunction
  · obtain ⟨punct, same⟩ := listMark_eq_comma_iff.1 comma
    refine ⟨",", by simp, ?_⟩
    rw [isLiteral, punct, same]
    decide
  · obtain ⟨word, same⟩ := listMark_eq_conjunction_iff.1 conjunction
    refine ⟨"and", by simp, ?_⟩
    rw [isLiteral, word]
    exact same

/-- A token that is a word is no other word. -/
theorem not_isLiteral_of_apart {token : Token} {word other : String}
    (isWord : token.isLiteral word = true) (apart : Text.sameIgnoringCase word other = false) :
    token.isLiteral other = false := by
  cases isOther : token.isLiteral other with
  | false => rfl
  | true =>
      have same := sameIgnoringCase_of_isLiteral isWord isOther
      rw [apart] at same
      cases same

namespace QuotedList

variable {tokens : List Token} {texts : List String}

theorem ne_nil (list : QuotedList tokens texts) : tokens ≠ [] := by
  cases list with
  | single quotes => simp
  | more quotes separates rest => simp

/-- Nothing in the list is taken for a word, the separators apart. -/
theorem not_isLiteral (list : QuotedList tokens texts) {word : String}
    (apart : ∀ separator ∈ [",", "and"], Text.sameIgnoringCase separator word = false) :
    ∀ token ∈ tokens, token.isLiteral word = false := by
  induction list with
  | single quotes => simpa using not_isLiteral_of_quotes quotes word
  | more quotes separates rest ih =>
      obtain ⟨separator, listed, isSeparator⟩ := exists_isLiteral_of_separates separates
      simp only [List.forall_mem_cons]
      exact ⟨not_isLiteral_of_quotes quotes word,
        not_isLiteral_of_apart isSeparator (apart separator listed), ih⟩

/-- The windows of the items, from a position on: every second token by itself. -/
def itemsFrom (start : Nat) : Nat → List (Nat × Nat)
  | 0 => []
  | count + 1 => (start, start + 1) :: itemsFrom (start + 2) count

theorem length_itemsFrom (start count : Nat) : (itemsFrom start count).length = count := by
  induction count generalizing start with
  | zero => rfl
  | succ count ih => rw [itemsFrom, List.length_cons, ih]

/-- The list is taken apart at its separators. -/
theorem splitFrom_eq (list : QuotedList tokens texts) (afterComma : Bool) (start : Nat) :
    splitFrom 0 afterComma start start tokens = some (itemsFrom start texts.length) := by
  induction list generalizing afterComma start with
  | single quotes => simp [splitFrom, listMark_quotes quotes, itemsFrom]
  | more quotes separates rest ih =>
      rcases separates with comma | conjunction
      · simp [splitFrom, listMark_quotes quotes, comma, ih, itemsFrom]
      · simp [splitFrom, listMark_quotes quotes, conjunction, ih, itemsFrom]

theorem length_pos (list : QuotedList tokens texts) : 0 < texts.length := by
  cases list with
  | single quotes => simp
  | more quotes separates rest => simp

/-- Each item is read by itself. -/
theorem mapM_itemsFrom (list : QuotedList tokens texts) (read : List Token → Option Expression)
    (reads : ∀ token text, token.Quotes text →
      ∃ item, read [token] = some item ∧ item.YieldsTexts [text]) (before : List Token) :
    ∃ items, (itemsFrom before.length texts.length).mapM
          (fun part => read (window (before ++ tokens) part.1 part.2)) = some items
      ∧ ∀ type, (Expression.list items type).YieldsTexts texts := by
  induction list generalizing before with
  | @single token text quotes =>
      obtain ⟨item, isRead, yields⟩ := reads token text quotes
      have here : window (before ++ [token]) before.length (before.length + 1) = [token] := by
        simp [window]
      refine ⟨[item], by simp [itemsFrom, here, isRead], ?_⟩
      intro type world event
      simp [Expression.values, Expression.valuesOfAll, yields world event]
  | @more token separator tokens text texts quotes separates rest ih =>
      obtain ⟨item, isRead, yields⟩ := reads token text quotes
      obtain ⟨items, areRead, say⟩ := ih (before ++ [token, separator])
      have here : window (before ++ token :: separator :: tokens) before.length (before.length + 1)
          = [token] := by
        simp [window]
      refine ⟨item :: items, ?_, ?_⟩
      · simp at areRead
        simp [itemsFrom, here, isRead, areRead]
      · intro type world event
        have others := say type world event
        rw [Expression.values] at others
        simp [Expression.values, Expression.valuesOfAll, yields world event, others]

/-- A list of two or more is read item by item. -/
theorem listOf? (list : QuotedList tokens texts) (several : 2 ≤ texts.length) {item : ValueReader}
    {slot : Slot} {key : TypeKey}
    (reads : ∀ token text, token.Quotes text →
      ∃ value, item [token] slot key = some value ∧ value.YieldsTexts [text]) :
    ∃ expression, Source.listOf? item tokens slot key = some expression
      ∧ expression.YieldsTexts texts := by
  obtain ⟨items, areRead, say⟩ := list.mapM_itemsFrom (item · slot key) reads []
  have parts : splitList tokens = some (itemsFrom 0 texts.length) := by
    rw [splitList, list.splitFrom_eq]
    simpa [length_itemsFrom] using several
  refine ⟨.list items key, ?_, say key⟩
  rw [Source.listOf?, parts]
  simpa using areRead

/-- What is written between two items. -/
def StandsBetween (separator : List Char) : Prop :=
  separator = ", ".toList ∨ separator = " and ".toList

/-- What a scan finds between two items separates them. -/
theorem scan_separator {separator : List Char} (between : StandsBetween separator) (offset : Nat)
    (touchesWord : Bool) (rest : List Char) :
    ∃ token later, scan offset touchesWord (separator ++ rest) = token :: scan later false rest
      ∧ Separates token := by
  rcases between with rfl | rfl
  · obtain ⟨token, later, scanned, punct, comma⟩ := @scan_comma offset touchesWord rest
    refine ⟨token, later, scanned, .inl ?_⟩
    simp [listMark, punct, comma]
  · obtain ⟨token, later, scanned, word⟩ :=
      @scan_word (offset + 1) false rest 'a' ['n', 'd'] (by decide) (by decide) (by decide)
    refine ⟨token, later, (scan_space offset touchesWord).trans scanned, .inr ?_⟩
    have isAnd : token.isLiteral "and" = true := by
      rw [isLiteral, word.isWord, word.spelled]
      decide
    simp [listMark, word.isWord, isAnd]

theorem exists_separator (first second : String) (others : List String) :
    ∃ separator, StandsBetween separator
      ∧ (Expression.joinDescriptions (first :: second :: others)).toList
        = first.toList ++ (separator ++ (Expression.joinDescriptions (second :: others)).toList) := by
  cases others with
  | nil =>
      refine ⟨" and ".toList, .inr rfl, ?_⟩
      simp [Expression.joinDescriptions]
  | cons third others =>
      refine ⟨", ".toList, .inl rfl, ?_⟩
      simp [Expression.joinDescriptions]

/-- The texts between quotes, joined as the items of a list, are such a list. -/
theorem scan_joined {texts : List String} (nonempty : texts ≠ []) (offset : Nat)
    (touchesWord : Bool) :
    QuotedList (scan offset touchesWord
      (Expression.joinDescriptions (texts.map Builtins.quoteText)).toList) texts := by
  induction texts generalizing offset touchesWord with
  | nil => contradiction
  | cons text rest ih =>
      cases rest with
      | nil =>
          obtain ⟨token, later, scanned, quotes⟩ :=
            @scan_quoteText offset touchesWord [] text (by simp)
          rw [List.append_nil] at scanned
          have only : Expression.joinDescriptions ([text].map Builtins.quoteText)
              = Builtins.quoteText text := rfl
          rw [only, scanned, scan]
          exact .single quotes
      | cons second others =>
          obtain ⟨separator, between, joined⟩ :=
            exists_separator (Builtins.quoteText text) (Builtins.quoteText second)
              (others.map Builtins.quoteText)
          have closes : (separator ++ (Expression.joinDescriptions
              ((second :: others).map Builtins.quoteText)).toList).head? ≠ some '"' := by
            rcases between with rfl | rfl <;> simp
          obtain ⟨token, later, scanned, quotes⟩ := @scan_quoteText offset touchesWord _ text closes
          obtain ⟨mark, behind, separated, separates⟩ :=
            scan_separator between later false
              (Expression.joinDescriptions ((second :: others).map Builtins.quoteText)).toList
          rw [List.map_cons, List.map_cons, joined, ← List.map_cons, scanned, separated]
          exact .more quotes separates (ih (List.cons_ne_nil _ _) behind false)

end QuotedList

/-! ### Reading a slot -/

variable {read : SlotReader} {tokens : List Token}

theorem exists_isLiteral_of_derives {nodes : List Node} {word : String} {start stop : Nat}
    {way : List Decision} (derives : NodesDerive read tokens nodes start way stop)
    (demanded : .literal word ∈ nodes) : ∃ token ∈ tokens, token.isLiteral word = true := by
  induction nodes generalizing start way with
  | nil => simp at demanded
  | cons node nodes ih =>
      cases derives with
      | cons first rest =>
          rcases List.mem_cons.1 demanded with same | later
          · subst same
            cases first with
            | literal present fits => exact ⟨_, List.mem_of_getElem? present, fits⟩
          · exact ih rest later

/-- A pattern that demands a word is not matched where the word does not stand. -/
theorem matchPattern_eq_none {pattern : Pattern} {word : String}
    (demanded : .literal word ∈ pattern.nodes)
    (absent : ∀ token ∈ tokens, token.isLiteral word = false) :
    matchPattern read tokens pattern = none := by
  have finds := matchPattern_finds read tokens pattern
  apply Option.not_isSome_iff_eq_none.1
  intro matched
  obtain ⟨way, derives⟩ := finds.isSome_iff.1 matched
  obtain ⟨token, listed, fits⟩ := exists_isLiteral_of_derives derives demanded
  rw [absent token listed] at fits
  cases fits

theorem matchSlotAt_append {slot : Slot} {next : Continuation} {start : Nat} {stops : List Nat}
    (stuck : ∀ stop ∈ stops, next stop = none) (later : List Nat) :
    matchSlotAt read slot next start (stops ++ later) = matchSlotAt read slot next start later := by
  induction stops with
  | nil => rfl
  | cons stop stops ih =>
      obtain ⟨here, there⟩ := List.forall_mem_cons.1 stuck
      rw [List.cons_append, matchSlotAt, here]
      exact ih there

/-- If nothing but the end fits what comes after a slot, then the slot takes all that is left. -/
theorem matchSlot_of_stuck {slot : Slot} {next : Continuation} {start : Nat}
    (inside : start < tokens.length)
    (stuck : ∀ stop, start < stop → stop < tokens.length → next stop = none) :
    matchSlot read tokens slot next start
      = (next tokens.length).bind fun bindings =>
          (read slot start tokens.length).map (bindings.bind slot ·) := by
  have stops : List.range' (start + 1) (tokens.length - start)
      = List.range' (start + 1) (tokens.length - start - 1) ++ [tokens.length] := by
    have count : tokens.length - start = tokens.length - start - 1 + 1 := by omega
    have last : start + 1 + (tokens.length - start - 1) = tokens.length := by omega
    rw [count, List.range'_concat, Nat.one_mul, Nat.add_sub_cancel, last]
  have passed : ∀ stop ∈ List.range' (start + 1) (tokens.length - start - 1), next stop = none := by
    intro stop listed
    rw [List.mem_range'_1] at listed
    exact stuck stop (by omega) (by omega)
  -- of the pieces, shortest first, only the longest one is left
  rw [matchSlot, stops, matchSlotAt_append passed, matchSlotAt, matchSlotAt]
  split
  · next found => exact found.symm
  · next missed => exact missed.symm

namespace Source

variable {source : Source}

/-- At some place strings are only read between quotes: they may not be written out without them, and every
expression that yields strings has a word in it that separates no items. -/
structure QuotedOnly (source : Source) : Prop where
  unwritten : ∀ info, source.registries.types.get? .text = some info →
    info.canParse source.options.context = false
  worded : ∀ entry ∈ source.registries.grammar.expressions,
    source.registries.types.converts entry.returnType .text = true →
      ∀ pattern ∈ entry.patterns, ∃ word, .literal word ∈ pattern.nodes
        ∧ ∀ separator ∈ [",", "and"], Text.sameIgnoringCase separator word = false

/-- While a window may still be opened, what it reads as is told by the rules for one value. -/
theorem exists_valueAt (levels : Nat) :
    ∃ value item, source.valueAt (levels + 1) = source.valueWith value item := by
  cases levels with
  | zero => exact ⟨_, _, rfl⟩
  | succ levels => exact ⟨_, _, rfl⟩

theorem writtenOut?_eq_none {key : TypeKey} (cannot : ∀ info,
      source.registries.types.get? key = some info → info.canParse source.options.context = false)
    (tokens : List Token) : source.writtenOut? tokens key = none := by
  rw [writtenOut?]
  cases known : source.registries.types.get? key with
  | none => rfl
  | some info =>
      rw [Option.bind_some, TypeInfo.parse?_eq_none (cannot info known)]
      rfl

theorem entryExpression?_eq_none {value item : ValueReader} {tokens : List Token}
    {target : TypeKey} {entry : ExpressionEntry} {patterns : List Pattern}
    (unmatched : ∀ pattern ∈ patterns, ∀ read, matchPattern read tokens pattern = none)
    (number : Nat) :
    source.entryExpression? value item tokens target entry number patterns = none := by
  induction patterns generalizing number with
  | nil => rfl
  | cons pattern rest ih =>
      obtain ⟨here, there⟩ := List.forall_mem_cons.1 unmatched
      rw [entryExpression?, match?, here]
      exact ih there (number + 1)

variable {tokens : List Token} {texts : List String} {value item : ValueReader}

namespace QuotedOnly

/-- No expression for strings is made of quoted strings. -/
theorem expression?_eq_none (quotedOnly : source.QuotedOnly) (list : QuotedList tokens texts) :
    source.expression? value item tokens .text = none := by
  rw [expression?, if_neg (by simpa using list.ne_nil), List.findSome?_eq_none_iff]
  intro entry listed
  split
  · next converts =>
      apply entryExpression?_eq_none
      intro pattern isPattern read
      obtain ⟨word, demanded, apart⟩ := quotedOnly.worded entry listed converts pattern isPattern
      exact matchPattern_eq_none demanded (list.not_isLiteral apart)
  · rfl

/-- A string is read as the text that it stands for. -/
theorem valueWith_single (quotedOnly : source.QuotedOnly) (value item : ValueReader) (slot : Slot)
    {token : Token} {text : String} (quotes : token.Quotes text) : ∃ expression,
      source.valueWith value item [token] slot .text = some expression ∧ expression.YieldsTexts [text] := by
  have converts : source.registries.types.convert (.text token.text) .text
      = some (.text token.text) := if_pos rfl
  have read : source.fromString? [token] .text
      = some (.literal (.text token.text) (source.textOf [token])) := by
    rw [fromString?, if_pos quotes.isQuoted, converts]
    rfl
  refine ⟨.literal (.text token.text) (source.textOf [token]), ?_, ?_⟩
  · rw [valueWith, writtenOut?_eq_none quotedOnly.unwritten, read]
    rfl
  · intro world event
    rw [Expression.values, quotes.standsFor]
    rfl

/-- A list of two or more is no single value. -/
theorem valueWith_several (quotedOnly : source.QuotedOnly) {slot : Slot}
    (list : QuotedList tokens texts) (several : 2 ≤ texts.length) :
    source.valueWith value item tokens slot .text = none := by
  have unread : source.fromString? tokens .text = none := by
    cases list with
    | single quotes => simp at several
    | more quotes separates rest => rfl
  rw [valueWith, if_neg (by simpa using list.ne_nil), writtenOut?_eq_none quotedOnly.unwritten, unread]
  simp only [quotedOnly.expression?_eq_none list, ite_self]

/-- A plural slot for strings reads a list of them as the texts that its items stand for. -/
theorem slotReader_list (quotedOnly : source.QuotedOnly) {slot : Slot} (key : slot.key = some .text)
    (plural : slot.plural = true) {start stop : Nat}
    (list : QuotedList (window tokens start stop) texts) (below further : Nat) : ∃ expression,
      slotReader (source.valueAt (below + 1)) (source.valueAt (further + 1)) tokens slot start stop
        = some expression
      ∧ expression.YieldsTexts texts := by
  obtain ⟨value, item, whole⟩ := @exists_valueAt source below
  obtain ⟨valueWithin, itemWithin, within⟩ := @exists_valueAt source further
  rw [slotReader, key, whole, within]
  generalize window tokens start stop = piece at list
  by_cases several : 2 ≤ texts.length
  · have items : ∀ token text, token.Quotes text → ∃ expression,
        source.valueWith valueWithin itemWithin [token] slot .text = some expression
          ∧ expression.YieldsTexts [text] :=
      fun token text quotes => quotedOnly.valueWith_single valueWithin itemWithin slot quotes
    obtain ⟨expression, read, yields⟩ := list.listOf? several items
    refine ⟨expression, ?_, yields⟩
    simp [quotedOnly.valueWith_several list several, plural, read]
  · cases list with
    | single quotes =>
        obtain ⟨expression, read, yields⟩ := quotedOnly.valueWith_single value item slot quotes
        exact ⟨expression, by simp [read], yields⟩
    | more quotes separates rest =>
        have others := rest.length_pos
        rw [List.length_cons] at several
        omega

end QuotedOnly

end Source

end Parsing

end ScriptBridge
