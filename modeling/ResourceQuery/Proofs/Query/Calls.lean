import ResourceQuery.Proofs.Query.Arguments
import ResourceQuery.Proofs.Query.Terms

/-!
Calls. A name without separators, parentheses and blanks in front of a balanced group is read as a
call of that name (`Query.readWithin_call`). If the name is a word, the call can also stand among
arguments (`Argument.isLeaf_call`), where it is told from a literal (`Query.startsCall_call`).
-/
namespace ResourceQuery

/-- The name of a call among arguments: word characters, at least one. -/
structure IsWord (name : List Char) : Prop where
  some : name ≠ []
  word : ∀ c ∈ name, Text.isWord c = true

instance : DecidablePred IsWord := fun name =>
  decidable_of_iff (name ≠ [] ∧ ∀ c ∈ name, Text.isWord c = true) ⟨fun both => ⟨both.1, both.2⟩, fun one => ⟨one.1, one.2⟩⟩

/-- A name as it is read at the start of a term: no separator, no parenthesis, no blank. -/
structure IsName (name : List Char) : Prop where
  some : name ≠ []
  noSeparator : ∀ c ∈ name, Query.separator? c = none
  noOpen : '(' ∉ name
  noBlank : ∀ c ∈ name, Text.isBlank c = false

/-- Ranges of code points from U+0080 on that hold all blanks and no letters or numerals. -/
def blankGaps : Text.Ranges := [(0x85, 0xA0), (0x1680, 0x1680), (0x2000, 0x205F), (0x3000, 0x3000)]

theorem blankGaps_disjoint : ∀ range ∈ Text.letterRanges ++ Text.numeralRanges, ∀ gap ∈ blankGaps,
    range.2 < gap.1 ∨ gap.2 < range.1 := by decide +kernel

theorem blankGaps_holds {c : Char} (beyond : 0x80 ≤ c.toNat) (blank : Text.isBlank c = true) :
    ∃ gap ∈ blankGaps, gap.1 ≤ c.toNat ∧ c.toNat ≤ gap.2 := by
  simp only [Text.isBlank, Bool.or_eq_true, Bool.and_eq_true, decide_eq_true_eq, beq_iff_eq] at blank
  simp only [blankGaps, List.mem_cons, List.not_mem_nil, or_false, exists_eq_or_imp, exists_eq_left]
  omega

/-- No blank is a word character. -/
theorem isBlank_word {c : Char} (word : Text.isWord c = true) : Text.isBlank c = false := by
  rw [Bool.eq_false_iff]
  intro blank
  by_cases ascii : c.toNat < 0x80
  · have none : ∀ code < 0x80, Text.isWord (Char.ofNat code) = true → Text.isBlank (Char.ofNat code) = false := by
      decide
    have solid := none c.toNat ascii
    rw [Char.ofNat_toNat] at solid
    exact absurd blank (by simp [solid word])
  · obtain ⟨gap, member, low, high⟩ := blankGaps_holds (by omega) blank
    obtain ⟨range, listed, first, last⟩ : ∃ range ∈ Text.letterRanges ++ Text.numeralRanges,
        range.1 ≤ c.toNat ∧ c.toNat ≤ range.2 := by
      simpa [Text.isWord, ascii, Text.Ranges.holds, or_and_right, exists_or] using word
    rcases blankGaps_disjoint range listed gap member with below | above <;> omega

theorem separator?_word {c : Char} (word : Text.isWord c = true) : Query.separator? c = none :=
  Query.separator?_of_class word (by decide)

theorem IsWord.isName {name : List Char} (word : IsWord name) : IsName name where
  some := word.some
  noSeparator c member := separator?_word (word.word c member)
  noOpen member := absurd (word.word _ member) (by decide)
  noBlank c member := isBlank_word (word.word c member)

theorem balanced_word {name : List Char} (word : ∀ c ∈ name, Text.isWord c = true) : Group.Balanced name := by
  induction name with
  | nil => exact .nil
  | cons c name ih =>
    rw [List.forall_mem_cons] at word
    have single : c ≠ '\'' := Text.ne_of_class word.1 (by decide)
    have double : c ≠ '"' := Text.ne_of_class word.1 (by decide)
    exact .plain (Text.ne_of_class word.1 (by decide)) (by simp [Group.isQuote, single, double]) (Text.ne_of_class word.1 (by decide))
      (Text.ne_of_class word.1 (by decide)) (ih word.2)

namespace Query

theorem tokensFrom_name {name : List Char} (valid : IsName name) (rest : List Char) :
    tokensFrom 0 (name ++ rest) = name.map Token.char ++ tokensFrom 0 rest := by
  obtain ⟨some, noSeparator, noOpen, noBlank⟩ := valid
  clear some
  induction name with
  | nil => rfl
  | cons c name ih =>
    rw [List.forall_mem_cons] at noSeparator noBlank
    rw [List.mem_cons, not_or] at noOpen
    rw [List.cons_append, tokensFrom_char _ noSeparator.1 (Ne.symm noOpen.1) noBlank.1,
      ih noSeparator.2 noOpen.2 noBlank.2]
    rfl

/-- The text of a call: a name and the inside of a group. -/
def callText (name inside : List Char) : List Char := name ++ '(' :: inside ++ [')']

/-- The tokens of a call are its name and its group. -/
theorem tokens_callText {name inside : List Char} (valid : IsName name) (balanced : Group.Balanced inside) :
    tokens (callText name inside) = name.map Token.char ++ [Token.group inside] := by
  rw [tokens, callText, List.append_assoc, tokensFrom_name valid, List.cons_append,
    tokensFrom_group _ (Group.upTo?_closed balanced [])]
  have skip := tokensFrom_skip [] (inside ++ [')'])
  rw [List.append_nil, List.length_append] at skip
  rw [show inside.length + 1 = inside.length + [')'].length from rfl, skip]
  rfl

theorem readWithin_call {name inside : List Char} (valid : IsName name) (balanced : Group.Balanced inside) (depth : Nat) :
    readWithin (depth + 1) (callText name inside) =
      (callArguments (readWithin depth) inside).map fun args => ⟨String.ofList name, args⟩ := by
  have single : ∀ connective, Token.separator connective ∉ name.map Token.char ++ [Token.group inside] := by simp
  have call := @term_call (readWithin depth) (callArguments (readWithin depth)) (callText name inside) name valid.some
    inside
  rw [readWithin, tokens_callText valid balanced, segments_single single]
  simp only [call, terms]
  cases callArguments (readWithin depth) inside <;> rfl

theorem startsCall_open {name : List Char} (word : IsWord name) (rest : List Char) :
    startsCall (name ++ '(' :: rest) = true := by
  have stop : Text.isWord '(' = false := by decide +kernel
  have take : (name ++ '(' :: rest).takeWhile Text.isWord = name := by
    rw [List.takeWhile_append_of_pos word.word, List.takeWhile_cons_of_neg (by simp [stop]), List.append_nil]
  have drop : (name ++ '(' :: rest).dropWhile Text.isWord = '(' :: rest := by
    rw [List.dropWhile_append_of_pos word.word, List.dropWhile_cons_of_neg (by simp [stop])]
  simp [startsCall, take, drop, word.some]

theorem startsCall_call {name inside : List Char} (word : IsWord name) : startsCall (callText name inside) = true := by
  rw [callText, List.append_assoc]
  exact startsCall_open word _

end Query

namespace Argument

/-- Only blanks at the ends of a text are dropped. -/
theorem strip_ends {first last : Char} (middle : List Char) (start : Text.isBlank first = false)
    (finish : Text.isBlank last = false) : Text.strip (first :: middle ++ [last]) = first :: middle ++ [last] := by
  simp [Text.strip, Text.stripStart, Text.stripEnd, start, finish]

/-- A call of a word can stand among arguments. -/
theorem isLeaf_call {name inside : List Char} (word : IsWord name) (balanced : Group.Balanced inside) :
    IsLeaf (Query.callText name inside) := by
  have group : Group.Balanced ('(' :: inside ++ [')']) := .group balanced .nil
  have front := balanced_word word.word
  refine ⟨?_, ?_, ?_, ?_⟩
  · rw [Query.callText, List.append_assoc]
    exact front.append group
  · rw [Query.callText, List.append_assoc, pieces_append front, List.cons_append, pieces_group _ balanced]
    have none : Piece.plain ',' ∉ pieces name := fun comma =>
      absurd (word.word _ (mem_of_plain comma)) (by decide)
    simpa [pieces, piecesFrom] using none
  · obtain ⟨some, each⟩ := word
    cases name with
    | nil => exact absurd rfl some
    | cons c name =>
      have start := isBlank_word (each c List.mem_cons_self)
      simpa [Query.callText] using strip_ends (name ++ '(' :: inside) start (show Text.isBlank ')' = false by decide)
  · obtain ⟨some, each⟩ := word
    cases name with
    | nil => exact absurd rfl some
    | cons c name =>
      have first := each c List.mem_cons_self
      exact ⟨c, _, rfl, Text.ne_of_class first (by decide), Text.ne_of_class first (by decide)⟩

end Argument
end ResourceQuery
