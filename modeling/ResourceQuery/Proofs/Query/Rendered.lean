import Mathlib.Data.List.Forall2
import ResourceQuery.Proofs.Query.Parts

/-!
Splitting undoes joining. A nested list of texts is rendered with commas between its items, a
parenthesis on both sides of each inner list, and spaces in front of items and behind them
(`Argument.Rendered`). When no text could be read in another way and no list ends in an empty one
(`Argument.Proper`), splitting a rendering gives the nested list back (`Argument.split_rendered`).
-/
namespace ResourceQuery.Argument

/-- The balanced texts with no comma outside of escapes, quoted texts and groups. -/
inductive Undivided : List Char → Prop
  | empty : Undivided []
  | ordinary {c : Char} (noEscape : c ≠ '\\') (noQuote : Group.isQuote c = false) (noOpen : c ≠ '(') (noClose : c ≠ ')')
      (noComma : c ≠ ',') : Undivided [c]
  | escape (c : Char) : Undivided ['\\', c]
  | quoted {quote : Char} {body : List Char} (mark : Group.isQuote quote = true) (inside : quote ∉ body) :
      Undivided (quote :: body ++ [quote])
  | group {inside : List Char} (body : Group.Generated inside) : Undivided ('(' :: inside ++ [')'])
  | append {first second : List Char} (left : Undivided first) (right : Undivided second) : Undivided (first ++ second)

theorem Undivided.balanced {text : List Char} (undivided : Undivided text) : Group.Balanced text := by
  induction undivided with
  | empty => exact .nil
  | ordinary noEscape noQuote noOpen noClose _ => exact .plain noEscape noQuote noOpen noClose .nil
  | escape c => exact .escape c .nil
  | quoted mark inside => exact .quoted mark inside .nil
  | group body => exact .group (Group.balanced_iff_generated.mpr body) .nil
  | append _ _ left right => exact left.append right

theorem Undivided.single {text : List Char} (undivided : Undivided text) : Piece.plain ',' ∉ pieces text := by
  induction undivided with
  | empty => simp [pieces, piecesFrom]
  | ordinary noEscape noQuote noOpen _ noComma =>
    rw [pieces_plain _ noEscape noQuote noOpen]
    simp [pieces, piecesFrom, Ne.symm noComma]
  | escape c =>
    rw [pieces_escape]
    simp [pieces, piecesFrom]
  | quoted mark inside =>
    rw [List.cons_append, pieces_quoted [] mark inside]
    simp [pieces, piecesFrom]
  | group body =>
    rw [List.cons_append, pieces_group _ (Group.balanced_iff_generated.mpr body)]
    simp [pieces, piecesFrom]
  | append left _ first second =>
    rw [pieces_append left.balanced, List.mem_append, not_or]
    exact ⟨first, second⟩

/-- The text of an argument that is no array: it may be empty, and else has no blank at either end and no
parenthesis at its start. -/
structure IsRaw (raw : List Char) : Prop where
  undivided : Undivided raw
  starts : ∀ c ∈ raw.head?, Text.isBlank c = false ∧ c ≠ '('
  ends : ∀ c ∈ raw.getLast?, Text.isBlank c = false

theorem isRaw_nil : IsRaw [] := ⟨.empty, by simp, by simp⟩

theorem Undivided.isRaw {raw : List Char} (undivided : Undivided raw) {first last : Char} (head : raw.head? = some first)
    (start : Text.isBlank first = false ∧ first ≠ '(') (tail : raw.getLast? = some last)
    (finish : Text.isBlank last = false) : IsRaw raw := by
  refine ⟨undivided, ?_, ?_⟩
  · rw [head]
    rintro c ⟨⟩
    exact start
  · rw [tail]
    rintro c ⟨⟩
    exact finish

/-- The last item of a list is not an empty text. -/
def EndsFilled (items : List Argument) : Prop := items.getLast? ≠ some (.leaf "")

/-- The arguments that are not changed by being written down: each text is one of a single argument, and no
array ends in an empty text. -/
inductive Proper : Argument → Prop
  | leaf {raw : String} (isRaw : IsRaw raw.toList) : Proper (.leaf raw)
  | array {items : List Argument} (each : ∀ item ∈ items, Proper item) (filled : EndsFilled items) : Proper (.array items)

theorem proper_array_iff {items : List Argument} :
    Proper (.array items) ↔ (∀ item ∈ items, item.Proper) ∧ EndsFilled items := by
  constructor
  · rintro ⟨⟩
    exact ⟨‹_›, ‹_›⟩
  · rintro ⟨each, filled⟩
    exact .array each filled

/-- The texts that an argument is written as, with spaces around it and around the items of arrays. -/
inductive Rendered : Argument → List Char → Prop
  | leaf (before : Nat) (raw : String) (after : Nat) :
      Rendered (.leaf raw) (List.replicate before ' ' ++ raw.toList ++ List.replicate after ' ')
  | array (before : Nat) {items : List Argument} {texts : List (List Char)} (each : List.Forall₂ Rendered items texts)
      (after : Nat) :
      Rendered (.array items)
        (List.replicate before ' ' ++ ('(' :: List.intercalate [','] texts ++ [')']) ++ List.replicate after ' ')

theorem undivided_spaces (count : Nat) : Undivided (List.replicate count ' ') := by
  induction count with
  | zero => exact .empty
  | succ count ih =>
    have space : Undivided [' '] := .ordinary (by decide) (by decide) (by decide) (by decide) (by decide)
    exact space.append ih

theorem undivided_texts {items : List Argument} {texts : List (List Char)} (rendered : List.Forall₂ Rendered items texts)
    (each : ∀ item ∈ items, ∀ text, Rendered item text → Undivided text) : ∀ text ∈ texts, Undivided text := by
  induction rendered with
  | nil => simp
  | cons first _ ih =>
    rw [List.forall_mem_cons] at each ⊢
    exact ⟨each.1 _ first, ih each.2⟩

/-- Renderings are texts of single arguments. -/
theorem Rendered.undivided {item : Argument} (proper : item.Proper) (text : List Char) (rendered : Rendered item text) :
    Undivided text := by
  induction proper generalizing text with
  | leaf isRaw =>
    cases rendered with
    | leaf before raw after => exact ((undivided_spaces before).append isRaw.undivided).append (undivided_spaces after)
  | array _ _ ih =>
    cases rendered with
    | @array before items texts each after =>
      have balanced : Group.Balanced (List.intercalate [','] texts) :=
        .intercalate fun text member => (undivided_texts each ih text member).balanced
      exact ((undivided_spaces before).append (.group (Group.balanced_iff_generated.mp balanced))).append
        (undivided_spaces after)

theorem pieces_spaces (count : Nat) (rest : List Char) :
    pieces (List.replicate count ' ' ++ rest) = List.replicate count (Piece.plain ' ') ++ pieces rest := by
  have blank : ∀ c ∈ List.replicate count ' ', Text.isBlank c = true := by
    intro c member
    rw [List.eq_of_mem_replicate member]
    decide
  rw [pieces_blanks blank, List.map_replicate]

theorem strip_spaces {first : Char} {rest : List Char} (start : Text.isBlank first = false)
    (finish : ∀ c ∈ (first :: rest).getLast?, Text.isBlank c = false) (after : Nat) :
    Text.strip (first :: rest ++ List.replicate after ' ') = first :: rest := by
  have blank : ∀ c ∈ List.replicate after ' ', Text.isBlank c = true := by
    intro c member
    rw [List.eq_of_mem_replicate member]
    decide
  obtain ⟨middle, last, whole⟩ : ∃ middle last, first :: rest = middle ++ [last] :=
    ⟨_, _, (List.dropLast_append_getLast (List.cons_ne_nil first rest)).symm⟩
  have solid : Text.isBlank last = false := finish last (by simp [whole])
  have front : Text.stripStart (first :: rest ++ List.replicate after ' ') = first :: rest ++ List.replicate after ' ' := by
    simp [Text.stripStart, start]
  rw [Text.strip, front, Text.stripEnd, List.reverse_append, List.reverse_replicate, List.dropWhile_append_of_pos blank,
    whole, List.reverse_append, List.reverse_singleton, List.singleton_append, List.dropWhile_cons_of_neg (by simp [solid]),
    List.reverse_cons, List.reverse_reverse]

section
variable (nested : List Char → Except Error (List Argument)) (whole : List Char) (isLast : Bool)

theorem ofSegment_spaces (count : Nat) (rest : List Piece) :
    ofSegment nested whole isLast (List.replicate count (Piece.plain ' ') ++ rest) = ofSegment nested whole isLast rest := by
  rw [ofSegment, ofSegment, List.dropWhile_append_of_pos (by simp)]

/-- The segment of a text with spaces around it gives the text, if it is not an empty one at the end. -/
theorem ofSegment_raw {raw : String} (isRaw : IsRaw raw.toList) (filled : isLast = true → raw ≠ "") (before after : Nat) :
    ofSegment nested whole isLast (pieces (List.replicate before ' ' ++ raw.toList ++ List.replicate after ' ')) =
      .ok [.leaf raw] := by
  rw [List.append_assoc, pieces_spaces, ofSegment_spaces]
  cases shape : raw.toList with
  | nil =>
    obtain rfl : raw = "" := String.toList_eq_nil_iff.mp shape
    have notLast : isLast = false := by simpa using filled
    rw [List.nil_append, ← List.append_nil (List.replicate after ' '), pieces_spaces, ofSegment_spaces, notLast]
    rfl
  | cons c rest =>
    rw [shape] at isRaw
    obtain ⟨solid, noOpen⟩ := isRaw.starts c rfl
    have noSpace : c ≠ ' ' := by
      rintro rfl
      exact absurd solid (by decide)
    have balanced : Group.Balanced (c :: (rest ++ List.replicate after ' ')) :=
      isRaw.undivided.balanced.append (undivided_spaces after).balanced
    rw [List.cons_append, ofSegment_text nested whole isLast balanced noOpen noSpace, ← List.cons_append,
      strip_spaces solid isRaw.ends after, ← shape, String.ofList_toList]
    simp [shape]

/-- The segment of an array with spaces around it gives its items. -/
theorem ofSegment_spaced_array {inside : List Char} (balanced : Group.Balanced inside) (before after : Nat) :
    ofSegment nested whole isLast
        (pieces (List.replicate before ' ' ++ ('(' :: inside ++ [')']) ++ List.replicate after ' ')) =
      (nested inside).map fun items => [.array items] := by
  rw [List.append_assoc, pieces_spaces, ofSegment_spaces, List.append_assoc, List.cons_append, List.singleton_append,
    pieces_group _ balanced, ← List.append_nil (List.replicate after ' '), pieces_spaces]
  simpa [pieces, piecesFrom] using ofSegment_group nested whole isLast inside after

end

theorem EndsFilled.tail {item : Argument} {items : List Argument} (filled : EndsFilled (item :: items)) : EndsFilled items := by
  cases items with
  | nil => simp [EndsFilled]
  | cons next rest => rwa [EndsFilled, List.getLast?_cons_cons] at filled

/-- The segments of rendered arguments give the arguments, where `nested` splits what is in arrays. -/
theorem ofSegments_rendered {nested : List Char → Except Error (List Argument)} (whole : List Char) {bound : Nat}
    {items : List Argument} {texts : List (List Char)} (rendered : List.Forall₂ Rendered items texts)
    (proper : ∀ item ∈ items, item.Proper) (filled : EndsFilled items) (short : ∀ text ∈ texts, text.length ≤ bound)
    (arrays : ∀ inner parts, (array inner).Proper → List.Forall₂ Rendered inner parts →
      (List.intercalate [','] parts).length < bound → nested (List.intercalate [','] parts) = .ok inner) :
    ofSegments nested whole (texts.map pieces) = .ok items := by
  induction rendered with
  | nil => rfl
  | @cons item text items texts first rest ih =>
    rw [List.forall_mem_cons] at proper short
    have later := ih proper.2 filled.tail short.2
    have head : ofSegment nested whole (texts.map pieces).isEmpty (pieces text) = .ok [item] := by
      cases first with
      | leaf before raw after =>
        obtain ⟨isRaw⟩ := proper.1
        refine ofSegment_raw nested whole _ isRaw ?_ before after
        rintro last rfl
        obtain rfl : texts = [] := by simpa using last
        cases rest
        exact filled rfl
      | @array before inner parts each after =>
        have undivided := undivided_texts each fun item member => Rendered.undivided ((proper_array_iff.mp proper.1).1 item member)
        have balanced := Group.Balanced.intercalate fun text member => (undivided text member).balanced
        have shorter := short.1
        simp only [List.length_append, List.length_cons] at shorter
        rw [ofSegment_spaced_array _ _ _ balanced, arrays inner parts proper.1 each (by omega)]
        rfl
    rw [List.map_cons, ofSegments, head, Outcome.ok_bind, later]
    rfl

/-- Rendered arguments are split again. -/
theorem splitWithin_rendered {items : List Argument} {texts : List (List Char)} (rendered : List.Forall₂ Rendered items texts)
    (proper : (array items).Proper) {depth : Nat} (deep : (List.intercalate [','] texts).length < depth) :
    splitWithin depth (List.intercalate [','] texts) = .ok items := by
  induction depth generalizing items texts with
  | zero => omega
  | succ depth ih =>
    obtain ⟨each, filled⟩ := proper_array_iff.mp proper
    have undivided := undivided_texts rendered fun item member => Rendered.undivided (each item member)
    cases rendered with
    | nil => rfl
    | cons first rest =>
      rw [splitWithin, segments_intercalate (by simp) (fun text member => (undivided text member).balanced)
        fun text member => (undivided text member).single]
      refine ofSegments_rendered _ (.cons first rest) each filled (fun text member => length_le_intercalate member) ?_
      intro inner parts inside again shorter
      exact ih again inside (by omega)

/-- **Splitting undoes joining.** Arguments of any shape, with commas between them and spaces around them, are
split into the same arguments: none is lost, merged with another one, put twice or moved. -/
theorem split_rendered {items : List Argument} {texts : List (List Char)} (rendered : List.Forall₂ Rendered items texts)
    (proper : (array items).Proper) : split (List.intercalate [','] texts) = .ok items :=
  splitWithin_rendered rendered proper (Nat.lt_succ_self _)

/-- An array with a quoted comma, an empty array, an empty text and a call, before an empty text and an
escape. -/
theorem split_rendered_nested :
    ∃ (items : List Argument) (texts : List (List Char)),
      items = [.array [.leaf "',)'", .array [], .leaf "", .leaf "f(1,2)"], .leaf "", .leaf "\\,c"] ∧
      List.intercalate [','] texts =
        ['(', ' ', '\'', ',', ')', '\'', ' ', ',', '(', ')', ' ', ',', ' ', ',', 'f', '(', '1', ',', '2', ')', ')', ' ', ',',
          ' ', ' ', ',', '\\', ',', 'c', ' '] ∧
      List.Forall₂ Rendered items texts ∧ (array items).Proper ∧ split (List.intercalate [','] texts) = .ok items := by
  have quoted : Undivided ('\'' :: [',', ')'] ++ ['\'']) := .quoted rfl (by decide)
  have quoted : Proper (.leaf "',)'") := .leaf (quoted.isRaw rfl (by decide) rfl rfl)
  have char {c : Char} (plain : c ≠ '\\' ∧ Group.isQuote c = false ∧ c ≠ '(' ∧ c ≠ ')') : Group.Generated [c] :=
    .ordinary plain.1 plain.2.1 plain.2.2.1 plain.2.2.2
  have inside : Group.Generated (['1'] ++ ([','] ++ ['2'])) :=
    (char (by decide)).append ((char (by decide)).append (char (by decide)))
  have name : Undivided ['f'] := .ordinary (by decide) (by decide) (by decide) (by decide) (by decide)
  have call : Proper (.leaf "f(1,2)") := .leaf ((name.append (.group inside)).isRaw rfl (by decide) rfl rfl)
  have empty : Proper (.leaf "") := .leaf isRaw_nil
  have last : Undivided ['c'] := .ordinary (by decide) (by decide) (by decide) (by decide) (by decide)
  have escape : Proper (.leaf "\\,c") := .leaf (((Undivided.escape ',').append last).isRaw rfl (by decide) rfl rfl)
  have inner : Proper (.array [.leaf "',)'", .array [], .leaf "", .leaf "f(1,2)"]) := by
    rw [proper_array_iff]
    simp [quoted, call, empty, proper_array_iff, EndsFilled]
  have proper : Proper (.array [.array [.leaf "',)'", .array [], .leaf "", .leaf "f(1,2)"], .leaf "", .leaf "\\,c"]) := by
    rw [proper_array_iff]
    simp [inner, empty, escape, EndsFilled]
  have rendered := List.Forall₂.cons
    (Rendered.array 0 (.cons (.leaf 1 "',)'" 1) (.cons (.array 0 .nil 1) (.cons (.leaf 1 "" 0) (.cons (.leaf 0 "f(1,2)" 0) .nil)))) 1)
    (.cons (Rendered.leaf 2 "" 0) (.cons (Rendered.leaf 0 "\\,c" 1) .nil))
  exact ⟨_, _, rfl, rfl, rendered, proper, split_rendered rendered proper⟩

end ResourceQuery.Argument
