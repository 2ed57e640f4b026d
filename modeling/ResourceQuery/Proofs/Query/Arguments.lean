import ResourceQuery.Proofs.Outcome
import ResourceQuery.Proofs.Query.Balanced
import ResourceQuery.Query.Argument

/-!
Arguments written and split. An argument is written as its text, and an array as its items in
parentheses with commas between them (`written`). When every text is balanced, not empty and
without a plain comma, splitting what was written gives the arguments back (`splitWithin_written`).
-/
namespace ResourceQuery.Argument

section
variable {c : Char} (rest : List Char)

theorem pieces_plain (noEscape : c ≠ '\\') (noQuote : Group.isQuote c = false) (noOpen : c ≠ '(') :
    pieces (c :: rest) = .plain c :: pieces rest := by
  rw [pieces, piecesFrom.eq_def]
  simp [noEscape, noQuote, noOpen, pieces]

theorem pieces_escape : pieces ('\\' :: c :: rest) = .kept ['\\', c] :: pieces rest := by
  rw [pieces, piecesFrom.eq_def]
  simp [piecesFrom, pieces]

theorem pieces_closed {inside : List Char} (closed : Group.upTo? 0 none (inside ++ ')' :: rest) = some inside) :
    pieces ('(' :: (inside ++ ')' :: rest)) = .group inside :: pieces rest := by
  have noQuote : Group.isQuote '(' = false := by decide
  have skip : ∀ text : List Char, piecesFrom (text.length + 1) none (text ++ ')' :: rest) = pieces rest := by
    intro text
    induction text with
    | nil => rfl
    | cons c text ih => simpa [piecesFrom] using ih
  rw [pieces, piecesFrom.eq_def]
  simp [noQuote, closed, skip]

theorem pieces_group {inside : List Char} (balanced : Group.Balanced inside) :
    pieces ('(' :: (inside ++ ')' :: rest)) = .group inside :: pieces rest :=
  pieces_closed rest (Group.upTo?_closed balanced rest)

theorem piecesFrom_quoted {quote : Char} {body : List Char} (inside : quote ∉ body) :
    piecesFrom 0 (some quote) (body ++ quote :: rest) = (body ++ [quote]).map (fun c => Piece.kept [c]) ++ pieces rest := by
  induction body with
  | nil => simp [piecesFrom, pieces]
  | cons c body ih =>
    rw [List.mem_cons, not_or] at inside
    simp [piecesFrom, Ne.symm inside.1, ih inside.2]

theorem pieces_quoted {quote : Char} {body : List Char} (mark : Group.isQuote quote = true) (inside : quote ∉ body) :
    pieces (quote :: (body ++ quote :: rest)) = (quote :: (body ++ [quote])).map (fun c => Piece.kept [c]) ++ pieces rest := by
  have noEscape : quote ≠ '\\' := by
    rintro rfl
    exact absurd mark (by decide)
  rw [pieces, piecesFrom.eq_def]
  simp [noEscape, mark, piecesFrom_quoted rest inside]

end

/-- The pieces of a balanced text stay as they are when more text follows. -/
theorem pieces_append {text : List Char} (balanced : Group.Balanced text) (rest : List Char) :
    pieces (text ++ rest) = pieces text ++ pieces rest := by
  induction balanced with
  | nil => rfl
  | plain noEscape noQuote noOpen _ _ ih =>
    rw [List.cons_append, pieces_plain _ noEscape noQuote noOpen, pieces_plain _ noEscape noQuote noOpen, ih]
    rfl
  | escape c _ ih =>
    rw [List.cons_append, List.cons_append, pieces_escape, pieces_escape, ih]
    rfl
  | quoted mark inside _ ih =>
    simp only [List.cons_append, List.append_assoc]
    rw [pieces_quoted _ mark inside, pieces_quoted _ mark inside, ih, List.append_assoc]
  | group body _ _ ih =>
    simp only [List.cons_append, List.append_assoc]
    rw [pieces_group _ body, pieces_group _ body, ih]
    rfl

/-- A plain piece is a character of the text. -/
theorem mem_of_plain {skip : Nat} {quote : Option Char} {text : List Char} {c : Char}
    (member : Piece.plain c ∈ piecesFrom skip quote text) : c ∈ text := by
  fun_induction piecesFrom skip quote text with
  | case1 => cases member
  | case2 skip quote d rest ih => exact List.mem_cons_of_mem _ (ih member)
  | case3 quote d rest ih => exact List.mem_cons_of_mem _ (ih (by simpa using member))
  | case4 rest ih => exact List.mem_cons_of_mem _ (ih (by simpa using member))
  | case5 d rest noEscape mark ih => exact List.mem_cons_of_mem _ (ih (by simpa using member))
  | case6 rest inside closed noEscape noQuote ih => exact List.mem_cons_of_mem _ (ih (by simpa using member))
  | case7 rest open_ noEscape noQuote => simp at member
  | case8 d rest noEscape noQuote noOpen ih =>
    rcases List.mem_cons.mp member with same | later
    · cases same
      exact List.mem_cons_self
    · exact List.mem_cons_of_mem _ (ih later)

theorem textOf_kept (text : List Char) {rest : List Piece} {after : List Char} (read : textOf rest = .ok after) :
    textOf (text.map (fun c => Piece.kept [c]) ++ rest) = .ok (text ++ after) := by
  induction text with
  | nil => exact read
  | cons c text ih => simp [textOf, ih, Piece.text]

/-- The pieces of a balanced text hold the whole text. -/
theorem textOf_pieces {text : List Char} (balanced : Group.Balanced text) : textOf (pieces text) = .ok text := by
  induction balanced with
  | nil => rfl
  | plain noEscape noQuote noOpen _ _ ih => simp [pieces_plain _ noEscape noQuote noOpen, textOf, ih, Piece.text]
  | escape c _ ih => simp [pieces_escape, textOf, ih, Piece.text]
  | quoted mark inside _ ih =>
    rw [List.cons_append, pieces_quoted _ mark inside, textOf_kept _ ih]
    simp
  | group body _ _ ih => simp [pieces_group _ body, textOf, ih, Piece.text]

theorem segments_single {line : List Piece} (single : Piece.plain ',' ∉ line) : segments line = [line] := by
  induction line with
  | nil => rfl
  | cons piece line ih =>
    rw [List.mem_cons, not_or] at single
    simp [segments, Ne.symm single.1, ih single.2]

theorem segments_append {line : List Piece} (single : Piece.plain ',' ∉ line) (rest : List Piece) :
    segments (line ++ .plain ',' :: rest) = line :: segments rest := by
  induction line with
  | nil => simp [segments]
  | cons piece line ih =>
    rw [List.mem_cons, not_or] at single
    simp [segments, Ne.symm single.1, ih single.2]

/-- Balanced texts without plain commas, with commas between them, are told apart. -/
theorem segments_intercalate {texts : List (List Char)} (some : texts ≠ [])
    (balanced : ∀ text ∈ texts, Group.Balanced text) (single : ∀ text ∈ texts, Piece.plain ',' ∉ pieces text) :
    segments (pieces (List.intercalate [','] texts)) = texts.map pieces := by
  induction texts with
  | nil => exact absurd rfl some
  | cons text texts ih =>
    rw [List.forall_mem_cons] at balanced single
    cases texts with
    | nil => simpa using segments_single single.1
    | cons next rest =>
      have comma : pieces (',' :: List.intercalate [','] (next :: rest)) =
          .plain ',' :: pieces (List.intercalate [','] (next :: rest)) :=
        pieces_plain _ (by decide) (by decide) (by decide)
      rw [List.intercalate_cons_cons, List.append_assoc, List.singleton_append, pieces_append balanced.1, comma,
        segments_append single.1, ih (by simp) balanced.2 single.2]
      rfl

mutual

/-- The text that an argument is written as. -/
def written : Argument → List Char
  | .leaf raw => raw.toList
  | .array items => '(' :: List.intercalate [','] (writtenAll items) ++ [')']
termination_by structural arg => arg

def writtenAll : List Argument → List (List Char)
  | [] => []
  | item :: rest => written item :: writtenAll rest
termination_by structural items => items

end

/-- The text of an argument that is no array: balanced, without a plain comma, not empty, without
blanks around it and with no parenthesis at its start. -/
structure IsLeaf (raw : List Char) : Prop where
  balanced : Group.Balanced raw
  single : Piece.plain ',' ∉ pieces raw
  stripped : Text.strip raw = raw
  starts : ∃ c rest, raw = c :: rest ∧ c ≠ '(' ∧ c ≠ ' '

mutual

/-- All texts in an argument are such texts. -/
def Tidy : Argument → Prop
  | .leaf raw => IsLeaf raw.toList
  | .array items => AllTidy items
termination_by structural arg => arg

def AllTidy : List Argument → Prop
  | [] => True
  | item :: rest => Tidy item ∧ AllTidy rest
termination_by structural items => items

end

theorem allTidy_iff {items : List Argument} : AllTidy items ↔ ∀ item ∈ items, Tidy item := by
  induction items with
  | nil => simp [AllTidy]
  | cons item rest ih => simp [AllTidy, ih]

mutual

theorem written_balanced : ∀ {item : Argument}, Tidy item → Group.Balanced item.written
  | .leaf _, tidy => IsLeaf.balanced tidy
  | .array _, tidy => .group (.intercalate (writtenAll_balanced tidy)) .nil

theorem writtenAll_balanced : ∀ {items : List Argument}, AllTidy items →
    ∀ text ∈ writtenAll items, Group.Balanced text
  | [], _ => by simp [writtenAll]
  | item :: rest, tidy => by
    rw [writtenAll, List.forall_mem_cons]
    exact ⟨written_balanced tidy.1, writtenAll_balanced tidy.2⟩

end

theorem written_single : ∀ {item : Argument}, Tidy item → Piece.plain ',' ∉ pieces item.written
  | .leaf _, tidy => IsLeaf.single tidy
  | .array _, tidy => by
    rw [written, List.cons_append, pieces_group _ (.intercalate (writtenAll_balanced tidy))]
    simp [pieces, piecesFrom]

theorem writtenAll_single {items : List Argument} (tidy : AllTidy items) :
    ∀ text ∈ writtenAll items, Piece.plain ',' ∉ pieces text := by
  induction items with
  | nil => simp [writtenAll]
  | cons item rest ih =>
    rw [writtenAll, List.forall_mem_cons]
    exact ⟨written_single tidy.1, ih tidy.2⟩

/-! ### Splitting -/

section
variable (nested : List Char → Except Error (List Argument)) (whole : List Char) (isLast : Bool)

/-- The first piece of a text that starts with neither a space nor a parenthesis. -/
theorem pieces_start {c : Char} (rest : List Char) (noOpen : c ≠ '(') (noSpace : c ≠ ' ') :
    ∃ piece line, pieces (c :: rest) = piece :: line ∧ piece ≠ .plain ' ' ∧ ∀ inside, piece ≠ .group inside := by
  by_cases escape : c = '\\'
  · rw [pieces, piecesFrom.eq_def]
    exact ⟨_, _, by simp only [escape, if_true]; rfl, by simp, by simp⟩
  · by_cases quote : Group.isQuote c = true
    · rw [pieces, piecesFrom.eq_def]
      exact ⟨_, _, by simp only [escape, quote, if_true, if_false]; rfl, by simp, by simp⟩
    · rw [pieces_plain _ escape (by simpa using quote) noOpen]
      exact ⟨_, _, rfl, by simpa using noSpace, by simp⟩

/-- The segment of a text gives the text without the blanks around it. -/
theorem ofSegment_text {c : Char} {rest : List Char} (balanced : Group.Balanced (c :: rest)) (noOpen : c ≠ '(')
    (noSpace : c ≠ ' ') :
    ofSegment nested whole isLast (pieces (c :: rest)) =
      .ok (if isLast && (Text.strip (c :: rest)).isEmpty then [] else [.leaf (String.ofList (Text.strip (c :: rest)))]) := by
  have read := textOf_pieces balanced
  obtain ⟨piece, line, parts, noBlank, noGroup⟩ := pieces_start rest noOpen noSpace
  have start : (pieces (c :: rest)).dropWhile (· = .plain ' ') = piece :: line := by
    rw [parts, List.dropWhile_cons_of_neg (by simpa using noBlank)]
  rw [parts] at read
  rw [ofSegment, start]
  split
  · rename_i inside others same
    exact absurd (List.cons.inj same).1 (noGroup inside)
  · rw [read]
    rfl

/-- The segment of a text without blanks around it gives the text. -/
theorem ofSegment_leaf {raw : List Char} (leaf : IsLeaf raw) :
    ofSegment nested whole isLast (pieces raw) = .ok [.leaf (String.ofList raw)] := by
  obtain ⟨c, rest, rfl, noOpen, noSpace⟩ := leaf.starts
  rw [ofSegment_text nested whole isLast leaf.balanced noOpen noSpace, leaf.stripped]
  simp

theorem nothingAfter_spaces (after : Nat) : nothingAfter whole (List.replicate after (.plain ' ')) = .ok () := by
  induction after with
  | zero => rfl
  | succ after ih => simpa [List.replicate_succ, nothingAfter] using ih

/-- The segment of an array, perhaps with spaces behind it, gives its items. -/
theorem ofSegment_group (inside : List Char) (after : Nat) :
    ofSegment nested whole isLast (.group inside :: List.replicate after (.plain ' ')) =
      (nested inside).map fun items => [.array items] := by
  rw [ofSegment, List.dropWhile_cons_of_neg (by simp)]
  cases read : nested inside with
  | error fault => simp [read]
  | ok items => simp [read, nothingAfter_spaces]

/-- The segment of an array gives its items. -/
theorem ofSegment_array {inside : List Char} (balanced : Group.Balanced inside) :
    ofSegment nested whole isLast (pieces ('(' :: inside ++ [')'])) =
      (nested inside).map fun items => [.array items] := by
  rw [List.cons_append, pieces_group _ balanced]
  exact ofSegment_group nested whole isLast inside 0

end

/-- The segments of written arguments give the arguments, where `nested` splits the arrays. -/
theorem ofSegments_written {nested : List Char → Except Error (List Argument)} (whole : List Char) :
    ∀ {items : List Argument}, AllTidy items →
      (∀ inner, array inner ∈ items → nested (List.intercalate [','] (writtenAll inner)) = .ok inner) →
      ofSegments nested whole ((writtenAll items).map pieces) = .ok items
  | [], _, _ => rfl
  | item :: rest, tidy, arrays => by
    have later := ofSegments_written whole tidy.2 fun inner member => arrays inner (List.mem_cons_of_mem _ member)
    have head : ∀ isLast, ofSegment nested whole isLast (pieces item.written) = .ok [item] := by
      intro isLast
      cases item with
      | leaf raw => simpa [written] using ofSegment_leaf nested whole isLast tidy.1
      | array inner =>
        rw [written, ofSegment_array _ _ _ (.intercalate (writtenAll_balanced tidy.1)),
          arrays inner List.mem_cons_self]
        rfl
    rw [writtenAll, List.map_cons, ofSegments, head, Outcome.ok_bind, later]
    rfl

theorem writtenAll_array {inner items : List Argument} (member : array inner ∈ items) :
    '(' :: List.intercalate [','] (writtenAll inner) ++ [')'] ∈ writtenAll items := by
  induction items with
  | nil => cases member
  | cons item rest ih =>
    rw [writtenAll]
    rcases List.mem_cons.mp member with rfl | later
    · exact List.mem_cons_self
    · exact List.mem_cons_of_mem _ (ih later)

theorem length_le_intercalate {text : List Char} {texts : List (List Char)} (member : text ∈ texts) :
    text.length ≤ (List.intercalate [','] texts).length := by
  induction texts with
  | nil => cases member
  | cons first texts ih =>
    cases texts with
    | nil =>
      obtain rfl : text = first := by simpa using member
      simp
    | cons next rest =>
      rw [List.intercalate_cons_cons]
      rcases List.mem_cons.mp member with rfl | later
      · simp
      · have shorter := ih later
        simp only [List.length_append]
        omega

/-- Arguments that were written are split again. -/
theorem splitWithin_written {items : List Argument} (tidy : AllTidy items) {depth : Nat}
    (deep : (List.intercalate [','] (writtenAll items)).length < depth) :
    splitWithin depth (List.intercalate [','] (writtenAll items)) = .ok items := by
  induction depth generalizing items with
  | zero => omega
  | succ depth ih =>
    cases items with
    | nil => rfl
    | cons item rest =>
      have some : writtenAll (item :: rest) ≠ [] := by simp [writtenAll]
      rw [splitWithin, segments_intercalate some (writtenAll_balanced tidy) (writtenAll_single tidy)]
      refine ofSegments_written _ tidy fun inner member => ih (allTidy_iff.mp tidy _ member) ?_
      have shorter := length_le_intercalate (writtenAll_array member)
      simp only [List.length_append, List.length_cons] at shorter
      omega

theorem split_written {items : List Argument} (tidy : AllTidy items) :
    split (List.intercalate [','] (writtenAll items)) = .ok items :=
  splitWithin_written tidy (Nat.lt_succ_self _)

end ResourceQuery.Argument
