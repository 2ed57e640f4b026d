import Mathlib.Data.List.TakeWhile
import ResourceQuery.Proofs.Query.Arguments
import ResourceQuery.Query.Parser

/-!
The parts that a text is taken apart into. Groups and the texts of arguments stand in the text as
they are, and the text of an argument has no plain comma (`Argument.split_cut`); names hold no
characters but those of the text.
-/
namespace ResourceQuery.Argument

theorem pieces_blank {c : Char} (blank : Text.isBlank c = true) (rest : List Char) :
    pieces (c :: rest) = .plain c :: pieces rest := by
  have single : c ≠ '\'' := Text.ne_of_class blank (by decide)
  have double : c ≠ '"' := Text.ne_of_class blank (by decide)
  exact pieces_plain _ (Text.ne_of_class blank (by decide)) (by simp [Group.isQuote, single, double])
    (Text.ne_of_class blank (by decide))

/-- A plain piece divides the text: what comes before it and what comes behind it are the pieces of
the two parts. -/
theorem piecesFrom_divide {skip : Nat} {quote : Option Char} {text : List Char} {before after : List Piece} {c : Char}
    (split : piecesFrom skip quote text = before ++ .plain c :: after) :
    ∃ first last, text = first ++ c :: last ∧ skip ≤ first.length ∧ piecesFrom skip quote first = before ∧
      pieces last = after := by
  fun_induction piecesFrom skip quote text generalizing before with
  | case1 => simp at split
  | case2 skip quote d rest ih =>
    obtain ⟨first, last, rfl, longer, left, right⟩ := ih split
    exact ⟨d :: first, last, rfl, Nat.succ_le_succ longer, left, right⟩
  | case3 quote d rest ih =>
    obtain _ | ⟨piece, before⟩ := before
    · simp at split
    · obtain ⟨rfl, later⟩ := List.cons.inj split
      obtain ⟨first, last, rfl, _, left, right⟩ := ih later
      exact ⟨d :: first, last, rfl, Nat.zero_le _, by rw [piecesFrom, left], right⟩
  | case4 rest ih =>
    obtain _ | ⟨piece, before⟩ := before
    · simp at split
    · obtain ⟨rfl, later⟩ := List.cons.inj split
      obtain ⟨first, last, rfl, longer, left, right⟩ := ih later
      refine ⟨'\\' :: first, last, rfl, Nat.zero_le _, ?_, right⟩
      rw [piecesFrom.eq_def]
      simp [left, List.take_append_of_le_length longer]
  | case5 d rest noEscape mark ih =>
    obtain _ | ⟨piece, before⟩ := before
    · simp at split
    · obtain ⟨rfl, later⟩ := List.cons.inj split
      obtain ⟨first, last, rfl, _, left, right⟩ := ih later
      refine ⟨d :: first, last, rfl, Nat.zero_le _, ?_, right⟩
      rw [piecesFrom.eq_def]
      simp [left, noEscape, mark]
  | case6 rest inside closed noEscape noQuote ih =>
    obtain _ | ⟨piece, before⟩ := before
    · simp at split
    · obtain ⟨rfl, later⟩ := List.cons.inj split
      obtain ⟨first, last, rfl, longer, left, right⟩ := ih later
      obtain ⟨tail, whole, stable⟩ := Group.upTo?_eq_some closed
      obtain ⟨more, start⟩ : inside ++ [')'] <+: first := by
        have opened : inside ++ [')'] <+: first ++ c :: last := ⟨tail, by simp [whole]⟩
        exact List.prefix_of_prefix_length_le opened ⟨_, rfl⟩ (by simpa using longer)
      have same : Group.upTo? 0 none first = some inside := by
        rw [← start, List.append_assoc]
        exact stable more
      refine ⟨'(' :: first, last, rfl, Nat.zero_le _, ?_, right⟩
      rw [piecesFrom.eq_def]
      simp [left, noQuote, same]
  | case7 rest open_ noEscape noQuote =>
    obtain _ | ⟨piece, before⟩ := before
    · simp at split
    · simp at split
  | case8 d rest noEscape noQuote noOpen ih =>
    obtain _ | ⟨piece, before⟩ := before
    · obtain ⟨same, later⟩ := List.cons.inj split
      cases same
      exact ⟨[], rest, rfl, Nat.le_refl _, rfl, later⟩
    · obtain ⟨rfl, later⟩ := List.cons.inj split
      obtain ⟨first, last, rfl, _, left, right⟩ := ih later
      refine ⟨d :: first, last, rfl, Nat.zero_le _, ?_, right⟩
      rw [piecesFrom.eq_def]
      simp [left, noEscape, noQuote, noOpen]

/-- A plain piece stays one when more text follows. -/
theorem plain_append {skip : Nat} {quote : Option Char} {text : List Char} {c : Char}
    (member : Piece.plain c ∈ piecesFrom skip quote text) (more : List Char) :
    Piece.plain c ∈ piecesFrom skip quote (text ++ more) := by
  fun_induction piecesFrom skip quote text with
  | case1 => cases member
  | case2 skip quote d rest ih => exact ih member
  | case3 quote d rest ih => exact List.mem_cons_of_mem _ (ih (by simpa using member))
  | case4 rest ih =>
    rw [List.cons_append, piecesFrom.eq_def]
    simpa using ih (by simpa using member)
  | case5 d rest noEscape mark ih =>
    rw [List.cons_append, piecesFrom.eq_def]
    simpa [noEscape, mark] using ih (by simpa using member)
  | case6 rest inside closed noEscape noQuote ih =>
    rw [List.cons_append, piecesFrom.eq_def]
    simpa [noEscape, noQuote, Group.upTo?_append closed more] using ih (by simpa using member)
  | case7 rest open_ noEscape noQuote => simp at member
  | case8 d rest noEscape noQuote noOpen ih =>
    rw [List.cons_append, piecesFrom.eq_def]
    simpa [noEscape, noQuote, noOpen] using (List.mem_cons.mp member).imp id ih

theorem piecesFrom_text (skip : Nat) (quote : Option Char) (text : List Char) :
    (piecesFrom skip quote text).flatMap Piece.text = text.drop skip := by
  fun_induction piecesFrom skip quote text with
  | case1 => simp
  | case2 skip quote c rest ih => simpa using ih
  | case3 quote c rest ih => simp [ih, Piece.text]
  | case4 rest ih =>
    simp only [List.flatMap_cons, ih, Piece.text, List.cons_append, List.take_append_drop]
    rfl
  | case5 c rest noEscape mark ih => simp [ih, Piece.text]
  | case6 rest inside closed noEscape noQuote ih =>
    obtain ⟨after, rfl, _⟩ := Group.upTo?_eq_some closed
    simp [ih, Piece.text]
  | case7 rest open_ noEscape noQuote => simp [Piece.text]
  | case8 c rest noEscape noQuote noOpen ih => simp [ih, Piece.text]

theorem textOf_eq_ok {line : List Piece} {text : List Char} (done : textOf line = .ok text) :
    text = line.flatMap Piece.text := by
  fun_induction textOf line generalizing text with
  | case1 =>
    cases done
    rfl
  | case2 opened rest => cases done
  | case3 piece rest noOpened ih =>
    obtain ⟨tail, others, same⟩ := Outcome.bind_eq_ok_iff.mp done
    cases same
    rw [ih others, List.flatMap_cons]

/-- The pieces of a text make up the text. -/
theorem pieces_text (text : List Char) : (pieces text).flatMap Piece.text = text := piecesFrom_text 0 none text

/-- A group at the start of a text stands in it. -/
theorem group_within {text inside : List Char} {rest : List Piece} (first : pieces text = .group inside :: rest) :
    inside <:+: text := by
  have whole := pieces_text text
  rw [first, List.flatMap_cons, Piece.text] at whole
  exact ⟨['('], ')' :: rest.flatMap Piece.text, by simpa using whole⟩

/-- A part of a text that has no plain commas. -/
structure Cut (whole part : List Char) : Prop where
  inside : part <:+: whole
  single : Piece.plain ',' ∉ pieces part

theorem Cut.chars {whole part : List Char} (cut : Cut whole part) : ∀ c ∈ part, c ∈ whole := fun _ member =>
  cut.inside.subset member

/-- A segment is the pieces of a part of the text. -/
theorem segments_cut (text : List Char) {segment : List Piece} (member : segment ∈ segments (pieces text)) :
    ∃ part, segment = pieces part ∧ Cut text part := by
  by_cases comma : Piece.plain ',' ∈ pieces text
  · obtain ⟨before, after, split, single⟩ := List.eq_append_cons_of_mem comma
    obtain ⟨first, last, whole, _, left, right⟩ := piecesFrom_divide split
    rw [split, segments_append single] at member
    rcases List.mem_cons.mp member with rfl | later
    · exact ⟨first, left.symm, ⟨[], ',' :: last, by simp [whole]⟩, by rwa [pieces, left]⟩
    · rw [← right] at later
      obtain ⟨part, same, cut⟩ := segments_cut last later
      exact ⟨part, same, cut.inside.trans ⟨first ++ [','], [], by simp [whole]⟩, cut.single⟩
  · rw [segments_single comma, List.mem_singleton] at member
    exact ⟨text, member, List.infix_rfl, comma⟩
termination_by text.length
decreasing_by simp [whole]; omega

/-- Without the spaces in front, the pieces of a text are those of a part of it. -/
theorem dropWhile_cut (text : List Char) (single : Piece.plain ',' ∉ pieces text) :
    ∃ part, (pieces text).dropWhile (· = .plain ' ') = pieces part ∧ Cut text part := by
  have split := List.takeWhile_append_dropWhile (p := (· = .plain ' ')) (l := pieces text)
  rcases List.eq_nil_or_concat ((pieces text).takeWhile (· = .plain ' ')) with none | ⟨before, last, spaces⟩
  · rw [none] at split
    exact ⟨text, split, List.infix_rfl, single⟩
  · have inside : last ∈ (pieces text).takeWhile (· = .plain ' ') := by simp [spaces]
    have space : last = .plain ' ' := by simpa using List.mem_takeWhile_imp inside
    rw [spaces, space, List.concat_eq_append, List.append_assoc] at split
    obtain ⟨first, part, rfl, _, _, right⟩ := piecesFrom_divide split.symm
    refine ⟨part, right.symm, ⟨first ++ [' '], [], by simp⟩, fun comma => single ?_⟩
    rw [right] at comma
    rw [← split]
    exact List.mem_append_right _ (List.mem_cons_of_mem _ comma)

theorem strip_split (text : List Char) : ∃ before after, text = before ++ Text.strip text ++ after ∧
    (∀ c ∈ before, Text.isBlank c = true) ∧ ∀ c ∈ after, Text.isBlank c = true := by
  refine ⟨text.takeWhile Text.isBlank, ((Text.stripStart text).reverse.takeWhile Text.isBlank).reverse, ?_, ?_, ?_⟩
  · have back := List.takeWhile_append_dropWhile (p := Text.isBlank) (l := (Text.stripStart text).reverse)
    have whole := congrArg List.reverse back
    rw [List.reverse_append, List.reverse_reverse] at whole
    rw [Text.strip, Text.stripEnd, List.append_assoc, whole, Text.stripStart, List.takeWhile_append_dropWhile]
  · exact fun c member => List.mem_takeWhile_imp member
  · exact fun c member => List.mem_takeWhile_imp (List.mem_reverse.mp member)

theorem pieces_blanks {before : List Char} (blank : ∀ c ∈ before, Text.isBlank c = true) (rest : List Char) :
    pieces (before ++ rest) = before.map .plain ++ pieces rest := by
  induction before with
  | nil => rfl
  | cons c before ih =>
    rw [List.forall_mem_cons] at blank
    rw [List.cons_append, pieces_blank blank.1, ih blank.2]
    rfl

theorem Cut.strip {whole part : List Char} (cut : Cut whole part) : Cut whole (Text.strip part) := by
  obtain ⟨before, after, split, blank, _⟩ := strip_split part
  refine ⟨List.IsInfix.trans ⟨before, after, split.symm⟩ cut.inside, fun comma => cut.single ?_⟩
  rw [split, List.append_assoc, pieces_blanks blank]
  exact List.mem_append_right _ (plain_append comma after)

mutual

/-- Whether all texts in an argument are cut from a text. -/
def CutFrom (whole : List Char) : Argument → Prop
  | .leaf raw => Cut whole raw.toList
  | .array items => AllCutFrom whole items
termination_by structural arg => arg

def AllCutFrom (whole : List Char) : List Argument → Prop
  | [] => True
  | item :: rest => CutFrom whole item ∧ AllCutFrom whole rest
termination_by structural items => items

end

theorem Cut.widen {part whole larger : List Char} (inside : whole <:+: larger) (cut : Cut whole part) :
    Cut larger part := ⟨cut.inside.trans inside, cut.single⟩

mutual

theorem CutFrom.widen {whole larger : List Char} (inside : whole <:+: larger) :
    ∀ {item : Argument}, CutFrom whole item → CutFrom larger item
  | .leaf _, cut => Cut.widen inside cut
  | .array _, cut => AllCutFrom.widen inside cut

theorem AllCutFrom.widen {whole larger : List Char} (inside : whole <:+: larger) :
    ∀ {items : List Argument}, AllCutFrom whole items → AllCutFrom larger items
  | [], _ => trivial
  | _ :: _, cut => ⟨CutFrom.widen inside cut.1, AllCutFrom.widen inside cut.2⟩

end

theorem AllCutFrom.append {whole : List Char} {first second : List Argument} (left : AllCutFrom whole first)
    (right : AllCutFrom whole second) : AllCutFrom whole (first ++ second) := by
  induction first with
  | nil => exact right
  | cons item first ih => exact ⟨left.1, ih left.2⟩

section
variable {nested : List Char → Except Error (List Argument)}

theorem ofSegment_cut (inner : ∀ inside items, nested inside = .ok items → AllCutFrom inside items) {whole : List Char}
    {isLast : Bool} {text : List Char} (single : Piece.plain ',' ∉ pieces text) {items : List Argument}
    (done : ofSegment nested whole isLast (pieces text) = .ok items) : AllCutFrom text items := by
  obtain ⟨part, same, cut⟩ := dropWhile_cut text single
  rw [ofSegment, same] at done
  split at done
  · rename_i inside rest group
    obtain ⟨values, read, later⟩ := Outcome.bind_eq_ok_iff.mp done
    obtain ⟨_, _, same⟩ := Outcome.bind_eq_ok_iff.mp later
    cases same
    exact ⟨AllCutFrom.widen ((group_within group).trans cut.inside) (inner _ _ read), trivial⟩
  · obtain ⟨read, taken, later⟩ := Outcome.bind_eq_ok_iff.mp done
    obtain rfl : read = part := by rw [textOf_eq_ok taken, pieces_text]
    obtain rfl := Except.ok.inj later
    split
    · trivial
    · refine ⟨?_, trivial⟩
      rw [CutFrom, String.toList_ofList]
      exact cut.strip

theorem ofSegments_cut (inner : ∀ inside items, nested inside = .ok items → AllCutFrom inside items) {whole : List Char} :
    ∀ {line : List (List Piece)} {items : List Argument}, (∀ segment ∈ line, ∃ part, segment = pieces part ∧ Cut whole part) →
      ofSegments nested whole line = .ok items → AllCutFrom whole items
  | [], items, _, done => by
    cases done
    trivial
  | segment :: rest, items, parts, done => by
    rw [List.forall_mem_cons] at parts
    obtain ⟨head, first, later⟩ := Outcome.bind_eq_ok_iff.mp done
    obtain ⟨tail, others, same⟩ := Outcome.bind_eq_ok_iff.mp later
    cases same
    obtain ⟨part, rfl, cut⟩ := parts.1
    exact (AllCutFrom.widen cut.inside (ofSegment_cut inner cut.single first)).append (ofSegments_cut inner parts.2 others)

end

theorem splitWithin_cut {depth : Nat} {text : List Char} {items : List Argument}
    (done : splitWithin depth text = .ok items) : AllCutFrom text items := by
  induction depth generalizing text items with
  | zero => cases done
  | succ depth ih => exact ofSegments_cut (fun _ _ => ih) (fun _ => segments_cut text) done

/-- Arguments are cut from the text that is split. -/
theorem split_cut {text : List Char} {items : List Argument} (done : split text = .ok items) : AllCutFrom text items :=
  splitWithin_cut done

end ResourceQuery.Argument

namespace ResourceQuery.Query

/-! ### Terms -/

theorem mem_of_char {skip : Nat} {text : List Char} {c : Char} (member : Token.char c ∈ tokensFrom skip text) :
    c ∈ text ∧ separator? c = none ∧ c ≠ '(' ∧ Text.isBlank c = false := by
  fun_induction tokensFrom skip text with
  | case1 => cases member
  | case2 skip d rest ih => exact (ih member).imp_left (List.mem_cons_of_mem _)
  | case3 d rest connective separates ih => exact (ih (by simpa using member)).imp_left (List.mem_cons_of_mem _)
  | case4 rest body found noSeparator ih => exact (ih (by simpa using member)).imp_left (List.mem_cons_of_mem _)
  | case5 rest noSeparator found => simp at member
  | case6 d rest noSeparator noOpen blank ih => exact (ih member).imp_left (List.mem_cons_of_mem _)
  | case7 d rest noSeparator noOpen noBlank ih =>
    rcases List.mem_cons.mp member with same | later
    · cases same
      exact ⟨List.mem_cons_self, noSeparator, noOpen, by simpa using noBlank⟩
    · exact (ih later).imp_left (List.mem_cons_of_mem _)

/-- A group stands in the text with its parentheses. -/
theorem group_stands {skip : Nat} {text inside : List Char} (member : Token.group inside ∈ tokensFrom skip text) :
    '(' :: inside ++ [')'] <:+: text := by
  fun_induction tokensFrom skip text with
  | case1 => cases member
  | case2 skip d rest ih => exact List.infix_cons (ih member)
  | case3 d rest connective separates ih => exact List.infix_cons (ih (by simpa using member))
  | case4 rest body found noSeparator ih =>
    rcases List.mem_cons.mp member with same | later
    · cases same
      obtain ⟨after, rfl, _⟩ := Group.upTo?_eq_some found
      exact ⟨[], after, by simp⟩
    · exact List.infix_cons (ih later)
  | case5 rest noSeparator found => simp at member
  | case6 d rest noSeparator noOpen blank ih => exact List.infix_cons (ih member)
  | case7 d rest noSeparator noOpen noBlank ih => exact List.infix_cons (ih (by simpa using member))

theorem mem_of_group {text inside : List Char} (member : Token.group inside ∈ tokens text) : ∀ c ∈ inside, c ∈ text :=
  fun c held => (group_stands member).subset (by simp [held])

theorem group_shorter {text inside : List Char} (member : Token.group inside ∈ tokens text) :
    inside.length < text.length := by
  have length := (group_stands member).length_le
  simp at length
  omega

/-- The tokens of terms are tokens of the text. -/
theorem segments_mem (line : List Token) :
    (∀ token ∈ (segments line).1, token ∈ line) ∧ ∀ part ∈ (segments line).2, ∀ token ∈ part.2, token ∈ line := by
  induction line with
  | nil => simp [segments]
  | cons token rest ih =>
    obtain ⟨first, others⟩ := ih
    cases token with
    | separator connective =>
      refine ⟨by simp [segments], ?_⟩
      rintro part member
      rcases List.mem_cons.mp member with rfl | later
      · exact fun token held => List.mem_cons_of_mem _ (first token held)
      · exact fun token held => List.mem_cons_of_mem _ (others part later token held)
    | _ =>
      refine ⟨?_, fun part member token held => List.mem_cons_of_mem _ (others part member token held)⟩
      rintro token member
      rcases List.mem_cons.mp member with rfl | later
      · exact List.mem_cons_self
      · exact List.mem_cons_of_mem _ (first token later)

end ResourceQuery.Query
