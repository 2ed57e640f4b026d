import ResourceQuery.Proofs.Equality
import ResourceQuery.Proofs.Query.Expansion
import ResourceQuery.Proofs.Query.Printed
import ResourceQuery.Proofs.Query.Words

/-!
Leftmost names. The first argument of a call may be a call again, and so on: `Value.Begins` gives the
names from the outside in. They stand at the start of the printed text (`Value.print_begins`), agree
in values that agree (`Value.same_begins`), and a text that starts with nested words is read as calls
of these words (`Query.callArguments_nest`).
-/
namespace ResourceQuery

open Query (Unjoined)

/-- Whether the leftmost nodes of a value, from the outside in, have these names. -/
def Value.Begins : List (List Char) → Value → Prop
  | [], _ => True
  | name :: names, .node (.text given) args =>
    given.toList = name ∧ (names = [] ∨ ∃ first rest, args = first :: rest ∧ first.Begins names)
  | _ :: _, _ => False

theorem Shorthand.nest_append (names : List (List Char)) (rest more : List Char) :
    nest names rest ++ more = nest names (rest ++ more) := by
  induction names with
  | nil => rfl
  | cons name names ih => simpa [nest] using ih

theorem Text.listed_start (head : String) (tail : List String) : ∃ more, listed (head :: tail) = head.toList ++ more := by
  cases tail with
  | nil => exact ⟨[], by simp [listed]⟩
  | cons next rest => exact ⟨_, by rw [listed, List.map_cons, List.map_cons, List.intercalate_cons_cons, List.append_assoc]⟩

/-- The printed text starts with the names of the leftmost nodes. -/
theorem Value.print_begins {names : List (List Char)} {value : Value} (begins : value.Begins names) {text : String}
    (printed : value.print = .ok text) : ∃ rest, text.toList = Shorthand.nest names rest := by
  induction names generalizing value text with
  | nil => exact ⟨text.toList, rfl⟩
  | cons name names ih =>
    match value, begins with
    | .node (.text given) args, ⟨same, inner⟩ =>
      obtain ⟨texts, inside, whole⟩ := Value.print_node printed
      rcases inner with rfl | ⟨first, rest, rfl, begins⟩
      · exact ⟨Text.listed texts ++ [')'], by simp [whole, Query.callText, Shorthand.nest, same]⟩
      · obtain ⟨head, tail, start, _, rfl⟩ := Value.printItems_cons inside
        obtain ⟨after, split⟩ := ih begins start
        obtain ⟨more, listed⟩ := Text.listed_start head tail
        refine ⟨after ++ (more ++ [')']), ?_⟩
        rw [← Shorthand.nest_append, Shorthand.nest, List.foldr_cons, whole, Query.callText, listed, split, same]
        simp [Shorthand.nest]

theorem Value.same_begins {names : List (List Char)} {first second : Value} (begins : first.Begins names)
    (agree : same first second = true) : second.Begins names := by
  induction names generalizing first second with
  | nil => trivial
  | cons name names ih =>
    match first, begins with
    | .node (.text given) args, ⟨named, inner⟩ =>
      obtain ⟨others, rfl, items⟩ := Value.same_node agree
      refine ⟨named, inner.imp id ?_⟩
      rintro ⟨head, rest, rfl, begins⟩
      obtain _ | ⟨other, more⟩ := others
      · cases items
      · obtain ⟨start, _⟩ := Bool.and_eq_true _ _ ▸ items
        exact ⟨other, more, rfl, ih begins start⟩

/-- A text that a joined one starts with lies in its first part if the second part does not start with
a character of it. -/
theorem Text.append_split {front rest part tail : List Char} (split : front ++ rest = part ++ tail)
    (stop : ∀ c, tail.head? = some c → c ∉ front) : ∃ more, part = front ++ more ∧ rest = more ++ tail := by
  rcases List.append_eq_append_iff.mp split with ⟨more, rfl, rfl⟩ | ⟨_ | ⟨c, more⟩, rfl, rfl⟩
  · exact ⟨more, rfl, rfl⟩
  · exact ⟨[], by simp, by simp⟩
  · exact absurd (by simp) (stop c rfl)

namespace Argument

/-- The first segment of a text is the pieces of what stands before a comma or the end. -/
theorem segments_start (text : List Char) :
    ∃ part tail more, segments (pieces text) = pieces part :: more ∧ text = part ++ tail ∧
      (tail = [] ∨ tail.head? = some ',') := by
  by_cases comma : Piece.plain ',' ∈ pieces text
  · obtain ⟨before, after, split, single⟩ := List.eq_append_cons_of_mem comma
    obtain ⟨first, last, whole, _, left, _⟩ := piecesFrom_divide split
    exact ⟨first, ',' :: last, segments after, by rw [split, segments_append single, pieces, left], whole, .inr rfl⟩
  · exact ⟨text, [], [], segments_single comma, (List.append_nil text).symm, .inl rfl⟩

section
variable {name : List Char}

theorem solid_open (word : IsWord name) : ∀ c ∈ name ++ ['('], Text.isBlank c = false ∧ c ≠ ',' ∧ c ≠ ')' := by
  rw [List.forall_mem_append]
  exact ⟨fun c member => ⟨isBlank_word (word.word c member), Text.ne_of_class (word.word c member) (by decide),
    Text.ne_of_class (word.word c member) (by decide)⟩, by decide⟩

/-- What is left of a text without the blanks around it starts with the word and the parenthesis that
the text starts with. -/
theorem strip_start (word : IsWord name) (rest : List Char) :
    ∃ start tail, rest = start ++ tail ∧ Text.strip (name ++ '(' :: rest) = name ++ '(' :: start := by
  obtain ⟨before, after, split, leading, trailing⟩ := strip_split (name ++ '(' :: rest)
  obtain ⟨some, each⟩ := word
  obtain _ | ⟨b, before⟩ := before
  · rw [List.nil_append, List.append_cons] at split
    obtain ⟨start, stripped, rfl⟩ := Text.append_split split fun c first member => by
      have blank := trailing c (List.mem_of_head? first)
      rw [(solid_open ⟨some, each⟩ c member).1] at blank
      cases blank
    simp only [List.append_assoc, List.singleton_append] at stripped
    exact ⟨start, after, rfl, stripped⟩
  · cases name with
    | nil => exact absurd rfl some
    | cons c name =>
      obtain rfl : c = b := by simpa using (List.cons.inj split).1
      have blank := leading c List.mem_cons_self
      rw [isBlank_word (each c List.mem_cons_self)] at blank
      cases blank

/-- A segment that starts with a word and a parenthesis is an argument that does so. -/
theorem ofSegment_start (word : IsWord name) {nested : List Char → Except Error (List Argument)} {whole rest : List Char}
    {isLast : Bool} {items : List Argument} (done : ofSegment nested whole isLast (pieces (name ++ '(' :: rest)) = .ok items) :
    ∃ start tail, rest = start ++ tail ∧ items = [.leaf (String.ofList (name ++ '(' :: start))] := by
  obtain ⟨start, tail, split, stripped⟩ := strip_start word rest
  refine ⟨start, tail, split, ?_⟩
  obtain ⟨piece, line, front, noSpace, noGroup⟩ : ∃ piece line, pieces (name ++ '(' :: rest) = piece :: line ∧
      piece ≠ .plain ' ' ∧ ∀ inside, piece ≠ .group inside := by
    obtain ⟨c, name, rfl⟩ := List.exists_cons_of_ne_nil word.some
    have first := word.word c List.mem_cons_self
    exact pieces_start _ (Text.ne_of_class first (by decide)) (Text.ne_of_class first (by decide))
  have kept : (pieces (name ++ '(' :: rest)).dropWhile (· = .plain ' ') = pieces (name ++ '(' :: rest) := by
    rw [front, List.dropWhile_cons_of_neg (by simpa using noSpace)]
  rw [ofSegment, kept] at done
  split at done
  · rename_i group
    rw [front] at group
    exact absurd (List.cons.inj group).1 (noGroup _)
  · obtain ⟨read, taken, later⟩ := Outcome.bind_eq_ok_iff.mp done
    obtain rfl : read = name ++ '(' :: rest := by rw [textOf_eq_ok taken, pieces_text]
    have some : (name ++ '(' :: start).isEmpty = false := by simp
    rw [stripped] at later
    dsimp only at later
    rw [some, Bool.and_false] at later
    exact (Except.ok.inj later).symm

/-- A text that starts with a word and a parenthesis has an argument that does so first. -/
theorem split_start (word : IsWord name) {rest : List Char} {items : List Argument}
    (done : split (name ++ '(' :: rest) = .ok items) :
    ∃ start tail more, rest = start ++ tail ∧ items = .leaf (String.ofList (name ++ '(' :: start)) :: more := by
  obtain ⟨part, tail, others, first, whole, stop⟩ := segments_start (name ++ '(' :: rest)
  rw [List.append_cons] at whole
  obtain ⟨more, rfl, rfl⟩ := Text.append_split whole fun c head member => by
    rcases stop with rfl | comma
    · cases head
    · rw [comma] at head
      cases head
      exact (solid_open word _ member).2.1 rfl
  rw [List.append_assoc, List.singleton_append] at first
  rw [split, splitWithin, first] at done
  obtain ⟨head, starts, later⟩ := Outcome.bind_eq_ok_iff.mp done
  obtain ⟨items, _, same⟩ := Outcome.bind_eq_ok_iff.mp later
  obtain ⟨start, left, rfl, rfl⟩ := ofSegment_start word starts
  cases same
  exact ⟨start, left ++ tail, items, by rw [List.append_assoc], rfl⟩

end

end Argument

namespace Query

/-- The arguments in a text that starts with nested words start with calls of these. -/
theorem callArguments_nest {names : List (List Char)} (filled : names ≠ []) (words : ∀ name ∈ names, IsWord name)
    {inside after rest : List Char} (unjoined : Unjoined inside) (start : inside ++ ')' :: after = Shorthand.nest names rest)
    {depth : Nat} {args : List Value} (done : callArguments (readWithin depth) inside = .ok args) :
    ∃ first others, args = first :: others ∧ first.Begins names := by
  induction names generalizing inside after depth args with
  | nil => exact absurd rfl filled
  | cons name names ih =>
    rw [List.forall_mem_cons] at words
    obtain ⟨word, others⟩ := words
    -- The word and its parenthesis lie inside of the group, for no closing parenthesis is in them.
    have whole : name ++ ['('] ++ Shorthand.nest names rest = inside ++ ')' :: after := by
      rw [start, List.append_assoc]
      rfl
    obtain ⟨more, rfl, split⟩ := Text.append_split whole fun c head member => by
      cases head
      exact (Argument.solid_open word _ member).2.2 rfl
    rw [List.append_assoc, List.singleton_append] at unjoined done
    obtain ⟨items, divided, reads⟩ := Outcome.bind_eq_ok_iff.mp done
    have cut := Argument.split_cut divided
    obtain ⟨front, tail, items, rfl, rfl⟩ := Argument.split_start word divided
    obtain ⟨value, first, later⟩ := Outcome.bind_eq_ok_iff.mp reads
    obtain ⟨values, _, same⟩ := Outcome.bind_eq_ok_iff.mp later
    cases same
    rw [argument, String.toList_ofList, startsCall_open word, if_pos rfl] at first
    obtain ⟨query, read, rfl⟩ := Outcome.map_eq_ok_iff.mp first
    have single : Argument.Piece.plain ',' ∉ Argument.pieces (name ++ '(' :: front) := by simpa using cut.1.single
    have calm : Unjoined front := unjoined.subset fun c member => by simp [member]
    obtain ⟨less, body, behind, args, _, rfl, _, inner, rfl⟩ := readWithin_leaf word calm single read
    refine ⟨_, values, rfl, String.toList_ofList, ?_⟩
    cases names with
    | nil => exact .inl rfl
    | cons next names =>
      have start : body ++ ')' :: (behind ++ tail ++ ')' :: after) = Shorthand.nest (next :: names) rest := by
        rw [split]
        simp
      exact .inr (ih (by simp) others (calm.subset fun c member => by simp [member]) start inner)

end Query

end ResourceQuery
