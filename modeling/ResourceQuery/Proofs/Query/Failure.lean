import ResourceQuery.Proofs.Literal.Limits
import ResourceQuery.Proofs.Query.Grammar
import ResourceQuery.Proofs.Query.Printed

/-!
Where reading fails. Comparisons, groups and arguments end with declared errors only, so that any other
error is one of a literal that reading reaches: everything before it is read (`Reaches`). The literal goes
beyond a limit, and `parse_undeclared_iff` says when this happens.
-/
namespace ResourceQuery

namespace Shorthand

theorem not_undeclared_call {field symbol value : List Char} {fault : Error} : ¬ Undeclared (call field symbol value) fault := by
  unfold call
  split
  · exact not_undeclared_ok _
  · exact not_undeclared_error rfl

theorem not_undeclared_append {first second : Except Error (List Char)} {fault : Error} (head : ¬ Undeclared first fault)
    (tail : ¬ Undeclared second fault) : ¬ Undeclared (do return (← first) ++ (← second)) fault := by
  rw [undeclared_bind]
  rintro (early | ⟨_, _, late⟩)
  · exact head early
  · exact tail (undeclared_pure.mp late)

theorem not_undeclared_text {line : List Token} {fault : Error} : ¬ Undeclared (text line) fault := by
  fun_induction text line with
  | case1 => exact not_undeclared_ok _
  | case2 field symbol value rest ih => exact not_undeclared_append not_undeclared_call ih
  | case3 field symbol rest _ ih => exact not_undeclared_append not_undeclared_call ih
  | case4 symbol value rest ih => exact not_undeclared_append not_undeclared_call ih
  | case5 symbol rest _ ih => exact not_undeclared_append not_undeclared_call ih
  | case6 operand rest _ _ ih => exact fun undeclared => ih (undeclared_pure.mp undeclared)
  | case7 c rest ih => exact fun undeclared => ih (undeclared_pure.mp undeclared)

theorem not_undeclared_expand {source : List Char} {fault : Error} : ¬ Undeclared (expand source) fault := not_undeclared_text

end Shorthand

namespace Argument
variable {fault : Error}

theorem not_undeclared_textOf {line : List Piece} : ¬ Undeclared (textOf line) fault := by
  fun_induction textOf line with
  | case1 => exact not_undeclared_ok _
  | case2 => exact not_undeclared_error rfl
  | case3 piece rest _ ih => exact fun undeclared => ih (undeclared_pure.mp undeclared)

theorem not_undeclared_nothingAfter (whole : List Char) {line : List Piece} : ¬ Undeclared (nothingAfter whole line) fault := by
  fun_induction nothingAfter whole line with
  | case1 => exact not_undeclared_ok _
  | case2 rest ih => exact ih
  | case3 => exact not_undeclared_error rfl

theorem not_undeclared_ofSegment {nested : List Char → Except Error (List Argument)}
    (declared : ∀ text, ¬ Undeclared (nested text) fault) (whole : List Char) (isLast : Bool) (segment : List Piece) :
    ¬ Undeclared (ofSegment nested whole isLast segment) fault := by
  unfold ofSegment
  split
  · rename_i inside rest _
    rw [undeclared_bind]
    rintro (early | ⟨items, _, late⟩)
    · exact declared inside early
    · exact not_undeclared_nothingAfter whole (undeclared_pure.mp late)
  · exact fun undeclared => not_undeclared_textOf (undeclared_pure.mp undeclared)

theorem not_undeclared_split (text : List Char) : ¬ Undeclared (split text) fault := by
  have within : ∀ (depth : Nat) (text : List Char), ¬ Undeclared (splitWithin depth text) fault := by
    intro depth
    induction depth with
    | zero => exact fun text => not_undeclared_error rfl
    | succ depth ih =>
      intro text
      rw [splitWithin]
      induction segments (pieces text) with
      | nil => exact not_undeclared_ok _
      | cons segment rest later =>
        rw [ofSegments, undeclared_bind]
        rintro (early | ⟨head, _, late⟩)
        · exact not_undeclared_ofSegment ih text _ segment early
        · exact later (undeclared_pure.mp late)
  exact within _ text

end Argument

namespace Query

/-- The segments of a text. -/
def lines (text : List Char) : List (List Token) :=
  (segments (tokens text)).1 :: (segments (tokens text)).2.map Prod.snd

/-- What is read from left to right: a text, or arguments. -/
inductive Subject
  | text (text : List Char)
  | arguments (items : List Argument)

/-- Reading reaches a literal: all that stands before it is read. -/
inductive Reaches : Subject → List Char → Prop
  /-- Behind segments that denote something, in the text of a group. -/
  | group {text inside literal : List Char} {front back : List (List Token)} {rest : List Token}
    (split : lines text = front ++ (.group inside :: rest) :: back) (reads : ∀ line ∈ front, ∃ query, Denotes line query)
    (reaches : Reaches (.text inside) literal) : Reaches (.text text) literal
  /-- Behind segments that denote something, in the arguments of a call. -/
  | call {text name inside literal : List Char} {front back : List (List Token)} {rest : List Token} {items : List Argument}
    (split : lines text = front ++ (name.map .char ++ .group inside :: rest) :: back)
    (reads : ∀ line ∈ front, ∃ query, Denotes line query) (named : name ≠ []) (arguments : Argument.split inside = .ok items)
    (reaches : Reaches (.arguments items) literal) : Reaches (.text text) literal
  /-- The first argument, if it is no call. -/
  | first {raw : String} {rest : List Argument} (noCall : startsCall raw.toList = false) :
    Reaches (.arguments (.leaf raw :: rest)) (Argument.unquote raw.toList)
  /-- In the first argument, which is a call. -/
  | nested {raw : String} {rest : List Argument} {literal : List Char} (call : startsCall raw.toList = true)
    (reaches : Reaches (.text raw.toList) literal) : Reaches (.arguments (.leaf raw :: rest)) literal
  /-- In the first argument, which is an array. -/
  | array {items rest : List Argument} {literal : List Char} (reaches : Reaches (.arguments items) literal) :
    Reaches (.arguments (.array items :: rest)) literal
  /-- Behind an argument that is read. -/
  | later {item : Argument} {rest : List Argument} {literal : List Char} {value : Value}
    (reads : argument read item = .ok value) (reaches : Reaches (.arguments rest) literal) :
    Reaches (.arguments (item :: rest)) literal

section
variable {text : List Char} {line : List Token}

theorem mem_lines (member : line ∈ lines text) :
    (∀ connective, Token.separator connective ∉ line) ∧ ∀ token ∈ line, token ∈ tokens text := by
  obtain ⟨firstSingle, othersSingle⟩ := @mem_segments (tokens text)
  obtain ⟨firstIn, othersIn⟩ := segments_mem (tokens text)
  rcases List.mem_cons.mp member with rfl | later
  · exact ⟨firstSingle, firstIn⟩
  · obtain ⟨part, held, rfl⟩ := List.mem_map.mp later
    exact ⟨othersSingle part held, othersIn part held⟩

theorem mem_of_split {front back : List (List Token)} (split : lines text = front ++ line :: back) {token : Token}
    (member : token ∈ line) : token ∈ tokens text :=
  (mem_lines (split ▸ List.mem_append_right front List.mem_cons_self)).2 token member

theorem denotes_of_term {depth : Nat} {query : Query} (member : line ∈ lines text)
    (done : term (readWithin depth) (callArguments (readWithin depth)) text line = .ok query) : Denotes line query := by
  obtain ⟨single, within⟩ := mem_lines member
  refine (term_eq_ok_iff single within).mp (@term_mono _ _ text.length ?_ text text line query single ?_ done)
  · exact fun part query shorter read => readWithin_deep shorter read
  · exact fun inside held => group_shorter (within _ held)

theorem Denotes.term_eq {depth : Nat} (deep : text.length ≤ depth) {query : Query} (member : line ∈ lines text)
    (denotes : Denotes line query) :
    term (readWithin depth) (callArguments (readWithin depth)) text line = .ok query := by
  obtain ⟨single, within⟩ := mem_lines member
  refine @term_mono _ _ text.length ?_ text text line query single ?_ ((term_eq_ok_iff single within).mpr denotes)
  · exact fun part query shorter read => readWithin_deep (shorter.trans_le deep) read
  · exact fun inside held => group_shorter (within _ held)

end

theorem terms_eq_error_iff {read : List Token → Except Error Query} {parts : List (Connective × List Token)} {fault : Error} :
    terms read parts = .error fault ↔
      ∃ front line back, parts.map Prod.snd = front ++ line :: back ∧ (∀ other ∈ front, ∃ query, read other = .ok query) ∧
        read line = .error fault := by
  induction parts with
  | nil => simp [terms]
  | cons part parts ih =>
    constructor
    · intro failed
      cases first : read part.2 with
      | error early =>
        rw [terms, first] at failed
        cases failed
        exact ⟨[], part.2, parts.map Prod.snd, rfl, by simp, first⟩
      | ok query =>
        have others : terms read parts = .error fault := by
          rw [terms, first, Outcome.ok_bind] at failed
          cases rest : terms read parts with
          | error late =>
            rw [rest] at failed
            exact failed
          | ok queries =>
            rw [rest] at failed
            cases failed
        obtain ⟨front, line, back, split, reads, fails⟩ := ih.mp others
        refine ⟨part.2 :: front, line, back, by rw [List.map_cons, split, List.cons_append], ?_, fails⟩
        exact List.forall_mem_cons.mpr ⟨⟨query, first⟩, reads⟩
    · rintro ⟨front, line, back, split, reads, fails⟩
      cases front with
      | nil =>
        obtain ⟨rfl, _⟩ := List.cons.inj split
        rw [terms, fails]
        rfl
      | cons other front =>
        obtain ⟨rfl, rest⟩ := List.cons.inj split
        rw [List.forall_mem_cons] at reads
        obtain ⟨⟨query, first⟩, later⟩ := reads
        rw [terms, first, Outcome.ok_bind, ih.mpr ⟨front, line, back, rest, later, fails⟩]
        rfl

/-- A text fails as its first segment that fails. -/
theorem readWithin_eq_error_iff {depth : Nat} {text : List Char} {fault : Error} :
    readWithin (depth + 1) text = .error fault ↔
      ∃ front line back, lines text = front ++ line :: back ∧
        (∀ other ∈ front, ∃ query, term (readWithin depth) (callArguments (readWithin depth)) text other = .ok query) ∧
        term (readWithin depth) (callArguments (readWithin depth)) text line = .error fault := by
  have same : readWithin (depth + 1) text = .error fault ↔
      terms (term (readWithin depth) (callArguments (readWithin depth)) text)
        ((.and, (segments (tokens text)).1) :: (segments (tokens text)).2) = .error fault := by
    rw [readWithin, terms]
    generalize term (readWithin depth) (callArguments (readWithin depth)) text = read
    generalize segments (tokens text) = parts
    obtain ⟨first, rest⟩ := parts
    cases head : read first with
    | error early => simp [head]
    | ok query => cases tail : terms read rest <;> simp [head, tail]
  rw [same, terms_eq_error_iff]
  rfl

/-- A text fails as a segment behind segments that denote something. -/
theorem readWithin_error {depth : Nat} {text : List Char} {fault : Error} (deep : text.length ≤ depth)
    {front back : List (List Token)} {line : List Token} (split : lines text = front ++ line :: back)
    (reads : ∀ line ∈ front, ∃ query, Denotes line query)
    (failed : term (readWithin depth) (callArguments (readWithin depth)) text line = .error fault) :
    readWithin (depth + 1) text = .error fault := by
  refine readWithin_eq_error_iff.mpr ⟨front, line, back, split, ?_, failed⟩
  intro other member
  obtain ⟨query, denotes⟩ := reads other member
  exact ⟨query, denotes.term_eq deep (split ▸ List.mem_append_left _ member)⟩

section
variable {nested : List Char → Except Error Query} {arguments : List Char → Except Error (List Value)} {fault : Error}

theorem term_group_error (whole : List Char) {inside : List Char} (failed : nested inside = .error fault)
    (rest : List Token) : term nested arguments whole (.group inside :: rest) = .error fault := by
  simp [term, splitName, failed]

theorem term_call_error (whole : List Char) {name inside : List Char} (named : name ≠ [])
    (failed : arguments inside = .error fault) (rest : List Token) :
    term nested arguments whole (name.map Token.char ++ Token.group inside :: rest) = .error fault := by
  have split := splitName_chars name (.group inside :: rest) (by simp)
  simp [term, split, named, failed]

/-- A term has no undeclared errors but those of its group. -/
theorem term_undeclared {whole : List Char} {line : List Token} (undeclared : Undeclared (term nested arguments whole line) fault) :
    (∃ inside rest, line = .group inside :: rest ∧ Undeclared (nested inside) fault) ∨
    (∃ name inside rest, name ≠ [] ∧ line = name.map Token.char ++ Token.group inside :: rest ∧ Undeclared (arguments inside) fault) := by
  have ends : ∀ (name : String) (rest : List Token), ¬ Undeclared (nothingAfter whole name rest) fault := by
    intro name rest
    unfold nothingAfter
    split
    · exact not_undeclared_ok _
    · exact not_undeclared_error rfl
    · exact not_undeclared_error rfl
  obtain ⟨split, noChar⟩ := splitName_eq line
  unfold term at undeclared
  generalize splitName line = parts at split noChar undeclared
  obtain ⟨name, rest⟩ := parts
  subst split
  simp only at noChar undeclared ⊢
  have alone : ¬ Undeclared (if name.isEmpty then Except.error (.parse (.missingOperator (String.ofList whole)))
      else .ok ⟨String.ofList name, []⟩ : Except Error Query) fault := by
    split
    · exact not_undeclared_error rfl
    · exact not_undeclared_ok _
  cases rest with
  | nil => exact absurd undeclared alone
  | cons token rest =>
    cases token with
    | separator connective => exact absurd undeclared alone
    | char c => exact absurd rfl (noChar c)
    | unclosed text => exact absurd undeclared (not_undeclared_error rfl)
    | group inside =>
      have finish : ∀ query : Query, ¬ Undeclared (do nothingAfter whole query.name rest; return query) fault :=
        fun query late => ends _ _ (undeclared_pure.mp late)
      by_cases named : name = []
      · subst named
        rcases undeclared_bind.mp undeclared with early | ⟨query, _, late⟩
        · exact .inl ⟨inside, rest, rfl, early⟩
        · exact absurd late (finish query)
      · simp only [List.isEmpty_iff, named, if_false] at undeclared
        rcases undeclared_bind.mp undeclared with early | ⟨args, _, late⟩
        · exact .inr ⟨name, inside, rest, named, rfl, early⟩
        · exact absurd late (finish ⟨String.ofList name, args⟩)

end

/-! ### Literals that fail -/

/-- What is read fails, at any depth at which it can be read. -/
def Subject.Fails (fault : Error) : Subject → Prop
  | .text source => ∀ depth, source.length < depth → readWithin depth source = .error fault
  | .arguments items => ∀ depth (inside : List Char), Argument.AllCutFrom inside items → inside.length < depth →
    argumentList (readWithin depth) items = .error fault

/-- Reading fails as the literal that it reaches. -/
theorem Reaches.fails {subject : Subject} {literal : List Char} (reaches : Reaches subject literal) {fault : Error}
    (failed : Literal.value literal = .error fault) : subject.Fails fault := by
  induction reaches with
  | @group text inside _ front back rest split reads _ ih =>
    intro depth deep
    obtain ⟨depth, rfl⟩ := Nat.exists_eq_add_one_of_ne_zero (Nat.ne_zero_of_lt deep)
    have short : inside.length < text.length := group_shorter (mem_of_split split List.mem_cons_self)
    apply readWithin_error (Nat.le_of_lt_succ deep) split reads
    exact term_group_error text (ih failed depth (by omega)) rest
  | @call text name inside _ front back rest items split reads named arguments _ ih =>
    intro depth deep
    obtain ⟨depth, rfl⟩ := Nat.exists_eq_add_one_of_ne_zero (Nat.ne_zero_of_lt deep)
    have short : inside.length < text.length :=
      group_shorter (mem_of_split split (List.mem_append_right _ List.mem_cons_self))
    apply readWithin_error (Nat.le_of_lt_succ deep) split reads
    refine term_call_error text named ?_ rest
    rw [callArguments, arguments, Outcome.ok_bind]
    exact ih failed depth inside (Argument.split_cut arguments) (by omega)
  | first noCall =>
    intro depth inside cut short
    rw [argumentList, argument, noCall]
    simp [failed]
  | @nested raw rest _ call _ ih =>
    intro depth inside cut short
    have length : raw.toList.length ≤ inside.length := cut.1.inside.length_le
    rw [argumentList, argument, if_pos call, ih failed depth (by omega)]
    rfl
  | array _ ih =>
    intro depth inside cut short
    rw [argumentList, argument, ih failed depth inside cut.1 short]
    rfl
  | later reads _ ih =>
    intro depth inside cut short
    have deeper := fun part query (shorter : part.length < depth) (done : read part = .ok query) => readWithin_deep shorter done
    rw [argumentList, argument_mono deeper short cut.1 reads, Outcome.ok_bind, ih failed depth inside cut.2 short]
    rfl

section
variable {nested : List Char → Except Error Query} {fault : Error} {inside : List Char}

mutual

theorem argument_reaches (kept : ∀ part query, nested part = .ok query → read part = .ok query)
    (reached : ∀ part, Undeclared (nested part) fault →
      ∃ literal, Reaches (.text part) literal ∧ Undeclared (Literal.value literal) fault) :
    ∀ {item : Argument} (rest : List Argument), item.CutFrom inside → Undeclared (argument nested item) fault →
      ∃ literal, Reaches (.arguments (item :: rest)) literal ∧ Undeclared (Literal.value literal) fault
  | .leaf raw, rest, _, undeclared => by
    unfold argument at undeclared
    cases call : startsCall raw.toList with
    | true =>
      rw [if_pos call, undeclared_map] at undeclared
      obtain ⟨literal, reaches, failed⟩ := reached _ undeclared
      exact ⟨literal, .nested call reaches, failed⟩
    | false =>
      rw [if_neg (by simp [call])] at undeclared
      exact ⟨_, .first call, undeclared⟩
  | .array items, rest, cut, undeclared => by
    unfold argument at undeclared
    obtain ⟨literal, reaches, failed⟩ := argumentList_reaches kept reached cut (undeclared_map.mp undeclared)
    exact ⟨literal, .array reaches, failed⟩

theorem argumentList_reaches (kept : ∀ part query, nested part = .ok query → read part = .ok query)
    (reached : ∀ part, Undeclared (nested part) fault →
      ∃ literal, Reaches (.text part) literal ∧ Undeclared (Literal.value literal) fault) :
    ∀ {items : List Argument}, Argument.AllCutFrom inside items → Undeclared (argumentList nested items) fault →
      ∃ literal, Reaches (.arguments items) literal ∧ Undeclared (Literal.value literal) fault
  | [], _, undeclared => absurd undeclared (not_undeclared_ok _)
  | item :: rest, cut, undeclared => by
    unfold argumentList at undeclared
    rcases undeclared_bind.mp undeclared with early | ⟨value, done, late⟩
    · exact argument_reaches kept reached rest cut.1 early
    · obtain ⟨literal, reaches, failed⟩ := argumentList_reaches kept reached cut.2 (undeclared_pure.mp late)
      have reads := argument_mono (fun part query _ => kept part query) (Nat.lt_succ_self inside.length) cut.1 done
      exact ⟨literal, .later reads reaches, failed⟩

end

end

/-- A text that ends with an undeclared error has a literal that does. -/
theorem readWithin_reaches {depth : Nat} {text : List Char} {fault : Error} (undeclared : Undeclared (readWithin depth text) fault) :
    ∃ literal, Reaches (.text text) literal ∧ Undeclared (Literal.value literal) fault := by
  induction depth generalizing text with
  | zero => exact absurd undeclared (not_undeclared_error rfl)
  | succ depth ih =>
    obtain ⟨front, line, back, split, reads, failed⟩ := readWithin_eq_error_iff.mp undeclared.1
    have denote : ∀ other ∈ front, ∃ query, Denotes other query := by
      intro other member
      obtain ⟨query, done⟩ := reads other member
      exact ⟨query, denotes_of_term (split ▸ List.mem_append_left _ member) done⟩
    rcases term_undeclared ⟨failed, undeclared.2⟩ with ⟨inside, rest, rfl, deeper⟩ | ⟨name, inside, rest, named, rfl, deeper⟩
    · obtain ⟨literal, reaches, failed⟩ := ih deeper
      exact ⟨literal, .group split denote reaches, failed⟩
    · rcases undeclared_bind.mp deeper with early | ⟨items, arguments, late⟩
      · exact absurd early (Argument.not_undeclared_split inside)
      · have kept := fun part query (done : readWithin depth part = .ok query) => readWithin_deep (Nat.lt_succ_self part.length) done
        obtain ⟨literal, reaches, failed⟩ :=
          argumentList_reaches kept (fun _ failed => ih failed) (Argument.split_cut arguments) late
        exact ⟨literal, .call split denote named arguments reaches, failed⟩

theorem read_undeclared_iff {text : List Char} {fault : Error} :
    Undeclared (read text) fault ↔ ∃ literal, Reaches (.text text) literal ∧ Undeclared (Literal.value literal) fault := by
  constructor
  · exact readWithin_reaches
  · rintro ⟨literal, reaches, failed, undeclared⟩
    exact ⟨reaches.fails failed _ (Nat.lt_succ_self _), undeclared⟩

theorem not_reaches_nil {literal : List Char} : ¬ Reaches (.text []) literal := by
  intro reaches
  cases reaches with
  | group split _ _ => cases mem_of_split split List.mem_cons_self
  | call split _ _ _ _ => cases mem_of_split split (List.mem_append_right _ List.mem_cons_self)

/-- **Errors that are not declared.** They are those of the first literal that is not read, if that goes
beyond a limit of integers or patterns: the text under `auto`, `number` or `epoch` is an integer in more
than `maxDigits` decimal digits, the pattern under `re` or `RE` has a count beyond a limit or flags that
exclude each other, or the document under `json` holds an integer in too many digits. -/
theorem parse_undeclared_iff {text : String} {fault : Error} :
    Undeclared (parse text) fault ↔
      text.toList.head? ≠ some '?' ∧ ∃ expanded literal tag body, Shorthand.expand text.toList = .ok expanded ∧
        Reaches (.text expanded) literal ∧ Literal.tagged? literal = some (tag, body) ∧ tag.Exceeds body fault := by
  have literals : ∀ source, Undeclared (do read (← Shorthand.expand source)) fault ↔
      ∃ expanded literal tag body, Shorthand.expand source = .ok expanded ∧
        Reaches (.text expanded) literal ∧ Literal.tagged? literal = some (tag, body) ∧ tag.Exceeds body fault := by
    intro source
    rw [undeclared_bind, or_iff_right Shorthand.not_undeclared_expand]
    constructor
    · rintro ⟨expanded, done, undeclared⟩
      obtain ⟨literal, reaches, failed⟩ := read_undeclared_iff.mp undeclared
      obtain ⟨tag, body, tagged, exceeds⟩ := Literal.value_undeclared_iff.mp failed
      exact ⟨expanded, literal, tag, body, done, reaches, tagged, exceeds⟩
    · rintro ⟨expanded, literal, tag, body, done, reaches, tagged, exceeds⟩
      have failed := Literal.value_undeclared_iff.mpr ⟨tag, body, tagged, exceeds⟩
      exact ⟨expanded, done, read_undeclared_iff.mpr ⟨literal, reaches, failed⟩⟩
  by_cases mark : text.toList.head? = some '?'
  · obtain ⟨rest, split⟩ := List.head?_eq_some_iff.mp mark
    have failed : parse text = .error (.parse (.questionMark text)) := by
      rw [parse, split]
      rfl
    rw [failed]
    exact iff_of_false (not_undeclared_error rfl) fun both => both.1 mark
  · by_cases filled : text.toList = []
    · have failed : parse text = .error (.parse .empty) := by rw [parse, filled]
      rw [failed, filled]
      refine iff_of_false (not_undeclared_error rfl) ?_
      rintro ⟨_, expanded, literal, tag, body, done, reaches, _⟩
      cases done
      exact not_reaches_nil reaches
    · rw [parse_eq filled mark, literals, and_iff_right mark]

/-- A repeat count beyond the greatest one ends with an error that is not declared. -/
theorem parse_repeatCount :
    ¬ ∀ text : String, (∃ query, parse text = .ok query) ∨ ∃ fault, parse text = .error fault ∧ fault.isDeclared = true := by
  intro declared
  have test : (match parse "f(re:a\x7b9999999999\x7d)" with
      | .ok _ => false
      | .error fault => decide (fault = .repeatCount)) = true := by decide +kernel
  rcases declared "f(re:a\x7b9999999999\x7d)" with ⟨query, done⟩ | ⟨fault, failed, known⟩
  · rw [done] at test
    cases test
  · rw [failed] at test
    obtain rfl : fault = .repeatCount := of_decide_eq_true test
    cases known

end Query
end ResourceQuery
