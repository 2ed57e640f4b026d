import ResourceQuery.Proofs.Query.Parts

/-!
Terms and texts of terms. Tokens of a text whose groups are closed do not depend on what comes
after it (`tokens_append`), a query that was read does not depend on the depth (`readWithin_deep`), and
so a text of terms is read term by term (`read_sequence`).
-/
namespace ResourceQuery.Query

/-- The characters of a class are no separators if no separator is in the class. -/
theorem separator?_of_class {isIn : Char → Bool} {c : Char} (inside : isIn c = true)
    (outside : ∀ sign ∈ ['&', ',', '|'], isIn sign = false) : separator? c = none := by
  have differs : ∀ sign ∈ ['&', ',', '|'], c ≠ sign := fun sign member => Text.ne_of_class inside (outside sign member)
  simp only [List.forall_mem_cons] at differs
  simp [separator?, differs]

section
variable {c : Char} (rest : List Char)

theorem tokensFrom_separator {connective : Connective} (separates : separator? c = some connective) :
    tokensFrom 0 (c :: rest) = .separator connective :: tokensFrom 0 rest := by
  rw [tokensFrom.eq_def]
  simp [separates]

theorem tokensFrom_blank (noSeparator : separator? c = none) (blank : Text.isBlank c = true) :
    tokensFrom 0 (c :: rest) = tokensFrom 0 rest := by
  have noOpen : c ≠ '(' := Text.ne_of_class blank (by decide)
  rw [tokensFrom.eq_def]
  simp [noSeparator, blank, noOpen]

theorem tokensFrom_char (noSeparator : separator? c = none) (noOpen : c ≠ '(') (noBlank : Text.isBlank c = false) :
    tokensFrom 0 (c :: rest) = .char c :: tokensFrom 0 rest := by
  rw [tokensFrom.eq_def]
  simp [noSeparator, noBlank, noOpen]

theorem tokensFrom_group {inside : List Char} (closed : Group.upTo? 0 none rest = some inside) :
    tokensFrom 0 ('(' :: rest) = .group inside :: tokensFrom (inside.length + 1) rest := by
  have noSeparator : separator? '(' = none := by decide
  rw [tokensFrom.eq_def]
  simp [noSeparator, closed]

theorem tokensFrom_skip (text : List Char) : tokensFrom text.length (text ++ rest) = tokensFrom 0 rest := by
  induction text with
  | nil => rfl
  | cons c text ih => simpa [tokensFrom] using ih

end

/-- Where all groups are closed, the tokens of a text stay as they are when more text follows. -/
theorem tokensFrom_append {skip : Nat} {text : List Char} (inside : skip ≤ text.length)
    (closed : ∀ opened, Token.unclosed opened ∉ tokensFrom skip text) (more : List Char) :
    tokensFrom skip (text ++ more) = tokensFrom skip text ++ tokensFrom 0 more := by
  fun_induction tokensFrom skip text with
  | case1 skip =>
    obtain rfl : skip = 0 := by simpa using inside
    rfl
  | case2 skip c rest ih => simpa [tokensFrom] using ih (by simpa using inside) closed
  | case3 c rest connective separates ih =>
    rw [List.cons_append, tokensFrom_separator _ separates,
      ih (Nat.zero_le _) fun opened member => closed opened (List.mem_cons_of_mem _ member)]
    rfl
  | case4 rest body found noSeparator ih =>
    obtain ⟨after, rfl, _⟩ := Group.upTo?_eq_some found
    rw [List.cons_append, tokensFrom_group _ (Group.upTo?_append found more),
      ih (by simp) fun opened member => closed opened (List.mem_cons_of_mem _ member)]
    rfl
  | case5 rest noSeparator found => exact absurd (List.mem_singleton.mpr rfl) (closed _)
  | case6 c rest noSeparator noOpen blank ih =>
    rw [List.cons_append, tokensFrom_blank _ noSeparator blank, ih (Nat.zero_le _) closed]
  | case7 c rest noSeparator noOpen noBlank ih =>
    rw [List.cons_append, tokensFrom_char _ noSeparator noOpen (by simpa using noBlank),
      ih (Nat.zero_le _) fun opened member => closed opened (List.mem_cons_of_mem _ member)]
    rfl

theorem tokens_append {text : List Char} (closed : ∀ opened, Token.unclosed opened ∉ tokens text)
    (more : List Char) : tokens (text ++ more) = tokens text ++ tokens more :=
  tokensFrom_append (Nat.zero_le _) closed more

/-- Tokens that are no separators belong to the first term. -/
theorem segments_first {line : List Token} (single : ∀ connective, Token.separator connective ∉ line) (rest : List Token) :
    segments (line ++ rest) = (line ++ (segments rest).1, (segments rest).2) := by
  induction line with
  | nil => rfl
  | cons token line ih =>
    have later := ih fun connective member => single connective (List.mem_cons_of_mem _ member)
    cases token with
    | separator connective => exact absurd List.mem_cons_self (single connective)
    | _ => simp [segments, later]

theorem segments_single {line : List Token} (single : ∀ connective, Token.separator connective ∉ line) :
    segments line = (line, []) := by
  have alone := segments_first single []
  rwa [segments, List.append_nil] at alone

theorem segments_append {line : List Token} (single : ∀ connective, Token.separator connective ∉ line)
    (connective : Connective) (rest : List Token) :
    segments (line ++ .separator connective :: rest) =
      (line, (connective, (segments rest).1) :: (segments rest).2) := by
  rw [segments_first single, segments, List.append_nil]

theorem splitName_chars (name : List Char) (rest : List Token) (stop : ∀ c, rest.head? ≠ some (.char c)) :
    splitName (name.map Token.char ++ rest) = (name, rest) := by
  induction name with
  | nil =>
    cases rest with
    | nil => rfl
    | cons token rest =>
      cases token with
      | char c => exact absurd rfl (stop c)
      | _ => rfl
  | cons c name ih => simp [splitName, ih]

theorem splitName_eq (line : List Token) :
    line = (splitName line).1.map .char ++ (splitName line).2 ∧ ∀ c, (splitName line).2.head? ≠ some (.char c) := by
  fun_induction splitName line with
  | case1 c rest name tail split ih =>
    rw [split] at ih
    exact ⟨by simp [ih.1], ih.2⟩
  | case2 line noChar =>
    refine ⟨rfl, ?_⟩
    rintro c first
    cases line with
    | nil => cases first
    | cons token rest =>
      obtain rfl : token = .char c := by simpa using first
      exact noChar c rest rfl

section
variable {nested wider : List Char → Except Error Query} {arguments more : List Char → Except Error (List Value)}

theorem term_name (whole : List Char) {name : List Char} (named : name ≠ []) :
    term nested arguments whole (name.map .char) = .ok ⟨String.ofList name, []⟩ := by
  have split := splitName_chars name [] (by simp)
  rw [List.append_nil] at split
  simp [term, split, named]

theorem term_group (whole inside : List Char) :
    term nested arguments whole [.group inside] = nested inside := by
  cases read : nested inside with
  | error fault => simp [term, splitName, read]
  | ok query => simp [term, splitName, read, nothingAfter]

theorem term_call (whole : List Char) {name : List Char} (named : name ≠ []) (inside : List Char) :
    term nested arguments whole (name.map Token.char ++ [Token.group inside]) =
      (arguments inside).map fun args => ⟨String.ofList name, args⟩ := by
  have split := splitName_chars name [.group inside] (by simp)
  cases read : arguments inside with
  | error fault => simp [term, split, named, read]
  | ok args => simp [term, split, named, read, nothingAfter]

theorem nothingAfter_eq_ok {whole : List Char} {name : String} {rest : List Token}
    (nothing : nothingAfter whole name rest = .ok ()) : rest = [] := by
  cases rest with
  | nil => rfl
  | cons token rest => cases token <;> cases nothing

/-- A term is a name, a group, or a name and a group. -/
theorem term_eq_ok {whole : List Char} {line : List Token} {query : Query}
    (single : ∀ connective, Token.separator connective ∉ line)
    (done : term nested arguments whole line = .ok query) :
    (∃ name, name ≠ [] ∧ line = name.map .char ∧ query = ⟨String.ofList name, []⟩) ∨
    (∃ inside, line = [.group inside] ∧ nested inside = .ok query) ∨
    (∃ name inside args, name ≠ [] ∧ line = name.map Token.char ++ [Token.group inside] ∧ arguments inside = .ok args ∧
      query = ⟨String.ofList name, args⟩) := by
  obtain ⟨split, noChar⟩ := splitName_eq line
  unfold term at done
  generalize splitName line = parts at split noChar done
  obtain ⟨name, rest⟩ := parts
  subst split
  simp only at single noChar done ⊢
  by_cases named : name = []
  · subst named
    cases rest with
    | nil => simp at done
    | cons token rest =>
      cases token with
      | separator connective => exact absurd (List.mem_append_right _ List.mem_cons_self) (single connective)
      | char c => exact absurd rfl (noChar c)
      | unclosed text => cases done
      | group inside =>
        obtain ⟨built, head, finish⟩ := Outcome.bind_eq_ok_iff.mp done
        obtain ⟨_, alone, same⟩ := Outcome.bind_eq_ok_iff.mp finish
        cases same
        obtain rfl := nothingAfter_eq_ok alone
        exact .inr (.inl ⟨inside, rfl, head⟩)
  · cases rest with
    | nil =>
      rw [if_neg (by simpa using named)] at done
      cases done
      exact .inl ⟨name, named, by simp, rfl⟩
    | cons token rest =>
      cases token with
      | separator connective => exact absurd (List.mem_append_right _ List.mem_cons_self) (single connective)
      | char c => exact absurd rfl (noChar c)
      | unclosed text => cases done
      | group inside =>
        simp only [List.isEmpty_iff, named, if_false] at done
        obtain ⟨args, read, finish⟩ := Outcome.bind_eq_ok_iff.mp done
        rw [Outcome.pure_eq, Outcome.ok_bind] at finish
        obtain ⟨_, alone, same⟩ := Outcome.bind_eq_ok_iff.mp finish
        cases same
        obtain rfl := nothingAfter_eq_ok alone
        exact .inr (.inr ⟨name, inside, args, named, rfl, read, rfl⟩)

end

section
variable {nested wider : List Char → Except Error Query} {bound : Nat}

mutual

/-- A reader that reads more calls shorter than a bound gives no other values. -/
theorem argument_mono (more : ∀ part query, part.length < bound → nested part = .ok query → wider part = .ok query)
    {inside : List Char} (short : inside.length < bound) : ∀ {item : Argument} {value : Value}, item.CutFrom inside →
      argument nested item = .ok value → argument wider item = .ok value
  | .leaf raw, value, cut, done => by
    unfold argument at done ⊢
    by_cases call : startsCall raw.toList
    · rw [if_pos call] at done ⊢
      obtain ⟨query, read, same⟩ := Outcome.map_eq_ok_iff.mp done
      have shorter : raw.toList.length ≤ inside.length := cut.inside.length_le
      exact Outcome.map_eq_ok_iff.mpr ⟨query, more _ _ (by omega) read, same⟩
    · rw [if_neg call] at done ⊢
      exact done
  | .array items, value, cut, done => by
    unfold argument at done ⊢
    obtain ⟨values, read, same⟩ := Outcome.map_eq_ok_iff.mp done
    exact Outcome.map_eq_ok_iff.mpr ⟨values, argumentList_mono more short cut read, same⟩

theorem argumentList_mono (more : ∀ part query, part.length < bound → nested part = .ok query → wider part = .ok query)
    {inside : List Char} (short : inside.length < bound) : ∀ {items : List Argument} {values : List Value},
      Argument.AllCutFrom inside items → argumentList nested items = .ok values → argumentList wider items = .ok values
  | [], values, _, done => done
  | item :: rest, values, cut, done => by
    unfold argumentList at done ⊢
    obtain ⟨head, first, later⟩ := Outcome.bind_eq_ok_iff.mp done
    obtain ⟨tail, others, same⟩ := Outcome.bind_eq_ok_iff.mp later
    rw [argument_mono more short cut.1 first, Outcome.ok_bind, argumentList_mono more short cut.2 others]
    exact same

end

variable (more : ∀ part query, part.length < bound → nested part = .ok query → wider part = .ok query)
include more

theorem callArguments_mono {inside : List Char} (short : inside.length < bound) {values : List Value}
    (done : callArguments nested inside = .ok values) : callArguments wider inside = .ok values := by
  obtain ⟨items, split, read⟩ := Outcome.bind_eq_ok_iff.mp done
  exact Outcome.bind_eq_ok_iff.mpr ⟨items, split, argumentList_mono more short (Argument.split_cut split) read⟩

theorem term_mono {whole : List Char} (larger : List Char) {line : List Token} {query : Query}
    (single : ∀ connective, Token.separator connective ∉ line) (short : ∀ inside, .group inside ∈ line → inside.length < bound)
    (done : term nested (callArguments nested) whole line = .ok query) :
    term wider (callArguments wider) larger line = .ok query := by
  rcases term_eq_ok single done with ⟨name, named, rfl, rfl⟩ | ⟨inside, rfl, read⟩ |
      ⟨name, inside, args, named, rfl, read, rfl⟩
  · exact term_name larger named
  · rw [term_group]
    exact more _ _ (short inside List.mem_cons_self) read
  · rw [term_call larger named, callArguments_mono more (short inside (by simp)) read]
    rfl

theorem terms_mono {whole : List Char} (larger : List Char) {rest : List (Connective × List Token)}
    {read : List (Connective × Query)} (single : ∀ part ∈ rest, ∀ connective, Token.separator connective ∉ part.2)
    (short : ∀ part ∈ rest, ∀ inside, .group inside ∈ part.2 → inside.length < bound)
    (done : terms (term nested (callArguments nested) whole) rest = .ok read) :
    terms (term wider (callArguments wider) larger) rest = .ok read := by
  induction rest generalizing read with
  | nil => exact done
  | cons part rest ih =>
    rw [List.forall_mem_cons] at single short
    obtain ⟨head, first, later⟩ := Outcome.bind_eq_ok_iff.mp done
    obtain ⟨tail, others, same⟩ := Outcome.bind_eq_ok_iff.mp later
    rw [terms, term_mono more larger single.1 short.1 first, Outcome.ok_bind, ih single.2 short.2 others]
    exact same

end

theorem mem_segments {line : List Token} :
    (∀ connective, Token.separator connective ∉ (segments line).1) ∧
      ∀ part ∈ (segments line).2, ∀ connective, Token.separator connective ∉ part.2 := by
  induction line with
  | nil => simp [segments]
  | cons token rest ih =>
    obtain ⟨first, others⟩ := ih
    cases token with
    | separator connective =>
      refine ⟨by simp [segments], ?_⟩
      rintro part member
      rcases List.mem_cons.mp member with rfl | later
      · exact first
      · exact others part later
    | _ => exact ⟨by simpa [segments] using first, by simpa [segments] using others⟩

/-- A query that was read at some depth is read at any that is greater than the text is long. -/
theorem readWithin_deep {depth deeper : Nat} {text : List Char} (deep : text.length < deeper) {query : Query}
    (done : readWithin depth text = .ok query) : readWithin deeper text = .ok query := by
  induction deeper generalizing depth text query with
  | zero => omega
  | succ deeper ih =>
    obtain _ | depth := depth
    · cases done
    have more : ∀ part query, part.length < text.length → readWithin depth part = .ok query →
        readWithin deeper part = .ok query := fun part query shorter read => ih (by omega) read
    obtain ⟨firstSingle, othersSingle⟩ := @mem_segments (tokens text)
    obtain ⟨firstIn, othersIn⟩ := segments_mem (tokens text)
    have firstShort := fun inside member => @group_shorter text inside (firstIn _ member)
    have othersShort := fun part member inside held => @group_shorter text inside (othersIn part member _ held)
    obtain ⟨head, first, later⟩ := Outcome.bind_eq_ok_iff.mp done
    obtain ⟨tail, others, same⟩ := Outcome.bind_eq_ok_iff.mp later
    rw [readWithin]
    simp only [term_mono more text firstSingle firstShort first, Outcome.ok_bind,
      terms_mono more text othersSingle othersShort others]
    exact same

/-! ### Texts of terms -/

/-- A text that is one term, read alone as a query: a name, a call or a group, with no separator
outside groups. -/
structure IsTerm (text : List Char) (query : Query) : Prop where
  single : ∀ connective, Token.separator connective ∉ tokens text
  reads : read text = .ok query

/-- A term is read by the reader of terms, whatever text it stands in. -/
theorem IsTerm.term_eq {text : List Char} {query : Query} (one : IsTerm text query) {depth : Nat}
    (deep : text.length ≤ depth) (whole : List Char) :
    term (readWithin depth) (callArguments (readWithin depth)) whole (tokens text) = .ok query := by
  have reads := one.reads
  simp only [read, readWithin, segments_single one.single, terms, Outcome.ok_bind] at reads
  obtain ⟨head, first, same⟩ := Outcome.bind_eq_ok_iff.mp reads
  cases same
  exact term_mono (fun _ _ shorter done => readWithin_deep (by omega) done) whole one.single
    (fun inside member => group_shorter member) first

theorem IsTerm.closed {text : List Char} {query : Query} (one : IsTerm text query) (opened : List Char) :
    Token.unclosed opened ∉ tokens text := by
  intro member
  rcases term_eq_ok one.single (one.term_eq (Nat.le_refl _) []) with ⟨name, _, line, _⟩ | ⟨inside, line, _⟩ |
      ⟨name, inside, args, _, line, _, _⟩
  all_goals simp [line] at member

/-- A term behind a separator. -/
structure Joint where
  separator : Char
  connective : Connective
  text : List Char
  query : Query

/-- The separator stands for the connective, and the text is a term that reads as the query. -/
structure Joint.Valid (joint : Joint) : Prop where
  separates : separator? joint.separator = some joint.connective
  term : IsTerm joint.text joint.query

/-- The text of a term and of the terms behind separators that follow it. -/
def sequence (first : List Char) (rest : List Joint) : List Char :=
  first ++ rest.flatMap fun joint => joint.separator :: joint.text

theorem segments_sequence {first : List Char} {query : Query} {rest : List Joint} (head : IsTerm first query)
    (valid : ∀ joint ∈ rest, joint.Valid) :
    segments (tokens (sequence first rest)) =
      (tokens first, rest.map fun joint => (joint.connective, tokens joint.text)) := by
  induction rest generalizing first query with
  | nil => simpa [sequence] using segments_single head.single
  | cons joint rest ih =>
    obtain ⟨separates, one⟩ := valid joint List.mem_cons_self
    have later := ih one fun other member => valid other (List.mem_cons_of_mem _ member)
    have line : tokens (sequence first (joint :: rest)) =
        tokens first ++ .separator joint.connective :: tokens (sequence joint.text rest) := by
      rw [sequence, tokens_append head.closed, List.flatMap_cons, List.cons_append]
      exact congrArg (tokens first ++ ·) (tokensFrom_separator _ separates)
    rw [line, segments_append head.single, later]
    rfl

/-- Terms that one connective joins are the arguments of one node. -/
theorem joinFrom_same {top : Connective} {done : List Query} {last : Query} {rest : List (Connective × Query)}
    (all : ∀ part ∈ rest, part.1 = top) :
    joinFrom top done last rest = joined top (done ++ last :: rest.map Prod.snd) := by
  induction rest generalizing done last with
  | nil => rfl
  | cons part rest ih =>
    obtain ⟨connective, next⟩ := part
    rw [List.forall_mem_cons] at all
    obtain rfl : connective = top := all.1
    unfold joinFrom
    rw [if_pos rfl, ih all.2]
    simp

/-- A text of terms reads as the tree of the queries that the terms read as. -/
theorem read_sequence {first : List Char} {query : Query} {rest : List Joint} (head : IsTerm first query)
    (valid : ∀ joint ∈ rest, joint.Valid) :
    read (sequence first rest) = .ok (join query (rest.map fun joint => (joint.connective, joint.query))) := by
  have shorter : ∀ joint ∈ rest, joint.text.length ≤ (sequence first rest).length := by
    intro joint member
    obtain ⟨before, after, rfl⟩ := List.append_of_mem member
    simp [sequence]
    omega
  have each : ∀ part : List Joint, (∀ joint ∈ part, joint ∈ rest) →
      terms (term (readWithin (sequence first rest).length) (callArguments (readWithin (sequence first rest).length))
        (sequence first rest)) (part.map fun joint => (joint.connective, tokens joint.text)) =
      .ok (part.map fun joint => (joint.connective, joint.query)) := by
    intro part members
    induction part with
    | nil => rfl
    | cons joint part ih =>
      have member := members joint List.mem_cons_self
      rw [List.map_cons, terms, (valid joint member).term.term_eq (shorter joint member), Outcome.ok_bind,
        ih fun other later => members other (List.mem_cons_of_mem _ later)]
      rfl
  have longer : first.length ≤ (sequence first rest).length := by simp [sequence]
  have start := head.term_eq longer (sequence first rest)
  rw [read, readWithin, segments_sequence head valid]
  simp only [start, Outcome.ok_bind, each rest fun _ member => member]
  rfl

end ResourceQuery.Query
