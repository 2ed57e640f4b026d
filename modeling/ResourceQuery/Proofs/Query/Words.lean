import ResourceQuery.Proofs.Query.Range

/-!
Which nodes are named by words. In a text without `&` and `|` every call among arguments is a single
one (`Query.readWithin_leaf`), and so all nodes among the arguments of its calls are named by words
(`Query.callArguments_words`).
-/
namespace ResourceQuery.Query

/-- A text in which only commas separate terms. -/
def Unjoined (text : List Char) : Prop := ∀ c ∈ text, c ≠ '&' ∧ c ≠ '|'

instance : DecidablePred Unjoined := fun text => inferInstanceAs (Decidable (∀ c ∈ text, c ≠ '&' ∧ c ≠ '|'))

theorem Unjoined.subset {text part : List Char} (unjoined : Unjoined text) (inside : ∀ c ∈ part, c ∈ text) :
    Unjoined part := fun c member => unjoined c (inside c member)

theorem separator?_unjoined {c : Char} {connective : Connective} (separates : separator? c = some connective)
    (unjoined : c ≠ '&' ∧ c ≠ '|') : c = ',' ∧ connective = .and := by
  unfold separator? at separates
  split at separates
  · rename_i either
    exact ⟨either.resolve_left unjoined.1, (Option.some.inj separates).symm⟩
  · rw [if_neg unjoined.2] at separates
    cases separates

/-- A separator token at the start of a text has nothing but blanks before it. -/
theorem tokens_separator {text : List Char} {connective : Connective} {more : List Token}
    (split : tokens text = .separator connective :: more) :
    ∃ blanks c rest, text = blanks ++ c :: rest ∧ (∀ d ∈ blanks, Text.isBlank d = true) ∧ separator? c = some connective := by
  induction text with
  | nil => cases split
  | cons c text ih =>
    rw [tokens] at split
    cases separates : separator? c with
    | some other =>
      rw [tokensFrom_separator _ separates] at split
      cases split
      exact ⟨[], c, text, rfl, by simp, separates⟩
    | none =>
      by_cases opens : c = '('
      · subst opens
        rw [tokensFrom.eq_def] at split
        simp only [separates, if_true] at split
        split at split <;> cases split
      · cases blank : Text.isBlank c with
        | true =>
          rw [tokensFrom_blank _ separates blank] at split
          obtain ⟨blanks, d, rest, rfl, each, found⟩ := ih split
          exact ⟨c :: blanks, d, rest, rfl, List.forall_mem_cons.mpr ⟨blank, each⟩, found⟩
        | false =>
          rw [tokensFrom_char _ separates opens blank] at split
          cases split

theorem segments_empty {line : List Token} (none : (segments line).1 = []) :
    line = [] ∨ ∃ connective rest, line = .separator connective :: rest := by
  cases line with
  | nil => exact .inl rfl
  | cons token rest =>
    cases token with
    | separator connective => exact .inr ⟨connective, rest, rfl⟩
    | _ => simp [segments] at none

/-- The text of a call: its name, the inside of a group, and what follows. -/
theorem startsCall_split {raw : List Char} (call : startsCall raw = true) :
    ∃ name rest, raw = name ++ '(' :: rest ∧ IsWord name := by
  simp only [startsCall, Bool.and_eq_true, Bool.not_eq_true', List.isEmpty_eq_false_iff, decide_eq_true_eq] at call
  obtain ⟨rest, opening⟩ := List.head?_eq_some_iff.mp call.2
  refine ⟨raw.takeWhile Text.isWord, rest, ?_, call.1, fun c member => List.mem_takeWhile_imp member⟩
  rw [← opening, List.takeWhile_append_dropWhile]

/-- The tokens of a name in front of a group. -/
theorem tokens_call {name rest : List Char} (valid : IsName name) :
    (tokens (name ++ '(' :: rest) = name.map Token.char ++ [Token.unclosed ('(' :: rest)] ∧ Group.upTo? 0 none rest = none) ∨
      ∃ inside after, rest = inside ++ ')' :: after ∧ Group.upTo? 0 none rest = some inside ∧
        tokens (name ++ '(' :: rest) = name.map Token.char ++ Token.group inside :: tokens after := by
  have start : separator? '(' = none := by decide
  rw [tokens, tokensFrom_name valid]
  cases closed : Group.upTo? 0 none rest with
  | none =>
    refine .inl ⟨?_, rfl⟩
    rw [tokensFrom.eq_def]
    simp [start, closed]
  | some inside =>
    obtain ⟨after, rfl, _⟩ := Group.upTo?_eq_some closed
    refine .inr ⟨inside, after, rfl, rfl, ?_⟩
    have skip := tokensFrom_skip after (inside ++ [')'])
    rw [List.length_append, List.append_assoc] at skip
    rw [tokensFrom_group _ closed]
    exact congrArg (name.map Token.char ++ Token.group inside :: ·) skip

/-- The query of a text that starts with a call, by the query of the call. -/
theorem readWithin_first {name rest : List Char} (valid : IsName name) {depth : Nat} {query : Query}
    (done : readWithin depth (name ++ '(' :: rest) = .ok query) :
    ∃ less inside after args queries, depth = less + 1 ∧ rest = inside ++ ')' :: after ∧
      Group.upTo? 0 none rest = some inside ∧ callArguments (readWithin less) inside = .ok args ∧
      (segments (tokens after)).1 = [] ∧
      terms (term (readWithin less) (callArguments (readWithin less)) (name ++ '(' :: rest)) (segments (tokens after)).2 =
        .ok queries ∧
      query = join ⟨String.ofList name, args⟩ queries := by
  obtain _ | depth := depth
  · cases done
  obtain ⟨first, read, later⟩ := Outcome.bind_eq_ok_iff.mp done
  obtain ⟨queries, others, same⟩ := Outcome.bind_eq_ok_iff.mp later
  cases same
  have firstSingle := (@mem_segments (tokens (name ++ '(' :: rest))).1
  rcases @tokens_call name rest valid with ⟨line, _⟩ | ⟨inside, after, rfl, closed, line⟩
  · have single : ∀ connective, Token.separator connective ∉ name.map Token.char ++ [Token.unclosed ('(' :: rest)] := by simp
    rw [line, segments_single single] at read
    rcases term_eq_ok single read with ⟨_, _, same, _⟩ | ⟨_, same, _⟩ | ⟨_, _, _, _, same, _⟩
    all_goals
      have here : Token.unclosed ('(' :: rest) ∈ name.map Token.char ++ [Token.unclosed ('(' :: rest)] := by simp
      rw [same] at here
      simp at here
  · have single : ∀ connective, Token.separator connective ∉ name.map Token.char ++ [Token.group inside] := by simp
    have parts : segments (tokens (name ++ '(' :: (inside ++ ')' :: after))) =
        (name.map Token.char ++ Token.group inside :: (segments (tokens after)).1, (segments (tokens after)).2) := by
      rw [line, List.append_cons, segments_first single, List.append_assoc]
      rfl
    rw [parts] at read others firstSingle
    obtain ⟨empty, args, reads, same⟩ : (segments (tokens after)).1 = [] ∧
        ∃ args, callArguments (readWithin depth) inside = .ok args ∧ first = ⟨String.ofList name, args⟩ := by
      have split := splitName_chars name (.group inside :: (segments (tokens after)).1) (by simp)
      rw [term] at read
      simp only [split, List.isEmpty_iff, valid.some, if_false] at read
      obtain ⟨args, reads, finish⟩ := Outcome.bind_eq_ok_iff.mp read
      rw [Outcome.pure_eq, Outcome.ok_bind] at finish
      obtain ⟨_, alone, same⟩ := Outcome.bind_eq_ok_iff.mp finish
      cases same
      exact ⟨nothingAfter_eq_ok alone, args, reads, rfl⟩
    subst same
    exact ⟨depth, inside, after, args, queries, rfl, rfl, closed, reads, empty, others, rfl⟩

theorem mem_of_separator {skip : Nat} {text : List Char} {connective : Connective}
    (member : Token.separator connective ∈ tokensFrom skip text) : ∃ c ∈ text, separator? c = some connective := by
  fun_induction tokensFrom skip text with
  | case1 => cases member
  | case2 skip d rest ih => exact (ih member).imp fun c held => held.imp_left (List.mem_cons_of_mem _)
  | case3 d rest other separates ih =>
    rcases List.mem_cons.mp member with same | later
    · cases same
      exact ⟨d, List.mem_cons_self, separates⟩
    · exact (ih later).imp fun c held => held.imp_left (List.mem_cons_of_mem _)
  | case4 rest body found noSeparator ih =>
    exact (ih (by simpa using member)).imp fun c held => held.imp_left (List.mem_cons_of_mem _)
  | case5 rest noSeparator found => simp at member
  | case6 d rest noSeparator noOpen blank ih =>
    exact (ih member).imp fun c held => held.imp_left (List.mem_cons_of_mem _)
  | case7 d rest noSeparator noOpen noBlank ih =>
    exact (ih (by simpa using member)).imp fun c held => held.imp_left (List.mem_cons_of_mem _)

theorem segments_separator (line : List Token) : ∀ part ∈ (segments line).2, Token.separator part.1 ∈ line := by
  induction line with
  | nil => simp [segments]
  | cons token rest ih =>
    cases token with
    | separator connective =>
      rintro part member
      rcases List.mem_cons.mp member with rfl | later
      · exact List.mem_cons_self
      · exact List.mem_cons_of_mem _ (ih part later)
    | _ => exact fun part member => List.mem_cons_of_mem _ (ih part member)

theorem segments_unjoined {text : List Char} (unjoined : Unjoined text) :
    ∀ part ∈ (segments (tokens text)).2, part.1 = .and := by
  intro part member
  obtain ⟨c, inside, separates⟩ := mem_of_separator (segments_separator _ part member)
  exact (separator?_unjoined separates (unjoined c inside)).2

theorem terms_connectives {read : List Token → Except Error Query} {rest : List (Connective × List Token)}
    {queries : List (Connective × Query)} (done : terms read rest = .ok queries) :
    queries.map Prod.fst = rest.map Prod.fst := by
  induction rest generalizing queries with
  | nil =>
    cases done
    rfl
  | cons part rest ih =>
    obtain ⟨head, first, later⟩ := Outcome.bind_eq_ok_iff.mp done
    obtain ⟨tail, others, same⟩ := Outcome.bind_eq_ok_iff.mp later
    cases same
    rw [List.map_cons, List.map_cons, ih others]

/-- A text without connective signs that starts with a call is this call, or a conjunction of it with
terms behind commas. -/
theorem readWithin_call_first {name rest : List Char} (valid : IsName name) (unjoined : Unjoined rest) {depth : Nat}
    {query : Query} (done : readWithin depth (name ++ '(' :: rest) = .ok query) :
    ∃ less inside after args, depth = less + 1 ∧ rest = inside ++ ')' :: after ∧
      Group.upTo? 0 none rest = some inside ∧ callArguments (readWithin less) inside = .ok args ∧
      (query = ⟨String.ofList name, args⟩ ∨
        (∃ blanks more, after = blanks ++ ',' :: more ∧ ∀ d ∈ blanks, Text.isBlank d = true) ∧
          ∃ others, query = ⟨"and", .node (.text (String.ofList name)) args :: others⟩) := by
  obtain ⟨less, inside, after, args, queries, deep, rfl, closed, reads, empty, others, rfl⟩ := readWithin_first valid done
  refine ⟨less, inside, after, args, deep, rfl, closed, reads, ?_⟩
  have unjoinedAfter : Unjoined after := unjoined.subset fun c member => by simp [member]
  rcases segments_empty empty with none | ⟨connective, line, split⟩
  · rw [none] at others
    cases others
    exact .inl rfl
  · obtain ⟨blanks, c, more, rfl, blank, separates⟩ := tokens_separator split
    obtain ⟨rfl, rfl⟩ := separator?_unjoined separates (unjoinedAfter c (by simp))
    have connectives := terms_connectives others
    have all : ∀ part ∈ queries, part.1 = .and := by
      intro part member
      have listed : part.1 ∈ (segments (tokens (blanks ++ ',' :: more))).2.map Prod.fst :=
        connectives ▸ List.mem_map_of_mem member
      obtain ⟨other, found, same⟩ := List.mem_map.mp listed
      rw [← same]
      exact segments_unjoined unjoinedAfter other found
    obtain _ | ⟨⟨top, next⟩, queries⟩ := queries
    · rw [split] at connectives
      cases connectives
    · rw [List.forall_mem_cons] at all
      obtain rfl : top = .and := all.1
      refine .inr ⟨⟨blanks, more, rfl, blank⟩, (next :: queries.map Prod.snd).map toValue, ?_⟩
      rw [join, joinFrom_same all.2]
      rfl

/-- In a text without connective signs, a call among arguments is a single one. -/
theorem readWithin_leaf {name rest : List Char} (word : IsWord name) (unjoined : Unjoined rest)
    (single : Argument.Piece.plain ',' ∉ Argument.pieces (name ++ '(' :: rest)) {depth : Nat} {query : Query}
    (done : readWithin depth (name ++ '(' :: rest) = .ok query) :
    ∃ less inside after args, depth = less + 1 ∧ rest = inside ++ ')' :: after ∧ Group.upTo? 0 none rest = some inside ∧
      callArguments (readWithin less) inside = .ok args ∧ query = ⟨String.ofList name, args⟩ := by
  obtain ⟨less, inside, after, args, deep, rfl, closed, reads, alone | ⟨⟨blanks, more, rfl, blank⟩, _⟩⟩ :=
    readWithin_call_first word.isName unjoined done
  · exact ⟨less, inside, after, args, deep, rfl, closed, reads, alone⟩
  · refine absurd ?_ single
    rw [Argument.pieces_append (balanced_word word.word), Argument.pieces_closed _ closed, Argument.pieces_blanks blank,
      Argument.pieces_plain _ (by decide) (by decide) (by decide)]
    simp

/-- **In a text without connective signs, all nodes among arguments are named by words.** -/
theorem callArguments_words {depth : Nat} {inside : List Char} (unjoined : Unjoined inside) {args : List Value}
    (done : callArguments (readWithin depth) inside = .ok args) : Value.AllSound IsWord args := by
  induction depth using Nat.strong_induction_on generalizing inside args with
  | _ depth ih =>
    refine callArguments_sound ?_ done
    intro raw query cut call read
    obtain ⟨name, rest, rfl, word⟩ := startsCall_split call
    have unjoinedRest : Unjoined rest := unjoined.subset fun c member => cut.chars c (by simp [member])
    obtain ⟨less, body, after, args, deep, rfl, _, reads, rfl⟩ := readWithin_leaf word unjoinedRest cut.single read
    exact ⟨by simpa using word, ih less (by omega) (unjoinedRest.subset fun c member => by simp [member]) reads⟩

end ResourceQuery.Query
