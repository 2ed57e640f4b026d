import ResourceQuery.Proofs.Query.Terms

/-!
The grammar of queries. A text is scanned into tokens outside groups (`Scan`), separators divide
these into segments, and each segment is a name, a call or a group (`Denotes`). A text is read
exactly if it has such a form, and then as the tree of what its segments denote (`read_eq_ok_iff`).
-/
namespace ResourceQuery.Query

/-- The tokens of a text in which every group outside groups is closed. -/
inductive Scan : List Char → List Token → Prop
  | nil : Scan [] []
  | separator {c : Char} {rest : List Char} {connective : Connective} {line : List Token}
    (separates : separator? c = some connective) (more : Scan rest line) : Scan (c :: rest) (.separator connective :: line)
  | group {inside after : List Char} {line : List Token} (closed : Group.inside? ('(' :: inside ++ ')' :: after) = some inside)
    (more : Scan after line) : Scan ('(' :: inside ++ ')' :: after) (.group inside :: line)
  | blank {c : Char} {rest : List Char} {line : List Token} (blank : Text.isBlank c = true) (more : Scan rest line) :
    Scan (c :: rest) line
  | char {c : Char} {rest : List Char} {line : List Token} (noSeparator : separator? c = none) (noOpen : c ≠ '(')
    (noBlank : Text.isBlank c = false) (more : Scan rest line) : Scan (c :: rest) (.char c :: line)

/-- What a segment denotes. -/
inductive Denotes : List Token → Query → Prop
  /-- A name alone has no arguments. -/
  | name {name : List Char} (named : name ≠ []) : Denotes (name.map .char) ⟨String.ofList name, []⟩
  /-- A name and one group, which is divided into arguments that are all read. -/
  | call {name inside : List Char} {items : List Argument} {args : List Value} (named : name ≠ [])
    (split : Argument.split inside = .ok items) (reads : argumentList read items = .ok args) :
    Denotes (name.map .char ++ [.group inside]) ⟨String.ofList name, args⟩
  /-- A group alone denotes what its inside is read as. -/
  | group {inside : List Char} {query : Query} (reads : read inside = .ok query) : Denotes [.group inside] query

/-- A segment behind a separator, with the query that it denotes. -/
structure Link where
  connective : Connective
  line : List Token
  query : Query

theorem separator?_blank {c : Char} (blank : Text.isBlank c = true) : separator? c = none :=
  separator?_of_class blank (by decide)

theorem tokens_of_scan {text : List Char} {line : List Token} (scan : Scan text line) : tokens text = line := by
  induction scan with
  | nil => rfl
  | separator separates more ih => rw [tokens, tokensFrom_separator _ separates, ← ih, tokens]
  | @group inside after line closed more ih =>
    have taken := tokensFrom_skip after (inside ++ [')'])
    rw [List.append_assoc, List.length_append] at taken
    have found : Group.upTo? 0 none (inside ++ ')' :: after) = some inside := closed
    rw [tokens, List.cons_append, tokensFrom_group _ found, ← ih]
    exact congrArg _ taken
  | blank blank more ih => rw [tokens, tokensFrom_blank _ (separator?_blank blank) blank, ← ih, tokens]
  | char noSeparator noOpen noBlank more ih => rw [tokens, tokensFrom_char _ noSeparator noOpen noBlank, ← ih, tokens]

/-- A text is scanned unless a group is not closed. -/
theorem scan_tokens {skip : Nat} {text : List Char} (closed : ∀ opened, .unclosed opened ∉ tokensFrom skip text) :
    Scan (text.drop skip) (tokensFrom skip text) := by
  fun_induction tokensFrom skip text with
  | case1 skip => simpa using Scan.nil
  | case2 skip c rest ih => exact ih closed
  | case3 c rest connective separates ih =>
    exact .separator separates (ih fun opened member => closed opened (List.mem_cons_of_mem _ member))
  | case4 rest inside found noSeparator ih =>
    obtain ⟨after, rfl, _⟩ := Group.upTo?_eq_some found
    have more := ih fun opened member => closed opened (List.mem_cons_of_mem _ member)
    have left : (inside ++ ')' :: after).drop (inside.length + 1) = after := by simp [List.drop_append]
    rw [left] at more
    exact .group found more
  | case5 rest noSeparator found => exact absurd (List.mem_singleton.mpr rfl) (closed _)
  | case6 c rest noSeparator noOpen blank ih => exact .blank blank (ih closed)
  | case7 c rest noSeparator noOpen noBlank ih =>
    have more := ih fun opened member => closed opened (List.mem_cons_of_mem _ member)
    exact .char noSeparator noOpen (by simpa using noBlank) more

theorem segments_line (line : List Token) :
    line = (segments line).1 ++ (segments line).2.flatMap fun part => .separator part.1 :: part.2 := by
  induction line with
  | nil => rfl
  | cons token rest ih =>
    cases token with
    | separator connective => simpa [segments] using ih
    | _ => simpa [segments] using ih

theorem segments_links {first : List Token} (single : ∀ connective, .separator connective ∉ first) {links : List Link}
    (singles : ∀ link ∈ links, ∀ connective, .separator connective ∉ link.line) :
    segments (first ++ links.flatMap fun link => .separator link.connective :: link.line) =
      (first, links.map fun link => (link.connective, link.line)) := by
  induction links generalizing first with
  | nil => simpa using segments_single single
  | cons link links ih =>
    rw [List.forall_mem_cons] at singles
    rw [List.flatMap_cons, List.cons_append, segments_append single, ih singles.1 singles.2]
    rfl

theorem Denotes.single {line : List Token} {query : Query} (denotes : Denotes line query) :
    ∀ connective, .separator connective ∉ line := by
  cases denotes <;> simp

theorem Denotes.closed {line : List Token} {query : Query} (denotes : Denotes line query) :
    ∀ opened, .unclosed opened ∉ line := by
  cases denotes <;> simp

/-- A segment of a text is a term exactly if it denotes something, at the depth at which the text is
read. -/
theorem term_eq_ok_iff {text : List Char} {line : List Token} (single : ∀ connective, .separator connective ∉ line)
    (within : ∀ token ∈ line, token ∈ tokens text) {query : Query} :
    term (readWithin text.length) (callArguments (readWithin text.length)) text line = .ok query ↔ Denotes line query := by
  have up : ∀ part query, part.length < text.length → readWithin text.length part = .ok query → read part = .ok query :=
    fun part query shorter done => readWithin_deep (Nat.lt_succ_self _) done
  have down : ∀ part query, part.length < text.length → read part = .ok query → readWithin text.length part = .ok query :=
    fun part query shorter done => readWithin_deep shorter done
  constructor
  · intro done
    rcases term_eq_ok single done with ⟨name, named, rfl, rfl⟩ | ⟨inside, rfl, reads⟩ |
      ⟨name, inside, args, named, rfl, reads, rfl⟩
    · exact .name named
    · exact .group (readWithin_deep (Nat.lt_succ_self _) reads)
    · have short := @group_shorter text inside (within _ (by simp))
      obtain ⟨items, split, list⟩ := Outcome.bind_eq_ok_iff.mp (callArguments_mono up short reads)
      exact .call named split list
  · rintro (⟨named⟩ | ⟨named, split, reads⟩ | reads)
    · exact term_name text named
    · have short := group_shorter (within _ (List.mem_append_right _ List.mem_cons_self))
      rw [term_call text named, callArguments_mono down short (Outcome.bind_eq_ok_iff.mpr ⟨_, split, reads⟩)]
      rfl
    · rw [term_group]
      exact readWithin_deep (group_shorter (within _ List.mem_cons_self)) reads

theorem terms_eq_ok_iff {read : List Token → Except Error Query} {parts : List (Connective × List Token)}
    {tail : List (Connective × Query)} :
    terms read parts = .ok tail ↔ ∃ links : List Link, parts = links.map (fun link => (link.connective, link.line)) ∧
      tail = links.map (fun link => (link.connective, link.query)) ∧ ∀ link ∈ links, read link.line = .ok link.query := by
  induction parts generalizing tail with
  | nil =>
    constructor
    · rintro ⟨⟩
      exact ⟨[], rfl, rfl, by simp⟩
    · rintro ⟨links, none, rfl, _⟩
      rw [List.map_eq_nil_iff.mp none.symm]
      rfl
  | cons part parts ih =>
    constructor
    · intro done
      obtain ⟨query, first, later⟩ := Outcome.bind_eq_ok_iff.mp done
      obtain ⟨queries, others, same⟩ := Outcome.bind_eq_ok_iff.mp later
      obtain ⟨links, rfl, rfl, each⟩ := ih.mp others
      cases same
      exact ⟨⟨part.1, part.2, query⟩ :: links, rfl, rfl, List.forall_mem_cons.mpr ⟨first, each⟩⟩
    · rintro ⟨links, split, rfl, each⟩
      obtain ⟨link, links, rfl, rfl, rfl⟩ := List.map_eq_cons_iff.mp split.symm
      rw [List.forall_mem_cons] at each
      rw [terms, each.1, Outcome.ok_bind, ih.mpr ⟨links, rfl, rfl, each.2⟩]
      rfl

/-- **The grammar.** A text is read as a query exactly if it is scanned into segments with separators
between them that all denote something, and the query is the tree of what they denote. -/
theorem read_eq_ok_iff {text : List Char} {query : Query} :
    read text = .ok query ↔
      ∃ (first : List Token) (head : Query) (links : List Link),
        Scan text (first ++ links.flatMap fun link => .separator link.connective :: link.line) ∧
        Denotes first head ∧ (∀ link ∈ links, Denotes link.line link.query) ∧
        query = join head (links.map fun link => (link.connective, link.query)) := by
  constructor
  · intro done
    obtain ⟨head, first, later⟩ := Outcome.bind_eq_ok_iff.mp done
    obtain ⟨tail, others, same⟩ := Outcome.bind_eq_ok_iff.mp later
    cases same
    obtain ⟨links, parts, rfl, each⟩ := terms_eq_ok_iff.mp others
    obtain ⟨firstSingle, othersSingle⟩ := @mem_segments (tokens text)
    obtain ⟨firstIn, othersIn⟩ := segments_mem (tokens text)
    have line := segments_line (tokens text)
    rw [parts] at othersSingle othersIn line
    rw [List.forall_mem_map] at othersSingle othersIn
    rw [List.flatMap_map] at line
    have starts := (term_eq_ok_iff firstSingle firstIn).mp first
    have follow : ∀ link ∈ links, Denotes link.line link.query := fun link member =>
      (term_eq_ok_iff (othersSingle link member) (othersIn link member)).mp (each link member)
    refine ⟨_, head, links, ?_, starts, follow, rfl⟩
    have closed : ∀ opened, .unclosed opened ∉ tokens text := by
      intro opened member
      rw [line, List.mem_append, List.mem_flatMap] at member
      rcases member with here | ⟨link, inside, there⟩
      · exact starts.closed opened here
      · exact (follow link inside).closed opened (by simpa using there)
    rw [← line]
    exact @scan_tokens 0 text closed
  · rintro ⟨first, head, links, scan, starts, follow, rfl⟩
    have line := tokens_of_scan scan
    have split : segments (tokens text) = (first, links.map fun link => (link.connective, link.line)) := by
      rw [line, segments_links starts.single fun link member => (follow link member).single]
    obtain ⟨firstIn, othersIn⟩ := segments_mem (tokens text)
    rw [split] at firstIn othersIn
    rw [List.forall_mem_map] at othersIn
    have tail := terms_eq_ok_iff.mpr ⟨links, rfl, rfl, fun link member =>
      (term_eq_ok_iff (follow link member).single (othersIn link member)).mpr (follow link member)⟩
    rw [read, readWithin, split]
    simp only [(term_eq_ok_iff starts.single firstIn).mpr starts, Outcome.ok_bind, tail]
    rfl

end ResourceQuery.Query
