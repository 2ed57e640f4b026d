import ResourceQuery.Proofs.Literal.Range
import ResourceQuery.Proofs.Query.Calls
import ResourceQuery.Proofs.Query.Parts
import ResourceQuery.Proofs.Query.Shorthand

/-!
What texts are read as. Every tree that is read is sound (`Query.parse_sound`): its nodes have names
without separators, opening parentheses, blanks and comparators, and its other values are those that
literals are read as.
-/
namespace ResourceQuery

variable {named : List Char → Prop}

theorem Value.allSound_iff {items : List Value} : Value.AllSound named items ↔ ∀ item ∈ items, item.Sound named := by
  induction items with
  | nil => simp [Value.AllSound]
  | cons item rest ih => simp [Value.AllSound, ih]

theorem Shorthand.Settled.subset {text part : List Char} (settled : Settled text) (inside : ∀ c ∈ part, c ∈ text) :
    Settled part := fun c member => settled c (inside c member)

namespace Query

section
variable {nested : List Char → Except Error Query} {whole : List Char}

mutual

/-- A value among arguments is a literal or what is read from a call. -/
theorem argument_sound (inner : ∀ raw query, Argument.Cut whole raw → startsCall raw = true → nested raw = .ok query →
    query.toValue.Sound named) : ∀ {item : Argument} {value : Value}, item.CutFrom whole →
      argument nested item = .ok value → value.Sound named
  | .leaf raw, value, cut, done => by
    unfold argument at done
    split at done
    · rename_i call
      obtain ⟨query, read, same⟩ := Outcome.map_eq_ok_iff.mp done
      subst same
      exact inner _ _ cut call read
    · exact Literal.value_sound done
  | .array items, value, cut, done => by
    unfold argument at done
    obtain ⟨values, read, same⟩ := Outcome.map_eq_ok_iff.mp done
    subst same
    exact argumentList_sound inner cut read

theorem argumentList_sound (inner : ∀ raw query, Argument.Cut whole raw → startsCall raw = true →
    nested raw = .ok query → query.toValue.Sound named) : ∀ {items : List Argument} {values : List Value},
      Argument.AllCutFrom whole items → argumentList nested items = .ok values → Value.AllSound named values
  | [], values, _, done => by
    cases done
    trivial
  | item :: rest, values, cut, done => by
    unfold argumentList at done
    obtain ⟨head, first, later⟩ := Outcome.bind_eq_ok_iff.mp done
    obtain ⟨tail, others, same⟩ := Outcome.bind_eq_ok_iff.mp later
    cases same
    exact ⟨argument_sound inner cut.1 first, argumentList_sound inner cut.2 others⟩

end

theorem callArguments_sound (inner : ∀ raw query, Argument.Cut whole raw → startsCall raw = true →
    nested raw = .ok query → query.toValue.Sound named) {values : List Value}
    (done : callArguments nested whole = .ok values) : Value.AllSound named values := by
  obtain ⟨items, split, read⟩ := Outcome.bind_eq_ok_iff.mp done
  exact argumentList_sound inner (Argument.split_cut split) read

end

/-- The names that nodes can have. -/
def CanName (name : List Char) : Prop := IsName name ∧ Shorthand.Settled name

/-- Whether a query can occur as the tree of a text. -/
def Sound (query : Query) : Prop := query.toValue.Sound CanName

theorem joined_sound {connective : Connective} {queries : List Query} (sound : ∀ query ∈ queries, query.Sound) :
    (joined connective queries).Sound := by
  have word : IsWord connective.name.toList ∧ Shorthand.Settled connective.name.toList := by
    cases connective <;> exact ⟨by decide +kernel, by decide +kernel⟩
  refine ⟨⟨word.1.isName, word.2⟩, Value.allSound_iff.mpr ?_⟩
  exact List.forall_mem_map.mpr sound

theorem joinFrom_sound {top : Connective} {done : List Query} {last : Query} {rest : List (Connective × Query)}
    (before : ∀ query ∈ done, query.Sound) (here : last.Sound) (after : ∀ part ∈ rest, part.2.Sound) :
    (joinFrom top done last rest).Sound := by
  have both : ∀ {queries : List Query} {query : Query}, (∀ query ∈ queries, query.Sound) → query.Sound →
      ∀ other ∈ queries ++ [query], other.Sound := by
    intro queries query each one other member
    rcases List.mem_append.mp member with old | new
    · exact each other old
    · rwa [List.mem_singleton.mp new]
  induction rest generalizing top done last with
  | nil => exact joined_sound (both before here)
  | cons part rest ih =>
    obtain ⟨connective, next⟩ := part
    rw [List.forall_mem_cons] at after
    unfold joinFrom
    split
    · exact ih (both before here) after.1 after.2
    · cases connective with
      | and => exact joined_sound (both before (ih (by simpa using here) after.1 after.2))
      | or => exact ih (by simpa using joined_sound (both before here)) after.1 after.2

theorem join_sound {first : Query} {rest : List (Connective × Query)} (here : first.Sound)
    (after : ∀ part ∈ rest, part.2.Sound) : (join first rest).Sound := by
  cases rest with
  | nil => exact here
  | cons part rest =>
    rw [List.forall_mem_cons] at after
    exact joinFrom_sound (by simpa using here) after.1 after.2

theorem isName_chars {text name : List Char} (filled : name ≠ [])
    (inside : ∀ token ∈ name.map Token.char, token ∈ tokens text) :
    IsName name ∧ ∀ c ∈ name, c ∈ text := by
  have each : ∀ c ∈ name, Token.char c ∈ tokens text := fun c member => inside _ (List.mem_map_of_mem member)
  refine ⟨⟨filled, fun c member => (mem_of_char (each c member)).2.1, fun member => ?_, fun c member =>
    (mem_of_char (each c member)).2.2.2⟩, fun c member => (mem_of_char (each c member)).1⟩
  exact (mem_of_char (each _ member)).2.2.1 rfl

section
variable {nested : List Char → Except Error Query}

theorem term_sound (inner : ∀ text query, Shorthand.Settled text → nested text = .ok query → query.Sound)
    {text whole : List Char} (settled : Shorthand.Settled text) {line : List Token}
    (inside : ∀ token ∈ line, token ∈ tokens text) (single : ∀ connective, Token.separator connective ∉ line)
    {query : Query} (done : term nested (callArguments nested) whole line = .ok query) : query.Sound := by
  rcases term_eq_ok single done with ⟨name, filled, rfl, rfl⟩ | ⟨body, rfl, read⟩ |
      ⟨name, body, args, filled, rfl, read, rfl⟩
  · obtain ⟨valid, chars⟩ := isName_chars filled inside
    exact ⟨by simpa using ⟨valid, settled.subset chars⟩, trivial⟩
  · exact inner _ _ (settled.subset (mem_of_group (inside _ List.mem_cons_self))) read
  · rw [List.forall_mem_append] at inside
    obtain ⟨valid, chars⟩ := isName_chars filled inside.1
    have group := settled.subset (mem_of_group (inside.2 _ List.mem_cons_self))
    refine ⟨by simpa using ⟨valid, settled.subset chars⟩, callArguments_sound ?_ read⟩
    exact fun raw query cut _ found => inner raw query (group.subset cut.chars) found

theorem terms_sound {read : List Token → Except Error Query} {rest : List (Connective × List Token)}
    (each : ∀ part ∈ rest, ∀ query, read part.2 = .ok query → query.Sound) {queries : List (Connective × Query)}
    (done : terms read rest = .ok queries) : ∀ part ∈ queries, part.2.Sound := by
  induction rest generalizing queries with
  | nil =>
    cases done
    simp
  | cons part rest ih =>
    rw [List.forall_mem_cons] at each
    obtain ⟨head, first, later⟩ := Outcome.bind_eq_ok_iff.mp done
    obtain ⟨tail, others, same⟩ := Outcome.bind_eq_ok_iff.mp later
    cases same
    exact List.forall_mem_cons.mpr ⟨each.1 _ first, ih each.2 others⟩

end

/-- What is read from a text without comparators is sound, at any depth. -/
theorem readWithin_sound {depth : Nat} {text : List Char} {query : Query} (settled : Shorthand.Settled text)
    (done : readWithin depth text = .ok query) : query.Sound := by
  induction depth generalizing text query with
  | zero => cases done
  | succ depth ih =>
    obtain ⟨firstSingle, othersSingle⟩ := @mem_segments (tokens text)
    obtain ⟨firstInside, othersInside⟩ := segments_mem (tokens text)
    obtain ⟨head, first, later⟩ := Outcome.bind_eq_ok_iff.mp done
    obtain ⟨tail, others, same⟩ := Outcome.bind_eq_ok_iff.mp later
    cases same
    have inner : ∀ text query, Shorthand.Settled text → readWithin depth text = .ok query → query.Sound :=
      fun _ _ settled read => ih settled read
    exact join_sound (term_sound inner settled firstInside firstSingle first)
      (terms_sound (fun part member query read =>
        term_sound inner settled (othersInside part member) (othersSingle part member) read) others)

/-- **Every tree that is read is sound.** -/
theorem parse_sound {text : String} {query : Query} (done : parse text = .ok query) : query.Sound := by
  unfold parse at done
  split at done
  · cases done
  · cases done
  · obtain ⟨expanded, written, read⟩ := Outcome.bind_eq_ok_iff.mp done
    exact readWithin_sound (Shorthand.expand_settled written) read

end Query
end ResourceQuery
