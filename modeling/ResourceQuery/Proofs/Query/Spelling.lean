import ResourceQuery.Proofs.Query.Calls

/-!
Three spellings of a conjunction or disjunction: calls with separators between them, the same calls
as arguments of `and` or `or`, and the queries of the calls combined one after the other. All three
give the same tree (`Query.read_spellings`).
-/
namespace ResourceQuery.Query

/-- A text that is a call: a word and the inside of a group, read alone as a query. -/
structure IsCall (text : List Char) (query : Query) : Prop where
  form : ∃ name inside, text = callText name inside ∧ IsWord name ∧ Group.inside? ('(' :: inside ++ [')']) = some inside
  reads : read text = .ok query

section
variable {text : List Char} {query : Query}

theorem IsCall.isTerm (call : IsCall text query) : IsTerm text query := by
  obtain ⟨⟨name, inside, rfl, word, closed⟩, reads⟩ := call
  refine ⟨?_, reads⟩
  intro connective
  rw [tokens_callText word.isName (Group.balanced_of_inside? closed)]
  simp

theorem IsCall.isLeaf (call : IsCall text query) : Argument.IsLeaf text := by
  obtain ⟨⟨name, inside, rfl, word, closed⟩, _⟩ := call
  exact Argument.isLeaf_call word (Group.balanced_of_inside? closed)

/-- Among arguments, a call is read as a node. -/
theorem IsCall.argument (call : IsCall text query) {depth : Nat} (deep : text.length < depth) :
    Query.argument (readWithin depth) (.leaf (String.ofList text)) = .ok query.toValue := by
  have reads := readWithin_deep deep call.reads
  obtain ⟨⟨name, inside, rfl, word, _⟩, _⟩ := call
  rw [Query.argument, String.toList_ofList, startsCall_call word, if_pos rfl, reads]
  rfl

end

section
variable {calls : List (List Char × Query)} (each : ∀ call ∈ calls, IsCall call.1 call.2)
include each

theorem allTidy_calls : Argument.AllTidy (calls.map fun call => .leaf (String.ofList call.1)) := by
  rw [Argument.allTidy_iff, List.forall_mem_map]
  intro call member
  rw [Argument.Tidy, String.toList_ofList]
  exact (each call member).isLeaf

omit each in
theorem writtenAll_calls (calls : List (List Char × Query)) :
    Argument.writtenAll (calls.map fun call => .leaf (String.ofList call.1)) = calls.map Prod.fst := by
  induction calls with
  | nil => rfl
  | cons call calls ih =>
    rw [List.map_cons, List.map_cons, Argument.writtenAll, ih, Argument.written, String.toList_ofList]

theorem argumentList_calls {depth : Nat} (deep : ∀ call ∈ calls, call.1.length < depth) :
    argumentList (readWithin depth) (calls.map fun call => .leaf (String.ofList call.1)) =
      .ok (calls.map fun call => call.2.toValue) := by
  induction calls with
  | nil => rfl
  | cons call calls ih =>
    rw [List.forall_mem_cons] at each deep
    rw [List.map_cons, argumentList, each.1.argument deep.1, Outcome.ok_bind, ih each.2 deep.2]
    rfl

/-- A call of calls is read as the node that has their queries as arguments. -/
theorem read_callText_calls {name : List Char} (valid : IsName name) :
    read (callText name (List.intercalate [','] (calls.map Prod.fst))) =
      .ok ⟨String.ofList name, calls.map fun call => call.2.toValue⟩ := by
  have tidy := allTidy_calls each
  have written := writtenAll_calls calls
  have balanced : Group.Balanced (List.intercalate [','] (calls.map Prod.fst)) := by
    rw [← written]
    exact .intercalate (Argument.writtenAll_balanced tidy)
  have deep : ∀ call ∈ calls, call.1.length < (callText name (List.intercalate [','] (calls.map Prod.fst))).length := by
    intro call member
    have shorter := Argument.length_le_intercalate (List.mem_map_of_mem (f := Prod.fst) member)
    simp only [callText, List.length_append, List.length_cons]
    omega
  have split : Argument.split (List.intercalate [','] (calls.map Prod.fst)) =
      .ok (calls.map fun call => .leaf (String.ofList call.1)) := by
    rw [← written]
    exact Argument.split_written tidy
  rw [read, readWithin_call valid balanced, callArguments, split, Outcome.ok_bind, argumentList_calls each deep]
  rfl

end

theorem foldl_combine (connective : Connective) (name : String) (args : List Value) (rest : List Query)
    (same : name = connective.name) :
    rest.foldl (combine connective) ⟨name, args⟩ = ⟨connective.name, args ++ rest.map toValue⟩ := by
  induction rest generalizing name args with
  | nil => simp [same]
  | cons next rest ih =>
    rw [List.foldl_cons, combine, if_pos same, ih connective.name _ rfl]
    simp

/-- No query is an argument of itself. -/
theorem args_ne_self (query : Query) : query.args ≠ [query.toValue] := by
  intro cyclic
  have size := congrArg sizeOf cyclic
  simp only [toValue, List.cons.sizeOf_spec, List.nil.sizeOf_spec, Value.node.sizeOf_spec] at size
  omega

/-- Queries combined one after the other are joined in one node exactly if the first one is not such a
node already. -/
theorem foldl_combine_iff (connective : Connective) (first : Query) {rest : List Query} (filled : rest ≠ []) :
    rest.foldl (combine connective) first = joined connective (first :: rest) ↔ first.name ≠ connective.name := by
  obtain ⟨name, args⟩ := first
  by_cases same : name = connective.name
  · rw [foldl_combine connective name args rest same]
    refine iff_of_false ?_ (not_not_intro same)
    intro flat
    have args : args ++ rest.map toValue = toValue ⟨name, args⟩ :: rest.map toValue := congrArg Query.args flat
    exact args_ne_self ⟨name, _⟩ (List.append_cancel_right args)
  · refine iff_of_true ?_ same
    obtain ⟨next, rest, rfl⟩ := List.exists_cons_of_ne_nil filled
    rw [List.foldl_cons, combine, if_neg same, joined, foldl_combine connective _ _ rest rfl]
    rfl

theorem isName_connective (connective : Connective) : IsName connective.name.toList := by
  have word : IsWord connective.name.toList := by cases connective <;> decide
  exact word.isName

/-- **Three spellings agree.** Calls with separators of one kind between them, the call of `and` or `or`
that has them as arguments, and the queries that are joined by the connective are one tree; and so are
the queries combined from left to right, exactly if the first one is not named like the connective. -/
theorem read_spellings {connective : Connective} {first : List Char} {query : Query} {rest : List Joint}
    (head : IsCall first query) (filled : rest ≠ [])
    (valid : ∀ joint ∈ rest, joint.connective = connective ∧ separator? joint.separator = some connective ∧
      IsCall joint.text joint.query) :
    read (sequence first rest) = .ok (joined connective (query :: rest.map Joint.query)) ∧
      read (callText connective.name.toList (List.intercalate [','] (first :: rest.map Joint.text))) =
        .ok (joined connective (query :: rest.map Joint.query)) ∧
      ((rest.map Joint.query).foldl (combine connective) query = joined connective (query :: rest.map Joint.query) ↔
        query.name ≠ connective.name) := by
  refine ⟨?_, ?_, foldl_combine_iff connective query (by simpa using filled)⟩
  · have joints : ∀ joint ∈ rest, joint.Valid := by
      intro joint member
      obtain ⟨same, separates, call⟩ := valid joint member
      exact ⟨same ▸ separates, call.isTerm⟩
    have all : ∀ part ∈ rest.map (fun joint => (joint.connective, joint.query)), part.1 = connective := by
      rw [List.forall_mem_map]
      exact fun joint member => (valid joint member).1
    rw [read_sequence head.isTerm joints]
    obtain ⟨next, rest, rfl⟩ := List.exists_cons_of_ne_nil filled
    rw [List.map_cons, List.forall_mem_cons] at all
    obtain ⟨rfl, all⟩ := all
    rw [List.map_cons, join, joinFrom_same all]
    simp [Function.comp_def]
  · have calls : ∀ call ∈ (first, query) :: rest.map (fun joint => (joint.text, joint.query)), IsCall call.1 call.2 := by
      rw [List.forall_mem_cons, List.forall_mem_map]
      exact ⟨head, fun joint member => (valid joint member).2.2⟩
    have node := read_callText_calls calls (isName_connective connective)
    rw [String.ofList_toList] at node
    simpa [joined, Function.comp_def] using node

/-- Calls with a quoted parenthesis, an array and an escape, behind both signs of conjunction. -/
theorem read_spellings_mixed :
    ∃ (first : List Char) (query : Query) (rest : List Joint) (tree : Query),
      sequence first rest = ['e', '(', '\'', ')', '\'', ')', '&', 'i', '(', '(', 'x', ',', 'y', ')', ')',
        ',', 'f', '(', '\\', ')', ')'] ∧
      IsCall first query ∧ rest ≠ [] ∧
      (∀ joint ∈ rest, joint.connective = .and ∧ separator? joint.separator = some .and ∧ IsCall joint.text joint.query) ∧
      tree = ⟨"and", [.node (.text "e") [.text ")"], .node (.text "i") [.list [.text "x", .text "y"]],
        .node (.text "f") [.text ")"]]⟩ ∧
      read (sequence first rest) = .ok tree ∧
      read (callText ['a', 'n', 'd'] (List.intercalate [','] (first :: rest.map Joint.text))) = .ok tree ∧
      (rest.map Joint.query).foldl (combine .and) query = tree := by
  have quoted : IsCall ['e', '(', '\'', ')', '\'', ')'] ⟨"e", [.text ")"]⟩ :=
    ⟨⟨['e'], ['\'', ')', '\''], rfl, by decide, rfl⟩, rfl⟩
  have array : IsCall ['i', '(', '(', 'x', ',', 'y', ')', ')'] ⟨"i", [.list [.text "x", .text "y"]]⟩ :=
    ⟨⟨['i'], ['(', 'x', ',', 'y', ')'], rfl, by decide, rfl⟩, rfl⟩
  have escaped : IsCall ['f', '(', '\\', ')', ')'] ⟨"f", [.text ")"]⟩ :=
    ⟨⟨['f'], ['\\', ')'], rfl, by decide, rfl⟩, rfl⟩
  have valid : ∀ joint ∈ [Joint.mk '&' .and ['i', '(', '(', 'x', ',', 'y', ')', ')'] ⟨"i", [.list [.text "x", .text "y"]]⟩,
      Joint.mk ',' .and ['f', '(', '\\', ')', ')'] ⟨"f", [.text ")"]⟩],
      joint.connective = .and ∧ separator? joint.separator = some .and ∧ IsCall joint.text joint.query := by
    rw [List.forall_mem_cons, List.forall_mem_singleton]
    exact ⟨⟨rfl, rfl, array⟩, rfl, rfl, escaped⟩
  obtain ⟨separated, called, folded⟩ := read_spellings quoted (by simp) valid
  exact ⟨_, _, _, _, rfl, quoted, by simp, valid, rfl, separated, called, folded.mpr (by decide)⟩

end ResourceQuery.Query
