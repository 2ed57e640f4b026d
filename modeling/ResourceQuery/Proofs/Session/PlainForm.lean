import ResourceQuery.Proofs.Query.PlainForm
import ResourceQuery.Proofs.Session.Push

/-!
Plain forms in a session. The items that `ofPlain` makes of the items of a value stand for what `Value.ofPlain` makes
of the value (`ofPlain_makes`). So a query whose plain form is written and read again is the query exactly if no mapping
that can stand for a query is reached from it (`nodeOfEntries_toPlain`, `answers_toMapping_ofMapping`).
-/
namespace ResourceQuery.Session
open Store

variable {store other : Store}

namespace Store

theorem Holds.entries {entries : List (String × Item)} {values : List (String × Value)}
    (holds : store.Holds (.mapping entries) (.mapping values)) : store.HoldsEntries entries values := by
  cases holds
  assumption

theorem Holds.elements {items : List Item} {values : List Value} (holds : store.Holds (.list items) (.list values)) :
    store.HoldsAll items values := by
  cases holds
  assumption

theorem SpansEntries.lookup {entries : List (String × Item)} {values : List (String × Value)} {cells : List Nat}
    (spans : store.SpansEntries entries values cells) (key : String) :
    Option.Rel (fun item value => ∃ own, store.Spans item value own) (entries.lookup key) (values.lookup key) := by
  induction entries generalizing values cells with
  | nil =>
    cases spans
    exact .none
  | cons entry rest ih =>
    cases spans with
    | cons head tail =>
      rw [List.lookup_cons, List.lookup_cons]
      split
      · exact .some ⟨_, head⟩
      · exact ih tail

end Store

theorem ofPlain_of_isScalar {value : Value} (scalar : value.isScalar = true) : value.ofPlain = value := by
  cases value <;> first | rfl | cases scalar

/-- The name of a mapping is a text in the store exactly if it is one in the value. -/
theorem lookup_name {entries : List (String × Item)} {values : List (String × Value)} {cells : List Nat}
    (spans : store.SpansEntries entries values cells) (name : String) :
    entries.lookup "name" = some (.leaf (.text name)) ↔ values.lookup "name" = some (.text name) := by
  have related := spans.lookup "name"
  generalize entries.lookup "name" = item at related ⊢
  generalize values.lookup "name" = value at related ⊢
  cases related with
  | none => simp
  | some stands =>
    obtain ⟨own, stands⟩ := stands
    cases stands <;> simp

mutual

/-- An item with mappings made into nodes stands for the value with mappings read as nodes. -/
theorem ofPlain_makes {store : Store} : ∀ (item : Item) {value : Value} {cells : List Nat}, store.Spans item value cells →
    store.Makes (ofPlain item) fun other made => other.Holds item value → other.Holds made value.ofPlain
  | .mapping entries, _, _, spans => by
    cases spans with
    | @mapping _ values _ each =>
      rw [ofPlain]
      split
      · rename_i name found
        have named := (lookup_name each name).mp found
        have read : (Value.mapping values).ofPlain =
            ((Value.plainArgs? values).map (Value.node (.text name))).getD (.mapping values) := by
          rw [Value.ofPlain, named]
          cases Value.plainArgs? values <;> rfl
        refine .bind_grown (plainArgs_makes entries each) fun args after grows related => ?_
        have here := related (each.holds.moved (grows.retained _))
        rw [read]
        generalize Value.plainArgs? values = listed at here ⊢
        cases here with
        | none => exact .pure fun _ _ holds => holds
        | some all =>
          refine (newNode_makes all).mono fun other node made later holds => made ?_ (.leaf rfl)
          cases later holds.entries with
          | some listed => exact listed
      · rename_i unnamed
        have same : (Value.mapping values).ofPlain = .mapping values := by
          rw [Value.ofPlain]
          split
          · rename_i name _ named _
            exact absurd ((lookup_name each name).mpr named) (unnamed name)
          · rfl
        exact .pure fun _ holds => by rwa [same]
  | .list items, _, _, spans => by
    cases spans with
    | list each =>
      exact .bind (ofPlainItems_makes items each) fun _ _ _ => .pure fun _ made holds => .list (made holds.elements)
  | .leaf value, _, _, spans => by
    cases spans with
    | leaf scalar => exact .pure fun _ holds => by rwa [ofPlain_of_isScalar scalar]
  | .tuple items, _, _, spans => by
    cases spans with
    | tuple => exact .pure fun _ holds => holds
  | .node name cell, _, _, spans => by
    cases spans with
    | node => exact .pure fun _ holds => holds
termination_by structural item => item

theorem ofPlainItems_makes {store : Store} : ∀ (items : List Item) {values : List Value} {cells : List Nat},
    store.SpansAll items values cells →
      store.Makes (ofPlainItems items) fun other made =>
        other.HoldsAll items values → other.HoldsAll made (Value.ofPlainItems values)
  | [], _, _, spans => by
    cases spans
    exact .pure fun _ _ => .nil
  | item :: rest, _, _, spans => by
    cases spans with
    | cons head tail =>
      refine .bind_grown (ofPlain_makes item head) fun _ after grows _ => ?_
      refine .bind (ofPlainItems_makes rest (tail.grown grows)) fun _ _ _ => .pure fun _ later first holds => ?_
      cases holds with
      | cons one others => exact .cons (first one) (later others)
termination_by structural items => items

theorem plainArgs_makes {store : Store} : ∀ (entries : List (String × Item)) {values : List (String × Value)}
    {cells : List Nat}, store.SpansEntries entries values cells →
      store.Makes (plainArgs entries) fun other made =>
        other.HoldsEntries entries values → Option.Rel other.HoldsAll made (Value.plainArgs? values)
  | [], _, _, spans => by
    cases spans
    exact .pure fun _ _ => .none
  | (key, item) :: rest, _, _, spans => by
    cases spans with
    | @cons _ _ value _ values _ _ head tail =>
      unfold plainArgs Value.plainArgs?
      by_cases same : key = "args"
      · rw [if_pos same, if_pos same]
        cases head with
        | list each =>
          refine .bind (ofPlainItems_makes _ each) fun _ _ _ => .pure fun _ made holds => ?_
          cases holds with
          | cons first _ => exact .some (made first.elements)
        | leaf scalar =>
          cases value with
          | list _ => cases scalar
          | _ => exact .pure fun _ _ => .none
        | _ => exact .pure fun _ _ => .none
      · rw [if_neg same, if_neg same]
        refine (plainArgs_makes rest tail).mono fun other made related holds => ?_
        cases holds with
        | cons _ others => exact related others
termination_by structural entries => entries

end

variable {query : Query}

/-- A mapping of a text and a list is made into the node of that name, with the arguments read from the list. -/
theorem nodeOfEntries_makes {item : Item} {name : String} {args : List Value} {cells : List Nat}
    (spans : store.Spans item (.mapping [("name", .text name), ("args", .list args)]) cells) :
    store.Makes (nodeOfEntries item) fun other node =>
      other.Holds item (.mapping [("name", .text name), ("args", .list args)]) →
        other.Holds node (.node (.text name) (Value.ofPlainItems args)) := by
  obtain ⟨items, below, same, each⟩ : ∃ items below,
      item = .mapping [("name", .leaf (.text name)), ("args", .list items)] ∧ store.SpansAll items args below := by
    cases spans with
    | leaf scalar => cases scalar
    | mapping entries =>
      cases entries with
      | cons head tail =>
        cases head
        cases tail with
        | cons second rest =>
          cases rest
          cases second with
          | leaf scalar => cases scalar
          | list each => exact ⟨_, _, rfl, each⟩
  subst same
  show store.Makes (ofPlainItems items >>= newNode (.leaf (.text name))) _
  refine .bind_grown (ofPlainItems_makes items each) fun made after grows related => ?_
  have here : after.HoldsAll made (Value.ofPlainItems args) := related (each.holds.moved (grows.retained _))
  refine (newNode_makes here).mono fun other node stands later holds => stands (later ?_) (.leaf rfl)
  cases holds.entries with
  | cons _ tail =>
    cases tail with
    | cons listed _ => exact listed.elements

/-- The plain form of a query is read as a node, whatever the query. -/
theorem load_nodeOfEntries (store : Store) (query : Query) :
    ∃ node after, (load query.toPlain >>= nodeOfEntries).run store = .ok (node, after) ∧ store.Grows after ∧
      after.Holds node query.toPlain.ofPlain := by
  obtain ⟨item, loaded, cells, load, planted, spans⟩ := load_plants store query.toPlain
  obtain ⟨node, after, run, grows, made⟩ := nodeOfEntries_makes spans
  refine ⟨node, after, ?_, planted.grows.trans grows, ?_⟩
  · rw [StateT.run_bind, load]
    exact run
  · exact made after (.refl _ _) (spans.grown grows).holds

/-- **Plain forms.** A query that is read from the plain form of a query is that query exactly if no mapping that can
stand for a query is reached from the query itself, and also equal to it only then. -/
theorem nodeOfEntries_toPlain (store : Store) (query : ProperQuery) :
    ∃ node after value, (load query.toPlain >>= nodeOfEntries).run store = .ok (node, after) ∧ after.Holds node value ∧
      (value = query.toValue ↔ query.toValue.Free) ∧ (value.equals query.toValue = true ↔ query.toValue.Free) := by
  obtain ⟨node, after, run, _, holds⟩ := load_nodeOfEntries store query.toQuery
  exact ⟨node, after, query.toPlain.ofPlain, run, holds, query.ofPlain_toPlain_iff, query.equals_ofPlain_toPlain_iff⟩

/-- A mapping that can stand for a query comes back in a tuple or under a key, and becomes a node in a list. -/
theorem nodeOfEntries_toPlain_mixed :
    (∃ node after value, (load (Query.toPlain ⟨"f", [.tuple [.mapping [("name", .text "g"), ("args", .list [])]],
          .mapping [("name", .mapping [("name", .text "g"), ("args", .list [])])]]⟩) >>= nodeOfEntries).run {} =
            .ok (node, after) ∧ after.Holds node value ∧
        value = .node (.text "f") [.tuple [.mapping [("name", .text "g"), ("args", .list [])]],
          .mapping [("name", .mapping [("name", .text "g"), ("args", .list [])])]]) ∧
      ∃ node after value, (load (Query.toPlain ⟨"f", [.list [.mapping [("name", .text "g"), ("args", .list [])]]]⟩) >>=
          nodeOfEntries).run {} = .ok (node, after) ∧ after.Holds node value ∧
        value.equals (.node (.text "f") [.list [.mapping [("name", .text "g"), ("args", .list [])]]]) = false := by
  constructor
  · obtain ⟨node, after, value, run, holds, same, _⟩ := @nodeOfEntries_toPlain {}
      ⟨⟨"f", [.tuple [.mapping [("name", .text "g"), ("args", .list [])]],
        .mapping [("name", .mapping [("name", .text "g"), ("args", .list [])])]]⟩,
        by simp [Value.AllTextNamed, Value.TextNamed],
        by simp [Value.AllKeysApart, Value.KeysApart, Value.EntriesKeysApart]⟩
    refine ⟨node, after, value, run, holds, same.mpr ?_⟩
    refine Value.free_node.mpr (List.forall_mem_cons.mpr ⟨?_, List.forall_mem_singleton.mpr ?_⟩)
    · intro entries reached
      cases reached
    · refine Value.free_mapping.mpr ?_
      rintro ⟨name, args, named, -⟩
      cases named
  · obtain ⟨node, after, value, run, holds, _, same⟩ := @nodeOfEntries_toPlain {}
      ⟨⟨"f", [.list [.mapping [("name", .text "g"), ("args", .list [])]]]⟩,
        by simp [Value.AllTextNamed, Value.TextNamed],
        by simp [Value.AllKeysApart, Value.KeysApart, Value.EntriesKeysApart]⟩
    refine ⟨node, after, value, run, holds, Bool.eq_false_iff.mpr fun agree => ?_⟩
    exact same.mp agree _ (.arg (.head _) (.item (.head _) (.refl _))) ⟨"g", [], rfl, rfl⟩

theorem run_toMapping (environment : Option String) {register : String} (has : store.Has register query.toValue)
    (shallow : query.toValue.nesting ≤ maxDepth) :
    ((Step.toMapping register).run environment).run store = .ok (.mapping query.toPlain, store) := by
  obtain ⟨item, held, holds⟩ := has
  have found : store.resolve item = .ok query.toValue := holds.valueWith shallow
  simp [Step.run, registerValue_run held, found, Query.toPlain]

theorem run_equal (environment : Option String) {left right : String} {first second : Value}
    (hasLeft : store.Has left first) (hasRight : store.Has right second) (shallow : first.nesting ≤ maxDepth)
    (deep : second.nesting ≤ maxDepth) :
    ((Step.equal left right).run environment).run store = .ok (.equal (first.equals second), store) := by
  obtain ⟨item, held, holds⟩ := hasLeft
  obtain ⟨other, found, stands⟩ := hasRight
  have one : store.resolve item = .ok first := holds.valueWith shallow
  have two : store.resolve other = .ok second := stands.valueWith deep
  simp [Step.run, registerValue_run held, registerValue_run found, one, two]

/-- A step that reads the plain form of a query leaves the node in its register, and the other registers as they are. -/
theorem run_ofMapping (environment : Option String) (target : String)
    (shallow : query.toPlain.ofPlain.nesting ≤ maxDepth) :
    ∃ after, ((Step.ofMapping target (.value query.toPlain)).run environment).run store =
        .ok (.state query.toPlain.ofPlain, after) ∧
      after.Has target query.toPlain.ofPlain ∧
      ∀ other value, other ≠ target → store.Has other value → after.Has other value := by
  obtain ⟨node, made, run, grows, holds⟩ := load_nodeOfEntries store query
  obtain ⟨after, answer, kept, others⟩ := @keep_grown _ target _ _ _ grows holds shallow
  refine ⟨after, ?_, kept, others⟩
  rw [Step.run, Draft.make, ← bind_assoc, StateT.run_bind, run]
  exact answer

/-- **Plain forms in a session.** At any point of a session, what is read from the mapping of a query is found equal to
the query exactly if no mapping that can stand for a query is reached from the query. -/
theorem answers_toMapping_ofMapping (environment : Option String) (steps : List Step) {query : ProperQuery}
    {register target : String} (apart : register ≠ target)
    (read : (runFrom environment {} steps).2.read register = .ok query.toValue)
    (shallow : query.toPlain.ofPlain.nesting ≤ maxDepth) :
    ∃ agree, (agree = true ↔ query.toValue.Free) ∧
      (runFrom environment {} (steps ++
        [Step.toMapping register, Step.ofMapping target (.value query.toPlain), Step.equal target register])).1 =
        (runFrom environment {} steps).1 ++
          [Except.ok (Answer.mapping query.toPlain), Except.ok (Answer.state query.toPlain.ofPlain),
            Except.ok (Answer.equal agree)] := by
  obtain ⟨has, deep⟩ := (closed_runFrom environment closed_nil steps).read_iff_has.mp read
  obtain ⟨after, run, made, others⟩ := run_ofMapping environment target shallow
  have written := run_toMapping environment has deep
  have compared := run_equal environment made (others register _ apart has) shallow deep
  refine ⟨_, query.equals_ofPlain_toPlain_iff, ?_⟩
  rw [runFrom_append]
  simp [runFrom, written, run, compared]

end ResourceQuery.Session
