import ResourceQuery.Proofs.Session.Closed

/-!
Joining and pushing in a session. What a step leaves in a register is what `Query.push` and
`Query.combine` make of the queries that the registers held, although a pushed query is changed in
place and other registers may hold it or parts of it (`run_push`, `run_combine`).
-/
namespace ResourceQuery.Session
open Store

mutual

/-- The value that a draft makes if it names no registers. -/
def Draft.value? : Draft → Option Value
  | .value made => some made
  | .register _ => none
  | .list items => (Draft.values? items).map .list
  | .tuple items => (Draft.values? items).map .tuple
  | .mapping entries => (Draft.entries? entries).map .mapping
  | .node name args => do return .node (← Draft.value? name) (← Draft.values? args)
termination_by structural draft => draft

def Draft.values? : List Draft → Option (List Value)
  | [] => some []
  | draft :: rest => do return (← Draft.value? draft) :: (← Draft.values? rest)
termination_by structural drafts => drafts

def Draft.entries? : List (String × Draft) → Option (List (String × Value))
  | [] => some []
  | (key, draft) :: rest => do return (key, ← Draft.value? draft) :: (← Draft.entries? rest)
termination_by structural drafts => drafts

end

mutual

theorem Draft.make_makes (store : Store) : ∀ (draft : Draft) {value : Value}, draft.value? = some value →
    store.Makes draft.make fun other item => other.Holds item value
  | .value made, _, same => by
    cases same
    exact load_makes store made
  | .list items, _, same => by
    obtain ⟨values, made, rfl⟩ := Option.map_eq_some_iff.mp same
    exact .bind (Draft.makeItems_makes store items made) fun _ _ _ => .pure fun _ each => .list each
  | .tuple items, _, same => by
    obtain ⟨values, made, rfl⟩ := Option.map_eq_some_iff.mp same
    exact .bind (Draft.makeItems_makes store items made) fun _ _ _ => .pure fun _ each => .tuple each
  | .mapping entries, _, same => by
    obtain ⟨values, made, rfl⟩ := Option.map_eq_some_iff.mp same
    exact .bind (Draft.makeEntries_makes store entries made) fun _ _ _ => .pure fun _ each => .mapping each
  | .node name args, _, same => by
    obtain ⟨title, named, rest⟩ := Option.bind_eq_some_iff.mp same
    obtain ⟨values, made, last⟩ := Option.bind_eq_some_iff.mp rest
    cases last
    exact .bind (Draft.make_makes store name named) fun _ middle _ =>
      .bind (Draft.makeItems_makes middle args made) fun _ _ each => newNode_makes each
termination_by structural draft => draft

theorem Draft.makeItems_makes (store : Store) : ∀ (drafts : List Draft) {values : List Value},
    Draft.values? drafts = some values → store.Makes (Draft.makeItems drafts) fun other items => other.HoldsAll items values
  | [], _, same => by
    cases same
    exact .pure fun _ => .nil
  | draft :: rest, _, same => by
    obtain ⟨value, first, later⟩ := Option.bind_eq_some_iff.mp same
    obtain ⟨others, second, last⟩ := Option.bind_eq_some_iff.mp later
    cases last
    exact .bind (Draft.make_makes store draft first) fun _ middle _ =>
      .bind (Draft.makeItems_makes middle rest second) fun _ _ _ => .pure fun _ tail head => .cons head tail
termination_by structural drafts => drafts

theorem Draft.makeEntries_makes (store : Store) : ∀ (drafts : List (String × Draft)) {values : List (String × Value)},
    Draft.entries? drafts = some values →
      store.Makes (Draft.makeEntries drafts) fun other entries => other.HoldsEntries entries values
  | [], _, same => by
    cases same
    exact .pure fun _ => .nil
  | (key, draft) :: rest, _, same => by
    obtain ⟨value, first, later⟩ := Option.bind_eq_some_iff.mp same
    obtain ⟨others, second, last⟩ := Option.bind_eq_some_iff.mp later
    cases last
    exact .bind (Draft.make_makes store draft first) fun _ middle _ =>
      .bind (Draft.makeEntries_makes middle rest second) fun _ _ _ => .pure fun _ tail head => .cons head tail
termination_by structural drafts => drafts

end

/-- A register holds an item that stands for a value. -/
def Store.Has (store : Store) (register : String) (value : Value) : Prop :=
  ∃ item, store.registers.get? register = some item ∧ store.Holds item value

/-- The value that is read from a register. -/
def Store.read (store : Store) (register : String) : Except Error Value :=
  ((registerValue register).run store).map Prod.fst

variable {store : Store} {register target : String} {value : Value}

theorem register_run {item : Item} (held : store.registers.get? register = some item) :
    (Store.register register).run store = .ok (item, store) := by
  simp [Store.register, held]

theorem registerValue_run {item : Item} (held : store.registers.get? register = some item) :
    (registerValue register).run store = (store.resolve item).map (·, store) := by
  rw [registerValue, StateT.run_bind, register_run held]
  cases found : store.resolve item <;> simp [valueOf, found]

/-- In a closed store a value is read from a register that has it, unless it is nested too deep. -/
theorem Store.Closed.read_iff_has (closed : store.Closed) :
    store.read register = .ok value ↔ store.Has register value ∧ value.nesting ≤ maxDepth := by
  cases held : store.registers.get? register with
  | none =>
    have unset : store.read register = .error (.unsetRegister register) := by
      simp only [Store.read, registerValue, Store.register, bind_assoc, StateT.run_bind, StateT.run_get, pure_bind, held]
      rfl
    simp [unset, Has, held]
  | some item =>
    obtain ⟨before, rest, split, _⟩ := Entries.get?_split held
    have fits := closed.registers (register, item) (by simp [split])
    have read : store.read register = store.resolve item := by
      rw [Store.read, registerValue_run held]
      cases store.resolve item <;> rfl
    simp [read, Has, held, closed.resolve_eq_ok_iff fits]

/-- A register that has a query holds a node of a cell with its arguments. -/
theorem Store.Has.query {query : Query} (has : store.Has register query.toValue) :
    ∃ name cell, store.registers.get? register = some (.node name cell) ∧ store.Holds name (.text query.name) ∧
      cell < store.cells.length ∧ store.HoldsAll (store.items cell) query.args := by
  obtain ⟨item, held, holds⟩ := has
  cases holds with
  | leaf plain => simp [Query.toValue, Value.nesting] at plain
  | node named inside each => exact ⟨_, _, held, named, inside, each⟩

theorem queryIn_run {name : Item} {cell : Nat} (held : store.registers.get? register = some (.node name cell)) :
    (queryIn register).run store = .ok ((name, cell), store) := by
  simp [queryIn, register_run held]

/-- An item that is kept in a register. -/
theorem keep_run {item : Item} {after : Store} (registers : after.registers = store.registers.put target item)
    (cells : after.cells = store.cells) (holds : after.Holds item value) (shallow : value.nesting ≤ maxDepth) :
    (keep target item).run store = .ok (.state value, after) ∧ after.Has target value := by
  obtain ⟨cells, registers⟩ := after
  cases cells
  cases registers
  have found : Store.resolve _ item = .ok value := holds.valueWith shallow
  refine ⟨?_, item, ?_, holds⟩
  · simp [keep, valueOf, setRegister, found]
  · simp [Entries.get?_put]

/-- An item that is kept in a register after the store has grown: the other registers have what they had. -/
theorem keep_grown {middle : Store} {item : Item} (grows : store.Grows middle) (holds : middle.Holds item value)
    (shallow : value.nesting ≤ maxDepth) :
    ∃ after, (keep target item).run middle = .ok (.state value, after) ∧ after.Has target value ∧
      ∀ other value, other ≠ target → store.Has other value → after.Has other value := by
  let after : Store := { middle with registers := middle.registers.put target item }
  have same : ∀ nesting, middle.Retained after nesting := fun _ => ⟨Nat.le_refl _, fun _ _ _ _ _ => rfl⟩
  obtain ⟨answer, kept⟩ : (keep target item).run middle = .ok (.state value, after) ∧ after.Has target value :=
    keep_run rfl rfl (holds.moved (same _)) shallow
  refine ⟨after, answer, kept, fun other value apart has => ?_⟩
  obtain ⟨old, held, stands⟩ := has
  refine ⟨old, ?_, (stands.moved (grows.retained _)).moved (same _)⟩
  rw [Entries.get?_put, if_neg apart, grows.registers, held]

/-- **Pushing.** A push step leaves the query with more arguments, in the register it names and in the one
that it took the query from. -/
theorem run_push (environment : Option String) {query : Query} (has : store.Has register query.toValue)
    {drafts : List Draft} {terms : List Value} (made : Draft.values? drafts = some terms)
    (shallow : (query.push terms).toValue.nesting ≤ maxDepth) :
    ∃ after, ((Step.push target register drafts).run environment).run store =
        .ok (.state (query.push terms).toValue, after) ∧
      after.Has target (query.push terms).toValue ∧ after.Has register (query.push terms).toValue := by
  obtain ⟨name, cell, held, named, inside, each⟩ := has.query
  obtain ⟨items, middle, run, grows, holds⟩ := Draft.makeItems_makes store drafts made
  let extended : Store := { middle with cells := middle.cells.set cell (middle.items cell ++ items) }
  let after : Store := { extended with registers := extended.registers.put target (.node name cell) }
  have within : cell < middle.cells.length := Nat.lt_of_lt_of_le inside grows.extended.length_le
  have kept : middle.HoldsAll (middle.items cell) query.args := grows.items inside ▸ each.moved (grows.retained _)
  have first : extended.HoldsAll (middle.items cell) query.args := kept.moved (kept.retained _)
  -- The new items name new cells only, and the changed one is older.
  have shares : middle.Shares extended store.cells.length := by
    refine ⟨by simp [extended], fun other above below => ?_⟩
    have apart : other ≠ cell := fun same => Nat.not_lt_of_le above (same ▸ inside)
    rw [items_set, if_neg fun same => apart same.1]
  have filled : extended.items cell = middle.items cell ++ items := by rw [items_set, if_pos ⟨rfl, within⟩]
  have whole : extended.Holds (.node name cell) (query.push terms).toValue := by
    cases named with
    | leaf plain =>
      have all := first.append (holds extended shares)
      exact .node (.leaf plain) (by simpa [extended] using within) (filled ▸ all)
  have same : extended.Retained after (query.push terms).toValue.nesting := ⟨Nat.le_refl _, fun _ _ _ _ _ => rfl⟩
  have final := whole.moved same
  obtain ⟨answer, kept⟩ : (keep target (.node name cell)).run extended = .ok (.state (query.push terms).toValue, after) ∧
    after.Has target (query.push terms).toValue := keep_run rfl rfl final shallow
  refine ⟨after, ?_, kept, _, ?_, final⟩
  · simp only [Step.run, StateT.run_bind, queryIn_run held, Outcome.ok_bind, run]
    exact answer
  · show (Entries.put _ _ _).get? register = _
    rw [Entries.get?_put, grows.registers, held, ite_self]

theorem newQuery_run (name : String) {items : List Item} {args : List Value} (each : store.HoldsAll items args) :
    ∃ item after, (newQuery name items).run store = .ok (item, after) ∧ store.Grows after ∧
      after.Holds item (.node (.text name) args) := by
  have named : Store.Makes store (newQuery name items) fun other node =>
    other.HoldsAll items args → other.Holds (.leaf (.text name)) (.text name) → other.Holds node _ := newNode_makes each
  obtain ⟨item, after, run, grows, made⟩ := named
  exact ⟨item, after, run, grows, made after (.refl _ _) (each.moved (grows.retained _)) (.leaf rfl)⟩

theorem combine_run (connective : Connective) {left right : String} {first second : Query}
    (hasLeft : store.Has left first.toValue) (hasRight : store.Has right second.toValue) :
    ∃ item after, (Session.combine connective left right).run store = .ok (item, after) ∧ store.Grows after ∧
      after.Holds item (first.combine connective second).toValue := by
  obtain ⟨name, cell, held, named, inside, each⟩ := hasLeft.query
  obtain ⟨other, found, holds⟩ := hasRight
  have last : store.HoldsAll [other] [second.toValue] := .cons holds .nil
  cases named with
  | leaf plain =>
    rw [Session.combine, StateT.run_bind, queryIn_run held, Outcome.ok_bind, StateT.run_bind, register_run found,
      Outcome.ok_bind]
    by_cases same : first.name = connective.name
    · rw [Query.combine, if_pos same]
      rw [if_pos (by simpa [Item.isText] using same)]
      exact newQuery_run _ (each.append last)
    · rw [Query.combine, if_neg same]
      rw [if_neg (by simpa [Item.isText] using same)]
      exact newQuery_run _ (.cons (.node (.leaf plain) inside each) last)

/-- **Joining.** A step that joins two queries leaves the joined query in the register it names, and the
other registers as they are. -/
theorem run_combine (environment : Option String) (connective : Connective) {left right : String} {first second : Query}
    (hasLeft : store.Has left first.toValue) (hasRight : store.Has right second.toValue)
    (shallow : (first.combine connective second).toValue.nesting ≤ maxDepth) :
    ∃ after, ((Step.combine connective target left right).run environment).run store =
        .ok (.state (first.combine connective second).toValue, after) ∧
      after.Has target (first.combine connective second).toValue ∧
      ∀ other value, other ≠ target → store.Has other value → after.Has other value := by
  obtain ⟨item, middle, run, grows, holds⟩ := combine_run connective hasLeft hasRight
  obtain ⟨after, answer, kept, others⟩ := @keep_grown _ target _ _ _ grows holds shallow
  refine ⟨after, ?_, kept, others⟩
  rw [Step.run, StateT.run_bind, run]
  exact answer

theorem run_compile (environment given : Option String) (has : store.Has register value)
    (shallow : value.nesting ≤ maxDepth) :
    ((Step.compile register given).run environment).run store =
      (FindQuery.compile (FindQuery.idField given environment) value).map fun found => (.found found, store) := by
  obtain ⟨item, held, holds⟩ := has
  have found : store.resolve item = .ok value := holds.valueWith shallow
  rw [Step.run, StateT.run_bind, registerValue_run held, found, Outcome.map_ok, Outcome.ok_bind]
  dsimp only
  cases FindQuery.compile (FindQuery.idField given environment) value <;> rfl

/-- A step that leaves a value in a register, and the step that compiles it. -/
theorem answers_compile {environment : Option String} (given : Option String) {step : Step} {answer : Answer}
    {after : Store} (run : (step.run environment).run store = .ok (answer, after)) (has : after.Has register value)
    (shallow : value.nesting ≤ maxDepth) :
    (runFrom environment store [step, .compile register given]).1 =
      [.ok answer, (FindQuery.compile (FindQuery.idField given environment) value).map .found] := by
  have compiled := run_compile environment given has shallow
  rw [runFrom, run]
  cases outcome : FindQuery.compile (FindQuery.idField given environment) value with
  | ok found => simp [runFrom, compiled, outcome]
  | error fault => simp [runFrom, compiled, outcome]

theorem runFrom_append (environment : Option String) (store : Store) (front back : List Step) :
    runFrom environment store (front ++ back) =
      ((runFrom environment store front).1 ++ (runFrom environment (runFrom environment store front).2 back).1,
        (runFrom environment (runFrom environment store front).2 back).2) := by
  induction front generalizing store with
  | nil => rfl
  | cons step rest ih =>
    rw [List.cons_append, runFrom, runFrom]
    cases (step.run environment).run store with
    | ok outcome => simp [ih]
    | error fault => simp [ih]

/-- At any point of a session, a query that is pushed on and then compiled has the outcome that
`Query.push` gives. -/
theorem answers_push_compile (environment given : Option String) (steps : List Step) {query : Query}
    (read : (runFrom environment {} steps).2.read register = .ok query.toValue) {drafts : List Draft} {terms : List Value}
    (made : Draft.values? drafts = some terms) (shallow : Value.nestingAll terms < maxDepth) :
    (runFrom environment {} (steps ++ [Step.push target register drafts, Step.compile target given])).1 =
      (runFrom environment {} steps).1 ++ [Except.ok (Answer.state (query.push terms).toValue),
        (FindQuery.compile (FindQuery.idField given environment) (query.push terms).toValue).map .found] := by
  obtain ⟨has, depth⟩ := (closed_runFrom environment closed_nil steps).read_iff_has.mp read
  have bound : (query.push terms).toValue.nesting ≤ maxDepth := by
    simp only [Query.push, Query.toValue, Value.nesting, Value.nestingAll_append] at depth ⊢
    omega
  obtain ⟨after, run, kept, _⟩ := @run_push _ _ target environment _ has _ _ made bound
  rw [runFrom_append]
  exact congrArg _ (answers_compile given run kept bound)

/-- At any point of a session, two queries that are joined and then compiled have the outcome that
`Query.combine` gives. -/
theorem answers_combine_compile (environment given : Option String) (steps : List Step) (connective : Connective)
    {left right : String} {first second : Query}
    (readLeft : (runFrom environment {} steps).2.read left = .ok first.toValue)
    (readRight : (runFrom environment {} steps).2.read right = .ok second.toValue)
    (shallow : (first.combine connective second).toValue.nesting ≤ maxDepth) :
    (runFrom environment {} (steps ++ [Step.combine connective target left right, Step.compile target given])).1 =
      (runFrom environment {} steps).1 ++ [Except.ok (Answer.state (first.combine connective second).toValue),
        (FindQuery.compile (FindQuery.idField given environment) (first.combine connective second).toValue).map .found] := by
  have closed := closed_runFrom environment closed_nil steps
  obtain ⟨hasLeft, _⟩ := closed.read_iff_has.mp readLeft
  obtain ⟨hasRight, _⟩ := closed.read_iff_has.mp readRight
  obtain ⟨after, run, kept, _⟩ := @run_combine _ target environment connective _ _ _ _ hasLeft hasRight shallow
  rw [runFrom_append]
  exact congrArg _ (answers_compile given run kept shallow)

end ResourceQuery.Session
