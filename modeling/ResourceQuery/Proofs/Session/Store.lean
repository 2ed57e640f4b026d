import Mathlib.Data.List.GetD
import ResourceQuery.Proofs.Outcome
import ResourceQuery.Session.Store

/-!
What the items of a store stand for. `Store.Holds` relates an item to its value, however deep its
nodes are nested, and taking a value out of a store finds exactly these values up to the deepest
nesting (`Store.resolve_eq_ok_iff`). An item keeps its value while the cells stay as they are whose
nodes it can reach, which are nested less deep than the value itself (`Store.Holds.moved`). So what
is added to a cell is not seen from inside of it.
-/
namespace ResourceQuery

mutual

/-- How deep nodes are nested in a value. -/
def Value.nesting : Value → Nat
  | .list items => nestingAll items
  | .tuple items => nestingAll items
  | .mapping entries => nestingEntries entries
  | .node name args => max name.nesting (nestingAll args + 1)
  | _ => 0
termination_by structural value => value

def Value.nestingAll : List Value → Nat
  | [] => 0
  | value :: rest => max value.nesting (nestingAll rest)
termination_by structural values => values

def Value.nestingEntries : List (String × Value) → Nat
  | [] => 0
  | (_, value) :: rest => max value.nesting (nestingEntries rest)
termination_by structural entries => entries

end

@[simp] theorem Value.nestingAll_append (front back : List Value) :
    nestingAll (front ++ back) = max (nestingAll front) (nestingAll back) := by
  induction front with
  | nil => simp [nestingAll]
  | cons value rest ih => simp [nestingAll, ih, Nat.max_assoc]

theorem Value.nestingAll_lt (name : Value) (args : List Value) : nestingAll args < (Value.node name args).nesting :=
  Nat.lt_of_lt_of_le (Nat.lt_succ_self _) (Nat.le_max_right _ _)

namespace Session

/-- The cells that an item names are below a bound, and its leaves hold no nodes. -/
inductive Item.Fits (bound : Nat) : Item → Prop
  | leaf {value : Value} (plain : value.nesting = 0) : Fits bound (.leaf value)
  | list {items : List Item} (each : ∀ item ∈ items, Fits bound item) : Fits bound (.list items)
  | tuple {items : List Item} (each : ∀ item ∈ items, Fits bound item) : Fits bound (.tuple items)
  | mapping {entries : List (String × Item)} (each : ∀ entry ∈ entries, Fits bound entry.2) :
    Fits bound (.mapping entries)
  | node {name : Item} {cell : Nat} (named : Fits bound name) (inside : cell < bound) : Fits bound (.node name cell)

theorem Item.Fits.mono {bound more : Nat} (le : bound ≤ more) {item : Item} (fits : item.Fits bound) : item.Fits more := by
  induction fits with
  | leaf plain => exact .leaf plain
  | list each ih => exact .list ih
  | tuple each ih => exact .tuple ih
  | mapping each ih => exact .mapping ih
  | node named inside ih => exact .node ih (Nat.lt_of_lt_of_le inside le)

namespace Store

variable {store other : Store}

/-- No item of a store names a cell that is not there. -/
structure Closed (store : Store) : Prop where
  cells : ∀ items ∈ store.cells, ∀ item ∈ items, item.Fits store.cells.length
  registers : ∀ entry ∈ store.registers, entry.2.Fits store.cells.length

theorem Closed.items (closed : store.Closed) (cell : Nat) : ∀ item ∈ store.items cell, item.Fits store.cells.length := by
  intro item member
  by_cases inside : cell < store.cells.length
  · rw [Store.items, List.getD_eq_getElem _ _ inside] at member
    exact closed.cells _ (List.getElem_mem inside) item member
  · rw [Store.items, List.getD_eq_default _ _ (Nat.le_of_not_lt inside)] at member
    cases member

mutual

/-- An item stands for a value. -/
inductive Holds (store : Store) : Item → Value → Prop
  | leaf {value : Value} (plain : value.nesting = 0) : Holds store (.leaf value) value
  | list {items : List Item} {values : List Value} (each : HoldsAll store items values) :
    Holds store (.list items) (.list values)
  | tuple {items : List Item} {values : List Value} (each : HoldsAll store items values) :
    Holds store (.tuple items) (.tuple values)
  | mapping {entries : List (String × Item)} {values : List (String × Value)} (each : HoldsEntries store entries values) :
    Holds store (.mapping entries) (.mapping values)
  | node {name : Item} {cell : Nat} {title : Value} {args : List Value} (named : Holds store name title)
    (inside : cell < store.cells.length) (each : HoldsAll store (store.items cell) args) :
    Holds store (.node name cell) (.node title args)

inductive HoldsAll (store : Store) : List Item → List Value → Prop
  | nil : HoldsAll store [] []
  | cons {item : Item} {value : Value} {items : List Item} {values : List Value} (head : Holds store item value)
    (tail : HoldsAll store items values) : HoldsAll store (item :: items) (value :: values)

inductive HoldsEntries (store : Store) : List (String × Item) → List (String × Value) → Prop
  | nil : HoldsEntries store [] []
  | cons {key : String} {item : Item} {value : Value} {entries : List (String × Item)} {values : List (String × Value)}
    (head : Holds store item value) (tail : HoldsEntries store entries values) :
    HoldsEntries store ((key, item) :: entries) ((key, value) :: values)

end

theorem HoldsAll.append {front back : List Item} {first last : List Value} (before : store.HoldsAll front first)
    (after : store.HoldsAll back last) : store.HoldsAll (front ++ back) (first ++ last) := by
  induction front generalizing first with
  | nil =>
    cases before
    exact after
  | cons item rest ih =>
    cases before with
    | cons head tail => exact .cons head (ih tail)

mutual

theorem Holds.fits {item : Item} {value : Value} : store.Holds item value → item.Fits store.cells.length
  | .leaf plain => .leaf plain
  | .list each => .list each.fits
  | .tuple each => .tuple each.fits
  | .mapping each => .mapping each.fits
  | .node named inside each => .node named.fits inside

theorem HoldsAll.fits {items : List Item} {values : List Value} :
    store.HoldsAll items values → ∀ item ∈ items, item.Fits store.cells.length
  | .nil => nofun
  | .cons head tail => List.forall_mem_cons.mpr ⟨head.fits, tail.fits⟩

theorem HoldsEntries.fits {entries : List (String × Item)} {values : List (String × Value)} :
    store.HoldsEntries entries values → ∀ entry ∈ entries, entry.2.Fits store.cells.length
  | .nil => nofun
  | .cons head tail => List.forall_mem_cons.mpr ⟨head.fits, tail.fits⟩

end

/-- Another store has all cells whose arguments are nested less deep than a bound as they are. -/
structure Retained (store other : Store) (nesting : Nat) : Prop where
  longer : store.cells.length ≤ other.cells.length
  same : ∀ cell < store.cells.length, ∀ args, store.HoldsAll (store.items cell) args → Value.nestingAll args < nesting →
    other.items cell = store.items cell

theorem Retained.mono {nesting less : Nat} (retained : store.Retained other nesting) (le : less ≤ nesting) :
    store.Retained other less :=
  ⟨retained.longer, fun cell inside args held below => retained.same cell inside args held (Nat.lt_of_lt_of_le below le)⟩

mutual

/-- An item keeps its value when the cells that hold less are as they are. -/
theorem Holds.moved {item : Item} {value : Value} :
    store.Holds item value → store.Retained other value.nesting → other.Holds item value
  | .leaf plain, _ => .leaf plain
  | .list each, retained => .list (each.moved retained)
  | .tuple each, retained => .tuple (each.moved retained)
  | .mapping each, retained => .mapping (each.moved retained)
  | .node named inside each, retained => by
    have kept := retained.same _ inside _ each (Value.nestingAll_lt _ _)
    exact .node (named.moved (retained.mono (Nat.le_max_left _ _))) (Nat.lt_of_lt_of_le inside retained.longer)
      (kept ▸ each.moved (retained.mono (Nat.le_of_lt (Value.nestingAll_lt _ _))))

theorem HoldsAll.moved {items : List Item} {values : List Value} :
    store.HoldsAll items values → store.Retained other (Value.nestingAll values) → other.HoldsAll items values
  | .nil, _ => .nil
  | .cons head tail, retained =>
    .cons (head.moved (retained.mono (Nat.le_max_left _ _))) (tail.moved (retained.mono (Nat.le_max_right _ _)))

theorem HoldsEntries.moved {entries : List (String × Item)} {values : List (String × Value)} :
    store.HoldsEntries entries values → store.Retained other (Value.nestingEntries values) →
      other.HoldsEntries entries values
  | .nil, _ => .nil
  | .cons head tail, retained =>
    .cons (head.moved (retained.mono (Nat.le_max_left _ _))) (tail.moved (retained.mono (Nat.le_max_right _ _)))

end

/-! ### Taking values out -/

mutual

theorem Holds.valueWith {item : Item} {value : Value} : store.Holds item value → ∀ {depth : Nat}, value.nesting ≤ depth →
    Store.valueWith (store.argsWithin depth) item = .ok value
  | .leaf _, _, _ => rfl
  | .list each, _, shallow => by rw [Store.valueWith, each.valuesWith shallow]; rfl
  | .tuple each, _, shallow => by rw [Store.valueWith, each.valuesWith shallow]; rfl
  | .mapping each, _, shallow => by rw [Store.valueWith, each.entriesWith shallow]; rfl
  | .node named _ each, 0, shallow => by simp [Value.nesting] at shallow
  | .node named _ each, depth + 1, shallow => by
    have below := Nat.max_le.mp shallow
    rw [Store.valueWith, named.valueWith below.1, argsWithin, each.valuesWith (Nat.le_of_succ_le_succ below.2)]
    rfl

theorem HoldsAll.valuesWith {items : List Item} {values : List Value} : store.HoldsAll items values →
    ∀ {depth : Nat}, Value.nestingAll values ≤ depth → Store.valuesWith (store.argsWithin depth) items = .ok values
  | .nil, _, _ => rfl
  | .cons head tail, _, shallow => by
    have below := Nat.max_le.mp shallow
    rw [Store.valuesWith, head.valueWith below.1, tail.valuesWith below.2]
    rfl

theorem HoldsEntries.entriesWith {entries : List (String × Item)} {values : List (String × Value)} :
    store.HoldsEntries entries values → ∀ {depth : Nat}, Value.nestingEntries values ≤ depth →
      Store.entriesWith (store.argsWithin depth) entries = .ok values
  | .nil, _, _ => rfl
  | .cons head tail, _, shallow => by
    have below := Nat.max_le.mp shallow
    rw [Store.entriesWith, head.valueWith below.1, tail.entriesWith below.2]
    rfl

end

/-- What a function gives as the arguments in a cell the cell holds, and it is nested less deep than a bound. -/
def Reads (store : Store) (args : Nat → Except Error (List Value)) (depth : Nat) : Prop :=
  ∀ cell values, args cell = .ok values → store.HoldsAll (store.items cell) values ∧ Value.nestingAll values < depth

section
variable {args : Nat → Except Error (List Value)} {depth : Nat}

mutual

theorem Reads.holds (reads : store.Reads args depth) {item : Item} {value : Value} (fits : item.Fits store.cells.length)
    (found : valueWith args item = .ok value) : store.Holds item value ∧ value.nesting ≤ depth := by
  cases item with
  | leaf plain =>
    cases fits with
    | leaf flat =>
      cases found
      exact ⟨.leaf flat, flat ▸ Nat.zero_le depth⟩
  | list items =>
    cases fits with
    | list each =>
      obtain ⟨values, all, same⟩ := Outcome.bind_eq_ok_iff.mp found
      cases same
      exact (reads.holdsAll each all).imp .list id
  | tuple items =>
    cases fits with
    | tuple each =>
      obtain ⟨values, all, same⟩ := Outcome.bind_eq_ok_iff.mp found
      cases same
      exact (reads.holdsAll each all).imp .tuple id
  | mapping entries =>
    cases fits with
    | mapping each =>
      obtain ⟨values, all, same⟩ := Outcome.bind_eq_ok_iff.mp found
      cases same
      exact (reads.holdsEntries each all).imp .mapping id
  | node name cell =>
    cases fits with
    | node named inside =>
      obtain ⟨title, first, rest⟩ := Outcome.bind_eq_ok_iff.mp found
      obtain ⟨values, second, same⟩ := Outcome.bind_eq_ok_iff.mp rest
      cases same
      obtain ⟨held, shallow⟩ := reads.holds named first
      obtain ⟨each, deeper⟩ := reads cell values second
      exact ⟨.node held inside each, Nat.max_le.mpr ⟨shallow, deeper⟩⟩
termination_by structural item

theorem Reads.holdsAll (reads : store.Reads args depth) {items : List Item} {values : List Value}
    (fits : ∀ item ∈ items, item.Fits store.cells.length) (found : valuesWith args items = .ok values) : store.HoldsAll items values ∧ Value.nestingAll values ≤ depth := by
  cases items with
  | nil =>
    cases found
    exact ⟨.nil, Nat.zero_le depth⟩
  | cons item rest =>
    obtain ⟨value, first, later⟩ := Outcome.bind_eq_ok_iff.mp found
    obtain ⟨others, second, same⟩ := Outcome.bind_eq_ok_iff.mp later
    cases same
    obtain ⟨head, shallow⟩ := reads.holds (fits item List.mem_cons_self) first
    obtain ⟨tail, deeper⟩ := reads.holdsAll (fun other member => fits other (List.mem_cons_of_mem _ member)) second
    exact ⟨.cons head tail, Nat.max_le.mpr ⟨shallow, deeper⟩⟩
termination_by structural items

theorem Reads.holdsEntries (reads : store.Reads args depth) {entries : List (String × Item)}
    {values : List (String × Value)} (fits : ∀ entry ∈ entries, entry.2.Fits store.cells.length) (found : entriesWith args entries = .ok values) :
    store.HoldsEntries entries values ∧ Value.nestingEntries values ≤ depth := by
  match entries with
  | [] =>
    cases found
    exact ⟨.nil, Nat.zero_le depth⟩
  | (key, item) :: rest =>
    obtain ⟨value, first, later⟩ := Outcome.bind_eq_ok_iff.mp found
    obtain ⟨others, second, same⟩ := Outcome.bind_eq_ok_iff.mp later
    cases same
    obtain ⟨head, shallow⟩ := reads.holds (fits _ List.mem_cons_self) first
    obtain ⟨tail, deeper⟩ := reads.holdsEntries (fun other member => fits other (List.mem_cons_of_mem _ member)) second
    exact ⟨.cons head tail, Nat.max_le.mpr ⟨shallow, deeper⟩⟩
termination_by structural entries

end
end

theorem Closed.reads (closed : store.Closed) (depth : Nat) : store.Reads (store.argsWithin depth) depth := by
  induction depth with
  | zero => exact nofun
  | succ depth ih =>
    intro cell args found
    obtain ⟨held, shallow⟩ := ih.holdsAll (closed.items cell) found
    exact ⟨held, Nat.lt_succ_of_le shallow⟩

/-- The value that is taken out for an item is the one that it stands for, if it is not nested too deep. -/
theorem Closed.resolve_eq_ok_iff (closed : store.Closed) {item : Item} {value : Value}
    (fits : item.Fits store.cells.length) :
    store.resolve item = .ok value ↔ store.Holds item value ∧ value.nesting ≤ maxDepth := by
  constructor
  · exact (closed.reads maxDepth).holds fits
  · rintro ⟨held, shallow⟩
    exact held.valueWith shallow

theorem HoldsAll.unique {items : List Item} {values others : List Value} (held : store.HoldsAll items values)
    (also : store.HoldsAll items others) : values = others := by
  have first := held.valuesWith (Nat.le_max_left _ (Value.nestingAll others))
  have second := also.valuesWith (Nat.le_max_right (Value.nestingAll values) _)
  exact Except.ok.inj (first.symm.trans second)

theorem items_set (store : Store) (cell other : Nat) (items : List Item) :
    Store.items { store with cells := store.cells.set cell items } other =
      if other = cell ∧ cell < store.cells.length then items else store.items other := by
  by_cases same : other = cell
  · subst same
    by_cases inside : other < store.cells.length
    · simp [Store.items, inside]
    · simp [Store.items, inside]
  · simp [Store.items, List.getD_eq_getElem?_getD, List.getElem?_set_ne (Ne.symm same), same]

/-- Other arguments in a cell do not matter to what is nested inside of its old ones. -/
theorem HoldsAll.retained {cell : Nat} {args : List Value} (held : store.HoldsAll (store.items cell) args)
    (items : List Item) : store.Retained { store with cells := store.cells.set cell items } (Value.nestingAll args) := by
  refine ⟨by simp, fun inner inside values found below => ?_⟩
  -- A cell below its own arguments would be nested less deep than itself.
  have apart : inner ≠ cell := by
    rintro rfl
    exact absurd below (by simp [held.unique found])
  rw [items_set, if_neg fun same => apart same.1]

/-! ### New cells -/

/-- A store after new cells have been added to another one. -/
structure Grows (store after : Store) : Prop where
  extended : store.cells <+: after.cells
  registers : after.registers = store.registers
  closed : store.Closed → after.Closed

theorem Grows.refl (store : Store) : store.Grows store := ⟨List.prefix_rfl, rfl, id⟩

theorem Grows.trans {one two three : Store} (first : one.Grows two) (second : two.Grows three) : one.Grows three :=
  ⟨first.extended.trans second.extended, second.registers.trans first.registers, second.closed ∘ first.closed⟩

theorem Grows.items (grows : store.Grows other) {cell : Nat} (inside : cell < store.cells.length) :
    other.items cell = store.items cell := by
  obtain ⟨more, same⟩ := grows.extended
  simp [Store.items, List.getD_eq_getElem?_getD, ← same, List.getElem?_append_left inside]

theorem Grows.retained (grows : store.Grows other) (nesting : Nat) : store.Retained other nesting :=
  ⟨grows.extended.length_le, fun _ inside _ _ _ => grows.items inside⟩

/-- Another store has all cells from some cell on. -/
structure Shares (store other : Store) (first : Nat) : Prop where
  longer : store.cells.length ≤ other.cells.length
  same : ∀ cell, first ≤ cell → cell < store.cells.length → other.items cell = store.items cell

theorem Shares.refl (store : Store) (first : Nat) : store.Shares store first := ⟨Nat.le_refl _, fun _ _ _ => rfl⟩

theorem Grows.shares {middle : Store} (grows : store.Grows middle) {first : Nat} (shares : middle.Shares other first) :
    store.Shares other first :=
  ⟨Nat.le_trans grows.extended.length_le shares.longer, fun cell above inside =>
    (shares.same cell above (Nat.lt_of_lt_of_le inside grows.extended.length_le)).trans (grows.items inside)⟩

/-- From a store an action succeeds and adds new cells only, and what it makes keeps a property in all
stores that have these cells. -/
def Makes {α : Type} (store : Store) (action : Action α) (held : Store → α → Prop) : Prop :=
  ∃ result after, action.run store = .ok (result, after) ∧ store.Grows after ∧
    ∀ other, after.Shares other store.cells.length → held other result

section
variable {α β : Type} {held : Store → α → Prop}

theorem Makes.pure {result : α} (holds : ∀ other, held other result) : store.Makes (pure result) held :=
  ⟨result, store, rfl, .refl store, fun other _ => holds other⟩

theorem Makes.mono {action : Action α} {weaker : Store → α → Prop} (makes : store.Makes action held)
    (implies : ∀ other result, held other result → weaker other result) : store.Makes action weaker := by
  obtain ⟨result, after, run, grows, holds⟩ := makes
  exact ⟨result, after, run, grows, fun other shares => implies other result (holds other shares)⟩

theorem Makes.bind_grown {action : Action α} {next : α → Action β} {done : Store → β → Prop}
    (first : store.Makes action held)
    (second : ∀ result after, store.Grows after → held after result →
      after.Makes (next result) fun other last => held other result → done other last) :
    store.Makes (action >>= next) done := by
  obtain ⟨result, middle, run, grows, holds⟩ := first
  obtain ⟨last, after, runNext, growsNext, holdsNext⟩ := second result middle grows (holds middle (.refl _ _))
  refine ⟨last, after, ?_, grows.trans growsNext, fun other shares => ?_⟩
  · rw [StateT.run_bind, run]
    exact runNext
  · have later : after.Shares other middle.cells.length :=
      ⟨shares.longer, fun cell above => shares.same cell (Nat.le_trans grows.extended.length_le above)⟩
    exact holdsNext other later (holds other (growsNext.shares shares))

theorem Makes.bind {action : Action α} {next : α → Action β} {done : Store → β → Prop} (first : store.Makes action held)
    (second : ∀ result after, held after result →
      after.Makes (next result) fun other last => held other result → done other last) :
    store.Makes (action >>= next) done := first.bind_grown fun result after _ => second result after

end

/-- A new cell may name all cells that were there. -/
theorem Closed.newCell (closed : store.Closed) {items : List Item} (fits : ∀ item ∈ items, item.Fits store.cells.length) :
    Closed { store with cells := store.cells ++ [items] } := by
  have longer : store.cells.length ≤ (store.cells ++ [items]).length := by simp
  constructor
  · intro cell member item inside
    rcases List.mem_append.mp member with old | new
    · exact (closed.cells cell old item inside).mono longer
    · rw [List.mem_singleton.mp new] at inside
      exact (fits item inside).mono longer
  · exact fun entry member => (closed.registers entry member).mono longer

theorem newNode_makes {name : Item} {title : Value} {items : List Item} {args : List Value}
    (each : store.HoldsAll items args) :
    store.Makes (newNode name items) fun other node =>
      other.HoldsAll items args → other.Holds name title → other.Holds node (.node title args) := by
  refine ⟨_, _, rfl, ⟨List.prefix_append _ _, rfl, fun closed => closed.newCell each.fits⟩, ?_⟩
  intro other shares held named
  have longer := shares.longer
  rw [List.length_append] at longer
  refine .node named longer ?_
  rw [shares.same _ (Nat.le_refl _) (by simp)]
  simpa [Store.items] using held

end Store
end Session
end ResourceQuery
