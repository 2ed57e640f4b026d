import Mathlib.Data.List.Nodup
import ResourceQuery.Proofs.Session.Store

/-!
Trees in a store. `Store.Spans` says of which value an item is the tree, and which cells the tree has, so a tree
without shared nodes is one that has no cell twice. Changes of other cells leave a tree as it is (`Store.Spans.apart`),
and a value that is put into a store makes a tree of new cells, none of which is shared (`Store.load_plants`).
-/
namespace ResourceQuery

/-- Whether a value is of a kind that holds no others. -/
def Value.isScalar : Value → Bool
  | .list _ => false
  | .tuple _ => false
  | .mapping _ => false
  | .node _ _ => false
  | _ => true

theorem Value.nesting_of_isScalar {value : Value} (scalar : value.isScalar = true) : value.nesting = 0 := by
  cases value <;> first | rfl | cases scalar

namespace Session

variable {store other : Store}

namespace Store

mutual

/-- An item stands for a value, and these are the cells that its nodes name, each as often as it is named. -/
inductive Spans (store : Store) : Item → Value → List Nat → Prop
  | leaf {value : Value} (scalar : value.isScalar = true) : Spans store (.leaf value) value []
  | list {items : List Item} {values : List Value} {cells : List Nat} (each : SpansAll store items values cells) :
    Spans store (.list items) (.list values) cells
  | tuple {items : List Item} {values : List Value} {cells : List Nat} (each : SpansAll store items values cells) :
    Spans store (.tuple items) (.tuple values) cells
  | mapping {entries : List (String × Item)} {values : List (String × Value)} {cells : List Nat}
    (each : SpansEntries store entries values cells) : Spans store (.mapping entries) (.mapping values) cells
  | node {name : Item} {cell : Nat} {title : Value} {args : List Value} {first cells : List Nat}
    (named : Spans store name title first) (inside : cell < store.cells.length)
    (each : SpansAll store (store.items cell) args cells) :
    Spans store (.node name cell) (.node title args) (first ++ cell :: cells)

inductive SpansAll (store : Store) : List Item → List Value → List Nat → Prop
  | nil : SpansAll store [] [] []
  | cons {item : Item} {value : Value} {items : List Item} {values : List Value} {first cells : List Nat}
    (head : Spans store item value first) (tail : SpansAll store items values cells) :
    SpansAll store (item :: items) (value :: values) (first ++ cells)

inductive SpansEntries (store : Store) : List (String × Item) → List (String × Value) → List Nat → Prop
  | nil : SpansEntries store [] [] []
  | cons {key : String} {item : Item} {value : Value} {entries : List (String × Item)}
    {values : List (String × Value)} {first cells : List Nat} (head : Spans store item value first)
    (tail : SpansEntries store entries values cells) :
    SpansEntries store ((key, item) :: entries) ((key, value) :: values) (first ++ cells)

end

mutual

theorem Spans.holds {item : Item} {value : Value} {cells : List Nat} : store.Spans item value cells → store.Holds item value
  | .leaf scalar => .leaf (Value.nesting_of_isScalar scalar)
  | .list each => .list each.holds
  | .tuple each => .tuple each.holds
  | .mapping each => .mapping each.holds
  | .node named inside each => .node named.holds inside each.holds

theorem SpansAll.holds {items : List Item} {values : List Value} {cells : List Nat} :
    store.SpansAll items values cells → store.HoldsAll items values
  | .nil => .nil
  | .cons head tail => .cons head.holds tail.holds

theorem SpansEntries.holds {entries : List (String × Item)} {values : List (String × Value)} {cells : List Nat} :
    store.SpansEntries entries values cells → store.HoldsEntries entries values
  | .nil => .nil
  | .cons head tail => .cons head.holds tail.holds

end

theorem Holds.unique {item : Item} {value also : Value} (held : store.Holds item value) (again : store.Holds item also) :
    value = also := (List.cons.inj (HoldsAll.unique (.cons held .nil) (.cons again .nil))).1

mutual

/-- An item keeps its value and its cells in a store that has these cells as they are. -/
theorem Spans.kept (longer : store.cells.length ≤ other.cells.length) {item : Item} {value : Value} {cells : List Nat} :
    store.Spans item value cells → (∀ cell ∈ cells, other.items cell = store.items cell) → other.Spans item value cells
  | .leaf scalar, _ => .leaf scalar
  | .list each, same => .list (each.kept longer same)
  | .tuple each, same => .tuple (each.kept longer same)
  | .mapping each, same => .mapping (each.kept longer same)
  | .node named inside each, same => by
    simp only [List.forall_mem_append, List.forall_mem_cons] at same
    obtain ⟨front, own, below⟩ := same
    exact .node (named.kept longer front) (Nat.lt_of_lt_of_le inside longer) (own ▸ each.kept longer below)

theorem SpansAll.kept (longer : store.cells.length ≤ other.cells.length) {items : List Item} {values : List Value}
    {cells : List Nat} : store.SpansAll items values cells → (∀ cell ∈ cells, other.items cell = store.items cell) →
      other.SpansAll items values cells
  | .nil, _ => .nil
  | .cons head tail, same => by
    rw [List.forall_mem_append] at same
    exact .cons (head.kept longer same.1) (tail.kept longer same.2)

theorem SpansEntries.kept (longer : store.cells.length ≤ other.cells.length) {entries : List (String × Item)}
    {values : List (String × Value)} {cells : List Nat} : store.SpansEntries entries values cells →
      (∀ cell ∈ cells, other.items cell = store.items cell) → other.SpansEntries entries values cells
  | .nil, _ => .nil
  | .cons head tail, same => by
    rw [List.forall_mem_append] at same
    exact .cons (head.kept longer same.1) (tail.kept longer same.2)

end

/-- All that has changed in a store is the items of these cells. -/
structure Changes (store other : Store) (cells : List Nat) : Prop where
  length : other.cells.length = store.cells.length
  registers : other.registers = store.registers
  same : ∀ cell, cell ∉ cells → other.items cell = store.items cell

theorem Changes.refl (store : Store) (cells : List Nat) : store.Changes store cells := ⟨rfl, rfl, fun _ _ => rfl⟩

theorem Changes.mono {cells more : List Nat} (changes : store.Changes other cells) (sub : ∀ cell ∈ cells, cell ∈ more) :
    store.Changes other more :=
  ⟨changes.length, changes.registers, fun cell absent => changes.same cell fun member => absent (sub cell member)⟩

theorem Changes.trans {middle : Store} {cells : List Nat} (first : store.Changes middle cells)
    (second : middle.Changes other cells) : store.Changes other cells :=
  ⟨second.length.trans first.length, second.registers.trans first.registers, fun cell absent =>
    (second.same cell absent).trans (first.same cell absent)⟩

theorem changes_set (store : Store) (cell : Nat) (items : List Item) :
    store.Changes { store with cells := store.cells.set cell items } [cell] := by
  refine ⟨List.length_set, rfl, fun other absent => ?_⟩
  rw [items_set, if_neg fun same => absent (List.mem_singleton.mpr same.1)]

/-- What lies in other cells is kept. -/
theorem Spans.apart {item : Item} {value : Value} {cells changed : List Nat} (spans : store.Spans item value cells)
    (changes : store.Changes other changed) (apart : cells.Disjoint changed) : other.Spans item value cells :=
  spans.kept (Nat.le_of_eq changes.length.symm) fun cell member => changes.same cell (apart member)

theorem SpansAll.apart {items : List Item} {values : List Value} {cells changed : List Nat}
    (spans : store.SpansAll items values cells) (changes : store.Changes other changed)
    (apart : cells.Disjoint changed) : other.SpansAll items values cells :=
  spans.kept (Nat.le_of_eq changes.length.symm) fun cell member => changes.same cell (apart member)

mutual

/-- The cells of a tree are cells of the store. -/
theorem Spans.within {item : Item} {value : Value} {cells : List Nat} :
    store.Spans item value cells → ∀ cell ∈ cells, cell < store.cells.length
  | .leaf _ => nofun
  | .list each => each.within
  | .tuple each => each.within
  | .mapping each => each.within
  | .node named inside each =>
    List.forall_mem_append.mpr ⟨named.within, List.forall_mem_cons.mpr ⟨inside, each.within⟩⟩

theorem SpansAll.within {items : List Item} {values : List Value} {cells : List Nat} :
    store.SpansAll items values cells → ∀ cell ∈ cells, cell < store.cells.length
  | .nil => nofun
  | .cons head tail => List.forall_mem_append.mpr ⟨head.within, tail.within⟩

theorem SpansEntries.within {entries : List (String × Item)} {values : List (String × Value)} {cells : List Nat} :
    store.SpansEntries entries values cells → ∀ cell ∈ cells, cell < store.cells.length
  | .nil => nofun
  | .cons head tail => List.forall_mem_append.mpr ⟨head.within, tail.within⟩

end

theorem Spans.grown (grows : store.Grows other) {item : Item} {value : Value} {cells : List Nat}
    (spans : store.Spans item value cells) : other.Spans item value cells :=
  spans.kept grows.extended.length_le fun cell member => grows.items (spans.within cell member)

theorem SpansAll.grown (grows : store.Grows other) {items : List Item} {values : List Value} {cells : List Nat}
    (spans : store.SpansAll items values cells) : other.SpansAll items values cells :=
  spans.kept grows.extended.length_le fun cell member => grows.items (spans.within cell member)

/-- A store has grown by cells, and these are some of the new ones. -/
structure Planted (store after : Store) (cells : List Nat) : Prop where
  grows : store.Grows after
  single : cells.Nodup
  fresh : ∀ cell ∈ cells, store.cells.length ≤ cell
  within : ∀ cell ∈ cells, cell < after.cells.length

theorem Planted.refl (store : Store) : store.Planted store [] := ⟨.refl store, .nil, nofun, nofun⟩

theorem Planted.append {middle after : Store} {first cells : List Nat} (before : store.Planted middle first)
    (later : middle.Planted after cells) : store.Planted after (first ++ cells) := by
  have old := before.grows.extended.length_le
  have new := later.grows.extended.length_le
  constructor
  · exact before.grows.trans later.grows
  · refine List.nodup_append'.mpr ⟨before.single, later.single, fun cell inside outside => ?_⟩
    exact Nat.not_lt_of_le (later.fresh cell outside) (before.within cell inside)
  · exact List.forall_mem_append.mpr ⟨before.fresh, fun cell member => Nat.le_trans old (later.fresh cell member)⟩
  · exact List.forall_mem_append.mpr ⟨fun cell member => Nat.lt_of_lt_of_le (before.within cell member) new, later.within⟩

theorem Planted.perm {after : Store} {cells others : List Nat} (planted : store.Planted after cells)
    (same : cells.Perm others) : store.Planted after others :=
  ⟨planted.grows, same.nodup_iff.mp planted.single, fun cell member => planted.fresh cell (same.mem_iff.mpr member),
    fun cell member => planted.within cell (same.mem_iff.mpr member)⟩

theorem newNode_plants {name : Item} {title : Value} {items : List Item} {args : List Value} {first cells : List Nat}
    (named : store.Spans name title first) (each : store.SpansAll items args cells) :
    ∃ item after, (newNode name items).run store = .ok (item, after) ∧ store.Planted after [store.cells.length] ∧
      after.Spans item (.node title args) (first ++ store.cells.length :: cells) := by
  let after : Store := { store with cells := store.cells ++ [items] }
  have grows : store.Grows after := ⟨List.prefix_append _ _, rfl, fun closed => closed.newCell each.holds.fits⟩
  refine ⟨_, after, rfl, ⟨grows, List.nodup_singleton _, by simp, by simp [after]⟩, ?_⟩
  have filled : after.items store.cells.length = items := by simp [after, Store.items]
  exact .node (named.grown grows) (by simp [after]) (filled.symm ▸ each.grown grows)

mutual

/-- A value that is put into a store makes a tree of new cells, none of which is shared. -/
theorem load_plants (store : Store) : ∀ value, ∃ item after cells,
    (load value).run store = .ok (item, after) ∧ store.Planted after cells ∧ after.Spans item value cells
  | .list items => by
    obtain ⟨made, after, cells, run, planted, each⟩ := loadItems_plants store items
    exact ⟨.list made, after, cells, by rw [load, StateT.run_bind, run]; rfl, planted, .list each⟩
  | .tuple items => by
    obtain ⟨made, after, cells, run, planted, each⟩ := loadItems_plants store items
    exact ⟨.tuple made, after, cells, by rw [load, StateT.run_bind, run]; rfl, planted, .tuple each⟩
  | .mapping entries => by
    obtain ⟨made, after, cells, run, planted, each⟩ := loadEntries_plants store entries
    exact ⟨.mapping made, after, cells, by rw [load, StateT.run_bind, run]; rfl, planted, .mapping each⟩
  | .node name args => by
    obtain ⟨title, middle, first, run, planted, named⟩ := load_plants store name
    obtain ⟨items, last, cells, runs, more, each⟩ := loadItems_plants middle args
    obtain ⟨item, after, final, new, spans⟩ := newNode_plants (named.grown more.grows) each
    refine ⟨item, after, _, ?_, ((planted.append more).append new).perm ?_, spans⟩
    · simp [load, run, runs, final]
    · rw [List.append_assoc]
      exact (List.perm_append_singleton _ cells).append_left first
  | .null => ⟨_, store, _, rfl, .refl store, .leaf rfl⟩
  | .bool _ => ⟨_, store, _, rfl, .refl store, .leaf rfl⟩
  | .int _ => ⟨_, store, _, rfl, .refl store, .leaf rfl⟩
  | .real _ => ⟨_, store, _, rfl, .refl store, .leaf rfl⟩
  | .text _ => ⟨_, store, _, rfl, .refl store, .leaf rfl⟩
  | .moment _ => ⟨_, store, _, rfl, .refl store, .leaf rfl⟩
  | .pattern _ => ⟨_, store, _, rfl, .refl store, .leaf rfl⟩
termination_by structural value => value

theorem loadItems_plants (store : Store) : ∀ values, ∃ items after cells,
    (loadItems values).run store = .ok (items, after) ∧ store.Planted after cells ∧ after.SpansAll items values cells
  | [] => ⟨_, store, _, rfl, .refl store, .nil⟩
  | value :: rest => by
    obtain ⟨item, middle, first, run, planted, head⟩ := load_plants store value
    obtain ⟨items, after, cells, runs, more, tail⟩ := loadItems_plants middle rest
    exact ⟨_, after, _, by simp [loadItems, run, runs], planted.append more, .cons (head.grown more.grows) tail⟩
termination_by structural values => values

theorem loadEntries_plants (store : Store) : ∀ values, ∃ entries after cells,
    (loadEntries values).run store = .ok (entries, after) ∧ store.Planted after cells ∧
      after.SpansEntries entries values cells
  | [] => ⟨_, store, _, rfl, .refl store, .nil⟩
  | (key, value) :: rest => by
    obtain ⟨item, middle, first, run, planted, head⟩ := load_plants store value
    obtain ⟨entries, after, cells, runs, more, tail⟩ := loadEntries_plants middle rest
    exact ⟨_, after, _, by simp [loadEntries, run, runs], planted.append more, .cons (head.grown more.grows) tail⟩
termination_by structural values => values

end

/-- A value that is put into a store makes an item that stands for it. -/
theorem load_makes (store : Store) (value : Value) :
    store.Makes (load value) fun other item => other.Holds item value := by
  obtain ⟨item, after, cells, run, planted, spans⟩ := load_plants store value
  refine ⟨item, after, run, planted.grows, fun other shares => (spans.kept shares.longer fun cell member => ?_).holds⟩
  exact shares.same cell (planted.fresh cell member) (planted.within cell member)

end Store

end Session
end ResourceQuery
