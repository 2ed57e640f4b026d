import ResourceQuery.Proofs.Query.PlainForm
import ResourceQuery.Proofs.Session.Push

/-!
Walks that rename queries. A walk visits the arguments of a query and goes on in the arguments of those that
are queries themselves, but not in lists. So in a tree without shared nodes every query that is reached through
arguments alone is renamed, and those in lists keep their names: one visit renames one argument and all that lies
below it (`visit_renames`), and so does the whole walk (`walkWithin_renames`, `walk_renames`). Two changes of a
session are renamings (`renames_upper`, `renames_rename`).
-/
namespace ResourceQuery

namespace Value

mutual

/-- A value with new names for its nodes: for those that are arguments of nodes, and with `inLists` for those in
lists as well. -/
def renamed (inLists : Bool) (rename : String → String) : Value → Value
  | .node (.text name) args => .node (.text (rename name)) (renamedAll inLists rename args)
  | .list items => .list (if inLists then renamedAll inLists rename items else items)
  | value => value
termination_by structural value => value

def renamedAll (inLists : Bool) (rename : String → String) : List Value → List Value
  | [] => []
  | item :: rest => item.renamed inLists rename :: renamedAll inLists rename rest
termination_by structural items => items

end

mutual

@[simp] theorem nesting_renamed (inLists : Bool) (rename : String → String) :
    ∀ value : Value, (value.renamed inLists rename).nesting = value.nesting
  | .node (.text name) args => by simp [renamed, nesting, nestingAll_renamedAll inLists rename args]
  | .list items => by
    cases inLists with
    | true => simp [renamed, nesting, nestingAll_renamedAll true rename items]
    | false => simp [renamed]
  | .node .null _ | .node (.bool _) _ | .node (.int _) _ | .node (.real _) _ | .node (.moment _) _ => rfl
  | .node (.pattern _) _ | .node (.list _) _ | .node (.tuple _) _ | .node (.mapping _) _ | .node (.node _ _) _ => rfl
  | .null | .bool _ | .int _ | .real _ | .text _ | .moment _ | .pattern _ | .tuple _ | .mapping _ => rfl

@[simp] theorem nestingAll_renamedAll (inLists : Bool) (rename : String → String) :
    ∀ items : List Value, nestingAll (renamedAll inLists rename items) = nestingAll items
  | [] => rfl
  | item :: rest => by
    simp [renamedAll, nestingAll, nesting_renamed inLists rename item, nestingAll_renamedAll inLists rename rest]

end

/-- A function keeps the names of all nodes that are reached from a value. -/
def KeepsNames (rename : String → String) (value : Value) : Prop :=
  ∀ name args, value.Reaches (.node (.text name) args) → rename name = name

variable {rename : String → String}

theorem keepsNames_node {name : String} {args : List Value} :
    KeepsNames rename (.node (.text name) args) ↔ rename name = name ∧ ∀ item ∈ args, item.KeepsNames rename := by
  constructor
  · exact fun keeps => ⟨keeps name args (.refl _), fun item member other inner reached => keeps other inner (.arg member reached)⟩
  · rintro ⟨own, each⟩ other inner reached
    cases reached with
    | refl => exact own
    | arg member below => exact each _ member other inner below

theorem keepsNames_list {items : List Value} :
    KeepsNames rename (.list items) ↔ ∀ item ∈ items, item.KeepsNames rename := by
  constructor
  · exact fun keeps item member other inner reached => keeps other inner (.item member reached)
  · intro each other inner reached
    cases reached with
    | item member below => exact each _ member other inner below

mutual

/-- A tree stays as it is exactly if no name in it changes. -/
theorem renamed_eq_self_iff : ∀ {value : Value}, value.TextNamed →
    (value.renamed true rename = value ↔ value.KeepsNames rename)
  | .node (.text name) args, named => by
    simp [renamed, keepsNames_node, renamedAll_eq_self_iff named]
  | .list items, named => by simp [renamed, keepsNames_list, renamedAll_eq_self_iff named]
  | .mapping entries, _ => iff_of_true rfl nofun
  | .null, _ => iff_of_true rfl nofun
  | .bool _, _ => iff_of_true rfl nofun
  | .int _, _ => iff_of_true rfl nofun
  | .real _, _ => iff_of_true rfl nofun
  | .text _, _ => iff_of_true rfl nofun
  | .moment _, _ => iff_of_true rfl nofun
  | .pattern _, _ => iff_of_true rfl nofun
  | .tuple _, _ => iff_of_true rfl nofun

theorem renamedAll_eq_self_iff : ∀ {items : List Value}, AllTextNamed items →
    (renamedAll true rename items = items ↔ ∀ item ∈ items, item.KeepsNames rename)
  | [], _ => by simp [renamedAll]
  | item :: rest, named => by
    simp [renamedAll, renamed_eq_self_iff named.1, renamedAll_eq_self_iff named.2]

end

/-- A function keeps the names of all nodes in the lists that are reached from a value. -/
def KeepsListed (rename : String → String) (value : Value) : Prop :=
  ∀ items, value.Reaches (.list items) → (Value.list items).KeepsNames rename

theorem keepsListed_node {name : Value} {args : List Value} :
    KeepsListed rename (.node name args) ↔ ∀ item ∈ args, item.KeepsListed rename := by
  constructor
  · exact fun keeps item member items reached => keeps items (.arg member reached)
  · intro each items reached
    cases reached with
    | arg member below => exact each _ member items below

theorem keepsListed_list {items : List Value} : KeepsListed rename (.list items) ↔ KeepsNames rename (.list items) := by
  constructor
  · exact fun keeps => keeps items (.refl _)
  · exact fun keeps others reached name args below => keeps name args (reached.trans below)

mutual

/-- It makes no difference whether nodes in lists are renamed exactly if they keep their names. -/
theorem renamed_eq_iff : ∀ {value : Value}, value.TextNamed →
    (value.renamed false rename = value.renamed true rename ↔ value.KeepsListed rename)
  | .node (.text name) args, named => by
    simp [renamed, keepsListed_node, renamedAll_eq_iff named]
  | .list items, named => by
    rw [keepsListed_list, keepsNames_list, ← renamedAll_eq_self_iff named, eq_comm]
    simp [renamed]
  | .mapping entries, _ => iff_of_true rfl nofun
  | .null, _ => iff_of_true rfl nofun
  | .bool _, _ => iff_of_true rfl nofun
  | .int _, _ => iff_of_true rfl nofun
  | .real _, _ => iff_of_true rfl nofun
  | .text _, _ => iff_of_true rfl nofun
  | .moment _, _ => iff_of_true rfl nofun
  | .pattern _, _ => iff_of_true rfl nofun
  | .tuple _, _ => iff_of_true rfl nofun

theorem renamedAll_eq_iff : ∀ {items : List Value}, AllTextNamed items →
    (renamedAll false rename items = renamedAll true rename items ↔ ∀ item ∈ items, item.KeepsListed rename)
  | [], _ => by simp [renamedAll]
  | item :: rest, named => by simp [renamedAll, renamed_eq_iff named.1, renamedAll_eq_iff named.2]

end

end Value

/-- A query with new names for the nodes below it, with `inLists` for those in lists as well. -/
def Query.renamed (inLists : Bool) (rename : String → String) (query : Query) : Query :=
  { query with args := Value.renamedAll inLists rename query.args }

theorem Query.renamed_eq_iff {rename : String → String} {query : Query} (named : Value.AllTextNamed query.args) :
    (query.renamed false rename).toValue = (query.renamed true rename).toValue ↔ query.toValue.KeepsListed rename := by
  rw [toValue, toValue, toValue, Value.keepsListed_node, ← Value.renamedAll_eq_iff named]
  simp [renamed]

namespace Session

variable {store other : Store}

open Store

/-! ### Walks -/

section
variable {change : Item → Nat → Action Item} {rename : String → String} {goOn : Nat → Action Unit} {depth cell : Nat}

/-- A change makes of every node whose name is a text the node under another name. -/
def Renames (change : Item → Nat → Action Item) (rename : String → String) : Prop :=
  ∀ name cell, change (.leaf (.text name)) cell = renamed rename (.leaf (.text name)) cell

/-- An action renames what lies in a cell: when the cell holds a tree without shared nodes which is nested less deep
than a bound, it succeeds, leaves the renamed tree in the cell, and changes the cells of the tree only. -/
def RenamesWithin (rename : String → String) (depth : Nat) (action : Nat → Action Unit) : Prop :=
  ∀ {store : Store} {cell : Nat} {args : List Value} {cells : List Nat}, store.SpansAll (store.items cell) args cells →
    cell < store.cells.length → (cell :: cells).Nodup → Value.AllTextNamed args → Value.nestingAll args < depth →
      ∃ after, (action cell).run store = .ok ((), after) ∧ store.Changes after (cell :: cells) ∧
        after.SpansAll (after.items cell) (Value.renamedAll false rename args) cells

/-- A visit changes nothing unless there is a node at the index. -/
theorem visit_other {index : Nat} (other : ∀ name inner, (store.items cell)[index]? ≠ some (.node name inner)) :
    (visit change goOn cell index).run store = .ok ((), store) := by
  rw [visit, StateT.run_bind]
  cases found : (store.items cell)[index]? with
  | none => simp [found]
  | some item =>
    cases item with
    | node name inner => exact absurd found (other name inner)
    | _ => simp [found]

/-- A visit puts the node that a change makes in the place of the old one, and goes on in its cell. -/
theorem visit_node {between : Store} {index inner next : Nat} {name title : Item}
    (found : (store.items cell)[index]? = some (.node name inner))
    (made : (change name inner).run store = .ok (.node title next, between)) :
    (visit change goOn cell index).run store =
      (goOn next).run { between with cells := between.cells.set cell ((between.items cell).set index (.node title next)) } := by
  rw [visit, StateT.run_bind]
  simp [found, made, setItems]

/-- One visit renames one argument, with all that lies below it. -/
theorem visit_renames (renames : Renames change rename) (within : RenamesWithin rename depth goOn) {item : Item}
    {value : Value} {cells : List Nat} {front rest : List Item} (spans : store.Spans item value cells)
    (here : store.items cell = front ++ item :: rest) (inside : cell < store.cells.length)
    (apart : (cell :: cells).Nodup) (named : value.TextNamed) (shallow : value.nesting ≤ depth) :
    ∃ new after, (visit change goOn cell front.length).run store = .ok ((), after) ∧ store.Changes after (cell :: cells) ∧
      after.items cell = front ++ new :: rest ∧ after.Spans new (value.renamed false rename) cells := by
  have found : (store.items cell)[front.length]? = some item := by simp [here]
  have unvisited (other : ∀ name inner, item ≠ .node name inner) (same : value.renamed false rename = value) :
      ∃ new after, (visit change goOn cell front.length).run store = .ok ((), after) ∧
        store.Changes after (cell :: cells) ∧ after.items cell = front ++ new :: rest ∧
        after.Spans new (value.renamed false rename) cells :=
    ⟨item, store, visit_other fun name inner => by simp [found, other], .refl _ _, here, same.symm ▸ spans⟩
  cases spans with
  | leaf scalar =>
    refine unvisited nofun ?_
    cases value with
    | node name args => cases scalar
    | _ => simp [Value.renamed]
  | list each => exact unvisited nofun (by simp [Value.renamed])
  | tuple each => exact unvisited nofun rfl
  | mapping each => exact unvisited nofun rfl
  | @node _ inner title args first below titled deeper each =>
    cases title with
    | text name =>
      cases titled with
      | leaf =>
        obtain ⟨away, once⟩ := List.nodup_cons.mp apart
        let new : Item := .node (.leaf (.text (rename name))) inner
        let written : Store := { store with cells := store.cells.set cell ((store.items cell).set front.length new) }
        have changed : store.Changes written [cell] := changes_set store cell _
        have kept : written.SpansAll (written.items inner) args below := by
          rw [changed.same inner fun same => away (by simp [List.mem_singleton.mp same])]
          exact each.apart changed (List.disjoint_singleton.mpr fun member => away (List.mem_cons_of_mem _ member))
        obtain ⟨after, run, changes, spans⟩ :=
          within kept (changed.length ▸ deeper) once named (Nat.lt_of_lt_of_le (Value.nestingAll_lt _ _) shallow)
        have all : store.Changes after (cell :: inner :: below) :=
          (changed.mono (by simp)).trans (changes.mono fun _ => List.mem_cons_of_mem _)
        have made : (change (.leaf (.text name)) inner).run store = .ok (new, store) := by
          rw [renames]
          rfl
        refine ⟨new, after, (visit_node found made).trans run, all, ?_, .node (.leaf rfl) (all.length ▸ deeper) spans⟩
        rw [changes.same cell away, items_set, if_pos ⟨rfl, inside⟩, here]
        simp
    | _ => exact absurd named id

/-- Visits one after the other rename the arguments from some argument on. -/
theorem visits_rename (renames : Renames change rename) (within : RenamesWithin rename depth goOn) {items : List Item}
    {args : List Value} {cells : List Nat} {front : List Item} (spans : store.SpansAll items args cells)
    (here : store.items cell = front ++ items) (inside : cell < store.cells.length) (apart : (cell :: cells).Nodup)
    (named : Value.AllTextNamed args) (shallow : Value.nestingAll args ≤ depth) :
    ∃ others after, ((List.range' front.length items.length).forM (visit change goOn cell)).run store = .ok ((), after) ∧
      store.Changes after (cell :: cells) ∧ after.items cell = front ++ others ∧
      after.SpansAll others (Value.renamedAll false rename args) cells := by
  induction items generalizing store args cells front with
  | nil =>
    cases spans
    exact ⟨[], store, rfl, .refl _ _, here, .nil⟩
  | cons item rest ih =>
    cases spans with
    | @cons _ value _ values first below head tail =>
      simp only [List.nodup_cons, List.mem_append, not_or, List.nodup_append'] at apart
      obtain ⟨⟨out, off⟩, once, single, split⟩ := apart
      have bounds := Nat.max_le.mp shallow
      -- The first argument takes its new name, and the others stand as they did.
      obtain ⟨new, middle, run, changes, filled, renamed⟩ :=
        visit_renames renames within head here inside (List.nodup_cons.mpr ⟨out, once⟩) named.1 bounds.1
      -- The others take theirs, and the first one keeps it.
      obtain ⟨others, after, runs, changed, whole, all⟩ :=
        @ih middle _ _ (front ++ [new]) (tail.apart changes (List.disjoint_cons_right.mpr ⟨off, List.disjoint_symm split⟩))
          (by simp [filled]) (changes.length ▸ inside) (List.nodup_cons.mpr ⟨off, single⟩) named.2 bounds.2
      have kept := renamed.apart changed (List.disjoint_cons_right.mpr ⟨out, split⟩)
      refine ⟨new :: others, after, ?_, ?_, by simpa using whole, .cons kept all⟩
      · rw [List.length_cons, List.range'_succ, List.forM, StateT.run_bind, run]
        simpa using runs
      · exact (changes.mono (by simp +contextual)).trans (changed.mono (by simp +contextual))

theorem walkWithin_succ (change : Item → Nat → Action Item) (depth cell : Nat) (store : Store) :
    (walkWithin change (depth + 1) cell).run store =
      ((List.range' 0 (store.items cell).length).forM (visit change (walkWithin change depth) cell)).run store := by
  rw [← List.range_eq_range']
  rfl

/-- A walk renames the arguments in a cell, and all that lies below them but in lists. -/
theorem walkWithin_renames (renames : Renames change rename) (depth : Nat) :
    RenamesWithin rename depth (walkWithin change depth) := by
  induction depth with
  | zero => exact fun _ _ _ _ shallow => absurd shallow (Nat.not_lt_zero _)
  | succ depth ih =>
    intro store cell args cells spans inside apart named shallow
    obtain ⟨others, after, run, changes, filled, all⟩ :=
      @visits_rename _ _ _ _ _ _ renames ih _ _ _ [] spans rfl inside apart named (Nat.le_of_lt_succ shallow)
    refine ⟨after, ?_, changes, filled ▸ all⟩
    rw [walkWithin_succ]
    exact run

/-- A walk from a node renames what lies below it. -/
theorem walkWithin_node (renames : Renames change rename) {query : Query} {name : Item} {cells : List Nat}
    (spans : store.Spans (.node name cell) query.toValue cells) (single : cells.Nodup)
    (named : Value.AllTextNamed query.args) (shallow : Value.nestingAll query.args < depth) :
    ∃ after, (walkWithin change depth cell).run store = .ok ((), after) ∧ after.registers = store.registers ∧
      after.Spans (.node name cell) (query.renamed false rename).toValue cells := by
  cases spans with
  | node titled inside each =>
    cases titled with
    | leaf =>
      obtain ⟨after, run, changes, spans⟩ := walkWithin_renames renames depth each inside single named shallow
      exact ⟨after, run, changes.registers, .node (.leaf rfl) (changes.length ▸ inside) spans⟩

/-- **Walks.** When no node of a query is shared, a walk renames the nodes that are reached from it through
arguments alone. This is the query with all its nodes renamed exactly if those in lists keep their names. -/
theorem walk_renames (rename : String → String) {query : Query} {name : Item} {cells : List Nat}
    (spans : store.Spans (.node name cell) query.toValue cells) (single : cells.Nodup)
    (named : Value.AllTextNamed query.args) (shallow : Value.nestingAll query.args < depth) :
    ∃ after, (walkWithin (renamed rename) depth cell).run store = .ok ((), after) ∧
      after.Spans (.node name cell) (query.renamed false rename).toValue cells ∧
      (after.Holds (.node name cell) (query.renamed true rename).toValue ↔ query.toValue.KeepsListed rename) := by
  obtain ⟨after, run, _, spans⟩ := walkWithin_node (fun _ _ => rfl) spans single named shallow
  refine ⟨after, run, spans, ?_⟩
  rw [← Query.renamed_eq_iff named]
  constructor
  · exact fun holds => spans.holds.unique holds
  · exact fun same => same ▸ spans.holds

/-- The arguments of a conjunction take their new names, and a node in a list keeps its own. -/
theorem walk_renames_mixed :
    ∃ after, (walkWithin (renamed (· ++ "2")) maxDepth 0).run
        ⟨[[.node (.leaf (.text "or")) 1, .list [.node (.leaf (.text "eq")) 2]], [.leaf (.int 1)], []], []⟩ = .ok ((), after) ∧
      after.Spans (.node (.leaf (.text "and")) 0) (.node (.text "and")
        [.node (.text "or2") [.int 1], .list [.node (.text "eq") []]]) [0, 1, 2] ∧
      ¬ after.Holds (.node (.leaf (.text "and")) 0) (.node (.text "and")
        [.node (.text "or2") [.int 1], .list [.node (.text "eq2") []]]) := by
  let store : Store := ⟨[[.node (.leaf (.text "or")) 1, .list [.node (.leaf (.text "eq")) 2]], [.leaf (.int 1)], []], []⟩
  let query : Query := ⟨"and", [.node (.text "or") [.int 1], .list [.node (.text "eq") []]]⟩
  have direct : store.Spans (.node (.leaf (.text "or")) 1) (.node (.text "or") [.int 1]) [1] :=
    @Spans.node _ _ _ _ _ [] [] (.leaf rfl) (by decide) (.cons (.leaf rfl) .nil)
  have listed : store.Spans (.node (.leaf (.text "eq")) 2) (.node (.text "eq") []) [2] :=
    @Spans.node _ _ _ _ _ [] [] (.leaf rfl) (by decide) .nil
  have whole : store.Spans (.node (.leaf (.text "and")) 0) query.toValue [0, 1, 2] :=
    @Spans.node _ _ _ _ _ [] [1, 2] (.leaf rfl) (by decide) (.cons direct (.cons (.list (.cons listed .nil)) .nil))
  obtain ⟨after, run, spans, holds⟩ := @walk_renames store maxDepth 0 (· ++ "2") query (.leaf (.text "and")) [0, 1, 2]
    whole (by decide) (by simp [query, Value.AllTextNamed, Value.TextNamed]) (by decide)
  refine ⟨after, run, spans, fun held => ?_⟩
  have kept := holds.mp held _ (.arg (.tail _ (.head _)) (.refl _)) "eq" [] (.item (.head _) (.refl _))
  exact absurd kept (by decide)

/-- A walk does not rename all nodes: it leaves the node of a list as it is. -/
theorem walk_listed_kept :
    ¬ ∀ (rename : String → String) (store after : Store) (query : Query) (name : Item) (cell : Nat) (cells : List Nat),
      store.Spans (.node name cell) query.toValue cells → cells.Nodup → Value.AllTextNamed query.args →
        Value.nestingAll query.args < maxDepth → (walkWithin (renamed rename) maxDepth cell).run store = .ok ((), after) →
          after.Holds (.node name cell) (query.renamed true rename).toValue := by
  intro claim
  let store : Store := ⟨[[.list [.node (.leaf (.text "eq")) 1]], []], []⟩
  let query : Query := ⟨"and", [.list [.node (.text "eq") []]]⟩
  have listed : store.Spans (.node (.leaf (.text "eq")) 1) (.node (.text "eq") []) [1] :=
    @Spans.node _ _ _ _ _ [] [] (.leaf rfl) (by decide) .nil
  have whole : store.Spans (.node (.leaf (.text "and")) 0) query.toValue [0, 1] :=
    @Spans.node _ _ _ _ _ [] [1] (.leaf rfl) (by decide) (.cons (.list (.cons listed .nil)) .nil)
  have holds := claim (· ++ "2") store store query _ 0 [0, 1] whole (by decide)
    (by simp [query, Value.AllTextNamed, Value.TextNamed]) (by decide) rfl
  have same : query.toValue = (query.renamed true (· ++ "2")).toValue := whole.holds.unique holds
  simp [query, Query.toValue, Query.renamed, Value.renamedAll, Value.renamed] at same

end

/-! ### Walks of a session -/

theorem renames_upper : Renames Change.upper.apply Text.upper := fun _ _ => rfl

theorem renames_rename (source target : String) :
    Renames (Change.rename source target).apply fun name => if name = source then target else name := by
  intro name cell
  by_cases same : name = source
  · simp [Change.apply, renamed, Item.isText, same]
  · simp [Change.apply, renamed, Item.isText, same]

variable {change : Change} {rename : String → String} {register : String} {query : Query}

/-- A walk step answers with the new names, and leaves them in the register. -/
theorem run_walk (environment : Option String) (renames : Renames change.apply rename) {item : Item} {cells : List Nat}
    (held : store.registers.get? register = some item) (spans : store.Spans item query.toValue cells)
    (single : cells.Nodup) (named : Value.AllTextNamed query.args) (shallow : query.toValue.nesting ≤ maxDepth) :
    ∃ after, ((Step.walk register change).run environment).run store =
        .ok (.state (query.renamed false rename).toValue, after) ∧
      after.registers.get? register = some item ∧ after.Spans item (query.renamed false rename).toValue cells := by
  cases item with
  | node name cell =>
    obtain ⟨after, run, registers, renamed⟩ :=
      walkWithin_node renames spans single named (Nat.lt_of_lt_of_le (Value.nestingAll_lt _ _) shallow)
    have kept : after.registers.get? register = some (.node name cell) := registers ▸ held
    have bound : (query.renamed false rename).toValue.nesting ≤ maxDepth := by
      simpa [Query.renamed, Query.toValue, Value.nesting] using shallow
    have read : after.resolve (.node name cell) = .ok (query.renamed false rename).toValue :=
      renamed.holds.valueWith bound
    refine ⟨after, ?_, kept, renamed⟩
    simp [Step.run, queryIn_run held, walk, run, registerValue_run kept, read]
  | leaf => cases spans with | leaf scalar => cases scalar
  | _ => cases spans

/-- **Walks of a session.** At any point of a session, a query that is put into a register and then walked is answered
with the new names. -/
theorem answers_make_walk (environment : Option String) (steps : List Step) (renames : Renames change.apply rename)
    (named : Value.AllTextNamed query.args) (shallow : query.toValue.nesting ≤ maxDepth) :
    (runFrom environment {} (steps ++ [Step.make register (.value query.toValue), Step.walk register change])).1 =
      (runFrom environment {} steps).1 ++
        [Except.ok (Answer.state query.toValue), Except.ok (Answer.state (query.renamed false rename).toValue)] := by
  generalize start : (runFrom environment {} steps).2 = store
  obtain ⟨item, loaded, cells, load, planted, spans⟩ := load_plants store query.toValue
  let made : Store := { loaded with registers := loaded.registers.put register item }
  have kept : made.Spans item query.toValue cells :=
    @Spans.kept loaded made (Nat.le_refl _) _ _ _ spans fun _ _ => rfl
  obtain ⟨answer, _⟩ : (keep register item).run loaded = .ok (.state query.toValue, made) ∧ made.Has register query.toValue :=
    keep_run rfl rfl kept.holds shallow
  have held : made.registers.get? register = some item := by simp [made, Entries.get?_put]
  obtain ⟨after, run, _⟩ := run_walk environment renames held kept planted.single named shallow
  have make : ((Step.make register (.value query.toValue)).run environment).run store =
      .ok (.state query.toValue, made) := by
    rw [Step.run, StateT.run_bind, Draft.make, load]
    exact answer
  rw [runFrom_append, start]
  simp [runFrom, make, run]

example :
    (runFrom none {} [.make "q" (.value (.node (.text "and") [.node (.text "ne") [.text "a"], .list [.node (.text "ne") []]])),
      .walk "q" (.rename "ne" "eq")]).1 =
      [.ok (.state (.node (.text "and") [.node (.text "ne") [.text "a"], .list [.node (.text "ne") []]])),
        .ok (.state (.node (.text "and") [.node (.text "eq") [.text "a"], .list [.node (.text "ne") []]]))] :=
  @answers_make_walk _ _ "q" ⟨"and", [.node (.text "ne") [.text "a"], .list [.node (.text "ne") []]]⟩ none []
    (renames_rename "ne" "eq") (by simp [Value.AllTextNamed, Value.TextNamed]) (by decide)

end Session
end ResourceQuery
