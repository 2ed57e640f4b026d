import ResourceQuery.Proofs.Entries
import ResourceQuery.Proofs.Session.Tree
import ResourceQuery.Session.Basic

/-!
Stores are closed at every point of a session: whatever steps are taken, no item names a cell that is
not there (`closed_runFrom`). `Store.Keeps` says what one action leaves, and there is one lemma for
each action; a step that fails leaves the store as it was.
-/
namespace ResourceQuery.Session

namespace Store

variable {store : Store} {α β : Type} {fits : Nat → α → Prop}

/-- An action that succeeds leaves a closed store without fewer cells, and makes something that fits it. -/
def Keeps (store : Store) (action : Action α) (fits : Nat → α → Prop) : Prop :=
  ∀ result after, action.run store = .ok (result, after) →
    after.Closed ∧ store.cells.length ≤ after.cells.length ∧ fits after.cells.length result

theorem Keeps.pure (closed : store.Closed) {result : α} (fit : fits store.cells.length result) :
    store.Keeps (pure result) fits := by
  rintro _ _ ⟨⟩
  exact ⟨closed, Nat.le_refl _, fit⟩

theorem Keeps.throw (fault : Error) : store.Keeps (throw fault) fits := nofun

theorem Keeps.bind {action : Action α} {next : α → Action β} {last : Nat → β → Prop} (first : store.Keeps action fits)
    (second : ∀ result (after : Store), after.Closed → store.cells.length ≤ after.cells.length →
      fits after.cells.length result → after.Keeps (next result) last) : store.Keeps (action >>= next) last := by
  intro result after run
  obtain ⟨⟨middle, between⟩, ran, rest⟩ := Outcome.bind_eq_ok_iff.mp run
  obtain ⟨closed, longer, fit⟩ := first middle between ran
  obtain ⟨closedAfter, longerAfter, fitAfter⟩ := second middle between closed longer fit result after rest
  exact ⟨closedAfter, Nat.le_trans longer longerAfter, fitAfter⟩

/-- An outcome without a store leaves the store as it is. -/
theorem Keeps.lift (closed : store.Closed) {outcome : Except Error α}
    (fit : ∀ result, outcome = .ok result → fits store.cells.length result) :
    store.Keeps (liftM outcome) fits := by
  intro result after run
  obtain ⟨value, done, same⟩ := Outcome.bind_eq_ok_iff.mp run
  cases same
  exact ⟨closed, Nat.le_refl _, fit _ done⟩

theorem Keeps.get {next : Store → Action α} (keeps : store.Keeps (next store) fits) : store.Keeps (get >>= next) fits :=
  keeps

theorem Makes.keeps {action : Action α} {held : Store → α → Prop} (makes : store.Makes action held)
    (closed : store.Closed) (fit : ∀ other result, held other result → fits other.cells.length result) : store.Keeps action fits := by
  obtain ⟨result, after, run, grows, holds⟩ := makes
  intro other last ran
  rw [run] at ran
  cases ran
  exact ⟨grows.closed closed, grows.extended.length_le, fit _ _ (holds _ (.refl _ _))⟩

/-- A loop keeps a store closed when each turn does. -/
theorem Keeps.forM {indices : List Nat} {body : Nat → Action PUnit}
    (turn : ∀ index (before : Store), before.Closed → before.Keeps (body index) fun _ _ => True) (closed : store.Closed) :
    store.Keeps (indices.forM body) fun _ _ => True := by
  induction indices generalizing store with
  | nil => exact .pure closed trivial
  | cons index rest ih => exact .bind (turn index store closed) fun _ _ closedAfter _ _ => ih closedAfter

def FitAll (bound : Nat) (items : List Item) : Prop := ∀ item ∈ items, item.Fits bound

def FitEntries (bound : Nat) (entries : List (String × Item)) : Prop := ∀ entry ∈ entries, entry.2.Fits bound

theorem FitAll.mono {bound more : Nat} (le : bound ≤ more) {items : List Item} (fits : FitAll bound items) :
    FitAll more items := fun item member => (fits item member).mono le

theorem FitEntries.mono {bound more : Nat} (le : bound ≤ more) {entries : List (String × Item)}
    (fits : FitEntries bound entries) : FitEntries more entries := fun entry member => (fits entry member).mono le

theorem Keeps.outcome (closed : store.Closed) (outcome : Except Error α) : store.Keeps (liftM outcome) fun _ _ => True :=
  .lift closed fun _ _ => trivial

theorem Keeps.item (closed : store.Closed) {outcome : Except Error Item}
    (fit : ∀ item, outcome = .ok item → item.Fits store.cells.length) :
    store.Keeps (liftM outcome) Item.Fits := .lift closed fit

theorem Keeps.items (closed : store.Closed) {outcome : Except Error (List Item)}
    (fit : ∀ items, outcome = .ok items → FitAll store.cells.length items) : store.Keeps (liftM outcome) FitAll :=
  .lift closed fit

theorem newNode_keeps (closed : store.Closed) {name : Item} {args : List Item} (named : name.Fits store.cells.length)
    (each : FitAll store.cells.length args) : store.Keeps (newNode name args) Item.Fits := by
  rintro _ _ ⟨⟩
  exact ⟨closed.newCell each, by simp, .node (named.mono (by simp)) (by simp)⟩

theorem newQuery_keeps (closed : store.Closed) (name : String) {args : List Item} (each : FitAll store.cells.length args) :
    store.Keeps (newQuery name args) Item.Fits := newNode_keeps closed (.leaf rfl) each

theorem setItems_keeps (closed : store.Closed) (cell : Nat) {items : List Item} (each : FitAll store.cells.length items) :
    store.Keeps (setItems cell items) fun _ _ => True := by
  rintro _ _ ⟨⟩
  refine ⟨⟨fun others member item inside => ?_, fun entry member => ?_⟩, by simp, trivial⟩
  · rw [List.length_set]
    rcases List.mem_or_eq_of_mem_set member with old | rfl
    · exact closed.cells others old item inside
    · exact each item inside
  · rw [List.length_set]
    exact closed.registers entry member

theorem register_keeps (closed : store.Closed) (name : String) : store.Keeps (register name) Item.Fits := by
  refine .get ?_
  split
  · rename_i item found
    obtain ⟨before, rest, split, _⟩ := Entries.get?_split found
    exact .pure closed (closed.registers (name, item) (by simp [split]))
  · exact .throw _

theorem setRegister_keeps (closed : store.Closed) (name : String) {item : Item} (fits : item.Fits store.cells.length) :
    store.Keeps (setRegister name item) fun _ _ => True := by
  rintro _ _ ⟨⟩
  refine ⟨⟨closed.cells, fun entry member => ?_⟩, Nat.le_refl _, trivial⟩
  rcases Entries.mem_put member with rfl | old
  · exact fits
  · exact closed.registers entry old

theorem load_keeps (closed : store.Closed) (value : Value) : store.Keeps (load value) Item.Fits :=
  (load_makes store value).keeps closed fun _ _ held => held.fits

end Store

open Store

variable {store : Store}

mutual

theorem Draft.make_keeps {store : Store} (closed : store.Closed) : ∀ draft : Draft, store.Keeps draft.make Item.Fits
  | .value made => load_keeps closed made
  | .register name => register_keeps closed name
  | .list items => .bind (Draft.makeItems_keeps closed items) fun _ _ closed _ each => .pure closed (.list each)
  | .tuple items => .bind (Draft.makeItems_keeps closed items) fun _ _ closed _ each => .pure closed (.tuple each)
  | .mapping entries =>
    .bind (Draft.makeEntries_keeps closed entries) fun _ _ closed _ each => .pure closed (.mapping each)
  | .node name args => .bind (Draft.make_keeps closed name) fun _ _ closed _ named =>
    .bind (Draft.makeItems_keeps closed args) fun _ _ closed longer each => newNode_keeps closed (named.mono longer) each
termination_by structural draft => draft

theorem Draft.makeItems_keeps {store : Store} (closed : store.Closed) :
    ∀ drafts : List Draft, store.Keeps (Draft.makeItems drafts) FitAll
  | [] => .pure closed nofun
  | draft :: rest => .bind (Draft.make_keeps closed draft) fun _ _ closed _ head =>
    .bind (Draft.makeItems_keeps closed rest) fun _ _ closed longer tail =>
      .pure closed (List.forall_mem_cons.mpr ⟨head.mono longer, tail⟩)
termination_by structural drafts => drafts

theorem Draft.makeEntries_keeps {store : Store} (closed : store.Closed) : ∀ drafts : List (String × Draft),
    store.Keeps (Draft.makeEntries drafts) FitEntries
  | [] => .pure closed nofun
  | (_, draft) :: rest => .bind (Draft.make_keeps closed draft) fun _ _ closed _ head =>
    .bind (Draft.makeEntries_keeps closed rest) fun _ _ closed longer tail =>
      .pure closed (List.forall_mem_cons.mpr ⟨head.mono longer, tail⟩)
termination_by structural drafts => drafts

end

theorem items_fit {bound : Nat} {item : Item} (fits : item.Fits bound) {items : List Item} (has : item.items = .ok items) :
    FitAll bound items := by
  unfold Item.items at has
  split at has
  · cases has
    cases fits
    assumption
  · cases has
    cases fits
    assumption
  · cases has
    intro item member
    obtain ⟨c, _, rfl⟩ := List.mem_map.mp member
    exact .leaf rfl
  · cases has
    intro item member
    obtain ⟨entry, _, rfl⟩ := List.mem_map.mp member
    exact .leaf rfl
  · cases has

theorem comparisonArgs_fit {bound : Nat} {comparator : Comparator} {field value : Item} (named : field.Fits bound)
    (fits : value.Fits bound) {args : List Item} (made : comparisonArgs comparator field value = .ok args) :
    FitAll bound args := by
  have pair : ∀ {other : Item}, other.Fits bound → FitAll bound [field, other] := fun fit =>
    List.forall_mem_cons.mpr ⟨named, List.forall_mem_singleton.mpr fit⟩
  unfold comparisonArgs at made
  split at made
  · obtain ⟨items, has, same⟩ := Outcome.bind_eq_ok_iff.mp made
    cases same
    exact pair (.list (items_fit fits has))
  · obtain ⟨items, has, same⟩ := Outcome.bind_eq_ok_iff.mp made
    cases same
    exact pair (.list (items_fit fits has))
  · cases made
    exact pair fits

theorem Builder.build_keeps (closed : store.Closed) (builder : Builder) {args : List Item}
    (each : FitAll store.cells.length args) : store.Keeps (builder.build args) Item.Fits := by
  unfold Builder.build
  split
  · have fits := List.forall_mem_cons.mp each
    refine .bind (.items closed fun args made => ?_) fun args after closed longer each => ?_
    · exact comparisonArgs_fit fits.1 (List.forall_mem_singleton.mp fits.2) made
    · exact newQuery_keeps closed _ each
  · exact newQuery_keeps closed _ each
  · exact newQuery_keeps closed _ each
  · exact newQuery_keeps closed _ each
  · exact newQuery_keeps closed _ each
  · exact newQuery_keeps closed _ (List.forall_mem_singleton.mpr (List.forall_mem_cons.mp each).1)
  · exact newQuery_keeps closed _ each
  · exact newQuery_keeps closed _ each
  · exact .throw _

theorem lookup_fits {bound : Nat} {entries : List (String × Item)} (each : FitEntries bound entries)
    {key : String} {item : Item} (found : entries.lookup key = some item) : item.Fits bound := by
  have listed : Entries.get? entries key = some item := found
  obtain ⟨before, rest, split, _⟩ := Entries.get?_split listed
  exact each (key, item) (by simp [split])

mutual

theorem ofPlain_keeps {store : Store} (closed : store.Closed) :
    ∀ item : Item, item.Fits store.cells.length → store.Keeps (ofPlain item) Item.Fits
  | .mapping entries, fits => by
    rw [ofPlain]
    split
    · cases fits with
      | mapping each =>
        refine .bind (plainArgs_keeps closed entries each) fun args after closed longer fit => ?_
        cases args with
        | none => exact .pure closed (.mapping (FitEntries.mono longer each))
        | some args => exact newQuery_keeps closed _ (fit args rfl)
    · exact .pure closed fits
  | .list items, fits => by
    cases fits with
    | list each => exact .bind (ofPlainItems_keeps closed items each) fun _ _ closed _ fit => .pure closed (.list fit)
  | .leaf value, fits => .pure closed fits
  | .tuple items, fits => .pure closed fits
  | .node name cell, fits => .pure closed fits
termination_by structural item => item

theorem ofPlainItems_keeps {store : Store} (closed : store.Closed) :
    ∀ items : List Item, FitAll store.cells.length items → store.Keeps (ofPlainItems items) FitAll
  | [], _ => .pure closed nofun
  | item :: rest, fits => by
    obtain ⟨first, others⟩ := List.forall_mem_cons.mp fits
    refine .bind (ofPlain_keeps closed item first) fun _ _ closed longer head => ?_
    refine .bind (ofPlainItems_keeps closed rest (FitAll.mono longer others)) fun _ _ closed longer tail => ?_
    exact .pure closed (List.forall_mem_cons.mpr ⟨head.mono longer, tail⟩)
termination_by structural items => items

theorem plainArgs_keeps {store : Store} (closed : store.Closed) : ∀ entries : List (String × Item),
    FitEntries store.cells.length entries →
      store.Keeps (plainArgs entries) fun bound args => ∀ items, args = some items → FitAll bound items
  | [], _ => .pure closed nofun
  | (key, item) :: rest, fits => by
    obtain ⟨first, others⟩ := List.forall_mem_cons.mp fits
    unfold plainArgs
    split
    · cases item with
      | list items =>
        cases first with
        | list each =>
          refine .bind (ofPlainItems_keeps closed items each) fun args after closed _ fit => .pure closed ?_
          rintro _ ⟨⟩
          exact fit
      | _ => exact .pure closed nofun
    · exact plainArgs_keeps closed rest others
termination_by structural entries => entries

end

theorem entry_fits {bound : Nat} {entries : List (String × Item)} (each : FitEntries bound entries)
    {key : String} {item : Item} (found : entry entries key = .ok item) : item.Fits bound := by
  unfold entry at found
  split at found
  · cases found
    exact lookup_fits each ‹_›
  · cases found

theorem nodeOfEntries_keeps (closed : store.Closed) {item : Item} (fits : item.Fits store.cells.length) :
    store.Keeps (nodeOfEntries item) Item.Fits := by
  unfold nodeOfEntries
  split
  · cases fits with
    | mapping each =>
      refine .bind (.item closed fun _ => entry_fits each) fun name _ closed longer named => ?_
      refine .bind (.item closed fun _ => entry_fits (FitEntries.mono longer each)) fun args _ closed longer listed => ?_
      refine .bind (.items closed fun _ => items_fit listed) fun items _ closed more all => ?_
      refine .bind (ofPlainItems_keeps closed items all) fun _ _ closed most each => ?_
      exact newNode_keeps closed (named.mono (Nat.le_trans longer (Nat.le_trans more most))) each
  · exact .throw _

theorem extend_keeps (closed : store.Closed) (cell : Nat) {items : List Item} (each : FitAll store.cells.length items) :
    store.Keeps (extend cell items) fun _ _ => True := by
  refine .get (setItems_keeps closed cell fun item member => ?_)
  exact (List.mem_append.mp member).elim (closed.items cell item) (each item)

theorem leadWith_fit {bound : Nat} (text : String) {items : List Item} (each : FitAll bound items) :
    FitAll bound (leadWith text items) := by
  unfold leadWith
  split
  · exact List.forall_mem_cons.mpr ⟨.leaf rfl, (List.forall_mem_cons.mp each).2⟩
  · exact each

theorem renamed_keeps (closed : store.Closed) (rename : String → String) {name : Item} {cell : Nat}
    (inside : cell < store.cells.length) : store.Keeps (renamed rename name cell) Item.Fits := by
  unfold renamed
  split
  · exact .pure closed (.node (.leaf rfl) inside)
  · exact .throw _

theorem Change.apply_keeps (closed : store.Closed) (change : Change) {name : Item} {cell : Nat}
    (fits : Item.Fits store.cells.length (.node name cell)) :
    store.Keeps (change.apply name cell) Item.Fits := by
  cases fits with
  | node named inside =>
    unfold Change.apply
    split
    · exact renamed_keeps closed _ inside
    · refine .pure closed (.node ?_ inside)
      split
      · exact .leaf rfl
      · exact named
    · split
      · exact Draft.make_keeps closed _
      · exact .pure closed (.node named inside)
    · refine .bind (Draft.makeItems_keeps closed _) fun items _ closed longer each => ?_
      refine .bind (extend_keeps closed cell each) fun _ _ closed more _ => ?_
      have le := Nat.le_trans longer more
      exact .pure closed (.node (named.mono le) (Nat.lt_of_lt_of_le inside le))
    · exact .get (newNode_keeps closed named (leadWith_fit _ (closed.items cell)))

section
variable {change : Item → Nat → Action Item}
  (keeps : ∀ {store : Store}, store.Closed → ∀ {name : Item} {cell : Nat},
    Item.Fits store.cells.length (.node name cell) → store.Keeps (change name cell) Item.Fits)
include keeps

theorem visit_keeps {goOn : Nat → Action Unit}
    (after : ∀ {store : Store}, store.Closed → ∀ cell, store.Keeps (goOn cell) fun _ _ => True) (closed : store.Closed)
    (cell index : Nat) : store.Keeps (visit change goOn cell index) fun _ _ => True := by
  refine .get ?_
  split
  · rename_i name inner found
    have fits := closed.items cell _ (List.mem_of_getElem? found)
    refine .bind (keeps closed fits) fun new between closed longer fit => .get ?_
    have each : FitAll between.cells.length ((between.items cell).set index new) := fun item member =>
      (List.mem_or_eq_of_mem_set member).elim (closed.items cell item) fun same => same ▸ fit
    refine .bind (setItems_keeps closed cell each) fun _ _ closed _ _ => ?_
    split
    · exact after closed _
    · exact .throw _
  · exact .pure closed trivial

/-- A walk keeps a store closed when every change does. -/
theorem walkWithin_keeps (depth : Nat) {store : Store} (closed : store.Closed) (cell : Nat) :
    store.Keeps (walkWithin change depth cell) fun _ _ => True := by
  induction depth generalizing store cell with
  | zero => exact .throw _
  | succ depth ih => exact .get (.forM (fun index _ closed => visit_keeps keeps ih closed cell index) closed)

end

/-! ### Steps -/

theorem valueOf_keeps (closed : store.Closed) (item : Item) : store.Keeps (valueOf item) fun _ _ => True :=
  .get (.outcome closed _)

theorem registerValue_keeps (closed : store.Closed) (name : String) : store.Keeps (registerValue name) fun _ _ => True :=
  .bind (register_keeps closed name) fun item _ closed _ _ => valueOf_keeps closed item

theorem keep_keeps (closed : store.Closed) (target : String) {item : Item} (fits : item.Fits store.cells.length) :
    store.Keeps (keep target item) fun _ _ => True :=
  .bind (setRegister_keeps closed target fits) fun _ _ closed _ _ =>
    .bind (valueOf_keeps closed item) fun _ _ closed _ _ => .pure closed trivial

theorem queryIn_keeps (closed : store.Closed) (name : String) :
    store.Keeps (queryIn name) fun bound query => Item.Fits bound (.node query.1 query.2) := by
  refine .bind (register_keeps closed name) fun item after closed longer fits => ?_
  split
  · exact .pure closed fits
  · exact .throw _

theorem combine_keeps (closed : store.Closed) (connective : Connective) (left right : String) :
    store.Keeps (Session.combine connective left right) Item.Fits := by
  refine .bind (queryIn_keeps closed left) fun query _ closed _ fits => ?_
  refine .bind (register_keeps closed right) fun other after closed longer fit => ?_
  split
  · refine .get (newQuery_keeps closed _ fun item member => ?_)
    rcases List.mem_append.mp member with old | new
    · exact closed.items query.2 item old
    · exact List.mem_singleton.mp new ▸ fit
  · exact newQuery_keeps closed _ (List.forall_mem_cons.mpr ⟨fits.mono longer, List.forall_mem_singleton.mpr fit⟩)

theorem validate_keeps (closed : store.Closed) {item : Item} (fits : item.Fits store.cells.length) :
    store.Keeps (Session.validate item) Item.Fits := by
  refine .bind (valueOf_keeps closed item) fun value _ closed longer _ => ?_
  refine .bind (.outcome closed _) fun _ _ closed more _ => ?_
  have fits := fits.mono (Nat.le_trans longer more)
  split
  · exact .pure closed fits
  · exact ofPlain_keeps closed _ fits

theorem Step.run_keeps (environment : Option String) (closed : store.Closed) (step : Step) :
    store.Keeps (step.run environment) fun _ _ => True := by
  cases step with
  | parse target text =>
    refine .bind (.outcome closed _) fun query _ closed _ _ => ?_
    exact .bind (load_keeps closed query.toValue) fun _ _ closed _ fits => keep_keeps closed target fits
  | make target draft => exact .bind (Draft.make_keeps closed draft) fun _ _ closed _ fits => keep_keeps closed target fits
  | build target builder args =>
    refine .bind (Draft.makeItems_keeps closed args) fun _ _ closed _ each => ?_
    exact .bind (builder.build_keeps closed each) fun _ _ closed _ fits => keep_keeps closed target fits
  | ofMapping target draft =>
    refine .bind (Draft.make_keeps closed draft) fun _ _ closed _ fits => ?_
    exact .bind (nodeOfEntries_keeps closed fits) fun _ _ closed _ fits => keep_keeps closed target fits
  | combine connective target left right =>
    exact .bind (combine_keeps closed connective left right) fun _ _ closed _ fits => keep_keeps closed target fits
  | push target register terms =>
    refine .bind (queryIn_keeps closed register) fun query _ closed _ fits => ?_
    refine .bind (Draft.makeItems_keeps closed terms) fun items _ closed longer each => ?_
    refine .bind (extend_keeps closed query.2 each) fun _ _ closed more _ => ?_
    exact keep_keeps closed target (fits.mono (Nat.le_trans longer more))
  | validate target register =>
    refine .bind (register_keeps closed register) fun _ _ closed _ fits => ?_
    exact .bind (validate_keeps closed fits) fun _ _ closed _ fits => keep_keeps closed target fits
  | walk register change =>
    refine .bind (queryIn_keeps closed register) fun query _ closed _ _ => ?_
    refine .bind (walkWithin_keeps (change.apply_keeps ·) _ closed query.2) fun _ _ closed _ _ => ?_
    exact .bind (registerValue_keeps closed register) fun _ _ closed _ _ => .pure closed trivial
  | print register =>
    refine .bind (registerValue_keeps closed register) fun _ _ closed _ _ => ?_
    exact .bind (.outcome closed _) fun _ _ closed _ _ => .pure closed trivial
  | toMapping register => exact .bind (registerValue_keeps closed register) fun _ _ closed _ _ => .pure closed trivial
  | equal left right =>
    refine .bind (registerValue_keeps closed left) fun _ _ closed _ _ => ?_
    exact .bind (registerValue_keeps closed right) fun _ _ closed _ _ => .pure closed trivial
  | compile register given =>
    refine .bind (registerValue_keeps closed register) fun _ _ closed _ _ => ?_
    exact .bind (.outcome closed _) fun _ _ closed _ _ => .pure closed trivial

/-- **Stores are closed.** Steps that are taken from a closed store leave a closed store. -/
theorem closed_runFrom (environment : Option String) (closed : store.Closed) (steps : List Step) :
    (runFrom environment store steps).2.Closed := by
  induction steps generalizing store with
  | nil => exact closed
  | cons step rest ih =>
    rw [runFrom]
    cases run : (step.run environment).run store with
    | ok outcome => exact ih (step.run_keeps environment closed outcome.1 outcome.2 run).1
    | error fault => exact ih closed

theorem closed_nil : Closed {} := ⟨nofun, nofun⟩

end ResourceQuery.Session
