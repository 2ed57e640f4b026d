import ResourceQuery.Proofs.Entries
import ResourceQuery.Proofs.Find.Scope

/-!
The mapping of a scope. `Operator.mapping` is what a scope is turned into, told from its operators as
a whole: every field that is compared, in the order in which the fields first come, with the last
value of its equalities or with the last value of each other comparison, and under `$or` the mappings
of the operands of all its disjunctions. A scope in which no field clashes is described by its mapping
(`Operator.describes_mapping`), and the mappings of all scopes are the layers of the mapping at the
root (`Criteria.layers_mapping`).
-/
namespace ResourceQuery

namespace Operator

/-- The values that a field is set equal to, in order. -/
def equalities (scope : List Operator) (field : String) : List Value :=
  scope.filterMap fun
    | .comparison .eq other value => if other = field then some value else none
    | _ => none

/-- The other comparisons of a field, in order: the operators of the database with their values. -/
def constraints (scope : List Operator) (field : String) : List (String × Value) :=
  scope.filterMap fun
    | .comparison comparator other value =>
      if other = field ∧ comparator ≠ .eq then some (comparator.tag, comparator.operand value) else none
    | _ => none

/-- The operands of the disjunctions, in order. -/
def alternatives (scope : List Operator) : List Operator :=
  scope.flatMap fun
    | .logical .or operands => operands
    | _ => []

/-- The keys of the places that are filled, in the order in which they first come. -/
def keys (scope : List Operator) : List String := ((places scope).map Slot.key).eraseDups

/-- What a key is bound to, where `branches` are the mappings of the alternatives. -/
def binding (scope : List Operator) (branches : List Criteria) (key : String) : Constraint :=
  if key = branchesKey ∧ .alternatives ∈ places scope then .branches branches
  else
    match (equalities scope key).getLast? with
    | some value => .equals value
    | none => .operators (Entries.ofPairs (constraints scope key))

/-- Every key with what it is bound to. -/
def layout (scope : List Operator) (branches : List Criteria) : Criteria :=
  (keys scope).map fun key => (key, binding scope branches key)

mutual

/-- The mappings of the alternatives in the scope of an operator. -/
def branches : Operator → List Criteria
  | .logical .and operands => branchesAll operands
  | .logical .or operands => mappings operands
  | _ => []
termination_by structural operator => operator

def branchesAll : List Operator → List Criteria
  | [] => []
  | operator :: rest => operator.branches ++ branchesAll rest
termination_by structural operators => operators

/-- The mappings of the scopes at several operators, each by itself. -/
def mappings : List Operator → List Criteria
  | [] => []
  | operator :: rest => layout operator.scope operator.branches :: mappings rest
termination_by structural operators => operators

end

def mapping (scope : List Operator) : Criteria := layout scope (branchesAll scope)

/-- A field of a scope has both an equality and another comparison, or is compared although it is the
key of the alternatives that the scope has. -/
def Clashes (scope : List Operator) (field : String) : Prop :=
  (.comparison field .eq ∈ places scope ∧ ∃ comparator ≠ .eq, .comparison field comparator ∈ places scope) ∨
    (field = branchesKey ∧ .alternatives ∈ places scope ∧ ∃ comparator, .comparison field comparator ∈ places scope)

/-- No field of a scope clashes. -/
def Harmonious (scope : List Operator) : Prop := ∀ field, ¬ Clashes scope field

end Operator

mutual

/-- The criteria inside of what a field is bound to. -/
def Constraint.layers : Constraint → List Criteria
  | .branches alternatives => Criteria.layersOf alternatives
  | _ => []
termination_by structural constraint => constraint

/-- Several criteria, each followed by those inside of it. -/
def Criteria.layersOf : List (List (String × Constraint)) → List Criteria
  | [] => []
  | criteria :: rest => criteria :: Criteria.innerLayers criteria ++ Criteria.layersOf rest
termination_by structural alternatives => alternatives

def Criteria.innerLayers : List (String × Constraint) → List Criteria
  | [] => []
  | (_, constraint) :: rest => constraint.layers ++ Criteria.innerLayers rest
termination_by structural entries => entries

end

/-- Criteria and all criteria inside of them, in the order in which they stand. -/
def Criteria.layers (criteria : Criteria) : List Criteria := criteria :: Criteria.innerLayers criteria

/-- Criteria hold what a scope says. Their keys are those that the scope fills, in the order in which
they first come. A field with equalities has the value of the last one. A field with other
comparisons has the operators of the database that they stand for, in the order of their first use,
each with the value of the last one. Disjunctions have the mappings of all their operands in order. -/
structure Criteria.Describes (scope : List Operator) (criteria : Criteria) : Prop where
  keys : criteria.map Prod.fst = ((Operator.places scope).map Slot.key).eraseDups
  equality : ∀ field value, (Operator.equalities scope field).getLast? = some value →
    criteria.get? field = some (.equals value)
  comparisons : ∀ field, Operator.constraints scope field ≠ [] → ∃ values,
    criteria.get? field = some (.operators values) ∧ Entries.Latest (Operator.constraints scope field) values
  disjunctions : .alternatives ∈ Operator.places scope → criteria.get? branchesKey =
    some (.branches ((Operator.alternatives scope).map fun operand => Operator.mapping operand.scope))

namespace Operator

/-! ### Places and what is found in them -/

section
variable {scope : List Operator} {field : String}

theorem mem_places {slot : Slot} : slot ∈ places scope ↔ ∃ operator ∈ scope, operator.slot? = some slot :=
  List.mem_filterMap

theorem mem_keys {key : String} : key ∈ keys scope ↔ ∃ slot ∈ places scope, slot.key = key := by
  rw [keys, List.mem_eraseDups, List.mem_map]

theorem slot?_comparison {operator : Operator} {comparator : Comparator}
    (fills : operator.slot? = some (.comparison field comparator)) :
    ∃ value, operator = .comparison comparator field value := by
  cases operator with
  | comparison other name value =>
    cases fills
    exact ⟨value, rfl⟩
  | logical connective operands => cases connective <;> cases fills
  | _ => cases fills

theorem equalities_ne_nil : equalities scope field ≠ [] ↔ .comparison field .eq ∈ places scope := by
  rw [← List.isEmpty_eq_false_iff, List.isEmpty_eq_false_iff_exists_mem, mem_places]
  constructor
  · rintro ⟨value, member⟩
    obtain ⟨operator, inside, found⟩ := List.mem_filterMap.mp member
    split at found
    · split at found
      · rename_i same
        exact ⟨_, inside, same ▸ rfl⟩
      · cases found
    · cases found
  · rintro ⟨operator, inside, fills⟩
    obtain ⟨value, rfl⟩ := slot?_comparison fills
    exact ⟨value, List.mem_filterMap.mpr ⟨_, inside, by simp⟩⟩

theorem constraints_ne_nil :
    constraints scope field ≠ [] ↔ ∃ comparator ≠ .eq, .comparison field comparator ∈ places scope := by
  rw [← List.isEmpty_eq_false_iff, List.isEmpty_eq_false_iff_exists_mem]
  constructor
  · rintro ⟨pair, member⟩
    obtain ⟨operator, inside, found⟩ := List.mem_filterMap.mp member
    split at found
    · split at found
      · rename_i comparator other value both
        exact ⟨comparator, both.2, mem_places.mpr ⟨_, inside, both.1 ▸ rfl⟩⟩
      · cases found
    · cases found
  · rintro ⟨comparator, inequality, filled⟩
    obtain ⟨operator, inside, fills⟩ := mem_places.mp filled
    obtain ⟨value, rfl⟩ := slot?_comparison fills
    exact ⟨_, List.mem_filterMap.mpr ⟨_, inside, if_pos ⟨rfl, inequality⟩⟩⟩

theorem get?_layout (scope : List Operator) (branches : List Criteria) (key : String) :
    (layout scope branches).get? key = if key ∈ keys scope then some (binding scope branches key) else none :=
  Entries.get?_map ..

theorem layout_absent {branches : List Criteria} (found : (layout scope branches).get? field = none) :
    ∀ slot ∈ places scope, slot.key ≠ field := by
  rintro slot filled rfl
  rw [get?_layout, if_pos (mem_keys.mpr ⟨slot, filled, rfl⟩)] at found
  cases found

theorem layout_found {branches : List Criteria} {constraint : Constraint}
    (found : (layout scope branches).get? field = some constraint) :
    (∃ slot ∈ places scope, slot.key = field) ∧ binding scope branches field = constraint := by
  rw [get?_layout] at found
  split at found
  · rename_i known
    exact ⟨mem_keys.mp known, Option.some.inj found⟩
  · cases found

/-- Alternatives are found where a disjunction stands. -/
theorem layout_branches {branches alternatives : List Criteria}
    (found : (layout scope branches).get? field = some (.branches alternatives)) :
    field = branchesKey ∧ .alternatives ∈ places scope ∧ alternatives = branches := by
  obtain ⟨_, bound⟩ := layout_found found
  unfold binding at bound
  split at bound
  · rename_i both
    cases bound
    exact ⟨both.1, both.2, rfl⟩
  · split at bound <;> cases bound

/-- A value is found where an equality stands. -/
theorem layout_equals {branches : List Criteria} {value : Value}
    (found : (layout scope branches).get? field = some (.equals value)) :
    ¬(field = branchesKey ∧ .alternatives ∈ places scope) ∧ .comparison field .eq ∈ places scope := by
  obtain ⟨_, bound⟩ := layout_found found
  unfold binding at bound
  split at bound
  · cases bound
  · rename_i apart
    refine ⟨apart, equalities_ne_nil.mp fun none => ?_⟩
    rw [none] at bound
    cases bound

/-- Operators are found where no equality stands, but another comparison. -/
theorem layout_operators {branches : List Criteria} {values : List (String × Value)}
    (found : (layout scope branches).get? field = some (.operators values)) :
    ¬(field = branchesKey ∧ .alternatives ∈ places scope) ∧ equalities scope field = [] ∧
      constraints scope field ≠ [] ∧ values = Entries.ofPairs (constraints scope field) := by
  obtain ⟨⟨slot, filled, key⟩, bound⟩ := layout_found found
  unfold binding at bound
  split at bound
  · cases bound
  · rename_i apart
    cases last : (equalities scope field).getLast? with
    | some value =>
      rw [last] at bound
      cases bound
    | none =>
      rw [last] at bound
      cases bound
      have none := List.getLast?_eq_none_iff.mp last
      refine ⟨apart, none, constraints_ne_nil.mpr ?_, rfl⟩
      cases slot with
      | alternatives => exact absurd ⟨key.symm, filled⟩ apart
      | comparison name comparator =>
        obtain rfl : name = field := key
        refine ⟨comparator, ?_, filled⟩
        rintro rfl
        exact equalities_ne_nil.mpr filled none

end

/-! ### One more operator -/

section
variable {seen : List Operator} {operator : Operator} {slot : Slot} {branches more : List Criteria}

theorem mem_places_concat (fills : operator.slot? = some slot) (other : Slot) :
    other ∈ places (seen ++ [operator]) ↔ other ∈ places seen ∨ other = slot := by
  simp [places, List.filterMap_append, fills]

theorem keys_concat (fills : operator.slot? = some slot) :
    keys (seen ++ [operator]) = if slot.key ∈ keys seen then keys seen else keys seen ++ [slot.key] := by
  have filled : places (seen ++ [operator]) = places seen ++ [slot] := by simp [places, List.filterMap_append, fills]
  rw [keys, filled, List.map_append, List.map_singleton, Entries.eraseDups_concat]
  simp only [keys, List.mem_eraseDups]

/-- A field clashes no more than before unless the new operator fills its entry. -/
theorem clashes_concat (fills : operator.slot? = some slot) {field : String} (other : field ≠ slot.key)
    (clash : Clashes (seen ++ [operator]) field) : Clashes seen field := by
  have old : ∀ comparator, .comparison field comparator ∈ places (seen ++ [operator]) →
      .comparison field comparator ∈ places seen := by
    intro comparator member
    rcases (mem_places_concat fills _).mp member with before | rfl
    · exact before
    · exact absurd rfl other
  rcases clash with ⟨equality, comparator, inequality, compared⟩ | ⟨rfl, disjunction, comparator, compared⟩
  · exact .inl ⟨old _ equality, comparator, inequality, old _ compared⟩
  · rcases (mem_places_concat fills _).mp disjunction with before | rfl
    · exact .inr ⟨rfl, before, comparator, old _ compared⟩
    · exact absurd rfl other

theorem harmonious_concat (harmony : Harmonious seen) (fills : operator.slot? = some slot)
    (calm : ¬ Clashes (seen ++ [operator]) slot.key) : Harmonious (seen ++ [operator]) := by
  intro field clash
  by_cases same : field = slot.key
  · exact calm (same ▸ clash)
  · exact harmony field (clashes_concat fills same clash)

theorem layout_put (fills : operator.slot? = some slot)
    (same : ∀ key, key ≠ slot.key → binding seen branches key = binding (seen ++ [operator]) more key) :
    (layout seen branches).put slot.key (binding (seen ++ [operator]) more slot.key) =
      layout (seen ++ [operator]) more := by
  have apart : (keys seen).Nodup := Entries.nodup_eraseDups _
  rw [layout, Entries.put_map apart fun other _ different => same other different, layout, keys_concat fills]

/-- An operator that fills no place changes nothing. -/
theorem layout_idle (idle : operator.slot? = none) : layout (seen ++ [operator]) branches = layout seen branches := by
  have filled : places (seen ++ [operator]) = places seen := by simp [places, List.filterMap_append, idle]
  have equal : ∀ field, equalities (seen ++ [operator]) field = equalities seen field := by
    intro field
    cases operator with
    | comparison => cases idle
    | _ => simp [equalities, List.filterMap_append]
  have constrained : ∀ field, constraints (seen ++ [operator]) field = constraints seen field := by
    intro field
    cases operator with
    | comparison => cases idle
    | _ => simp [constraints, List.filterMap_append]
  simp only [layout, keys, binding, filled, equal, constrained]

section
variable (comparator : Comparator) (field : String) (value : Value)

theorem equalities_compared (name : String) : equalities (seen ++ [Operator.comparison comparator field value]) name =
    equalities seen name ++ if field = name ∧ comparator = .eq then [value] else [] := by
  rw [equalities, List.filterMap_append, List.filterMap_cons, List.filterMap_nil, equalities]
  by_cases same : field = name
  · cases comparator <;> simp [same]
  · cases comparator <;> simp [same]

theorem constraints_compared (name : String) : constraints (seen ++ [Operator.comparison comparator field value]) name =
    constraints seen name ++
      if field = name ∧ comparator ≠ .eq then [(comparator.tag, comparator.operand value)] else [] := by
  rw [constraints, List.filterMap_append, List.filterMap_cons, List.filterMap_nil, constraints]
  by_cases both : field = name ∧ comparator ≠ .eq
  · simp [both]
  · simp [both]

theorem alternatives_compared :
    .alternatives ∈ places (seen ++ [Operator.comparison comparator field value]) ↔ .alternatives ∈ places seen := by
  rw [mem_places_concat rfl]
  simp

theorem binding_compared {key : String} (other : key ≠ field) :
    binding seen branches key = binding (seen ++ [Operator.comparison comparator field value]) branches key := by
  simp [binding, equalities_compared, constraints_compared, alternatives_compared, Ne.symm other]

end

theorem binding_disjunction {operands : List Operator} {key : String} (other : key ≠ branchesKey) :
    binding seen branches key = binding (seen ++ [Operator.logical .or operands]) more key := by
  simp [binding, equalities, constraints, List.filterMap_append, other]

end

mutual

/-- A scope without a disjunction has no alternatives. -/
theorem branches_eq_nil : ∀ {operator : Operator}, .alternatives ∉ places operator.scope → operator.branches = []
  | .logical .and _, absent => branchesAll_eq_nil absent
  | .logical .or _, absent => absurd List.mem_cons_self absent
  | .comparison .., _ => rfl
  | .sort _, _ => rfl
  | .select _, _ => rfl
  | .limit .., _ => rfl
  | .cursor .., _ => rfl

theorem branchesAll_eq_nil : ∀ {operators : List Operator}, .alternatives ∉ places (scopeAll operators) →
    branchesAll operators = []
  | [], _ => rfl
  | operator :: rest, absent => by
    rw [scopeAll, places, List.filterMap_append, List.mem_append, not_or] at absent
    rw [branchesAll, branches_eq_nil absent.1, branchesAll_eq_nil absent.2]
    rfl

end

theorem branchesAll_append (front back : List Operator) :
    branchesAll (front ++ back) = branchesAll front ++ branchesAll back := by
  induction front with
  | nil => rfl
  | cons operator rest ih => rw [List.cons_append, branchesAll, branchesAll, ih, List.append_assoc]

mutual

/-- The alternatives of an operator are those of its scope. -/
theorem branchesAll_scope : ∀ operator : Operator, branchesAll operator.scope = operator.branches
  | .logical .and operands => branchesAll_scopeAll operands
  | .logical .or _ => List.append_nil _
  | .comparison .. => rfl
  | .sort _ => rfl
  | .select _ => rfl
  | .limit .. => rfl
  | .cursor .. => rfl

theorem branchesAll_scopeAll : ∀ operators : List Operator, branchesAll (scopeAll operators) = branchesAll operators
  | [] => rfl
  | operator :: rest => by
    rw [scopeAll, branchesAll_append, branchesAll_scope operator, branchesAll_scopeAll rest, branchesAll]

end

theorem mapping_scope (operator : Operator) : mapping operator.scope = layout operator.scope operator.branches := by
  rw [mapping, branchesAll_scope]

theorem mappings_eq_map (operators : List Operator) :
    mappings operators = operators.map fun operator => mapping operator.scope := by
  induction operators with
  | nil => rfl
  | cons operator rest ih => rw [mappings, ih, List.map_cons, mapping_scope]

mutual

/-- The alternatives of a scope are the operands of its disjunctions. -/
theorem branches_eq_map : ∀ operator : Operator,
    operator.branches = (alternatives operator.scope).map fun operand => mapping operand.scope
  | .logical .and operands => branchesAll_eq_map operands
  | .logical .or operands => by
    have operandsOf : alternatives (Operator.scope (.logical .or operands)) = operands := List.append_nil _
    rw [operandsOf]
    exact mappings_eq_map operands
  | .comparison .. => rfl
  | .sort _ => rfl
  | .select _ => rfl
  | .limit .. => rfl
  | .cursor .. => rfl

theorem branchesAll_eq_map : ∀ operators : List Operator,
    branchesAll operators = (alternatives (scopeAll operators)).map fun operand => mapping operand.scope
  | [] => rfl
  | operator :: rest => by
    rw [branchesAll, branches_eq_map operator, branchesAll_eq_map rest, scopeAll, alternatives, alternatives,
      alternatives, List.flatMap_append, List.map_append]

end

mutual

/-- Every scope is the scope at some operator. -/
theorem innerScopes_scope : ∀ (operator : Operator), ∀ scope ∈ operator.innerScopes, ∃ part : Operator, scope = part.scope
  | .logical .and operands, scope, member => innerScopesAll_scope operands scope member
  | .logical .or operands, scope, member => branchScopes_scope operands scope member
  | .comparison .., _, member => absurd member List.not_mem_nil
  | .sort _, _, member => absurd member List.not_mem_nil
  | .select _, _, member => absurd member List.not_mem_nil
  | .limit .., _, member => absurd member List.not_mem_nil
  | .cursor .., _, member => absurd member List.not_mem_nil

theorem innerScopesAll_scope : ∀ (operators : List Operator), ∀ scope ∈ innerScopesAll operators,
    ∃ part : Operator, scope = part.scope
  | [], _, member => absurd member List.not_mem_nil
  | operator :: rest, scope, member =>
    (List.mem_append.mp member).elim (innerScopes_scope operator scope) (innerScopesAll_scope rest scope)

theorem branchScopes_scope : ∀ (operators : List Operator), ∀ scope ∈ branchScopes operators,
    ∃ part : Operator, scope = part.scope
  | [], _, member => absurd member List.not_mem_nil
  | operator :: rest, scope, member =>
    (List.mem_append.mp member).elim
      (fun here => (List.mem_cons.mp here).elim (fun same => ⟨operator, same⟩) (innerScopes_scope operator scope))
      (branchScopes_scope rest scope)

end

theorem scopes_scope (operator : Operator) : ∀ scope ∈ operator.scopes, ∃ part : Operator, scope = part.scope :=
  List.forall_mem_cons.mpr ⟨⟨operator, rfl⟩, innerScopes_scope operator⟩

/-- The mapping of a scope without clashes is what the scope says. -/
theorem describes_mapping {operator : Operator} {scope : List Operator} (inside : scope ∈ operator.scopes)
    (harmony : Harmonious scope) : Criteria.Describes scope (mapping scope) where
  keys := by
    rw [mapping, layout, List.map_map]
    exact List.map_id _
  equality field value last := by
    have placed : .comparison field .eq ∈ places scope := by
      rw [← equalities_ne_nil]
      rintro none
      rw [none] at last
      cases last
    have apart : ¬(field = branchesKey ∧ .alternatives ∈ places scope) :=
      fun both => harmony field (.inr ⟨both.1, both.2, .eq, placed⟩)
    have known : field ∈ keys scope := mem_keys.mpr ⟨_, placed, rfl⟩
    rw [mapping, get?_layout, if_pos known, binding, if_neg apart, last]
  comparisons field some := by
    obtain ⟨comparator, inequality, placed⟩ := constraints_ne_nil.mp some
    have apart : ¬(field = branchesKey ∧ .alternatives ∈ places scope) :=
      fun both => harmony field (.inr ⟨both.1, both.2, comparator, placed⟩)
    have none : equalities scope field = [] := by
      by_contra equal
      exact harmony field (.inl ⟨equalities_ne_nil.mp equal, comparator, inequality, placed⟩)
    have known : field ∈ keys scope := mem_keys.mpr ⟨_, placed, rfl⟩
    refine ⟨_, ?_, Entries.ofPairs_latest _⟩
    rw [mapping, get?_layout, if_pos known, binding, if_neg apart, none]
    rfl
  disjunctions placed := by
    obtain ⟨part, rfl⟩ := scopes_scope operator scope inside
    have known : branchesKey ∈ keys part.scope := mem_keys.mpr ⟨_, placed, rfl⟩
    rw [mapping, get?_layout, if_pos known, binding, if_pos ⟨rfl, placed⟩, branchesAll_scope, branches_eq_map]

end Operator

namespace Criteria
open Operator

theorem innerLayers_eq_flatMap (entries : List (String × Constraint)) :
    innerLayers entries = entries.flatMap fun entry => entry.2.layers := by
  induction entries with
  | nil => rfl
  | cons entry rest ih => rw [innerLayers, ih, List.flatMap_cons]

theorem layersOf_append (front back : List Criteria) : layersOf (front ++ back) = layersOf front ++ layersOf back := by
  induction front with
  | nil => rfl
  | cons criteria rest ih => rw [List.cons_append, layersOf, layersOf, ih, List.append_assoc]

/-- The criteria inside of a mapping stand under the key of the alternatives. -/
theorem innerLayers_layout {scope : List Operator} {branches : List Criteria}
    (none : .alternatives ∉ places scope → branches = []) : innerLayers (layout scope branches) = layersOf branches := by
  have plain : ∀ key, ¬(key = branchesKey ∧ .alternatives ∈ places scope) → (binding scope branches key).layers = [] := by
    intro key apart
    rw [binding, if_neg apart]
    split <;> rfl
  rw [innerLayers_eq_flatMap, layout, List.flatMap_map]
  by_cases placed : .alternatives ∈ places scope
  · have known : branchesKey ∈ keys scope := mem_keys.mpr ⟨_, placed, rfl⟩
    obtain ⟨before, after, split⟩ := List.append_of_mem known
    have apart : (keys scope).Nodup := Entries.nodup_eraseDups _
    rw [split, List.nodup_append, List.nodup_cons] at apart
    have first : before.flatMap (fun key => (binding scope branches key).layers) = [] :=
      List.flatMap_eq_nil_iff.mpr fun key member => plain key fun both => apart.2.2 key member _ List.mem_cons_self both.1
    have last : after.flatMap (fun key => (binding scope branches key).layers) = [] :=
      List.flatMap_eq_nil_iff.mpr fun key member => plain key fun both => apart.2.1.1 (both.1 ▸ member)
    have bound : binding scope branches branchesKey = .branches branches := if_pos ⟨rfl, placed⟩
    rw [split, List.flatMap_append, List.flatMap_cons, first, last, bound, List.nil_append, List.append_nil,
      Constraint.layers]
  · rw [none placed]
    exact List.flatMap_eq_nil_iff.mpr fun key _ => none placed ▸ plain key fun both => placed both.2

mutual

theorem layersOf_branches : ∀ operator : Operator, layersOf operator.branches = operator.innerScopes.map mapping
  | .logical .and operands => layersOf_branchesAll operands
  | .logical .or operands => layersOf_mappings operands
  | .comparison .. => rfl
  | .sort _ => rfl
  | .select _ => rfl
  | .limit .. => rfl
  | .cursor .. => rfl

theorem layersOf_branchesAll : ∀ operators : List Operator,
    layersOf (branchesAll operators) = (innerScopesAll operators).map mapping
  | [] => rfl
  | operator :: rest => by
    rw [branchesAll, layersOf_append, layersOf_branches operator, layersOf_branchesAll rest, innerScopesAll, List.map_append]

theorem layersOf_mappings : ∀ operators : List Operator,
    layersOf (mappings operators) = (branchScopes operators).map mapping
  | [] => rfl
  | operator :: rest => by
    rw [mappings, layersOf, innerLayers_layout branches_eq_nil, layersOf_branches operator, layersOf_mappings rest,
      branchScopes, List.cons_append, List.cons_append, List.map_cons, List.map_append, mapping_scope]

end

/-- The layers of the mapping at an operator are the mappings of all its scopes. -/
theorem layers_mapping (operator : Operator) : layers (mapping operator.scope) = operator.scopes.map mapping := by
  rw [layers, mapping_scope, innerLayers_layout branches_eq_nil, layersOf_branches, scopes, List.map_cons, mapping_scope]

end Criteria

end ResourceQuery
