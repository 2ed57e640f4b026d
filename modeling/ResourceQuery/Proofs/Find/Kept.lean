import Mathlib.Data.List.Forall2
import ResourceQuery.Proofs.Find.Content

/-!
What becomes of a comparison that is used again. A mapping has one value for each comparison of a
field, so of several uses in one scope the last one stands: a comparison is kept exactly if its last
use in the scope has the same value (`FindQuery.compile_carries_iff`).
-/
namespace ResourceQuery
open Operator

/-- The values with which a field is compared in one way, in order. -/
def Operator.uses (scope : List Operator) (comparator : Comparator) (field : String) : List Value :=
  scope.filterMap fun
    | .comparison other name value => if other = comparator ∧ name = field then some value else none
    | _ => none

/-- A comparison is present in criteria. -/
def Criteria.Carries (criteria : Criteria) (comparator : Comparator) (field : String) (value : Value) : Prop :=
  if comparator = .eq then criteria.get? field = some (.equals value)
  else ∃ values, criteria.get? field = some (.operators values) ∧
    Entries.get? values comparator.tag = some (comparator.operand value)

namespace Operator
variable {scope : List Operator} {comparator : Comparator} {field : String}

theorem equalities_eq_uses : equalities scope field = uses scope .eq field := by
  refine List.filterMap_congr fun operator _ => ?_
  cases operator with
  | comparison other name value => cases other <;> simp
  | _ => rfl

/-- The uses of one comparison among all comparisons of a field. -/
theorem constraints_filter (inequality : comparator ≠ .eq) :
    (constraints scope field).filter (fun pair => pair.1 = comparator.tag) =
      (uses scope comparator field).map fun value => (comparator.tag, comparator.operand value) := by
  rw [constraints, uses, List.filter_filterMap, List.map_filterMap]
  refine List.filterMap_congr fun operator _ => ?_
  cases operator with
  | comparison other name value =>
    by_cases same : other = comparator
    · by_cases named : name = field <;> simp [same, named, inequality]
    · have tags : other.tag ≠ comparator.tag := mt Comparator.tag_injective same
      by_cases named : name = field ∧ other ≠ .eq <;> simp [same, tags, named]
  | _ => rfl

theorem uses_getLast? {value : Value} (inside : .comparison comparator field value ∈ scope) :
    ∃ last, (uses scope comparator field).getLast? = some last := by
  have used : value ∈ uses scope comparator field := List.mem_filterMap.mpr ⟨_, inside, if_pos ⟨rfl, rfl⟩⟩
  exact ⟨_, List.getLast?_eq_some_getLast (List.ne_nil_of_mem used)⟩

end Operator

namespace Criteria
variable {scope : List Operator} {criteria : Criteria} {comparator : Comparator} {field : String}

/-- Criteria that hold what a scope says carry the last use of each comparison. -/
theorem Describes.carries_iff (described : criteria.Describes scope) {last : Value}
    (found : (uses scope comparator field).getLast? = some last) (value : Value) :
    criteria.Carries comparator field value ↔ comparator.operand last = comparator.operand value := by
  unfold Carries
  by_cases equality : comparator = .eq
  · subst equality
    rw [if_pos rfl, described.equality field last (equalities_eq_uses ▸ found)]
    simp [Comparator.operand]
  · have some : constraints scope field ≠ [] := by
      intro none
      have filtered := @constraints_filter scope _ field equality
      rw [none, List.filter_nil, eq_comm, List.map_eq_nil_iff] at filtered
      rw [filtered] at found
      cases found
    obtain ⟨values, entry, latest⟩ := described.comparisons field some
    have tagged : Entries.get? values comparator.tag = Option.some (comparator.operand last) := by
      rw [latest.values, constraints_filter equality, List.getLast?_map, found]
      rfl
    rw [if_neg equality, entry]
    simp [tagged]

end Criteria

namespace FindQuery
variable {idField : String}

/-- **What is kept.** In the criteria of its scope a comparison is present exactly if the last
comparison of its kind on its field has the same value. -/
theorem compile_carries_iff {value : Value} {operator : Operator} {found : FindQuery}
    (valid : Operator.check value = .ok operator) (compiled : compile idField value = .ok found) :
    List.Forall₂ (fun scope (criteria : Criteria) => ∀ comparator field operand,
      .comparison comparator field operand ∈ scope →
        ∃ last, (uses scope comparator field).getLast? = some last ∧
          (criteria.Carries comparator field operand ↔ comparator.operand last = comparator.operand operand))
      operator.scopes found.criteria.layers := by
  obtain ⟨layers, harmony⟩ := compile_layers valid compiled
  rw [layers, List.forall₂_map_right_iff, List.forall₂_same]
  intro scope member comparator field operand inside
  obtain ⟨last, found⟩ := uses_getLast? inside
  exact ⟨last, found, (describes_mapping member (harmony scope member)).carries_iff found operand⟩

/-- Equalities of one field on both sides of a disjunction, of which the last one stands, and two other
comparisons of another field, which are both kept. -/
theorem compile_carries_iff_repeated :
    ∃ value operator found,
      value = .node (.text "and") [.node (.text "eq") [.text "a", .int 1], .node (.text "out") [.text "b", .int 2],
        .node (.text "or") [.node (.text "eq") [.text "a", .int 3]], .node (.text "eq") [.text "a", .int 4],
        .node (.text "out") [.text "b", .list [.int 2]]] ∧
      Operator.check value = .ok operator ∧ compile "_id" value = .ok found ∧
      found.criteria.layers =
        [[("a", .equals (.int 4)), ("b", .operators [("$nin", .list [.int 2])]),
          ("$or", .branches [[("a", .equals (.int 3))]])], [("a", .equals (.int 3))]] ∧
      ¬ found.criteria.Carries .eq "a" (.int 1) ∧ found.criteria.Carries .eq "a" (.int 4) ∧
      found.criteria.Carries .out "b" (.int 2) ∧ found.criteria.Carries .out "b" (.list [.int 2]) := by
  refine ⟨_, ?operator, ?found, rfl, ?valid, ?compiled, ?layers,
    (List.forall₂_cons.mp (compile_carries_iff ?valid ?compiled)).elim ?kept⟩
  case valid => rfl
  case compiled => rfl
  case layers => rfl
  case kept =>
    intro kept _
    obtain ⟨last, found, first⟩ := kept .eq "a" (.int 1) (by simp [Operator.scope, Operator.scopeAll])
    cases found
    obtain ⟨last, found, second⟩ := kept .eq "a" (.int 4) (by simp [Operator.scope, Operator.scopeAll])
    cases found
    obtain ⟨last, found, alone⟩ := kept .out "b" (.int 2) (by simp [Operator.scope, Operator.scopeAll])
    cases found
    obtain ⟨last, found, listed⟩ := kept .out "b" (.list [.int 2]) (by simp [Operator.scope, Operator.scopeAll])
    cases found
    exact ⟨mt first.mp (by rintro ⟨⟩), second.mpr rfl, alone.mpr rfl, listed.mpr rfl⟩

/-- An equality is lost when another one of its field follows. -/
theorem equality_lost :
    ∃ value operator found,
      value = .node (.text "and") [.node (.text "eq") [.text "a", .int 1], .node (.text "eq") [.text "a", .int 2]] ∧
      Operator.check value = .ok operator ∧ compile "_id" value = .ok found ∧
      .comparison .eq "a" (.int 1) ∈ operator.scope ∧ ¬ found.criteria.Carries .eq "a" (.int 1) := by
  refine ⟨_, ?operator, ?found, rfl, ?valid, ?compiled, ?inside, ?lost⟩
  case valid => rfl
  case compiled => rfl
  case inside => exact List.mem_cons_self
  case lost =>
    rw [Criteria.Carries, if_pos rfl]
    rintro ⟨⟩

end FindQuery
end ResourceQuery
