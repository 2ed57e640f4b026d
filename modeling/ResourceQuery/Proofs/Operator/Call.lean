import Mathlib.Data.List.Forall2
import ResourceQuery.Operator.Check
import ResourceQuery.Proofs.Outcome

/-!
Checking calls. A value that stands for a query, be it a node or a mapping, is checked by its name
and its arguments alone (`Operator.check_call`), and a connective takes operands that all have
operators (`Operator.ofCall_logical`).
-/
namespace ResourceQuery

/-- The name and the arguments of a value that stands for a query. -/
def Value.call? : Value → Option (String × List Value)
  | .node (.text name) args => some (name, args)
  | .mapping entries =>
    match entries.lookup "name", entries.lookup "args" with
    | some (.text name), some (.list args) => some (name, args)
    | _, _ => none
  | _ => none

theorem Value.lookup_of_call? {entries : List (String × Value)} {name : String} {args : List Value}
    (call : call? (.mapping entries) = some (name, args)) : entries.lookup "args" = some (.list args) := by
  rw [call?] at call
  split at call
  · rename_i listed
    cases call
    exact listed
  · cases call

namespace Operator

theorem checkEntries_eq {name : String} {entries : List (String × Value)} {args : List Value}
    (found : entries.lookup "args" = some (.list args)) :
    checkEntries name entries = ofCall name args (checkAll args) := by
  induction entries with
  | nil => cases found
  | cons entry rest ih =>
    obtain ⟨key, value⟩ := entry
    rw [List.lookup_cons] at found
    unfold checkEntries
    by_cases same : key = "args"
    · subst same
      cases found
      exact if_pos rfl
    · rw [beq_false_of_ne (Ne.symm same)] at found
      rw [if_neg same, ih found]

/-- A value that stands for a query is checked by its name and arguments. -/
theorem check_call {value : Value} {name : String} {args : List Value} (call : value.call? = some (name, args)) :
    check value = ofCall name args (checkAll args) := by
  unfold Value.call? at call
  split at call
  · cases call
    rfl
  · split at call
    · rename_i named listed
      cases call
      rw [check, named]
      exact checkEntries_eq listed
    · cases call
  · cases call

theorem checkEntries_list {name : String} {entries : List (String × Value)} {operator : Operator}
    (accepted : checkEntries name entries = .ok operator) : ∃ args, entries.lookup "args" = some (.list args) := by
  induction entries with
  | nil => cases accepted
  | cons entry rest ih =>
    obtain ⟨key, value⟩ := entry
    unfold checkEntries at accepted
    rw [List.lookup_cons]
    by_cases same : key = "args"
    · subst same
      cases value with
      | list args => exact ⟨args, rfl⟩
      | _ => cases accepted
    · rw [if_neg same] at accepted
      rw [beq_false_of_ne (Ne.symm same)]
      exact ih accepted

/-- A value that is accepted stands for a query. -/
theorem call?_of_check {value : Value} {operator : Operator} (accepted : check value = .ok operator) :
    ∃ name args, value.call? = some (name, args) := by
  unfold check at accepted
  split at accepted
  · exact ⟨_, _, rfl⟩
  · split at accepted
    · rename_i named
      obtain ⟨args, listed⟩ := checkEntries_list accepted
      exact ⟨_, _, by rw [Value.call?, named, listed]⟩
    · cases accepted
  · cases accepted

theorem isQueryLike_of_check {value : Value} {operator : Operator} (accepted : check value = .ok operator) :
    value.isQueryLike = true := by
  obtain ⟨name, args, call⟩ := call?_of_check accepted
  unfold Value.call? at call
  split at call
  · rfl
  · split at call
    · rename_i named listed
      simp [Value.isQueryLike, named, listed]
    · cases call
  · cases call

theorem checkAll_eq_ok_iff {values : List Value} {operators : List Operator} :
    checkAll values = .ok operators ↔ List.Forall₂ (fun value operator => check value = .ok operator) values operators := by
  induction values generalizing operators with
  | nil => simp [checkAll, eq_comm]
  | cons value rest ih => simp [checkAll, Outcome.bind_eq_ok_iff, List.forall₂_cons_left_iff, ih, @eq_comm _ operators]

theorem checkAll_cons_eq_ok_iff {value : Value} {rest : List Value} {operators : List Operator} :
    checkAll (value :: rest) = .ok operators ↔
      ∃ head tail, check value = .ok head ∧ checkAll rest = .ok tail ∧ operators = head :: tail := by
  simp [checkAll, Outcome.bind_eq_ok_iff, @eq_comm _ operators]

theorem checkAll_append_eq_ok_iff {front back : List Value} {operators : List Operator} :
    checkAll (front ++ back) = .ok operators ↔
      ∃ first last, checkAll front = .ok first ∧ checkAll back = .ok last ∧ operators = first ++ last := by
  induction front generalizing operators with
  | nil => simp [checkAll]
  | cons value rest ih =>
    rw [List.cons_append, checkAll_cons_eq_ok_iff]
    constructor
    · rintro ⟨head, tail, accepted, checked, rfl⟩
      obtain ⟨first, last, front, back, rfl⟩ := ih.mp checked
      exact ⟨head :: first, last, checkAll_cons_eq_ok_iff.mpr ⟨head, first, accepted, front, rfl⟩, back, rfl⟩
    · rintro ⟨first, last, checked, back, rfl⟩
      obtain ⟨head, tail, accepted, front, rfl⟩ := checkAll_cons_eq_ok_iff.mp checked
      exact ⟨head, tail ++ last, accepted, ih.mpr ⟨tail, last, front, back, rfl⟩, rfl⟩

theorem isQueryLike_of_checkAll {values : List Value} {operators : List Operator} (checked : checkAll values = .ok operators) :
    ∀ value ∈ values, value.isQueryLike = true := by
  induction values generalizing operators with
  | nil => simp
  | cons value rest ih =>
    obtain ⟨head, tail, accepted, later, _⟩ := checkAll_cons_eq_ok_iff.mp checked
    exact List.forall_mem_cons.mpr ⟨isQueryLike_of_check accepted, ih later⟩

/-- A connective takes operands that are all queries, one at least. -/
theorem ofCall_logical {name : String} {connective : Connective} (kind : OperatorKind.of? name = some (.logical connective))
    {args : List Value} {operator : Operator} :
    ofCall name args (checkAll args) = .ok operator ↔
      args ≠ [] ∧ ∃ operands, checkAll args = .ok operands ∧ operator = .logical connective operands := by
  rw [ofCall, kind]
  dsimp only
  constructor
  · intro accepted
    split at accepted
    · cases accepted
    · rename_i queries
      obtain ⟨operands, checked, rfl⟩ := Outcome.map_eq_ok_iff.mp accepted
      exact ⟨by rintro rfl; exact queries rfl, operands, checked, rfl⟩
  · rintro ⟨some, operands, checked, rfl⟩
    have queries : args.all Value.isQueryLike = true := List.all_eq_true.mpr (isQueryLike_of_checkAll checked)
    rw [if_neg (by simp [some, queries]), checked]
    rfl

/-- A call of a connective has the operators of its operands, one at least. -/
theorem check_logical {value : Value} {name : String} {args : List Value} {connective : Connective}
    (call : value.call? = some (name, args)) (kind : OperatorKind.of? name = some (.logical connective))
    {operator : Operator} :
    check value = .ok operator ↔
      args ≠ [] ∧ ∃ operands, checkAll args = .ok operands ∧ operator = .logical connective operands := by
  rw [check_call call, ofCall_logical kind]

/-- A comparison takes any value without a query. -/
theorem ofCall_comparison {name : String} {comparator : Comparator}
    (kind : OperatorKind.of? name = some (.comparison comparator)) {field operand replacement : Value} {operator : Operator}
    {operands : Except Error (List Operator)} (plain : replacement.containsQuery = false)
    (accepted : ofCall name [field, operand] operands = .ok operator) (others : Except Error (List Operator)) :
    ∃ path, operator = .comparison comparator path operand ∧
      ofCall name [field, replacement] others = .ok (.comparison comparator path replacement) := by
  simp only [ofCall, kind, checkComparison] at accepted ⊢
  split at accepted
  · cases accepted
  · rename_i free
    have still : Value.anyContainsQuery [field, replacement] = false := by
      simp only [Value.anyContainsQuery, Bool.or_false, Bool.or_eq_true, not_or] at free ⊢
      simp [free.1, plain]
    split at accepted
    · rename_i path _ shape
      cases shape
      split at accepted
      · cases accepted
      · rename_i named
        cases accepted
        exact ⟨path, rfl, by simp [still, named]⟩
    · cases accepted
    · cases accepted

end Operator
end ResourceQuery
