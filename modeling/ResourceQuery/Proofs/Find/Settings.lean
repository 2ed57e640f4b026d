import ResourceQuery.Proofs.Find.Content

/-!
The settings of a query: the operators that order, show or page the results. They stand anywhere in a
tree and are taken from left to right, whatever connectives they are nested in and whatever is
compared between them: what becomes of the options of a find query is the run of the settings alone
(`FindQuery.add_tracks`). Only a conflict, which settings never cause, ends a run before its settings
do.
-/
namespace ResourceQuery

namespace Operator

mutual

/-- The settings in an operator, from left to right. -/
def settings : Operator → List Operator
  | .comparison .. => []
  | .logical _ operands => settingsAll operands
  | operator => [operator]
termination_by structural operator => operator

def settingsAll : List Operator → List Operator
  | [] => []
  | operator :: rest => operator.settings ++ settingsAll rest
termination_by structural operators => operators

end

end Operator

namespace FindOptions
variable {idField : String}

/-- The options with one more setting. -/
def set (idField : String) : Operator → FindOptions → Except Error FindOptions
  | .sort specs, options => .ok (options.addSort specs)
  | .select specs, options => options.addSelect idField specs
  | .limit count skip, options => .ok (options.setLimit count skip)
  | .cursor side token, options => .ok (options.setCursor token side)
  | _, options => .ok options

def setAll (idField : String) : List Operator → FindOptions → Except Error FindOptions
  | [], options => .ok options
  | setting :: rest, options => do setAll idField rest (← set idField setting options)

theorem setAll_append (front back : List Operator) (options : FindOptions) :
    setAll idField (front ++ back) options = setAll idField front options >>= setAll idField back := by
  induction front generalizing options with
  | nil => rfl
  | cons setting rest ih =>
    rw [List.cons_append, setAll, setAll]
    cases done : set idField setting options with
    | error fault => rfl
    | ok middle => exact ih middle

theorem setAll_single (setting : Operator) (options : FindOptions) :
    setAll idField [setting] options = set idField setting options := by
  rw [setAll]
  cases set idField setting options <;> rfl

end FindOptions

namespace Criteria

theorem compare_conflict {criteria : Criteria} {comparator : Comparator} {field : String} {value : Value} {fault : Error}
    (refused : criteria.compare comparator field value = .error fault) : ∃ cause, fault = .conflict cause := by
  unfold compare at refused
  split at refused
  · unfold equate at refused
    split at refused <;> cases refused <;> exact ⟨_, rfl⟩
  · unfold constrain at refused
    split at refused <;> cases refused <;> exact ⟨_, rfl⟩

theorem branch_conflict {criteria : Criteria} {alternatives : List Criteria} {fault : Error}
    (refused : criteria.branch alternatives = .error fault) : ∃ cause, fault = .conflict cause := by
  unfold branch at refused
  split at refused <;> cases refused
  exact ⟨_, rfl⟩

end Criteria

namespace FindQuery
open Operator (settings settingsAll)
open FindOptions (set setAll setAll_append setAll_single)

variable {idField : String}

/-- A step does to the options what a run of settings does, unless a conflict ends it before. -/
def Tracks {α : Type} (options : α → FindOptions) (run : Except Error FindOptions) : Except Error α → Prop
  | .ok result => run = .ok (options result)
  | .error (.conflict _) => True
  | .error fault => run = .error fault

theorem Tracks.of_fault {α : Type} {options : α → FindOptions} {fault : Error} :
    Tracks options (.error fault) (.error fault) := by
  cases fault <;> trivial

theorem Tracks.self (run : Except Error FindOptions) : Tracks id run run := by
  cases run with
  | ok options => rfl
  | error fault => exact .of_fault

theorem Tracks.map {α β : Type} {options : α → FindOptions} {later : β → FindOptions} {run : Except Error FindOptions}
    {step : Except Error α} (tracked : Tracks options run step) {make : α → β}
    (same : ∀ result, later (make result) = options result) : Tracks later run (do return make (← step)) := by
  cases step with
  | ok result => exact tracked.trans (congrArg Except.ok (same result).symm)
  | error fault => cases fault <;> exact tracked

/-- Steps one after the other do what the runs do one after the other. -/
theorem Tracks.bind {α β : Type} {options : α → FindOptions} {later : β → FindOptions} {run : Except Error FindOptions}
    {more : FindOptions → Except Error FindOptions} {first : Except Error α} {next : α → Except Error β}
    (one : Tracks options run first) (two : ∀ middle, Tracks later (more (options middle)) (next middle)) :
    Tracks later (run >>= more) (first >>= next) := by
  cases first with
  | ok middle =>
    have same : run = .ok (options middle) := one
    rw [same]
    exact two middle
  | error fault =>
    cases fault with
    | conflict cause => trivial
    | _ =>
      rw [show run = _ from one]
      exact .of_fault

/-- A step that leaves the options as they are, and fails for a conflict only, needs no settings. -/
theorem Tracks.idle {α β : Type} {options : β → FindOptions} {before : FindOptions} {step : Except Error α} {make : α → β}
    (kept : ∀ result, options (make result) = before)
    (conflicts : ∀ {fault}, step = .error fault → ∃ cause, fault = .conflict cause) :
    Tracks options (.ok before) (do return make (← step)) := by
  cases step with
  | ok result => exact congrArg Except.ok (kept result).symm
  | error fault =>
    obtain ⟨cause, rfl⟩ := conflicts rfl
    trivial

mutual

/-- One more operator does its settings to the options. -/
theorem add_tracks (operator : Operator) (query : FindQuery) :
    Tracks FindQuery.options (setAll idField operator.settings query.options) (add idField operator query) := by
  cases operator with
  | comparison comparator field value => exact .idle (fun _ => rfl) Criteria.compare_conflict
  | logical connective operands =>
    cases connective with
    | and => exact addAll_tracks operands query
    | or =>
      have branched (each : FindOptions × List Criteria) :
          Tracks FindQuery.options (.ok each.1) (do return (⟨← query.criteria.branch each.2, each.1⟩ : FindQuery)) :=
        .idle (fun _ => rfl) Criteria.branch_conflict
      have run := (addEach_tracks operands query.options).bind branched
      have whole : (setAll idField (settingsAll operands) query.options >>= Except.ok) =
          setAll idField (settings (.logical .or operands)) query.options := by
        rw [settings]
        cases setAll idField (settingsAll operands) query.options <;> rfl
      exact whole ▸ run
  | sort specs => exact setAll_single ..
  | select specs =>
    have alone : setAll idField (settings (.select specs)) query.options = query.options.addSelect idField specs :=
      setAll_single ..
    rw [alone]
    exact (Tracks.self _).map fun _ => rfl
  | limit count skip => exact setAll_single ..
  | cursor side token => exact setAll_single ..
termination_by structural operator

/-- More operators do all their settings to the options. -/
theorem addAll_tracks (operators : List Operator) (query : FindQuery) :
    Tracks FindQuery.options (setAll idField (settingsAll operators) query.options) (addAll idField operators query) := by
  cases operators with
  | nil => rfl
  | cons operator rest =>
    rw [settingsAll, setAll_append]
    exact (add_tracks operator query).bind (addAll_tracks rest)
termination_by structural operators

/-- Operators of which each has criteria of its own do all their settings to the same options. -/
theorem addEach_tracks (operators : List Operator) (options : FindOptions) :
    Tracks Prod.fst (setAll idField (settingsAll operators) options) (addEach idField operators options) := by
  cases operators with
  | nil => rfl
  | cons operator rest =>
    rw [settingsAll, setAll_append]
    exact (add_tracks operator ⟨[], options⟩).bind fun branch =>
      (addEach_tracks rest branch.options).map fun _ => rfl
termination_by structural operators

end

/-- What becomes of the options of a query is the run of its settings, up to a conflict. -/
theorem compile_tracks {value : Value} {operator : Operator} (valid : Operator.check value = .ok operator) :
    Tracks FindQuery.options (setAll idField operator.settings {}) (compile idField value) := by
  rw [compile, valid]
  exact add_tracks operator {}

/-- A query whose scopes have no clash fails where the run of its settings does. -/
theorem compile_options {value : Value} {operator : Operator} (valid : Operator.check value = .ok operator)
    (harmony : ∀ scope ∈ operator.scopes, Operator.Harmonious scope) :
    (compile idField value).map FindQuery.options = setAll idField operator.settings {} := by
  have settled := @compile_settles idField _ _ valid
  have run := @compile_tracks idField _ _ valid
  cases done : compile idField value with
  | ok found =>
    rw [done] at run
    exact run.symm
  | error fault =>
    rw [done] at run settled
    cases fault with
    | conflict cause =>
      obtain ⟨scope, member, clash⟩ := settled
      exact absurd clash (harmony scope member cause.field)
    | _ => exact run.symm

end FindQuery
end ResourceQuery
