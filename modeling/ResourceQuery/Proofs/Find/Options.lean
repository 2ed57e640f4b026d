import ResourceQuery.Find.Document
import ResourceQuery.Proofs.Find.Projection
import ResourceQuery.Proofs.Operator.WellFormed

/-!
What becomes of the settings of a query. Taken from left to right, they are summed up: paths are sorted
by and shown in the order in which they were first named, each with its last sign, and the limit, the
cursors and the number of results to leave out are the last ones that were given
(`FindQuery.compile_summary`).
-/
namespace ResourceQuery

namespace Operator

/-- The fields of each order among settings. -/
def sorted (settings : List Operator) : List (List String) :=
  settings.filterMap fun
    | .sort specs => some specs
    | _ => none

/-- The limits among settings, each with the number of results to leave out, if it has one. -/
def limits (settings : List Operator) : List (Nat × Option Nat) :=
  settings.filterMap fun
    | .limit count skip => some (count, skip)
    | _ => none

/-- The tokens of the cursors on one side among settings. -/
def tokens (side : Side) (settings : List Operator) : List String :=
  settings.filterMap fun
    | .cursor other token => if other = side then some token else none
    | _ => none

/-- The fields of an operator that sorts or selects have names. -/
def NamesFields : Operator → Prop
  | .sort specs | .select specs => ∀ spec ∈ specs, NamesField spec
  | _ => True

/-- Settings that name their fields name those that are picked from some of them. -/
theorem namesField_of_picked {pick : Operator → Option (List String)} {settings : List Operator}
    (named : ∀ setting ∈ settings, setting.NamesFields)
    (picks : ∀ {setting specs}, setting.NamesFields → pick setting = some specs → ∀ spec ∈ specs, NamesField spec) :
    ∀ spec ∈ (settings.filterMap pick).flatten, NamesField spec := by
  intro spec member
  obtain ⟨specs, given, inside⟩ := List.mem_flatten.mp member
  obtain ⟨setting, listed, picked⟩ := List.mem_filterMap.mp given
  exact picks (named setting listed) picked spec inside

theorem namesField_of_sorted {settings : List Operator} (named : ∀ setting ∈ settings, setting.NamesFields) :
    ∀ spec ∈ (sorted settings).flatten, NamesField spec := by
  refine namesField_of_picked named fun {setting specs} fields picked => ?_
  cases setting <;> cases picked
  exact fields

theorem namesField_of_selected {settings : List Operator} (named : ∀ setting ∈ settings, setting.NamesFields) :
    ∀ spec ∈ (selected settings).flatten, NamesField spec := by
  refine namesField_of_picked named fun {setting specs} fields picked => ?_
  cases setting <;> cases picked
  exact fields

theorem namesFields_settingsAll {args : List Value} {operands : List Operator}
    (each : List.Forall₂ (fun _ operand => ∀ setting ∈ settings operand, setting.NamesFields) args operands) :
    ∀ setting ∈ settingsAll operands, setting.NamesFields := by
  induction each with
  | nil => simp [settingsAll]
  | cons first _ ih =>
    intro setting member
    rw [settingsAll] at member
    exact (List.mem_append.mp member).elim (first setting) (ih setting)

/-- The settings of a query that is accepted name fields. -/
theorem namesFields_of_check {value : Value} {operator : Operator} (accepted : check value = .ok operator) :
    ∀ setting ∈ operator.settings, setting.NamesFields := by
  refine @check_induction (fun _ operator => ∀ setting ∈ operator.settings, setting.NamesFields) ?_ _ _ accepted
  intro value operator name args _ _ rule taken
  cases taken with
  | comparison => simp [settings]
  | logical each => exact namesFields_settingsAll each
  | sort =>
    obtain ⟨specs, same, filled⟩ := rule
    obtain rfl := text_injective same
    simpa [settings, NamesFields] using filled
  | select =>
    obtain ⟨specs, same, filled⟩ := rule
    obtain rfl := text_injective same
    simpa [settings, NamesFields] using filled
  | _ => simp [settings, NamesFields]

end Operator

namespace FindOptions
open Operator (selected sorted limits tokens)

variable {idField : String}

/-- A field that is named is left when its sign is taken off. -/
theorem splitSign_ne_empty {spec : String} (named : NamesField spec) : (splitSign spec).1 ≠ "" := by
  obtain ⟨c, member, noPlus, noMinus⟩ := named
  have behind {sign : Char} {path : List Char} (whole : spec.toList = sign :: path) (other : c ≠ sign) :
      String.ofList path ≠ "" := by
    rw [whole] at member
    have inside := (List.mem_cons.mp member).resolve_left other
    intro empty
    rw [String.ofList_eq_empty_iff.mp empty] at inside
    cases inside
  unfold splitSign
  split
  · rename_i whole
    exact behind whole noPlus
  · rename_i whole
    exact behind whole noMinus
  · rintro rfl
    cases member

/-- What options hold after settings that were taken one after the other. -/
def summary (settings : List Operator) : FindOptions where
  sort := putSigned .empty (sorted settings).flatten
  projection := putSigned .empty (selected settings).flatten
  limit := ((limits settings).getLast?.map Prod.fst).getD 0
  skip := ((limits settings).filterMap Prod.snd).getLast?.getD 0
  after := (tokens .after settings).getLast?.getD ""
  before := (tokens .before settings).getLast?.getD ""

/-- One more setting is the last one of its kind. -/
theorem set_summary {settings : List Operator} {setting : Operator} {options : FindOptions}
    (done : set idField setting (summary settings) = .ok options) : options = summary (settings ++ [setting]) := by
  cases setting with
  | comparison comparator field value =>
    cases done
    simp [summary, sorted, selected, limits, tokens]
  | logical connective operands =>
    cases done
    simp [summary, sorted, selected, limits, tokens]
  | sort specs =>
    cases done
    simp [summary, addSort, sorted, selected, limits, tokens, putSigned_append]
  | select specs =>
    obtain ⟨_, _, same⟩ := Outcome.bind_eq_ok_iff.mp done
    cases same
    simp [summary, sorted, selected, limits, tokens, putSigned_append]
  | limit count skip =>
    cases done
    cases skip <;> simp [summary, setLimit, sorted, selected, limits, tokens]
  | cursor side token =>
    cases done
    cases side <;> simp [summary, setCursor, sorted, selected, limits, tokens]

/-- A run of settings sums them up. -/
theorem setAll_summary {settings : List Operator} {options : FindOptions} (done : setAll idField settings {} = .ok options) :
    options = summary settings := by
  induction settings using List.reverseRecOn generalizing options with
  | nil =>
    cases done
    rfl
  | append_singleton settings setting ih =>
    rw [setAll_append] at done
    obtain ⟨middle, before, last⟩ := Outcome.bind_eq_ok_iff.mp done
    obtain rfl := ih before
    rw [setAll_single] at last
    exact set_summary last

theorem putSigned_latest (specs : List String) : Entries.Latest (specs.map splitSign) (putSigned .empty specs).entries := by
  rw [putSigned_eq_ofPairs]
  exact Entries.ofPairs_latest _

theorem flagEntries_latest {pairs : List (String × Bool)} {flags : Entries Bool} (latest : Entries.Latest pairs flags)
    (set clear : Int) : Entries.Latest (flagEntries set clear pairs) (flagEntries set clear flags) :=
  latest.map fun flag => Value.int (if flag then set else clear)

/-- Every path of a mapping is a field without its sign. -/
theorem putSigned_filled {specs : List String} (named : ∀ spec ∈ specs, NamesField spec) {path : String}
    (member : path ∈ (putSigned .empty specs).entries.map Prod.fst) : path ≠ "" := by
  rw [(putSigned_latest specs).keys, List.mem_eraseDups, List.map_map] at member
  obtain ⟨spec, inside, rfl⟩ := List.mem_map.mp member
  exact splitSign_ne_empty (named spec inside)

end FindOptions

namespace FindQuery
open Operator (NamesFields selections sorted limits tokens)
open FindOptions (splitSign summary)

theorem keys_flagEntries (set clear : Int) (flags : Entries Bool) :
    (flagEntries set clear flags).map Prod.fst = flags.map Prod.fst := by
  simp [flagEntries]

/-- **What settings become.** In the mapping of a find query, paths to sort by and paths to show stand where
they were first named, each with the number of its last sign, and none is empty; the limit and the
cursors are those of the last such settings, and the number of results to leave out is that of the last
limit that has one. -/
theorem compile_summary {idField : String} {value : Value} {operator : Operator} {found : FindQuery}
    (valid : Operator.check value = .ok operator) (compiled : compile idField value = .ok found) :
    ∃ order shown : List (String × Value),
      found.toValue = .mapping [("criteria", .mapping found.criteria.toEntries), ("sort", .mapping order),
        ("projection", .mapping shown),
        ("limit", .int (((limits operator.settings).getLast?.map Prod.fst).getD 0 : Nat)),
        ("skip", .int (((limits operator.settings).filterMap Prod.snd).getLast?.getD 0 : Nat)),
        ("after", .text ((tokens .after operator.settings).getLast?.getD "")),
        ("before", .text ((tokens .before operator.settings).getLast?.getD ""))] ∧
      Entries.Latest (flagEntries 1 (-1) ((sorted operator.settings).flatten.map splitSign)) order ∧
      Entries.Latest (flagEntries 1 0 (operator.selections.flatten.map splitSign)) shown ∧
      ∀ path ∈ (order ++ shown).map Prod.fst, path ≠ "" := by
  have run := @compile_tracks idField _ _ valid
  rw [compiled] at run
  have summed : found.options = summary operator.settings := FindOptions.setAll_summary run
  have named := Operator.namesFields_of_check valid
  refine ⟨flagEntries 1 (-1) found.options.sort.entries, flagEntries 1 0 found.options.projection.entries, ?document, ?order, ?shown,
    ?filled⟩
  case document =>
    rw [toValue, summed]
    rfl
  case order =>
    rw [summed]
    exact FindOptions.flagEntries_latest (FindOptions.putSigned_latest _) 1 (-1)
  case shown =>
    rw [summed]
    exact FindOptions.flagEntries_latest (FindOptions.putSigned_latest _) 1 0
  case filled =>
    intro path member
    rw [List.map_append, keys_flagEntries, keys_flagEntries, summed, List.mem_append] at member
    rcases member with sorts | shows
    · exact FindOptions.putSigned_filled (Operator.namesField_of_sorted named) sorts
    · exact FindOptions.putSigned_filled (Operator.namesField_of_selected named) shows

/-- Fields that are named again with another sign in an operand of a disjunction, and a limit without a
number of results to leave out behind one with it. -/
theorem compile_summary_repeated :
    ∃ value operator found order shown,
      value = .node (.text "and") [.node (.text "sort") [.text "-a", .text "+b"], .node (.text "limit") [.int 10, .int 20],
        .node (.text "or") [.node (.text "gt") [.text "a", .int 1],
          .mapping [("name", .text "SORT"), ("args", .list [.text "b", .text "+a", .text "--c"])],
          .node (.text "select") [.text "x", .text "-_id"]],
        .node (.text "limit") [.int 5], .node (.text "after") [.text "t"]] ∧
      Operator.check value = .ok operator ∧ compile "_id" value = .ok found ∧
      found.toValue = .mapping [("criteria", .mapping [("$or", .list [.mapping [("a", .mapping [("$gt", .int 1)])],
          .mapping [], .mapping []])]), ("sort", .mapping order),
        ("projection", .mapping shown), ("limit", .int 5), ("skip", .int 20), ("after", .text "t"), ("before", .text "")] ∧
      order = [("a", .int 1), ("b", .int 1), ("-c", .int (-1))] ∧ shown = [("x", .int 1), ("_id", .int 0)] ∧
      Entries.Latest [("a", .int (-1)), ("b", .int 1), ("b", .int 1), ("a", .int 1), ("-c", .int (-1))] order ∧
      Entries.Latest [("x", .int 1), ("_id", .int 0)] shown ∧
      ∀ path ∈ ["a", "b", "-c", "x", "_id"], path ≠ "" := by
  have valid : Operator.check (.node (.text "and") [.node (.text "sort") [.text "-a", .text "+b"],
      .node (.text "limit") [.int 10, .int 20],
      .node (.text "or") [.node (.text "gt") [.text "a", .int 1],
        .mapping [("name", .text "SORT"), ("args", .list [.text "b", .text "+a", .text "--c"])],
        .node (.text "select") [.text "x", .text "-_id"]],
      .node (.text "limit") [.int 5], .node (.text "after") [.text "t"]]) =
    .ok (.logical .and [.sort ["-a", "+b"], .limit 10 (some 20),
      .logical .or [.comparison .gt "a" (.int 1), .sort ["b", "+a", "--c"], .select ["x", "-_id"]], .limit 5 none,
      .cursor .after "t"]) := rfl
  obtain ⟨order, shown, document, latest⟩ := @compile_summary "_id" _ _ _ valid rfl
  cases document
  exact ⟨_, _, _, _, _, rfl, valid, rfl, rfl, rfl, rfl, latest⟩

end FindQuery
end ResourceQuery
