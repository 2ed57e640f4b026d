import ResourceQuery.Find.Basic
import ResourceQuery.Json.Writer
import ResourceQuery.Time.Iso

/-!
Find queries as documents. `FindQuery.toValue` is the mapping of all its parts; in JSON a date is a
text and a pattern an object that holds its source and whether it ignores case.
-/
namespace ResourceQuery

mutual

/-- A constraint as a value. -/
def Constraint.toValue : Constraint → Value
  | .equals value => value
  | .operators values => .mapping values
  | .branches alternatives => .list (Constraint.alternativeValues alternatives)
termination_by structural constraint => constraint

/-- Alternatives as mappings. -/
def Constraint.alternativeValues : List (List (String × Constraint)) → List Value
  | [] => []
  | criteria :: rest =>
    .mapping (Constraint.entryValues criteria) :: Constraint.alternativeValues rest
termination_by structural alternatives => alternatives

/-- The entries of criteria with their values. -/
def Constraint.entryValues : List (String × Constraint) → List (String × Value)
  | [] => []
  | (field, constraint) :: rest => (field, constraint.toValue) :: Constraint.entryValues rest
termination_by structural entries => entries

end

/-- Criteria as the entries of a mapping. -/
def Criteria.toEntries (criteria : Criteria) : List (String × Value) :=
  Constraint.entryValues criteria

/-- Flags as numbers: the first for a set flag, the second for any other one. -/
def flagEntries (set clear : Int) (flags : Entries Bool) : List (String × Value) :=
  flags.map fun (path, flag) => (path, .int (if flag then set else clear))

/-- A find query as a mapping. -/
def FindQuery.toValue (query : FindQuery) : Value :=
  .mapping [("criteria", .mapping query.criteria.toEntries),
    ("sort", .mapping (flagEntries 1 (-1) query.options.sort.entries)),
    ("projection", .mapping (flagEntries 1 0 query.options.projection.entries)),
    ("limit", .int query.options.limit),
    ("skip", .int query.options.skip),
    ("after", .text query.options.after),
    ("before", .text query.options.before)]

/-- The document of a date or a pattern. -/
def specialDocument : Time.Moment ⊕ Pattern → Except Value.NoDocument Json
  | .inl moment => .ok (.text (Time.Iso.text moment))
  | .inr pattern =>
    .ok (.object [("$regex", .text pattern.source),
      ("$options", .text (if pattern.flags.ignoreCase then "i" else ""))])

/-- The document of a value in which no node stands. -/
def Value.document (value : Value) : Except Error Json :=
  match value.toJson specialDocument with
  | .ok json => .ok json
  | .error .kind => .error .noDocument
  | .error .digits => .error .wideInteger

/-- A value as JSON text. -/
def Value.jsonText (style : Json.Style) (value : Value) : Except Error String := do
  return (← value.document).write style

end ResourceQuery
