import ResourceQuery.Entries
import ResourceQuery.Error
import ResourceQuery.Operator.Basic

/-!
Find queries of a document database: criteria that the documents meet, and options for their order,
the fields that are shown and the page of results. Criteria map each field to a constraint, and the
key `$or` to alternatives of which one is met. Adding a constraint that cannot stand beside the
earlier ones is a conflict.
-/
namespace ResourceQuery

/-- What a field, or `$or`, is bound to. -/
inductive Constraint
  /-- The field has this value. -/
  | equals (value : Value)
  /-- The field meets the database's operators with these values. -/
  | operators (values : List (String × Value))
  /-- One of the criteria is met. -/
  | branches (alternatives : List (List (String × Constraint)))
  deriving Inhabited

/-- Constraints by their fields, all of which are met. -/
abbrev Criteria := Entries Constraint

/-- The key of alternatives. -/
def branchesKey : String := "$or"

/-- The database's name of a comparison. Equality has none: it is a constraint by itself. -/
def Comparator.tag : Comparator → String
  | .eq => "$eq"
  | .ne => "$ne"
  | .in => "$in"
  | .out => "$nin"
  | .le => "$lte"
  | .lt => "$lt"
  | .gt => "$gt"
  | .ge => "$gte"

/-- The value of a comparison in criteria: membership is tested in a list, and any other value is
the only member of one. -/
def Comparator.operand : Comparator → Value → Value
  | .in, .list items => .list items
  | .in, value => .list [value]
  | .out, .list items => .list items
  | .out, value => .list [value]
  | _, value => value

namespace Criteria

/-- The criteria with an equality. A later equality takes the place of an earlier one. -/
def equate (criteria : Criteria) (field : String) (value : Value) : Except Error Criteria :=
  match criteria.get? field with
  | some (.operators _) => .error (.conflict (.equality field))
  | some (.branches _) => .error (.conflict (.equality field))
  | _ => .ok (criteria.put field (.equals value))

/-- The criteria with a comparison other than equality. It joins the field's other comparisons, and
takes the place of an earlier one of the same kind. -/
def constrain (criteria : Criteria) (comparator : Comparator) (field : String) (value : Value) :
    Except Error Criteria :=
  match criteria.get? field with
  | some (.branches _) => .error (.conflict (.afterBranches comparator.name field))
  | some (.equals _) => .error (.conflict (.afterEquality comparator.name field))
  | some (.operators values) =>
    .ok (criteria.put field (.operators (Entries.put comparator.tag value values)))
  | none => .ok (criteria.put field (.operators [(comparator.tag, value)]))

/-- The criteria with a comparison. -/
def compare (criteria : Criteria) (comparator : Comparator) (field : String) (value : Value) :
    Except Error Criteria :=
  if comparator = .eq then criteria.equate field value
  else criteria.constrain comparator field (comparator.operand value)

/-- The criteria with more alternatives. -/
def branch (criteria : Criteria) (alternatives : List Criteria) : Except Error Criteria :=
  match criteria.get? branchesKey with
  | none => .ok (criteria.put branchesKey (.branches alternatives))
  | some (.branches earlier) =>
    .ok (criteria.put branchesKey (.branches (earlier ++ alternatives)))
  | some _ => .error (.conflict (.branches branchesKey))

end Criteria

/-- Order, projection and page of the results. -/
structure FindOptions where
  /-- Whether each field is sorted in ascending order, the most significant field first. -/
  sort : Mapping Bool := .empty
  /-- Whether each field is shown. -/
  projection : Mapping Bool := .empty
  /-- How many results there are at most; zero for no limit. -/
  limit : Nat := 0
  /-- How many results are left out before them. -/
  skip : Nat := 0
  after : String := ""
  before : String := ""
  deriving DecidableEq, Inhabited

namespace FindOptions

/-- A field after its sign, and whether the sign is `+`, which may be left out. -/
def splitSign (spec : String) : String × Bool :=
  match spec.toList with
  | '+' :: path => (String.ofList path, true)
  | '-' :: path => (String.ofList path, false)
  | _ => (spec, true)

/-- Fields with their signs put into a mapping one after the other. -/
def putSigned (flags : Mapping Bool) (specs : List String) : Mapping Bool :=
  specs.foldl (fun flags spec => flags.put (splitSign spec).1 (splitSign spec).2) flags

/-- The fields that a projection leaves out, the identifier apart. -/
def excluded (idField : String) (projection : Mapping Bool) : List String :=
  (projection.entries.filter fun entry => !entry.2 && entry.1 ≠ idField).map Prod.fst

/-- A projection either names the fields that are shown or those that are not; only the identifier
may be left out among fields that are shown. -/
def checkProjection (idField : String) (projection : Mapping Bool) : Except Error Unit :=
  let left := excluded idField projection
  if projection.entries.any Prod.snd && !left.isEmpty then .error (.rule (.mixedProjection left)) else .ok ()

/-- The options with more fields to sort by. -/
def addSort (options : FindOptions) (specs : List String) : FindOptions :=
  { options with sort := putSigned options.sort specs }

/-- The options with more fields to select, if they still make a projection. -/
def addSelect (idField : String) (options : FindOptions) (specs : List String) :
    Except Error FindOptions := do
  let projection := putSigned options.projection specs
  checkProjection idField projection
  return { options with projection }

/-- The options with a limit. -/
def setLimit (options : FindOptions) (count : Nat) (skip : Option Nat) : FindOptions :=
  { options with limit := count, skip := skip.getD options.skip }

/-- The options with a cursor. -/
def setCursor (options : FindOptions) (token : String) : Side → FindOptions
  | .after => { options with after := token }
  | .before => { options with before := token }

end FindOptions

/-- A find query. -/
structure FindQuery where
  criteria : Criteria := []
  options : FindOptions := {}
  deriving Inhabited

end ResourceQuery
