import ResourceQuery.Find.Basic
import ResourceQuery.Operator.Check
import ResourceQuery.Query.Parser

/-!
Turning operators into find queries. Operators are taken from left to right: comparisons go into
the criteria they stand in, the operands of a disjunction each into criteria of their own, and
everything else into the options of the whole query.
-/
namespace ResourceQuery

namespace FindQuery

mutual

/-- The find query with one more operator. -/
def add (idField : String) : Operator → FindQuery → Except Error FindQuery
  | .comparison comparator field value, query => do
    return { query with criteria := ← query.criteria.compare comparator field value }
  | .logical .and operands, query => addAll idField operands query
  | .logical .or operands, query => do
    let (options, alternatives) ← addEach idField operands query.options
    return ⟨← query.criteria.branch alternatives, options⟩
  | .sort specs, query => .ok { query with options := query.options.addSort specs }
  | .select specs, query => do
    return { query with options := ← query.options.addSelect idField specs }
  | .limit count skip, query => .ok { query with options := query.options.setLimit count skip }
  | .cursor side token, query => .ok { query with options := query.options.setCursor token side }
termination_by structural operator => operator

def addAll (idField : String) : List Operator → FindQuery → Except Error FindQuery
  | [], query => .ok query
  | operator :: rest, query => do addAll idField rest (← add idField operator query)
termination_by structural operators => operators

/-- The options with those of more operators, and the criteria of each operator by itself. -/
def addEach (idField : String) :
    List Operator → FindOptions → Except Error (FindOptions × List Criteria)
  | [], options => .ok (options, [])
  | operator :: rest, options => do
    let branch ← add idField operator ⟨[], options⟩
    let (options, alternatives) ← addEach idField rest branch.options
    return (options, branch.criteria :: alternatives)
termination_by structural operators => operators

end

/-- The find query of an operator. -/
def ofOperator (idField : String) (operator : Operator) : Except Error FindQuery :=
  add idField operator {}

/-- The name of the identifier field: the one given unless it is empty, else that of the
environment, else `_id`. -/
def idField (given environment : Option String) : String :=
  match given with
  | some name => if name.isEmpty then environment.getD "_id" else name
  | none => environment.getD "_id"

/-- The find query of a value that stands for a query. -/
def compile (idField : String) (value : Value) : Except Error FindQuery := do
  ofOperator idField (← Operator.check value)

/-- The find query of a text. -/
def ofText (idField : String) (text : String) : Except Error FindQuery := do
  compile idField (← Query.parse text).toValue

/-- The find query of the query in a URL, which is found by `queryOf`. -/
def ofUrl (queryOf : String → Except Error String) (idField : String) (url : String) : Except Error FindQuery := do
  ofText idField (← queryOf url)

/-- The find query of a text or of a value that stands for a query. -/
def convert (idField : String) : Value → Except Error FindQuery
  | .text text => ofText idField text
  | value => compile idField value

end FindQuery
end ResourceQuery
