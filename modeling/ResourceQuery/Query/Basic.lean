import ResourceQuery.Value

/-!
Query trees. A query is an operator's name with arguments: values, lists of values, and queries as
nodes. `Query.combine` joins two queries by a connective and `Query.push` adds arguments.
-/
namespace ResourceQuery

/-- The operators that join queries. -/
inductive Connective
  | and
  | or
  deriving DecidableEq, Repr

/-- The name of a connective. -/
def Connective.name : Connective → String
  | .and => "and"
  | .or => "or"

/-- A query: the name of an operator and its arguments. -/
structure Query where
  name : String
  args : List Value
  deriving Inhabited

namespace Query

/-- The query as an argument of another one. -/
def toValue (query : Query) : Value := .node (.text query.name) query.args

/-- The node of a value, if its name is a text. -/
def ofValue? : Value → Option Query
  | .node (.text name) args => some ⟨name, args⟩
  | _ => none

/-- Queries joined by a connective. -/
def joined (connective : Connective) (terms : List Query) : Query :=
  ⟨connective.name, terms.map toValue⟩

/-- Two queries joined by a connective; a query that is already joined by it takes the other one
in. -/
def combine (connective : Connective) (left right : Query) : Query :=
  if left.name = connective.name then ⟨connective.name, left.args ++ [right.toValue]⟩
  else joined connective [left, right]

/-- The query with more arguments at its end. -/
def push (query : Query) (terms : List Value) : Query := { query with args := query.args ++ terms }

/-- The query that limits the number of results, and how many are left out before them. -/
def limit (count : Int) (skip : Option Int) : Query :=
  ⟨"limit", .int count :: (skip.map Value.int).toList⟩

/-- The query for the results after a cursor. -/
def after (cursor : String) : Query := ⟨"after", [.text cursor]⟩

/-- The mapping that stands for the query. -/
def toPlain (query : Query) : Value := query.toValue.toPlain

end Query
end ResourceQuery
