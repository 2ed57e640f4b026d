import ResourceQuery.Query.Basic

/-!
Operators: what a query means once its arguments have been checked.
-/
namespace ResourceQuery

/-- The comparisons of a field with a value. -/
inductive Comparator
  | eq
  | ne
  | in
  | out
  | le
  | lt
  | gt
  | ge
  deriving DecidableEq, Repr

/-- The name of a comparison in a query. -/
def Comparator.name : Comparator → String
  | .eq => "eq"
  | .ne => "ne"
  | .in => "in"
  | .out => "out"
  | .le => "le"
  | .lt => "lt"
  | .gt => "gt"
  | .ge => "ge"

/-- On which side of a cursor the results lie. -/
inductive Side
  | after
  | before
  deriving DecidableEq, Repr

/-- The name of a side in a query. -/
def Side.name : Side → String
  | .after => "after"
  | .before => "before"

/-- An operator with its arguments. -/
inductive Operator
  | comparison (comparator : Comparator) (field : String) (value : Value)
  | logical (connective : Connective) (operands : List Operator)
  | sort (fields : List String)
  | select (fields : List String)
  | limit (count : Nat) (skip : Option Nat)
  | cursor (side : Side) (token : String)
  deriving Inhabited

/-- The kinds of operators, by which their arguments are checked. -/
inductive OperatorKind
  | comparison (comparator : Comparator)
  | logical (connective : Connective)
  | sort
  | select
  | limit
  | cursor (side : Side)
  deriving DecidableEq, Repr

/-- The kind of operator that a name in lower case stands for. -/
def OperatorKind.ofName? : String → Option OperatorKind
  | "eq" => some (.comparison .eq)
  | "ne" => some (.comparison .ne)
  | "in" => some (.comparison .in)
  | "out" => some (.comparison .out)
  | "le" => some (.comparison .le)
  | "lt" => some (.comparison .lt)
  | "gt" => some (.comparison .gt)
  | "ge" => some (.comparison .ge)
  | "and" => some (.logical .and)
  | "or" => some (.logical .or)
  | "sort" => some .sort
  | "select" => some .select
  | "limit" => some .limit
  | "after" => some (.cursor .after)
  | "before" => some (.cursor .before)
  | _ => none

/-- The kind of operator of a name in any case. ASCII letters are enough: no other letter becomes
one of an operator's name in lower case. -/
def OperatorKind.of? (name : String) : Option OperatorKind :=
  ofName? (String.ofList (name.toList.map Char.toLower))

end ResourceQuery
