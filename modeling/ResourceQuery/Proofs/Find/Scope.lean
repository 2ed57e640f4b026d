import ResourceQuery.Find.Compile

/-!
Scopes. Conjunctions put their operands side by side, so the operators that share criteria are
those that are reached through conjunctions alone: a scope. A query has one scope at its root and
one for every operand of every disjunction. `Operator.slot?` is the place in criteria that an
operator fills: a comparison the one of its field and comparator, a disjunction the alternatives.
-/
namespace ResourceQuery

theorem Comparator.tag_injective {one other : Comparator} (same : one.tag = other.tag) : one = other := by
  cases one <;> cases other <;> first | rfl | simp [tag] at same

/-- A place in criteria. -/
inductive Slot
  | comparison (field : String) (comparator : Comparator)
  | alternatives
  deriving DecidableEq, Repr

/-- The entry of criteria in which a place lies. -/
def Slot.key : Slot → String
  | .comparison field _ => field
  | .alternatives => branchesKey

namespace Operator

/-- The place in the criteria of its scope that an operator fills. -/
def slot? : Operator → Option Slot
  | .comparison comparator field _ => some (.comparison field comparator)
  | .logical .or _ => some .alternatives
  | _ => none

/-- The places that operators of one scope fill. -/
def places (operators : List Operator) : List Slot := operators.filterMap slot?

mutual

/-- The operators reached from an operator through conjunctions. -/
def scope : Operator → List Operator
  | .logical .and operands => scopeAll operands
  | operator => [operator]
termination_by structural operator => operator

def scopeAll : List Operator → List Operator
  | [] => []
  | operator :: rest => operator.scope ++ scopeAll rest
termination_by structural operators => operators

end

mutual

/-- The scopes below the one in which an operator stands. -/
def innerScopes : Operator → List (List Operator)
  | .logical .and operands => innerScopesAll operands
  | .logical .or operands => branchScopes operands
  | _ => []
termination_by structural operator => operator

def innerScopesAll : List Operator → List (List Operator)
  | [] => []
  | operator :: rest => operator.innerScopes ++ innerScopesAll rest
termination_by structural operators => operators

/-- The scopes of the operands of a disjunction, and those below them. -/
def branchScopes : List Operator → List (List Operator)
  | [] => []
  | operator :: rest => operator.scope :: operator.innerScopes ++ branchScopes rest
termination_by structural operators => operators

end

/-- All scopes of an operator, that of the root first. -/
def scopes (operator : Operator) : List (List Operator) := operator.scope :: operator.innerScopes

end Operator
end ResourceQuery
