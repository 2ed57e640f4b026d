import ResourceQuery.Error
import ResourceQuery.Operator.Basic

/-!
Checking queries. Each kind of operator has a rule for its arguments, and `Operator.check` gives the
operator of a value that keeps all of them: a node, or a mapping that stands for one.
-/
namespace ResourceQuery.Operator

/-- A broken rule. -/
def broken {α : Type} (fault : RuleFault) : Except Error α := .error (.rule fault)

/-- A comparison has a field, which is a text that is not empty, and a value; there is no query in
them. -/
def checkComparison (comparator : Comparator) (name : String) (args : List Value) :
    Except Error Operator :=
  if Value.anyContainsQuery args then broken (.queryInside name)
  else
    match args with
    | [.text field, value] =>
      if field.isEmpty then broken (.comparisonField name)
      else .ok (.comparison comparator field value)
    | [_, _] => broken (.comparisonField name)
    | _ => broken (.comparisonArity name args.length)

/-- The text of a value that is one. -/
def text? : Value → Option String
  | .text s => some s
  | _ => none

/-- Whether a text names a field: something is left without the signs in front of it. -/
def namesField (spec : String) : Bool := spec.toList.any fun c => c ≠ '+' && c ≠ '-'

/-- Fields to sort by or to select are texts that name a field, perhaps after a sign. -/
def checkFields (name : String) (args : List Value) : Except Error (List String) :=
  match args.mapM text? with
  | none => broken (.textArguments name)
  | some specs => if specs.all namesField then .ok specs else broken (.fieldNames name)

/-- The number of a value that counts something. Truth values do not. -/
def count? : Value → Option Nat
  | .int n => if 0 ≤ n then some n.toNat else none
  | _ => none

/-- A limit is one count, or two. -/
def checkLimit (name : String) : List Value → Except Error Operator
  | [] => broken (.firstNumber name)
  | first :: rest =>
    match count? first, rest with
    | none, _ => broken (.firstNumber name)
    | some count, [] => .ok (.limit count none)
    | some count, second :: more =>
      match count? second with
      | none => broken (.secondNumber name)
      | some skip => if more.isEmpty then .ok (.limit count (some skip)) else broken (.tooManyNumbers name)

/-- A cursor is a text; further arguments do not count. -/
def checkCursor (side : Side) (name : String) : List Value → Except Error Operator
  | .text token :: _ => .ok (.cursor side token)
  | _ => broken (.cursorText name)

/-- The operator of a name with its arguments, where `operands` are the operators of the arguments
as far as they have any. -/
def ofCall (name : String) (args : List Value) (operands : Except Error (List Operator)) :
    Except Error Operator :=
  match OperatorKind.of? name with
  | none => broken (.unknownOperator name)
  | some (.comparison comparator) => checkComparison comparator name args
  | some (.logical connective) =>
    if args.isEmpty || !args.all Value.isQueryLike then broken (.operands name)
    else operands.map (.logical connective)
  | some .sort => (checkFields name args).map .sort
  | some .select => (checkFields name args).map .select
  | some .limit => checkLimit name args
  | some (.cursor side) => checkCursor side name args

mutual

/-- The operator of a value that stands for a query. -/
def check : Value → Except Error Operator
  | .node (.text name) args => ofCall name args (checkAll args)
  | .mapping entries =>
    match entries.lookup "name" with
    | some (.text name) => checkEntries name entries
    | _ => broken .notQuery
  | _ => broken .notQuery
termination_by structural value => value

/-- The operator of a name with the list that a mapping holds under `args`. -/
def checkEntries (name : String) : List (String × Value) → Except Error Operator
  | [] => broken .notQuery
  | (key, value) :: rest =>
    if key = "args" then
      match value with
      | .list items => ofCall name items (checkAll items)
      | _ => broken .notQuery
    else checkEntries name rest
termination_by structural entries => entries

def checkAll : List Value → Except Error (List Operator)
  | [] => .ok []
  | item :: rest => do
    let head ← check item
    let tail ← checkAll rest
    return head :: tail
termination_by structural items => items

end

/-- The query that a value stands for, if it keeps all rules. -/
def validate (value : Value) : Except Error Value := do
  let _ ← check value
  return value.ofPlain

end ResourceQuery.Operator
