import ResourceQuery.Find.Compile
import ResourceQuery.Query.Printer
import ResourceQuery.Session.Walk

/-!
Sessions: steps that build, join, change and use queries held in registers. Each step answers with
what it made or found, or with the error that it met; after an error the session goes on as if the
step had not been taken.
-/
namespace ResourceQuery.Session

/-! ### Building queries -/

/-- The functions that build queries. -/
inductive Builder
  | comparison (comparator : Comparator)
  | logical (connective : Connective)
  | sort
  | select
  | limit
  | cursor (side : Side)
  deriving DecidableEq, Repr

/-- The items of an item: those of a list or tuple, the characters of a text, the keys of a
mapping. -/
def Item.items : Item → Except Error (List Item)
  | .list items => .ok items
  | .tuple items => .ok items
  | .leaf (.text s) => .ok (s.toList.map fun c => .leaf (.text (String.ofList [c])))
  | .mapping entries => .ok (entries.map fun entry => .leaf (.text entry.1))
  | _ => .error .noItems

/-- The arguments of a comparison: membership takes the items of its second argument as a list of
their own. -/
def comparisonArgs (comparator : Comparator) (field value : Item) : Except Error (List Item) :=
  match comparator with
  | .in => do return [field, .list (← value.items)]
  | .out => do return [field, .list (← value.items)]
  | _ => .ok [field, value]

/-- The query that a builder makes of its arguments. -/
def Builder.build (builder : Builder) (args : List Item) : Action Item :=
  match builder, args with
  | .comparison comparator, [field, value] => do
    Store.newQuery comparator.name (← comparisonArgs comparator field value)
  | .logical connective, args => Store.newQuery connective.name args
  | .sort, args => Store.newQuery "sort" args
  | .select, args => Store.newQuery "select" args
  | .limit, [count] => Store.newQuery "limit" [count]
  | .limit, [count, .leaf .null] => Store.newQuery "limit" [count]
  | .limit, [count, skip] => Store.newQuery "limit" [count, skip]
  | .cursor side, [token] => Store.newQuery side.name [token]
  | _, _ => throw .misuse

/-! ### Mappings that stand for queries -/

mutual

/-- An item with mappings that can stand for queries made into nodes. -/
def ofPlain : Item → Action Item
  | .mapping entries =>
    match entries.lookup "name" with
    | some (.leaf (.text name)) => do
      match ← plainArgs entries with
      | some args => Store.newQuery name args
      | none => return .mapping entries
    | _ => return .mapping entries
  | .list items => do return .list (← ofPlainItems items)
  | item => return item
termination_by structural item => item

def ofPlainItems : List Item → Action (List Item)
  | [] => return []
  | item :: rest => do
    let head ← ofPlain item
    let tail ← ofPlainItems rest
    return head :: tail
termination_by structural items => items

/-- The list under `args`, with mappings made into nodes. -/
def plainArgs : List (String × Item) → Action (Option (List Item))
  | [] => return none
  | (key, item) :: rest =>
    if key = "args" then
      match item with
      | .list items => do return some (← ofPlainItems items)
      | _ => return none
    else plainArgs rest
termination_by structural entries => entries

end

/-- The value of a key that a mapping has to have. -/
def entry (entries : List (String × Item)) (key : String) : Except Error Item :=
  match entries.lookup key with
  | some item => .ok item
  | none => .error (.missingKey key)

/-- The node of the name and the arguments that a mapping holds. -/
def nodeOfEntries : Item → Action Item
  | .mapping entries => do
    let name ← entry entries "name"
    let args ← entry entries "args"
    Store.newNode name (← ofPlainItems (← args.items))
  | _ => throw .misuse

/-! ### Steps -/

/-- A step. `target` is the register that takes the result. -/
inductive Step
  | parse (target text : String)
  | make (target : String) (draft : Draft)
  | build (target : String) (builder : Builder) (args : List Draft)
  | ofMapping (target : String) (draft : Draft)
  | combine (connective : Connective) (target left right : String)
  | push (target register : String) (terms : List Draft)
  | validate (target register : String)
  | walk (register : String) (change : Change)
  | print (register : String)
  | toMapping (register : String)
  | equal (left right : String)
  | compile (register : String) (idField : Option String)

/-- The answer to a step. -/
inductive Answer
  /-- The value that a register has after the step. -/
  | state (value : Value)
  | text (text : String)
  | mapping (value : Value)
  | equal (isEqual : Bool)
  | found (query : FindQuery)

/-- The value of an item. -/
def valueOf (item : Item) : Action Value := do (← get).resolve item

/-- The value in a register. -/
def registerValue (name : String) : Action Value := do valueOf (← Store.register name)

/-- Put an item into a register and answer with its value. -/
def keep (target : String) (item : Item) : Action Answer := do
  Store.setRegister target item
  return .state (← valueOf item)

/-- The name and the cell of the query in a register. -/
def queryIn (name : String) : Action (Item × Nat) := do
  match ← Store.register name with
  | .node name cell => return (name, cell)
  | _ => throw .misuse

/-- Join the query in one register with what is in another. -/
def combine (connective : Connective) (left right : String) : Action Item := do
  let (name, cell) ← queryIn left
  let other ← Store.register right
  if name.isText connective.name then
    Store.newQuery connective.name ((← get).items cell ++ [other])
  else Store.newQuery connective.name [.node name cell, other]

/-- The query that an item stands for, if it keeps all rules. -/
def validate (item : Item) : Action Item := do
  let _ ← Operator.check (← valueOf item)
  match item with
  | .node name cell => return .node name cell
  | item => ofPlain item

/-- Take a step; `environment` is the identifier field of the environment. -/
def Step.run (environment : Option String) : Step → Action Answer
  | .parse target text => do keep target (← Store.load (← Query.parse text).toValue)
  | .make target draft => do keep target (← draft.make)
  | .build target builder args => do keep target (← builder.build (← Draft.makeItems args))
  | .ofMapping target draft => do keep target (← nodeOfEntries (← draft.make))
  | .combine connective target left right => do keep target (← Session.combine connective left right)
  | .push target register terms => do
    let (name, cell) ← queryIn register
    extend cell (← Draft.makeItems terms)
    keep target (.node name cell)
  | .validate target register => do keep target (← Session.validate (← Store.register register))
  | .walk register change => do
    let (_, cell) ← queryIn register
    Session.walk change cell
    return .state (← registerValue register)
  | .print register => do return .text (← (← registerValue register).print)
  | .toMapping register => do return .mapping (← registerValue register).toPlain
  | .equal left right => do
    let left ← registerValue left
    let right ← registerValue right
    return .equal (left.equals right)
  | .compile register given => do
    let idField := FindQuery.idField given environment
    return .found (← FindQuery.compile idField (← registerValue register))

/-- Take steps one after the other; a step that fails leaves the store as it was. -/
def runFrom (environment : Option String) (store : Store) :
    List Step → List (Except Error Answer) × Store
  | [] => ([], store)
  | step :: rest =>
    match (step.run environment).run store with
    | .ok (answer, store) =>
      let (answers, last) := runFrom environment store rest
      (.ok answer :: answers, last)
    | .error fault =>
      let (answers, last) := runFrom environment store rest
      (.error fault :: answers, last)

/-- The registers with their values, in the order of their names. -/
def registers (store : Store) : Except Error (List (String × Value)) :=
  (store.registers.mergeSort fun a b => !decide (b.1 < a.1)).mapM fun (name, item) => do
    return (name, ← store.resolve item)

/-- What a session leaves: the answers to its steps, and the registers. -/
structure Report where
  answers : List (Except Error Answer)
  registers : List (String × Value)

/-- Run a session from an empty store. -/
def run (environment : Option String) (steps : List Step) : Except Error Report := do
  let (answers, store) := runFrom environment {} steps
  return ⟨answers, ← registers store⟩

end ResourceQuery.Session
