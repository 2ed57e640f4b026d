import ResourceQuery.Entries
import ResourceQuery.Error
import ResourceQuery.Value

/-!
Shared queries. In a session several places may hold one and the same query, and what is added to
it through one of them is seen through all. So the arguments of a node are kept in a cell of a
store, and a node only names its cell. `Store.load` puts a value into a store and `Store.resolve`
takes it out again.
-/
namespace ResourceQuery.Session

/-- A value whose nodes name the cells that hold their arguments. -/
inductive Item
  /-- A value that holds no others. -/
  | leaf (value : Value)
  | list (items : List Item)
  | tuple (items : List Item)
  | mapping (entries : List (String × Item))
  | node (name : Item) (cell : Nat)
  deriving Inhabited

/-- The cells, and the registers with what they hold. -/
structure Store where
  cells : List (List Item) := []
  registers : Entries Item := []

/-- Something done with a store, which may fail. -/
abbrev Action := StateT Store (Except Error)

namespace Store

/-- The items of a cell. -/
def items (store : Store) (cell : Nat) : List Item := store.cells.getD cell []

/-- A new node, with its arguments in a new cell. -/
def newNode (name : Item) (args : List Item) : Action Item := do
  let store ← get
  set { store with cells := store.cells ++ [args] }
  return .node name store.cells.length

/-- A new node whose name is a text. -/
def newQuery (name : String) (args : List Item) : Action Item := newNode (.leaf (.text name)) args

/-- Put items into a cell in place of those it holds. -/
def setItems (cell : Nat) (items : List Item) : Action Unit :=
  modify fun store => { store with cells := store.cells.set cell items }

/-- What a register holds. -/
def register (name : String) : Action Item := do
  match (← get).registers.get? name with
  | some item => return item
  | none => throw (.unsetRegister name)

/-- Put an item into a register. -/
def setRegister (name : String) (item : Item) : Action Unit :=
  modify fun store => { store with registers := store.registers.put name item }

mutual

/-- Put a value into the store. -/
def load : Value → Action Item
  | .list items => do return .list (← loadItems items)
  | .tuple items => do return .tuple (← loadItems items)
  | .mapping entries => do return .mapping (← loadEntries entries)
  | .node name args => do
    let name ← load name
    let args ← loadItems args
    newNode name args
  | value => return .leaf value
termination_by structural value => value

def loadItems : List Value → Action (List Item)
  | [] => return []
  | item :: rest => do
    let head ← load item
    let tail ← loadItems rest
    return head :: tail
termination_by structural items => items

def loadEntries : List (String × Value) → Action (List (String × Item))
  | [] => return []
  | (key, value) :: rest => do
    let head ← load value
    let tail ← loadEntries rest
    return (key, head) :: tail
termination_by structural entries => entries

end

mutual

/-- The value of an item, where `args` gives the arguments in a cell. -/
def valueWith (args : Nat → Except Error (List Value)) : Item → Except Error Value
  | .leaf value => .ok value
  | .list items => do return .list (← valuesWith args items)
  | .tuple items => do return .tuple (← valuesWith args items)
  | .mapping entries => do return .mapping (← entriesWith args entries)
  | .node name cell => do
    let name ← valueWith args name
    return .node name (← args cell)
termination_by structural item => item

def valuesWith (args : Nat → Except Error (List Value)) : List Item → Except Error (List Value)
  | [] => .ok []
  | item :: rest => do
    let head ← valueWith args item
    let tail ← valuesWith args rest
    return head :: tail
termination_by structural items => items

def entriesWith (args : Nat → Except Error (List Value)) :
    List (String × Item) → Except Error (List (String × Value))
  | [] => .ok []
  | (key, item) :: rest => do
    let head ← valueWith args item
    let tail ← entriesWith args rest
    return (key, head) :: tail
termination_by structural entries => entries

end

/-- The deepest nesting of nodes. Only a node that has become an argument of its own arguments is
nested deeper than any. -/
def maxDepth : Nat := 1000

/-- The arguments in a cell whose nodes are nested less deep than `depth`. -/
def argsWithin (store : Store) : (depth : Nat) → (cell : Nat) → Except Error (List Value)
  | 0, _ => .error .tooDeep
  | depth + 1, cell => valuesWith (argsWithin store depth) (store.items cell)

/-- The value of an item. -/
def resolve (store : Store) (item : Item) : Except Error Value :=
  valueWith (argsWithin store maxDepth) item

end Store
end ResourceQuery.Session
