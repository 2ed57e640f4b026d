import ResourceQuery.Session.Store
import ResourceQuery.Text.UpperCase

/-!
Drafts and changes of shared queries. A draft is a value that may name registers in place of its
parts. A walk replaces every query below a node: the query's place takes the result of a change,
and the walk goes on below the result.
-/
namespace ResourceQuery.Session

/-- A value that is not made yet, in which registers stand for what they hold. -/
inductive Draft
  | value (made : Value)
  | register (name : String)
  | list (items : List Draft)
  | tuple (items : List Draft)
  | mapping (entries : List (String × Draft))
  | node (name : Draft) (args : List Draft)
  deriving Inhabited

mutual

/-- Make a value of a draft. -/
def Draft.make : Draft → Action Item
  | .value made => Store.load made
  | .register name => Store.register name
  | .list items => do return .list (← Draft.makeItems items)
  | .tuple items => do return .tuple (← Draft.makeItems items)
  | .mapping entries => do return .mapping (← Draft.makeEntries entries)
  | .node name args => do
    let name ← Draft.make name
    let args ← Draft.makeItems args
    Store.newNode name args
termination_by structural draft => draft

def Draft.makeItems : List Draft → Action (List Item)
  | [] => return []
  | item :: rest => do
    let head ← Draft.make item
    let tail ← Draft.makeItems rest
    return head :: tail
termination_by structural items => items

def Draft.makeEntries : List (String × Draft) → Action (List (String × Item))
  | [] => return []
  | (key, draft) :: rest => do
    let head ← Draft.make draft
    let tail ← Draft.makeEntries rest
    return (key, head) :: tail
termination_by structural entries => entries

end

/-- Add items at the end of a cell. -/
def extend (cell : Nat) (items : List Item) : Action Unit := do
  Store.setItems cell ((← get).items cell ++ items)

/-- What a walk puts in the place of a query. -/
inductive Change
  /-- The query with its name in upper case, and the same arguments. -/
  | upper
  /-- A query of one name under another name, with the same arguments. -/
  | rename (source target : String)
  /-- Another value for a query of a name. -/
  | replace (name : String) (draft : Draft)
  /-- The query itself, with more arguments. -/
  | push (terms : List Draft)
  /-- A copy of the query whose first argument has a text in front, if it is a text. -/
  | lead (text : String)

/-- Whether a name is a text, and this one. -/
def Item.isText (text : String) : Item → Bool
  | .leaf (.text name) => name = text
  | _ => false

/-- Arguments with a text in front of the first one, if that is a text. -/
def leadWith (text : String) : List Item → List Item
  | .leaf (.text first) :: rest => .leaf (.text (text ++ first)) :: rest
  | items => items

/-- The node under the name that a function gives it, with the same arguments. -/
def renamed (rename : String → String) (name : Item) (cell : Nat) : Action Item :=
  match name with
  | .leaf (.text name) => return .node (.leaf (.text (rename name))) cell
  | _ => throw .misuse

/-- What a change makes of the node of a name and a cell. -/
def Change.apply (change : Change) (name : Item) (cell : Nat) : Action Item :=
  match change with
  | .upper => renamed Text.upper name cell
  | .rename source target =>
    return .node (if name.isText source then .leaf (.text target) else name) cell
  | .replace source draft => if name.isText source then draft.make else return .node name cell
  | .push terms => do
    extend cell (← Draft.makeItems terms)
    return .node name cell
  | .lead text => do Store.newNode name (leadWith text ((← get).items cell))

/-- Change the query at an index of a cell, if there is one, and go on in the cell of the new one. -/
def visit (change : Item → Nat → Action Item) (goOn : Nat → Action Unit) (cell index : Nat) : Action Unit := do
  match ((← get).items cell)[index]? with
  | some (.node name inner) =>
    let new ← change name inner
    Store.setItems cell (((← get).items cell).set index new)
    match new with
    | .node _ inner => goOn inner
    | _ => throw .misuse
  | _ => return ()

/-- Change the queries in a cell and below it, as deep as `depth`, where `change` makes something of the
name and the cell of each. -/
def walkWithin (change : Item → Nat → Action Item) : (depth : Nat) → (cell : Nat) → Action Unit
  | 0, _ => throw .tooDeep
  | depth + 1, cell => do
    let count := ((← get).items cell).length
    (List.range count).forM (visit change (walkWithin change depth) cell)

/-- Change the queries in a cell and below it. -/
def walk (change : Change) (cell : Nat) : Action Unit := walkWithin change.apply Store.maxDepth cell

end ResourceQuery.Session
