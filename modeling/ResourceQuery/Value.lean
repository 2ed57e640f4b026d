import ResourceQuery.Json.Basic
import ResourceQuery.Pattern.Basic
import ResourceQuery.Time.Moment

/-!
The values that queries carry: what a JSON document can hold, and dates, patterns, tuples and
nodes. A node is a name with arguments; the parser names nodes by texts only, while a caller may
hand in any value as a name. `Value.equals` compares values the way a reader would: numbers by
their value, whether or not they are truth values or floating point numbers, mappings without
regard to order, dates as points in time.
-/
namespace ResourceQuery
open ResourceQuery.Number (Binary64)
open ResourceQuery.Time (Moment)

/-- A value. -/
inductive Value
  | null
  | bool (b : Bool)
  | int (n : Int)
  | real (x : Binary64)
  | text (s : String)
  | moment (m : Moment)
  | pattern (p : Pattern)
  | list (items : List Value)
  | tuple (items : List Value)
  | mapping (entries : List (String × Value))
  | node (name : Value) (args : List Value)
  deriving Inhabited

namespace Value

/-! ### JSON -/

mutual

/-- The value of a JSON document. -/
def ofJson : Json → Value
  | .null => .null
  | .bool b => .bool b
  | .int n => .int n
  | .real x => .real x
  | .text s => .text s
  | .array items => .list (ofJsonItems items)
  | .object members => .mapping (ofJsonMembers members)
termination_by structural json => json

def ofJsonItems : List Json → List Value
  | [] => []
  | item :: rest => ofJson item :: ofJsonItems rest
termination_by structural items => items

def ofJsonMembers : List (String × Json) → List (String × Value)
  | [] => []
  | (key, value) :: rest => (key, ofJson value) :: ofJsonMembers rest
termination_by structural members => members

end

/-- Why a value has no JSON document. -/
inductive NoDocument
  /-- A value of a kind that JSON does not have. -/
  | kind
  /-- An integer of too many digits. -/
  | digits
  deriving DecidableEq, Repr

/-- An integer as a document, if it has not too many digits. -/
def intDocument (n : Int) : Except NoDocument Json :=
  if Number.isWritable n then .ok (.int n) else .error .digits

mutual

/-- The JSON document of a value, where `special` gives those of dates and patterns. Nodes have
none. Of several parts without a document the first counts. -/
def toJson (special : Moment ⊕ Pattern → Except NoDocument Json) : Value → Except NoDocument Json
  | .null => .ok .null
  | .bool b => .ok (.bool b)
  | .int n => intDocument n
  | .real x => .ok (.real x)
  | .text s => .ok (.text s)
  | .moment m => special (.inl m)
  | .pattern p => special (.inr p)
  | .list items => (toJsonItems special items).map .array
  | .tuple items => (toJsonItems special items).map .array
  | .mapping entries => (toJsonMembers special entries).map .object
  | .node _ _ => .error .kind
termination_by structural value => value

def toJsonItems (special : Moment ⊕ Pattern → Except NoDocument Json) :
    List Value → Except NoDocument (List Json)
  | [] => .ok []
  | item :: rest => do
    let head ← toJson special item
    let tail ← toJsonItems special rest
    return head :: tail
termination_by structural items => items

def toJsonMembers (special : Moment ⊕ Pattern → Except NoDocument Json) :
    List (String × Value) → Except NoDocument (List (String × Json))
  | [] => .ok []
  | (key, value) :: rest => do
    let head ← toJson special value
    let tail ← toJsonMembers special rest
    return (key, head) :: tail
termination_by structural entries => entries

end

/-! ### Equality -/

/-- Whether two values that are no containers are equal. A NaN equals nothing. -/
def equalScalars : Value → Value → Bool
  | .null, .null => true
  | .bool a, .bool b => a == b
  | .bool a, .int n => a.toInt == n
  | .int n, .bool b => n == b.toInt
  | .bool a, .real x => x.equalsInt a.toInt
  | .real x, .bool b => x.equalsInt b.toInt
  | .int m, .int n => m == n
  | .int n, .real x => x.equalsInt n
  | .real x, .int n => x.equalsInt n
  | .real x, .real y => x.equals y
  | .text s, .text t => s == t
  | .moment a, .moment b => a.equals b
  | .pattern p, .pattern q => p == q
  | _, _ => false

mutual

/-- Whether two values inside containers agree: they are equal, or they are one and the same
NaN. -/
def same : Value → Value → Bool
  | .list a, .list b => sameItems a b
  | .tuple a, .tuple b => sameItems a b
  | .mapping a, .mapping b => a.length == b.length && sameEntries a b
  | .node name args, .node otherName otherArgs => same name otherName && sameItems args otherArgs
  | .real x, .real y => x == y || x.equals y
  | a, b => equalScalars a b
termination_by structural a => a

def sameItems : List Value → List Value → Bool
  | [], [] => true
  | a :: restA, b :: restB => same a b && sameItems restA restB
  | _, _ => false
termination_by structural a => a

/-- Whether a mapping holds the values of these entries. -/
def sameEntries : List (String × Value) → List (String × Value) → Bool
  | [], _ => true
  | (key, value) :: rest, other =>
    (match other.lookup key with
      | some found => same value found
      | none => false) && sameEntries rest other
termination_by structural a => a

end

/-- Whether two values are equal: they agree, and are not one and the same NaN. -/
def equals (a b : Value) : Bool :=
  match a, b with
  | .real x, .real y => x.equals y
  | a, b => same a b

/-! ### Queries as values -/

/-- Whether a value can stand for a query: a node, or a mapping of a text `name` and a list
`args`. -/
def isQueryLike : Value → Bool
  | .node _ _ => true
  | .mapping entries =>
    match entries.lookup "name", entries.lookup "args" with
    | some (.text _), some (.list _) => true
    | _, _ => false
  | _ => false

mutual

/-- Whether a query stands in a value, at any depth of lists. -/
def containsQuery : Value → Bool
  | .list items => anyContainsQuery items
  | value => value.isQueryLike
termination_by structural value => value

/-- Whether a query stands in one of several values. -/
def anyContainsQuery : List Value → Bool
  | [] => false
  | item :: rest => containsQuery item || anyContainsQuery rest
termination_by structural items => items

end

mutual

/-- A value with nodes written as mappings, in arguments and lists. -/
def toPlain : Value → Value
  | .node name args => .mapping [("name", name), ("args", .list (toPlainItems args))]
  | .list items => .list (toPlainItems items)
  | value => value
termination_by structural value => value

def toPlainItems : List Value → List Value
  | [] => []
  | item :: rest => toPlain item :: toPlainItems rest
termination_by structural items => items

end

mutual

/-- A value with mappings that can stand for queries read as nodes, in arguments and lists. -/
def ofPlain : Value → Value
  | .mapping entries =>
    match entries.lookup "name", plainArgs? entries with
    | some (.text name), some args => .node (.text name) args
    | _, _ => .mapping entries
  | .list items => .list (ofPlainItems items)
  | value => value
termination_by structural value => value

def ofPlainItems : List Value → List Value
  | [] => []
  | item :: rest => ofPlain item :: ofPlainItems rest
termination_by structural items => items

/-- The list under `args`, with mappings read as nodes. -/
def plainArgs? : List (String × Value) → Option (List Value)
  | [] => none
  | (key, value) :: rest =>
    if key = "args" then
      match value with
      | .list items => some (ofPlainItems items)
      | _ => none
    else plainArgs? rest
termination_by structural entries => entries

end

end Value
end ResourceQuery
