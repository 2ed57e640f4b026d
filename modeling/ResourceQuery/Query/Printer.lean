import ResourceQuery.Literal.Printer
import ResourceQuery.Query.Parser

/-!
Writing queries: a node is written as a call, a list as an array of arguments, and any other value
as a literal.
-/
namespace ResourceQuery

mutual

/-- A value as an argument. -/
def Value.print : Value → Except Error String
  | .node name args => do
    let name ← Value.printName name
    return name ++ "(" ++ Text.joined "," (← Value.printItems args) ++ ")"
  | .list items => do return "(" ++ Text.joined "," (← Value.printItems items) ++ ")"
  | .tuple items => do return "(" ++ Text.joined "," (← Value.printItems items) ++ ")"
  | value => Literal.print value
termination_by structural value => value

/-- The name of a node: a text as it is, and any other value as a reader sees it. -/
def Value.printName : Value → Except Error String
  | .text name => .ok name
  | .moment m => .ok (Time.Iso.textWith ' ' m)
  | .node name args => do
    let name ← Value.printName name
    return name ++ "(" ++ Text.joined "," (← Value.printItems args) ++ ")"
  | value => value.shown
termination_by structural value => value

def Value.printItems : List Value → Except Error (List String)
  | [] => .ok []
  | item :: rest => do
    let head ← Value.print item
    let tail ← Value.printItems rest
    return head :: tail
termination_by structural items => items

end

namespace Query

/-- A query as a call. -/
def print (query : Query) : Except Error String := query.toValue.print

/-- What becomes of a printed query when it is read again. -/
structure RoundTrip where
  /-- The printed text. -/
  text : String
  /-- The text printed after reading it again, and whether the tree is the same; or why the text
  cannot be read. -/
  again : Except Error (String × Bool)

/-- Print a value and read the text again. -/
def roundTrip (value : Value) : Except Error RoundTrip := do
  let text ← value.print
  match parse text with
  | .error fault => return ⟨text, .error fault⟩
  | .ok query => return ⟨text, .ok (← query.print, query.toValue.equals value)⟩

end Query
end ResourceQuery
