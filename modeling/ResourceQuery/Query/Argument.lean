import ResourceQuery.Query.Group

/-!
Arguments of a call. `Argument.split` divides the inside of a group at its commas: an argument
that starts with a parenthesis is an array of arguments, and any other one is the text as it
stands, without blanks around it. The text is first read as pieces, in which commas that divide
arguments stand alone. `Argument.unquote` drops quotes and escapes from the text of an argument.
-/
namespace ResourceQuery

/-- An argument as it is written: a text or an array. -/
inductive Argument
  | leaf (raw : String)
  | array (items : List Argument)
  deriving Inhabited

namespace Argument

/-- A piece of the inside of a group. -/
inductive Piece
  /-- A character that stands for itself. -/
  | plain (c : Char)
  /-- Text that is kept together: an escape, or a character of a quoted text. -/
  | kept (text : List Char)
  /-- A group, by its inside. -/
  | group (inside : List Char)
  /-- A group that is not closed, with the text from its parenthesis on. -/
  | unclosed (text : List Char)
  deriving DecidableEq, Repr

/-- The text of a piece. -/
def Piece.text : Piece → List Char
  | .plain c => [c]
  | .kept text => text
  | .group inside => '(' :: inside ++ [')']
  | .unclosed text => text

/-- The pieces of a text of which the first `skip` characters are already taken, while `quote` is
open. -/
def piecesFrom : (skip : Nat) → (quote : Option Char) → List Char → List Piece
  | _, _, [] => []
  | skip + 1, quote, _ :: rest => piecesFrom skip quote rest
  | 0, some quote, c :: rest =>
    .kept [c] :: piecesFrom 0 (if c = quote then none else some quote) rest
  | 0, none, c :: rest =>
    if c = '\\' then .kept (c :: rest.take 1) :: piecesFrom 1 none rest
    else if Group.isQuote c then .kept [c] :: piecesFrom 0 (some c) rest
    else if c = '(' then
      match Group.upTo? 0 none rest with
      | some inside => .group inside :: piecesFrom (inside.length + 1) none rest
      | none => [.unclosed (c :: rest)]
    else .plain c :: piecesFrom 0 none rest

/-- The pieces of a text. -/
def pieces (text : List Char) : List Piece := piecesFrom 0 none text

/-- The pieces between plain commas. -/
def segments : List Piece → List (List Piece)
  | [] => [[]]
  | piece :: rest =>
    if piece = .plain ',' then [] :: segments rest
    else
      match segments rest with
      | [] => [[piece]]
      | first :: more => (piece :: first) :: more

/-- The text of pieces, unless a group is not closed. -/
def textOf : List Piece → Except Error (List Char)
  | [] => .ok []
  | .unclosed text :: _ => .error (.parse (.unclosedGroup (String.ofList text)))
  | piece :: rest => do return piece.text ++ (← textOf rest)

/-- That nothing but spaces stands after an array, in the text `whole`. -/
def nothingAfter (whole : List Char) : List Piece → Except Error Unit
  | [] => .ok ()
  | piece :: rest =>
    if piece = .plain ' ' then nothingAfter whole rest
    else .error (.parse (.afterArray (piece.text.headD '(') (String.ofList whole)))

/-- The argument of a segment of the text `whole`, where `nested` splits the inside of an array.
An empty text counts as an argument unless the segment is the last one. -/
def ofSegment (nested : List Char → Except Error (List Argument)) (whole : List Char)
    (isLast : Bool) (segment : List Piece) : Except Error (List Argument) :=
  match segment.dropWhile (· = .plain ' ') with
  | .group inside :: rest => do
    let items ← nested inside
    nothingAfter whole rest
    return [.array items]
  | rest => do
    let text := Text.strip (← textOf rest)
    return if isLast && text.isEmpty then [] else [.leaf (String.ofList text)]

/-- The arguments of segments, in order. -/
def ofSegments (nested : List Char → Except Error (List Argument)) (whole : List Char) :
    List (List Piece) → Except Error (List Argument)
  | [] => .ok []
  | segment :: rest => do
    let head ← ofSegment nested whole rest.isEmpty segment
    let tail ← ofSegments nested whole rest
    return head ++ tail

/-- The arguments of a text in which arrays are nested less deep than `depth`. -/
def splitWithin : (depth : Nat) → List Char → Except Error (List Argument)
  | 0, text => .error (.parse (.unclosedGroup (String.ofList text)))
  | depth + 1, text => ofSegments (splitWithin depth) text (segments (pieces text))

/-- The arguments of a text. Arrays cannot be nested deeper than the text is long. -/
def split (text : List Char) : Except Error (List Argument) := splitWithin (text.length + 1) text

/-- The text without quotes and escapes, while `quote` is open. An escaped colon stays escaped, for
a colon may end a tag; and so does a backslash at the end. -/
def unquoteFrom : (quote : Option Char) → List Char → List Char
  | _, [] => []
  | some quote, c :: rest =>
    if c = quote then unquoteFrom none rest else c :: unquoteFrom (some quote) rest
  | none, c :: rest =>
    if c = '\\' then
      match rest with
      | [] => [c]
      | next :: rest => (if next = ':' then [c, next] else [next]) ++ unquoteFrom none rest
    else if Group.isQuote c then unquoteFrom (some c) rest
    else c :: unquoteFrom none rest

/-- The text of an argument without its quotes and escapes. -/
def unquote (raw : List Char) : List Char := unquoteFrom none raw

end Argument
end ResourceQuery
