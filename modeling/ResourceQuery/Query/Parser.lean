import ResourceQuery.Literal.Basic
import ResourceQuery.Query.Argument
import ResourceQuery.Query.Basic
import ResourceQuery.Query.Shorthand

/-!
Reading queries. A query is a list of terms with separators between them: `&` and `,` for
conjunction, `|` for disjunction. A term is a name, a call `name(arguments)` or a query in
parentheses; blanks between them do not count. Conjunction binds tighter than disjunction. The text
is read as tokens, the tokens are divided into terms at the separators, and `join` builds the tree
of the terms. `Query.parse` first writes comparisons in shorthand as calls.
-/
namespace ResourceQuery.Query

/-- A token outside groups. -/
inductive Token
  | separator (connective : Connective)
  | char (c : Char)
  /-- A group, by its inside. -/
  | group (inside : List Char)
  /-- A group that is not closed, with the text from its parenthesis on. -/
  | unclosed (text : List Char)
  deriving DecidableEq, Repr

/-- The connective that a separator stands for. -/
def separator? (c : Char) : Option Connective :=
  if c = '&' ∨ c = ',' then some .and
  else if c = '|' then some .or
  else none

/-- The tokens of a text of which the first `skip` characters are already taken. -/
def tokensFrom : (skip : Nat) → List Char → List Token
  | _, [] => []
  | skip + 1, _ :: rest => tokensFrom skip rest
  | 0, c :: rest =>
    match separator? c with
    | some connective => .separator connective :: tokensFrom 0 rest
    | none =>
      if c = '(' then
        match Group.upTo? 0 none rest with
        | some inside => .group inside :: tokensFrom (inside.length + 1) rest
        | none => [.unclosed (c :: rest)]
      else if Text.isBlank c then tokensFrom 0 rest
      else .char c :: tokensFrom 0 rest

/-- The tokens of a text. -/
def tokens (text : List Char) : List Token := tokensFrom 0 text

/-- The tokens of the first term, and those of the other terms with the separators before them. -/
def segments : List Token → List Token × List (Connective × List Token)
  | [] => ([], [])
  | .separator connective :: rest =>
    match segments rest with
    | (first, more) => ([], (connective, first) :: more)
  | token :: rest =>
    match segments rest with
    | (first, more) => (token :: first, more)

/-- The name at the start of a term and the tokens after it. -/
def splitName : List Token → List Char × List Token
  | .char c :: rest =>
    match splitName rest with
    | (name, tail) => (c :: name, tail)
  | rest => ([], rest)

/-- That nothing stands after the group of a term of the text `whole`. -/
def nothingAfter (whole : List Char) (name : String) : List Token → Except Error Unit
  | [] => .ok ()
  | .char c :: _ => .error (.parse (.afterTerm c name (String.ofList whole)))
  | _ => .error (.parse (.secondGroup name (String.ofList whole)))

/-- The query of a term of the text `whole`. `nested` reads the inside of a group as a query, and
`arguments` as the arguments of a call. -/
def term (nested : List Char → Except Error Query)
    (arguments : List Char → Except Error (List Value)) (whole : List Char)
    (segment : List Token) : Except Error Query :=
  let (name, rest) := splitName segment
  match rest with
  | .unclosed text :: _ => .error (.parse (.unclosedGroup (String.ofList text)))
  | .group inside :: rest => do
    let query ←
      if name.isEmpty then nested inside
      else do pure ⟨String.ofList name, ← arguments inside⟩
    nothingAfter whole query.name rest
    return query
  | _ =>
    if name.isEmpty then .error (.parse (.missingOperator (String.ofList whole)))
    else .ok ⟨String.ofList name, []⟩

/-- Whether an argument is a call: a word and a parenthesis. -/
def startsCall (raw : List Char) : Bool :=
  !(raw.takeWhile Text.isWord).isEmpty && (raw.dropWhile Text.isWord).head? = some '('

mutual

/-- The value of an argument, where `nested` reads a call. -/
def argument (nested : List Char → Except Error Query) : Argument → Except Error Value
  | .leaf raw =>
    if startsCall raw.toList then (nested raw.toList).map toValue
    else Literal.value (Argument.unquote raw.toList)
  | .array items => (argumentList nested items).map Value.list
termination_by structural arg => arg

/-- The values of arguments, in order. -/
def argumentList (nested : List Char → Except Error Query) :
    List Argument → Except Error (List Value)
  | [] => .ok []
  | item :: rest => do
    let head ← argument nested item
    let tail ← argumentList nested rest
    return head :: tail
termination_by structural items => items

end

/-- The arguments of a call, by the inside of its group. -/
def callArguments (nested : List Char → Except Error Query) (inside : List Char) :
    Except Error (List Value) := do
  argumentList nested (← Argument.split inside)

/-- The tree of terms, of which `done` and then `last` are joined by `top` and the rest is still to
come. After a disjunction, a conjunction takes the last term and all that follows; after a
conjunction, a disjunction takes all so far as its first operand. -/
def joinFrom (top : Connective) (done : List Query) (last : Query) :
    List (Connective × Query) → Query
  | [] => joined top (done ++ [last])
  | (connective, next) :: rest =>
    if connective = top then joinFrom top (done ++ [last]) next rest
    else
      match connective with
      | .and => joined top (done ++ [joinFrom .and [last] next rest])
      | .or => joinFrom .or [joined top (done ++ [last])] next rest

/-- The tree of a term and the terms after it. -/
def join (first : Query) : List (Connective × Query) → Query
  | [] => first
  | (connective, next) :: rest => joinFrom connective [first] next rest

/-- The terms after the first one, in order. -/
def terms (read : List Token → Except Error Query) :
    List (Connective × List Token) → Except Error (List (Connective × Query))
  | [] => .ok []
  | (connective, segment) :: rest => do
    let head ← read segment
    let tail ← terms read rest
    return (connective, head) :: tail

/-- The query of a text of calls in which groups are nested less deep than `depth`. -/
def readWithin : (depth : Nat) → List Char → Except Error Query
  | 0, text => .error (.parse (.missingOperator (String.ofList text)))
  | depth + 1, text => do
    let read := term (readWithin depth) (callArguments (readWithin depth)) text
    let (first, rest) := segments (tokens text)
    return join (← read first) (← terms read rest)

/-- The query of a text of calls. Groups cannot be nested deeper than the text is long. -/
def read (text : List Char) : Except Error Query := readWithin (text.length + 1) text

/-- The query of a text. -/
def parse (text : String) : Except Error Query :=
  match text.toList with
  | [] => .error (.parse .empty)
  | '?' :: _ => .error (.parse (.questionMark text))
  | source => do read (← Shorthand.expand source)

end ResourceQuery.Query
