import ResourceQuery.Error

/-!
Groups: text between a parenthesis and the one that closes it. Inside a group a backslash takes
the next character along, and quotes hide everything up to the same quote. `Group.inside` finds
where a group ends.
-/
namespace ResourceQuery.Group

/-- The quotes of the query language. -/
def isQuote (c : Char) : Bool := c = '\'' || c = '"'

/-- The text up to the parenthesis that closes a group. `depth` counts the groups that were opened
inside, and `quote` is the quote that is open. -/
def upTo? : (depth : Nat) → (quote : Option Char) → List Char → Option (List Char)
  | _, _, [] => none
  | depth, some quote, c :: rest =>
    (upTo? depth (if c = quote then none else some quote) rest).map (c :: ·)
  | depth, none, c :: rest =>
    if c = '\\' then
      match rest with
      | [] => none
      | next :: rest => (upTo? depth none rest).map fun inside => c :: next :: inside
    else if isQuote c then (upTo? depth (some c) rest).map (c :: ·)
    else if c = '(' then (upTo? (depth + 1) none rest).map (c :: ·)
    else if c = ')' then
      match depth with
      | 0 => some []
      | depth + 1 => (upTo? depth none rest).map (c :: ·)
    else (upTo? depth none rest).map (c :: ·)

/-- What stands inside the group that a text opens with its first character, whatever that is. -/
def inside? (text : List Char) : Option (List Char) := upTo? 0 none text.tail

/-- What stands inside the group that a text opens, or the fault that it is not closed. -/
def inside (text : String) : Except Error String :=
  match inside? text.toList with
  | some inside => .ok (String.ofList inside)
  | none => .error (.parse (.unclosedGroup text))

end ResourceQuery.Group
