import ResourceQuery.Find.Document
import ResourceQuery.Value.Shown

/-!
Find queries as listings for people: one line for each part, indented by its level.
-/
namespace ResourceQuery.Listing

/-- The indent of a level. -/
def indent (level : Nat) : String := String.ofList (List.replicate (2 * level) ' ')

/-- Whether a value is a mapping. -/
def isMapping : Value → Bool
  | .mapping _ => true
  | _ => false

mutual

/-- The lines of the entries of a mapping. -/
def entries (level : Nat) : List (String × Value) → Except Error (List String)
  | [] => .ok []
  | (key, value) :: rest => do
    let head ← entry level key value
    let tail ← entries level rest
    return head ++ tail
termination_by structural list => list

/-- The lines of an entry: mappings, and lists of mappings only, are listed below their key. -/
def entry (level : Nat) (key : String) : Value → Except Error (List String)
  | .mapping inner => do return (indent level ++ key ++ ":") :: (← entries (level + 1) inner)
  | .list items =>
    if !items.isEmpty && items.all isMapping then do
      return (indent level ++ key ++ ":") :: (← branches level 0 items)
    else do return [indent level ++ key ++ ": " ++ (← (Value.list items).shown)]
  | value => do return [indent level ++ key ++ ": " ++ (← value.shown)]
termination_by structural value => value

/-- The lines of the mappings of a list, numbered from `index` on. -/
def branches (level index : Nat) : List Value → Except Error (List String)
  | [] => .ok []
  | item :: rest => do
    let head ← branch level item
    let tail ← branches level (index + 1) rest
    return (indent (level + 1) ++ "- [" ++ Nat.repr index ++ "]") :: (head ++ tail)
termination_by structural items => items

/-- The lines of a mapping in a list. -/
def branch (level : Nat) : Value → Except Error (List String)
  | .mapping inner => entries (level + 2) inner
  | _ => .ok []
termination_by structural value => value

end

/-- A heading and a line for each flag, or nothing if there are none. -/
def flags (heading set clear : String) (flags : Mapping Bool) : List String :=
  if flags.entries.isEmpty then []
  else
    heading :: flags.entries.map fun (path, flag) => indent 1 ++ path ++ ": " ++ (if flag then set else clear)

/-- The line of the limit, unless there is none. -/
def limit (options : FindOptions) : Except Error (List String) :=
  if options.limit = 0 ∧ options.skip = 0 then .ok []
  else do
    let count ← if options.limit = 0 then pure "none" else shownInt options.limit
    return ["limit: " ++ count ++ ", skip: " ++ (← shownInt options.skip)]

/-- The line of a cursor, unless it is empty. -/
def cursor (heading token : String) : List String :=
  if token.isEmpty then [] else [heading ++ token]

/-- The lines of a find query. -/
def lines (query : FindQuery) : Except Error (List String) := do
  let criteria ← entries 1 query.criteria.toEntries
  let limit ← limit query.options
  return "criteria:" :: (if criteria.isEmpty then [indent 1 ++ "(none)"] else criteria) ++
    flags "sort:" "asc" "desc" query.options.sort ++
    flags "projection:" "include" "exclude" query.options.projection ++
    limit ++ cursor "after: " query.options.after ++ cursor "before: " query.options.before

/-- The listing of a find query. -/
def text (query : FindQuery) : Except Error String := do
  return Text.joined "\n" (← lines query)

end ResourceQuery.Listing
