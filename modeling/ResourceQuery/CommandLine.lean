import ResourceQuery.Find.Compile
import ResourceQuery.Find.Format
import ResourceQuery.Query.Printer

/-!
The commands: `convert` writes a query as a find query and `parse` writes its tree. A command is
read from its arguments, and running it gives what is printed and written; errors of the query
itself are printed, while any other error ends the command.
-/
namespace ResourceQuery.CommandLine

/-- The options of `convert`. -/
structure Conversion where
  query : Option String := none
  url : Option String := none
  format : String := "json"
  output : Option String := none
  idField : Option String := none

/-- A command. -/
inductive Command
  | convert (conversion : Conversion)
  | parse (query : String) (canonical : Bool)

/-- The options that take a value. -/
inductive OptionName
  | url
  | format
  | output
  | idField
  deriving DecidableEq, Repr

/-- The option that is written like this. -/
def OptionName.of? : String → Option OptionName
  | "--url" => some .url
  | "-u" => some .url
  | "--format" => some .format
  | "-f" => some .format
  | "--output" => some .output
  | "-o" => some .output
  | "--id-field" => some .idField
  | _ => none

/-- A conversion with an option set. -/
def Conversion.set (conversion : Conversion) (value : String) : OptionName → Conversion
  | .url => { conversion with url := some value }
  | .format => { conversion with format := value }
  | .output => { conversion with output := some value }
  | .idField => { conversion with idField := some value }

/-- The text before the first `=` and the text after it. -/
def splitEquals? (argument : String) : Option (String × String) :=
  let text := argument.toList
  match text.dropWhile (· ≠ '=') with
  | [] => none
  | _ :: value => some (String.ofList (text.takeWhile (· ≠ '=')), String.ofList value)

/-- An option and its value in one argument. -/
def joinedOption? (argument : String) : Option (OptionName × String) := do
  let (name, value) ← splitEquals? argument
  return (← OptionName.of? name, value)

/-- The conversion with the options and the query of more arguments; nothing if there are more
queries than one or an option lacks its value. -/
def conversion? (conversion : Conversion) : List String → Option Conversion
  | [] => some conversion
  | argument :: rest =>
    match joinedOption? argument, OptionName.of? argument with
    | some (option, value), _ => conversion? (conversion.set value option) rest
    | none, some option =>
      match rest with
      | [] => none
      | value :: rest => conversion? (conversion.set value option) rest
    | none, none =>
      if conversion.query.isSome then none
      else conversion? { conversion with query := some argument } rest

/-- The command to print the tree of a query. -/
def parseCommand? (arguments : List String) : Option Command :=
  match arguments.filter (· ≠ "--canonical") with
  | [query] => some (.parse query (arguments.contains "--canonical"))
  | _ => none

/-- The command of arguments. -/
def Command.of? : List String → Option Command
  | "convert" :: rest => (conversion? {} rest).map .convert
  | "parse" :: rest => parseCommand? rest
  | _ => none

/-- What a command leaves: its exit code, what it prints, and the files it writes. -/
structure Outcome where
  code : Nat := 0
  stdout : String := ""
  stderr : String := ""
  files : List (String × String) := []

/-- The outcome of a command that prints a line. -/
def printed (text : String) : Outcome := { stdout := text ++ "\n" }

/-- The outcome of a command that fails. -/
def failed (message : String) : Outcome := { code := 1, stderr := "Error: " ++ message ++ "\n" }

/-- Go on with a result; an error of the query itself is the outcome. -/
def reporting {α : Type} (result : Except Error α) (next : α → Except Error Outcome) :
    Except Error Outcome :=
  match result with
  | .ok value => next value
  | .error fault =>
    if fault.isReported then .ok (failed (fault.message?.getD "")) else .error fault

/-- A path without empty parts and without parts that stand for the same directory. -/
def normalPath (path : String) : String :=
  let parts := (Text.splitOn '/' path.toList).filter fun part => part ≠ [] && part ≠ ['.']
  let relative := Text.joined "/" (parts.map String.ofList)
  match path.toList with
  | '/' :: '/' :: '/' :: _ => "/" ++ relative
  | '/' :: '/' :: _ => "//" ++ relative
  | '/' :: _ => "/" ++ relative
  | _ => if relative.isEmpty then "." else relative

/-- Write a text to a file, or print it if there is none. -/
def deliver (output : Option String) (text : String) : Outcome :=
  match output with
  | none => printed text
  | some path =>
    let path := normalPath path
    { printed ("Exported query to " ++ path) with files := [(path, text ++ "\n")] }

section
variable (queryOf : String → Except Error String)

/-- The query of a conversion: the one that `queryOf` finds in the URL, if there is one. -/
def Conversion.source (conversion : Conversion) : Except Error String :=
  match conversion.url with
  | some url => queryOf url
  | none => .ok (conversion.query.getD "")

/-- Run a conversion; `environment` is the identifier field of the environment. -/
def Conversion.run (environment : Option String) (conversion : Conversion) :
    Except Error Outcome := do
  let query ← conversion.source queryOf
  if query.isEmpty then
    return failed "No query provided. Pass it as an argument or use --url."
  match Format.ofName conversion.format with
  | .error fault => return failed (fault.message?.getD "")
  | .ok format =>
    let idField := FindQuery.idField conversion.idField environment
    reporting (FindQuery.ofText idField query) fun found => do
      return deliver conversion.output (← format.render found)

/-- Run a command. -/
def Command.run (environment : Option String) : Command → Except Error Outcome
  | .convert conversion => conversion.run queryOf environment
  | .parse query canonical =>
    reporting (Query.parse query) fun tree => do
      let text ← if canonical then tree.print else tree.toPlain.jsonText (.indented 2)
      return printed text

/-- How commands are written. -/
def usage : String :=
  "usage: convert [QUERY] [--url URL] [--format FORMAT] [--output FILE] [--id-field FIELD]\n" ++
  "       parse QUERY [--canonical]\n"

/-- Run the command of arguments; arguments that make no command are answered by how commands are
written. -/
def run (environment : Option String) (arguments : List String) : Except Error Outcome :=
  match Command.of? arguments with
  | some command => command.run queryOf environment
  | none => .ok { code := 1, stderr := usage }

end

end ResourceQuery.CommandLine
