import ResourceQuery.Json.Reader
import ResourceQuery.Pattern.Basic

/-!
Why something fails. Each stage has a type of faults of its own, and each type one function that
words its faults; `Error` is any of them. Some failures have no wording.
-/
namespace ResourceQuery

/-- A text that is no query. `text` is the text that was being scanned: the whole query, or the
inside of a group or argument. -/
inductive ParseFault
  | empty
  | questionMark (text : String)
  | illegalComparator (symbol : String)
  | unclosedGroup (text : String)
  | afterArray (char : Char) (text : String)
  | missingOperator (text : String)
  | secondGroup (name text : String)
  | afterTerm (char : Char) (name text : String)
  deriving DecidableEq, Repr

/-- A character in quotes. -/
def quotedCharacter (c : Char) : String := Text.quoted (String.ofList [c])

/-- The wording of a fault of parsing. -/
def ParseFault.message : ParseFault → String
  | .empty => "Query empty or invalid: ''"
  | .questionMark text => "Query must not start with ?: " ++ text
  | .illegalComparator symbol => "Illegal operator: \"" ++ symbol ++ "\""
  | .unclosedGroup text => "Could not find closing paren: " ++ text
  | .afterArray char text =>
    "Unexpected " ++ quotedCharacter char ++ " after array argument: " ++ text
  | .missingOperator text => "Missing operator: " ++ text
  | .secondGroup name text => "Unexpected argument list after " ++ name ++ ": " ++ text
  | .afterTerm char name text =>
    "Unexpected " ++ quotedCharacter char ++ " after " ++ name ++ "(...): " ++ text

/-- What is wrong with a literal. -/
inductive LiteralCause
  | unknownTag (tag : String)
  | number
  | date
  | pattern (source : String) (cause : Pattern.Cause) (position : Option Nat)
  | json (document : String) (cause : Json.Cause) (position : Nat)
  deriving DecidableEq, Repr

/-- A literal that its tag cannot read, with the text that was to be read. -/
structure LiteralFault where
  cause : LiteralCause
  text : String
  deriving DecidableEq, Repr

/-- The wording of a fault of a literal. -/
def LiteralFault.message (fault : LiteralFault) : String :=
  match fault.cause with
  | .unknownTag tag => "Unknown converter: \"" ++ tag ++ "\""
  | .number => "Invalid number " ++ Text.quoted fault.text
  | .date => "Invalid date " ++ Text.quoted fault.text
  | .pattern source cause position => Pattern.malformedMessage source cause position
  | .json document cause position => Json.malformedMessage document cause position

/-- A query that breaks the rules of an operator, whose name is given as it stands in the query. -/
inductive RuleFault
  | notQuery
  | queryInside (name : String)
  | comparisonArity (name : String) (count : Nat)
  | comparisonField (name : String)
  | operands (name : String)
  | textArguments (name : String)
  | fieldNames (name : String)
  | firstNumber (name : String)
  | secondNumber (name : String)
  | tooManyNumbers (name : String)
  | cursorText (name : String)
  | unknownOperator (name : String)
  | mixedProjection (excluded : List String)
  deriving DecidableEq, Repr

/-- The wording of a broken rule. -/
def RuleFault.message : RuleFault → String
  | .notQuery => "Argument is not a valid query object"
  | .queryInside name => "RQL is not allowed in arguments for operator: " ++ name
  | .comparisonArity name count =>
    "RQL Operator " ++ name ++ " requires a field and a value, got " ++ Nat.repr count ++ " arguments"
  | .comparisonField name =>
    "RQL Operator " ++ name ++ " requires a field name as the first argument"
  | .operands name => "RQL is required in arguments for operator: " ++ name
  | .textArguments name => "RQL Operator " ++ name ++ " requires string arguments"
  | .fieldNames name => "RQL Operator " ++ name ++ " requires field names"
  | .firstNumber name => "RQL Operator " ++ name ++ " requires a number as the first argument"
  | .secondNumber name => "RQL Operator " ++ name ++ " requires a number as the second argument"
  | .tooManyNumbers name => "RQL Operator " ++ name ++ " takes at most two arguments"
  | .cursorText name => "RQL Operator " ++ name ++ " requires a string as the first argument"
  | .unknownOperator name => "RQL Operator is not allowed: " ++ name
  | .mixedProjection excluded =>
    "Projection cannot mix inclusion and exclusion: " ++ Text.joined ", " excluded

/-- Constraints that cannot stand together. -/
inductive Conflict
  /-- An equality for a field that already has something else. -/
  | equality (field : String)
  /-- A comparison for a field that already has an equality. -/
  | afterEquality (operator field : String)
  /-- A comparison for the field that already holds the branches of a disjunction. -/
  | afterBranches (operator field : String)
  /-- A disjunction where its key already has a constraint. -/
  | branches (key : String)
  deriving DecidableEq, Repr

/-- The field of a conflict. -/
def Conflict.field : Conflict → String
  | .equality field => field
  | .afterEquality _ field => field
  | .afterBranches _ field => field
  | .branches key => key

/-- The wording of a conflict. -/
def Conflict.message : Conflict → String
  | .equality field => "conflicting operators: eq for " ++ field
  | .afterEquality operator field => "conflicting operators: eq and " ++ operator ++ " for " ++ field
  | .afterBranches operator field => "conflicting operators: or and " ++ operator ++ " for " ++ field
  | .branches key => "conflicting operators: or for " ++ key

/-- A text that is no URL. -/
inductive UrlFault
  | tooLong
  | unprintable (char : Char) (position : Nat)
  | ipv4 (host : String)
  | ipv6 (host : String)
  | portNumber (text : String)
  | relativeSlashes
  | relativeColon
  deriving DecidableEq, Repr

/-- The wording of a fault of a URL. -/
def UrlFault.message : UrlFault → String
  | .tooLong => "URL too long"
  | .unprintable char position =>
    "Invalid non-printable ASCII character in URL, " ++ quotedCharacter char ++ " at position " ++
      Nat.repr position ++ "."
  | .ipv4 host => "Invalid IPv4 address: " ++ Text.quoted host
  | .ipv6 host => "Invalid IPv6 address: " ++ Text.quoted host
  | .portNumber text => "Invalid port: " ++ Text.quoted text
  | .relativeSlashes => "Relative URLs cannot have a path starting with '//'"
  | .relativeColon => "Relative URLs cannot have a path starting with ':'"

/-- Anything that can fail. -/
inductive Error
  | parse (fault : ParseFault)
  | literal (fault : LiteralFault)
  | rule (fault : RuleFault)
  | conflict (cause : Conflict)
  | url (fault : UrlFault)
  | unknownFormat (name : String)
  /-- An integer text with more digits than are read. -/
  | longInteger (digits : Nat)
  /-- An integer with more digits than are written. -/
  | wideInteger
  /-- Flags of a pattern that exclude each other. -/
  | patternFlags
  /-- A repeat count of a pattern that is beyond every count. -/
  | repeatCount
  /-- A date that leaves the calendar when it is moved to UTC. -/
  | calendarRange
  /-- A value of a kind that no literal can stand for. -/
  | unprintable (kind : String)
  /-- A value of a kind that JSON does not have. -/
  | noDocument
  /-- A value that holds no items, where items are wanted. -/
  | noItems
  /-- A builder with the wrong number of arguments, or something done to a value that is no
  query. -/
  | misuse
  /-- A mapping without a key that it should have. -/
  | missingKey (key : String)
  /-- A register that holds nothing. -/
  | unsetRegister (name : String)
  /-- A query that is nested in itself, or too deep to be followed. -/
  | tooDeep
  deriving DecidableEq, Repr

/-- What is said of integers of too many digits. -/
def digitLimitMessage (size : String) : String :=
  "Exceeds the limit (4300 digits) for integer string conversion" ++ size ++
    "; use sys.set_int_max_str_digits() to increase the limit"

/-- The wording of an error, if it has one. -/
def Error.message? : Error → Option String
  | .parse fault => some fault.message
  | .literal fault => some fault.message
  | .rule fault => some fault.message
  | .conflict cause => some cause.message
  | .url fault => some fault.message
  | .unknownFormat name => some ("Unknown format: " ++ name ++ ". Available: json, tree")
  | .longInteger digits => some (digitLimitMessage (": value has " ++ Nat.repr digits ++ " digits"))
  | .wideInteger => some (digitLimitMessage "")
  | .patternFlags => some "ASCII and UNICODE flags are incompatible"
  | .repeatCount => none
  | .calendarRange => none
  | .unprintable kind => some ("Cannot encode " ++ kind ++ " as an RQL value")
  | .noDocument => none
  | .noItems => none
  | .misuse => none
  | .missingKey _ => none
  | .unsetRegister _ => none
  | .tooDeep => none

/-- Whether an error lies in the query itself, so that a command reports it as its own. -/
def Error.isReported : Error → Bool
  | .parse _ => true
  | .literal _ => true
  | .rule _ => true
  | .conflict _ => true
  | _ => false

end ResourceQuery
