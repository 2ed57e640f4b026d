import ResourceQuery.Json.Reader
import ResourceQuery.Literal.Date
import ResourceQuery.Text.Percent

/-!
Literals. A literal may name the type of its value by a tag in front, such as `number:12`;
`Tag.read` reads a text under a tag. Without a tag a text is a keyword, a number or else a text
with percent escapes. `Literal.value` reads a literal with or without a tag.
-/
namespace ResourceQuery.Literal

/-- The types of literals. -/
inductive Tag
  | auto
  | number
  | text
  | boolean
  | date
  | epoch
  | partialDate
  | caselessPattern
  | pattern
  | json
  deriving DecidableEq, Repr

/-- The tag of a name. -/
def Tag.ofName? : String → Option Tag
  | "auto" => some .auto
  | "number" => some .number
  | "string" => some .text
  | "boolean" => some .boolean
  | "date" => some .date
  | "epoch" => some .epoch
  | "isodate" => some .partialDate
  | "re" => some .caselessPattern
  | "RE" => some .pattern
  | "json" => some .json
  | _ => none

/-- The words that stand for values. -/
def keyword? : String → Option Value
  | "true" => some (.bool true)
  | "false" => some (.bool false)
  | "null" => some .null
  | "undefined" => some .null
  | "Infinity" => some (.real (.infinite false))
  | "-Infinity" => some (.real (.infinite true))
  | _ => none

/-- The inside of a text in single quotes. -/
def singleQuoted? : List Char → Option (List Char)
  | '\'' :: rest => if rest.getLast? = some '\'' then some rest.dropLast else none
  | _ => none

/-- The value of a text with percent escapes. If single quotes stand around it, what they enclose
is the inside of a JSON text; where it is none, the quotes belong to the text. -/
def unescaped (text : List Char) : Value :=
  let decoded := Text.Percent.decode text
  let plain := Value.text (String.ofList decoded)
  match singleQuoted? decoded with
  | none => plain
  | some body =>
    match Json.read (String.ofList ('"' :: body ++ ['"'])) with
    | .ok json => Value.ofJson json
    | .error _ => plain

/-- The value of a text without a tag. -/
def auto (text : List Char) : Except Error Value :=
  match keyword? (String.ofList text) with
  | some value => .ok value
  | none => do
    match ← number? text with
    | some numeral => return numeral.toValue
    | none => return unescaped text

/-- The pattern of a text with percent escapes. -/
def pattern (flags : Pattern.Flags) (text : List Char) : Except Error Pattern :=
  let source := String.ofList (Text.Percent.decode text)
  match Pattern.compile source flags with
  | .ok pattern => .ok pattern
  | .error (.malformed cause position) =>
    .error (.literal ⟨.pattern source cause position, String.ofList text⟩)
  | .error .repeatLimit => .error .repeatCount
  | .error (.digitLimit count) => .error (.longInteger count)
  | .error .flagConflict => .error .patternFlags

/-- The value of a JSON document with percent escapes. -/
def json (text : List Char) : Except Error Value :=
  let document := String.ofList (Text.Percent.decode text)
  match Json.read document with
  | .ok json => .ok (Value.ofJson json)
  | .error (.malformed cause position) =>
    .error (.literal ⟨.json document cause position, String.ofList text⟩)
  | .error (.digitLimit count) => .error (.longInteger count)

/-- Whether a text is the word `true` in any case. -/
def isTrue (text : List Char) : Bool := text.map Char.toLower = "true".toList

/-- The value of a text under a tag. -/
def Tag.read : Tag → List Char → Except Error Value
  | .auto, raw => Literal.auto raw
  | .number, raw => do return (← Literal.number raw).toValue
  | .text, raw => .ok (.text (String.ofList (Text.Percent.decode raw)))
  | .boolean, raw => .ok (.bool (isTrue raw))
  | .date, raw => do return .moment (← Literal.date raw)
  | .epoch, raw => do return .moment (← Literal.epoch raw)
  | .partialDate, raw => do return .moment (← Literal.partialDate raw)
  | .caselessPattern, raw => do return .pattern (← Literal.pattern (.ofLetters ['i']) raw)
  | .pattern, raw => do return .pattern (← Literal.pattern (.ofLetters []) raw)
  | .json, raw => Literal.json raw

/-- The name before the first colon of a text and what follows it, if the name is an ASCII letter
and word characters. -/
def splitTag? : List Char → Option (List Char × List Char)
  | [] => none
  | first :: rest =>
    match rest.dropWhile Text.isWord with
    | ':' :: after =>
      if first.isAlpha then some (first :: rest.takeWhile Text.isWord, after) else none
    | _ => none

/-- The text with its escaped colons as plain ones. -/
def plainColons (text : List Char) : List Char := Text.replacePair '\\' ':' [':'] text

/-- The value of a literal. -/
def value (text : List Char) : Except Error Value :=
  match splitTag? text with
  | none => auto (plainColons text)
  | some (name, rest) =>
    match Tag.ofName? (String.ofList name) with
    | some tag => tag.read (plainColons rest)
    | none => .error (.literal ⟨.unknownTag (String.ofList name), String.ofList text⟩)

end ResourceQuery.Literal
