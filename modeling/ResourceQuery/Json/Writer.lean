import ResourceQuery.Json.Basic
import ResourceQuery.Text.Quoted

/-!
Writing JSON. A style says which characters are escaped and how the parts are laid out.
-/
namespace ResourceQuery.Json

/-- How a value is laid out: on one line with these separators, or on several lines with each
level indented by so many spaces. -/
inductive Layout
  | line (item : String) (key : String)
  | lines (indent : Nat)

/-- How a value is written. -/
structure Style where
  /-- Whether every character beyond printable ASCII is escaped. -/
  asciiOnly : Bool
  layout : Layout

/-- One line without spaces, in ASCII. -/
def Style.compact : Style := ⟨true, .line "," ":"⟩

/-- One line with a space after each separator. -/
def Style.spaced : Style := ⟨false, .line ", " ": "⟩

/-- Several lines with an indent; a negative one is none. -/
def Style.indented (indent : Int) : Style := ⟨false, .lines indent.toNat⟩

/-- The escape of a unit. -/
def unitEscape (unit : Nat) : List Char := '\\' :: 'u' :: Text.hexDigits 4 unit

/-- A character inside a text. Characters beyond the first plane are escaped as a pair. -/
def writeChar (asciiOnly : Bool) (c : Char) : List Char :=
  let n := c.toNat
  if c = '"' then ['\\', '"']
  else if c = '\\' then ['\\', '\\']
  else if c = '\n' then ['\\', 'n']
  else if c = '\r' then ['\\', 'r']
  else if c = '\t' then ['\\', 't']
  else if n = 8 then ['\\', 'b']
  else if n = 12 then ['\\', 'f']
  else if n < 0x20 || (asciiOnly && 0x7E < n) then
    if n < 0x10000 then unitEscape n
    else unitEscape (0xD800 + (n - 0x10000) / 0x400) ++ unitEscape (0xDC00 + (n - 0x10000) % 0x400)
  else [c]

/-- A text in quotes. -/
def writeText (asciiOnly : Bool) (s : String) : String :=
  String.ofList ('"' :: s.toList.flatMap (writeChar asciiOnly) ++ ['"'])

/-- A line break and the indent of a level. -/
def lineBreak (indent level : Nat) : String :=
  String.ofList ('\n' :: List.replicate (indent * level) ' ')

/-- The parts of an array or an object between their brackets. -/
def Layout.enclose (layout : Layout) (opening closing : String) (level : Nat) (parts : List String) :
    String :=
  if parts.isEmpty then opening ++ closing
  else
    match layout with
    | .line item _ => opening ++ Text.joined item parts ++ closing
    | .lines indent =>
      opening ++ lineBreak indent (level + 1) ++
        Text.joined ("," ++ lineBreak indent (level + 1)) parts ++ lineBreak indent level ++ closing

/-- What stands between a key and its value. -/
def Layout.key : Layout → String
  | .line _ key => key
  | .lines _ => ": "

mutual

/-- A value at a level of nesting. -/
def writeAt (style : Style) (level : Nat) : Json → String
  | .null => "null"
  | .bool b => if b then "true" else "false"
  | .int n => String.ofList (Number.integerText n)
  | .real x => x.text Number.longSpelling
  | .text s => writeText style.asciiOnly s
  | .array items => style.layout.enclose "[" "]" level (writeItems style (level + 1) items)
  | .object members =>
    style.layout.enclose "\x7b" "\x7d" level (writeMembers style (level + 1) members)
termination_by structural json => json

def writeItems (style : Style) (level : Nat) : List Json → List String
  | [] => []
  | item :: rest => writeAt style level item :: writeItems style level rest
termination_by structural items => items

def writeMembers (style : Style) (level : Nat) : List (String × Json) → List String
  | [] => []
  | (key, value) :: rest =>
    (writeText style.asciiOnly key ++ style.layout.key ++ writeAt style level value) ::
      writeMembers style level rest
termination_by structural members => members

end

/-- A value in a style. -/
def write (style : Style) (json : Json) : String := writeAt style 0 json

end ResourceQuery.Json
