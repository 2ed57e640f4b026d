import ResourceQuery.Entries
import ResourceQuery.Number.Shortest

/-!
JSON values. Integers are exact and kept apart from floating point numbers, and an object keeps
its members in the order in which their keys first came.
-/
namespace ResourceQuery

/-- A JSON value. -/
inductive Json
  | null
  | bool (b : Bool)
  | int (n : Int)
  | real (x : Number.Binary64)
  | text (s : String)
  | array (items : List Json)
  | object (members : List (String × Json))
  deriving Inhabited

namespace Json

/-- What is wrong with a text that is no JSON. -/
inductive Cause
  | byteOrderMark
  | value
  | extraData
  | unterminatedText
  | controlCharacter
  | badEscape
  | badUnicodeEscape
  | propertyName
  | colon
  | comma
  deriving DecidableEq, Repr

/-- The wording of a cause. -/
def Cause.message : Cause → String
  | .byteOrderMark => "Unexpected UTF-8 BOM (decode using utf-8-sig)"
  | .value => "Expecting value"
  | .extraData => "Extra data"
  | .unterminatedText => "Unterminated string starting at"
  | .controlCharacter => "Invalid control character at"
  | .badEscape => "Invalid \\escape"
  | .badUnicodeEscape => "Invalid \\uXXXX escape"
  | .propertyName => "Expecting property name enclosed in double quotes"
  | .colon => "Expecting ':' delimiter"
  | .comma => "Expecting ',' delimiter"

/-- Why a text is not read: it is malformed at a position, or an integer has too many digits. -/
inductive Fault
  | malformed (cause : Cause) (position : Nat)
  | digitLimit (count : Nat)
  deriving DecidableEq, Repr

end Json
end ResourceQuery
