import ResourceQuery.Text.Classes
import ResourceQuery.Text.Utf8

/-!
Percent encoding: an octet is written as `%` and two hexadecimal digits. `Percent.encode` writes
the octets of every character that is not let through; `Percent.decode` reads every well-formed
escape, keeps a `%` that starts none, and takes the octets as UTF-8.
-/
namespace ResourceQuery.Text.Percent

/-- A hexadecimal digit in upper case. -/
def hexDigit (n : Nat) : Char := if n < 10 then Char.ofNat (48 + n) else Char.ofNat (55 + n)

/-- The escape of an octet. -/
def escape (octet : Nat) : List Char := ['%', hexDigit (octet / 16), hexDigit (octet % 16)]

/-- The characters that need no escape anywhere in a URL: ASCII letters and digits and `_.-~`. -/
def isUnreserved (c : Char) : Bool :=
  c.isAlphanum || c == '_' || c == '.' || c == '-' || c == '~'

/-- The text with every character escaped that is not safe. -/
def encode (safe : Char → Bool) (text : List Char) : List Char :=
  text.flatMap fun c => if safe c then [c] else (Utf8.encode c).flatMap escape

/-- The octets of the escapes and of ASCII characters; other characters stay as they are. -/
def pieces : List Char → List Utf8.Piece
  | '%' :: high :: low :: rest =>
    match hexValue? high, hexValue? low with
    | some h, some l => .octet (16 * h + l) :: pieces rest
    | _, _ => .octet 0x25 :: pieces (high :: low :: rest)
  | c :: rest => (if c.toNat < 0x80 then .octet c.toNat else .char c) :: pieces rest
  | [] => []

/-- The text that an escaped text stands for. -/
def decode (text : List Char) : List Char := Utf8.decode (pieces text)

end ResourceQuery.Text.Percent
