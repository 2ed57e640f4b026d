/-!
UTF-8. `Utf8.decode` reads octets that may be ill formed: every maximal part of an ill-formed
sequence is read as one replacement character. It also lets characters through that stand between
the octets; such a character ends a sequence, as the end of the text does.
-/
namespace ResourceQuery.Text.Utf8

/-- What stands for octets that encode no character. -/
def replacement : Char := '\uFFFD'

/-- A character, or an octet of the encoding of one. -/
inductive Piece
  | octet (value : Nat)
  | char (c : Char)

/-- A sequence that waits for `missing` more octets, the next of them between `low` and `high`;
`bits` is what the octets so far encode. -/
structure Pending where
  missing : Nat
  low : Nat
  high : Nat
  bits : Nat

/-- What an octet at the start of a sequence gives: a whole character, or a sequence to go on
with. -/
def start (octet : Nat) : Char ⊕ Pending :=
  if octet < 0x80 then .inl (Char.ofNat octet)
  else if octet < 0xC2 then .inl replacement
  else if octet < 0xE0 then .inr ⟨1, 0x80, 0xBF, octet - 0xC0⟩
  else if octet = 0xE0 then .inr ⟨2, 0xA0, 0xBF, 0⟩
  else if octet = 0xED then .inr ⟨2, 0x80, 0x9F, 0xD⟩
  else if octet < 0xF0 then .inr ⟨2, 0x80, 0xBF, octet - 0xE0⟩
  else if octet = 0xF0 then .inr ⟨3, 0x90, 0xBF, 0⟩
  else if octet < 0xF4 then .inr ⟨3, 0x80, 0xBF, octet - 0xF0⟩
  else if octet = 0xF4 then .inr ⟨3, 0x80, 0x8F, 4⟩
  else .inl replacement

/-- What the next octet of a sequence gives, or nothing when it cannot go on the sequence. -/
def Pending.next? (pending : Pending) (octet : Nat) : Option (Char ⊕ Pending) :=
  if pending.low ≤ octet ∧ octet ≤ pending.high then
    let bits := pending.bits * 64 + (octet - 0x80)
    if pending.missing = 1 then some (.inl (Char.ofNat bits))
    else some (.inr ⟨pending.missing - 1, 0x80, 0xBF, bits⟩)
  else none

/-- Read pieces after the octets of an unfinished sequence, if there is one. -/
def decodeFrom : Option Pending → List Piece → List Char
  | none, [] => []
  | some _, [] => [replacement]
  | none, .char c :: rest => c :: decodeFrom none rest
  | some _, .char c :: rest => replacement :: c :: decodeFrom none rest
  | none, .octet octet :: rest =>
    match start octet with
    | .inl c => c :: decodeFrom none rest
    | .inr pending => decodeFrom (some pending) rest
  | some pending, .octet octet :: rest =>
    match pending.next? octet with
    | some (.inl c) => c :: decodeFrom none rest
    | some (.inr longer) => decodeFrom (some longer) rest
    | none =>
      match start octet with
      | .inl c => replacement :: c :: decodeFrom none rest
      | .inr fresh => replacement :: decodeFrom (some fresh) rest

/-- The characters that the pieces stand for. -/
def decode (pieces : List Piece) : List Char := decodeFrom none pieces

/-- The octets of a character. -/
def encode (c : Char) : List Nat :=
  let n := c.toNat
  if n < 0x80 then [n]
  else if n < 0x800 then [0xC0 + n / 0x40, 0x80 + n % 0x40]
  else if n < 0x10000 then [0xE0 + n / 0x1000, 0x80 + n / 0x40 % 0x40, 0x80 + n % 0x40]
  else [0xF0 + n / 0x40000, 0x80 + n / 0x1000 % 0x40, 0x80 + n / 0x40 % 0x40, 0x80 + n % 0x40]

end ResourceQuery.Text.Utf8
