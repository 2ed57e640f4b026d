import ResourceQuery.Text.Percent

/-!
Percent escapes read back. The octets of a character are read as that character
(`Utf8.decodeFrom_encode`), and so an encoded text is decoded to the text (`Percent.decode_encode`),
as long as the characters that are let through are ASCII and no percent signs.
-/
namespace ResourceQuery.Text

namespace Utf8

theorem encode_two {c : Char} (low : 0x80 ≤ c.toNat) (high : c.toNat < 0x800) :
    encode c = [0xC0 + c.toNat / 0x40, 0x80 + c.toNat % 0x40] := by
  simp only [encode]
  rw [if_neg (by omega), if_pos high]

theorem encode_three {c : Char} (low : 0x800 ≤ c.toNat) (high : c.toNat < 0x10000) :
    encode c = [0xE0 + c.toNat / 0x1000, 0x80 + c.toNat / 0x40 % 0x40, 0x80 + c.toNat % 0x40] := by
  simp only [encode]
  rw [if_neg (by omega), if_neg (by omega), if_pos high]

theorem encode_four {c : Char} (low : 0x10000 ≤ c.toNat) :
    encode c = [0xF0 + c.toNat / 0x40000, 0x80 + c.toNat / 0x1000 % 0x40, 0x80 + c.toNat / 0x40 % 0x40,
      0x80 + c.toNat % 0x40] := by
  simp only [encode]
  rw [if_neg (by omega), if_neg (by omega), if_neg (by omega)]

/-- A code point is below the surrogates or above them. -/
theorem toNat_range (c : Char) : c.toNat < 0xD800 ∨ (0xE000 ≤ c.toNat ∧ c.toNat < 0x110000) := by
  have valid := c.valid
  simp only [UInt32.isValidChar, Nat.isValidChar] at valid
  show c.val.toNat < 0xD800 ∨ (0xE000 ≤ c.val.toNat ∧ c.val.toNat < 0x110000)
  omega

/-- The last octet of a sequence gives the character. -/
theorem next?_last {low high bits octet : Nat} (least : low ≤ octet) (most : octet ≤ high) {c : Char}
    (whole : bits * 64 + (octet - 0x80) = c.toNat) :
    Pending.next? ⟨1, low, high, bits⟩ octet = some (.inl c) := by
  simp [Pending.next?, least, most, whole]

/-- An octet before the last one of a sequence adds its bits. -/
theorem next?_more {missing low high bits octet : Nat} (least : low ≤ octet) (most : octet ≤ high) :
    Pending.next? ⟨missing + 2, low, high, bits⟩ octet =
      some (.inr ⟨missing + 1, 0x80, 0xBF, bits * 64 + (octet - 0x80)⟩) := by
  simp [Pending.next?, least, most]

theorem start_two {octet : Nat} (low : 0xC2 ≤ octet) (high : octet < 0xE0) :
    start octet = .inr ⟨1, 0x80, 0xBF, octet - 0xC0⟩ := by
  rw [start, if_neg (by omega), if_neg (by omega), if_pos high]

/-- The second octet of a sequence of three: it keeps overlong forms and surrogates out. -/
theorem start_three {octet : Nat} (low : 0xE0 ≤ octet) (high : octet < 0xF0) :
    ∃ least most, start octet = .inr ⟨2, least, most, octet - 0xE0⟩ ∧
      (least = if octet = 0xE0 then 0xA0 else 0x80) ∧ most = if octet = 0xED then 0x9F else 0xBF := by
  unfold start
  rw [if_neg (by omega), if_neg (by omega), if_neg (by omega)]
  by_cases first : octet = 0xE0
  · exact ⟨0xA0, 0xBF, by simp [first], by simp [first], by simp [first]⟩
  · by_cases surrogate : octet = 0xED
    · exact ⟨0x80, 0x9F, by simp [surrogate], by simp [surrogate], by simp [surrogate]⟩
    · exact ⟨0x80, 0xBF, by simp [first, surrogate, high], by simp [first], by simp [surrogate]⟩

/-- The second octet of a sequence of four: it keeps overlong forms and what lies beyond the last
code point out. -/
theorem start_four {octet : Nat} (low : 0xF0 ≤ octet) (high : octet ≤ 0xF4) :
    ∃ least most, start octet = .inr ⟨3, least, most, octet - 0xF0⟩ ∧
      (least = if octet = 0xF0 then 0x90 else 0x80) ∧ most = if octet = 0xF4 then 0x8F else 0xBF := by
  obtain rfl | rfl | rfl | rfl | rfl : octet = 0xF0 ∨ octet = 0xF1 ∨ octet = 0xF2 ∨ octet = 0xF3 ∨ octet = 0xF4 := by
    omega
  all_goals exact ⟨_, _, rfl, rfl, rfl⟩

/-- The octets of a character are read as the character. -/
theorem decodeFrom_encode (c : Char) (rest : List Piece) :
    decodeFrom none ((encode c).map Piece.octet ++ rest) = c :: decodeFrom none rest := by
  have range := toNat_range c
  by_cases one : c.toNat < 0x80
  · simp [encode, one, decodeFrom, start]
  by_cases two : c.toNat < 0x800
  · rw [encode_two (by omega) two]
    have last := @next?_last 0x80 0xBF (0xC0 + c.toNat / 0x40 - 0xC0) (0x80 + c.toNat % 0x40) (by omega) (by omega) c
      (by omega)
    simp only [List.map_cons, List.map_nil, List.cons_append, List.nil_append, decodeFrom,
      start_two (show 0xC2 ≤ 0xC0 + c.toNat / 0x40 by omega) (by omega), last]
  by_cases three : c.toNat < 0x10000
  · rw [encode_three (by omega) three]
    obtain ⟨least, most, first, lower, upper⟩ :=
      start_three (show 0xE0 ≤ 0xE0 + c.toNat / 0x1000 by omega) (by omega)
    have second := @next?_more 0 least most (0xE0 + c.toNat / 0x1000 - 0xE0) (0x80 + c.toNat / 0x40 % 0x40)
      (by split at lower <;> omega) (by split at upper <;> omega)
    have last := @next?_last 0x80 0xBF ((0xE0 + c.toNat / 0x1000 - 0xE0) * 64 + (0x80 + c.toNat / 0x40 % 0x40 - 0x80))
      (0x80 + c.toNat % 0x40) (by omega) (by omega) c (by omega)
    simp only [List.map_cons, List.map_nil, List.cons_append, List.nil_append, decodeFrom, first, second, last]
  · rw [encode_four (by omega)]
    obtain ⟨least, most, first, lower, upper⟩ :=
      start_four (show 0xF0 ≤ 0xF0 + c.toNat / 0x40000 by omega) (by omega)
    have second := @next?_more 1 least most (0xF0 + c.toNat / 0x40000 - 0xF0) (0x80 + c.toNat / 0x1000 % 0x40)
      (by split at lower <;> omega) (by split at upper <;> omega)
    have third := @next?_more 0 0x80 0xBF
      ((0xF0 + c.toNat / 0x40000 - 0xF0) * 64 + (0x80 + c.toNat / 0x1000 % 0x40 - 0x80))
      (0x80 + c.toNat / 0x40 % 0x40) (by omega) (by omega)
    have last := @next?_last 0x80 0xBF
      (((0xF0 + c.toNat / 0x40000 - 0xF0) * 64 + (0x80 + c.toNat / 0x1000 % 0x40 - 0x80)) * 64 +
        (0x80 + c.toNat / 0x40 % 0x40 - 0x80))
      (0x80 + c.toNat % 0x40) (by omega) (by omega) c (by omega)
    simp only [List.map_cons, List.map_nil, List.cons_append, List.nil_append, decodeFrom, first, second, third, last]

theorem decode_encode (text : List Char) : decode ((text.flatMap encode).map Piece.octet) = text := by
  induction text with
  | nil => rfl
  | cons c text ih =>
    rw [decode, List.flatMap_cons, List.map_append, decodeFrom_encode]
    exact congrArg (c :: ·) ih

/-- An octet of a character is the character itself, if that is ASCII, or none that an ASCII character has. -/
theorem octet_of_mem_encode {c : Char} {octet : Nat} (member : octet ∈ encode c) :
    octet < 256 ∧ (octet = c.toNat ∨ 0x80 ≤ octet) := by
  have range := toNat_range c
  by_cases one : c.toNat < 0x80
  · simp only [encode, if_pos one, List.mem_singleton] at member
    omega
  by_cases two : c.toNat < 0x800
  · simp only [encode_two (by omega) two, List.mem_cons, List.not_mem_nil, or_false] at member
    omega
  by_cases three : c.toNat < 0x10000
  · simp only [encode_three (by omega) three, List.mem_cons, List.not_mem_nil, or_false] at member
    omega
  · simp only [encode_four (Nat.not_lt.mp three), List.mem_cons, List.not_mem_nil, or_false] at member
    omega

theorem encode_lt {c : Char} {octet : Nat} (member : octet ∈ encode c) : octet < 256 :=
  (octet_of_mem_encode member).1

end Utf8

namespace Percent

theorem hexValue?_hexDigit : ∀ {n : Nat}, n < 16 → hexValue? (hexDigit n) = some n := by decide

theorem pieces_escape {octet : Nat} (small : octet < 256) (rest : List Char) :
    pieces (escape octet ++ rest) = .octet octet :: pieces rest := by
  have high := hexValue?_hexDigit (show octet / 16 < 16 by omega)
  have low := hexValue?_hexDigit (show octet % 16 < 16 by omega)
  have whole : 16 * (octet / 16) + octet % 16 = octet := by omega
  simp [escape, pieces, high, low, whole]

theorem pieces_ascii {c : Char} (ascii : c.toNat < 0x80) (noPercent : c ≠ '%') (rest : List Char) :
    pieces (c :: rest) = .octet c.toNat :: pieces rest := by
  rw [pieces.eq_def]
  split
  · rename_i same
    exact absurd (List.cons.inj same).1 noPercent
  · rename_i other tail _ same
    obtain ⟨rfl, rfl⟩ := List.cons.inj same
    simp [ascii]
  · rename_i same
    cases same

theorem pieces_escapes {octets : List Nat} (small : ∀ octet ∈ octets, octet < 256) (rest : List Char) :
    pieces (octets.flatMap escape ++ rest) = octets.map .octet ++ pieces rest := by
  induction octets with
  | nil => rfl
  | cons octet octets ih =>
    rw [List.flatMap_cons, List.append_assoc, pieces_escape (small octet List.mem_cons_self),
      ih fun other member => small other (List.mem_cons_of_mem _ member)]
    rfl

theorem pieces_encode {safe : Char → Bool} (ascii : ∀ c, safe c → c.toNat < 0x80 ∧ c ≠ '%') (text : List Char) :
    pieces (encode safe text) = (text.flatMap Utf8.encode).map .octet := by
  induction text with
  | nil => rfl
  | cons c text ih =>
    have cons : encode safe (c :: text) =
        (if safe c then [c] else (Utf8.encode c).flatMap escape) ++ encode safe text := List.flatMap_cons
    rw [cons, List.flatMap_cons, List.map_append]
    by_cases through : safe c
    · obtain ⟨small, noPercent⟩ := ascii c through
      rw [if_pos through, List.singleton_append, pieces_ascii small noPercent, ih]
      simp [Utf8.encode, small]
    · rw [if_neg through, pieces_escapes fun _ => Utf8.encode_lt, ih]

/-- An encoded text is decoded to the text. -/
theorem decode_encode {safe : Char → Bool} (ascii : ∀ c, safe c → c.toNat < 0x80 ∧ c ≠ '%') (text : List Char) :
    decode (encode safe text) = text := by
  rw [decode, pieces_encode ascii, Utf8.decode_encode]

end Percent
end ResourceQuery.Text
