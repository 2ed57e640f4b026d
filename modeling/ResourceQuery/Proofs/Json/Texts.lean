import Mathlib.Tactic.SplitIfs
import ResourceQuery.Json.Reader
import ResourceQuery.Json.Writer
import ResourceQuery.Proofs.Text.Percent

/-!
Texts in JSON read back. The code units of a text determine it, although a unit that is half of a
pair stands for no character (`joinUnits_unitsOf`); every written character is read as its units, and
so a written text is read as the text (`textBody_written`).
-/
namespace ResourceQuery.Json

/-- The units that a written character is read as: where all but ASCII is escaped, one beyond the first
plane is a pair. -/
def charUnits (asciiOnly : Bool) (c : Char) : List Nat :=
  if asciiOnly && 0x10000 ≤ c.toNat then
    [0xD800 + (c.toNat - 0x10000) / 0x400, 0xDC00 + (c.toNat - 0x10000) % 0x400]
  else [c.toNat]

/-- The units that a written text is read as. -/
def unitsOf (asciiOnly : Bool) (text : List Char) : List Nat := text.flatMap (charUnits asciiOnly)

theorem joinUnits_single (c : Char) (rest : List Nat) : joinUnits (c.toNat :: rest) = c :: joinUnits rest := by
  have range := Text.Utf8.toNat_range c
  have high : joinUnits.isHigh c.toNat = false := by
    simp [joinUnits.isHigh]
    omega
  have low : joinUnits.isLow c.toNat = false := by
    simp [joinUnits.isLow]
    omega
  have char : joinUnits.unitChar c.toNat = c := by
    simp [joinUnits.unitChar, high, low]
  cases rest with
  | nil => simp [joinUnits, char]
  | cons next rest => simp [joinUnits, high, char]

theorem joinUnits_pair {c : Char} (wide : 0x10000 ≤ c.toNat) (rest : List Nat) :
    joinUnits ((0xD800 + (c.toNat - 0x10000) / 0x400) :: (0xDC00 + (c.toNat - 0x10000) % 0x400) :: rest) =
      c :: joinUnits rest := by
  have range := Text.Utf8.toNat_range c
  have high : joinUnits.isHigh (0xD800 + (c.toNat - 0x10000) / 0x400) = true := by
    simp [joinUnits.isHigh]
    omega
  have low : joinUnits.isLow (0xDC00 + (c.toNat - 0x10000) % 0x400) = true := by
    simp [joinUnits.isLow]
    omega
  have code : 0x10000 + (0xD800 + (c.toNat - 0x10000) / 0x400 - 0xD800) * 0x400 +
      (0xDC00 + (c.toNat - 0x10000) % 0x400 - 0xDC00) = c.toNat := by omega
  rw [joinUnits, high, low, if_pos (by rfl), code, Char.ofNat_toNat]

theorem joinUnits_charUnits (asciiOnly : Bool) (c : Char) (rest : List Nat) :
    joinUnits (charUnits asciiOnly c ++ rest) = c :: joinUnits rest := by
  unfold charUnits
  split
  · rename_i wide
    rw [Bool.and_eq_true, decide_eq_true_eq] at wide
    exact joinUnits_pair wide.2 rest
  · exact joinUnits_single c rest

/-- The units of a text are joined to the text. -/
theorem joinUnits_unitsOf (asciiOnly : Bool) (text : List Char) : joinUnits (unitsOf asciiOnly text) = text := by
  induction text with
  | nil => rfl
  | cons c text ih => rw [unitsOf, List.flatMap_cons, joinUnits_charUnits, ← unitsOf, ih]

theorem hexValue?_hexDigit : ∀ {n : Nat}, n < 16 → Text.hexValue? (Text.hexDigit n) = some n := by decide

theorem fourHex?_hexDigits {n : Nat} (fits : n < 0x10000) :
    ∃ a b c d, Text.hexDigits 4 n = [a, b, c, d] ∧ fourHex? a b c d = some n := by
  refine ⟨_, _, _, _, rfl, ?_⟩
  have first := @hexValue?_hexDigit (n / 16 / 16 / 16 % 16) (by omega)
  have second := @hexValue?_hexDigit (n / 16 / 16 % 16) (by omega)
  have third := @hexValue?_hexDigit (n / 16 % 16) (by omega)
  have fourth := @hexValue?_hexDigit (n % 16) (by omega)
  have code : ((n / 16 / 16 / 16 % 16 * 16 + n / 16 / 16 % 16) * 16 + n / 16 % 16) * 16 + n % 16 = n := by omega
  simp only [fourHex?, first, second, third, fourth, Option.bind_eq_bind, Option.bind_some, Option.pure_def, code]

theorem textUnits_unitEscape (start : Nat) {unit : Nat} (fits : unit < 0x10000) {rest : List Char} (more : rest ≠ []) :
    textUnits start (unitEscape unit ++ rest) = consUnit unit (textUnits start rest) := by
  obtain ⟨a, b, c, d, digits, value⟩ := fourHex?_hexDigits fits
  rw [unitEscape, digits]
  show textUnits start ('\\' :: 'u' :: a :: b :: c :: d :: rest) = _
  rw [textUnits]
  simp [value, more]

theorem textUnits_escape (start : Nat) {c : Char} {code : Nat} (known : escapeCode? c = some code) (other : c ≠ 'u')
    (rest : List Char) : textUnits start ('\\' :: c :: rest) = consUnit code (textUnits start rest) := by
  rw [textUnits]
  · simp [known]
  all_goals simp [other]

theorem textUnits_plain (start : Nat) {c : Char} (noQuote : c ≠ '"') (noEscape : c ≠ '\\') (visible : 0x20 ≤ c.toNat)
    (rest : List Char) : textUnits start (c :: rest) = consUnit c.toNat (textUnits start rest) := by
  have shown : ¬ c.toNat < 0x20 := by omega
  rw [textUnits]
  · simp [shown]
  all_goals simp [noQuote, noEscape]

/-- Escaped units are read in front of those that follow. -/
theorem textUnits_unitEscapes (start : Nat) {units : List Nat} (fit : ∀ unit ∈ units, unit < 0x10000) {rest : List Char}
    (more : rest ≠ []) :
    textUnits start (units.flatMap unitEscape ++ rest) =
      (textUnits start rest).map fun (later, left) => (units ++ later, left) := by
  induction units with
  | nil =>
    rw [List.flatMap_nil, List.nil_append]
    cases textUnits start rest <;> rfl
  | cons unit units ih =>
    rw [List.forall_mem_cons] at fit
    have later : units.flatMap unitEscape ++ rest ≠ [] := by simp [more]
    rw [List.flatMap_cons, List.append_assoc, textUnits_unitEscape start fit.1 later, ih fit.2]
    cases textUnits start rest <;> rfl

theorem charUnits_narrow {asciiOnly : Bool} {c : Char} (narrow : asciiOnly = true → c.toNat < 0x10000) :
    charUnits asciiOnly c = [c.toNat] := by
  cases asciiOnly with
  | false => rfl
  | true => simp [charUnits, narrow rfl]

/-- A character is written behind a backslash as a letter, as the escapes of its units, or as it is. -/
theorem writeChar_cases (asciiOnly : Bool) (c : Char) :
    (∃ letter, writeChar asciiOnly c = ['\\', letter] ∧ letter ≠ 'u' ∧ escapeCode? letter = some c.toNat ∧
      charUnits asciiOnly c = [c.toNat]) ∨
    (writeChar asciiOnly c = (charUnits asciiOnly c).flatMap unitEscape ∧
      ∀ unit ∈ charUnits asciiOnly c, unit < 0x10000) ∨
    (writeChar asciiOnly c = [c] ∧ c ≠ '"' ∧ c ≠ '\\' ∧ 0x20 ≤ c.toNat ∧ charUnits asciiOnly c = [c.toNat]) := by
  have letter : ∀ {letter : Char} {code : Nat}, letter ≠ 'u' → escapeCode? letter = some code → c.toNat = code →
      code < 0x10000 → ∃ other, ['\\', letter] = ['\\', other] ∧ other ≠ 'u' ∧ escapeCode? other = some c.toNat ∧
        charUnits asciiOnly c = [c.toNat] := by
    rintro letter code other known rfl fits
    exact ⟨letter, rfl, other, known, charUnits_narrow fun _ => fits⟩
  simp only [writeChar]
  split_ifs with quote escape newline carriage tab backspace feed hidden narrow
  · exact .inl (letter (by decide) rfl (congrArg Char.toNat quote) (by decide))
  · exact .inl (letter (by decide) rfl (congrArg Char.toNat escape) (by decide))
  · exact .inl (letter (by decide) rfl (congrArg Char.toNat newline) (by decide))
  · exact .inl (letter (by decide) rfl (congrArg Char.toNat carriage) (by decide))
  · exact .inl (letter (by decide) rfl (congrArg Char.toNat tab) (by decide))
  · exact .inl (letter (by decide) rfl backspace (by decide))
  · exact .inl (letter (by decide) rfl feed (by decide))
  · rw [charUnits_narrow fun _ => narrow]
    exact .inr (.inl ⟨by simp, by simpa using narrow⟩)
  · have range := Text.Utf8.toNat_range c
    have ascii : asciiOnly = true := by
      simp only [Bool.or_eq_true, Bool.and_eq_true, decide_eq_true_eq] at hidden
      rcases hidden with control | ⟨ascii, _⟩
      · omega
      · exact ascii
    have pair : charUnits asciiOnly c =
        [0xD800 + (c.toNat - 0x10000) / 0x400, 0xDC00 + (c.toNat - 0x10000) % 0x400] := by
      simp [charUnits, ascii, Nat.not_lt.mp narrow]
    rw [pair]
    refine .inr (.inl ⟨by simp, fun unit member => ?_⟩)
    simp only [List.mem_cons, List.not_mem_nil, or_false] at member
    omega
  · simp only [Bool.or_eq_true, Bool.and_eq_true, decide_eq_true_eq, not_or, not_and] at hidden
    refine .inr (.inr ⟨rfl, quote, escape, by omega, charUnits_narrow fun ascii => ?_⟩)
    have printable := hidden.2 ascii
    omega

/-- A written character is read as its units. -/
theorem textUnits_writeChar (asciiOnly : Bool) (start : Nat) (c : Char) {rest : List Char} (more : rest ≠ []) :
    textUnits start (writeChar asciiOnly c ++ rest) =
      (textUnits start rest).map fun (units, left) => (charUnits asciiOnly c ++ units, left) := by
  obtain ⟨letter, written, other, known, units⟩ | ⟨written, fit⟩ | ⟨written, noQuote, noEscape, visible, units⟩ :=
    writeChar_cases asciiOnly c
  · rw [written, units]
    exact textUnits_escape start known other rest
  · rw [written]
    exact textUnits_unitEscapes start fit more
  · rw [written, units]
    exact textUnits_plain start noQuote noEscape visible rest

/-- A written text is read as its units. -/
theorem textUnits_written (asciiOnly : Bool) (start : Nat) (text rest : List Char) :
    textUnits start (text.flatMap (writeChar asciiOnly) ++ '"' :: rest) = .ok (unitsOf asciiOnly text, rest) := by
  induction text with
  | nil => rw [List.flatMap_nil, List.nil_append, textUnits]; rfl
  | cons c text ih =>
    rw [List.flatMap_cons, List.append_assoc, textUnits_writeChar asciiOnly start c (by simp), ih]
    rfl

/-- **A written text is read as the text.** -/
theorem textBody_written (asciiOnly : Bool) (start : Nat) (s : String) (rest : List Char) :
    textBody start (s.toList.flatMap (writeChar asciiOnly) ++ '"' :: rest) = .ok (s, rest) := by
  simp only [textBody, textUnits_written, bind, Except.bind, pure, Except.pure, joinUnits_unitsOf, String.ofList_toList]

end ResourceQuery.Json
