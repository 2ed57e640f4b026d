import ResourceQuery.Literal.Printer
import ResourceQuery.Proofs.Query.Arguments
import ResourceQuery.Proofs.Query.Shorthand
import ResourceQuery.Proofs.Text.Percent
import ResourceQuery.Query.Parser

/-!
Inert texts: those that no reader of queries takes apart. They hold no separators, parentheses,
quotes, blanks or comparators, and the escapes of `<` and `>` stand behind a backslash. Escaped
texts are inert (`inert_escape`), and without the backslashes they are percent-encoded
(`unquote_escape`).
-/
namespace ResourceQuery.Literal

/-- The characters of inert texts besides those of escapes. -/
def isPlain (c : Char) : Bool := Text.Percent.isUnreserved c || c = ':' || c = '+'

/-- Texts of plain characters, of escapes that stand for no comparator, and of escapes of `<` and
`>` behind a backslash. -/
inductive Inert : List Char → Prop
  | nil : Inert []
  | plain {c : Char} {rest : List Char} (through : isPlain c = true) (tail : Inert rest) : Inert (c :: rest)
  | octet {high low : Char} {rest : List Char} (first : isPlain high = true) (second : isPlain low = true)
      (noForm : Shorthand.startsForm ['%', high, low] = false) (tail : Inert rest) :
      Inert ('%' :: high :: low :: rest)
  | angle {last : Char} {rest : List Char} (letter : last = 'C' ∨ last = 'E') (tail : Inert rest) :
      Inert ('\\' :: '%' :: '3' :: last :: rest)

theorem Inert.append {first second : List Char} (left : Inert first) (right : Inert second) :
    Inert (first ++ second) := by
  induction left with
  | nil => exact right
  | plain through _ ih => exact .plain through ih
  | octet first second noForm _ ih => exact .octet first second noForm ih
  | angle letter _ ih => exact .angle letter ih

theorem Inert.ofPlain {text : List Char} (plain : ∀ c ∈ text, isPlain c = true) : Inert text := by
  induction text with
  | nil => exact .nil
  | cons c text ih =>
    rw [List.forall_mem_cons] at plain
    exact .plain plain.1 (ih plain.2)

/-- In front of a backslash, a text that starts with another character starts with this character. -/
theorem split_behind {c : Char} (other : c ≠ '\\') {rest before after : List Char} (split : c :: rest = before ++ '\\' :: after) :
    ∃ more, rest = more ++ '\\' :: after := by
  cases before with
  | nil => exact absurd (List.cons.inj split).1 other
  | cons first more => exact ⟨more, (List.cons.inj split).2⟩

/-- Behind each backslash of an inert text stands the escape of `<` or `>`. -/
theorem Inert.angle_behind {text : List Char} (inert : Inert text) {before after : List Char}
    (split : text = before ++ '\\' :: after) :
    ∃ letter rest, (letter = 'C' ∨ letter = 'E') ∧ after = '%' :: '3' :: letter :: rest := by
  have noEscape : ∀ {c : Char}, isPlain c = true → c ≠ '\\' := fun through => Text.ne_of_class through (by decide)
  induction inert generalizing before with
  | nil => simp at split
  | plain through _ ih =>
    obtain ⟨_, later⟩ := split_behind (noEscape through) split
    exact ih later
  | octet first second _ _ ih =>
    obtain ⟨_, digits⟩ := split_behind (by decide) split
    obtain ⟨_, digit⟩ := split_behind (noEscape first) digits
    obtain ⟨_, later⟩ := split_behind (noEscape second) digit
    exact ih later
  | @angle last rest letter _ ih =>
    cases before with
    | nil =>
      cases split
      exact ⟨last, rest, letter, rfl⟩
    | cons first before =>
      have through : isPlain last = true := by rcases letter with rfl | rfl <;> decide
      obtain ⟨_, digits⟩ := split_behind (by decide) (List.cons.inj split).2
      obtain ⟨_, digit⟩ := split_behind (by decide) digits
      obtain ⟨_, later⟩ := split_behind (noEscape through) digit
      exact ih later

theorem isQuote_of_isPlain {c : Char} (through : isPlain c = true) : Group.isQuote c = false := by
  have single : c ≠ '\'' := Text.ne_of_class through (by decide)
  have double : c ≠ '"' := Text.ne_of_class through (by decide)
  simp [Group.isQuote, single, double]

theorem Inert.isPlain_or {text : List Char} (inert : Inert text) {c : Char} (member : c ∈ text) :
    isPlain c = true ∨ c = '%' ∨ c = '\\' := by
  induction inert with
  | nil => cases member
  | plain through _ ih =>
    rcases List.mem_cons.mp member with rfl | member
    · exact .inl through
    · exact ih member
  | octet first second noForm _ ih =>
    simp only [List.mem_cons] at member
    rcases member with rfl | rfl | rfl | member
    · exact .inr (.inl rfl)
    · exact .inl first
    · exact .inl second
    · exact ih member
  | angle letter _ ih =>
    simp only [List.mem_cons] at member
    rcases member with rfl | rfl | rfl | rfl | member
    · exact .inr (.inr rfl)
    · exact .inr (.inl rfl)
    · exact .inl (by decide)
    · rcases letter with rfl | rfl <;> exact .inl (by decide)
    · exact ih member

theorem Inert.notMem {text : List Char} (inert : Inert text) {c : Char}
    (outside : isPlain c = false ∧ c ≠ '%' ∧ c ≠ '\\') : c ∉ text := by
  intro member
  obtain ⟨noPlain, noPercent, noEscape⟩ := outside
  rcases inert.isPlain_or member with through | percent | escape
  · rw [noPlain] at through
    cases through
  · exact noPercent percent
  · exact noEscape escape

theorem Inert.settled {text : List Char} (inert : Inert text) : Shorthand.Settled text := by
  intro c member
  rw [Bool.eq_false_iff]
  intro comparator
  simp only [Shorthand.isComparator, Bool.or_eq_true, decide_eq_true_eq] at comparator
  rcases comparator with (rfl | rfl) | rfl <;> exact inert.notMem (by decide) member

theorem Inert.balanced {text : List Char} (inert : Inert text) : Group.Balanced text := by
  have plainStep : ∀ {c : Char} {rest : List Char}, isPlain c = true → Group.Balanced rest →
      Group.Balanced (c :: rest) := fun through tail =>
    .plain (Text.ne_of_class through (by decide)) (isQuote_of_isPlain through) (Text.ne_of_class through (by decide))
      (Text.ne_of_class through (by decide)) tail
  induction inert with
  | nil => exact .nil
  | plain through _ ih => exact plainStep through ih
  | octet first second noForm _ ih =>
    exact .plain (by decide) (by decide) (by decide) (by decide) (plainStep first (plainStep second ih))
  | @angle last rest letter _ ih =>
    have through : isPlain last = true := by rcases letter with rfl | rfl <;> decide
    exact .escape '%' (plainStep (by decide) (plainStep through ih))

theorem isPlain_range {c : Char} (through : isPlain c = true) : 33 ≤ c.toNat ∧ c.toNat < 127 := by
  simp only [isPlain, Text.Percent.isUnreserved, Bool.or_eq_true, decide_eq_true_eq, beq_iff_eq] at through
  rcases through with (((((word | rfl) | rfl) | rfl) | rfl) | rfl) | rfl
  · have ranges : (decide ('A'.val ≤ c.val ∧ c.val ≤ 'Z'.val) || (decide ('a'.val ≤ c.val) && decide (c.val ≤ 'z'.val)) ||
        (decide ('0'.val ≤ c.val) && decide (c.val ≤ '9'.val))) = true := word
    simp only [Bool.or_eq_true, Bool.and_eq_true, decide_eq_true_eq, UInt32.le_iff_toNat_le] at ranges
    have value : c.val.toNat = c.toNat := rfl
    simp only [value] at ranges
    obtain (⟨low, high⟩ | ⟨low, high⟩) | ⟨low, high⟩ := ranges
    all_goals exact ⟨Nat.le_trans (by decide) low, Nat.lt_of_le_of_lt high (by decide)⟩
  all_goals decide

theorem Inert.isBlank {text : List Char} (inert : Inert text) {c : Char} (member : c ∈ text) :
    Text.isBlank c = false := by
  have range : 33 ≤ c.toNat ∧ c.toNat < 127 := by
    rcases inert.isPlain_or member with through | rfl | rfl
    · exact isPlain_range through
    all_goals decide
  simp [Text.isBlank]
  omega

theorem strip_eq_self {text : List Char} (solid : ∀ c ∈ text, Text.isBlank c = false) : Text.strip text = text := by
  have drop : ∀ part : List Char, (∀ c ∈ part, Text.isBlank c = false) → part.dropWhile Text.isBlank = part := by
    intro part each
    cases part with
    | nil => rfl
    | cons c rest => simp [each c List.mem_cons_self]
  rw [Text.strip, Text.stripStart, Text.stripEnd, drop text solid,
    drop _ fun c member => solid c (List.mem_reverse.mp member), List.reverse_reverse]

/-- An inert text can stand as an argument. -/
theorem Inert.isLeaf {text : List Char} (inert : Inert text) (some : text ≠ []) : Argument.IsLeaf text := by
  refine ⟨inert.balanced, ?_, strip_eq_self fun c => inert.isBlank, ?_⟩
  · intro comma
    exact inert.notMem (c := ',') (by decide) (Argument.mem_of_plain comma)
  · cases text with
    | nil => exact absurd rfl some
    | cons c rest =>
      refine ⟨c, rest, rfl, ?_, ?_⟩ <;> rintro rfl <;> exact inert.notMem (by decide) List.mem_cons_self

/-- An inert text is no call. -/
theorem Inert.startsCall {text : List Char} (inert : Inert text) : Query.startsCall text = false := by
  have none : (text.dropWhile Text.isWord).head? ≠ some '(' := by
    intro opened
    obtain ⟨rest, split⟩ := List.head?_eq_some_iff.mp opened
    have member : '(' ∈ text.dropWhile Text.isWord := by simp [split]
    exact inert.notMem (by decide) ((List.dropWhile_suffix _).subset member)
  simp [Query.startsCall, none]

/-- An inert text is left as it is by the expansion of comparisons. -/
theorem Inert.calm {text : List Char} (inert : Inert text) : Shorthand.Calm text := by
  refine ⟨inert.settled, fun rest escaped noForm => ?_⟩
  induction inert generalizing escaped with
  | nil => exact Shorthand.hasForm_of_false noForm escaped
  | @plain c tail through _ ih =>
    have noPercent : c ≠ '%' := Text.ne_of_class through (by decide)
    simp [Shorthand.hasForm, Shorthand.startsForm_of_ne, noPercent, ih]
  | @octet high low tail first second plain _ ih =>
    have here : Shorthand.startsForm ('%' :: high :: low :: (tail ++ rest)) = false :=
      (Shorthand.startsForm_escape high low _).trans plain
    have noPercent : high ≠ '%' ∧ low ≠ '%' :=
      ⟨Text.ne_of_class first (by decide), Text.ne_of_class second (by decide)⟩
    simp [Shorthand.hasForm, here, Shorthand.startsForm_of_ne, noPercent, ih]
  | @angle last tail letter _ ih =>
    have noPercent : last ≠ '%' := by rcases letter with rfl | rfl <;> decide
    simp [Shorthand.hasForm, Shorthand.startsForm_of_ne, noPercent, ih]

/-! ### Escaped texts -/

theorem isUnreserved_hexDigit : ∀ {n : Nat}, n < 16 →
    Text.Percent.isUnreserved (Text.Percent.hexDigit n) = true := by decide

theorem isPlain_unreserved {c : Char} (through : Text.Percent.isUnreserved c = true) : isPlain c = true := by
  simp [isPlain, through]

theorem isPlain_hexDigit {n : Nat} (small : n < 16) : isPlain (Text.Percent.hexDigit n) = true :=
  isPlain_unreserved (isUnreserved_hexDigit small)

theorem startsForm_digits : ∀ {high : Nat}, high < 16 → ∀ {low : Nat}, low < 16 →
    ¬(high = 3 ∧ (low = 12 ∨ low = 14)) →
    Shorthand.startsForm ['%', Text.Percent.hexDigit high, Text.Percent.hexDigit low] = false := by decide

theorem octet_noAngle {c : Char} (noAngle : c ≠ '<' ∧ c ≠ '>') {octet : Nat} (member : octet ∈ Text.Utf8.encode c) :
    octet ≠ 0x3C ∧ octet ≠ 0x3E := by
  have less : c.toNat ≠ 0x3C := fun same => noAngle.1 (Char.toNat_inj.mp same)
  have greater : c.toNat ≠ 0x3E := fun same => noAngle.2 (Char.toNat_inj.mp same)
  rcases (Text.Utf8.octet_of_mem_encode member).2 with rfl | high
  · exact ⟨less, greater⟩
  · omega

theorem inert_octets {octets : List Nat} (small : ∀ octet ∈ octets, octet < 256 ∧ octet ≠ 0x3C ∧ octet ≠ 0x3E) :
    Inert (octets.flatMap Text.Percent.escape) := by
  induction octets with
  | nil => exact .nil
  | cons octet octets ih =>
    rw [List.forall_mem_cons] at small
    obtain ⟨⟨byte, noAngle⟩, later⟩ := small
    rw [List.flatMap_cons]
    exact .octet (isPlain_hexDigit (by omega)) (isPlain_hexDigit (by omega))
      (startsForm_digits (by omega) (by omega) (by omega)) (ih later)

theorem escapeChar_angle {c : Char} (angle : c = '<' ∨ c = '>') :
    ∃ last, (last = 'C' ∨ last = 'E') ∧ escapeChar c = ['\\', '%', '3', last] ∧
      Text.Percent.encode Text.Percent.isUnreserved [c] = ['%', '3', last] := by
  rcases angle with rfl | rfl
  · exact ⟨'C', .inl rfl, rfl, rfl⟩
  · exact ⟨'E', .inr rfl, rfl, rfl⟩

theorem escapeChar_other {c : Char} (noAngle : c ≠ '<' ∧ c ≠ '>') :
    escapeChar c = Text.Percent.encode Text.Percent.isUnreserved [c] := by
  simp [escapeChar, noAngle.1, noAngle.2]

theorem inert_escapeChar (c : Char) : Inert (escapeChar c) := by
  by_cases angle : c = '<' ∨ c = '>'
  · obtain ⟨last, letter, whole, _⟩ := escapeChar_angle angle
    rw [whole]
    exact .angle letter .nil
  · have noAngle := not_or.mp angle
    rw [escapeChar_other noAngle, Text.Percent.encode, List.flatMap_singleton]
    by_cases through : Text.Percent.isUnreserved c = true
    · rw [if_pos through]
      exact .plain (isPlain_unreserved through) .nil
    · rw [if_neg through]
      exact inert_octets fun octet member => ⟨Text.Utf8.encode_lt member, octet_noAngle noAngle member⟩

/-- An escaped text is inert. -/
theorem inert_escape (text : List Char) : Inert (escape text) := by
  induction text with
  | nil => exact .nil
  | cons c text ih => exact (inert_escapeChar c).append ih

theorem unquote_plain {text : List Char} (plain : ∀ c ∈ text, isPlain c = true ∨ c = '%') (rest : List Char) :
    Argument.unquote (text ++ rest) = text ++ Argument.unquote rest := by
  induction text with
  | nil => rfl
  | cons c text ih =>
    rw [List.forall_mem_cons] at plain
    have noEscape : c ≠ '\\' := by
      rintro rfl
      exact absurd plain.1 (by decide)
    have noQuote : Group.isQuote c = false := by
      rcases plain.1 with through | rfl
      · exact isQuote_of_isPlain through
      · decide
    rw [List.cons_append, Argument.unquote, Argument.unquoteFrom.eq_def]
    simpa [noEscape, noQuote, Argument.unquote] using ih plain.2

/-- The characters of a percent-encoded text. -/
theorem encode_unreserved {text : List Char} {c : Char}
    (member : c ∈ Text.Percent.encode Text.Percent.isUnreserved text) : Text.Percent.isUnreserved c = true ∨ c = '%' := by
  obtain ⟨source, _, part⟩ := List.mem_flatMap.mp member
  by_cases through : Text.Percent.isUnreserved source = true
  · rw [if_pos through, List.mem_singleton] at part
    exact .inl (part ▸ through)
  · rw [if_neg through] at part
    obtain ⟨octet, byte, digit⟩ := List.mem_flatMap.mp part
    have small := Text.Utf8.encode_lt byte
    simp only [Text.Percent.escape, List.mem_cons, List.not_mem_nil, or_false] at digit
    rcases digit with rfl | rfl | rfl
    · exact .inr rfl
    · exact .inl (isUnreserved_hexDigit (by omega))
    · exact .inl (isUnreserved_hexDigit (by omega))

/-- The characters of an escaped text. -/
theorem escape_unreserved {text : List Char} {c : Char} (member : c ∈ escape text) :
    Text.Percent.isUnreserved c = true ∨ c = '%' ∨ c = '\\' := by
  obtain ⟨source, _, part⟩ := List.mem_flatMap.mp member
  by_cases angle : source = '<' ∨ source = '>'
  · obtain ⟨last, letter, whole, _⟩ := escapeChar_angle angle
    have each : ∀ c ∈ ['\\', '%', '3', last], Text.Percent.isUnreserved c = true ∨ c = '%' ∨ c = '\\' := by
      rcases letter with rfl | rfl <;> decide
    exact each c (whole ▸ part)
  · rw [escapeChar_other (not_or.mp angle)] at part
    exact (encode_unreserved part).imp_right .inl

theorem encode_plain {text : List Char} {c : Char}
    (member : c ∈ Text.Percent.encode Text.Percent.isUnreserved text) : isPlain c = true ∨ c = '%' :=
  (encode_unreserved member).imp_left isPlain_unreserved

/-- Without its backslashes an escaped text is percent-encoded. -/
theorem unquote_escape (text : List Char) :
    Argument.unquote (escape text) = Text.Percent.encode Text.Percent.isUnreserved text := by
  induction text with
  | nil => rfl
  | cons c text ih =>
    have split : Text.Percent.encode Text.Percent.isUnreserved (c :: text) =
        Text.Percent.encode Text.Percent.isUnreserved [c] ++ Text.Percent.encode Text.Percent.isUnreserved text := by
      simp [Text.Percent.encode]
    rw [escape, List.flatMap_cons, split]
    by_cases angle : c = '<' ∨ c = '>'
    · obtain ⟨last, letter, whole, encoded⟩ := escapeChar_angle angle
      have plain : ∀ d ∈ ['%', '3', last], isPlain d = true ∨ d = '%' := by
        rcases letter with rfl | rfl <;> decide
      have dropped : ∀ rest, Argument.unquote ('\\' :: '%' :: rest) = '%' :: Argument.unquote rest := fun _ => rfl
      have digits := unquote_plain (fun d member => plain d (List.mem_cons_of_mem _ member)) (escape text)
      rw [whole, encoded]
      simp only [List.cons_append, List.nil_append, dropped] at digits ⊢
      rw [show List.flatMap escapeChar text = escape text from rfl, digits, ih]
    · rw [escapeChar_other (not_or.mp angle), unquote_plain (fun d => encode_plain)]
      exact congrArg _ ih

theorem decode_encode (text : List Char) :
    Text.Percent.decode (Text.Percent.encode Text.Percent.isUnreserved text) = text := by
  refine Text.Percent.decode_encode (fun c through => ?_) text
  have plain := isPlain_unreserved through
  refine ⟨Nat.lt_of_lt_of_le (isPlain_range plain).2 (by decide), ?_⟩
  rintro rfl
  exact absurd through (by decide)

/-- An escaped text stands for the text. -/
theorem decode_escape (text : List Char) : Text.Percent.decode (Argument.unquote (escape text)) = text := by
  rw [unquote_escape, decode_encode]

/-- **Escaped texts.** An escaped text is one of ASCII letters and digits and a few signs. Behind each of its backslashes
stands the escape of `<` or `>`, and such an escape stands nowhere else. Without the backslashes the text is
percent-encoded, and decoded it is the text that was escaped. -/
theorem escape_reversible (text : List Char) :
    (∀ c ∈ escape text, c.isAlphanum = true ∨ c ∈ ['_', '.', '-', '~', '%', '\\']) ∧
    (∀ before after, escape text = before ++ '\\' :: after →
      ∃ letter rest, (letter = 'C' ∨ letter = 'E') ∧ after = '%' :: '3' :: letter :: rest) ∧
    (∀ before letter after, escape text = before ++ '%' :: '3' :: letter :: after → letter ∈ ['C', 'c', 'E', 'e'] →
      before.getLast? = some '\\') ∧
    Argument.unquote (escape text) = Text.Percent.encode Text.Percent.isUnreserved text ∧
    Text.Percent.decode (Argument.unquote (escape text)) = text := by
  have inert := inert_escape text
  refine ⟨fun c member => ?_, fun before after split => inert.angle_behind split,
    Shorthand.hasForm_eq_false_iff.mp inert.calm.hasForm, unquote_escape text, decode_escape text⟩
  have through := escape_unreserved member
  simp only [Text.Percent.isUnreserved, Bool.or_eq_true, beq_iff_eq] at through
  simpa only [List.mem_cons, List.not_mem_nil, or_false, or_assoc] using through

/-- A comparator, the text of its escape, a backslash and characters of two and of four octets. -/
theorem escape_reversible_mixed :
    let text := ['<', '%', '3', 'C', '\\', 'é', '😀']
    let escaped := "\\%3C%253C%5C%C3%A9%F0%9F%98%80".toList
    escape text = escaped ∧ (∃ letter rest, (letter = 'C' ∨ letter = 'E') ∧ escaped.tail = '%' :: '3' :: letter :: rest) ∧
      (escaped.take 1).getLast? = some '\\' ∧ Text.Percent.decode (Argument.unquote escaped) = text := by
  intro text escaped
  have same : escape text = escaped := by decide +kernel
  obtain ⟨_, behind, front, _, back⟩ := escape_reversible text
  rw [same] at behind front back
  exact ⟨same, behind [] _ rfl, front _ 'C' _ rfl (by decide), back⟩

end ResourceQuery.Literal
