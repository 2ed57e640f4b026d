import ResourceQuery.Proofs.Entries
import ResourceQuery.Proofs.Json.Texts
import ResourceQuery.Proofs.Number.Layout

/-!
JSON values read back. A value whose integers have not too many digits, whose floating point numbers
can occur, and whose objects have every key once is read as it is written (`read_write`), on one line
or on several: a layout puts nothing but white space around the signs of JSON (`Layout.Loose`).
-/
namespace ResourceQuery.Json
open ResourceQuery.Number (Binary64 Decimal Scientific withSign span_append)
open ResourceQuery.Number.Decimal (fractionText powerText)

/-- The characters that may follow a value: signs of JSON and white space. -/
def followers : List Char := [',', ']', '\x7d', ' ', '\t', '\n', '\r']

/-- Whether a text can stand after a number: it starts with what may follow a value. -/
def Ends (rest : List Char) : Prop := ∀ c ∈ rest.head?, c ∈ followers

theorem Ends.noDigit {rest : List Char} (ends : Ends rest) : ∀ c ∈ rest.head?, c.isDigit = false := fun c member =>
  (by decide : ∀ c ∈ followers, c.isDigit = false) c (ends c member)

theorem wholePart?_digits {whole rest : List Char} (digits : ∀ c ∈ whole, c.isDigit = true) (filled : whole ≠ [])
    (start : whole = ['0'] ∨ whole.head? ≠ some '0') (stop : ∀ c ∈ rest.head?, c.isDigit = false) :
    wholePart? (whole ++ rest) = some (whole, rest) := by
  obtain ⟨take, drop⟩ := span_append digits stop
  rcases start with rfl | start
  · rfl
  · unfold wholePart?
    split
    · rename_i zero
      refine absurd ?_ start
      rw [← List.head?_append_of_ne_nil _ filled, zero, List.head?_cons]
    · simp only [take, drop, filled, if_false]

theorem exponentPart?_powerText (power : Option Int) {rest : List Char} (ends : Ends rest) :
    exponentPart? (powerText power ++ rest) = power.map fun power => (power, rest) := by
  cases power with
  | none =>
    cases rest with
    | nil => rfl
    | cons c rest =>
      have other := (by decide : ∀ c ∈ followers, c ≠ 'e' ∧ c ≠ 'E') c (ends c rfl)
      simp [powerText, exponentPart?, other]
  | some power =>
    have digits := Number.padded_isDigit Number.layout.exponentDigits power.natAbs
    have filled := Number.padded_ne_nil Number.layout.exponentDigits power.natAbs
    have value := Number.ofDigits_padded Number.layout.exponentDigits power.natAbs
    obtain ⟨take, drop⟩ := span_append digits ends.noDigit
    have sign : Number.takeSign ((if power < 0 then '-' else '+') ::
        (Number.padded Number.layout.exponentDigits power.natAbs ++ rest)) =
        (decide (power < 0), Number.padded Number.layout.exponentDigits power.natAbs ++ rest) := by
      split <;> simp_all [Number.takeSign]
    have whole : Number.signed (decide (power < 0)) power.natAbs = power := by
      simp only [Number.signed, decide_eq_true_eq]
      omega
    simp [powerText, exponentPart?, sign, take, drop, filled, value, whole]

theorem powerText_stop (power : Option Int) {rest : List Char} (ends : Ends rest) :
    ∀ c ∈ (powerText power ++ rest).head?, c.isDigit = false ∧ c ≠ '.' := by
  cases power with
  | none =>
    intro c member
    exact (by decide : ∀ c ∈ followers, c.isDigit = false ∧ c ≠ '.') c (ends c member)
  | some power =>
    rintro c ⟨⟩
    decide

theorem fractionPart?_fractionText {fraction rest : List Char} (digits : ∀ c ∈ fraction, c.isDigit = true)
    (stop : ∀ c ∈ rest.head?, c.isDigit = false ∧ c ≠ '.') :
    fractionPart? (fractionText fraction ++ rest) = if fraction = [] then none else some (fraction, rest) := by
  by_cases none : fraction = []
  · rw [fractionText, if_pos none, if_pos none, List.nil_append]
    unfold fractionPart?
    split
    · rename_i point
      exact absurd rfl (stop '.' rfl).2
    · rfl
  · obtain ⟨take, drop⟩ := span_append digits fun c member => (stop c member).1
    simp [fractionText, none, fractionPart?, take, drop]

/-- A number after its sign, where `left` characters are left before it. -/
def unsignedNumber (negative : Bool) (left : Nat) (body : List Char) : Except Fault (Json × List Char) :=
  match wholePart? body with
  | none => failAt .value left
  | some (whole, rest) =>
    let (fraction, rest, hasFraction) := match fractionPart? rest with
      | some (digits, rest) => (digits, rest, true)
      | none => ([], rest, false)
    let (exponent, rest, hasExponent) := match exponentPart? rest with
      | some (exponent, rest) => (exponent, rest, true)
      | none => (0, rest, false)
    if hasFraction || hasExponent then
      .ok (.real (Scientific.value ⟨negative, whole, fraction, exponent⟩), rest)
    else if Number.maxDigits < whole.length then .error (.digitLimit whole.length)
    else .ok (.int (Number.signed negative (Number.ofDigits whole)), rest)

/-- A minus in front of a text, and the text after it. -/
def takeMinus : List Char → Bool × List Char
  | '-' :: rest => (true, rest)
  | rest => (false, rest)

theorem number_eq (input : List Char) :
    number input = match takeMinus input with | (negative, body) => unsignedNumber negative input.length body := rfl

theorem takeMinus_withSign (negative : Bool) {text rest : List Char} (filled : text ≠ [])
    (digit : ∀ c ∈ text.head?, c.isDigit = true) :
    takeMinus (withSign negative text ++ rest) = (negative, text ++ rest) := by
  cases negative with
  | true => rfl
  | false =>
    obtain ⟨c, more, rfl⟩ := List.exists_cons_of_ne_nil filled
    simp only [withSign, List.cons_append]
    unfold takeMinus
    split
    · rename_i same
      cases same
      exact absurd (digit '-' rfl) (by decide)
    · rfl

/-- A decimal with a sign is read as a floating point number, or as an integer if it is one in form. -/
theorem number_written {decimal : Decimal} (spelled : decimal.Spelled) (negative : Bool) {rest : List Char}
    (ends : Ends rest) :
    number (withSign negative decimal.text ++ rest) =
      if decimal.fraction ≠ [] ∨ decimal.power ≠ none then .ok (.real (decimal.value negative), rest)
      else if Number.maxDigits < decimal.whole.length then .error (.digitLimit decimal.whole.length)
      else .ok (.int (Number.signed negative (Number.ofDigits decimal.whole)), rest) := by
  have whole : wholePart? (decimal.text ++ rest) =
      some (decimal.whole, fractionText decimal.fraction ++ (powerText decimal.power ++ rest)) := by
    rw [Decimal.text, List.append_assoc, List.append_assoc]
    refine wholePart?_digits spelled.whole spelled.filled spelled.start ?_
    unfold fractionText
    split
    · exact fun c member => (powerText_stop _ ends c member).1
    · rintro c ⟨⟩
      decide
  have fraction := fractionPart?_fractionText spelled.fraction (powerText_stop decimal.power ends)
  have power := exponentPart?_powerText decimal.power ends
  rw [number_eq, takeMinus_withSign negative spelled.text_ne_nil spelled.head]
  simp only [unsignedNumber, whole]
  obtain ⟨digits, after, exponent⟩ := decimal
  by_cases none : after = []
  · subst none
    cases exponent with
    | none =>
      simp [fractionText, powerText] at fraction power
      simp [fractionText, powerText, fraction, power]
    | some exponent =>
      simp [fractionText] at fraction power
      simp [fractionText, fraction, power, Decimal.value]
  · rw [if_neg none] at fraction
    cases exponent with
    | none =>
      simp [powerText] at fraction power
      simp [powerText, fraction, power, Decimal.value, none]
    | some exponent =>
      simp at fraction power
      simp [fraction, power, Decimal.value, none]

mutual

/-- Whether a value can occur: its integers have not too many digits, its floating point numbers are
proper or the one NaN that is read, and its objects have every key once. -/
def Sound : Json → Prop
  | .int n => Number.isWritable n = true
  | .real x => x = .nan 0 ∨ x.Proper
  | .array items => AllSound items
  | .object members => (members.map Prod.fst).Nodup ∧ MembersSound members
  | _ => True
termination_by structural json => json

def AllSound : List Json → Prop
  | [] => True
  | item :: rest => Sound item ∧ AllSound rest
termination_by structural items => items

def MembersSound : List (String × Json) → Prop
  | [] => True
  | (_, item) :: rest => Sound item ∧ MembersSound rest
termination_by structural members => members

end

/-- The characters that values start with. -/
def startsValue (c : Char) : Bool :=
  c.isDigit || ['n', 't', 'f', 'N', 'I', '-', '"', '[', '\x7b'].contains c

theorem value_scalar {input : List Char} (other : ∀ c ∈ input.head?, c ≠ '"' ∧ c ≠ '[' ∧ c ≠ '\x7b') (fuel : Nat) :
    value (fuel + 1) input = scalar input := by
  rw [value]
  · rintro rest rfl
    exact (other '"' rfl).1 rfl
  · rintro rest rfl
    exact (other '[' rfl).2.1 rfl
  · rintro rest rfl
    exact (other '\x7b' rfl).2.2 rfl

/-- A text that starts with a digit, or with one after a minus, is read as a number. -/
theorem scalar_number (negative : Bool) {text : List Char} (filled : text ≠ [])
    (digit : ∀ c ∈ text.head?, c.isDigit = true) :
    scalar (withSign negative text) = number (withSign negative text) := by
  obtain ⟨c, more, rfl⟩ := List.exists_cons_of_ne_nil filled
  have first : c.isDigit = true := digit c rfl
  cases negative with
  | false =>
    rw [scalar]
    all_goals
      intro rest same
      cases same
      exact absurd first (by decide)
  | true =>
    rw [scalar]
    all_goals
      intro rest same
      cases same
    exact absurd first (by decide)

theorem value_number {decimal : Decimal} (spelled : decimal.Spelled) (negative : Bool) {rest : List Char}
    (fuel : Nat) :
    value (fuel + 1) (withSign negative decimal.text ++ rest) = number (withSign negative decimal.text ++ rest) := by
  have split : withSign negative decimal.text ++ rest = withSign negative (decimal.text ++ rest) := by
    cases negative <;> rfl
  have filled : decimal.text ++ rest ≠ [] := List.append_ne_nil_of_left_ne_nil spelled.text_ne_nil _
  have digit : ∀ c ∈ (decimal.text ++ rest).head?, c.isDigit = true := by
    rw [List.head?_append_of_ne_nil _ spelled.text_ne_nil]
    exact spelled.head
  rw [split, value_scalar _ fuel, scalar_number negative filled digit]
  intro c member
  cases negative with
  | true =>
    cases member
    decide
  | false =>
    have first := digit c member
    refine ⟨?_, ?_, ?_⟩ <;> rintro rfl <;> exact absurd first (by decide)

/-- The decimal that an integer is written as. -/
theorem integer_spelled (n : Int) : (Decimal.mk (Number.digits n.natAbs) [] none).Spelled where
  whole _ := Literal.digits_isDigit
  fraction := by simp
  filled := Literal.digits_ne_nil _
  start := by
    by_cases zero : n.natAbs = 0
    · rw [zero]
      exact .inl rfl
    · exact .inr (Number.digits_head zero)

theorem integerText_eq (n : Int) :
    Number.integerText n = withSign (decide (n < 0)) (Decimal.mk (Number.digits n.natAbs) [] none).text := by
  simp [Number.integerText, withSign, Decimal.text, fractionText, powerText]

theorem value_integer {n : Int} (writable : Number.isWritable n = true) {rest : List Char} (ends : Ends rest) (fuel : Nat) :
    value (fuel + 1) (Number.integerText n ++ rest) = .ok (.int n, rest) := by
  have fits : ¬ Number.maxDigits < (Number.digits n.natAbs).length := by
    simpa [Number.isWritable] using writable
  have whole : Number.signed (decide (n < 0)) n.natAbs = n := by
    simp only [Number.signed, decide_eq_true_eq]
    omega
  rw [integerText_eq, value_number (integer_spelled n), number_written (integer_spelled n) _ ends]
  simp [fits, Literal.ofDigits_digits, whole]

theorem value_real {x : Binary64} (sound : x = .nan 0 ∨ x.Proper) {rest : List Char} (ends : Ends rest) (fuel : Nat) :
    value (fuel + 1) ((x.text Number.longSpelling).toList ++ rest) = .ok (.real x, rest) := by
  cases x with
  | nan label =>
    obtain rfl : label = 0 := by simpa [Binary64.Proper] using sound
    rw [value_scalar (by rintro c ⟨⟩; decide)]
    rfl
  | infinite negative =>
    cases negative <;>
      · rw [value_scalar (by rintro c ⟨⟩; decide)]
        rfl
  | finite negative mantissa exponent =>
    obtain ⟨decimal, written, valid, same⟩ :=
      Binary64.text_decimal Number.longSpelling negative (sound.resolve_left (by simp))
    rw [written, value_number valid.toSpelled, number_written valid.toSpelled _ ends, if_pos valid.marked, same]

/-- White space, if any. -/
def IsGap (gap : List Char) : Prop := ∀ c ∈ gap, isSpace c = true

instance : DecidablePred IsGap := fun gap => inferInstanceAs (Decidable (∀ c ∈ gap, isSpace c = true))

theorem skipSpace_gap {gap : List Char} (blank : IsGap gap) (rest : List Char) : skipSpace (gap ++ rest) = skipSpace rest :=
  List.dropWhile_append_of_pos blank

theorem IsGap.ends {gap : List Char} (blank : IsGap gap) {sign : Char} (follows : sign ∈ followers) (rest : List Char) :
    Ends (gap ++ sign :: rest) := by
  cases gap with
  | nil =>
    rintro c ⟨⟩
    exact follows
  | cons c gap =>
    rintro space ⟨⟩
    have known := blank c List.mem_cons_self
    simp only [isSpace, Bool.or_eq_true, decide_eq_true_eq] at known
    rcases known with ((rfl | rfl) | rfl) | rfl <;> decide

namespace Layout

/-- The white space inside of brackets, at the level of what stands beside it. -/
def edge (layout : Layout) (level : Nat) : List Char :=
  match layout with
  | .line _ _ => []
  | .lines indent => (lineBreak indent level).toList

/-- What stands between two parts of a level. -/
def separator (layout : Layout) (level : Nat) : List Char :=
  match layout with
  | .line item _ => item.toList
  | .lines indent => ',' :: (lineBreak indent level).toList

/-- Whether a layout puts white space, and nothing else, after each comma and each colon. -/
structure Loose (layout : Layout) : Prop where
  separator : ∀ level, ∃ gap, layout.separator level = ',' :: gap ∧ IsGap gap
  key : ∃ gap, layout.key.toList = ':' :: gap ∧ IsGap gap

theorem isGap_lineBreak (indent level : Nat) : IsGap (lineBreak indent level).toList := by
  intro c member
  simp only [lineBreak, String.toList_ofList, List.mem_cons, List.mem_replicate] at member
  rcases member with rfl | ⟨_, rfl⟩ <;> rfl

theorem isGap_edge (layout : Layout) (level : Nat) : IsGap (layout.edge level) := by
  cases layout with
  | line item key => exact fun c member => absurd member List.not_mem_nil
  | lines indent => exact isGap_lineBreak indent level

theorem loose_lines (indent : Nat) : (Layout.lines indent).Loose where
  separator level := ⟨_, rfl, isGap_lineBreak indent level⟩
  key := ⟨[' '], (by decide : ": ".toList = [':', ' ']), by decide⟩

end Layout

theorem loose_compact : Style.compact.layout.Loose where
  separator _ := ⟨[], (by decide : ",".toList = [',']), by decide⟩
  key := ⟨[], by decide, by decide⟩

theorem loose_spaced : Style.spaced.layout.Loose where
  separator _ := ⟨[' '], (by decide : ", ".toList = [',', ' ']), by decide⟩
  key := ⟨[' '], by decide, by decide⟩

theorem loose_indented (indent : Int) : (Style.indented indent).layout.Loose := Layout.loose_lines indent.toNat

/-! ### Written values -/

/-- The text of a value at a level of nesting. -/
def valueText (style : Style) (level : Nat) (json : Json) : List Char := (writeAt style level json).toList

def itemsText (style : Style) (level : Nat) : List Json → List Char
  | [] => []
  | [item] => valueText style level item
  | item :: next :: rest =>
    valueText style level item ++ (style.layout.separator level ++ itemsText style level (next :: rest))

def keyText (style : Style) (key : String) : List Char := '"' :: key.toList.flatMap (writeChar style.asciiOnly) ++ ['"']

def memberText (style : Style) (level : Nat) (key : String) (item : Json) : List Char :=
  keyText style key ++ (style.layout.key.toList ++ valueText style level item)

def membersText (style : Style) (level : Nat) : List (String × Json) → List Char
  | [] => []
  | [(key, item)] => memberText style level key item
  | (key, item) :: next :: rest =>
    memberText style level key item ++ (style.layout.separator level ++ membersText style level (next :: rest))

theorem toList_writeText (style : Style) (key : String) : (writeText style.asciiOnly key).toList = keyText style key := by
  simp [writeText, keyText]

/-- Parts in brackets. -/
theorem toList_enclose (layout : Layout) (opening closing : String) (level : Nat) {parts : List String} (filled : parts ≠ []) :
    (layout.enclose opening closing level parts).toList =
      opening.toList ++ (layout.edge (level + 1) ++
        ((Text.joined (String.ofList (layout.separator (level + 1))) parts).toList ++
          (layout.edge level ++ closing.toList))) := by
  have some : parts.isEmpty = false := by simpa using filled
  cases layout with
  | line item key => simp [Layout.enclose, Layout.edge, Layout.separator, some]
  | lines indent =>
    have comma : String.ofList (',' :: (lineBreak indent (level + 1)).toList) = "," ++ lineBreak indent (level + 1) := by
      rw [← String.toList_inj, String.toList_append, String.toList_ofList]
      rfl
    simp [Layout.enclose, Layout.edge, Layout.separator, some, comma]

theorem toList_items (style : Style) (level : Nat) : ∀ items,
    (Text.joined (String.ofList (style.layout.separator level)) (writeItems style level items)).toList =
      itemsText style level items
  | [] => rfl
  | [item] => rfl
  | item :: next :: rest => by
    have more := toList_items style level (next :: rest)
    rw [writeItems] at more
    rw [writeItems, writeItems, Text.joined, itemsText, valueText, String.toList_append, String.toList_append, more,
      String.toList_ofList, List.append_assoc]

theorem toList_members (style : Style) (level : Nat) : ∀ members,
    (Text.joined (String.ofList (style.layout.separator level)) (writeMembers style level members)).toList =
      membersText style level members
  | [] => rfl
  | [(key, item)] => by
    rw [writeMembers, writeMembers, Text.joined, membersText, memberText, valueText, String.toList_append,
      String.toList_append, toList_writeText, List.append_assoc]
  | (key, item) :: next :: rest => by
    have more := toList_members style level (next :: rest)
    rw [writeMembers] at more
    rw [writeMembers, writeMembers, Text.joined, membersText, memberText, valueText, String.toList_append,
      String.toList_append, more, String.toList_append, String.toList_append, toList_writeText, String.toList_ofList]
    simp only [List.append_assoc]

theorem valueText_null (style : Style) (level : Nat) : valueText style level .null = ['n', 'u', 'l', 'l'] :=
  (by decide : "null".toList = ['n', 'u', 'l', 'l'])

theorem valueText_true (style : Style) (level : Nat) : valueText style level (.bool true) = ['t', 'r', 'u', 'e'] :=
  (by decide : "true".toList = ['t', 'r', 'u', 'e'])

theorem valueText_false (style : Style) (level : Nat) :
    valueText style level (.bool false) = ['f', 'a', 'l', 's', 'e'] :=
  (by decide : "false".toList = ['f', 'a', 'l', 's', 'e'])

theorem valueText_array_nil (style : Style) (level : Nat) : valueText style level (.array []) = ['[', ']'] :=
  (by decide : "[]".toList = ['[', ']'])

theorem valueText_object_nil (style : Style) (level : Nat) : valueText style level (.object []) = ['\x7b', '\x7d'] :=
  (by decide : "\x7b\x7d".toList = ['\x7b', '\x7d'])

theorem valueText_array (style : Style) (level : Nat) (item : Json) (items : List Json) :
    valueText style level (.array (item :: items)) =
      '[' :: (style.layout.edge (level + 1) ++
        (itemsText style (level + 1) (item :: items) ++ (style.layout.edge level ++ [']']))) := by
  rw [valueText, writeAt, toList_enclose _ _ _ _ (by simp [writeItems]), toList_items]
  rfl

theorem valueText_object (style : Style) (level : Nat) (member : String × Json) (members : List (String × Json)) :
    valueText style level (.object (member :: members)) =
      '\x7b' :: (style.layout.edge (level + 1) ++
        (membersText style (level + 1) (member :: members) ++ (style.layout.edge level ++ ['\x7d']))) := by
  rw [valueText, writeAt, toList_enclose _ _ _ _ (by simp [writeMembers]), toList_members]
  rfl

theorem valueText_text (style : Style) (level : Nat) (s : String) : valueText style level (.text s) = keyText style s :=
  toList_writeText style s

/-! ### Reading -/

theorem startsValue_signed {decimal : Decimal} (spelled : decimal.Spelled) (negative : Bool) :
    ∃ c rest, withSign negative decimal.text = c :: rest ∧ startsValue c = true := by
  cases negative with
  | true => exact ⟨'-', decimal.text, rfl, by decide⟩
  | false =>
    obtain ⟨c, rest, split⟩ := List.exists_cons_of_ne_nil spelled.text_ne_nil
    have digit := spelled.head c (by simp [split])
    exact ⟨c, rest, split, by simp [startsValue, digit]⟩

/-- A written value starts with a character that values start with. -/
theorem valueText_start (style : Style) (level : Nat) {json : Json} (sound : json.Sound) :
    ∃ c rest, valueText style level json = c :: rest ∧ startsValue c = true := by
  cases json with
  | null => exact ⟨'n', _, valueText_null style level, by decide⟩
  | bool b =>
    cases b with
    | true => exact ⟨'t', _, valueText_true style level, by decide⟩
    | false => exact ⟨'f', _, valueText_false style level, by decide⟩
  | int n =>
    have written : valueText style level (.int n) = Number.integerText n := String.toList_ofList
    rw [written, integerText_eq]
    exact startsValue_signed (integer_spelled n) _
  | real x =>
    cases x with
    | nan label => exact ⟨'N', ['a', 'N'], (by decide : "NaN".toList = ['N', 'a', 'N']), by decide⟩
    | infinite negative =>
      cases negative with
      | false => exact ⟨'I', "nfinity".toList, (by decide : "Infinity".toList = 'I' :: "nfinity".toList), by decide⟩
      | true => exact ⟨'-', "Infinity".toList, (by decide : "-Infinity".toList = '-' :: "Infinity".toList), by decide⟩
    | finite negative mantissa exponent =>
      obtain ⟨decimal, written, valid, _⟩ :=
        Binary64.text_decimal Number.longSpelling negative (sound.resolve_left (by simp))
      obtain ⟨c, rest, split, starts⟩ := startsValue_signed valid.toSpelled negative
      exact ⟨c, rest, written.trans split, starts⟩
  | text s => exact ⟨'"', _, valueText_text style level s, by decide⟩
  | array items =>
    cases items with
    | nil => exact ⟨'[', _, valueText_array_nil style level, by decide⟩
    | cons item items => exact ⟨'[', _, valueText_array style level item items, by decide⟩
  | object members =>
    cases members with
    | nil => exact ⟨'\x7b', _, valueText_object_nil style level, by decide⟩
    | cons member members => exact ⟨'\x7b', _, valueText_object style level member members, by decide⟩

theorem skipSpace_eq_self {c : Char} (starts : startsValue c = true) (rest : List Char) :
    skipSpace (c :: rest) = c :: rest := by
  have solid : isSpace c = false := by
    have other : ∀ space ∈ [' ', '\t', '\n', '\r'], startsValue space = false := by decide
    have differs : ∀ space ∈ [' ', '\t', '\n', '\r'], c ≠ space := by
      rintro space member rfl
      rw [other c member] at starts
      cases starts
    simp only [List.forall_mem_cons] at differs
    simp [isSpace, differs]
  rw [skipSpace, List.dropWhile_cons_of_neg (by simp [solid])]

section Steps

variable {fuel : Nat} {input after more rest : List Char} {item : Json}

theorem elements_last (first : value fuel input = .ok (item, after)) (close : skipSpace after = ']' :: rest) :
    elements (fuel + 1) input = .ok ([item], rest) := by
  rw [elements, first]
  simp only [bind, Except.bind, close]
  rfl

theorem elements_next {items : List Json} (first : value fuel input = .ok (item, after))
    (comma : skipSpace after = ',' :: more) (later : elements fuel (skipSpace more) = .ok (items, rest)) :
    elements (fuel + 1) input = .ok (item :: items, rest) := by
  rw [elements, first]
  simp only [bind, Except.bind, comma, later]
  rfl

theorem members_last (style : Style) {key : String} (first : value fuel (skipSpace input) = .ok (item, after))
    (close : skipSpace after = '\x7d' :: rest) :
    members (fuel + 1) (keyText style key ++ ':' :: input) = .ok ([(key, item)], rest) := by
  have colon : skipSpace (':' :: input) = ':' :: input := rfl
  rw [keyText, List.append_assoc, List.cons_append, members, List.singleton_append, textBody_written]
  simp only [bind, Except.bind, colon, first, close]
  rfl

theorem members_next (style : Style) {key : String} {pairs : List (String × Json)}
    (first : value fuel (skipSpace input) = .ok (item, after)) (comma : skipSpace after = ',' :: more)
    (later : members fuel (skipSpace more) = .ok (pairs, rest)) :
    members (fuel + 1) (keyText style key ++ ':' :: input) = .ok ((key, item) :: pairs, rest) := by
  have colon : skipSpace (':' :: input) = ':' :: input := rfl
  rw [keyText, List.append_assoc, List.cons_append, members, List.singleton_append, textBody_written]
  simp only [bind, Except.bind, colon, first, comma, later]
  rfl

theorem value_array {c : Char} {items : List Json} (solid : skipSpace input = c :: more) (starts : startsValue c = true)
    (read : elements fuel (c :: more) = .ok (items, rest)) :
    value (fuel + 1) ('[' :: input) = .ok (.array items, rest) := by
  rw [value, solid]
  split
  · rename_i same
    cases same
    exact absurd starts (by decide)
  · simp only [read]
    rfl

theorem value_object {pairs : List (String × Json)} (solid : skipSpace input = '"' :: more)
    (read : members fuel ('"' :: more) = .ok (pairs, rest)) :
    value (fuel + 1) ('\x7b' :: input) = .ok (.object (Entries.ofPairs pairs), rest) := by
  rw [value, solid]
  split
  · rename_i same
    cases same
  · simp only [read]
    rfl

end Steps

theorem itemsText_start (style : Style) (level : Nat) {item : Json} {items : List Json} (sound : AllSound (item :: items)) :
    ∃ c rest, itemsText style level (item :: items) = c :: rest ∧ startsValue c = true := by
  obtain ⟨c, rest, split, starts⟩ := valueText_start style level sound.1
  cases items with
  | nil => exact ⟨c, rest, split, starts⟩
  | cons next items =>
    refine ⟨c, rest ++ (style.layout.separator level ++ itemsText style level (next :: items)), ?_, starts⟩
    rw [itemsText, split]
    rfl

theorem membersText_start (style : Style) (level : Nat) (key : String) (item : Json) (pairs : List (String × Json)) :
    ∃ rest, membersText style level ((key, item) :: pairs) = '"' :: rest := by
  cases pairs with
  | nil => exact ⟨_, rfl⟩
  | cons next pairs =>
    rw [membersText]
    exact ⟨_, rfl⟩

theorem skipSpace_valueText (style : Style) (level : Nat) {json : Json} (sound : json.Sound) (rest : List Char) :
    skipSpace (valueText style level json ++ rest) = valueText style level json ++ rest := by
  obtain ⟨c, more, split, starts⟩ := valueText_start style level sound
  rw [split, List.cons_append, skipSpace_eq_self starts]

theorem skipSpace_itemsText (style : Style) (level : Nat) {item : Json} {items : List Json} (sound : AllSound (item :: items))
    (rest : List Char) :
    skipSpace (itemsText style level (item :: items) ++ rest) = itemsText style level (item :: items) ++ rest := by
  obtain ⟨c, more, split, starts⟩ := itemsText_start style level sound
  rw [split, List.cons_append, skipSpace_eq_self starts]

theorem skipSpace_membersText (style : Style) (level : Nat) (key : String) (item : Json) (pairs : List (String × Json))
    (rest : List Char) :
    skipSpace (membersText style level ((key, item) :: pairs) ++ rest) =
      membersText style level ((key, item) :: pairs) ++ rest := by
  obtain ⟨more, split⟩ := membersText_start style level key item pairs
  rw [split]
  rfl

variable {style : Style}

mutual

/-- A written value is read as the value. -/
theorem value_written (loose : style.layout.Loose) {json : Json} {level fuel : Nat} {rest : List Char} (sound : json.Sound)
    (enough : 2 * (valueText style level json).length ≤ fuel + 1) (ends : Ends rest) :
    value (fuel + 1) (valueText style level json ++ rest) = .ok (json, rest) := by
  cases json with
  | null =>
    rw [valueText_null, value_scalar (by rintro c ⟨⟩; decide)]
    rfl
  | bool b =>
    cases b with
    | true =>
      rw [valueText_true, value_scalar (by rintro c ⟨⟩; decide)]
      rfl
    | false =>
      rw [valueText_false, value_scalar (by rintro c ⟨⟩; decide)]
      rfl
  | int n =>
    have written : valueText style level (.int n) = Number.integerText n := String.toList_ofList
    rw [written, value_integer sound ends]
  | real x => exact value_real sound ends _
  | text s =>
    rw [valueText_text, keyText, List.append_assoc, List.cons_append, value, List.singleton_append, textBody_written]
    rfl
  | array items =>
    cases items with
    | nil =>
      rw [valueText_array_nil]
      rfl
    | cons item items =>
      have blank := style.layout.isGap_edge level
      have inner := style.layout.isGap_edge (level + 1)
      rw [valueText_array, List.length_cons, List.length_append, List.length_append, List.length_append,
        List.length_singleton] at enough
      obtain ⟨fuel, rfl⟩ : ∃ less, fuel = less + 2 := ⟨fuel - 2, by omega⟩
      have read := @elements_written loose (item :: items) (level + 1) fuel _ rest (by simp) sound blank (by omega)
      have solid := (skipSpace_gap inner _).trans
        (skipSpace_itemsText style (level + 1) sound (style.layout.edge level ++ ']' :: rest))
      obtain ⟨c, more, split, starts⟩ := itemsText_start style (level + 1) sound
      rw [valueText_array]
      simp only [List.append_assoc, List.cons_append, List.nil_append]
      rw [split, List.cons_append] at read solid
      rw [split]
      exact value_array solid starts read
  | object members =>
    cases members with
    | nil =>
      rw [valueText_object_nil]
      rfl
    | cons member members =>
      obtain ⟨key, item⟩ := member
      have blank := style.layout.isGap_edge level
      have inner := style.layout.isGap_edge (level + 1)
      rw [valueText_object, List.length_cons, List.length_append, List.length_append, List.length_append,
        List.length_singleton] at enough
      obtain ⟨fuel, rfl⟩ : ∃ less, fuel = less + 2 := ⟨fuel - 2, by omega⟩
      have read := @members_written loose ((key, item) :: members) (level + 1) fuel _ rest (by simp) sound.2 blank (by omega)
      have solid := (skipSpace_gap inner _).trans
        (skipSpace_membersText style (level + 1) key item members (style.layout.edge level ++ '\x7d' :: rest))
      obtain ⟨more, split⟩ := membersText_start style (level + 1) key item members
      rw [valueText_object]
      simp only [List.append_assoc, List.cons_append, List.nil_append]
      rw [split, List.cons_append] at read solid
      rw [split, List.cons_append, value_object solid read, Entries.ofPairs_eq_self sound.1]

/-- Written elements are read as the elements. -/
theorem elements_written (loose : style.layout.Loose) : ∀ {items : List Json} {level fuel : Nat} {gap rest : List Char},
    items ≠ [] → AllSound items → IsGap gap → 2 * (itemsText style level items).length ≤ fuel + 1 →
    elements (fuel + 2) (itemsText style level items ++ (gap ++ ']' :: rest)) = .ok (items, rest)
  | [], _, _, _, _, filled, _, _, _ => absurd rfl filled
  | [item], level, fuel, gap, rest, _, sound, blank, enough =>
    elements_last (value_written loose sound.1 (by rw [itemsText] at enough; omega) (blank.ends (by decide) rest))
      (skipSpace_gap blank _)
  | item :: next :: items, level, fuel, gap, rest, _, sound, blank, enough => by
    obtain ⟨between, separated, space⟩ := loose.separator level
    simp only [itemsText, separated, List.length_append, List.length_cons] at enough
    obtain ⟨fuel, rfl⟩ : ∃ less, fuel = less + 1 := ⟨fuel - 1, by omega⟩
    have later := @elements_written loose (next :: items) level fuel gap rest (by simp) sound.2 blank (by omega)
    rw [← skipSpace_itemsText style level sound.2, ← skipSpace_gap space] at later
    rw [itemsText, separated]
    simp only [List.append_assoc, List.cons_append]
    exact elements_next (value_written loose sound.1 (by omega) (by rintro c ⟨⟩; decide)) rfl later

/-- Written members are read as the members. -/
theorem members_written (loose : style.layout.Loose) :
    ∀ {pairs : List (String × Json)} {level fuel : Nat} {gap rest : List Char},
    pairs ≠ [] → MembersSound pairs → IsGap gap → 2 * (membersText style level pairs).length ≤ fuel + 1 →
    members (fuel + 2) (membersText style level pairs ++ (gap ++ '\x7d' :: rest)) = .ok (pairs, rest)
  | [], _, _, _, _, filled, _, _, _ => absurd rfl filled
  | [(key, item)], level, fuel, gap, rest, _, sound, blank, enough => by
    obtain ⟨before, keyed, space⟩ := loose.key
    simp only [membersText, memberText, keyed, List.length_append, List.length_cons] at enough
    rw [membersText, memberText, keyed]
    simp only [List.append_assoc, List.cons_append]
    have first := @value_written loose item level fuel (gap ++ '\x7d' :: rest) sound.1 (by omega)
      (blank.ends (by decide) rest)
    rw [← skipSpace_valueText style level sound.1, ← skipSpace_gap space] at first
    exact members_last style first (skipSpace_gap blank _)
  | (key, item) :: (next, more) :: pairs, level, fuel, gap, rest, _, sound, blank, enough => by
    obtain ⟨before, keyed, space⟩ := loose.key
    obtain ⟨between, separated, apart⟩ := loose.separator level
    simp only [membersText, memberText, keyed, separated, List.length_append, List.length_cons] at enough
    obtain ⟨fuel, rfl⟩ : ∃ less, fuel = less + 1 := ⟨fuel - 1, by omega⟩
    have later := @members_written loose ((next, more) :: pairs) level fuel gap rest (by simp) sound.2 blank (by omega)
    rw [← skipSpace_membersText, ← skipSpace_gap apart] at later
    have first := @value_written loose item level (fuel + 1) (',' :: (between ++
      (membersText style level ((next, more) :: pairs) ++ (gap ++ '\x7d' :: rest)))) sound.1 (by omega)
      (by rintro c ⟨⟩; decide)
    rw [← skipSpace_valueText style level sound.1, ← skipSpace_gap space] at first
    rw [membersText, memberText, keyed, separated]
    simp only [List.append_assoc, List.cons_append]
    exact members_next style first rfl later

end

/-- **A sound value is read as it is written, in every layout that puts only white space around the signs.** -/
theorem read_write (loose : style.layout.Loose) {json : Json} (sound : json.Sound) : read (json.write style) = .ok json := by
  obtain ⟨c, rest, split, starts⟩ := valueText_start style 0 sound
  have noMark : (valueText style 0 json).head? ≠ some '\uFEFF' := by
    rw [split]
    rintro ⟨⟩
    exact absurd starts (by decide)
  have solid : skipSpace (valueText style 0 json) = valueText style 0 json := by rw [split, skipSpace_eq_self starts]
  have whole := @value_written style loose json 0 (2 * (valueText style 0 json).length + 1) [] sound (by omega) (by simp [Ends])
  rw [List.append_nil] at whole
  have done : document (valueText style 0 json) = .ok json := by
    simp only [document, noMark, if_false, solid, whole]
    rfl
  have same : (json.write style).toList = valueText style 0 json := rfl
  rw [read, same, done]

end ResourceQuery.Json
