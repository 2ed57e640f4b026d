import ResourceQuery.Proofs.Json.Document
import ResourceQuery.Proofs.Literal.Date
import ResourceQuery.Proofs.Literal.Range

/-!
Which literals are read as the values they are written for. Floating point numbers are, except NaN
(`value_real`, `value_nan`); so are compiled patterns (`value_pattern`) and mappings that come from
JSON (`value_mapping`), which the mappings of data are (`value_print_mapping`). A date is read as the date of UTC
that is written for it (`value_moment`), which says of every date in the range of UTC whether its instant comes
back (`value_print_moment`).
-/
namespace ResourceQuery.Literal
open ResourceQuery.Number (Binary64 Decimal withSign)
open ResourceQuery.Time (Moment)

/-- The characters of decimals. -/
def isDecimalChar (c : Char) : Bool := c.isDigit || c = '.' || c = 'e' || c = '+' || c = '-'

theorem isDecimalChar_digit {c : Char} (digit : c.isDigit = true) : isDecimalChar c = true := by
  simp [isDecimalChar, digit]

theorem isPlain_decimalChar {c : Char} (char : isDecimalChar c = true) : isPlain c = true := by
  simp only [isDecimalChar, Bool.or_eq_true, decide_eq_true_eq] at char
  rcases char with (((digit | rfl) | rfl) | rfl) | rfl
  · exact isPlain_digit digit
  all_goals decide

theorem decimal_chars {decimal : Decimal} (valid : decimal.Valid) : ∀ c ∈ decimal.text, isDecimalChar c = true := by
  simp only [Decimal.text, List.forall_mem_append]
  refine ⟨⟨fun c member => isDecimalChar_digit (valid.whole c member), ?_⟩, ?_⟩
  · unfold Decimal.fractionText
    split
    · simp
    · rw [List.forall_mem_cons]
      exact ⟨by decide, fun c member => isDecimalChar_digit (valid.fraction c member)⟩
  · unfold Decimal.powerText
    split
    · simp
    · simp only [List.forall_mem_cons]
      refine ⟨by decide, ?_, fun c member => isDecimalChar_digit (Number.padded_isDigit _ _ c member)⟩
      split <;> decide

theorem signed_chars {decimal : Decimal} (valid : decimal.Valid) (negative : Bool) :
    ∀ c ∈ withSign negative decimal.text, isDecimalChar c = true := by
  unfold withSign
  split
  · rw [List.forall_mem_cons]
    exact ⟨by decide, decimal_chars valid⟩
  · exact decimal_chars valid

theorem base?_decimal {c : Char} (char : isDecimalChar c = true) : base? c = none := by
  have other : ∀ letter ∈ ['x', 'X', 'o', 'O', 'b', 'B'], isDecimalChar letter = false := by decide
  have differs : ∀ letter ∈ ['x', 'X', 'o', 'O', 'b', 'B'], c ≠ letter := by
    rintro letter member rfl
    exact absurd char (by simp [other c member])
  simp only [List.forall_mem_cons] at differs
  simp [base?, differs]

/-- A decimal has a character that is no digit. -/
theorem decimal_marked {decimal : Decimal} (valid : decimal.Valid) : decimal.text.all Text.isDigit = false := by
  rw [List.all_eq_false]
  rcases valid.marked with fraction | power
  · exact ⟨'.', by simp [Decimal.text, Decimal.fractionText, fraction], by decide⟩
  · obtain ⟨power, written⟩ := Option.ne_none_iff_exists'.mp power
    exact ⟨'e', by simp [Decimal.text, Decimal.powerText, written], by decide⟩

/-- A decimal with a sign is read as a floating point number. -/
theorem number?_decimal {decimal : Decimal} (valid : decimal.Valid) (negative : Bool) :
    number? (withSign negative decimal.text) = .ok (some (.real (decimal.value negative))) := by
  have sign := Number.takeSign_withSign negative valid.toSpelled.text_ne_nil valid.toSpelled.head
  have chars := decimal_chars valid
  have plain := fun c member => isPlain_decimalChar (signed_chars valid negative c member)
  have solid : Text.strip (withSign negative decimal.text) = withSign negative decimal.text :=
    strip_eq_self fun c => (Inert.ofPlain plain).isBlank
  have noInteger : isDecimal (withSign negative decimal.text) = false := by
    simp [isDecimal, sign, decimal_marked valid]
  have noPrefix : prefixed? (withSign negative decimal.text) = none := by
    rw [prefixed?]
    simp only [sign]
    split
    · rename_i mark first rest split
      have base := base?_decimal (chars mark (by simp [split]))
      rw [base]
      rfl
    · rfl
  have noInfinity : infinity? (withSign negative decimal.text) = none := by
    have word : decimal.text ≠ "Infinity".toList := fun same => absurd (chars 'I' (by simp [same])) (by decide)
    simp only [infinity?, sign, word, if_false]
  rw [number?]
  simp only [solid, noInteger, noPrefix, noInfinity, valid.read? negative]
  rfl

theorem print_finite (negative : Bool) (mantissa : Nat) (exponent : Int) :
    print (.real (.finite negative mantissa exponent)) =
      .ok (Binary64.text Number.shortSpelling (.finite negative mantissa exponent)) := rfl

/-- **A floating point number that is no NaN is read as it is written.** -/
theorem value_real {x : Binary64} (proper : x.Proper) {text : String} (printed : print (.real x) = .ok text) :
    value (Argument.unquote text.toList) = .ok (.real x) := by
  cases x with
  | nan label => exact proper.elim
  | infinite negative =>
    obtain ⟨word, spelled, plain, noColon, noEscape, known⟩ : ∃ word : List Char, text.toList = word ∧
        (∀ c ∈ word, isPlain c = true) ∧ ':' ∉ word ∧ '\\' ∉ word ∧
        keyword? (String.ofList word) = some (.real (.infinite negative)) := by
      cases printed
      cases negative with
      | false => exact ⟨"Infinity".toList, rfl, by decide, by decide, by decide, rfl⟩
      | true => exact ⟨"-Infinity".toList, rfl, by decide, by decide, by decide, rfl⟩
    rw [spelled, unquote_inert plain, value_untagged noColon noEscape, auto, known]
  | finite negative mantissa exponent =>
    rw [print_finite, Except.ok.injEq] at printed
    rw [← printed]
    obtain ⟨decimal, written, valid, same⟩ := Binary64.text_decimal Number.shortSpelling negative proper
    have chars := signed_chars valid negative
    have noColon : ':' ∉ withSign negative decimal.text := fun member => absurd (chars _ member) (by decide)
    have noEscape : '\\' ∉ withSign negative decimal.text := fun member => absurd (chars _ member) (by decide)
    obtain ⟨c, member⟩ := List.exists_mem_of_ne_nil _ valid.filled
    have digit : c ∈ withSign negative decimal.text := by
      have inside : c ∈ decimal.text := by simp [Decimal.text, member]
      unfold withSign
      split
      · exact List.mem_cons_of_mem _ inside
      · exact inside
    rw [written, unquote_inert fun c member => isPlain_decimalChar (chars c member), value_untagged noColon noEscape,
      auto, keyword?_eq_none digit (valid.whole c member), number?_decimal valid, same]
    rfl

/-- A NaN is read as a text. -/
theorem value_nan (label : Nat) {text : String} (printed : print (.real (.nan label)) = .ok text) :
    value (Argument.unquote text.toList) = .ok (.text "nan") := by
  obtain rfl := Except.ok.inj printed
  have word : (Binary64.text Number.shortSpelling (.nan label)).toList = ['n', 'a', 'n'] :=
    (by decide : "nan".toList = ['n', 'a', 'n'])
  have noNumber : number? ['n', 'a', 'n'] = .ok none := rfl
  have decoded : Text.Percent.decode ['n', 'a', 'n'] = ['n', 'a', 'n'] := decode_encode ['n', 'a', 'n']
  have noKeyword : keyword? (String.ofList ['n', 'a', 'n']) = none := rfl
  rw [word, unquote_inert (by decide), value_untagged (by decide) (by decide), auto, noKeyword, noNumber]
  simp only [Outcome.ok_bind, unescaped, decoded, singleQuoted?]
  rfl

/-! ### Dates, patterns and mappings -/

theorem value_dateTag (utc : Moment) :
    value (['d', 'a', 't', 'e', ':'] ++ utcText utc) = (date (utcText utc)).map Value.moment := by
  have noEscape : '\\' ∉ utcText utc := fun member => absurd (utcText_plain utc _ member) (by decide)
  have known : Tag.ofName? (String.ofList ['d', 'a', 't', 'e']) = some .date := rfl
  have read := value_tag (by decide : 'd'.isAlpha = true) (by decide : ∀ c ∈ ['a', 't', 'e'], Text.isWord c = true)
    known noEscape
  simp only [List.cons_append, List.nil_append] at read ⊢
  rw [read, Tag.read]
  cases date (utcText utc) <;> rfl

/-- A date is written under its tag, on the clock of UTC. -/
theorem print_moment {moment utc : Moment} (found : moment.toUtc? = some utc) :
    ∃ text, print (.moment moment) = .ok text ∧ text.toList = ['d', 'a', 't', 'e', ':'] ++ utcText utc := by
  refine ⟨"date:" ++ String.ofList (utcText utc), ?_, ?_⟩
  · rw [print, printMoment, found]
  · rw [String.toList_append, @String.toList_ofList (utcText utc)]
    rfl

/-- A date is read as the date of UTC that is written for it. -/
theorem value_moment {moment : Moment} {text : String} (printed : print (.moment moment) = .ok text) :
    ∃ utc, moment.toUtc? = some utc ∧
      value (Argument.unquote text.toList) = (date (utcText utc)).map Value.moment := by
  cases found : moment.toUtc? with
  | none => simp [print, printMoment, found] at printed
  | some utc =>
    obtain ⟨again, done, split⟩ := print_moment found
    obtain rfl := Except.ok.inj (done.symm.trans printed)
    have whole : ∀ c ∈ ['d', 'a', 't', 'e', ':'] ++ utcText utc, isPlain c = true := by
      rw [List.forall_mem_append]
      exact ⟨by decide, utcText_plain utc⟩
    exact ⟨utc, rfl, by rw [split, unquote_inert whole, value_dateTag]⟩

/-- **Which dates are read again.** A date is written as the date of UTC that is the same point in time, if
there is one. What is written is read as this date if its year has four digits or its microseconds are no whole
milliseconds, and otherwise it is refused as no date. -/
theorem value_print_moment {moment utc : Moment} (valid : utc.isValid = true) (zone : utc.offset = some 0)
    (same : utc.instant = moment.instant) :
    ∃ text, print (.moment moment) = .ok text ∧
      (1000 ≤ utc.date.year ∨ utc.microsecond % 1000 ≠ 0 →
        ∃ again, value text.toList = .ok (.moment again) ∧ again = utc ∧ again.instant = moment.instant) ∧
      (¬ (1000 ≤ utc.date.year ∨ utc.microsecond % 1000 ≠ 0) →
        value text.toList = .error (badDate (utcText utc))) := by
  have found : moment.toUtc? = some utc := Moment.toUtc?_eq_some_iff.mpr ⟨valid, zone, same⟩
  obtain ⟨text, printed, split⟩ := print_moment found
  refine ⟨text, printed, fun legible => ⟨utc, ?_, rfl, same⟩, fun short => ?_⟩
  · rw [split, value_dateTag, date_utcText valid zone legible]
    rfl
  · obtain ⟨early, exact⟩ := not_or.mp short
    rw [split, value_dateTag, date_utcText_short (Nat.not_le.mp early) (not_not.mp exact)]
    rfl

/-- Dates of a clock ahead of UTC, so that the year of UTC is the one before: the one to the microsecond is read
again, and the one to the millisecond is not. -/
theorem value_print_moment_carried :
    (∃ text, print (.moment ⟨⟨1000, 1, 1⟩, 1, 30, 0, 5001, some 7200000000⟩) = .ok text ∧
      value text.toList = .ok (.moment ⟨⟨999, 12, 31⟩, 23, 30, 0, 5001, some 0⟩)) ∧
    Moment.instant ⟨⟨999, 12, 31⟩, 23, 30, 0, 5001, some 0⟩ = Moment.instant ⟨⟨1000, 1, 1⟩, 1, 30, 0, 5001, some 7200000000⟩ ∧
    ∃ text, print (.moment ⟨⟨1000, 1, 1⟩, 1, 30, 0, 5000, some 7200000000⟩) = .ok text ∧
      value text.toList = .error (badDate "999-12-31T23:30:00.005Z".toList) := by
  obtain ⟨text, printed, read, _⟩ :=
    @value_print_moment ⟨⟨1000, 1, 1⟩, 1, 30, 0, 5001, some 7200000000⟩ ⟨⟨999, 12, 31⟩, 23, 30, 0, 5001, some 0⟩
      (by decide) rfl (by decide)
  obtain ⟨other, written, _, refused⟩ :=
    @value_print_moment ⟨⟨1000, 1, 1⟩, 1, 30, 0, 5000, some 7200000000⟩ ⟨⟨999, 12, 31⟩, 23, 30, 0, 5000, some 0⟩
      (by decide) rfl (by decide)
  obtain ⟨_, found, rfl, same⟩ := read (by decide)
  exact ⟨⟨text, printed, found⟩, same, other, written, refused (by decide)⟩

/-- **A compiled pattern is read as the pattern.** -/
theorem value_pattern {named : List Char → Prop} {pattern : Pattern}
    (sound : (Value.pattern pattern).Sound named) {text : String} (printed : print (.pattern pattern) = .ok text) :
    value (Argument.unquote text.toList) = .ok (.pattern pattern) := by
  obtain ⟨flags, plain, compiled⟩ := sound
  have again := (Pattern.compile_again plain compiled).2
  obtain rfl := Except.ok.inj printed
  by_cases set : pattern.flags.ignoreCase = true
  · rw [if_pos set] at again
    rw [if_pos set, @value_tagged "re" 'r' ['e'] .caselessPattern (by decide) (by decide) (by decide) (by decide) rfl,
      Tag.read, Literal.pattern]
    simp only [decode_encode, String.ofList_toList]
    rw [show Pattern.Flags.ofLetters ['i'] = Pattern.Flags.insert {} .ignoreCase from rfl, again]
    rfl
  · rw [if_neg set] at again
    rw [if_neg set, @value_tagged "RE" 'R' ['E'] .pattern (by decide) (by decide) (by decide) (by decide) rfl,
      Tag.read, Literal.pattern]
    simp only [decode_encode, String.ofList_toList]
    rw [show Pattern.Flags.ofLetters [] = {} from rfl, again]
    rfl

mutual

/-- A value that comes from a JSON document has this document. -/
theorem toJson_ofJson (special : Moment ⊕ Pattern → Except Value.NoDocument Json) :
    ∀ {json : Json}, json.Sound → (Value.ofJson json).toJson special = .ok json
  | .null, _ => rfl
  | .bool _, _ => rfl
  | .int n, sound => if_pos sound
  | .real _, _ => rfl
  | .text _, _ => rfl
  | .array items, sound => by
    rw [Value.ofJson, Value.toJson, toJsonItems_ofJson special sound]
    rfl
  | .object members, sound => by
    rw [Value.ofJson, Value.toJson, toJsonMembers_ofJson special sound.2]
    rfl

theorem toJsonItems_ofJson (special : Moment ⊕ Pattern → Except Value.NoDocument Json) :
    ∀ {items : List Json}, Json.AllSound items → Value.toJsonItems special (Value.ofJsonItems items) = .ok items
  | [], _ => rfl
  | item :: rest, sound => by
    rw [Value.ofJsonItems, Value.toJsonItems, toJson_ofJson special sound.1, toJsonItems_ofJson special sound.2]
    rfl

theorem toJsonMembers_ofJson (special : Moment ⊕ Pattern → Except Value.NoDocument Json) :
    ∀ {members : List (String × Json)}, Json.MembersSound members →
      Value.toJsonMembers special (Value.ofJsonMembers members) = .ok members
  | [], _ => rfl
  | (key, item) :: rest, sound => by
    rw [Value.ofJsonMembers, Value.toJsonMembers, toJson_ofJson special sound.1, toJsonMembers_ofJson special sound.2]
    rfl

end

/-- **A mapping that comes from JSON is read as the mapping.** -/
theorem value_mapping {members : List (String × Json)} (sound : (Json.object members).Sound) {text : String}
    (printed : print (.mapping (Value.ofJsonMembers members)) = .ok text) :
    value (Argument.unquote text.toList) = .ok (.mapping (Value.ofJsonMembers members)) := by
  have made : document (Value.ofJsonMembers members) = .ok (.object members) := by
    have whole := toJson_ofJson (fun _ => .error .kind) sound
    rw [Value.ofJson] at whole
    rw [document, whole]
  simp only [print, made, Outcome.ok_bind, Outcome.pure_eq, Except.ok.injEq] at printed
  rw [← printed, @value_tagged "json" 'j' ['s', 'o', 'n'] .json (by decide) (by decide) (by decide) (by decide) rfl,
    Tag.read, Literal.json]
  simp only [decode_encode, String.ofList_toList, Json.read_write Json.loose_compact sound]
  rfl

/-- A mapping of data without dates, patterns and tuples. -/
structure DataMapping where
  entries : Entries Value
  data : (Value.mapping entries).IsData false

def DataMapping.toValue (mapping : DataMapping) : Value := .mapping mapping.entries

/-- A mapping of data that is written comes from JSON. -/
theorem ofJsonMembers_of_print {mapping : DataMapping} {text : String} (printed : print mapping.toValue = .ok text) :
    ∃ members, (Json.object members).Sound ∧ mapping.toValue = .mapping (Value.ofJsonMembers members) := by
  obtain ⟨json, made, -⟩ := Outcome.bind_eq_ok_iff.mp printed
  unfold document at made
  split at made
  · rename_i found
    cases made
    obtain ⟨members, each, rfl⟩ := Outcome.map_eq_ok_iff.mp found
    obtain ⟨sound, same⟩ := Value.ofJson_toJson (fun _ _ none => by cases none) mapping.data.made mapping.data.apart found
    rw [Value.decoded_eq_self mapping.data.made] at same
    exact ⟨members, sound, same.symm⟩
  · cases made
  · cases made

/-- Which characters a printed literal never holds. -/
theorem print_notMem {value : Value} {text : String} (printed : print value = .ok text) :
    ∀ c ∈ text.toList, c ∉ ['(', ')', ',', '&', '|', '\'', '"', ' ', '=', '<', '>'] := by
  intro c member sign
  have outside : ∀ c ∈ ['(', ')', ',', '&', '|', '\'', '"', ' ', '=', '<', '>'], isPlain c = false ∧ c ≠ '%' ∧ c ≠ '\\' := by
    decide
  exact (print_inert printed).1.notMem (outside c sign) member

/-- The escapes of `<` and `>` in a printed literal stand behind a backslash. -/
theorem print_behind {value : Value} {text : String} (printed : print value = .ok text) {before after : List Char}
    {letter : Char} (split : text.toList = before ++ '%' :: '3' :: letter :: after) (form : letter ∈ ['C', 'c', 'E', 'e']) :
    before.getLast? = some '\\' :=
  Shorthand.hasForm_eq_false_iff.mp (print_inert printed).1.calm.hasForm _ _ _ split form

/-- **Mappings of data survive printing.** What is written for one is read as the mapping, each of its entries in
its place, and no reader of queries takes the text apart: it holds no sign that such a reader looks for, and the
escapes of `<` and `>` stand behind a backslash. -/
theorem value_print_mapping {mapping : DataMapping} {text : String} (printed : print mapping.toValue = .ok text) :
    value (Argument.unquote text.toList) = .ok mapping.toValue ∧
      (∀ c ∈ text.toList, c ∉ ['(', ')', ',', '&', '|', '\'', '"', ' ', '=', '<', '>']) ∧
      ∀ before letter after, text.toList = before ++ '%' :: '3' :: letter :: after → letter ∈ ['C', 'c', 'E', 'e'] →
        before.getLast? = some '\\' := by
  obtain ⟨members, sound, whole⟩ := ofJsonMembers_of_print printed
  have read : value (Argument.unquote text.toList) = .ok mapping.toValue := by
    rw [whole] at printed ⊢
    exact value_mapping sound printed
  exact ⟨read, print_notMem printed, fun _ _ _ split form => print_behind printed split form⟩

/-- Keys and texts with quotes, signs of queries, escapes that are meant as they stand, and characters beyond the
first plane, in nested containers. -/
theorem value_print_mapping_nested :
    let entries : List (String × Value) :=
      [("<'", .list [.null, .bool true, .int (-12), .text "%3C\\\"😀"]), ("", .mapping [("é=(,|&)", .list [])])]
    let text := "json:%7B%22\\%3C%27%22%3A%5Bnull%2Ctrue%2C-12%2C%22%253C%5C%5C%5C%22%5Cud83d%5Cude00%22%5D%2C%22%22%3A%7B" ++
      "%22%5Cu00e9%3D%28%2C%7C%26%29%22%3A%5B%5D%7D%7D"
    (Value.mapping entries).IsData false ∧ print (.mapping entries) = .ok text ∧
      value (Argument.unquote text.toList) = .ok (.mapping entries) := by
  intro entries text
  have data : (Value.mapping entries).IsData false :=
    ⟨by simp [entries, Value.OfData, Value.EntriesOfData, Value.AllOfData],
      by simp [entries, Value.KeysApart, Value.EntriesKeysApart, Value.AllKeysApart]⟩
  have printed : print (.mapping entries) = .ok text := by decide +kernel
  exact ⟨data, printed, (@value_print_mapping ⟨entries, data⟩ text printed).1⟩

end ResourceQuery.Literal
