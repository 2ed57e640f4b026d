import ResourceQuery.Proofs.Literal.Printed

/-!
Plain literals read back. An integer is read as its digits (`value_integerText`), and a text either
reads as itself without a tag or is written under the tag for texts (`value_printText`).
-/
namespace ResourceQuery.Literal

theorem splitTag?_none {text : List Char} (noColon : ':' ∉ text) : splitTag? text = none := by
  unfold splitTag?
  split
  · rfl
  · rename_i first rest
    split
    · rename_i after split
      have member : ':' ∈ rest.dropWhile Text.isWord := by simp [split]
      exact absurd (List.mem_cons_of_mem _ ((List.dropWhile_suffix _).subset member)) noColon
    · rfl

theorem splitTag?_colon {first : Char} {name : List Char} (letter : first.isAlpha = true)
    (word : ∀ c ∈ name, Text.isWord c = true) (after : List Char) :
    splitTag? (first :: name ++ ':' :: after) = some (first :: name, after) := by
  have stop : Text.isWord ':' = false := by decide
  have drop : (name ++ ':' :: after).dropWhile Text.isWord = ':' :: after := by
    rw [List.dropWhile_append_of_pos word, List.dropWhile_cons_of_neg (by simp [stop])]
  have take : (name ++ ':' :: after).takeWhile Text.isWord = name := by
    rw [List.takeWhile_append_of_pos word, List.takeWhile_cons_of_neg (by simp [stop]), List.append_nil]
  simp [splitTag?, drop, take, letter]

theorem plainColons_eq_self {text : List Char} (noEscape : '\\' ∉ text) : plainColons text = text := by
  unfold plainColons
  fun_induction Text.replacePair '\\' ':' [':'] text with
  | case1 a b rest pair ih =>
    obtain ⟨rfl, rfl⟩ := pair
    exact absurd List.mem_cons_self noEscape
  | case2 a b rest other ih =>
    rw [List.mem_cons, not_or] at noEscape
    rw [ih noEscape.2]
  | case3 => rfl

/-- A text without colons and backslashes is read without a tag. -/
theorem value_untagged {text : List Char} (noColon : ':' ∉ text) (noEscape : '\\' ∉ text) : value text = auto text := by
  rw [value, splitTag?_none noColon, plainColons_eq_self noEscape]

/-- A text behind a known tag is read under it. -/
theorem value_tag {first : Char} {name text : List Char} {tag : Tag} (letter : first.isAlpha = true)
    (word : ∀ c ∈ name, Text.isWord c = true) (known : Tag.ofName? (String.ofList (first :: name)) = some tag)
    (noEscape : '\\' ∉ text) : value (first :: name ++ ':' :: text) = tag.read text := by
  rw [value, splitTag?_colon letter word]
  simp only [known, plainColons_eq_self noEscape]

theorem unquote_inert {text : List Char} (plain : ∀ c ∈ text, isPlain c = true) : Argument.unquote text = text := by
  have all := unquote_plain (fun c member => .inl (plain c member)) []
  rw [List.append_nil] at all
  rw [all]
  exact List.append_nil _

theorem encode_noColon (text : List Char) : ':' ∉ Text.Percent.encode Text.Percent.isUnreserved text :=
  fun member => absurd (encode_unreserved member) (by decide)

theorem encode_noEscape (text : List Char) : '\\' ∉ Text.Percent.encode Text.Percent.isUnreserved text :=
  fun member => absurd (encode_unreserved member) (by decide)

/-- What is written under a tag is read under it, without the backslashes. -/
theorem value_tagged {tag : String} {first : Char} {name : List Char} {kind : Tag} (spelled : tag.toList = first :: name)
    (letter : first.isAlpha = true) (plain : isPlain first = true)
    (word : ∀ c ∈ name, isPlain c = true ∧ Text.isWord c = true) (known : Tag.ofName? tag = some kind)
    (text : List Char) :
    value (Argument.unquote (tagged tag text).toList) =
      kind.read (Text.Percent.encode Text.Percent.isUnreserved text) := by
  have split : (tagged tag text).toList = (first :: name ++ [':']) ++ escape text := by simp [tagged, spelled]
  have front : ∀ c ∈ first :: name ++ [':'], isPlain c = true ∨ c = '%' := by
    simp only [List.cons_append, List.forall_mem_cons, List.forall_mem_append]
    exact ⟨.inl plain, fun c member => .inl (word c member).1, .inl (by decide), by simp⟩
  have whole : Argument.unquote (tagged tag text).toList =
      first :: name ++ ':' :: Text.Percent.encode Text.Percent.isUnreserved text := by
    rw [split, unquote_plain front, unquote_escape]
    simp
  rw [← @String.ofList_toList tag, spelled] at known
  rw [whole, value_tag letter (fun c member => (word c member).2) known (encode_noEscape text)]

/-- A printed text is read as the text. -/
theorem value_printText {s text : String} (done : printText s = .ok text) :
    value (Argument.unquote text.toList) = .ok (.text s) := by
  have tag : value (Argument.unquote (tagged "string" s.toList).toList) = .ok (.text s) := by
    rw [@value_tagged "string" 's' "tring".toList .text rfl (by decide) (by decide) (by decide) rfl, Tag.read,
      decode_encode, String.ofList_toList]
  unfold printText at done
  split at done
  · rename_i none
    cases done
    obtain rfl : s = "" := by simpa using none
    exact tag
  · obtain ⟨found, read, same⟩ := Outcome.bind_eq_ok_iff.mp done
    split at same
    · rename_i again
      by_cases equal : again = s
      · subst equal
        rw [if_pos rfl] at same
        cases same
        have noColon := encode_noColon again.toList
        have noEscape := encode_noEscape again.toList
        rw [← unquote_escape] at noColon noEscape
        rw [String.toList_ofList, value_untagged noColon noEscape, read]
      · rw [if_neg equal] at same
        cases same
        exact tag
    · cases same
      exact tag

theorem keyword?_eq_none {text : List Char} {c : Char} (member : c ∈ text) (digit : c.isDigit = true) :
    keyword? (String.ofList text) = none := by
  have spelled : ∀ word : String, String.ofList text = word → ∃ c ∈ word.toList, c.isDigit = true := by
    rintro word rfl
    exact ⟨c, by simpa using member, digit⟩
  unfold keyword?
  split <;> first | rfl | exact absurd (spelled _ ‹_›) (by decide)

theorem digitValue?_digit {c : Char} (digit : c.isDigit = true) : Text.digitValue? c = some (c.toNat - 48) := by
  have range := isPlain_range (isPlain_digit digit)
  have ascii : c.toNat < 0x80 := by omega
  simp [Text.digitValue?, ascii, digit]

theorem ofDigits_eq {text : List Char} (digits : ∀ c ∈ text, c.isDigit = true) :
    Number.ofDigits text = Nat.ofDigitChars 10 text 0 := by
  have each : ∀ value, text.foldl (fun value c => 10 * value + (Text.digitValue? c).getD 0) value =
      Nat.ofDigitChars 10 text value := by
    induction text with
    | nil => intro value; rfl
    | cons c text ih =>
      rw [List.forall_mem_cons] at digits
      intro value
      rw [List.foldl_cons, ih digits.2, digitValue?_digit digits.1]
      rfl
  exact each 0

theorem digits_isDigit {n : Nat} {c : Char} (member : c ∈ Number.digits n) : c.isDigit = true :=
  Nat.isDigit_of_mem_toDigits (by decide) (by decide) member

/-- The digits of a number denote the number. -/
theorem ofDigits_digits (n : Nat) : Number.ofDigits (Number.digits n) = n := by
  rw [ofDigits_eq fun c => digits_isDigit, Number.digits, Nat.ofDigitChars_ten_toDigits]

theorem takeSign_digits {text : List Char} (digits : ∀ c ∈ text, c.isDigit = true) :
    Number.takeSign text = (false, text) := by
  unfold Number.takeSign
  split
  · exact absurd (digits _ List.mem_cons_self) (by decide)
  · exact absurd (digits _ List.mem_cons_self) (by decide)
  · rfl

theorem takeSign_integerText (n : Int) :
    Number.takeSign (Number.integerText n) = (decide (n < 0), Number.digits n.natAbs) := by
  unfold Number.integerText
  split
  · rename_i negative
    simp [Number.takeSign, negative]
  · rename_i positive
    simp [takeSign_digits fun c => digits_isDigit, positive]

theorem number?_integerText {n : Int} (writable : Number.isWritable n = true) :
    number? (Number.integerText n) = .ok (some (.int n)) := by
  have solid : Text.strip (Number.integerText n) = Number.integerText n :=
    strip_eq_self fun c => (Inert.ofPlain (integerText_plain n)).isBlank
  have fits : ¬ Number.maxDigits < (Number.digits n.natAbs).length := by
    simpa [Number.isWritable] using writable
  have decimalDigits : isDecimal (Number.integerText n) = true := by
    have each : (Number.digits n.natAbs).all Text.isDigit = true := by
      rw [List.all_eq_true]
      intro c member
      rw [Text.isDigit, digitValue?_digit (digits_isDigit member)]
      rfl
    simp [isDecimal, takeSign_integerText, digits_ne_nil, each]
  have whole : Number.signed (decide (n < 0)) n.natAbs = n := by
    simp only [Number.signed, decide_eq_true_eq]
    omega
  rw [number?]
  simp only [solid, decimalDigits, decimal, takeSign_integerText, fits, if_true, if_false, ofDigits_digits, whole]
  rfl

/-- The digits of an integer are read as the integer. -/
theorem value_integerText {n : Int} (writable : Number.isWritable n = true) :
    value (Number.integerText n) = .ok (.int n) := by
  obtain ⟨c, member, digit⟩ : ∃ c ∈ Number.integerText n, c.isDigit = true := by
    obtain ⟨c, member⟩ := List.exists_mem_of_ne_nil _ (digits_ne_nil n.natAbs)
    refine ⟨c, ?_, digits_isDigit member⟩
    unfold Number.integerText
    split
    · exact List.mem_cons_of_mem _ member
    · exact member
  have chars : ∀ c ∈ Number.integerText n, c = '-' ∨ c.isDigit = true := by
    intro c member
    unfold Number.integerText at member
    split at member
    · exact (List.mem_cons.mp member).imp id digits_isDigit
    · exact .inr (digits_isDigit member)
  have noColon : ':' ∉ Number.integerText n := fun member => absurd (chars _ member) (by decide)
  have noEscape : '\\' ∉ Number.integerText n := fun member => absurd (chars _ member) (by decide)
  rw [value_untagged noColon noEscape, auto, keyword?_eq_none member digit, number?_integerText writable]
  rfl

end ResourceQuery.Literal
