import ResourceQuery.Proofs.Literal.Inert

/-!
Printed literals are inert (`print_inert`): numbers and dates are written with digits and signs,
and texts under a tag are escaped.
-/
namespace ResourceQuery.Literal

theorem isPlain_digit {c : Char} (digit : c.isDigit = true) : isPlain c = true := by
  simp [isPlain, Text.Percent.isUnreserved, Char.isAlphanum, digit]

theorem digits_plain (n : Nat) : ∀ c ∈ Number.digits n, isPlain c = true := fun _ member =>
  isPlain_digit (Nat.isDigit_of_mem_toDigits (by decide) (by decide) member)

theorem padded_plain (width n : Nat) : ∀ c ∈ Number.padded width n, isPlain c = true := by
  intro c member
  rcases List.mem_append.mp member with zero | digit
  · obtain rfl := List.eq_of_mem_replicate zero
    decide
  · exact digits_plain n c digit

theorem integerText_plain (n : Int) : ∀ c ∈ Number.integerText n, isPlain c = true := by
  intro c member
  unfold Number.integerText at member
  split at member
  · rcases List.mem_cons.mp member with rfl | digit
    · decide
    · exact digits_plain _ c digit
  · exact digits_plain _ c member

theorem digits_ne_nil (n : Nat) : Number.digits n ≠ [] := Nat.toDigits_ne_nil

theorem integerText_ne_nil (n : Int) : Number.integerText n ≠ [] := by
  unfold Number.integerText
  split
  · simp
  · exact digits_ne_nil _

theorem zeros_plain (count : Nat) : ∀ c ∈ List.replicate count '0', isPlain c = true := by
  intro c member
  obtain rfl := List.eq_of_mem_replicate member
  decide

theorem layout_plain (layout : Number.Layout) {digits : List Char} (magnitude : Int)
    (plain : ∀ c ∈ digits, isPlain c = true) : ∀ c ∈ layout.text digits magnitude, isPlain c = true := by
  have first : ∀ count, ∀ c ∈ digits.take count, isPlain c = true := fun _ c member =>
    plain c (List.mem_of_mem_take member)
  have last : ∀ count, ∀ c ∈ digits.drop count, isPlain c = true := fun _ c member =>
    plain c (List.mem_of_mem_drop member)
  have point : isPlain '.' = true := by decide
  have zero : isPlain '0' = true := by decide
  have mark : isPlain 'e' = true := by decide
  simp only [Number.Layout.text]
  split
  · split
    · simp only [List.cons_append, List.forall_mem_cons, List.forall_mem_append]
      exact ⟨zero, point, zeros_plain _, plain⟩
    · simp only [List.forall_mem_cons, List.forall_mem_append]
      refine ⟨⟨first _, zeros_plain _⟩, point, ?_⟩
      split
      · simpa using zero
      · exact last _
  · simp only [List.forall_mem_cons, List.forall_mem_append]
    refine ⟨?_, mark, ?_, padded_plain _ _⟩
    · split
      · exact plain
      · simp only [List.forall_mem_cons, List.forall_mem_append]
        exact ⟨first _, point, last _⟩
    · split <;> decide

theorem sign_plain (negative : Bool) {text : List Char} (plain : ∀ c ∈ text, isPlain c = true) :
    ∀ c ∈ (if negative then '-' :: text else text), isPlain c = true := by
  split
  · rw [List.forall_mem_cons]
    exact ⟨by decide, plain⟩
  · exact plain

theorem real_plain (x : Number.Binary64) : ∀ c ∈ (x.text Number.shortSpelling).toList, isPlain c = true := by
  cases x with
  | nan label =>
    have word : ∀ c ∈ "nan".toList, isPlain c = true := by decide
    exact word
  | infinite negative => cases negative <;> decide
  | finite negative mantissa exponent =>
    simp only [Number.Binary64.text, String.toList_ofList]
    refine sign_plain negative ?_
    split
    · decide
    · exact layout_plain _ _ (digits_plain _)

theorem layout_ne_nil (layout : Number.Layout) (digits : List Char) (magnitude : Int) :
    layout.text digits magnitude ≠ [] := by
  simp only [Number.Layout.text]
  split
  · split <;> simp
  · simp

theorem real_ne_nil (x : Number.Binary64) : (x.text Number.shortSpelling).toList ≠ [] := by
  cases x with
  | nan label =>
    have word : "nan".toList ≠ [] := by decide
    exact word
  | infinite negative => cases negative <;> decide
  | finite negative mantissa exponent =>
    simp only [Number.Binary64.text, String.toList_ofList]
    split
    · simp
    · split
      · simp
      · exact layout_ne_nil _ _ _

theorem utcText_plain (moment : Time.Moment) : ∀ c ∈ utcText moment, isPlain c = true := by
  have clock : ∀ c ∈ Time.Iso.clockText moment, isPlain c = true := by
    simp only [Time.Iso.clockText, List.forall_mem_cons, List.forall_mem_append]
    exact ⟨⟨padded_plain _ _, by decide, padded_plain _ _⟩, by decide, padded_plain _ _⟩
  unfold utcText
  split
  · simp only [Time.Iso.dateText, Time.Iso.fractionText, List.forall_mem_cons, List.forall_mem_append]
    refine ⟨⟨⟨⟨⟨padded_plain _ _, by decide, padded_plain _ _⟩, by decide, padded_plain _ _⟩, by decide, clock⟩, ?_⟩,
      by decide⟩
    split
    · simp
    · rw [List.forall_mem_cons]
      exact ⟨by decide, padded_plain _ _⟩
  · simp only [List.forall_mem_cons, List.forall_mem_append]
    exact ⟨⟨⟨⟨⟨digits_plain _, by decide, padded_plain _ _⟩, by decide, padded_plain _ _⟩, by decide, clock⟩,
      by decide, padded_plain _ _⟩, by decide⟩

/-- What is written under a tag is inert. -/
theorem tagged_inert {tag : String} (plain : ∀ c ∈ tag.toList, isPlain c = true) (text : List Char) :
    Inert (tagged tag text).toList ∧ (tagged tag text).toList ≠ [] := by
  have split : (tagged tag text).toList = tag.toList ++ ':' :: escape text := by simp [tagged]
  rw [split]
  exact ⟨(Inert.ofPlain plain).append (.plain (by decide) (inert_escape text)), by simp⟩

theorem escape_ne_nil {text : List Char} (some : text ≠ []) : escape text ≠ [] := by
  intro none
  have whole := decode_escape text
  rw [none] at whole
  exact some whole.symm

theorem printText_inert {s text : String} (done : printText s = .ok text) :
    Inert text.toList ∧ text.toList ≠ [] := by
  have tag : ∀ c ∈ "string".toList, isPlain c = true := by decide
  unfold printText at done
  split at done
  · cases done
    exact ⟨.ofPlain (by decide), by decide⟩
  · rename_i some
    obtain ⟨value, read, same⟩ := Outcome.bind_eq_ok_iff.mp done
    split at same
    · rename_i again
      by_cases equal : again = s
      · rw [if_pos equal] at same
        cases same
        rw [String.toList_ofList]
        exact ⟨inert_escape _, escape_ne_nil (by simpa using some)⟩
      · rw [if_neg equal] at same
        cases same
        exact tagged_inert tag _
    · cases same
      exact tagged_inert tag _

/-- A printed literal is inert and not empty. -/
theorem print_inert {value : Value} {text : String} (done : print value = .ok text) :
    Inert text.toList ∧ text.toList ≠ [] := by
  cases value with
  | null =>
    cases done
    exact ⟨.ofPlain (by decide), by decide⟩
  | bool b =>
    cases done
    cases b <;> exact ⟨.ofPlain (by decide), by decide⟩
  | int n =>
    simp only [print, shownInt] at done
    split at done
    · cases done
      rw [String.toList_ofList]
      exact ⟨.ofPlain (integerText_plain n), integerText_ne_nil n⟩
    · cases done
  | real x =>
    cases x with
    | infinite negative =>
      cases done
      cases negative <;> exact ⟨.ofPlain (by decide), by decide⟩
    | nan label =>
      cases done
      exact ⟨.ofPlain (real_plain _), real_ne_nil _⟩
    | finite negative mantissa exponent =>
      cases done
      exact ⟨.ofPlain (real_plain _), real_ne_nil _⟩
  | text s => exact printText_inert done
  | moment m =>
    simp only [print, printMoment] at done
    split at done
    · rename_i utc found
      cases done
      have split : ("date:" ++ String.ofList (utcText utc)).toList = "date:".toList ++ utcText utc := by simp
      rw [split]
      refine ⟨(Inert.ofPlain (by decide)).append (.ofPlain (utcText_plain utc)), by simp⟩
    · cases done
  | pattern p =>
    cases done
    split <;> exact tagged_inert (by decide) _
  | mapping entries =>
    obtain ⟨document, made, same⟩ := Outcome.bind_eq_ok_iff.mp done
    cases same
    exact tagged_inert (by decide) _
  | list items => cases done
  | tuple items => cases done
  | node name args => cases done

end ResourceQuery.Literal
