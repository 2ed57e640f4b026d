import ResourceQuery.Literal.Basic
import ResourceQuery.Proofs.Outcome

/-!
Limits of literals. What is wrong with a query is told by errors that are declared: the text is no query,
or a literal is none of its tag. A literal beyond a limit of the integers or patterns, which its tag does
not look for, ends with another error; `value_undeclared_iff` says which literals these are.
-/
namespace ResourceQuery

/-- The errors that reading a query declares. -/
def Error.isDeclared : Error → Bool
  | .parse _ => true
  | .literal _ => true
  | _ => false

/-- A step ends with an error that is not declared. -/
def Undeclared {α : Type} (step : Except Error α) (fault : Error) : Prop :=
  step = .error fault ∧ fault.isDeclared = false

section
variable {α β : Type} {fault : Error}

theorem not_undeclared_ok (value : α) : ¬ Undeclared (.ok value) fault := fun escaped => nomatch escaped.1

theorem not_undeclared_error {declared : Error} (known : declared.isDeclared = true) :
    ¬ Undeclared (Except.error declared : Except Error α) fault := by
  rintro ⟨⟨⟩, undeclared⟩
  rw [known] at undeclared
  cases undeclared

theorem undeclared_error_iff {first : Error} :
    Undeclared (Except.error first : Except Error α) fault ↔ first = fault ∧ first.isDeclared = false := by
  constructor
  · rintro ⟨⟨⟩, undeclared⟩
    exact ⟨rfl, undeclared⟩
  · rintro ⟨rfl, undeclared⟩
    exact ⟨rfl, undeclared⟩

theorem undeclared_bind {step : Except Error α} {next : α → Except Error β} :
    Undeclared (step >>= next) fault ↔ Undeclared step fault ∨ ∃ value, step = .ok value ∧ Undeclared (next value) fault := by
  cases step with
  | error first => simp [Undeclared]
  | ok value => simp [Undeclared]

theorem undeclared_pure {step : Except Error α} {f : α → β} :
    Undeclared (do return f (← step)) fault ↔ Undeclared step fault := by
  rw [undeclared_bind, or_iff_left]
  exact fun later => later.elim fun value both => not_undeclared_ok _ both.2

theorem undeclared_map {step : Except Error α} {f : α → β} : Undeclared (step.map f) fault ↔ Undeclared step fault := by
  cases step with
  | error first => simp [Undeclared]
  | ok value => simp [Undeclared]

end

namespace Literal

/-- The digits of an integer in decimal digits, without blanks around it and its sign. -/
def decimalDigits (text : List Char) : List Char := (Number.takeSign (Text.strip text)).2

/-- An integer in more decimal digits than are read. -/
structure Overlong (text : List Char) (fault : Error) : Prop where
  decimal : isDecimal (Text.strip text) = true
  long : Number.maxDigits < (decimalDigits text).length
  reported : fault = .longInteger (decimalDigits text).length

/-- The error of a pattern that is refused for another reason than that it is malformed. -/
def limit? : Pattern.Fault → Option Error
  | .malformed _ _ => none
  | .repeatLimit => some .repeatCount
  | .digitLimit count => some (.longInteger count)
  | .flagConflict => some .patternFlags

/-- A pattern with a repeat count that is too large or has too many digits, or with flags that exclude
each other. -/
def PatternLimit (flags : Pattern.Flags) (text : List Char) (fault : Error) : Prop :=
  ∃ refused, Pattern.compile (String.ofList (Text.Percent.decode text)) flags = .error refused ∧
    limit? refused = some fault

/-- A document that holds an integer of too many digits. -/
def DocumentLimit (text : List Char) (fault : Error) : Prop :=
  ∃ count, Json.read (String.ofList (Text.Percent.decode text)) = .error (.digitLimit count) ∧ fault = .longInteger count

/-- A text goes beyond a limit that its tag does not look for. -/
def Tag.Exceeds : Tag → List Char → Error → Prop
  | .auto => Overlong
  | .number => Overlong
  | .epoch => Overlong
  | .caselessPattern => PatternLimit (.ofLetters ['i'])
  | .pattern => PatternLimit (.ofLetters [])
  | .json => DocumentLimit
  | .text => fun _ _ => False
  | .boolean => fun _ _ => False
  | .date => fun _ _ => False
  | .partialDate => fun _ _ => False

/-- The tag of a literal and the text under it; without a tag its type is found from the text. -/
def tagged? (text : List Char) : Option (Tag × List Char) :=
  match splitTag? text with
  | none => some (.auto, plainColons text)
  | some (name, rest) => (Tag.ofName? (String.ofList name)).map fun tag => (tag, plainColons rest)

section
variable {text : List Char} {fault : Error}

theorem number?_undeclared_iff : Undeclared (number? text) fault ↔ Overlong text fault := by
  unfold number?
  by_cases decimal : isDecimal (Text.strip text) = true
  · have read : Literal.decimal (Text.strip text) =
        if Number.maxDigits < (decimalDigits text).length then .error (.longInteger (decimalDigits text).length)
        else .ok (Number.signed (Number.takeSign (Text.strip text)).1 (Number.ofDigits (decimalDigits text))) := rfl
    simp only [decimal, if_true, read]
    by_cases long : Number.maxDigits < (decimalDigits text).length
    · rw [if_pos long]
      constructor
      · rintro ⟨⟨⟩, _⟩
        exact ⟨decimal, long, rfl⟩
      · rintro ⟨_, _, rfl⟩
        exact ⟨rfl, rfl⟩
    · rw [if_neg long]
      exact iff_of_false (not_undeclared_ok _) fun overlong => long overlong.long
  · simp only [decimal]
    exact iff_of_false (not_undeclared_ok _) fun overlong => decimal overlong.decimal

theorem number_undeclared_iff : Undeclared (number text) fault ↔ Overlong text fault := by
  rw [number, undeclared_bind, number?_undeclared_iff, or_iff_left]
  rintro ⟨found, _, undeclared⟩
  cases found with
  | none => exact not_undeclared_error rfl undeclared
  | some numeral => exact not_undeclared_ok _ undeclared

/-- The words that stand for values are no integers. -/
theorem keyword?_decimal (decimal : isDecimal (Text.strip text) = true) : keyword? (String.ofList text) = none := by
  have words : ∀ word ∈ ["true", "false", "null", "undefined", "Infinity", "-Infinity"],
      isDecimal (Text.strip word.toList) = false := by decide +kernel
  have other : ∀ word ∈ ["true", "false", "null", "undefined", "Infinity", "-Infinity"], String.ofList text ≠ word := by
    rintro word member rfl
    have noDecimal := words _ member
    rw [String.toList_ofList, decimal] at noDecimal
    cases noDecimal
  simp only [List.forall_mem_cons] at other
  obtain ⟨_, _, _, _, _, _, _⟩ := other
  unfold keyword?
  split
  all_goals first
    | contradiction
    | rfl

theorem auto_undeclared_iff : Undeclared (auto text) fault ↔ Overlong text fault := by
  unfold auto
  split
  · rename_i found
    refine iff_of_false (not_undeclared_ok _) fun overlong => ?_
    rw [keyword?_decimal overlong.decimal] at found
    cases found
  · rw [undeclared_bind, number?_undeclared_iff, or_iff_left]
    rintro ⟨found, _, undeclared⟩
    cases found <;> exact not_undeclared_ok _ undeclared

theorem not_undeclared_date : ¬ Undeclared (date text) fault := by
  unfold date
  split
  · exact not_undeclared_ok _
  · exact not_undeclared_error rfl

theorem epoch_undeclared_iff : Undeclared (epoch text) fault ↔ Overlong text fault := by
  rw [epoch, undeclared_bind, number_undeclared_iff, or_iff_left]
  rintro ⟨numeral, _, undeclared⟩
  split at undeclared
  · exact not_undeclared_ok _ undeclared
  · exact not_undeclared_error rfl undeclared

end

section
variable {text : List Char} {fault : Error}

theorem pattern_undeclared_iff {flags : Pattern.Flags} :
    Undeclared (Literal.pattern flags text) fault ↔ PatternLimit flags text fault := by
  unfold Literal.pattern PatternLimit
  simp only
  generalize Pattern.compile (String.ofList (Text.Percent.decode text)) flags = compiled
  cases compiled with
  | ok pattern => exact iff_of_false (not_undeclared_ok _) (by simp)
  | error refused =>
    cases refused with
    | malformed cause position => exact iff_of_false (not_undeclared_error rfl) (by simp [limit?])
    | _ => simp [limit?, undeclared_error_iff, Error.isDeclared]

theorem json_undeclared_iff : Undeclared (json text) fault ↔ DocumentLimit text fault := by
  unfold json DocumentLimit
  simp only
  generalize Json.read (String.ofList (Text.Percent.decode text)) = outcome
  cases outcome with
  | ok json => exact iff_of_false (not_undeclared_ok _) (by simp)
  | error refused =>
    cases refused with
    | malformed cause position => exact iff_of_false (not_undeclared_error rfl) (by simp)
    | digitLimit count => simp [undeclared_error_iff, Error.isDeclared, eq_comm]

end

theorem Tag.read_undeclared_iff {tag : Tag} {text : List Char} {fault : Error} :
    Undeclared (tag.read text) fault ↔ tag.Exceeds text fault := by
  cases tag with
  | auto => exact auto_undeclared_iff
  | number => exact undeclared_pure.trans number_undeclared_iff
  | text => exact iff_of_false (not_undeclared_ok _) not_false
  | boolean => exact iff_of_false (not_undeclared_ok _) not_false
  | date => exact undeclared_pure.trans (iff_of_false not_undeclared_date not_false)
  | epoch => exact undeclared_pure.trans epoch_undeclared_iff
  | partialDate => exact undeclared_pure.trans (iff_of_false not_undeclared_date not_false)
  | caselessPattern => exact undeclared_pure.trans pattern_undeclared_iff
  | pattern => exact undeclared_pure.trans pattern_undeclared_iff
  | json => exact json_undeclared_iff

/-- A literal ends with an error that is not declared exactly if it goes beyond a limit. -/
theorem value_undeclared_iff {text : List Char} {fault : Error} :
    Undeclared (value text) fault ↔ ∃ tag body, tagged? text = some (tag, body) ∧ tag.Exceeds body fault := by
  have known : ∀ (tag : Tag) (body : List Char), Undeclared (tag.read body) fault ↔
      ∃ other text, some (tag, body) = some (other, text) ∧ other.Exceeds text fault := by
    intro tag body
    rw [Tag.read_undeclared_iff]
    constructor
    · exact fun exceeds => ⟨tag, body, rfl, exceeds⟩
    · rintro ⟨_, _, ⟨⟩, exceeds⟩
      exact exceeds
  unfold value tagged?
  cases splitTag? text with
  | none => exact known .auto (plainColons text)
  | some parts =>
    obtain ⟨name, rest⟩ := parts
    simp only
    cases Tag.ofName? (String.ofList name) with
    | none => exact iff_of_false (not_undeclared_error rfl) (by simp)
    | some tag => exact known tag (plainColons rest)

end Literal
end ResourceQuery
