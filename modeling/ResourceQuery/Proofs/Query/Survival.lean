import ResourceQuery.Proofs.Equality
import ResourceQuery.Proofs.Literal.Readback
import ResourceQuery.Proofs.Query.RoundTrip

/-!
Which printed values are read as equal ones. Of the values that can occur in a tree that was read,
these are all but NaN, dates of UTC to the millisecond before the year 1000, and what holds such
values or a node that is not named by a word (`Value.Survives`, `Value.reread_iff`).
-/
namespace ResourceQuery
open ResourceQuery.Time (Moment)

/-- Whether a date of UTC is written with four digits of a year at least. -/
def Time.Moment.Legible (utc : Moment) : Prop := 1000 ≤ utc.date.year ∨ utc.microsecond % 1000 ≠ 0

mutual

/-- Whether a value is read as an equal one when it is printed. -/
def Value.Survives : Value → Prop
  | .real x => ∀ label, x ≠ .nan label
  | .moment m => ∃ utc, m.toUtc? = some utc ∧ utc.Legible
  | .list items => Value.AllSurvive items
  | .tuple items => Value.AllSurvive items
  | .node (.text name) args => IsWord name.toList ∧ Value.AllSurvive args
  | .node _ _ => False
  | _ => True
termination_by structural value => value

def Value.AllSurvive : List Value → Prop
  | [] => True
  | item :: rest => Value.Survives item ∧ Value.AllSurvive rest
termination_by structural items => items

end

mutual

theorem Value.Survives.wordNamed : ∀ {value : Value}, value.Survives → value.WordNamed
  | .null, _ => trivial
  | .bool _, _ => trivial
  | .int _, _ => trivial
  | .real _, _ => trivial
  | .text _, _ => trivial
  | .moment _, _ => trivial
  | .pattern _, _ => trivial
  | .mapping _, _ => trivial
  | .list _, survives => Value.AllSurvive.wordNamed survives
  | .tuple _, survives => Value.AllSurvive.wordNamed survives
  | .node (.text _) _, survives => ⟨survives.1, Value.AllSurvive.wordNamed survives.2⟩

theorem Value.AllSurvive.wordNamed : ∀ {items : List Value}, Value.AllSurvive items → Value.AllWordNamed items
  | [], _ => trivial
  | _ :: _, survive => ⟨Value.Survives.wordNamed survive.1, Value.AllSurvive.wordNamed survive.2⟩

end

namespace Value

mutual

/-- No mapping in a value that comes from JSON has a key twice. -/
theorem keysApart_ofJson : ∀ {json : Json}, json.Sound → (ofJson json).KeysApart
  | .null, _ => trivial
  | .bool _, _ => trivial
  | .int _, _ => trivial
  | .real _, _ => trivial
  | .text _, _ => trivial
  | .array _, sound => allKeysApart_ofJson sound
  | .object members, sound => ⟨keys_ofJsonMembers members ▸ sound.1, entriesKeysApart_ofJson sound.2⟩

theorem allKeysApart_ofJson : ∀ {items : List Json}, Json.AllSound items → AllKeysApart (ofJsonItems items)
  | [], _ => trivial
  | _ :: _, sound => ⟨keysApart_ofJson sound.1, allKeysApart_ofJson sound.2⟩

theorem entriesKeysApart_ofJson : ∀ {members : List (String × Json)}, Json.MembersSound members →
    EntriesKeysApart (ofJsonMembers members)
  | [], _ => trivial
  | (_, _) :: _, sound => ⟨keysApart_ofJson sound.1, entriesKeysApart_ofJson sound.2⟩

end

/-- Whether a value is read as an equal one, each printed literal in it alone. -/
def ReadsBack (value : Value) : Prop := ∃ again, value.reread = .ok again ∧ same again value = true

def AllReadBack (items : List Value) : Prop := ∃ again, rereadAll items = .ok again ∧ sameItems again items = true

theorem readsBack_self {value : Value} (again : value.reread = .ok value) (self : same value value = true) :
    value.ReadsBack := ⟨value, again, self⟩

theorem readsBack_list {items : List Value} : ReadsBack (.list items) ↔ AllReadBack items := by
  constructor
  · rintro ⟨_, read, agree⟩
    obtain ⟨again, others, rfl⟩ := Outcome.map_eq_ok_iff.mp read
    exact ⟨again, others, agree⟩
  · rintro ⟨again, read, agree⟩
    exact ⟨.list again, Outcome.map_eq_ok_iff.mpr ⟨again, read, rfl⟩, agree⟩

theorem same_text_self (s : String) : same (.text s) (.text s) = true := by simp [same, equalScalars]

theorem readsBack_node {name : String} {args : List Value} : ReadsBack (.node (.text name) args) ↔ AllReadBack args := by
  constructor
  · rintro ⟨_, read, agree⟩
    obtain ⟨again, others, rfl⟩ := Outcome.map_eq_ok_iff.mp read
    exact ⟨again, others, (Bool.and_eq_true _ _ ▸ agree).2⟩
  · rintro ⟨again, read, agree⟩
    refine ⟨.node (.text name) again, Outcome.map_eq_ok_iff.mpr ⟨again, read, rfl⟩, ?_⟩
    rw [same, same_text_self, agree]
    rfl

theorem allReadBack_cons {item : Value} {rest : List Value} :
    AllReadBack (item :: rest) ↔ item.ReadsBack ∧ AllReadBack rest := by
  constructor
  · rintro ⟨_, read, agree⟩
    obtain ⟨head, first, later⟩ := Outcome.bind_eq_ok_iff.mp read
    obtain ⟨tail, others, same⟩ := Outcome.bind_eq_ok_iff.mp later
    cases same
    rw [sameItems, Bool.and_eq_true] at agree
    exact ⟨⟨head, first, agree.1⟩, ⟨tail, others, agree.2⟩⟩
  · rintro ⟨⟨head, first, agree⟩, ⟨tail, others, allAgree⟩⟩
    refine ⟨head :: tail, by rw [rereadAll, first, others]; rfl, ?_⟩
    rw [sameItems, agree, allAgree]
    rfl

/-- A date is read back if the date of UTC that is written for it is legible. -/
theorem readsBack_moment {moment : Moment} {text : String} (zoned : moment.offset.isSome = true)
    (printed : Literal.print (.moment moment) = .ok text) : ReadsBack (.moment moment) ↔ Survives (.moment moment) := by
  obtain ⟨utc, found, read⟩ := Literal.value_moment printed
  obtain ⟨valid, offset, instant⟩ := Moment.toUtc?_eq_some_iff.mp found
  have whole : reread (.moment moment) = (Literal.date (Literal.utcText utc)).map Value.moment := by
    rw [← read, reread, printed]
    · rfl
    all_goals simp
  constructor
  · rintro ⟨again, reads, _⟩
    refine ⟨utc, found, ?_⟩
    by_cases short : utc.date.year < 1000
    · by_cases exact : utc.microsecond % 1000 = 0
      · rw [whole, Literal.date_utcText_short short exact] at reads
        cases reads
      · exact .inr exact
    · exact .inl (by omega)
  · rintro ⟨other, same, legible⟩
    obtain rfl := Option.some.inj (found.symm.trans same)
    refine ⟨.moment utc, by rw [whole, Literal.date_utcText valid offset legible]; rfl, ?_⟩
    obtain ⟨own, filled⟩ := Option.isSome_iff_exists.mp zoned
    simp [Value.same, equalScalars, Moment.equals, offset, filled, instant]

variable {named : List Char → Prop}

/-- A floating point number is read back unless it is a NaN. -/
theorem readsBack_real {x : Number.Binary64} {text : String} (sound : Sound named (.real x))
    (printed : Literal.print (.real x) = .ok text) : ReadsBack (.real x) ↔ Survives (.real x) := by
  have whole : reread (.real x) = Literal.value (Argument.unquote text.toList) := by
    rw [reread, printed]
    · rfl
    all_goals simp
  constructor
  · rintro ⟨again, reads, agree⟩ label rfl
    rw [whole, Literal.value_nan label printed] at reads
    cases reads
    cases agree
  · intro survives
    have proper := sound.resolve_left (survives 0)
    refine readsBack_self ?_ (by simp [same])
    rw [whole, Literal.value_real proper printed]

mutual

/-- A value that can occur and whose nodes are named by words is read as an equal one just if it
survives. -/
theorem readsBack_iff : ∀ {value : Value} {text : String}, value.Sound named → value.WordNamed → value.print = .ok text →
    (value.ReadsBack ↔ value.Survives)
  | .null, _, _, _, _ => ⟨fun _ => trivial, fun _ => readsBack_self reread_null rfl⟩
  | .bool b, _, _, _, _ =>
    ⟨fun _ => trivial, fun _ => readsBack_self (reread_bool b) (by simp [same, equalScalars])⟩
  | .int n, _, _, _, printed =>
    ⟨fun _ => trivial, fun _ => readsBack_self (reread_simple trivial printed) (by simp [same, equalScalars])⟩
  | .text s, _, _, _, printed =>
    ⟨fun _ => trivial, fun _ => readsBack_self (reread_simple trivial printed) (same_text_self s)⟩
  | .real x, _, sound, _, printed => readsBack_real sound printed
  | .moment m, _, sound, _, printed => readsBack_moment sound printed
  | .pattern p, written, sound, _, printed => by
    refine ⟨fun _ => trivial, fun _ => readsBack_self ?_ (by simp [same, equalScalars])⟩
    have found : Literal.print (.pattern p) = .ok written := printed
    rw [reread, found]
    · exact Literal.value_pattern sound found
    all_goals simp
  | .list items, _, sound, words, printed => by
    obtain ⟨texts, inside, _⟩ := print_items printed
    rw [readsBack_list, allReadBack_iff sound words inside]
    rfl
  | .mapping _, written, ⟨members, sound, same⟩, _, printed => by
    subst same
    have self := same_self (keysApart_ofJson sound)
    rw [ofJson] at self
    refine ⟨fun _ => trivial, fun _ => readsBack_self ?_ self⟩
    have found : Literal.print (.mapping (ofJsonMembers members)) = .ok written := printed
    rw [reread, found]
    · exact Literal.value_mapping sound found
    all_goals simp
  | .node (.text name) args, _, sound, words, printed => by
    obtain ⟨texts, inside, _⟩ := print_node printed
    rw [readsBack_node, allReadBack_iff sound.2 words.2 inside]
    exact ⟨fun survive => ⟨words.1, survive⟩, fun survives => survives.2⟩

theorem allReadBack_iff : ∀ {items : List Value} {texts : List String}, AllSound named items → AllWordNamed items →
    printItems items = .ok texts → (AllReadBack items ↔ AllSurvive items)
  | [], _, _, _, _ => ⟨fun _ => trivial, fun _ => ⟨[], rfl, rfl⟩⟩
  | item :: rest, _, sound, words, printed => by
    obtain ⟨head, tail, first, later, _⟩ := printItems_cons printed
    rw [allReadBack_cons, readsBack_iff sound.1 words.1 first, allReadBack_iff sound.2 words.2 later]
    rfl

end

end Value
end ResourceQuery
