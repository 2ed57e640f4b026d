import ResourceQuery.Proofs.Json.Reading
import ResourceQuery.Proofs.Literal.Plain
import ResourceQuery.Proofs.Pattern.Case
import ResourceQuery.Proofs.Time.Moment

/-!
What literals are read as. A literal is read as a value that can occur in a tree that was read: a
floating point number is proper or the one NaN of JSON, a date has an offset, a pattern compiles
with at most the flag that ignores case, and a mapping comes from a JSON object (`value_sound`).
-/
namespace ResourceQuery
open ResourceQuery.Number (Binary64)
open ResourceQuery.Time (Moment)

mutual

/-- Whether a value can occur in a tree that was read, of nodes with such names. -/
def Value.Sound (named : List Char → Prop) : Value → Prop
  | .real x => x = .nan 0 ∨ x.Proper
  | .moment m => m.offset.isSome = true
  | .pattern p => ∃ flags, (flags = {} ∨ flags = Pattern.Flags.insert {} .ignoreCase) ∧
      Pattern.compile p.source flags = .ok p
  | .list items => Value.AllSound named items
  | .tuple _ => False
  | .mapping entries => ∃ members, (Json.object members).Sound ∧ entries = Value.ofJsonMembers members
  | .node (.text name) args => named name.toList ∧ Value.AllSound named args
  | .node _ _ => False
  | _ => True
termination_by structural value => value

def Value.AllSound (named : List Char → Prop) : List Value → Prop
  | [] => True
  | item :: rest => Value.Sound named item ∧ Value.AllSound named rest
termination_by structural items => items

end

variable {named : List Char → Prop}

mutual

theorem Value.sound_ofJson : ∀ {json : Json}, json.Sound → (Value.ofJson json).Sound named
  | .null, _ => trivial
  | .bool _, _ => trivial
  | .int _, _ => trivial
  | .real _, sound => sound
  | .text _, _ => trivial
  | .array _, sound => Value.sound_ofJsonItems sound
  | .object members, sound => ⟨members, sound, rfl⟩

theorem Value.sound_ofJsonItems : ∀ {items : List Json}, Json.AllSound items →
    Value.AllSound named (Value.ofJsonItems items)
  | [], _ => trivial
  | _ :: _, sound => ⟨Value.sound_ofJson sound.1, Value.sound_ofJsonItems sound.2⟩

end

namespace Literal

theorem infinity?_proper {text : List Char} {x : Binary64} (found : infinity? text = some x) : x.Proper := by
  unfold infinity? at found
  simp only at found
  split at found
  · obtain rfl := Option.some.inj found
    trivial
  · cases found

theorem number?_sound {text : List Char} {numeral : Numeral} (done : number? text = .ok (some numeral)) :
    numeral.toValue.Sound named := by
  unfold number? at done
  simp only at done
  split at done
  · obtain ⟨n, _, same⟩ := Outcome.bind_eq_ok_iff.mp done
    cases same
    trivial
  · rw [Except.ok.injEq, Option.orElse_eq_some, Option.orElse_eq_some] at done
    rcases done with integer | ⟨_, infinite | ⟨_, scientific⟩⟩
    · obtain ⟨n, _, rfl⟩ := Option.map_eq_some_iff.mp integer
      trivial
    · obtain ⟨x, found, rfl⟩ := Option.map_eq_some_iff.mp infinite
      exact .inr (infinity?_proper found)
    · obtain ⟨x, _, rfl⟩ := Option.map_eq_some_iff.mp scientific
      exact .inr (Binary64.ofScientific_proper _ _ _)

theorem number_sound {text : List Char} {numeral : Numeral} (done : number text = .ok numeral) :
    numeral.toValue.Sound named := by
  obtain ⟨found, read, later⟩ := Outcome.bind_eq_ok_iff.mp done
  cases found with
  | none => cases later
  | some other =>
    cases later
    exact number?_sound read

theorem fullFields?_offset {text : List Char} {moment : Moment} (found : fullFields? text = some moment) :
    moment.offset = some 0 := by
  unfold fullFields? at found
  -- One step for each field and for each sign between two of them.
  iterate 12 obtain ⟨_, -, found⟩ := Option.bind_eq_some_iff.mp found
  obtain ⟨-, same⟩ := Option.ite_none_right_eq_some.mp found
  cases same
  rfl

theorem date_sound {text : List Char} {moment : Moment} (done : date text = .ok moment) :
    moment.offset.isSome = true := by
  unfold date date? at done
  split at done
  · rename_i found
    cases done
    split at found
    · rename_i full
      unfold Moment.checked? at found
      split at found
      · obtain rfl := Option.some.inj found
        simp [fullFields?_offset full]
      · cases found
    · obtain ⟨read, _, rfl⟩ := Option.map_eq_some_iff.mp found
      rfl
  · cases done

theorem epoch_sound {text : List Char} {moment : Moment} (done : epoch text = .ok moment) :
    moment.offset.isSome = true := by
  obtain ⟨numeral, _, later⟩ := Outcome.bind_eq_ok_iff.mp done
  split at later
  · rename_i found
    cases later
    obtain ⟨count, _, since⟩ := Option.bind_eq_some_iff.mp found
    simp [(Moment.ofMicroseconds?_spec since (by decide)).2.2]
  · cases later

theorem keyword?_sound {text : String} {value : Value} (found : keyword? text = some value) : value.Sound named := by
  unfold keyword? at found
  split at found <;> cases found
  any_goals trivial
  · exact .inr trivial
  · exact .inr trivial

theorem unescaped_sound (text : List Char) : (unescaped text).Sound named := by
  unfold unescaped
  simp only
  split
  · trivial
  · split
    · rename_i read
      exact Value.sound_ofJson (Json.read_sound read)
    · trivial

theorem auto_sound {text : List Char} {value : Value} (done : auto text = .ok value) : value.Sound named := by
  unfold auto at done
  split at done
  · rename_i found
    cases done
    exact keyword?_sound found
  · obtain ⟨found, read, later⟩ := Outcome.bind_eq_ok_iff.mp done
    cases found with
    | none =>
      cases later
      exact unescaped_sound text
    | some numeral =>
      cases later
      exact number?_sound read

theorem pattern_sound {flags : Pattern.Flags} (plain : flags = {} ∨ flags = Pattern.Flags.insert {} .ignoreCase)
    {text : List Char} {pattern : Pattern} (done : Literal.pattern flags text = .ok pattern) :
    (Value.pattern pattern).Sound named := by
  unfold Literal.pattern at done
  simp only at done
  split at done
  · rename_i compiled
    cases done
    refine ⟨flags, plain, ?_⟩
    rw [(Pattern.compile_again plain compiled).1, compiled]
  all_goals cases done

theorem json_sound {text : List Char} {value : Value} (done : json text = .ok value) : value.Sound named := by
  unfold json at done
  simp only at done
  split at done
  · rename_i read
    cases done
    exact Value.sound_ofJson (Json.read_sound read)
  all_goals cases done

theorem Tag.read_sound {tag : Tag} {text : List Char} {value : Value} (done : tag.read text = .ok value) :
    value.Sound named := by
  cases tag with
  | auto => exact auto_sound done
  | number =>
    obtain ⟨numeral, read, same⟩ := Outcome.bind_eq_ok_iff.mp done
    cases same
    exact number_sound read
  | text =>
    cases done
    trivial
  | boolean =>
    cases done
    trivial
  | date =>
    obtain ⟨moment, read, same⟩ := Outcome.bind_eq_ok_iff.mp done
    cases same
    exact date_sound read
  | epoch =>
    obtain ⟨moment, read, same⟩ := Outcome.bind_eq_ok_iff.mp done
    cases same
    exact epoch_sound read
  | partialDate =>
    obtain ⟨moment, read, same⟩ := Outcome.bind_eq_ok_iff.mp done
    cases same
    exact @date_sound (fillUp text) moment read
  | caselessPattern =>
    obtain ⟨pattern, read, same⟩ := Outcome.bind_eq_ok_iff.mp done
    cases same
    exact pattern_sound (.inr rfl) read
  | pattern =>
    obtain ⟨pattern, read, same⟩ := Outcome.bind_eq_ok_iff.mp done
    cases same
    exact pattern_sound (.inl rfl) read
  | json => exact json_sound done

/-- A literal is read as a value that can occur. -/
theorem value_sound {text : List Char} {value : Value} (done : Literal.value text = .ok value) : value.Sound named := by
  unfold Literal.value at done
  split at done
  · exact auto_sound done
  · split at done
    · exact Tag.read_sound done
    · cases done

end Literal
end ResourceQuery
