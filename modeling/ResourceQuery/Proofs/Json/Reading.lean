import ResourceQuery.Proofs.Json.RoundTrip
import ResourceQuery.Proofs.Outcome

/-!
What is read from JSON is sound: integers have not too many digits, floating point numbers are those
that can occur, and objects have every key once (`read_sound`).
-/
namespace ResourceQuery.Json
open ResourceQuery.Number (Scientific)

theorem digitValue?_lt {c : Char} {value : Nat} (found : Text.digitValue? c = some value) : value < 10 := by
  unfold Text.digitValue? at found
  split at found
  · split at found
    · rename_i digit
      have range : c.toNat ≤ 57 := by
        simp only [Char.isDigit, Bool.and_eq_true, decide_eq_true_eq, UInt32.le_iff_toNat_le] at digit
        exact digit.2
      obtain rfl := Option.some.inj found
      omega
    · cases found
  · obtain ⟨first, member, rfl⟩ := Option.map_eq_some_iff.mp found
    have near := List.find?_some member
    simp only [Bool.and_eq_true, decide_eq_true_eq] at near
    omega

/-- Digits denote a number that has no more digits. -/
theorem ofDigits_lt (digits : List Char) : Number.ofDigits digits < 10 ^ digits.length := by
  have run : ∀ (digits : List Char) (value : Nat),
      digits.foldl (fun value c => 10 * value + (Text.digitValue? c).getD 0) value < 10 ^ digits.length * (value + 1) := by
    intro digits
    induction digits with
    | nil => simp
    | cons c digits ih =>
      intro value
      have small : (Text.digitValue? c).getD 0 ≤ 9 := by
        cases found : Text.digitValue? c with
        | none => exact Nat.zero_le 9
        | some digit => exact Nat.le_of_lt_succ (digitValue?_lt found)
      have next := ih (10 * value + (Text.digitValue? c).getD 0)
      have more : 10 ^ digits.length * (10 * value + (Text.digitValue? c).getD 0 + 1) ≤
          10 ^ (digits.length + 1) * (value + 1) := by
        rw [Nat.pow_succ, Nat.mul_assoc]
        exact Nat.mul_le_mul_left _ (by omega)
      exact Nat.lt_of_lt_of_le next more
  have all := run digits 0
  rwa [Nat.zero_add, Nat.mul_one] at all

theorem isWritable_signed {digits : List Char} (few : digits.length ≤ Number.maxDigits) (filled : digits ≠ [])
    (negative : Bool) : Number.isWritable (Number.signed negative (Number.ofDigits digits)) = true := by
  have magnitude : (Number.signed negative (Number.ofDigits digits)).natAbs = Number.ofDigits digits := by
    unfold Number.signed
    split <;> omega
  have length := (Nat.length_toDigits_le_iff (by decide : 1 < 10) (List.length_pos_iff.mpr filled)).mpr (ofDigits_lt digits)
  rw [Number.isWritable, magnitude]
  exact decide_eq_true (Nat.le_trans length few)

theorem wholePart?_filled {input whole rest : List Char} (found : wholePart? input = some (whole, rest)) : whole ≠ [] := by
  unfold wholePart? at found
  split at found
  · cases found
    simp
  · simp only at found
    split at found
    · cases found
    · rename_i filled
      cases found
      exact filled

theorem number_sound {input rest : List Char} {json : Json} (done : number input = .ok (json, rest)) : json.Sound := by
  have either : ∀ {negative marked : Bool} {whole fraction after : List Char} {exponent : Int}, whole ≠ [] →
      (if marked then .ok (.real (Scientific.value ⟨negative, whole, fraction, exponent⟩), after)
        else if Number.maxDigits < whole.length then .error (.digitLimit whole.length)
        else .ok (.int (Number.signed negative (Number.ofDigits whole)), after) : Except Fault (Json × List Char)) =
        .ok (json, rest) → json.Sound := by
    intro negative marked whole fraction after exponent filled done
    split at done
    · cases done
      exact .inr (Number.Binary64.ofScientific_proper _ _ _)
    · split at done
      · cases done
      · rename_i few
        cases done
        exact isWritable_signed (by omega) filled _
  rw [number_eq] at done
  simp only [unsignedNumber] at done
  split at done
  · cases done
  · rename_i whole after found
    have filled := wholePart?_filled found
    split at done <;> split at done <;> exact either filled done

theorem scalar_sound {input rest : List Char} {json : Json} (done : scalar input = .ok (json, rest)) : json.Sound := by
  unfold scalar at done
  split at done
  · cases done
    trivial
  · cases done
    trivial
  · cases done
    trivial
  · cases done
    exact .inl rfl
  · cases done
    exact .inr trivial
  · cases done
    exact .inr trivial
  · exact number_sound done

theorem MembersSound.of_forall {members : List (String × Json)} (sound : ∀ member ∈ members, member.2.Sound) :
    MembersSound members := by
  induction members with
  | nil => trivial
  | cons member members ih =>
    rw [List.forall_mem_cons] at sound
    exact ⟨sound.1, ih sound.2⟩

theorem MembersSound.forall {members : List (String × Json)} (sound : MembersSound members) :
    ∀ member ∈ members, member.2.Sound := by
  induction members with
  | nil => simp
  | cons member members ih =>
    rw [List.forall_mem_cons]
    exact ⟨sound.1, ih sound.2⟩

/-- What is read with some fuel is sound. -/
structure FuelSound (fuel : Nat) : Prop where
  values : ∀ input json rest, value fuel input = .ok (json, rest) → json.Sound
  items : ∀ input found rest, elements fuel input = .ok (found, rest) → AllSound found
  pairs : ∀ input found rest, members fuel input = .ok (found, rest) → MembersSound found

namespace FuelSound
variable {fuel : Nat} {input rest : List Char}

theorem value_step (sound : FuelSound fuel) {json : Json} (done : value (fuel + 1) input = .ok (json, rest)) : json.Sound := by
  rw [value.eq_def] at done
  simp only at done
  split at done
  · obtain ⟨⟨s, after⟩, _, same⟩ := Outcome.bind_eq_ok_iff.mp done
    cases same
    trivial
  · split at done
    · cases done
      trivial
    · obtain ⟨⟨items, after⟩, read, same⟩ := Outcome.bind_eq_ok_iff.mp done
      cases same
      exact sound.items _ _ _ read
  · split at done
    · cases done
      exact ⟨List.nodup_nil, trivial⟩
    · obtain ⟨⟨pairs, after⟩, read, same⟩ := Outcome.bind_eq_ok_iff.mp done
      cases same
      obtain ⟨apart, inside⟩ := Entries.ofPairs_spec pairs
      exact ⟨apart, .of_forall fun member found => (sound.pairs _ _ _ read).forall member (inside member found)⟩
  · exact scalar_sound done

theorem elements_step (sound : FuelSound fuel) {items : List Json} (done : elements (fuel + 1) input = .ok (items, rest)) :
    AllSound items := by
  obtain ⟨⟨item, after⟩, read, later⟩ := Outcome.bind_eq_ok_iff.mp done
  have first := sound.values _ _ _ read
  simp only at later
  split at later
  · cases later
    exact ⟨first, trivial⟩
  · obtain ⟨⟨more, last⟩, readMore, same⟩ := Outcome.bind_eq_ok_iff.mp later
    cases same
    exact ⟨first, sound.items _ _ _ readMore⟩
  · cases later

theorem members_step (sound : FuelSound fuel) {pairs : List (String × Json)}
    (done : members (fuel + 1) input = .ok (pairs, rest)) : MembersSound pairs := by
  rw [members.eq_def] at done
  simp only at done
  split at done
  · obtain ⟨⟨key, after⟩, _, later⟩ := Outcome.bind_eq_ok_iff.mp done
    simp only at later
    split at later
    · obtain ⟨⟨item, left⟩, read, last⟩ := Outcome.bind_eq_ok_iff.mp later
      have first := sound.values _ _ _ read
      simp only at last
      split at last
      · cases last
        exact ⟨first, trivial⟩
      · obtain ⟨⟨more, _⟩, readMore, same⟩ := Outcome.bind_eq_ok_iff.mp last
        cases same
        exact ⟨first, sound.pairs _ _ _ readMore⟩
      · cases last
    · cases later
  · cases done

end FuelSound

/-- What is read is sound, with any fuel. -/
theorem fuel_sound (fuel : Nat) : FuelSound fuel := by
  induction fuel with
  | zero =>
    constructor <;> intro input found rest done
    · cases done
    · cases done
    · cases done
  | succ fuel ih =>
    exact ⟨fun _ _ _ => ih.value_step, fun _ _ _ => ih.elements_step, fun _ _ _ => ih.members_step⟩

/-- **What is read is sound.** -/
theorem read_sound {source : String} {json : Json} (done : read source = .ok json) : json.Sound := by
  have whole : document source.toList = .ok json := by
    unfold read at done
    split at done
    · rename_i found
      cases done
      exact found
    · cases done
    · cases done
  unfold document at whole
  split at whole
  · cases whole
  · obtain ⟨⟨result, rest⟩, read, later⟩ := Outcome.bind_eq_ok_iff.mp whole
    simp only at later
    split at later
    · cases later
      exact (fuel_sound _).values _ _ _ read
    · cases later

end ResourceQuery.Json
