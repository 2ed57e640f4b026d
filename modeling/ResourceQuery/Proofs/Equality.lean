import ResourceQuery.Proofs.Entries
import ResourceQuery.Value

/-!
Values agree with themselves (`Value.same_self`), when no mapping in them has a key twice. A NaN in a container does so
too, for there one and the same NaN agrees. A value that agrees with a text, a node or a list has its shape
(`Value.same_text`, `Value.same_node`, `Value.same_list`).
-/
namespace ResourceQuery.Value

mutual

/-- No mapping in a value has a key twice. -/
def KeysApart : Value → Prop
  | .list items => AllKeysApart items
  | .tuple items => AllKeysApart items
  | .mapping entries => (entries.map Prod.fst).Nodup ∧ EntriesKeysApart entries
  | .node name args => name.KeysApart ∧ AllKeysApart args
  | _ => True
termination_by structural value => value

def AllKeysApart : List Value → Prop
  | [] => True
  | item :: rest => item.KeysApart ∧ AllKeysApart rest
termination_by structural items => items

def EntriesKeysApart : List (String × Value) → Prop
  | [] => True
  | (_, value) :: rest => value.KeysApart ∧ EntriesKeysApart rest
termination_by structural entries => entries

end

mutual

/-- A value agrees with itself. -/
theorem same_self : ∀ {value : Value}, value.KeysApart → same value value = true
  | .null, _ => rfl
  | .bool _, _ => by simp [same, equalScalars]
  | .int _, _ => by simp [same, equalScalars]
  | .real _, _ => by simp [same]
  | .text _, _ => by simp [same, equalScalars]
  | .moment m, _ => by
    cases zone : m.offset <;> simp [same, equalScalars, Time.Moment.equals, zone]
  | .pattern _, _ => by simp [same, equalScalars]
  | .list _, apart => sameItems_self apart
  | .tuple _, apart => sameItems_self apart
  | .mapping entries, apart => by
    rw [same, BEq.rfl, Bool.true_and]
    exact sameEntries_self apart.2 fun _ member => (Entries.mem_iff_get? apart.1).mp member
  | .node name args, apart => by rw [same, same_self apart.1, sameItems_self apart.2]; rfl

theorem sameItems_self : ∀ {items : List Value}, AllKeysApart items → sameItems items items = true
  | [], _ => rfl
  | item :: rest, apart => by rw [sameItems, same_self apart.1, sameItems_self apart.2]; rfl

theorem sameEntries_self {other : List (String × Value)} : ∀ {entries : List (String × Value)},
    EntriesKeysApart entries → (∀ entry ∈ entries, other.lookup entry.1 = some entry.2) → sameEntries entries other = true
  | [], _, _ => rfl
  | (key, value) :: rest, apart, found => by
    rw [List.forall_mem_cons] at found
    rw [sameEntries, found.1, sameEntries_self apart.2 found.2]
    simp [same_self apart.1]

end

/-- A value that agrees with a text is this text. -/
theorem same_text {s : String} {value : Value} (agree : same (.text s) value = true) : value = .text s := by
  cases value with
  | text other =>
    obtain rfl : s = other := by simpa [same, equalScalars] using agree
    rfl
  | _ => simp [same, equalScalars] at agree

/-- A value that agrees with a node named by a text is a node of this name with arguments that agree. -/
theorem same_node {name : String} {args : List Value} {value : Value}
    (agree : same (.node (.text name) args) value = true) :
    ∃ others, value = .node (.text name) others ∧ sameItems args others = true := by
  cases value with
  | node given others =>
    obtain ⟨named, items⟩ := Bool.and_eq_true _ _ ▸ agree
    exact ⟨others, by rw [same_text named], items⟩
  | _ => simp [same, equalScalars] at agree

/-- A value that agrees with a list is a list of values that agree. -/
theorem same_list {items : List Value} {value : Value} (agree : same (.list items) value = true) :
    ∃ others, value = .list others ∧ sameItems items others = true := by
  cases value with
  | list others => exact ⟨others, rfl, agree⟩
  | _ => simp [same, equalScalars] at agree

/-- Of lists that agree, the second holds a value that agrees with each value of the first. -/
theorem exists_same_of_mem {items others : List Value} (agree : sameItems items others = true) {item : Value}
    (member : item ∈ items) : ∃ other ∈ others, same item other = true := by
  induction items generalizing others with
  | nil => cases member
  | cons first rest ih =>
    cases others with
    | nil => cases agree
    | cons other more =>
      obtain ⟨here, later⟩ := Bool.and_eq_true _ _ ▸ agree
      rcases List.mem_cons.mp member with rfl | inRest
      · exact ⟨other, List.mem_cons_self, here⟩
      · obtain ⟨found, inMore, same⟩ := ih later inRest
        exact ⟨found, List.mem_cons_of_mem other inMore, same⟩

end ResourceQuery.Value
