import Mathlib.Data.List.Induction
import Mathlib.Data.List.Nodup
import ResourceQuery.Entries

/-!
Mappings under `put`: a key that is there keeps its place (`get?_split`), a new one comes last
(`put_fresh`), and no other key is touched (`get?_put`). A mapping of pairs has each key where it
first came, with the value that came last (`ofPairs_latest`).
-/
namespace ResourceQuery.Entries

variable {α : Type}

@[simp] theorem get?_nil (key : String) : get? ([] : Entries α) key = none := rfl

theorem get?_cons (name key : String) (value : α) (rest : Entries α) :
    get? ((name, value) :: rest) key = if key = name then some value else get? rest key := by
  unfold get?
  rw [List.lookup_cons]
  by_cases same : key = name
  · simp [same]
  · simp [same, beq_false_of_ne same]

/-- Putting a key sets its value and leaves the others as they are. -/
theorem get?_put (key other : String) (value : α) (entries : Entries α) :
    get? (put key value entries) other = if other = key then some value else get? entries other := by
  induction entries with
  | nil => simp [put, get?_cons]
  | cons entry rest ih =>
    obtain ⟨name, old⟩ := entry
    by_cases same : name = key
    · subst same
      by_cases asked : other = name
      · simp [put, get?_cons, asked]
      · simp [put, get?_cons, asked]
    · by_cases asked : other = name
      · subst asked
        simp [put, get?_cons, same]
      · simp [put, get?_cons, same, asked, ih]

/-- A key that is not there yet is put at the end. -/
theorem put_fresh {entries : Entries α} {key : String} (absent : get? entries key = none) (value : α) :
    put key value entries = entries ++ [(key, value)] := by
  induction entries with
  | nil => rfl
  | cons entry rest ih =>
    obtain ⟨name, old⟩ := entry
    rw [get?_cons] at absent
    by_cases same : key = name
    · simp [same] at absent
    · have later : get? rest key = none := by simpa [same] using absent
      simp [put, Ne.symm same, ih later]

/-- The first entry of a key is the one that putting the key again replaces. -/
theorem get?_split {entries : Entries α} {key : String} {value : α} (found : get? entries key = some value) :
    ∃ before after, entries = before ++ (key, value) :: after ∧
      ∀ new, put key new entries = before ++ (key, new) :: after := by
  induction entries with
  | nil => simp at found
  | cons entry rest ih =>
    obtain ⟨name, old⟩ := entry
    rw [get?_cons] at found
    by_cases same : key = name
    · subst same
      obtain rfl : old = value := by simpa using found
      exact ⟨[], rest, rfl, fun new => by simp [put]⟩
    · obtain ⟨before, after, split, replaced⟩ := ih (by simpa [same] using found)
      exact ⟨(name, old) :: before, after, by simp [split], fun new => by simp [put, Ne.symm same, replaced]⟩

theorem mem_keys_of_get? {entries : Entries α} {key : String} {value : α} (found : get? entries key = some value) :
    key ∈ entries.map Prod.fst := by
  obtain ⟨before, after, split, _⟩ := get?_split found
  simp [split]

theorem mem_put {key : String} {value : α} {entries : Entries α} {entry : String × α}
    (member : entry ∈ put key value entries) :
    entry = (key, value) ∨ entry ∈ entries := by
  induction entries with
  | nil => exact .inl (List.mem_singleton.mp member)
  | cons first rest ih =>
    rw [put] at member
    split at member
    · exact (List.mem_cons.mp member).imp id (List.mem_cons_of_mem _)
    · rcases List.mem_cons.mp member with rfl | later
      · exact .inr List.mem_cons_self
      · exact (ih later).imp id (List.mem_cons_of_mem _)

/-- In a mapping the value of a key is the one of its only entry. -/
theorem mem_iff_get? {entries : Entries α} (apart : (entries.map Prod.fst).Nodup) {key : String} {value : α} :
    (key, value) ∈ entries ↔ get? entries key = some value := by
  constructor
  · intro member
    induction entries with
    | nil => cases member
    | cons entry rest ih =>
      obtain ⟨name, old⟩ := entry
      rw [List.map_cons, List.nodup_cons] at apart
      rw [get?_cons]
      rcases List.mem_cons.mp member with same | later
      · cases same
        exact if_pos rfl
      · have other : key ≠ name := by
          rintro rfl
          exact apart.1 (List.mem_map.mpr ⟨_, later, rfl⟩)
        rw [if_neg other, ih apart.2 later]
  · intro found
    obtain ⟨before, after, split, _⟩ := get?_split found
    simp [split]

/-- A mapping of pairs has every key once, and no entries but the pairs. -/
theorem ofPairs_spec (pairs : List (String × α)) :
    ((ofPairs pairs).map Prod.fst).Nodup ∧ ∀ entry ∈ ofPairs pairs, entry ∈ pairs := by
  have run : ∀ (pairs : List (String × α)) (entries : Entries α), (entries.map Prod.fst).Nodup →
      ((pairs.foldl (fun entries pair => put pair.1 pair.2 entries) entries).map Prod.fst).Nodup ∧
        ∀ entry ∈ pairs.foldl (fun entries pair => put pair.1 pair.2 entries) entries, entry ∈ entries ∨ entry ∈ pairs := by
    intro pairs
    induction pairs with
    | nil => exact fun entries apart => ⟨apart, fun entry => .inl⟩
    | cons pair pairs ih =>
      intro entries apart
      obtain ⟨nodup, inside⟩ := ih (put pair.1 pair.2 entries) (nodup_put apart pair.2)
      refine ⟨nodup, fun entry member => ?_⟩
      rcases inside entry member with put | later
      · rcases mem_put put with rfl | old
        · exact .inr List.mem_cons_self
        · exact .inl old
      · exact .inr (List.mem_cons_of_mem _ later)
  obtain ⟨nodup, inside⟩ := run pairs [] List.nodup_nil
  exact ⟨nodup, fun entry member => (inside entry member).resolve_left List.not_mem_nil⟩

/-- Pairs with every key once are a mapping as they are. -/
theorem ofPairs_eq_self {pairs : List (String × α)} (apart : (pairs.map Prod.fst).Nodup) : ofPairs pairs = pairs := by
  have run : ∀ (pairs : List (String × α)) (entries : Entries α), ((entries ++ pairs).map Prod.fst).Nodup →
      pairs.foldl (fun entries pair => put pair.1 pair.2 entries) entries = entries ++ pairs := by
    intro pairs
    induction pairs with
    | nil => exact fun entries _ => (List.append_nil entries).symm
    | cons pair pairs ih =>
      intro entries apart
      have absent : get? entries pair.1 = none := by
        cases found : get? entries pair.1 with
        | none => rfl
        | some value =>
          rw [List.map_append, List.map_cons, List.nodup_append] at apart
          exact absurd rfl (apart.2.2 pair.1 (mem_keys_of_get? found) pair.1 List.mem_cons_self)
      rw [List.foldl_cons, put_fresh absent, ih (entries ++ [pair]) (by simpa using apart)]
      simp
  exact run pairs [] apart

theorem eraseDups_concat (keys : List String) (key : String) :
    (keys ++ [key]).eraseDups = if key ∈ keys then keys.eraseDups else keys.eraseDups ++ [key] := by
  rw [List.eraseDups_append]
  by_cases known : key ∈ keys
  · simp [List.removeAll, known]
  · simp [List.removeAll, known, List.eraseDups_cons]

theorem nodup_eraseDups (keys : List String) : keys.eraseDups.Nodup := by
  induction keys using List.reverseRecOn with
  | nil => exact List.nodup_nil
  | append_singleton keys key ih =>
    rw [eraseDups_concat]
    split
    · exact ih
    · rename_i fresh
      rw [List.nodup_append]
      refine ⟨ih, List.nodup_singleton key, ?_⟩
      rintro other member _ last rfl
      rw [List.mem_singleton.mp last] at member
      exact fresh (List.mem_eraseDups.mp member)

theorem keys_put (key : String) (value : α) (entries : Entries α) :
    (put key value entries).map Prod.fst =
      if key ∈ entries.map Prod.fst then entries.map Prod.fst else entries.map Prod.fst ++ [key] := by
  cases found : get? entries key with
  | some old =>
    obtain ⟨before, after, split, replaced⟩ := get?_split found
    rw [if_pos (mem_keys_of_get? found), replaced, split]
    simp
  | none =>
    have fresh : key ∉ entries.map Prod.fst := by
      intro member
      obtain ⟨entry, inside, same⟩ := List.mem_map.mp member
      have other := List.lookup_eq_none_iff.mp found entry inside
      simp [same] at other
    rw [if_neg fresh, put_fresh found]
    simp

/-- A mapping of pairs that came one after the other: the keys in the order in which they first
came, each with the value that came last. -/
structure Latest (pairs : List (String × α)) (entries : Entries α) : Prop where
  keys : entries.map Prod.fst = (pairs.map Prod.fst).eraseDups
  values : ∀ key, get? entries key = (pairs.filter fun pair => pair.1 = key).getLast?.map Prod.snd

theorem Latest.put {pairs : List (String × α)} {entries : Entries α} (latest : Latest pairs entries) (key : String)
    (value : α) : Latest (pairs ++ [(key, value)]) (entries.put key value) := by
  constructor
  · rw [keys_put, latest.keys, List.map_append, List.map_singleton, eraseDups_concat]
    simp only [List.mem_eraseDups]
  · intro other
    rw [get?_put, latest.values, List.filter_append, List.getLast?_append]
    by_cases same : other = key
    · simp [same]
    · simp [same, Ne.symm same]

theorem ofPairs_concat (pairs : List (String × α)) (key : String) (value : α) :
    ofPairs (pairs ++ [(key, value)]) = (ofPairs pairs).put key value := List.foldl_append

theorem ofPairs_latest (pairs : List (String × α)) : Latest pairs (ofPairs pairs) := by
  induction pairs using List.reverseRecOn with
  | nil => exact ⟨rfl, fun key => rfl⟩
  | append_singleton pairs pair ih => exact ofPairs_concat pairs pair.1 pair.2 ▸ ih.put pair.1 pair.2

theorem get?_mapValues {β : Type} (f : α → β) (entries : Entries α) (key : String) :
    get? (entries.map fun entry => (entry.1, f entry.2)) key = (get? entries key).map f := by
  induction entries with
  | nil => rfl
  | cons entry rest ih =>
    rw [List.map_cons, get?_cons, get?_cons, ih]
    split <;> rfl

/-- The values of a mapping of pairs may be changed before or after it is made. -/
theorem Latest.map {β : Type} {pairs : List (String × α)} {entries : Entries α} (latest : Latest pairs entries) (f : α → β) :
    Latest (pairs.map fun pair => (pair.1, f pair.2)) (entries.map fun entry => (entry.1, f entry.2)) where
  keys := by
    rw [List.map_map, List.map_map]
    exact latest.keys
  values key := by
    rw [get?_mapValues, latest.values, List.filter_map, List.getLast?_map, Option.map_map, Option.map_map]
    rfl

theorem get?_map (keys : List String) (value : String → α) (key : String) :
    get? (keys.map fun other => (other, value other)) key = if key ∈ keys then some (value key) else none := by
  induction keys with
  | nil => rfl
  | cons first keys ih =>
    rw [List.map_cons, get?_cons, ih]
    by_cases same : key = first
    · simp [same]
    · simp [same]

/-- Putting a key changes the value of that key alone, and the key comes last if it is new. -/
theorem put_map {keys : List String} (apart : keys.Nodup) {old new : String → α} {key : String}
    (same : ∀ other ∈ keys, other ≠ key → old other = new other) :
    put key (new key) (keys.map fun other => (other, old other)) =
      (if key ∈ keys then keys else keys ++ [key]).map fun other => (other, new other) := by
  induction keys with
  | nil => rfl
  | cons first keys ih =>
    rw [List.nodup_cons] at apart
    rw [List.forall_mem_cons] at same
    rw [List.map_cons, put]
    by_cases here : first = key
    · subst here
      have rest : ∀ other ∈ keys, old other = new other := fun other member =>
        same.2 other member fun equal => apart.1 (equal ▸ member)
      rw [if_pos rfl, if_pos List.mem_cons_self, List.map_cons, List.map_congr_left fun other member => by rw [rest other member]]
    · rw [if_neg here, ih apart.2 same.2, same.1 here]
      by_cases known : key ∈ keys
      · simp [known]
      · simp [known, Ne.symm here]

end ResourceQuery.Entries
