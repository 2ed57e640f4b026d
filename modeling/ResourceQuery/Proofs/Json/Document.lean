import ResourceQuery.Find.Document
import ResourceQuery.Proofs.Equality
import ResourceQuery.Proofs.Json.RoundTrip
import ResourceQuery.Proofs.Outcome

/-!
Values and their JSON documents. A document holds the value that it was made for, but a date stands in
it as a text, a pattern as an object and a tuple as an array (`ofJson_toJson`). The document of data is
sound, and so it is found again in the text that is written for it, whatever its layout
(`jsonText_read`).
-/
namespace ResourceQuery.Value
open ResourceQuery.Time (Moment)

mutual

/-- Whether a value is made of data: no node stands in it, and its floating point numbers are proper.
`special` says whether dates, patterns and tuples may stand in it. -/
def OfData (special : Bool) : Value → Prop
  | .real x => x.Proper
  | .moment _ => special = true
  | .pattern _ => special = true
  | .list items => AllOfData special items
  | .tuple items => special = true ∧ AllOfData special items
  | .mapping entries => EntriesOfData special entries
  | .node _ _ => False
  | _ => True
termination_by structural value => value

def AllOfData (special : Bool) : List Value → Prop
  | [] => True
  | item :: rest => OfData special item ∧ AllOfData special rest
termination_by structural items => items

def EntriesOfData (special : Bool) : List (String × Value) → Prop
  | [] => True
  | (_, value) :: rest => OfData special value ∧ EntriesOfData special rest
termination_by structural entries => entries

end

/-- Data: a value made of data in which no mapping has a key twice. -/
structure IsData (special : Bool) (value : Value) : Prop where
  made : value.OfData special
  apart : value.KeysApart

mutual

/-- A value as it is found in its document: a date as its text, a pattern as a mapping of its source
and its options, a tuple as a list. -/
def decoded : Value → Value
  | .moment m => .text (Time.Iso.text m)
  | .pattern p =>
    .mapping [("$regex", .text p.source), ("$options", .text (if p.flags.ignoreCase then "i" else ""))]
  | .list items => .list (decodedItems items)
  | .tuple items => .list (decodedItems items)
  | .mapping entries => .mapping (decodedEntries entries)
  | value => value
termination_by structural value => value

def decodedItems : List Value → List Value
  | [] => []
  | item :: rest => decoded item :: decodedItems rest
termination_by structural items => items

def decodedEntries : List (String × Value) → List (String × Value)
  | [] => []
  | (key, value) :: rest => (key, decoded value) :: decodedEntries rest
termination_by structural entries => entries

end

mutual

/-- Data without dates, patterns and tuples is found as it is. -/
theorem decoded_eq_self : ∀ {value : Value}, value.OfData false → value.decoded = value
  | .null, _ => rfl
  | .bool _, _ => rfl
  | .int _, _ => rfl
  | .real _, _ => rfl
  | .text _, _ => rfl
  | .list _, data => congrArg Value.list (decodedItems_eq_self data)
  | .mapping _, data => congrArg Value.mapping (decodedEntries_eq_self data)

theorem decodedItems_eq_self : ∀ {items : List Value}, AllOfData false items → decodedItems items = items
  | [], _ => rfl
  | item :: rest, data => by rw [decodedItems, decoded_eq_self data.1, decodedItems_eq_self data.2]

theorem decodedEntries_eq_self : ∀ {entries : List (String × Value)}, EntriesOfData false entries →
    decodedEntries entries = entries
  | [], _ => rfl
  | (key, value) :: rest, data => by rw [decodedEntries, decoded_eq_self data.1, decodedEntries_eq_self data.2]

end

theorem keys_ofJsonMembers (members : List (String × Json)) :
    (ofJsonMembers members).map Prod.fst = members.map Prod.fst := by
  induction members with
  | nil => rfl
  | cons first members ih => rw [ofJsonMembers, List.map_cons, List.map_cons, ih]

theorem keys_decodedEntries (entries : List (String × Value)) :
    (decodedEntries entries).map Prod.fst = entries.map Prod.fst := by
  induction entries with
  | nil => rfl
  | cons first entries ih => rw [decodedEntries, List.map_cons, List.map_cons, ih]

theorem intDocument_eq_ok_iff {n : Int} {json : Json} :
    intDocument n = .ok json ↔ Number.isWritable n = true ∧ json = .int n := by
  unfold intDocument
  by_cases writable : Number.isWritable n = true
  · simp [writable, eq_comm]
  · simp [writable]

/-- The document of a date or a pattern is sound, and what is found in it is a text or a mapping. -/
theorem specialDocument_spec {part : Moment ⊕ Pattern} {json : Json} (made : specialDocument part = .ok json) :
    json.Sound ∧ ofJson json = decoded (part.elim .moment .pattern) := by
  cases part with
  | inl moment =>
    cases made
    exact ⟨trivial, rfl⟩
  | inr pattern =>
    cases made
    exact ⟨⟨(by decide : ["$regex", "$options"].Nodup), trivial, trivial, trivial⟩, rfl⟩

section Made

variable {special : Moment ⊕ Pattern → Except NoDocument Json} {extended : Bool}

mutual

/-- **The document of data is sound, and the data is found in it.** -/
theorem ofJson_toJson (given : ∀ part json, special part = .ok json → specialDocument part = .ok json) :
    ∀ {value : Value} {json : Json}, value.OfData extended → value.KeysApart → value.toJson special = .ok json →
      json.Sound ∧ ofJson json = value.decoded
  | .null, _, _, _, made => by
    cases made
    exact ⟨trivial, rfl⟩
  | .bool _, _, _, _, made => by
    cases made
    exact ⟨trivial, rfl⟩
  | .int n, json, _, _, made => by
    obtain ⟨writable, rfl⟩ := intDocument_eq_ok_iff.mp made
    exact ⟨writable, rfl⟩
  | .real _, _, data, _, made => by
    cases made
    exact ⟨.inr data, rfl⟩
  | .text _, _, _, _, made => by
    cases made
    exact ⟨trivial, rfl⟩
  | .moment _, json, _, _, made => specialDocument_spec (given _ json made)
  | .pattern _, json, _, _, made => specialDocument_spec (given _ json made)
  | .list items, json, data, apart, made => by
    obtain ⟨documents, each, rfl⟩ := Outcome.map_eq_ok_iff.mp made
    obtain ⟨sound, same⟩ := ofJsonItems_toJsonItems given data apart each
    exact ⟨sound, congrArg Value.list same⟩
  | .tuple items, json, data, apart, made => by
    obtain ⟨documents, each, rfl⟩ := Outcome.map_eq_ok_iff.mp made
    obtain ⟨sound, same⟩ := ofJsonItems_toJsonItems given data.2 apart each
    exact ⟨sound, congrArg Value.list same⟩
  | .mapping entries, json, data, apart, made => by
    obtain ⟨members, each, rfl⟩ := Outcome.map_eq_ok_iff.mp made
    obtain ⟨sound, same⟩ := ofJsonMembers_toJsonMembers given data apart.2 each
    have keys : members.map Prod.fst = entries.map Prod.fst := by
      rw [← keys_ofJsonMembers, same, keys_decodedEntries]
    exact ⟨⟨keys ▸ apart.1, sound⟩, congrArg Value.mapping same⟩

theorem ofJsonItems_toJsonItems (given : ∀ part json, special part = .ok json → specialDocument part = .ok json) :
    ∀ {items : List Value} {documents : List Json}, AllOfData extended items → AllKeysApart items →
      toJsonItems special items = .ok documents →
      Json.AllSound documents ∧ ofJsonItems documents = decodedItems items
  | [], _, _, _, made => by
    cases made
    exact ⟨trivial, rfl⟩
  | item :: rest, _, data, apart, made => by
    obtain ⟨head, first, later⟩ := Outcome.bind_eq_ok_iff.mp made
    obtain ⟨tail, more, same⟩ := Outcome.bind_eq_ok_iff.mp later
    cases same
    obtain ⟨headSound, headSame⟩ := ofJson_toJson given data.1 apart.1 first
    obtain ⟨tailSound, tailSame⟩ := ofJsonItems_toJsonItems given data.2 apart.2 more
    refine ⟨⟨headSound, tailSound⟩, ?_⟩
    rw [ofJsonItems, decodedItems, headSame, tailSame]

theorem ofJsonMembers_toJsonMembers (given : ∀ part json, special part = .ok json → specialDocument part = .ok json) :
    ∀ {entries : List (String × Value)} {members : List (String × Json)}, EntriesOfData extended entries →
      EntriesKeysApart entries → toJsonMembers special entries = .ok members →
      Json.MembersSound members ∧ ofJsonMembers members = decodedEntries entries
  | [], _, _, _, made => by
    cases made
    exact ⟨trivial, rfl⟩
  | (key, value) :: rest, _, data, apart, made => by
    obtain ⟨head, first, later⟩ := Outcome.bind_eq_ok_iff.mp made
    obtain ⟨tail, more, same⟩ := Outcome.bind_eq_ok_iff.mp later
    cases same
    obtain ⟨headSound, headSame⟩ := ofJson_toJson given data.1 apart.1 first
    obtain ⟨tailSound, tailSame⟩ := ofJsonMembers_toJsonMembers given data.2 apart.2 more
    refine ⟨⟨headSound, tailSound⟩, ?_⟩
    rw [ofJsonMembers, decodedEntries, headSame, tailSame]

end

end Made

theorem toJson_of_document {value : Value} {json : Json} (made : value.document = .ok json) :
    value.toJson specialDocument = .ok json := by
  unfold document at made
  split at made
  · rename_i found
    cases made
    exact found
  · cases made
  · cases made

/-- **Data is found again in its JSON text.** In another layout the text is another one, but what is read from
it is the same. -/
theorem jsonText_read {style : Json.Style} (loose : style.layout.Loose) {value : Value} (data : value.IsData true)
    {text : String} (written : value.jsonText style = .ok text) :
    ∃ json, Json.read text = .ok json ∧ ofJson json = value.decoded ∧
      ∀ other : Json.Style, other.layout.Loose → ∃ again, value.jsonText other = .ok again ∧ Json.read again = .ok json := by
  obtain ⟨json, made, same⟩ := Outcome.bind_eq_ok_iff.mp written
  cases same
  obtain ⟨sound, found⟩ := ofJson_toJson (fun _ _ => id) data.made data.apart (toJson_of_document made)
  refine ⟨json, Json.read_write loose sound, found, fun other otherLoose => ⟨json.write other, ?_, ?_⟩⟩
  · rw [jsonText, made]
    rfl
  · exact Json.read_write otherLoose sound

end ResourceQuery.Value
