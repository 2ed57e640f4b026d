import ResourceQuery.Proofs.Equality
import ResourceQuery.Proofs.Query.Range

/-!
Names of nodes. Each part of a value that can be read is such a value itself (`Value.Occurs.sound`), so that every node
that occurs in the tree of a text has a name of the form that is read (`Query.parse_names`).
-/
namespace ResourceQuery

namespace Value

/-- A value occurs in another one: it is this value, or occurs in one of the values that it is made of. -/
inductive Occurs : Value → Value → Prop
  | here (value : Value) : Occurs value value
  | name {part name : Value} {args : List Value} (inside : Occurs part name) : Occurs part (.node name args)
  | arg {part item name : Value} {args : List Value} (member : item ∈ args) (inside : Occurs part item) :
    Occurs part (.node name args)
  | element {part item : Value} {items : List Value} (member : item ∈ items) (inside : Occurs part item) :
    Occurs part (.list items)
  | component {part item : Value} {items : List Value} (member : item ∈ items) (inside : Occurs part item) :
    Occurs part (.tuple items)
  | entry {part item : Value} {key : String} {entries : List (String × Value)} (member : (key, item) ∈ entries)
    (inside : Occurs part item) : Occurs part (.mapping entries)

variable {named : List Char → Prop}

/-- A node that can be read is named by a text. -/
theorem Sound.name {name : Value} {args : List Value} (sound : Sound named (.node name args)) :
    ∃ word, name = .text word ∧ named word.toList := by
  cases name with
  | text word => exact ⟨word, rfl, sound.1⟩
  | _ => exact sound.elim

theorem Sound.args {name : Value} {args : List Value} (sound : Sound named (.node name args)) : AllSound named args := by
  cases name with
  | text word => exact sound.2
  | _ => exact sound.elim

/-- The values of a mapping that was read come from JSON as well. -/
theorem sound_of_entry {members : List (String × Json)} (sound : Json.MembersSound members) :
    ∀ entry ∈ ofJsonMembers members, entry.2.Sound named := by
  induction members with
  | nil => exact List.forall_mem_nil _
  | cons member rest ih => exact List.forall_mem_cons.mpr ⟨sound_ofJson sound.1, ih sound.2⟩

/-- **A part of a value that can be read is one that can be read.** -/
theorem Occurs.sound {part whole : Value} (occurs : Occurs part whole) (sound : whole.Sound named) : part.Sound named := by
  induction occurs with
  | here => exact sound
  | name inside ih =>
    obtain ⟨word, rfl, _⟩ := sound.name
    exact ih trivial
  | arg member inside ih => exact ih (allSound_iff.mp sound.args _ member)
  | element member inside ih => exact ih (allSound_iff.mp sound _ member)
  | component member inside ih => exact sound.elim
  | entry member inside ih =>
    obtain ⟨members, fromJson, rfl⟩ := sound
    exact ih (sound_of_entry fromJson.2 _ member)

end Value

namespace Query

/-- The characters of a name are no blanks, no separators, no opening parentheses and no comparators. -/
theorem CanName.chars {name : List Char} (valid : CanName name) {c : Char} (member : c ∈ name) :
    Text.isBlank c = false ∧ c ∉ ['(', ',', '&', '|', '=', '<', '>'] := by
  refine ⟨valid.1.noBlank c member, fun sign => ?_⟩
  have separator := valid.1.noSeparator c member
  have comparator := valid.2 c member
  simp only [List.mem_cons, List.not_mem_nil, or_false] at sign
  rcases sign with rfl | rfl | rfl | rfl | rfl | rfl | rfl
  · exact valid.1.noOpen member
  · cases separator
  · cases separator
  · cases separator
  · cases comparator
  · cases comparator
  · cases comparator

/-- **Names of nodes.** Every node that occurs anywhere in the tree of a text is named by a text that is not empty, and
that holds no blank, no separator, no opening parenthesis and no comparator. -/
theorem parse_names {source : String} {query : Query} (done : parse source = .ok query) {name : Value} {args : List Value}
    (occurs : Value.Occurs (.node name args) query.toValue) :
    ∃ word : String, name = .text word ∧ word ≠ "" ∧
      ∀ c ∈ word.toList, Text.isBlank c = false ∧ c ∉ ['(', ',', '&', '|', '=', '<', '>'] := by
  obtain ⟨word, rfl, valid⟩ := (occurs.sound (parse_sound done)).name
  refine ⟨word, rfl, ?_, fun c member => valid.chars member⟩
  rintro rfl
  exact valid.1.some rfl

/-- A conjunction in a list in a list, among the arguments of a call whose name is written with a blank. -/
theorem parse_names_listed : ∃ query args, parse "x|(a b((c,(f(1)&g))))" = .ok query ∧
    Value.same (.node (.text "or") [.node (.text "x") [], .node (.text "ab") [.list [.text "c", .list
      [.node (.text "and") [.node (.text "f") [.int 1], .node (.text "g") []]]]]]) query.toValue = true ∧
    Value.Occurs (.node (.text "and") args) query.toValue ∧
    "and" ≠ "" ∧ ∀ c ∈ "and".toList, Text.isBlank c = false ∧ c ∉ ['(', ',', '&', '|', '=', '<', '>'] := by
  obtain ⟨query, done, whole⟩ := @Outcome.exists_of_any _ _ (parse "x|(a b((c,(f(1)&g))))")
    (fun query => Value.same (.node (.text "or") [.node (.text "x") [], .node (.text "ab") [.list [.text "c", .list
      [.node (.text "and") [.node (.text "f") [.int 1], .node (.text "g") []]]]]]) query.toValue) (by decide +kernel)
  obtain ⟨outer, root, operands⟩ := Value.same_node whole
  obtain ⟨call, inOuter, agree⟩ := Value.exists_same_of_mem operands (List.mem_cons_of_mem _ List.mem_cons_self)
  obtain ⟨_, rfl, arguments⟩ := Value.same_node agree
  obtain ⟨list, inCall, agree⟩ := Value.exists_same_of_mem arguments List.mem_cons_self
  obtain ⟨_, rfl, items⟩ := Value.same_list agree
  obtain ⟨nested, inList, agree⟩ := Value.exists_same_of_mem items (List.mem_cons_of_mem _ List.mem_cons_self)
  obtain ⟨_, rfl, items⟩ := Value.same_list agree
  obtain ⟨node, inNested, agree⟩ := Value.exists_same_of_mem items List.mem_cons_self
  obtain ⟨args, rfl, _⟩ := Value.same_node agree
  have occurs : Value.Occurs (.node (.text "and") args) query.toValue :=
    root ▸ .arg inOuter (.arg inCall (.element inList (.element inNested (.here _))))
  obtain ⟨word, ⟨⟩, named⟩ := parse_names done occurs
  exact ⟨query, args, done, whole, occurs, named⟩

end Query
end ResourceQuery
