import ResourceQuery.Proofs.Literal.Plain
import ResourceQuery.Proofs.Query.Printed

/-!
Printed queries read back. A tree whose nodes are named by words and whose other values are null,
truth values, integers, texts and lists of values is read again as the same tree whenever it can
be printed (`Query.parse_print`).
-/
namespace ResourceQuery

mutual

/-- Whether a value is null, a truth value, an integer, a text, a list of such values, or a node
that is named by a word and has such values as arguments. -/
def Value.Simple : Value → Prop
  | .null => True
  | .bool _ => True
  | .int _ => True
  | .text _ => True
  | .list items => Value.AllSimple items
  | .node (.text name) args => IsWord name.toList ∧ Value.AllSimple args
  | _ => False
termination_by structural value => value

def Value.AllSimple : List Value → Prop
  | [] => True
  | item :: rest => Value.Simple item ∧ Value.AllSimple rest
termination_by structural items => items

end

mutual

theorem Value.Simple.wordNamed : ∀ {value : Value}, value.Simple → value.WordNamed
  | .null, _ => trivial
  | .bool _, _ => trivial
  | .int _, _ => trivial
  | .text _, _ => trivial
  | .list _, simple => Value.AllSimple.wordNamed simple
  | .node (.text _) _, simple => ⟨simple.1, Value.AllSimple.wordNamed simple.2⟩

theorem Value.AllSimple.wordNamed : ∀ {items : List Value}, Value.AllSimple items → Value.AllWordNamed items
  | [], _ => trivial
  | _ :: _, simple => ⟨Value.Simple.wordNamed simple.1, Value.AllSimple.wordNamed simple.2⟩

end

theorem Value.reread_null : Value.reread .null = .ok .null := rfl

theorem Value.reread_bool (b : Bool) : Value.reread (.bool b) = .ok (.bool b) := by
  cases b <;> rfl

mutual

/-- What is printed for such a value is read as the value. -/
theorem Value.reread_simple : ∀ {value : Value} {written : String}, value.Simple → value.print = .ok written →
    value.reread = .ok value
  | .null, _, _, _ => Value.reread_null
  | .bool b, _, _, _ => Value.reread_bool b
  | .int n, _, _, printed => by
    simp only [Value.print, Literal.print, shownInt] at printed
    split at printed
    · rename_i writable
      simp [Value.reread, Literal.print, shownInt, writable, Literal.unquote_inert (Literal.integerText_plain n),
        Literal.value_integerText writable]
    · cases printed
  | .text s, written, _, printed => by
    have read := Literal.value_printText printed
    have found : Literal.print (.text s) = .ok written := printed
    rw [Value.reread, found]
    · exact read
    all_goals simp
  | .list items, _, simple, printed => by
    obtain ⟨texts, inside, _⟩ := Value.print_items printed
    rw [Value.reread, Value.rereadAll_simple simple inside]
    rfl
  | .node (.text name) args, _, simple, printed => by
    obtain ⟨texts, inside, _⟩ := Value.print_node printed
    rw [Value.reread, Value.rereadAll_simple simple.2 inside]
    rfl

theorem Value.rereadAll_simple : ∀ {items : List Value} {texts : List String}, Value.AllSimple items →
    Value.printItems items = .ok texts → Value.rereadAll items = .ok items
  | [], _, _, _ => rfl
  | item :: rest, texts, simple, printed => by
    obtain ⟨head, tail, first, later, _⟩ := Value.printItems_cons printed
    rw [Value.rereadAll, Value.reread_simple simple.1 first, Outcome.ok_bind, Value.rereadAll_simple simple.2 later]
    rfl

end

namespace Query

/-- A word can stand at the start of a text. -/
theorem opensText_word {name : List Char} (word : IsWord name) : OpensText name where
  valid := word.isName
  settled := (calm_word word.word).settled
  noForm := (calm_word word.word).hasForm
  noMark mark := absurd (word.word _ (List.mem_of_head? mark)) (by decide)

/-- **Print, then parse.** A printed tree of such values is read as the tree itself. -/
theorem parse_print {query : Query} (simple : query.toValue.Simple) {text : String} (printed : query.print = .ok text) :
    parse text = .ok query := by
  obtain ⟨word, args⟩ := simple
  obtain ⟨texts, inside, _⟩ := Value.print_node printed
  rw [parse_printed (opensText_word word) (Value.AllSimple.wordNamed args) printed,
    Value.rereadAll_simple args inside]
  rfl

/-- A call with an empty list, an empty text, texts that look like a number and a comparator, and
another call among its arguments. -/
theorem parse_print_nested :
    Value.Simple (toValue ⟨"f", [.list [], .text "", .bool true, .int (-12),
      .node (.text "g") [.null, .text "12", .text "<"]]⟩) ∧
    print ⟨"f", [.list [], .text "", .bool true, .int (-12), .node (.text "g") [.null, .text "12", .text "<"]]⟩ =
      .ok "f((),string:,true,-12,g(null,string:12,\\%3C))" ∧
    parse "f((),string:,true,-12,g(null,string:12,\\%3C))" =
      .ok ⟨"f", [.list [], .text "", .bool true, .int (-12), .node (.text "g") [.null, .text "12", .text "<"]]⟩ := by
  have simple : Value.Simple (toValue ⟨"f", [.list [], .text "", .bool true, .int (-12),
      .node (.text "g") [.null, .text "12", .text "<"]]⟩) :=
    ⟨by decide, trivial, trivial, trivial, trivial, ⟨by decide, trivial, trivial, trivial, trivial⟩, trivial⟩
  exact ⟨simple, rfl, parse_print simple rfl⟩

end Query
end ResourceQuery
