import ResourceQuery.Proofs.Literal.Printed
import ResourceQuery.Proofs.Query.Calls
import ResourceQuery.Query.Printer

/-!
Printed queries are read value by value. Where all nodes among the arguments are named by words,
what is printed for values is split into the arguments that were written, and these are read as
`Value.reread` says: nodes and lists part by part, and any other value as the literal that is
printed for it (`Query.parse_printed`).
-/
namespace ResourceQuery

mutual

/-- Whether every node in a value is named by a word. -/
def Value.WordNamed : Value → Prop
  | .node (.text name) args => IsWord name.toList ∧ Value.AllWordNamed args
  | .node _ _ => False
  | .list items => Value.AllWordNamed items
  | .tuple items => Value.AllWordNamed items
  | _ => True
termination_by structural value => value

def Value.AllWordNamed : List Value → Prop
  | [] => True
  | item :: rest => Value.WordNamed item ∧ Value.AllWordNamed rest
termination_by structural items => items

end

mutual

/-- What a printed value is read as, when each literal in it is read alone. -/
def Value.reread : Value → Except Error Value
  | .node name args => (Value.rereadAll args).map (.node name)
  | .list items => (Value.rereadAll items).map .list
  | .tuple items => (Value.rereadAll items).map .list
  | value => do Literal.value (Argument.unquote (← Literal.print value).toList)
termination_by structural value => value

def Value.rereadAll : List Value → Except Error (List Value)
  | [] => .ok []
  | item :: rest => do
    let head ← Value.reread item
    let tail ← Value.rereadAll rest
    return head :: tail
termination_by structural items => items

end

theorem Text.toList_joined (parts : List String) :
    (joined "," parts).toList = List.intercalate [','] (parts.map String.toList) := by
  induction parts with
  | nil => rfl
  | cons part parts ih =>
    cases parts with
    | nil => simp [joined]
    | cons next rest =>
      rw [joined, String.toList_append, String.toList_append, ih, List.map_cons, List.map_cons, List.map_cons,
        List.intercalate_cons_cons]
      rfl

/-- The inside of a group with these printed arguments. -/
def Text.listed (texts : List String) : List Char := List.intercalate [','] (texts.map String.toList)

theorem Value.print_node {name : String} {args : List Value} {text : String}
    (printed : Value.print (.node (.text name) args) = .ok text) :
    ∃ texts, Value.printItems args = .ok texts ∧ text.toList = Query.callText name.toList (Text.listed texts) := by
  obtain ⟨_, named, later⟩ := Outcome.bind_eq_ok_iff.mp printed
  cases named
  obtain ⟨texts, inside, same⟩ := Outcome.bind_eq_ok_iff.mp later
  cases same
  exact ⟨texts, inside, by simp [Text.toList_joined, Query.callText, Text.listed]⟩

theorem Value.print_items {items : List Value} {text : String}
    (printed : (do return "(" ++ Text.joined "," (← Value.printItems items) ++ ")" : Except Error String) = .ok text) :
    ∃ texts, Value.printItems items = .ok texts ∧ text.toList = '(' :: Text.listed texts ++ [')'] := by
  obtain ⟨texts, inside, same⟩ := Outcome.bind_eq_ok_iff.mp printed
  cases same
  exact ⟨texts, inside, by simp [Text.toList_joined, Text.listed]⟩

theorem Value.printItems_cons {item : Value} {rest : List Value} {texts : List String}
    (printed : Value.printItems (item :: rest) = .ok texts) :
    ∃ head tail, Value.print item = .ok head ∧ Value.printItems rest = .ok tail ∧ texts = head :: tail := by
  obtain ⟨head, first, others⟩ := Outcome.bind_eq_ok_iff.mp printed
  obtain ⟨tail, later, same⟩ := Outcome.bind_eq_ok_iff.mp others
  cases same
  exact ⟨head, tail, first, later, rfl⟩

theorem Text.length_listed {head : String} {tail : List String} :
    head.toList.length ≤ (listed (head :: tail)).length ∧ (listed tail).length ≤ (listed (head :: tail)).length := by
  cases tail with
  | nil => simp [listed]
  | cons next rest =>
    simp only [listed, List.map_cons, List.intercalate_cons_cons, List.length_append]
    omega

namespace Query

theorem calm_word {name : List Char} (word : ∀ c ∈ name, Text.isWord c = true) : Shorthand.Calm name :=
  .ofChars fun c member => ⟨Shorthand.isComparator_word (word c member), Text.ne_of_class (word c member) (by decide)⟩

theorem calm_group {inside : List Char} (calm : Shorthand.Calm inside) : Shorthand.Calm ('(' :: inside ++ [')']) :=
  (show Shorthand.Calm ['('] from .ofChars (by decide)).append calm |>.append (.ofChars (by decide))

theorem calm_call {name inside : List Char} (word : ∀ c ∈ name, Text.isWord c = true) (calm : Shorthand.Calm inside) :
    Shorthand.Calm (callText name inside) := by
  rw [callText, List.append_assoc]
  exact (calm_word word).append (calm_group calm)

theorem calm_listed {head : String} {tail : List String} (first : Shorthand.Calm head.toList)
    (later : Shorthand.Calm (Text.listed tail)) : Shorthand.Calm (Text.listed (head :: tail)) := by
  cases tail with
  | nil => simpa [Text.listed] using first
  | cons next rest =>
    have comma : Shorthand.Calm [','] := .ofChars (by decide)
    simpa [Text.listed, List.intercalate_cons_cons] using first.append (comma.append later)

theorem callArguments_written {args : List Argument} (tidy : Argument.AllTidy args)
    (nested : List Char → Except Error Query) :
    callArguments nested (List.intercalate [','] (Argument.writtenAll args)) = argumentList nested args := by
  rw [callArguments, Argument.split_written tidy]
  rfl

/-- A printed literal is an argument, and is read as a literal. -/
theorem argument_literal (value : Value) {text : String} (printed : Literal.print value = .ok text)
    (nested : List Char → Except Error Query) :
    Shorthand.Calm text.toList ∧ ∃ arg, Argument.Tidy arg ∧ arg.written = text.toList ∧
      argument nested arg = (do Literal.value (Argument.unquote (← Literal.print value).toList)) := by
  obtain ⟨inert, some⟩ := Literal.print_inert printed
  refine ⟨inert.calm, .leaf text, inert.isLeaf some, rfl, ?_⟩
  rw [argument, inert.startsCall, printed]
  rfl

mutual

/-- A printed value is an argument, and is read value by value. -/
theorem argument_printed : ∀ (depth : Nat) {value : Value} {text : String}, value.WordNamed →
    value.print = .ok text → text.toList.length ≤ depth →
    Shorthand.Calm text.toList ∧
      ∃ arg, Argument.Tidy arg ∧ arg.written = text.toList ∧ argument (readWithin depth) arg = value.reread
  | depth, .node (.text name) args, text, named, printed, deep => by
    obtain ⟨word, later⟩ := named
    obtain ⟨texts, inside, whole⟩ := Value.print_node printed
    rw [whole] at deep ⊢
    obtain ⟨depth, rfl⟩ : ∃ less, depth = less + 1 := ⟨depth - 1, by simp [callText] at deep; omega⟩
    obtain ⟨calm, items, tidy, written, read⟩ := arguments_printed depth later inside (by
      simp [callText] at deep
      omega)
    have balanced : Group.Balanced (Text.listed texts) := by
      rw [Text.listed, ← written]
      exact .intercalate (Argument.writtenAll_balanced tidy)
    refine ⟨calm_call word.word calm, .leaf (String.ofList (callText name.toList (Text.listed texts))), ?_, ?_, ?_⟩
    · simpa [Argument.Tidy] using Argument.isLeaf_call word balanced
    · simp [Argument.written]
    · rw [argument, String.toList_ofList, startsCall_call word, if_pos rfl, readWithin_call word.isName balanced,
        Text.listed, ← written, callArguments_written tidy, read, Value.reread]
      cases Value.rereadAll args <;> simp [toValue]
  | depth, .list items, text, named, printed, deep => by
    obtain ⟨texts, inside, whole⟩ := Value.print_items printed
    rw [whole] at deep ⊢
    obtain ⟨calm, args, tidy, written, read⟩ := arguments_printed depth named inside (by
      simp at deep
      omega)
    refine ⟨calm_group calm, .array args, tidy, by rw [Argument.written, written, Text.listed], ?_⟩
    rw [argument, read, Value.reread]
  | depth, .tuple items, text, named, printed, deep => by
    obtain ⟨texts, inside, whole⟩ := Value.print_items printed
    rw [whole] at deep ⊢
    obtain ⟨calm, args, tidy, written, read⟩ := arguments_printed depth named inside (by
      simp at deep
      omega)
    refine ⟨calm_group calm, .array args, tidy, by rw [Argument.written, written, Text.listed], ?_⟩
    rw [argument, read, Value.reread]
  | _, .null, _, _, printed, _ => argument_literal .null printed _
  | _, .bool b, _, _, printed, _ => argument_literal (.bool b) printed _
  | _, .int n, _, _, printed, _ => argument_literal (.int n) printed _
  | _, .real x, _, _, printed, _ => argument_literal (.real x) printed _
  | _, .text s, _, _, printed, _ => argument_literal (.text s) printed _
  | _, .moment m, _, _, printed, _ => argument_literal (.moment m) printed _
  | _, .pattern p, _, _, printed, _ => argument_literal (.pattern p) printed _
  | _, .mapping entries, _, _, printed, _ => argument_literal (.mapping entries) printed _

/-- Printed values are arguments, and are read value by value. -/
theorem arguments_printed : ∀ (depth : Nat) {items : List Value} {texts : List String}, Value.AllWordNamed items →
    Value.printItems items = .ok texts → (Text.listed texts).length ≤ depth →
    Shorthand.Calm (Text.listed texts) ∧
      ∃ args, Argument.AllTidy args ∧ Argument.writtenAll args = texts.map String.toList ∧
        argumentList (readWithin depth) args = Value.rereadAll items
  | depth, [], texts, _, printed, _ => by
    cases printed
    exact ⟨.ofChars (by simp [Text.listed]), [], trivial, rfl, rfl⟩
  | depth, item :: rest, texts, named, printed, deep => by
    obtain ⟨head, tail, first, later, rfl⟩ := Value.printItems_cons printed
    obtain ⟨front, back⟩ := @Text.length_listed head tail
    obtain ⟨calm, arg, tidy, written, read⟩ := argument_printed depth named.1 first (by omega)
    obtain ⟨allCalm, args, allTidy, allWritten, allRead⟩ := arguments_printed depth named.2 later (by omega)
    refine ⟨calm_listed calm allCalm, arg :: args, ⟨tidy, allTidy⟩, by rw [Argument.writtenAll, written, allWritten]; rfl, ?_⟩
    rw [argumentList, read, allRead, Value.rereadAll]

end

/-- The name of a query that is written and read at the start of a text. -/
structure OpensText (name : List Char) : Prop where
  valid : IsName name
  settled : Shorthand.Settled name
  noForm : Shorthand.hasForm false name = false
  noMark : name.head? ≠ some '?'

theorem parse_eq {text : String} (filled : text.toList ≠ []) (noMark : text.toList.head? ≠ some '?') :
    parse text = (do read (← Shorthand.expand text.toList)) := by
  unfold parse
  split
  · rename_i none
    exact absurd none filled
  · rename_i mark
    exact absurd (by rw [mark]; rfl) noMark
  · rfl

/-- A printed query is read value by value. -/
theorem parse_printed {query : Query} (opens : OpensText query.name.toList) (named : Value.AllWordNamed query.args)
    {text : String} (printed : query.print = .ok text) :
    parse text = (Value.rereadAll query.args).map (Query.mk query.name) := by
  obtain ⟨texts, inside, whole⟩ := Value.print_node printed
  obtain ⟨valid, settled, noForm, noMark⟩ := opens
  have shorter : (Text.listed texts).length ≤ text.toList.length := by
    simp [whole, callText]
    omega
  obtain ⟨calm, args, tidy, written, read⟩ := arguments_printed _ named inside shorter
  have balanced : Group.Balanced (Text.listed texts) := by
    rw [Text.listed, ← written]
    exact .intercalate (Argument.writtenAll_balanced tidy)
  have expanded : Shorthand.expand text.toList = .ok text.toList := by
    have group := calm_group calm
    refine Shorthand.expand_eq_self ?_ ?_
    · rw [whole, callText, List.append_assoc]
      exact settled.append group.settled
    · have closing : Shorthand.hasForm false [')'] = false := rfl
      rw [whole, callText, List.append_assoc, List.cons_append, Shorthand.hasForm_stop (by decide), noForm,
        calm.noForm _ _ closing]
      rfl
  have nonempty : text.toList ≠ [] := by simp [whole, callText]
  have start : text.toList.head? ≠ some '?' := by
    rw [whole, callText, List.append_assoc, List.head?_append, List.head?_eq_some_head valid.some]
    rwa [List.head?_eq_some_head valid.some] at noMark
  have call := readWithin_call valid balanced text.toList.length
  rw [← whole] at call
  rw [parse_eq nonempty start, expanded, Outcome.ok_bind, Query.read, call, Text.listed, ← written,
    callArguments_written tidy, read, String.ofList_toList]

end Query
end ResourceQuery
