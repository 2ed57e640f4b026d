import ResourceQuery.Query.Group

/-!
Balanced texts. A group ends at the parenthesis that closes it, whatever stands behind that
(`upTo?_eq_some`), and a balanced text is read over without changing the depth (`upTo?_balanced`). So a
text opens a group exactly if a balanced text stands in it (`inside_eq_ok_iff`).
-/
namespace ResourceQuery.Group

/-- The texts that may stand inside a group: quotes are closed, escapes are whole and groups are
closed. -/
inductive Balanced : List Char → Prop
  | nil : Balanced []
  | plain {c : Char} {rest : List Char} (noEscape : c ≠ '\\') (noQuote : isQuote c = false) (noOpen : c ≠ '(')
      (noClose : c ≠ ')') (tail : Balanced rest) : Balanced (c :: rest)
  | escape (c : Char) {rest : List Char} (tail : Balanced rest) : Balanced ('\\' :: c :: rest)
  | quoted {quote : Char} {body rest : List Char} (mark : isQuote quote = true) (inside : quote ∉ body)
      (tail : Balanced rest) : Balanced (quote :: body ++ quote :: rest)
  | group {inside rest : List Char} (body : Balanced inside) (tail : Balanced rest) :
      Balanced ('(' :: inside ++ ')' :: rest)

theorem Balanced.append {first second : List Char} (left : Balanced first) (right : Balanced second) :
    Balanced (first ++ second) := by
  induction left with
  | nil => exact right
  | plain noEscape noQuote noOpen noClose _ ih => exact .plain noEscape noQuote noOpen noClose ih
  | escape c _ ih => exact .escape c ih
  | quoted mark inside _ ih => simpa using Balanced.quoted mark inside ih
  | group body _ _ ih => simpa using Balanced.group body ih

/-- Balanced texts with commas between them are balanced. -/
theorem Balanced.intercalate {texts : List (List Char)} (each : ∀ text ∈ texts, Balanced text) :
    Balanced (List.intercalate [','] texts) := by
  induction texts with
  | nil => exact .nil
  | cons text texts ih =>
    rw [List.forall_mem_cons] at each
    cases texts with
    | nil => simpa using each.1
    | cons next rest =>
      rw [List.intercalate_cons_cons, List.append_assoc, List.singleton_append]
      exact each.1.append (.plain (by decide) (by decide) (by decide) (by decide) (ih each.2))

section
variable (depth : Nat) {c : Char} (rest : List Char)

theorem upTo?_plain (noEscape : c ≠ '\\') (noQuote : isQuote c = false) (noOpen : c ≠ '(') (noClose : c ≠ ')') :
    upTo? depth none (c :: rest) = (upTo? depth none rest).map (c :: ·) := by
  rw [upTo?.eq_def]
  simp [noEscape, noQuote, noOpen, noClose]

theorem upTo?_quote (mark : isQuote c = true) :
    upTo? depth none (c :: rest) = (upTo? depth (some c) rest).map (c :: ·) := by
  have noEscape : c ≠ '\\' := by
    rintro rfl
    exact absurd mark (by decide)
  rw [upTo?.eq_def]
  simp [noEscape, mark]

theorem upTo?_open : upTo? depth none ('(' :: rest) = (upTo? (depth + 1) none rest).map ('(' :: ·) := by
  have noQuote : isQuote '(' = false := by decide
  rw [upTo?.eq_def]
  simp [noQuote]

theorem upTo?_close : upTo? (depth + 1) none (')' :: rest) = (upTo? depth none rest).map (')' :: ·) := by
  have noQuote : isQuote ')' = false := by decide
  rw [upTo?.eq_def]
  simp [noQuote]

theorem upTo?_end : upTo? 0 none (')' :: rest) = some [] := by
  have noQuote : isQuote ')' = false := by decide
  rw [upTo?.eq_def]
  simp [noQuote]

end

/-- The inside of a group is followed by its closing parenthesis, and does not depend on what comes
after that. -/
theorem upTo?_eq_some {depth : Nat} {quote : Option Char} {text inside : List Char}
    (closed : upTo? depth quote text = some inside) :
    ∃ rest, text = inside ++ ')' :: rest ∧ ∀ other, upTo? depth quote (inside ++ ')' :: other) = some inside := by
  fun_induction upTo? depth quote text generalizing inside with
  | case1 => cases closed
  | case2 depth quote c rest ih =>
    obtain ⟨tail, found, rfl⟩ := Option.map_eq_some_iff.mp closed
    obtain ⟨after, rfl, stable⟩ := ih found
    exact ⟨after, rfl, fun other => by simp [upTo?, stable]⟩
  | case3 => cases closed
  | case4 depth next rest ih =>
    obtain ⟨tail, found, rfl⟩ := Option.map_eq_some_iff.mp closed
    obtain ⟨after, rfl, stable⟩ := ih found
    exact ⟨after, rfl, fun other => by simp [upTo?, stable]⟩
  | case5 depth c rest noEscape mark ih =>
    obtain ⟨tail, found, rfl⟩ := Option.map_eq_some_iff.mp closed
    obtain ⟨after, rfl, stable⟩ := ih found
    exact ⟨after, rfl, fun other => by simp [upTo?_quote _ _ mark, stable]⟩
  | case6 depth rest noEscape noQuote ih =>
    obtain ⟨tail, found, rfl⟩ := Option.map_eq_some_iff.mp closed
    obtain ⟨after, rfl, stable⟩ := ih found
    exact ⟨after, rfl, fun other => by simp [upTo?_open, stable]⟩
  | case7 rest noEscape noQuote noOpen =>
    cases closed
    exact ⟨rest, rfl, fun other => upTo?_end other⟩
  | case8 rest depth noEscape noQuote noOpen ih =>
    obtain ⟨tail, found, rfl⟩ := Option.map_eq_some_iff.mp closed
    obtain ⟨after, rfl, stable⟩ := ih found
    exact ⟨after, rfl, fun other => by simp [upTo?_close, stable]⟩
  | case9 depth c rest noEscape noQuote noOpen noClose ih =>
    obtain ⟨tail, found, rfl⟩ := Option.map_eq_some_iff.mp closed
    obtain ⟨after, rfl, stable⟩ := ih found
    have plain : isQuote c = false := by simpa using noQuote
    exact ⟨after, rfl, fun other => by simp [upTo?_plain _ _ noEscape plain noOpen noClose, stable]⟩

/-- What is left of the inside of a group when `depth` groups in it are still open: a balanced text
up to the end of each. -/
def Closing : (depth : Nat) → List Char → Prop
  | 0, text => Balanced text
  | depth + 1, text => ∃ front rest, Balanced front ∧ text = front ++ ')' :: rest ∧ Closing depth rest

theorem Closing.prepend {front : List Char} (balanced : Balanced front) {depth : Nat} {text : List Char}
    (closing : Closing depth text) : Closing depth (front ++ text) := by
  cases depth with
  | zero => exact balanced.append closing
  | succ depth =>
    obtain ⟨next, rest, left, rfl, right⟩ := closing
    exact ⟨front ++ next, rest, balanced.append left, by simp, right⟩

/-- What is left of the inside of a group while a quote is open: a text up to the same quote, and the
rest. -/
def Unquoting (depth : Nat) : (quote : Option Char) → List Char → Prop
  | none, text => Closing depth text
  | some quote, text => ∃ body rest, quote ∉ body ∧ text = body ++ quote :: rest ∧ Closing depth rest

/-- What is found inside a group closes all groups and quotes that are open. -/
theorem upTo?_closing {depth : Nat} {quote : Option Char} {text inside : List Char}
    (closed : upTo? depth quote text = some inside) : Unquoting depth quote inside := by
  fun_induction upTo? depth quote text generalizing inside with
  | case1 => cases closed
  | case2 depth quote c rest ih =>
    obtain ⟨tail, found, rfl⟩ := Option.map_eq_some_iff.mp closed
    have later := ih found
    by_cases ends : c = quote
    · rw [if_pos ends] at later
      exact ⟨[], tail, by simp, by rw [ends]; rfl, later⟩
    · rw [if_neg ends] at later
      obtain ⟨body, after, outside, rfl, closing⟩ := later
      refine ⟨c :: body, after, ?_, rfl, closing⟩
      rw [List.mem_cons, not_or]
      exact ⟨Ne.symm ends, outside⟩
  | case3 => cases closed
  | case4 depth next rest ih =>
    obtain ⟨tail, found, rfl⟩ := Option.map_eq_some_iff.mp closed
    exact Closing.prepend (.escape next .nil) (ih found)
  | case5 depth c rest noEscape mark ih =>
    obtain ⟨tail, found, rfl⟩ := Option.map_eq_some_iff.mp closed
    obtain ⟨body, after, outside, rfl, closing⟩ := ih found
    have quoted : Balanced (c :: body ++ [c]) := .quoted mark outside .nil
    have later := Closing.prepend quoted closing
    rw [List.append_assoc] at later
    exact later
  | case6 depth rest noEscape noQuote ih =>
    obtain ⟨tail, found, rfl⟩ := Option.map_eq_some_iff.mp closed
    obtain ⟨front, after, body, rfl, closing⟩ := ih found
    have group : Balanced ('(' :: front ++ [')']) := .group body .nil
    have later := Closing.prepend group closing
    rw [List.append_assoc] at later
    exact later
  | case7 rest noEscape noQuote noOpen =>
    cases closed
    exact Balanced.nil
  | case8 rest depth noEscape noQuote noOpen ih =>
    obtain ⟨tail, found, rfl⟩ := Option.map_eq_some_iff.mp closed
    exact ⟨[], tail, .nil, rfl, ih found⟩
  | case9 depth c rest noEscape mark noOpen noClose ih =>
    obtain ⟨tail, found, rfl⟩ := Option.map_eq_some_iff.mp closed
    have plain : Balanced [c] := .plain noEscape (by simpa using mark) noOpen noClose .nil
    exact Closing.prepend plain (ih found)

/-- The inside of a group is balanced. -/
theorem balanced_of_inside? {text inside : List Char} (closed : inside? text = some inside) : Balanced inside :=
  upTo?_closing closed

theorem upTo?_append {depth : Nat} {quote : Option Char} {text inside : List Char}
    (closed : upTo? depth quote text = some inside) (more : List Char) :
    upTo? depth quote (text ++ more) = some inside := by
  obtain ⟨rest, rfl, stable⟩ := upTo?_eq_some closed
  simpa using stable (rest ++ more)

theorem upTo?_quoted {quote : Char} {body : List Char} (inside : quote ∉ body) (depth : Nat) (rest : List Char) :
    upTo? depth (some quote) (body ++ quote :: rest) = (upTo? depth none rest).map (body ++ quote :: ·) := by
  induction body with
  | nil => simp [upTo?]
  | cons c body ih =>
    rw [List.mem_cons, not_or] at inside
    simp [upTo?, Ne.symm inside.1, ih inside.2, Function.comp_def]

/-- A balanced text is read over at any depth. -/
theorem upTo?_balanced {text : List Char} (balanced : Balanced text) (depth : Nat) (rest : List Char) :
    upTo? depth none (text ++ rest) = (upTo? depth none rest).map (text ++ ·) := by
  induction balanced generalizing depth rest with
  | nil => simp
  | plain noEscape noQuote noOpen noClose _ ih =>
    simp [upTo?_plain _ _ noEscape noQuote noOpen noClose, ih, Function.comp_def]
  | escape c _ ih => simp [upTo?, ih, Function.comp_def]
  | quoted mark inside _ ih => simp [upTo?_quote _ _ mark, upTo?_quoted inside, ih, Function.comp_def]
  | group _ _ body ih => simp [upTo?_open, upTo?_close, body, ih, Function.comp_def]

/-- A balanced text is the inside of the group that it stands in. -/
theorem upTo?_closed {text : List Char} (balanced : Balanced text) (rest : List Char) :
    upTo? 0 none (text ++ ')' :: rest) = some text := by
  simp [upTo?_balanced balanced, upTo?_end]

/-- The texts that are made of characters, escapes, quoted texts and groups put side by side. -/
inductive Generated : List Char → Prop
  | empty : Generated []
  | ordinary {c : Char} (noEscape : c ≠ '\\') (noQuote : isQuote c = false) (noOpen : c ≠ '(') (noClose : c ≠ ')') :
      Generated [c]
  | escape (c : Char) : Generated ['\\', c]
  | quoted {quote : Char} {body : List Char} (mark : isQuote quote = true) (inside : quote ∉ body) :
      Generated (quote :: body ++ [quote])
  | group {inside : List Char} (body : Generated inside) : Generated ('(' :: inside ++ [')'])
  | append {first second : List Char} (left : Generated first) (right : Generated second) : Generated (first ++ second)

/-- A balanced text is taken apart from its start. -/
theorem balanced_iff_generated {text : List Char} : Balanced text ↔ Generated text := by
  constructor
  · intro balanced
    induction balanced with
    | nil => exact .empty
    | plain noEscape noQuote noOpen noClose _ ih => exact (Generated.ordinary noEscape noQuote noOpen noClose).append ih
    | escape c _ ih => exact (Generated.escape c).append ih
    | quoted mark inside _ ih => simpa using (Generated.quoted mark inside).append ih
    | group _ _ body ih => simpa using (Generated.group body).append ih
  · intro generated
    induction generated with
    | empty => exact .nil
    | ordinary noEscape noQuote noOpen noClose => exact .plain noEscape noQuote noOpen noClose .nil
    | escape c => exact .escape c .nil
    | quoted mark inside => exact .quoted mark inside .nil
    | group _ body => exact .group body .nil
    | append _ _ left right => exact left.append right

/-- Behind the first character of a text, whatever that is, stand a balanced text and the parenthesis that
closes it. -/
def Encloses (text inner : List Char) : Prop := Generated inner ∧ ∃ c rest, text = c :: inner ++ ')' :: rest

theorem inside?_eq_some_iff {text inner : List Char} : inside? text = some inner ↔ Encloses text inner := by
  constructor
  · intro closed
    obtain ⟨rest, tail, _⟩ := upTo?_eq_some closed
    refine ⟨balanced_iff_generated.mp (balanced_of_inside? closed), ?_⟩
    cases text with
    | nil => simp at tail
    | cons c text => exact ⟨c, rest, congrArg (c :: ·) tail⟩
  · rintro ⟨generated, c, rest, rfl⟩
    exact upTo?_closed (balanced_iff_generated.mpr generated) rest

/-- **Groups.** What stands inside the group that a text opens is the balanced text behind its first
character and before a closing parenthesis, of which there is one at most; and the fault that the group
is not closed arises exactly if there is none. -/
theorem inside_eq_ok_iff (text : String) :
    (∀ inner, inside text = .ok inner ↔ Encloses text.toList inner.toList) ∧
      (inside text = .error (.parse (.unclosedGroup text)) ↔ ¬ ∃ inner, Encloses text.toList inner) := by
  simp only [← inside?_eq_some_iff, inside]
  cases inside? text.toList with
  | none => simp
  | some closed => simp [String.ext_iff, eq_comm]

end ResourceQuery.Group
