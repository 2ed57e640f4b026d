import ResourceQuery.Proofs.Query.Rendered
import ResourceQuery.Literal.Basic

/-!
Arguments in which every character is escaped. Such an argument is decoded as the text without a tag,
whatever its characters are (`Argument.value_escaped`). Splitting leaves it whole unless the text ends in a
blank: the blanks around an argument are dropped behind a backslash as well, and the backslash is left
(`Argument.split_escaped`).
-/
namespace ResourceQuery.Argument

/-- A text with a backslash in front of every character. -/
def escaped (text : List Char) : List Char := text.flatMap fun c => ['\\', c]

/-- A text with a backslash in front of every colon. -/
def guarded (text : List Char) : List Char := text.flatMap fun c => if c = ':' then ['\\', ':'] else [c]

theorem unquote_escaped_append (text rest : List Char) :
    unquote (escaped text ++ rest) = guarded text ++ unquote rest := by
  induction text with
  | nil => rfl
  | cons c text ih =>
    simp only [escaped, guarded, unquote, List.flatMap_cons, List.cons_append, List.nil_append,
      List.append_assoc] at ih ⊢
    rw [unquoteFrom.eq_def]
    simp only [if_true, ih]
    by_cases colon : c = ':'
    · simp [colon]
    · simp [colon]

theorem guarded_append (first second : List Char) : guarded (first ++ second) = guarded first ++ guarded second :=
  List.flatMap_append

/-- No colon comes first after the word characters at the start. -/
theorem dropWhile_guarded (text after : List Char) : (guarded text).dropWhile Text.isWord ≠ ':' :: after := by
  induction text with
  | nil => simp [guarded]
  | cons c text ih =>
    by_cases colon : c = ':'
    · have stop : Text.isWord '\\' = false := by decide
      simp [guarded, colon, stop]
    · have shape : guarded (c :: text) = c :: guarded text := by simp [guarded, colon]
      rw [shape]
      by_cases word : Text.isWord c = true
      · rw [List.dropWhile_cons_of_pos word]
        exact ih
      · rw [List.dropWhile_cons_of_neg word]
        exact fun same => colon (List.cons.inj same).1

theorem splitTag?_guarded (text : List Char) : Literal.splitTag? (guarded text) = none := by
  cases text with
  | nil => rfl
  | cons c text =>
    by_cases colon : c = ':'
    · have shape : guarded (c :: text) = '\\' :: ':' :: guarded text := by simp [guarded, colon]
      have stop : Text.isWord ':' = false := by decide
      have letter : '\\'.isAlpha = false := by decide
      simp [shape, Literal.splitTag?, stop, letter]
    · have shape : guarded (c :: text) = c :: guarded text := by simp [guarded, colon]
      rw [shape, Literal.splitTag?]
      split
      · rename_i after same
        exact absurd same (dropWhile_guarded text after)
      · rfl

theorem plainColons_guarded (text : List Char) : Literal.plainColons (guarded text) = text := by
  unfold Literal.plainColons
  induction text with
  | nil => rfl
  | cons c text ih =>
    by_cases colon : c = ':'
    · have shape : guarded (c :: text) = '\\' :: ':' :: guarded text := by simp [guarded, colon]
      rw [shape, Text.replacePair]
      simp [colon, ih]
    · have shape : guarded (c :: text) = c :: guarded text := by simp [guarded, colon]
      rw [shape]
      cases rest : guarded text with
      | nil =>
        rw [rest] at ih
        rw [← ih]
        rfl
      | cons next more =>
        -- A colon is never the first character, for its backslash is.
        have other : ¬ (c = '\\' ∧ next = ':') := by
          rintro ⟨-, rfl⟩
          cases text with
          | nil => cases rest
          | cons d text =>
            by_cases same : d = ':'
            · simp [guarded, same] at rest
            · exact same (by simpa [guarded, same] using congrArg List.head? rest)
        rw [rest] at ih
        rw [Text.replacePair, if_neg other, ih]

/-- A text whose colons are behind backslashes is read without a tag, as the text. -/
theorem value_guarded (text : List Char) : Literal.value (guarded text) = Literal.auto text := by
  rw [Literal.value, splitTag?_guarded, plainColons_guarded]

theorem value_escaped (text : List Char) : Literal.value (unquote (escaped text)) = Literal.auto text := by
  have whole := unquote_escaped_append text []
  rw [List.append_nil] at whole
  rw [whole]
  exact (congrArg Literal.value (List.append_nil _)).trans (value_guarded text)

/-- A backslash that is left at the end stands for itself. -/
theorem value_escaped_cut (text : List Char) :
    Literal.value (unquote (escaped text ++ ['\\'])) = Literal.auto (text ++ ['\\']) := by
  have last : guarded ['\\'] = unquote ['\\'] := rfl
  rw [unquote_escaped_append, ← last, ← guarded_append, value_guarded]

theorem undivided_escaped (text : List Char) : Undivided (escaped text) := by
  induction text with
  | nil => exact .empty
  | cons c text ih => exact (Undivided.escape c).append ih

theorem strip_escaped (front : List Char) (last : Char) :
    Text.strip (escaped (front ++ [last])) =
      if Text.isBlank last then escaped front ++ ['\\'] else escaped (front ++ [last]) := by
  have whole : escaped (front ++ [last]) = escaped front ++ ['\\', last] := List.flatMap_append
  have solid : Text.isBlank '\\' = false := by decide
  have start : Text.stripStart (escaped (front ++ [last])) = escaped (front ++ [last]) := by
    cases front <;> simp [escaped, Text.stripStart, solid]
  rw [Text.strip, start, Text.stripEnd, whole]
  by_cases blank : Text.isBlank last = true
  · simp [blank, solid]
  · simp [blank]

theorem strip_escaped_ne_nil {text : List Char} (some : text ≠ []) : Text.strip (escaped text) ≠ [] := by
  obtain ⟨front, last, rfl⟩ : ∃ front last, text = front ++ [last] := ⟨_, _, (List.dropLast_append_getLast some).symm⟩
  have whole : escaped (front ++ [last]) = escaped front ++ ['\\', last] := List.flatMap_append
  rw [strip_escaped, whole]
  split <;> simp

/-- An escaped text is one argument, without the blanks around it. -/
theorem split_escaped_strip {text : List Char} (some : text ≠ []) :
    split (escaped text) = .ok [.leaf (String.ofList (Text.strip (escaped text)))] := by
  have filled := strip_escaped_ne_nil some
  obtain ⟨c, rest, rfl⟩ := List.exists_cons_of_ne_nil some
  have undivided := undivided_escaped (c :: rest)
  have shape : escaped (c :: rest) = '\\' :: c :: escaped rest := rfl
  rw [split, splitWithin, segments_single undivided.single, ofSegments, shape,
    ofSegment_text _ _ _ (shape ▸ undivided.balanced) (by decide) (by decide), ← shape]
  simp [ofSegments, filled]

/-- **Escaped arguments.** A text in which every character is escaped is decoded as the text without a tag. It
is split as the one argument that it is exactly if the text does not end in a blank; if it does, the blank is
dropped, and its backslash becomes a character of the text. -/
theorem split_escaped {text : List Char} (some : text ≠ []) :
    Literal.value (unquote (escaped text)) = Literal.auto text ∧
    (split (escaped text) = .ok [.leaf (String.ofList (escaped text))] ↔ Text.isBlank (text.getLast some) = false) ∧
    (Text.isBlank (text.getLast some) = true →
      split (escaped text) = .ok [.leaf (String.ofList (escaped text).dropLast)] ∧
      Literal.value (unquote (escaped text).dropLast) = Literal.auto (text.dropLast ++ ['\\'])) := by
  refine ⟨value_escaped text, ?_⟩
  obtain ⟨front, last, rfl⟩ : ∃ front last, text = front ++ [last] :=
    ⟨_, _, (List.dropLast_append_getLast some).symm⟩
  have whole : escaped (front ++ [last]) = escaped front ++ ['\\', last] := List.flatMap_append
  have stripped := strip_escaped front last
  have cut : (escaped (front ++ [last])).dropLast = escaped front ++ ['\\'] := by simp [whole]
  have done := split_escaped_strip some
  rw [List.getLast_append_singleton, List.dropLast_concat, cut]
  cases blank : Text.isBlank last with
  | false =>
    rw [stripped, if_neg (by simp [blank])] at done
    simp [done]
  | true =>
    rw [stripped, if_pos blank] at done
    have shorter : escaped front ++ ['\\'] ≠ escaped (front ++ [last]) := fun same => by
      simpa [whole] using congrArg List.length same
    simp only [done, value_escaped_cut, Except.ok.injEq, List.cons.injEq, leaf.injEq, String.ofList_inj, shorter]
    simp

/-- A text of a comma, a colon, a quote and a blank at its end. -/
theorem split_escaped_marks :
    [',', ':', '\'', ' '] ≠ [] ∧
    Literal.value (unquote (escaped [',', ':', '\'', ' '])) = .ok (.text ",:' ") ∧
    split (escaped [',', ':', '\'', ' ']) = .ok [.leaf (String.ofList ['\\', ',', '\\', ':', '\\', '\'', '\\'])] ∧
    Literal.value (unquote ['\\', ',', '\\', ':', '\\', '\'', '\\']) = .ok (.text ",:'\\") := by
  obtain ⟨decoded, _, cut⟩ := @split_escaped [',', ':', '\'', ' '] (by decide)
  obtain ⟨done, left⟩ := cut rfl
  exact ⟨by decide, decoded.trans rfl, done, left.trans rfl⟩

/-- A blank is dropped although it is escaped. -/
theorem split_escaped_blank :
    ¬ ∀ text : List Char, text ≠ [] → split (escaped text) = .ok [.leaf (String.ofList (escaped text))] ∧
      Literal.value (unquote (escaped text)) = Literal.auto text := by
  intro whole
  have done : split (escaped [' ']) = .ok [.leaf (String.ofList ['\\'])] := split_escaped_strip (by decide)
  rw [(whole [' '] (by decide)).1] at done
  simp [escaped] at done

end ResourceQuery.Argument
