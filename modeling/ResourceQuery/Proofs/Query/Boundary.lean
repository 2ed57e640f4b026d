import ResourceQuery.Proofs.Query.Shorthand

/-!
Boundaries. A character that stands in no operand, comparator or percent form divides a text: what
stands before it and what stands behind it are expanded apart (`expand_boundary`).
-/
namespace ResourceQuery.Shorthand

theorem length?_eq_some {form : PercentForm} {text : List Char} {length : Nat} (found : form.length? text = some length) :
    ∃ c rest, text = '%' :: '3' :: c :: rest ∧ (c = form.upper ∨ c = form.lower) ∧
      (form.withEquals = true → rest.head? = some '=') := by
  unfold PercentForm.length? at found
  split at found
  · rename_i c rest
    split at found
    · rename_i letter
      refine ⟨c, rest, rfl, letter, fun withEquals => ?_⟩
      rw [if_pos withEquals] at found
      split at found
      · assumption
      · cases found
    · cases found
  · cases found

/-- A percent form lies in the text, and is no longer than its comparator. -/
theorem length?_le {form : PercentForm} {text : List Char} {length : Nat} (found : form.length? text = some length) :
    length ≤ text.length ∧ length ≤ 4 := by
  unfold PercentForm.length? at found
  split at found
  · rename_i c rest
    split at found
    · split at found
      · split at found
        · rename_i equals
          cases found
          obtain ⟨rest, rfl⟩ := List.head?_eq_some_iff.mp equals
          simp
        · cases found
      · cases found
        simp
    · cases found
  · cases found

theorem replaceFrom_kept {form : PercentForm} {escaped : Bool} {c : Char} {rest : List Char}
    (none : escaped = true ∨ form.length? (c :: rest) = none) :
    form.replaceFrom 0 escaped (c :: rest) = c :: form.replaceFrom 0 (c = '\\') rest := by
  have kept : (if escaped then Option.none else form.length? (c :: rest)) = Option.none := by
    rcases none with rfl | none
    · rfl
    · rw [none, ite_self]
  rw [PercentForm.replaceFrom, kept]

theorem replaceFrom_char {form : PercentForm} {c : Char} (noPercent : c ≠ '%') (escaped : Bool) (rest : List Char) :
    form.replaceFrom 0 escaped (c :: rest) = c :: form.replaceFrom 0 (c = '\\') rest := by
  refine replaceFrom_kept (.inr ?_)
  cases found : form.length? (c :: rest) with
  | none => rfl
  | some length =>
    obtain ⟨_, _, same, _⟩ := length?_eq_some found
    exact absurd (List.cons.inj same).1 noPercent

/-- No percent form goes on into a character that is in none. -/
theorem length?_stop {form : PercentForm} (known : form ∈ percentForms) {stop : Char} (other : stop ∉ formMarks)
    (noEquals : stop ≠ '=') (text rest : List Char) : form.length? (text ++ stop :: rest) = form.length? text := by
  cases start : startsForm text with
  | false =>
    rw [length?_eq_none known start]
    rw [← startsForm_stop other text rest] at start
    exact length?_eq_none known start
  | true =>
    obtain ⟨letter, after, rfl, _⟩ := startsForm_iff.mp start
    cases after with
    | nil => simp [PercentForm.length?, noEquals]
    | cons next tail => rfl

/-- The percent forms around such a character are replaced apart. -/
theorem replaceFrom_stop {form : PercentForm} (known : form ∈ percentForms) {stop : Char} (other : stop ∉ formMarks)
    (noEquals : stop ≠ '=') {skip : Nat} {escaped : Bool} {text : List Char} (inside : skip ≤ text.length) (rest : List Char) :
    form.replaceFrom skip escaped (text ++ stop :: rest) =
      form.replaceFrom skip escaped text ++ stop :: form.replaceFrom 0 false rest := by
  fun_induction form.replaceFrom skip escaped text with
  | case1 skip escaped =>
    obtain rfl : skip = 0 := by simpa using inside
    have noPercent : stop ≠ '%' := by
      rintro rfl
      exact absurd other (by decide)
    have noEscape : stop ≠ '\\' := by
      rintro rfl
      exact absurd other (by decide)
    rw [List.nil_append, replaceFrom_char noPercent, decide_eq_false noEscape]
    rfl
  | case2 skip escaped c text ih => exact ih (by simpa using inside)
  | case3 escaped c text length found ih =>
    have same := length?_stop known other noEquals (c :: text) rest
    have short : length ≤ text.length + 1 := by
      split at found
      · cases found
      · exact (length?_le found).1
    rw [List.cons_append, PercentForm.replaceFrom]
    rw [List.cons_append] at same
    rw [same, found]
    simp only [ih (Nat.sub_le_of_le_add short), List.append_assoc]
  | case4 escaped c text none ih =>
    have same := length?_stop known other noEquals (c :: text) rest
    rw [List.cons_append] at same ⊢
    rw [PercentForm.replaceFrom, same, none]
    simp only [ih (Nat.zero_le _), List.cons_append]

theorem replacePercentForms_stop {stop : Char} (other : stop ∉ formMarks) (noEquals : stop ≠ '=') (text rest : List Char) :
    replacePercentForms (text ++ stop :: rest) = replacePercentForms text ++ stop :: replacePercentForms rest := by
  have run : ∀ (forms : List PercentForm) (text rest : List Char), (∀ form ∈ forms, form ∈ percentForms) →
      forms.foldl (fun text form => form.replaceFrom 0 false text) (text ++ stop :: rest) =
        forms.foldl (fun text form => form.replaceFrom 0 false text) text ++
          stop :: forms.foldl (fun text form => form.replaceFrom 0 false text) rest := by
    intro forms
    induction forms with
    | nil => exact fun _ _ _ => rfl
    | cons form forms ih =>
      intro text rest known
      rw [List.forall_mem_cons] at known
      rw [List.foldl_cons, replaceFrom_stop known.1 other noEquals (Nat.zero_le _), ih _ _ known.2]
      rfl
  exact run percentForms text rest fun _ member => member

/-! ### Tokens -/

theorem tokensFrom_drop (text rest : List Char) : tokensFrom text.length (text ++ rest) = tokensFrom 0 rest := by
  induction text with
  | nil => rfl
  | cons c text ih => simpa [tokensFrom] using ih

/-- A character outside runs that starts neither a comparator nor an operand. -/
theorem tokensFrom_other {c : Char} {rest : List Char} (noRun : isRunChar c = false)
    (noComparator : comparator? (c :: rest) = none) (noOpen : c ≠ '(') :
    tokensFrom 0 (c :: rest) = .other c :: tokensFrom 0 rest := by
  have noList : list? (c :: rest) = none := by
    unfold list?
    split
    · rename_i same
      exact absurd (List.cons.inj same).1 noOpen
    · rfl
  rw [tokensFrom.eq_def]
  simp [noRun, noComparator, noList]

theorem comparator?_none {c next : Char} {rest : List Char} (plain : isComparator c = false) (bang : c = '!' → next ≠ '=') :
    comparator? (c :: next :: rest) = none := by
  simp only [isComparator, Bool.or_eq_false_iff, decide_eq_false_iff_not] at plain
  obtain ⟨⟨noEquals, noLess⟩, noGreater⟩ := plain
  unfold comparator?
  split
  · rename_i same
    exact absurd (List.cons.inj same).1 noEquals
  · rename_i d after _ same
    obtain ⟨rfl, later⟩ := List.cons.inj same
    rw [if_neg]
    rintro (less | greater | exclamation)
    · exact noLess less
    · exact noGreater greater
    · exact bang exclamation (List.cons.inj later).1
  · rename_i same
    obtain ⟨rfl, _⟩ := List.cons.inj same
    rw [if_neg]
    rintro (less | greater)
    · exact noLess less
    · exact noGreater greater
  · rfl

theorem tokensFrom_plain {c : Char} (noRun : isRunChar c = false) (plain : isComparator c = false) (noBang : c ≠ '!')
    (noOpen : c ≠ '(') (rest : List Char) : tokensFrom 0 (c :: rest) = .other c :: tokensFrom 0 rest := by
  refine tokensFrom_other noRun ?_ noOpen
  cases rest with
  | nil => exact comparator?_settled (by simpa [Settled] using plain)
  | cons next rest => exact comparator?_none plain fun bang => absurd bang noBang

/-- The first token of a text that starts with a run. -/
theorem tokensFrom_run {c : Char} (opens : isRunChar c = true) (rest : List Char) :
    tokensFrom 0 (c :: rest) = .operand (c :: rest.takeWhile isRunChar) :: tokensFrom 0 (rest.dropWhile isRunChar) := by
  have skip := tokensFrom_drop (rest.takeWhile isRunChar) (rest.dropWhile isRunChar)
  rw [List.takeWhile_append_dropWhile] at skip
  rw [tokensFrom.eq_def]
  simp only [opens, if_true, skip]

theorem text_other (c : Char) (line : List Token) : text (.other c :: line) = (text line).map (c :: ·) := by
  rw [text]
  cases text line <;> rfl

section
variable {stop : Char}

theorem takeWhile_stop {isIn : Char → Bool} (outside : isIn stop = false) (text rest : List Char) :
    (text ++ stop :: rest).takeWhile isIn = text.takeWhile isIn := by
  induction text with
  | nil => simp [outside]
  | cons c text ih =>
    by_cases inside : isIn c = true
    · simp [inside, ih]
    · simp [inside]

theorem dropWhile_stop {isIn : Char → Bool} (outside : isIn stop = false) (text rest : List Char) :
    (text ++ stop :: rest).dropWhile isIn = text.dropWhile isIn ++ stop :: rest := by
  induction text with
  | nil => simp [outside]
  | cons c text ih =>
    by_cases inside : isIn c = true
    · simp [inside, ih]
    · simp [inside]

/-- What stands behind a run is there without the text behind a boundary, unless it is the boundary. -/
theorem head?_stop {sign : Char} (other : stop ≠ sign) (text rest : List Char) :
    (text ++ stop :: rest).head? = some sign ↔ text.head? = some sign := by
  cases text with
  | nil => simp [other]
  | cons c text => rfl

/-- A character that no token goes on into: each token before it ends there. -/
structure EndsTokens (c : Char) : Prop where
  noList : isListChar c = false
  noMark : c ∉ [')', ' ', '=']

instance : DecidablePred EndsTokens := fun c =>
  decidable_of_iff (isListChar c = false ∧ c ∉ [')', ' ', '=']) ⟨fun both => ⟨both.1, both.2⟩, fun one => ⟨one.1, one.2⟩⟩

section
variable (ends : EndsTokens stop)
include ends

theorem EndsTokens.ne (sign : Char) (mark : sign ∈ [')', ' ', '=']) : stop ≠ sign := by
  rintro rfl
  exact ends.noMark mark

theorem EndsTokens.noOperand : isOperandChar stop = false := (Bool.or_eq_false_iff.mp ends.noList).1

theorem EndsTokens.noWord : Text.isWord stop = false := (Bool.or_eq_false_iff.mp ends.noOperand).1

theorem EndsTokens.noRun : isRunChar stop = false := by
  simp [isRunChar, ends.noOperand, ends.ne ' ' (by simp)]

theorem named_stop (text rest : List Char) : named (text ++ stop :: rest) = named text := by
  unfold named
  rw [dropWhile_stop ends.noWord, takeWhile_stop ends.noWord]
  simp only [head?_stop (ends.ne '=' (by simp))]

theorem comparator?_stop (c : Char) (text rest : List Char) :
    comparator? (c :: text ++ stop :: rest) = comparator? (c :: text) := by
  have noEquals := ends.ne '=' (by simp)
  by_cases equals : c = '='
  · subst equals
    simp [comparator?, named_stop ends]
  · cases text with
    | nil => simp [comparator?, noEquals]
    | cons next text =>
      by_cases second : next = '='
      · subst second
        simp [comparator?, named_stop ends]
      · simp [comparator?, second]

theorem list?_stop (c : Char) (text rest : List Char) : list? (c :: text ++ stop :: rest) = list? (c :: text) := by
  by_cases opens : c = '('
  · subst opens
    have noClose := ends.ne ')' (by simp)
    simp only [List.cons_append, list?, takeWhile_stop ends.noList, dropWhile_stop ends.noList, head?_stop noClose]
  · simp [list?, opens]

/-- The tokens before such a character are those of the text before it alone. -/
theorem tokensFrom_stop {skip : Nat} {text : List Char} (inside : skip ≤ text.length) (rest : List Char) :
    tokensFrom skip (text ++ stop :: rest) = tokensFrom skip text ++ tokensFrom 0 (stop :: rest) := by
  fun_induction tokensFrom skip text with
  | case1 skip =>
    obtain rfl : skip = 0 := by simpa using inside
    rfl
  | case2 skip c text ih => exact ih (by simpa using inside)
  | case3 c text opens run ih =>
    have short : run.length ≤ text.length := (List.takeWhile_prefix isRunChar).length_le
    have same := takeWhile_stop ends.noRun text rest
    rw [List.cons_append, tokensFrom.eq_def]
    simp only [opens, if_true, same]
    rw [ih short, List.cons_append]
  | case4 c text noRun symbol found ih =>
    have short : symbol.length - 1 ≤ text.length := by
      obtain ⟨before, after, tail, split, _⟩ := comparator?_eq_some found
      exact Nat.sub_le_of_le_add (List.IsPrefix.length_le ⟨tail, split.symm⟩)
    have same := comparator?_stop ends c text rest
    rw [List.cons_append] at same ⊢
    rw [tokensFrom.eq_def]
    simp only [noRun, same, found]
    rw [ih short]
    rfl
  | case5 c text noRun noComparator list found ih =>
    have short : list.length - 1 ≤ text.length := by
      obtain ⟨tail, _, split, _⟩ := list?_eq_some found
      exact Nat.sub_le_of_le_add (List.IsPrefix.length_le ⟨tail, split.symm⟩)
    have same := comparator?_stop ends c text rest
    have listed := list?_stop ends c text rest
    rw [List.cons_append] at same listed ⊢
    rw [tokensFrom.eq_def]
    simp only [noRun, same, noComparator, listed, found]
    rw [ih short]
    rfl
  | case6 c text noRun noComparator noList ih =>
    have same := comparator?_stop ends c text rest
    have listed := list?_stop ends c text rest
    rw [List.cons_append] at same listed ⊢
    rw [tokensFrom.eq_def]
    simp only [noRun, same, noComparator, listed, noList]
    rw [ih (Nat.zero_le _)]
    rfl

end

/-! ### Boundaries -/

/-- A character that stands in no operand, comparator or percent form. -/
structure IsBoundary (c : Char) : Prop where
  noList : isListChar c = false
  noMark : c ∉ ['(', ')', ' ', '=', '<', '>', '!', '\\']

instance : DecidablePred IsBoundary := fun c =>
  decidable_of_iff (isListChar c = false ∧ c ∉ ['(', ')', ' ', '=', '<', '>', '!', '\\'])
    ⟨fun both => ⟨both.1, both.2⟩, fun one => ⟨one.1, one.2⟩⟩

section
variable (boundary : IsBoundary stop)
include boundary

theorem IsBoundary.ne (sign : Char) (mark : sign ∈ ['(', ')', ' ', '=', '<', '>', '!', '\\']) : stop ≠ sign := by
  rintro rfl
  exact boundary.noMark mark

theorem IsBoundary.endsTokens : EndsTokens stop where
  noList := boundary.noList
  noMark member := boundary.noMark (by
    simp only [List.mem_cons, List.not_mem_nil, or_false] at member
    rcases member with rfl | rfl | rfl <;> simp)

theorem IsBoundary.noForm : stop ∉ formMarks := by
  intro member
  have operands : ∀ c ∈ ['%', '3', 'C', 'c', 'E', 'e'], isOperandChar c = true := by decide
  have marks : formMarks = ['%', '3', 'C', 'c', 'E', 'e'] ++ ['\\'] := rfl
  rw [marks, List.mem_append] at member
  rcases member with operand | mark
  · have inside := operands stop operand
    rw [boundary.endsTokens.noOperand] at inside
    cases inside
  · exact boundary.ne _ (by simp) (List.mem_singleton.mp mark)

theorem tokensFrom_boundary (rest : List Char) : tokensFrom 0 (stop :: rest) = .other stop :: tokensFrom 0 rest := by
  have plain : isComparator stop = false := by
    simp [isComparator, boundary.ne '=' (by simp), boundary.ne '<' (by simp), boundary.ne '>' (by simp)]
  exact tokensFrom_plain boundary.endsTokens.noRun plain (boundary.ne '!' (by simp)) (boundary.ne '(' (by simp)) rest

end

end

theorem text_operand (operand : List Char) {line : List Token}
    (noComparator : ∀ symbol, line.head? ≠ some (.comparator symbol)) :
    text (.operand operand :: line) = (text line).map (operand ++ ·) := by
  cases line with
  | nil => rfl
  | cons token line =>
    cases token with
    | comparator symbol => exact absurd rfl (noComparator symbol)
    | operand other =>
      rw [text]
      · cases text (.operand other :: line) <;> rfl
      all_goals simp
    | other c =>
      rw [text]
      · cases text (.other c :: line) <;> rfl
      all_goals simp

theorem append_assoc_stop (head tail back : Except Error (List Char)) (c : Char) :
    (do return (← (do return (← head) ++ (← tail) : Except Error (List Char))) ++ c :: (← back)) =
      (do return (← head) ++ (← (do return (← tail) ++ c :: (← back) : Except Error (List Char)))) := by
  cases head with
  | error fault => rfl
  | ok front =>
    cases tail with
    | error fault => rfl
    | ok middle => cases back <;> simp

/-- The calls around a character that is kept. -/
theorem text_stop (line : List Token) (c : Char) (more : List Token) :
    text (line ++ .other c :: more) = (do return (← text line) ++ c :: (← text more)) := by
  fun_induction text line with
  | case1 =>
    rw [List.nil_append, text_other]
    cases text more <;> rfl
  | case2 field symbol value rest ih =>
    rw [append_assoc_stop, ← ih]
    rfl
  | case3 field symbol rest noOperand ih =>
    rw [append_assoc_stop, ← ih]
    cases rest with
    | nil => rfl
    | cons token rest =>
      cases token with
      | operand value => exact absurd rfl (noOperand value rest)
      | _ => rfl
  | case4 symbol value rest ih =>
    rw [append_assoc_stop, ← ih]
    rfl
  | case5 symbol rest noOperand ih =>
    rw [append_assoc_stop, ← ih]
    cases rest with
    | nil => rfl
    | cons token rest =>
      cases token with
      | operand value => exact absurd rfl (noOperand value rest)
      | _ => rfl
  | case6 operand rest _ noComparator ih =>
    have first : ∀ symbol, (rest ++ .other c :: more).head? ≠ some (.comparator symbol) := by
      intro symbol
      cases rest with
      | nil => simp
      | cons token rest =>
        simp only [List.cons_append, List.head?_cons, ne_eq, Option.some.injEq]
        rintro rfl
        exact noComparator symbol rest rfl
    rw [List.cons_append, text_operand operand first, ih]
    cases text rest with
    | error fault => rfl
    | ok middle => cases text more <;> simp
  | case7 d rest ih =>
    rw [List.cons_append, text_other, ih]
    cases text rest with
    | error fault => rfl
    | ok middle => cases text more <;> rfl

/-- What stands before a boundary and what stands behind it are expanded apart. -/
theorem expand_boundary {stop : Char} (boundary : IsBoundary stop) (front back : List Char) :
    expand (front ++ stop :: back) = (do return (← expand front) ++ stop :: (← expand back)) := by
  rw [expand, replacePercentForms_stop boundary.noForm (boundary.ne _ (by simp)), tokens,
    tokensFrom_stop boundary.endsTokens (Nat.zero_le _), tokensFrom_boundary boundary, text_stop]
  rfl

end ResourceQuery.Shorthand
