import ResourceQuery.Proofs.Query.Boundary
import ResourceQuery.Proofs.Query.Calls

/-!
How an expanded text starts. What stands in front of a parenthesis is kept and may get the operator
of a comparator behind the group at its end (`expand_name`, `expand_nest`), unless a percent form in
it stands for a comparator: then the text starts with a shorter name (`expand_formed`).
-/
namespace ResourceQuery.Shorthand

theorem length?_plain {form : PercentForm} (plain : form.withEquals = false) {c : Char} (rest : List Char)
    (letter : c = form.upper ∨ c = form.lower) : form.length? ('%' :: '3' :: c :: rest) = some 3 := by
  simp [PercentForm.length?, letter, plain]

theorem replaceFrom_form {form : PercentForm} (plain : form.withEquals = false) {c : Char} (rest : List Char)
    (letter : c = form.upper ∨ c = form.lower) :
    form.replaceFrom 0 false ('%' :: '3' :: c :: rest) = form.comparator ++ form.replaceFrom 2 false ('3' :: c :: rest) := by
  rw [PercentForm.replaceFrom.eq_def]
  simp [length?_plain plain rest letter]

/-- The characters of a text with percent forms replaced. -/
theorem replaceFrom_mem {form : PercentForm} {skip : Nat} {escaped : Bool} {text : List Char} :
    ∀ c ∈ form.replaceFrom skip escaped text, c ∈ text ∨ c ∈ form.comparator := by
  fun_induction form.replaceFrom skip escaped text with
  | case1 => simp
  | case2 skip escaped c rest ih => exact fun d member => (ih d member).imp_left (List.mem_cons_of_mem _)
  | case3 escaped c rest length found ih =>
    intro d member
    rcases List.mem_append.mp member with symbol | later
    · exact .inr symbol
    · exact (ih d later).imp_left (List.mem_cons_of_mem _)
  | case4 escaped c rest none ih =>
    intro d member
    rcases List.mem_cons.mp member with rfl | later
    · exact .inl List.mem_cons_self
    · exact (ih d later).imp_left (List.mem_cons_of_mem _)

theorem replacePercentForms_mem {text : List Char} :
    ∀ c ∈ replacePercentForms text, c ∈ text ∨ c ∈ ['=', 'l', 'e', 'g', 't'] := by
  have marks : ∀ form ∈ percentForms, ∀ c ∈ form.comparator, c ∈ ['=', 'l', 'e', 'g', 't'] := by decide
  have run : ∀ (forms : List PercentForm) (text : List Char),
      (∀ form ∈ forms, ∀ c ∈ form.comparator, c ∈ ['=', 'l', 'e', 'g', 't']) →
      ∀ c ∈ forms.foldl (fun text form => form.replaceFrom 0 false text) text, c ∈ text ∨ c ∈ ['=', 'l', 'e', 'g', 't'] := by
    intro forms
    induction forms with
    | nil => exact fun text _ c member => .inl member
    | cons form forms ih =>
      intro text known c member
      rw [List.forall_mem_cons] at known
      rcases ih _ known.2 c member with replaced | symbol
      · exact (replaceFrom_mem c replaced).imp_right (known.1 c)
      · exact .inr symbol
  exact run percentForms text marks

/-- A name without percent forms in front of a parenthesis is kept. -/
theorem replacePercentForms_open {name : List Char} (noForm : hasForm false name = false) (rest : List Char) :
    replacePercentForms (name ++ '(' :: rest) = name ++ '(' :: replacePercentForms rest := by
  rw [replacePercentForms_stop (by decide) (by decide), replacePercentForms_eq_self noForm]

/-- Whether a percent form stands in a text anywhere but directly behind a backslash. -/
def PercentForm.Occurs (form : PercentForm) : (escaped : Bool) → List Char → Prop
  | _, [] => False
  | escaped, c :: rest => (escaped = false ∧ form.length? (c :: rest) ≠ none) ∨ form.Occurs (c = '\\') rest

theorem occurs_of_hasForm {lower upper : PercentForm} (first : lower.withEquals = false) (second : upper.withEquals = false)
    (letters : ∀ c, c = 'C' ∨ c = 'c' ∨ c = 'E' ∨ c = 'e' →
      (c = lower.upper ∨ c = lower.lower) ∨ c = upper.upper ∨ c = upper.lower)
    {escaped : Bool} {text : List Char} (formed : hasForm escaped text = true) :
    lower.Occurs escaped text ∨ upper.Occurs escaped text := by
  induction text generalizing escaped with
  | nil => cases formed
  | cons c rest ih =>
    rcases Bool.or_eq_true _ _ ▸ formed with here | later
    · obtain ⟨open_, starts⟩ := Bool.and_eq_true _ _ ▸ here
      have plain : escaped = false := by simpa using open_
      obtain ⟨letter, after, same, member⟩ := startsForm_iff.mp starts
      cases same
      rcases letters letter (by simpa using member) with left | right
      · exact .inl (.inl ⟨plain, by simp [length?_plain first after left]⟩)
      · exact .inr (.inl ⟨plain, by simp [length?_plain second after right]⟩)
    · exact (ih later).imp .inr .inr

/-- Up to a character that is in no percent form, a text is kept, or else its first percent form is
replaced. -/
theorem replaceFrom_front {form : PercentForm} (plain : form.withEquals = false) {stop : Char}
    (other : stop ≠ '%' ∧ stop ≠ '3' ∧ stop ≠ form.upper ∧ stop ≠ form.lower) (escaped : Bool) (front rest : List Char) :
    (¬ form.Occurs escaped front ∧
      form.replaceFrom 0 escaped (front ++ stop :: rest) = front ++ stop :: form.replaceFrom 0 (stop = '\\') rest) ∨
    ∃ first c last more, front = first ++ '%' :: '3' :: c :: last ∧
      form.replaceFrom 0 escaped (front ++ stop :: rest) = first ++ form.comparator ++ more := by
  obtain ⟨noPercent, noThree, noUpper, noLower⟩ := other
  induction front generalizing escaped with
  | nil => exact .inl ⟨id, replaceFrom_char noPercent escaped rest⟩
  | cons c front ih =>
    by_cases kept : escaped = true ∨ form.length? (c :: (front ++ stop :: rest)) = none
    · rw [List.cons_append, replaceFrom_kept kept]
      rcases ih (c = '\\') with ⟨none, same⟩ | ⟨first, d, last, more, rfl, same⟩
      · refine .inl ⟨?_, by rw [same]; rfl⟩
        rintro (⟨plainly, starts⟩ | later)
        · obtain ⟨length, found⟩ := Option.ne_none_iff_exists'.mp starts
          obtain ⟨letter, after, whole, either, _⟩ := length?_eq_some found
          obtain ⟨rfl, rfl⟩ := List.cons.inj whole
          have longer := length?_plain plain (after ++ stop :: rest) either
          rcases kept with set | none
          · rw [set] at plainly
            cases plainly
          · have same : '%' :: (('3' :: letter :: after) ++ stop :: rest) =
                '%' :: '3' :: letter :: (after ++ stop :: rest) := rfl
            rw [same, longer] at none
            cases none
        · exact none later
      · exact .inr ⟨c :: first, d, last, more, rfl, by rw [same]; rfl⟩
    · obtain ⟨open_, starts⟩ := not_or.mp kept
      obtain ⟨length, found⟩ := Option.ne_none_iff_exists'.mp starts
      obtain ⟨letter, after, whole, either, _⟩ := length?_eq_some found
      obtain ⟨rfl, split⟩ := List.cons.inj whole
      refine .inr ?_
      obtain _ | ⟨three, front⟩ := front
      · exact absurd (List.cons.inj split).1 noThree
      · obtain _ | ⟨d, front⟩ := front
        · obtain ⟨rfl, same⟩ := List.cons.inj split
          obtain ⟨rfl, _⟩ := List.cons.inj same
          exact absurd either (by simp [noUpper, noLower])
        · obtain ⟨rfl, same⟩ := List.cons.inj split
          obtain ⟨rfl, same⟩ := List.cons.inj same
          refine ⟨[], d, front, form.replaceFrom 2 false ('3' :: d :: (front ++ stop :: rest)), rfl, ?_⟩
          have closed : escaped = false := by simpa using open_
          rw [closed]
          exact replaceFrom_form plain _ either

/-- The percent forms with an equals sign do not occur in a text without one. -/
theorem replaceFrom_noEquals {form : PercentForm} (known : form ∈ percentForms) (withEquals : form.withEquals = true)
    {name : List Char} (noEquals : '=' ∉ name) (escaped : Bool) (rest : List Char) :
    form.replaceFrom 0 escaped (name ++ '(' :: rest) = name ++ '(' :: form.replaceFrom 0 false rest := by
  have letters : ∀ form ∈ percentForms, '(' ≠ form.upper ∧ '(' ≠ form.lower := by decide
  induction name generalizing escaped with
  | nil => exact replaceFrom_char (by decide) escaped rest
  | cons c name ih =>
    rw [List.mem_cons, not_or] at noEquals
    rw [List.cons_append, replaceFrom_kept, ih noEquals.2, List.cons_append]
    cases found : form.length? (c :: (name ++ '(' :: rest)) with
    | none => exact .inr rfl
    | some length =>
      obtain ⟨letter, after, whole, either, equals⟩ := length?_eq_some found
      obtain ⟨more, rfl⟩ := List.head?_eq_some_iff.mp (equals withEquals)
      match name, noEquals.2, (List.cons.inj whole).2 with
      | [], _, split => cases split
      | [three], _, split =>
        obtain rfl : '(' = letter := (List.cons.inj (List.cons.inj split).2).1
        exact absurd either (by simp [letters form known])
      | [three, low], _, split => cases (List.cons.inj (List.cons.inj (List.cons.inj split).2).2).1
      | three :: low :: equal :: name, absent, split =>
        obtain rfl : equal = '=' := (List.cons.inj (List.cons.inj (List.cons.inj split).2).2).1
        exact absurd (by simp) absent

/-- The percent form of `<`. -/
def lessForm : PercentForm := ⟨'C', 'c', false, ['=', 'l', 't', '=']⟩

def greaterForm : PercentForm := ⟨'E', 'e', false, ['=', 'g', 't', '=']⟩

/-- A percent form in a name becomes a comparator. -/
theorem replacePercentForms_formed {name : List Char} (noEquals : '=' ∉ name) (formed : hasForm false name = true)
    (rest : List Char) : ∃ first c last word more, name = first ++ '%' :: '3' :: c :: last ∧
      (word = ['l', 't'] ∨ word = ['g', 't']) ∧
        replacePercentForms (name ++ '(' :: rest) = first ++ '=' :: word ++ '=' :: more := by
  obtain ⟨later, whole⟩ : ∃ later, replacePercentForms (name ++ '(' :: rest) =
      greaterForm.replaceFrom 0 false (lessForm.replaceFrom 0 false (name ++ '(' :: later)) := by
    simp only [replacePercentForms, percentForms, List.foldl_cons, List.foldl_nil]
    rw [replaceFrom_noEquals (by simp [percentForms]) rfl noEquals, replaceFrom_noEquals (by simp [percentForms]) rfl noEquals]
    exact ⟨_, rfl⟩
  rcases replaceFrom_front (rfl : lessForm.withEquals = false) (by decide : '(' ≠ '%' ∧ '(' ≠ '3' ∧ _) false name later with
    ⟨noLess, same⟩ | ⟨first, c, last, more, rfl, same⟩
  · rw [same] at whole
    rcases replaceFrom_front (rfl : greaterForm.withEquals = false) (by decide : '(' ≠ '%' ∧ '(' ≠ '3' ∧ _) false name
        (lessForm.replaceFrom 0 ('(' = '\\') later) with ⟨noGreater, _⟩ | ⟨first, c, last, more, rfl, same⟩
    · have either := occurs_of_hasForm (rfl : lessForm.withEquals = false) (rfl : greaterForm.withEquals = false)
        (by simp [lessForm, greaterForm, or_assoc]) formed
      exact absurd either (by simp [noLess, noGreater])
    · exact ⟨first, c, last, ['g', 't'], more, rfl, .inr rfl, by rw [whole, same]; simp [greaterForm]⟩
  · have split : first ++ lessForm.comparator ++ more = first ++ '=' :: 'l' :: 't' :: '=' :: more := by simp [lessForm]
    rw [same, split] at whole
    rcases replaceFrom_front (rfl : greaterForm.withEquals = false) (by decide : '=' ≠ '%' ∧ '=' ≠ '3' ∧ _) false first
        ('l' :: 't' :: '=' :: more) with ⟨_, same⟩ | ⟨start, d, last', more', rfl, same⟩
    · rw [same, replaceFrom_char (by decide), replaceFrom_char (by decide), replaceFrom_char (by decide)] at whole
      exact ⟨first, c, last, ['l', 't'], _, rfl, .inl rfl, by rw [whole]; simp; rfl⟩
    · exact ⟨start, d, last' ++ '%' :: '3' :: c :: last, ['g', 't'], more', by simp, .inr rfl, by
        rw [whole, same]
        simp [greaterForm]⟩

theorem tokensFrom_front {c stop : Char} {front rest : List Char} (noRun : isRunChar c = false)
    (calm : ∀ d ∈ c :: front, isComparator d = false ∧ d ≠ '(') (bang : stop = '=' → (c :: front).getLast? ≠ some '!') :
    tokensFrom 0 (c :: (front ++ stop :: rest)) = .other c :: tokensFrom 0 (front ++ stop :: rest) := by
  rw [List.forall_mem_cons] at calm
  refine tokensFrom_other noRun ?_ calm.1.2
  cases front with
  | nil =>
    refine comparator?_none calm.1.1 ?_
    rintro rfl rfl
    exact bang rfl rfl
  | cons next front =>
    refine comparator?_none calm.1.1 fun _ equals => ?_
    rw [equals] at calm
    exact absurd (calm.2 '=' List.mem_cons_self).1 (by decide)

/-- The text of tokens behind some characters starts with a part of these, and the others are at most
the operand in front of the tokens. -/
def Fronted (front : List Char) (line : List Token) (whole : List Char) : Prop :=
  ∃ before field tail, front = before ++ field ∧ whole = before ++ tail ∧
    ((field = [] ∧ text line = .ok tail) ∨ text (.operand field :: line) = .ok tail)

theorem Fronted.prepend (part : List Char) {front whole : List Char} {line : List Token} (fronted : Fronted front line whole) :
    Fronted (part ++ front) line (part ++ whole) := by
  obtain ⟨before, field, tail, rfl, rfl, last⟩ := fronted
  exact ⟨part ++ before, field, tail, (List.append_assoc ..).symm, (List.append_assoc ..).symm, last⟩

theorem getLast?_ne_append {part later : List Char} {c : Char} (last : (part ++ later).getLast? ≠ some c) :
    later.getLast? ≠ some c := by
  intro same
  rw [List.getLast?_append, same] at last
  exact last rfl

/-- In front of a character that ends a run, all but the last run is kept as it is. -/
theorem text_front {stop : Char} {rest : List Char} (ends : isRunChar stop = false) (front : List Char)
    (calm : ∀ c ∈ front, isComparator c = false ∧ c ≠ '(') (bang : stop = '=' → front.getLast? ≠ some '!')
    {whole : List Char} (done : text (tokensFrom 0 (front ++ stop :: rest)) = .ok whole) :
    Fronted front (tokensFrom 0 (stop :: rest)) whole := by
  -- The induction is on the length, for a run is taken at once.
  induction length : front.length using Nat.strong_induction_on generalizing front whole with
  | _ n ih =>
    cases front with
    | nil => exact ⟨[], [], whole, rfl, rfl, .inl ⟨rfl, done⟩⟩
    | cons c front =>
      cases run : isRunChar c with
      | true =>
        have split := List.takeWhile_append_dropWhile (p := isRunChar) (l := front)
        rw [List.cons_append, tokensFrom_run run, takeWhile_stop ends, dropWhile_stop ends] at done
        cases left : front.dropWhile isRunChar with
        | nil =>
          rw [left, List.append_nil] at split
          rw [left, split, List.nil_append] at done
          exact ⟨[], c :: front, whole, rfl, rfl, .inr done⟩
        | cons d later =>
          have noRun : isRunChar d = false := by
            have head := List.head?_dropWhile_not isRunChar front
            rw [left] at head
            simpa using head
          have within : c :: front = (c :: front.takeWhile isRunChar) ++ d :: later := by rw [List.cons_append, ← left, split]
          rw [within] at calm bang length ⊢
          rw [List.forall_mem_append] at calm
          have bangLater := fun equals => getLast?_ne_append (bang equals)
          have tokens := @tokensFrom_front d stop later rest noRun calm.2 bangLater
          rw [left, List.cons_append, text_operand _ (by simp [tokens])] at done
          obtain ⟨tail, others, rfl⟩ := Outcome.map_eq_ok_iff.mp done
          have shorter : (d :: later).length < n := by
            simp only [← length, List.length_append, List.length_cons]
            omega
          exact .prepend _ (ih _ shorter (d :: later) calm.2 bangLater others rfl)
      | false =>
        rw [List.cons_append, tokensFrom_front run calm bang, text_other] at done
        obtain ⟨tail, others, rfl⟩ := Outcome.map_eq_ok_iff.mp done
        have shorter : front.length < n := length ▸ Nat.lt_succ_self _
        have bangLater := fun equals => @getLast?_ne_append [c] front _ (bang equals)
        exact .prepend [c] (ih _ shorter front (List.forall_mem_cons.mp calm).2 bangLater others rfl)

/-! ### Names in front of a parenthesis -/

theorem list?_open {rest list : List Char} (found : list? ('(' :: rest) = some list) :
    ∃ inside more, list = '(' :: inside ++ [')'] ∧ rest = inside ++ ')' :: more ∧ ∀ c ∈ inside, isListChar c = true := by
  simp only [list?] at found
  split at found
  · rename_i whole
    obtain ⟨more, close⟩ := List.head?_eq_some_iff.mp whole.2
    cases found
    refine ⟨_, more, rfl, ?_, fun c member => List.mem_takeWhile_imp member⟩
    rw [← close, List.takeWhile_append_dropWhile]
  · cases found

theorem tokensFrom_open (rest : List Char) :
    tokensFrom 0 ('(' :: rest) = match list? ('(' :: rest) with
      | some list => .operand list :: tokensFrom (list.length - 1) rest
      | none => .other '(' :: tokensFrom 0 rest := by
  have noRun : isRunChar '(' = false := by decide
  have noComparator : comparator? ('(' :: rest) = none := by
    cases rest with
    | nil => rfl
    | cons next rest => exact comparator?_none (by decide) (by simp)
  rw [tokensFrom.eq_def]
  simp only [noRun, noComparator]
  rfl

theorem append_eq_ok {first second : Except Error (List Char)} {whole : List Char}
    (done : (do return (← first) ++ (← second)) = .ok whole) :
    ∃ head tail, first = .ok head ∧ second = .ok tail ∧ whole = head ++ tail := by
  obtain ⟨head, start, later⟩ := Outcome.bind_eq_ok_iff.mp done
  obtain ⟨tail, finish, same⟩ := Outcome.bind_eq_ok_iff.mp later
  cases same
  exact ⟨head, tail, start, finish, rfl⟩

theorem call_eq_ok {field symbol value whole : List Char} (done : call field symbol value = .ok whole) :
    ∃ op, operator? symbol = some op ∧ whole = op ++ '(' :: field ++ ',' :: value ++ [')'] := by
  unfold call at done
  split at done
  · rename_i op found
    cases done
    exact ⟨op, found, rfl⟩
  · cases done

/-- A comparator becomes a call of its operator. -/
theorem text_comparator {symbol : List Char} {line : List Token} {whole : List Char}
    (done : text (.comparator symbol :: line) = .ok whole ∨
      ∃ field, text (.operand field :: .comparator symbol :: line) = .ok whole) :
    ∃ op more, operator? symbol = some op ∧ whole = op ++ '(' :: more := by
  have called : ∀ {field value : List Char} {rest : List Token},
      (do return (← call field symbol value) ++ (← text rest)) = .ok whole →
      ∃ op more, operator? symbol = some op ∧ whole = op ++ '(' :: more := by
    intro field value rest joined
    obtain ⟨head, tail, made, _, rfl⟩ := append_eq_ok joined
    obtain ⟨op, found, rfl⟩ := call_eq_ok made
    exact ⟨op, field ++ ',' :: value ++ [')'] ++ tail, found, by simp⟩
  obtain _ | ⟨token, line⟩ := line
  · rcases done with done | ⟨field, done⟩ <;> exact called done
  · cases token with
    | operand value => rcases done with done | ⟨field, done⟩ <;> exact called done
    | _ =>
      rcases done with done | ⟨field, done⟩
      · rw [text] at done
        · exact called done
        all_goals simp
      · rw [text] at done
        · exact called done
        all_goals simp

/-- A list in parentheses is kept, behind the operator of a comparator if there is one. -/
theorem text_list {list : List Char} {line : List Token} (brings : ∀ token ∈ line, token.Brings fun _ => True)
    {whole : List Char} (done : text (.operand ('(' :: list) :: line) = .ok whole) :
    ∃ op more, whole = op ++ '(' :: more ∧ ∀ c ∈ op, Text.isWord c = true := by
  by_cases comparator : ∃ symbol, line.head? = some (.comparator symbol)
  · obtain ⟨symbol, first⟩ := comparator
    obtain ⟨later, rfl⟩ := List.head?_eq_some_iff.mp first
    obtain ⟨op, more, found, rfl⟩ := text_comparator (.inr ⟨_, done⟩)
    exact ⟨op, more, rfl, brings _ List.mem_cons_self op found⟩
  · rw [text_operand _ (not_exists.mp comparator)] at done
    obtain ⟨tail, _, rfl⟩ := Outcome.map_eq_ok_iff.mp done
    exact ⟨[], list ++ tail, rfl, by simp⟩

/-- A name in front of a parenthesis is kept. -/
theorem text_open {name rest : List Char} (calm : ∀ c ∈ name, isComparator c = false ∧ c ≠ '(') {whole : List Char}
    (done : text (tokensFrom 0 (name ++ '(' :: rest)) = .ok whole) :
    ∃ tail, text (tokensFrom 0 ('(' :: rest)) = .ok tail ∧ whole = name ++ tail := by
  obtain ⟨before, field, tail, rfl, rfl, ⟨rfl, found⟩ | found⟩ := text_front (by decide) name calm (by simp) done
  · exact ⟨tail, found, by simp⟩
  · have noComparator : ∀ symbol, (tokensFrom 0 ('(' :: rest)).head? ≠ some (.comparator symbol) := by
      intro symbol
      rw [tokensFrom_open]
      split <;> simp
    rw [text_operand _ noComparator] at found
    obtain ⟨later, others, rfl⟩ := Outcome.map_eq_ok_iff.mp found
    exact ⟨later, others, by simp⟩

/-- A name in front of a parenthesis may get an operator at its end. -/
theorem text_name {name rest : List Char} (calm : ∀ c ∈ name, isComparator c = false ∧ c ≠ '(') {whole : List Char}
    (done : text (tokensFrom 0 (name ++ '(' :: rest)) = .ok whole) :
    ∃ op more, whole = name ++ op ++ '(' :: more ∧ ∀ c ∈ op, Text.isWord c = true := by
  obtain ⟨tail, found, rfl⟩ := text_open calm done
  rw [tokensFrom_open] at found
  split at found
  · rename_i list listed
    obtain ⟨inside, more, rfl, _⟩ := list?_open listed
    obtain ⟨op, more, rfl, word⟩ := text_list (tokensFrom_brings _ (by simp)) found
    exact ⟨op, more, by simp, word⟩
  · rw [text_other] at found
    obtain ⟨more, _, rfl⟩ := Outcome.map_eq_ok_iff.mp found
    exact ⟨[], more, by simp, by simp⟩

theorem named_word {word : List Char} (each : ∀ c ∈ word, Text.isWord c = true) (rest : List Char) :
    named (word ++ '=' :: rest) = word ++ ['='] := by
  have stop : Text.isWord '=' = false := by decide
  have whole : word.takeWhile Text.isWord = word := List.takeWhile_eq_self_iff.mpr each
  have nothing : word.dropWhile Text.isWord = [] := List.dropWhile_eq_nil_iff.mpr each
  simp [named, takeWhile_stop stop, dropWhile_stop stop, whole, nothing]

/-- Where a comparator stands behind a name, the text starts with its operator behind a part of the
name. -/
theorem text_compared {first word rest : List Char} (calm : ∀ c ∈ first, isComparator c = false ∧ c ≠ '(')
    (fixed : word = ['l', 't'] ∨ word = ['g', 't']) {whole : List Char}
    (done : text (tokensFrom 0 (first ++ '=' :: word ++ '=' :: rest)) = .ok whole) :
    ∃ before field more, first = before ++ field ∧ whole = before ++ word ++ '(' :: more := by
  have each : ∀ c ∈ word, Text.isWord c = true := by rcases fixed with rfl | rfl <;> decide
  have operator : operator? ('=' :: (word ++ ['='])) = some word := by rcases fixed with rfl | rfl <;> rfl
  rw [List.append_assoc, List.cons_append] at done
  by_cases bang : first.getLast? = some '!'
  · obtain ⟨front, rfl⟩ := List.getLast?_eq_some_iff.mp bang
    have tokens : tokensFrom 0 ('!' :: '=' :: (word ++ '=' :: rest)) =
        .comparator ('!' :: '=' :: (word ++ ['='])) :: tokensFrom (word.length + 2) ('=' :: (word ++ '=' :: rest)) := by
      have noRun : isRunChar '!' = false := by decide
      rw [tokensFrom.eq_def]
      simp [noRun, comparator?, named_word each]
    have none : operator? ('!' :: '=' :: (word ++ ['='])) = none := by rcases fixed with rfl | rfl <;> rfl
    rw [List.forall_mem_append] at calm
    rw [List.append_assoc, List.singleton_append] at done
    obtain ⟨before, field, tail, _, _, last⟩ := text_front (by decide) front calm.1 (by simp) done
    rw [tokens] at last
    obtain ⟨op, more, found, _⟩ := text_comparator (last.imp (fun both => both.2) fun one => ⟨field, one⟩)
    rw [none] at found
    cases found
  · have tokens : tokensFrom 0 ('=' :: (word ++ '=' :: rest)) =
        .comparator ('=' :: (word ++ ['='])) :: tokensFrom (word.length + 1) (word ++ '=' :: rest) := by
      have noRun : isRunChar '=' = false := by decide
      rw [tokensFrom.eq_def]
      simp [noRun, comparator?, named_word each]
    obtain ⟨before, field, tail, rfl, rfl, last⟩ := text_front (by decide) first calm (fun _ => bang) done
    rw [tokens] at last
    obtain ⟨op, more, found, rfl⟩ := text_comparator (last.imp (fun both => both.2) fun one => ⟨field, one⟩)
    rw [operator, Option.some.injEq] at found
    exact ⟨before, field, more, rfl, by rw [found]; simp⟩

/-- Names with a parenthesis behind each. -/
def nest (names : List (List Char)) (rest : List Char) : List Char :=
  names.foldr (fun name text => name ++ '(' :: text) rest

theorem calm_word {word : List Char} (each : ∀ c ∈ word, Text.isWord c = true) :
    ∀ c ∈ word, isComparator c = false ∧ c ≠ '(' := fun c member =>
  ⟨isComparator_word (each c member), Text.ne_of_class (each c member) (by decide)⟩

/-- Nested words are kept, and the last of them may get an operator at its end. -/
theorem text_nest {names : List (List Char)} (filled : names ≠ []) (words : ∀ name ∈ names, IsWord name)
    {rest whole : List Char} (done : text (tokensFrom 0 (nest names rest)) = .ok whole) :
    ∃ changed more, whole = nest changed more ∧ changed.length = names.length ∧ ∀ name ∈ changed, IsWord name := by
  induction names generalizing whole with
  | nil => exact absurd rfl filled
  | cons name names ih =>
    rw [List.forall_mem_cons] at words
    cases names with
    | nil =>
      obtain ⟨op, more, rfl, word⟩ := text_name (calm_word words.1.word) done
      refine ⟨[name ++ op], more, by simp [nest], rfl, ?_⟩
      simpa using ⟨by simp [words.1.some], List.forall_mem_append.mpr ⟨words.1.word, word⟩⟩
    | cons next names =>
      have noList : list? ('(' :: nest (next :: names) rest) = none := by
        have listed : ∀ c ∈ next, isListChar c = true := fun c member => by
          simp [isListChar, isOperandChar, (words.2 next List.mem_cons_self).word c member]
        have stop : isListChar '(' = false := by decide
        have drop : (nest (next :: names) rest).dropWhile isListChar = '(' :: nest names rest := by
          rw [nest, List.foldr_cons, List.dropWhile_append_of_pos listed, List.dropWhile_cons_of_neg (by simp [stop])]
          rfl
        simp [list?, drop]
      obtain ⟨tail, found, rfl⟩ := @text_open name (nest (next :: names) rest) (calm_word words.1.word) _ done
      rw [tokensFrom_open, noList] at found
      simp only [text_other] at found
      obtain ⟨later, others, rfl⟩ := Outcome.map_eq_ok_iff.mp found
      obtain ⟨changed, more, rfl, length, each⟩ := ih (by simp) words.2 others
      exact ⟨name :: changed, more, rfl, by simp [length], List.forall_mem_cons.mpr ⟨words.1, each⟩⟩

theorem hasForm_word {word : List Char} (each : ∀ c ∈ word, Text.isWord c = true) : hasForm false word = false :=
  (Calm.ofChars fun c member => ⟨isComparator_word (each c member), Text.ne_of_class (each c member) (by decide)⟩).hasForm

theorem replacePercentForms_nest {names : List (List Char)} (words : ∀ name ∈ names, IsWord name) (rest : List Char) :
    replacePercentForms (nest names rest) = nest names (replacePercentForms rest) := by
  induction names with
  | nil => rfl
  | cons name names ih =>
    rw [List.forall_mem_cons] at words
    rw [nest, List.foldr_cons, replacePercentForms_open (hasForm_word words.1.word)]
    exact congrArg (name ++ '(' :: ·) (ih words.2)

/-! ### Expanded texts -/

section
variable {name rest whole : List Char}

/-- The expansion of a text that starts with a name and a parenthesis starts with that name, and maybe
an operator, and a parenthesis. -/
theorem expand_name (calm : ∀ c ∈ name, isComparator c = false ∧ c ≠ '(') (noForm : hasForm false name = false)
    (done : expand (name ++ '(' :: rest) = .ok whole) :
    ∃ op more, whole = name ++ op ++ '(' :: more ∧ ∀ c ∈ op, Text.isWord c = true := by
  rw [expand, replacePercentForms_open noForm] at done
  exact text_name calm done

/-- If a percent form stands in the name, the expansion starts with a shorter one. -/
theorem expand_formed (calm : ∀ c ∈ name, isComparator c = false ∧ c ≠ '(') (formed : hasForm false name = true)
    (done : expand (name ++ '(' :: rest) = .ok whole) :
    ∃ before word more, whole = before ++ word ++ '(' :: more ∧ (∀ c ∈ before, c ∈ name) ∧ IsWord word ∧
      before.length + word.length < name.length := by
  have noEquals : '=' ∉ name := fun member => absurd (calm _ member).1 (by decide)
  obtain ⟨first, c, last, word, more, split, fixed, replaced⟩ := replacePercentForms_formed noEquals formed rest
  rw [expand, replaced] at done
  have within : ∀ d ∈ first, d ∈ name := fun d member => by simp [split, member]
  obtain ⟨before, field, more, rfl, rfl⟩ := text_compared (fun d member => calm d (within d member)) fixed done
  refine ⟨before, word, more, rfl, fun d member => within d (List.mem_append_left _ member), ?_, ?_⟩
  · rcases fixed with rfl | rfl <;> decide
  · have length : word.length = 2 := by rcases fixed with rfl | rfl <;> rfl
    simp [split, length]
    omega

end

/-- The characters of an expanded text are those of the text, of operators and of calls. -/
theorem expand_mem {source expanded : List Char} (done : expand source = .ok expanded) :
    ∀ c ∈ expanded, c ∈ source ∨ Text.isWord c = true ∨ c ∈ ['(', ',', ')'] := by
  have letters : ∀ c ∈ ['=', 'l', 'e', 'g', 't'], isComparator c = false → Text.isWord c = true := by decide
  refine text_brings (fun c word => .inr (.inl word)) (by simp) (tokensFrom_brings 0 fun c member plain => ?_) done
  rcases replacePercentForms_mem c member with old | mark
  · exact .inl old
  · exact .inr (.inl (letters c mark plain))

/-- The expansion of a text that starts with nested words starts with as many nested words. -/
theorem expand_nest {names : List (List Char)} (filled : names ≠ []) (words : ∀ name ∈ names, IsWord name)
    {rest whole : List Char} (done : expand (nest names rest) = .ok whole) :
    ∃ changed more, whole = nest changed more ∧ changed.length = names.length ∧ ∀ name ∈ changed, IsWord name := by
  rw [expand, replacePercentForms_nest words] at done
  exact text_nest filled words done

end ResourceQuery.Shorthand
