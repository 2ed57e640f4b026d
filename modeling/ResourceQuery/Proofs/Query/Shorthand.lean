import Mathlib.Data.List.TakeWhile
import ResourceQuery.Proofs.Outcome
import ResourceQuery.Query.Shorthand

/-!
Comparisons in shorthand, before and after. A text without comparators and without percent forms
is left as it is (`expand_eq_self`), and no text keeps a comparator (`expand_settled`). The tokens
of a text are its parts (`tokensFrom_text`), and a comparator token is a whole symbol.
-/
namespace ResourceQuery.Shorthand

/-- The characters of comparators. -/
def isComparator (c : Char) : Bool := c = '=' || c = '<' || c = '>'

/-- A text without the characters of comparators. -/
def Settled (text : List Char) : Prop := ∀ c ∈ text, isComparator c = false

instance : DecidablePred Settled := fun text => inferInstanceAs (Decidable (∀ c ∈ text, isComparator c = false))

/-- Whether the escape of `<` or `>` starts a text. -/
def startsForm : List Char → Bool
  | '%' :: '3' :: c :: _ => c = 'C' || c = 'c' || c = 'E' || c = 'e'
  | _ => false

/-- Whether a percent form stands in a text anywhere but directly behind a backslash; `escaped`
says whether a backslash stands before the text. -/
def hasForm : (escaped : Bool) → List Char → Bool
  | _, [] => false
  | escaped, c :: rest => (!escaped && startsForm (c :: rest)) || hasForm (c = '\\') rest

theorem startsForm_iff {text : List Char} : startsForm text = true ↔
    ∃ letter after, text = '%' :: '3' :: letter :: after ∧ letter ∈ ['C', 'c', 'E', 'e'] := by
  unfold startsForm
  split
  · simp [or_assoc]
  · rename_i other
    simp only [Bool.false_eq_true, false_iff]
    rintro ⟨letter, after, rfl, _⟩
    exact other letter after rfl

theorem startsForm_of_ne {c : Char} (rest : List Char) (noPercent : c ≠ '%') : startsForm (c :: rest) = false := by
  rw [Bool.eq_false_iff]
  intro starts
  obtain ⟨_, _, same, _⟩ := startsForm_iff.mp starts
  exact noPercent (List.cons.inj same).1

/-- Three characters decide whether a percent form starts a text. -/
theorem startsForm_escape (high low : Char) (rest : List Char) :
    startsForm ('%' :: high :: low :: rest) = startsForm ['%', high, low] := by
  rw [Bool.eq_iff_iff, startsForm_iff, startsForm_iff]
  simp

/-- No percent form goes on into a character that is inside none. -/
theorem startsForm_cons {stop : Char} (other : stop ∉ ['3', 'C', 'c', 'E', 'e']) (c : Char) (text rest : List Char) :
    startsForm (c :: text ++ stop :: rest) = startsForm (c :: text) := by
  simp only [List.mem_cons, List.not_mem_nil, or_false, not_or] at other
  by_cases percent : c = '%'
  · subst percent
    match text with
    | [] =>
      cases rest with
      | nil => simp [startsForm]
      | cons next rest =>
        rw [List.cons_append, List.nil_append, startsForm_escape]
        simp [startsForm, other]
    | [high] =>
      rw [List.cons_append, List.cons_append, List.nil_append, startsForm_escape]
      by_cases three : high = '3'
      · subst three
        simp [startsForm, other]
      · simp [startsForm, three]
    | high :: low :: tail =>
      rw [List.cons_append, List.cons_append, List.cons_append, startsForm_escape, ← startsForm_escape high low tail]
  · rw [List.cons_append, startsForm_of_ne _ percent, startsForm_of_ne _ percent]

/-- The characters of percent forms, and the backslash that keeps them. -/
def formMarks : List Char := ['%', '3', 'C', 'c', 'E', 'e', '\\']

theorem startsForm_stop {stop : Char} (other : stop ∉ formMarks) (text rest : List Char) :
    startsForm (text ++ stop :: rest) = startsForm text := by
  cases text with
  | nil =>
    have noPercent : stop ≠ '%' := by
      rintro rfl
      exact absurd other (by decide)
    rw [List.nil_append, startsForm_of_ne _ noPercent]
    rfl
  | cons c text =>
    have inner : ∀ sign ∈ ['3', 'C', 'c', 'E', 'e'], sign ∈ formMarks := by decide
    exact startsForm_cons (fun member => other (inner stop member)) c text rest

theorem hasForm_of_false {text : List Char} (noForm : hasForm false text = false) (escaped : Bool) :
    hasForm escaped text = false := by
  cases text with
  | nil => rfl
  | cons c rest =>
    simp only [hasForm, Bool.not_false, Bool.true_and, Bool.or_eq_false_iff] at noForm
    simp [hasForm, noForm]

/-- The percent forms around such a character stand before it or behind it. -/
theorem hasForm_stop {stop : Char} (other : stop ∉ formMarks) (escaped : Bool) (text rest : List Char) :
    hasForm escaped (text ++ stop :: rest) = (hasForm escaped text || hasForm false rest) := by
  induction text generalizing escaped with
  | nil =>
    have noEscape : stop ≠ '\\' := by
      rintro rfl
      exact absurd other (by decide)
    have start : startsForm (stop :: rest) = false := startsForm_stop other [] rest
    have nothing : hasForm escaped [] = false := rfl
    rw [List.nil_append, nothing, hasForm, start, decide_eq_false noEscape, Bool.and_false]
  | cons c text ih =>
    have start := startsForm_stop other (c :: text) rest
    rw [List.cons_append] at start
    rw [List.cons_append, hasForm, hasForm, ih, start, Bool.or_assoc]

/-- A text that the expansion of comparisons leaves as it is, together with what follows if that is
left as it is. -/
structure Calm (text : List Char) : Prop where
  settled : Settled text
  noForm : ∀ (rest : List Char) (escaped : Bool), hasForm false rest = false → hasForm escaped (text ++ rest) = false

theorem Settled.append {first second : List Char} (left : Settled first) (right : Settled second) :
    Settled (first ++ second) := fun c member =>
  (List.mem_append.mp member).elim (left c) (right c)

theorem Calm.append {first second : List Char} (left : Calm first) (right : Calm second) : Calm (first ++ second) where
  settled := left.settled.append right.settled
  noForm rest escaped noForm := by
    rw [List.append_assoc]
    exact left.noForm _ escaped (right.noForm rest false noForm)

theorem hasForm_append {text : List Char} (each : ∀ c ∈ text, c ≠ '%') {rest : List Char} (noForm : hasForm false rest = false)
    (escaped : Bool) : hasForm escaped (text ++ rest) = false := by
  induction text generalizing escaped with
  | nil => exact hasForm_of_false noForm escaped
  | cons c text ih =>
    rw [List.forall_mem_cons] at each
    simp [hasForm, startsForm_of_ne, each.1, ih each.2]

theorem Calm.ofChars {text : List Char} (each : ∀ c ∈ text, isComparator c = false ∧ c ≠ '%') : Calm text where
  settled c member := (each c member).1
  noForm _ escaped noForm := hasForm_append (fun c member => (each c member).2) noForm escaped

theorem Calm.hasForm {text : List Char} (calm : Calm text) : hasForm false text = false := by
  simpa using calm.noForm [] false rfl

/-- Where no percent form is found, each one that stands there stands directly behind a backslash. -/
theorem behind_of_hasForm {before form : List Char} (starts : startsForm form = true) {escaped : Bool}
    (noForm : hasForm escaped (before ++ form) = false) :
    before = [] ∧ escaped = true ∨ before.getLast? = some '\\' := by
  induction before generalizing escaped with
  | nil =>
    cases form with
    | nil => cases starts
    | cons c rest =>
      have here := (Bool.or_eq_false_iff.mp noForm).1
      rw [starts, Bool.and_true, Bool.not_eq_false'] at here
      exact .inl ⟨rfl, here⟩
  | cons c before ih =>
    rcases ih (Bool.or_eq_false_iff.mp noForm).2 with ⟨rfl, escape⟩ | last
    · rw [decide_eq_true_eq] at escape
      exact .inr (by rw [escape]; rfl)
    · exact .inr (by rw [List.getLast?_cons, last]; rfl)

/-- A text in front of which `front` stands has no percent form if each one stands directly behind a backslash. -/
theorem hasForm_of_behind {front text : List Char} (behind : ∀ before letter after,
      front ++ text = before ++ '%' :: '3' :: letter :: after → letter ∈ ['C', 'c', 'E', 'e'] → before.getLast? = some '\\') :
    hasForm (front.getLast? = some '\\') text = false := by
  induction text generalizing front with
  | nil => rfl
  | cons c rest ih =>
    have later := @ih (front ++ [c]) (by simpa using behind)
    rw [hasForm, Bool.or_eq_false_iff]
    refine ⟨?_, by simpa using later⟩
    cases starts : startsForm (c :: rest) with
    | false => exact Bool.and_false _
    | true =>
      obtain ⟨letter, after, same, form⟩ := startsForm_iff.mp starts
      simp [behind front letter after (by rw [same]) form]

/-- A text has no percent form exactly if each one that stands there stands directly behind a backslash. -/
theorem hasForm_eq_false_iff {text : List Char} : hasForm false text = false ↔
    ∀ before letter after, text = before ++ '%' :: '3' :: letter :: after → letter ∈ ['C', 'c', 'E', 'e'] →
      before.getLast? = some '\\' := by
  constructor
  · rintro noForm before letter after rfl form
    rcases behind_of_hasForm (startsForm_iff.mpr ⟨letter, after, rfl, form⟩) noForm with ⟨-, none⟩ | last
    · cases none
    · exact last
  · exact @hasForm_of_behind [] text

theorem length?_eq_none {form : PercentForm} (known : form ∈ percentForms) {text : List Char}
    (noForm : startsForm text = false) : form.length? text = none := by
  unfold PercentForm.length?
  split
  · rename_i c rest
    have other : ¬(c = form.upper ∨ c = form.lower) := by
      simp only [startsForm, Bool.or_eq_false_iff, decide_eq_false_iff_not] at noForm
      simp only [percentForms, List.mem_cons, List.not_mem_nil, or_false] at known
      rcases known with rfl | rfl | rfl | rfl <;> simp [noForm]
    rw [if_neg other]
  · rfl

theorem replaceFrom_eq_self {form : PercentForm} (known : form ∈ percentForms) {escaped : Bool} {text : List Char}
    (noForm : hasForm escaped text = false) : form.replaceFrom 0 escaped text = text := by
  induction text generalizing escaped with
  | nil => rfl
  | cons c rest ih =>
    obtain ⟨here, later⟩ := Bool.or_eq_false_iff.mp noForm
    have none : (if escaped then none else form.length? (c :: rest)) = none := by
      cases escaped with
      | true => rfl
      | false => exact length?_eq_none known (by simpa using here)
    rw [PercentForm.replaceFrom, none]
    exact congrArg (c :: ·) (ih later)

theorem replacePercentForms_eq_self {text : List Char} (noForm : hasForm false text = false) :
    replacePercentForms text = text := by
  have each : ∀ forms : List PercentForm, (∀ form ∈ forms, form ∈ percentForms) →
      forms.foldl (fun text form => form.replaceFrom 0 false text) text = text := by
    intro forms known
    induction forms with
    | nil => rfl
    | cons form forms ih =>
      rw [List.foldl_cons, replaceFrom_eq_self (known form List.mem_cons_self) noForm]
      exact ih fun other member => known other (List.mem_cons_of_mem _ member)
  exact each percentForms fun _ member => member

/-! ### Tokens -/

def Token.text : Token → List Char
  | .operand text => text
  | .comparator symbol => symbol
  | .other c => [c]

theorem isComparator_operand {c : Char} (operand : isOperandChar c = true) : isComparator c = false := by
  rw [Bool.eq_false_iff]
  intro comparator
  simp only [isComparator, Bool.or_eq_true, decide_eq_true_eq] at comparator
  rcases comparator with (rfl | rfl) | rfl <;> exact absurd operand (by decide)

theorem isComparator_word {c : Char} (word : Text.isWord c = true) : isComparator c = false :=
  isComparator_operand (by simp [isOperandChar, word])

theorem isComparator_run {c : Char} (run : isRunChar c = true) : isComparator c = false := by
  rcases Bool.or_eq_true _ _ ▸ run with operand | blank
  · exact isComparator_operand operand
  · obtain rfl : c = ' ' := by simpa using blank
    decide

theorem isComparator_list {c : Char} (list : isListChar c = true) : isComparator c = false := by
  rcases Bool.or_eq_true _ _ ▸ list with operand | comma
  · exact isComparator_operand operand
  · obtain rfl : c = ',' := by simpa using comma
    decide

theorem list?_eq_some {text list : List Char} (found : list? text = some list) :
    ∃ rest, list ≠ [] ∧ text = list ++ rest ∧ Settled list := by
  unfold list? at found
  split at found
  · rename_i rest
    simp only at found
    split at found
    · rename_i whole
      obtain ⟨after, close⟩ := List.head?_eq_some_iff.mp whole.2
      cases found
      refine ⟨after, by simp, ?_, ?_⟩
      · have split := List.takeWhile_append_dropWhile (p := isListChar) (l := rest)
        rw [close] at split
        simpa using split.symm
      · intro c member
        rw [List.cons_append, List.mem_cons, List.mem_append, List.mem_singleton] at member
        rcases member with rfl | inside | rfl
        · decide
        · exact isComparator_list (List.mem_takeWhile_imp inside)
        · decide
    · cases found
  · cases found

/-- What follows an `=` in a comparator: nothing, or a word and another `=`. -/
theorem named_eq (text : List Char) :
    named text = [] ∨
      ∃ word rest, named text = word ++ ['='] ∧ text = word ++ '=' :: rest ∧ ∀ c ∈ word, Text.isWord c = true := by
  unfold named
  split
  · rename_i closed
    obtain ⟨rest, close⟩ := List.head?_eq_some_iff.mp closed
    refine .inr ⟨text.takeWhile Text.isWord, rest, rfl, ?_, fun c member => List.mem_takeWhile_imp member⟩
    rw [← close, List.takeWhile_append_dropWhile]
  · exact .inl rfl

theorem named_prefix (text : List Char) : ∃ rest, text = named text ++ rest := by
  rcases named_eq text with none | ⟨word, rest, whole, split, _⟩
  · exact ⟨text, by rw [none]; rfl⟩
  · exact ⟨rest, by rw [whole, split]; simp⟩

/-- A comparator stands at the start of the text and is one of the symbols, with a name behind its
`=` or without one. -/
theorem comparator?_eq_some {text symbol : List Char} (found : comparator? text = some symbol) :
    ∃ before after rest, text = symbol ++ rest ∧
      ((before ∈ [[], ['<'], ['>'], ['!']] ∧ symbol = before ++ '=' :: named after) ∨
        symbol = ['<'] ∨ symbol = ['>']) := by
  unfold comparator? at found
  split at found
  · rename_i rest
    cases found
    obtain ⟨more, split⟩ := named_prefix rest
    exact ⟨[], rest, more, by rw [List.cons_append, ← split], .inl ⟨by simp, rfl⟩⟩
  · rename_i c rest _
    split at found
    · rename_i sign
      cases found
      obtain ⟨more, split⟩ := named_prefix rest
      refine ⟨[c], rest, more, by rw [List.cons_append, List.cons_append, ← split], .inl ⟨?_, rfl⟩⟩
      rcases sign with rfl | rfl | rfl <;> simp
    · cases found
  · rename_i c rest _ _
    split at found
    · rename_i sign
      cases found
      exact ⟨[], [], rest, rfl, .inr (by rcases sign with rfl | rfl <;> simp)⟩
    · cases found
  · cases found

theorem comparator?_eq_none {c : Char} {rest : List Char} (none : comparator? (c :: rest) = none) :
    isComparator c = false := by
  rw [Bool.eq_false_iff]
  intro comparator
  simp only [isComparator, Bool.or_eq_true, decide_eq_true_eq] at comparator
  rcases comparator with (rfl | rfl) | rfl
  · simp [comparator?] at none
  · cases rest with
    | nil => simp [comparator?] at none
    | cons next rest => by_cases equals : next = '=' <;> simp [comparator?, equals] at none
  · cases rest with
    | nil => simp [comparator?] at none
    | cons next rest => by_cases equals : next = '=' <;> simp [comparator?, equals] at none

theorem comparator?_settled {text : List Char} (settled : Settled text) : comparator? text = none := by
  cases found : comparator? text with
  | none => rfl
  | some symbol =>
    obtain ⟨before, after, rest, rfl, ⟨_, rfl⟩ | rfl | rfl⟩ := comparator?_eq_some found
    · exact absurd (settled '=' (by simp)) (by decide)
    · exact absurd (settled '<' (by simp)) (by decide)
    · exact absurd (settled '>' (by simp)) (by decide)

/-- A part at the start of a text, and what is left when its other characters are dropped. -/
theorem append_drop {c : Char} {rest part tail : List Char} (split : c :: rest = part ++ tail) (some : part ≠ []) :
    part ++ rest.drop (part.length - 1) = c :: rest := by
  cases part with
  | nil => exact absurd rfl some
  | cons first part =>
    obtain ⟨rfl, rfl⟩ := List.cons.inj split
    simp

/-- The tokens of a text are its parts. -/
theorem tokensFrom_text (skip : Nat) (text : List Char) :
    (tokensFrom skip text).flatMap Token.text = text.drop skip := by
  fun_induction tokensFrom skip text with
  | case1 => simp
  | case2 skip c rest ih => simpa using ih
  | case3 c rest opens run ih =>
    rw [List.flatMap_cons, ih]
    exact congrArg (c :: ·) (List.prefix_iff_eq_append.mp (List.takeWhile_prefix isRunChar))
  | case4 c rest noRun symbol found ih =>
    obtain ⟨before, after, tail, split, shape⟩ := comparator?_eq_some found
    have some : symbol ≠ [] := by rcases shape with ⟨_, rfl⟩ | rfl | rfl <;> simp
    rw [List.flatMap_cons, ih]
    exact append_drop split some
  | case5 c rest noRun noComparator list found ih =>
    obtain ⟨tail, some, split, _⟩ := list?_eq_some found
    rw [List.flatMap_cons, ih]
    exact append_drop split some
  | case6 c rest noRun noComparator noList ih =>
    rw [List.flatMap_cons, ih]
    rfl

theorem Settled.drop {text : List Char} (settled : Settled text) (count : Nat) : Settled (text.drop count) :=
  fun c member => settled c (List.mem_of_mem_drop member)

/-- A text without comparators has no comparator tokens. -/
theorem comparator_notMem {text : List Char} (settled : Settled text) (skip : Nat) (symbol : List Char) :
    Token.comparator symbol ∉ tokensFrom skip text := by
  fun_induction tokensFrom skip text with
  | case1 => simp
  | case2 skip c rest ih => exact ih (settled.drop 1)
  | case3 c rest opens run ih => simpa using ih (settled.drop 1)
  | case4 c rest noRun other found ih =>
    rw [comparator?_settled settled] at found
    cases found
  | case5 c rest noRun noComparator list found ih => simpa using ih (settled.drop 1)
  | case6 c rest noRun noComparator noList ih => simpa using ih (settled.drop 1)

/-- Tokens without comparators are written as they are. -/
theorem text_eq_flatMap {line : List Token} (none : ∀ symbol, Token.comparator symbol ∉ line) :
    text line = .ok (line.flatMap Token.text) := by
  induction line with
  | nil => rfl
  | cons token rest ih =>
    have later := ih fun symbol member => none symbol (List.mem_cons_of_mem _ member)
    cases token with
    | comparator symbol => exact absurd List.mem_cons_self (none symbol)
    | other c => simp [text, later, Token.text]
    | operand field =>
      cases rest with
      | nil => simp [text, Token.text]
      | cons next rest =>
        cases next with
        | comparator symbol => exact absurd (List.mem_cons_of_mem _ List.mem_cons_self) (none symbol)
        | _ =>
          rw [text, later]
          · rfl
          all_goals simp

/-- A text without comparators and without percent forms is left as it is. -/
theorem expand_eq_self {source : List Char} (settled : Settled source) (noForm : hasForm false source = false) :
    expand source = .ok source := by
  rw [expand, replacePercentForms_eq_self noForm, tokens, text_eq_flatMap (comparator_notMem settled 0),
    tokensFrom_text]
  rfl

/-! ### Calls -/

/-- The operator of a comparator is a word: a fixed one or the name between two `=`. -/
theorem operator?_word {symbol text op : List Char} (found : comparator? text = some symbol)
    (known : operator? symbol = some op) : ∀ c ∈ op, Text.isWord c = true := by
  have fixed : ∀ op ∈ [['n', 'e'], ['l', 't'], ['l', 'e'], ['e', 'q'], ['g', 't'], ['g', 'e']],
      ∀ c ∈ op, Text.isWord c = true := by decide
  obtain ⟨before, after, rest, _, ⟨mark, rfl⟩ | rfl | rfl⟩ := comparator?_eq_some found
  · simp only [List.mem_cons, List.not_mem_nil, or_false] at mark
    rcases named_eq after with none | ⟨word, rest, whole, _, each⟩
    · rw [none] at known
      rcases mark with rfl | rfl | rfl | rfl <;> cases known <;> exact fixed _ (by simp)
    · rw [whole] at known
      cases word with
      | nil =>
        rcases mark with rfl | rfl | rfl | rfl
        · cases known
          exact fixed _ (by simp)
        all_goals cases known
      | cons c word =>
        rcases mark with rfl | rfl | rfl | rfl
        · obtain rfl : (c :: word ++ ['=']).dropLast = op := by simpa [operator?] using known
          rwa [List.dropLast_concat]
        all_goals simp [operator?] at known
  all_goals
    cases known
    exact fixed _ (by simp)

/-- What a token brings into the calls: its characters, and for a comparator those of an operator. -/
def Token.Brings (allowed : Char → Prop) : Token → Prop
  | .operand text => ∀ c ∈ text, allowed c
  | .comparator symbol => ∀ op, operator? symbol = some op → ∀ c ∈ op, Text.isWord c = true
  | .other c => allowed c

/-- The tokens of a text bring its characters, without those of comparators, and operators. -/
theorem tokensFrom_brings {allowed : Char → Prop} (skip : Nat) {text : List Char}
    (each : ∀ c ∈ text, isComparator c = false → allowed c) : ∀ token ∈ tokensFrom skip text, token.Brings allowed := by
  fun_induction tokensFrom skip text with
  | case1 => simp
  | case2 skip c rest ih => exact ih fun d member => each d (List.mem_cons_of_mem _ member)
  | case3 c rest opens run ih =>
    rw [List.forall_mem_cons] at each
    refine List.forall_mem_cons.mpr ⟨List.forall_mem_cons.mpr ⟨each.1 (isComparator_run opens), ?_⟩, ih each.2⟩
    exact fun d member => each.2 d ((List.takeWhile_prefix isRunChar).subset member)
      (isComparator_run (List.mem_takeWhile_imp member))
  | case4 c rest noRun symbol found ih =>
    exact List.forall_mem_cons.mpr ⟨fun op known => operator?_word found known,
      ih fun d member => each d (List.mem_cons_of_mem _ member)⟩
  | case5 c rest noRun noComparator list found ih =>
    obtain ⟨tail, _, split, settled⟩ := list?_eq_some found
    refine List.forall_mem_cons.mpr ⟨fun d member => each d ?_ (settled d member),
      ih fun d member => each d (List.mem_cons_of_mem _ member)⟩
    rw [split]
    exact List.mem_append_left _ member
  | case6 c rest noRun noComparator noList ih =>
    rw [List.forall_mem_cons] at each
    exact List.forall_mem_cons.mpr ⟨each.1 (comparator?_eq_none noComparator), ih each.2⟩

section
variable {allowed : Char → Prop} (word : ∀ c, Text.isWord c = true → allowed c)
  (marks : allowed '(' ∧ allowed ',' ∧ allowed ')')
include word marks

theorem call_brings {field symbol value whole : List Char} (left : ∀ c ∈ field, allowed c)
    (op : Token.Brings allowed (.comparator symbol)) (right : ∀ c ∈ value, allowed c)
    (done : call field symbol value = .ok whole) : ∀ c ∈ whole, allowed c := by
  unfold call at done
  split at done
  · rename_i name found
    cases done
    simp only [List.cons_append, List.append_assoc, List.forall_mem_append, List.forall_mem_cons]
    exact ⟨fun c member => word c (op name found c member), marks.1, left, marks.2.1, right, marks.2.2, by simp⟩
  · cases done

omit word marks in
theorem append_brings {first second : Except Error (List Char)} {whole : List Char}
    (left : ∀ text, first = .ok text → ∀ c ∈ text, allowed c) (right : ∀ text, second = .ok text → ∀ c ∈ text, allowed c)
    (done : (do return (← first) ++ (← second)) = .ok whole) : ∀ c ∈ whole, allowed c := by
  obtain ⟨head, start, later⟩ := Outcome.bind_eq_ok_iff.mp done
  obtain ⟨tail, finish, same⟩ := Outcome.bind_eq_ok_iff.mp later
  cases same
  exact List.forall_mem_append.mpr ⟨left head start, right tail finish⟩

theorem text_brings {line : List Token} {whole : List Char} (brings : ∀ token ∈ line, token.Brings allowed)
    (done : text line = .ok whole) : ∀ c ∈ whole, allowed c := by
  have nothing : ∀ c ∈ ([] : List Char), allowed c := by simp
  fun_induction text line generalizing whole with
  | case1 =>
    cases done
    exact nothing
  | case2 field symbol value rest ih =>
    simp only [List.forall_mem_cons] at brings
    obtain ⟨left, op, right, others⟩ := brings
    exact append_brings (fun _ => call_brings word marks left op right) (fun _ => ih others) done
  | case3 field symbol rest _ ih =>
    simp only [List.forall_mem_cons] at brings
    obtain ⟨left, op, others⟩ := brings
    exact append_brings (fun _ => call_brings word marks left op nothing) (fun _ => ih others) done
  | case4 symbol value rest ih =>
    simp only [List.forall_mem_cons] at brings
    obtain ⟨op, right, others⟩ := brings
    exact append_brings (fun _ => call_brings word marks nothing op right) (fun _ => ih others) done
  | case5 symbol rest _ ih =>
    simp only [List.forall_mem_cons] at brings
    obtain ⟨op, others⟩ := brings
    exact append_brings (fun _ => call_brings word marks nothing op nothing) (fun _ => ih others) done
  | case6 operand rest _ _ ih =>
    simp only [List.forall_mem_cons] at brings
    obtain ⟨start, others⟩ := brings
    obtain ⟨tail, finish, same⟩ := Outcome.bind_eq_ok_iff.mp done
    cases same
    exact List.forall_mem_append.mpr ⟨start, ih others finish⟩
  | case7 c rest ih =>
    simp only [List.forall_mem_cons] at brings
    obtain ⟨start, others⟩ := brings
    obtain ⟨tail, finish, same⟩ := Outcome.bind_eq_ok_iff.mp done
    cases same
    exact List.forall_mem_cons.mpr ⟨start, ih others finish⟩

end

/-- No text keeps a comparator. -/
theorem expand_settled {source expanded : List Char} (done : expand source = .ok expanded) : Settled expanded :=
  text_brings (fun _ => isComparator_word) (by decide) (tokensFrom_brings 0 fun _ _ settled => settled) done

end ResourceQuery.Shorthand
