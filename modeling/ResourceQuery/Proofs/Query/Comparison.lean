import ResourceQuery.Proofs.Query.Expansion
import ResourceQuery.Proofs.Query.Printed

/-!
Comparisons and calls. A comparison is a field, a sign and a value; comparisons with separators between
them are expanded to the calls that they stand for, with the same separators (`expand_chain`). First the
percent signs are replaced (`replacePercentForms_chain`), then each comparison is read as three tokens
(`tokensFrom_comparison`).
-/
namespace ResourceQuery.Shorthand

/-- A field or value of a comparison: a run of characters, which may be empty, or a list in parentheses;
and no percent form of `<` or `>` in it. -/
structure IsOperand (text : List Char) : Prop where
  shape : (∀ c ∈ text, isRunChar c = true) ∨
    ∃ inside, inside ≠ [] ∧ (∀ c ∈ inside, isListChar c = true) ∧ text = '(' :: inside ++ [')']
  noEscape : ∀ c ∈ ['C', 'c', 'E', 'e'], ¬ ['%', '3', c] <:+: text

/-- The symbols of comparisons and the operators they stand for. -/
def symbols : List (List Char × List Char) :=
  [(['='], ['e', 'q']), (['=', '='], ['e', 'q']), (['!', '='], ['n', 'e']), (['<'], ['l', 't']),
    (['<', '='], ['l', 'e']), (['>'], ['g', 't']), (['>', '='], ['g', 'e'])]

/-- The percent forms of symbols and the operators they stand for. -/
def percentSigns : List (List Char × List Char) :=
  [(['%', '3', 'C'], ['l', 't']), (['%', '3', 'c'], ['l', 't']), (['%', '3', 'C', '='], ['l', 'e']),
    (['%', '3', 'c', '='], ['l', 'e']), (['%', '3', 'E'], ['g', 't']), (['%', '3', 'e'], ['g', 't']),
    (['%', '3', 'E', '='], ['g', 'e']), (['%', '3', 'e', '='], ['g', 'e'])]

/-- A sign without percent forms, and its operator: one of the symbols, or a name between equals signs. -/
inductive IsSymbol : List Char → List Char → Prop
  | fixed {symbol operator : List Char} (known : (symbol, operator) ∈ symbols) : IsSymbol symbol operator
  | named {name : List Char} (word : IsWord name) : IsSymbol ('=' :: name ++ ['=']) name

/-- A sign and its operator. -/
inductive IsSign : List Char → List Char → Prop
  | symbol {sign operator : List Char} (plain : IsSymbol sign operator) : IsSign sign operator
  | percent {sign operator : List Char} (known : (sign, operator) ∈ percentSigns) : IsSign sign operator

/-- A comparison, with the operator that its sign stands for. -/
structure Comparison where
  field : List Char
  sign : List Char
  operator : List Char
  value : List Char

namespace Comparison

/-- The field and the value are operands, and the sign stands for the operator. -/
structure Valid (comparison : Comparison) : Prop where
  field : IsOperand comparison.field
  sign : IsSign comparison.sign comparison.operator
  value : IsOperand comparison.value

def text (comparison : Comparison) : List Char := comparison.field ++ (comparison.sign ++ comparison.value)

def call (comparison : Comparison) : List Char :=
  Query.callText comparison.operator (comparison.field ++ ',' :: comparison.value)

/-- The comparison with its percent form replaced. -/
def plain (comparison : Comparison) : Comparison := { comparison with sign := replacePercentForms comparison.sign }

end Comparison

/-- Comparisons with separators between them, each of them written in the same way. -/
def chain (write : Comparison → List Char) (first : Comparison) (rest : List (Char × Comparison)) : List Char :=
  write first ++ rest.flatMap fun part => part.1 :: write part.2

/-- A percent form that is found is a part of the text. -/
theorem infix_of_hasForm {text : List Char} {escaped : Bool} (formed : hasForm escaped text = true) :
    ∃ c ∈ ['C', 'c', 'E', 'e'], ['%', '3', c] <:+: text := by
  induction text generalizing escaped with
  | nil => cases formed
  | cons c rest ih =>
    rcases Bool.or_eq_true _ _ ▸ formed with here | later
    · obtain ⟨letter, after, same, member⟩ := startsForm_iff.mp (Bool.and_eq_true _ _ ▸ here).2
      exact ⟨letter, member, [], after, same.symm⟩
    · obtain ⟨letter, member, within⟩ := ih later
      exact ⟨letter, member, within.trans (List.suffix_cons c rest).isInfix⟩

theorem IsOperand.bare {text : List Char} (operand : IsOperand text) : hasForm false text = false := by
  rw [Bool.eq_false_iff]
  intro formed
  obtain ⟨letter, member, within⟩ := infix_of_hasForm formed
  exact operand.noEscape letter member within

/-- The characters of operands. -/
theorem IsOperand.chars {text : List Char} (operand : IsOperand text) :
    ∀ c ∈ text, isRunChar c = true ∨ isListChar c = true ∨ c = '(' ∨ c = ')' := by
  intro c member
  rcases operand.shape with run | ⟨inside, _, each, rfl⟩
  · exact .inl (run c member)
  · simp only [List.cons_append, List.mem_cons, List.mem_append, List.not_mem_nil, or_false] at member
    rcases member with rfl | within | rfl
    · exact .inr (.inr (.inl rfl))
    · exact .inr (.inl (each c within))
    · exact .inr (.inr (.inr rfl))

/-- A character that belongs to no operand differs from those of an operand. -/
theorem IsOperand.notMem {text : List Char} (operand : IsOperand text) {sign : Char}
    (other : isRunChar sign = false ∧ isListChar sign = false ∧ sign ≠ '(' ∧ sign ≠ ')') : sign ∉ text := by
  intro member
  obtain ⟨noRun, noList, noOpen, noClose⟩ := other
  rcases operand.chars sign member with run | list | open_ | close
  · rw [noRun] at run
    cases run
  · rw [noList] at list
    cases list
  · exact noOpen open_
  · exact noClose close

section
variable {form : PercentForm} (known : form ∈ percentForms)
include known

/-- An operand in front of a sign is kept. -/
theorem replaceFrom_operand {field : List Char} (noForm : hasForm false field = false) (noEscape : '\\' ∉ field)
    {stop : Char} (other : stop ∉ ['3', 'C', 'c', 'E', 'e']) (rest : List Char) :
    form.replaceFrom 0 false (field ++ stop :: rest) = field ++ form.replaceFrom 0 false (stop :: rest) := by
  induction field with
  | nil => rfl
  | cons c field ih =>
    rw [List.mem_cons, not_or] at noEscape
    obtain ⟨here, later⟩ := Bool.or_eq_false_iff.mp noForm
    rw [decide_eq_false (Ne.symm noEscape.1)] at later
    have start : startsForm (c :: field ++ stop :: rest) = false := by
      rw [startsForm_cons other]
      simpa using here
    rw [List.cons_append] at start ⊢
    rw [replaceFrom_kept (.inr (length?_eq_none known start)), decide_eq_false (Ne.symm noEscape.1), ih later noEscape.2]
    rfl

/-- A text without percent signs in front of a value is kept, but for what is skipped. -/
theorem replaceFrom_front_value {front value : List Char} (noPercent : ∀ c ∈ front, c ≠ '%')
    (noForm : hasForm false value = false) {skip : Nat} (inside : skip ≤ front.length) (escaped : Bool) :
    form.replaceFrom skip escaped (front ++ value) = front.drop skip ++ value := by
  induction front generalizing skip escaped with
  | nil =>
    obtain rfl : skip = 0 := by simpa using inside
    exact replaceFrom_eq_self known (hasForm_of_false noForm escaped)
  | cons c front ih =>
    rw [List.forall_mem_cons] at noPercent
    cases skip with
    | zero =>
      rw [List.cons_append, replaceFrom_char noPercent.1, ih noPercent.2 (Nat.zero_le _)]
      rfl
    | succ skip => exact ih noPercent.2 (by simpa using inside) false

end

/-- A sign in which a percent form is to be replaced, or none is left. -/
inductive IsReplaceable : List Char → Prop
  | form {letter : Char} {tail : List Char} (noPercent : letter ≠ '%') (ends : tail = [] ∨ tail = ['=']) :
    IsReplaceable ('%' :: '3' :: letter :: tail)
  | plain {first : Char} {more : List Char} (other : first ∉ formMarks) (each : ∀ c ∈ more, c ≠ '%') :
    IsReplaceable (first :: more)

theorem IsReplaceable.start {sign : List Char} (replaceable : IsReplaceable sign) :
    ∃ first more, sign = first :: more ∧ first ∉ ['3', 'C', 'c', 'E', 'e'] := by
  cases replaceable with
  | form => exact ⟨'%', _, rfl, by decide⟩
  | plain other =>
    have inner : ∀ sign ∈ ['3', 'C', 'c', 'E', 'e'], sign ∈ formMarks := by decide
    exact ⟨_, _, rfl, fun member => other (inner _ member)⟩

/-- No percent form comes with a comparator. -/
theorem comparator_noPercent : ∀ form ∈ percentForms, form.comparator.head? = some '=' ∧ '%' ∉ form.comparator := by decide

section
variable {value : List Char} (noForm : hasForm false value = false) (noEquals : value.head? ≠ some '=')
variable {form : PercentForm} (known : form ∈ percentForms)
include noForm known

theorem replaceFrom_plain {first : Char} (other : first ∉ formMarks) {more : List Char} (each : ∀ c ∈ more, c ≠ '%') :
    form.replaceFrom 0 false (first :: more ++ value) = first :: more ++ value := by
  refine replaceFrom_eq_self known (hasForm_append ?_ noForm false)
  rw [List.forall_mem_cons]
  refine ⟨?_, each⟩
  rintro rfl
  exact absurd other (by decide)

include noEquals

/-- A percent form is replaced as if no value stood behind it. -/
theorem replaceFrom_percent {letter : Char} {tail : List Char} (noPercent : letter ≠ '%') (ends : tail = [] ∨ tail = ['=']) :
    form.replaceFrom 0 false ('%' :: '3' :: letter :: tail ++ value) =
        form.replaceFrom 0 false ('%' :: '3' :: letter :: tail) ++ value ∧
      IsReplaceable (form.replaceFrom 0 false ('%' :: '3' :: letter :: tail)) := by
  have front : ∀ c ∈ '3' :: letter :: tail, c ≠ '%' := by
    rw [List.forall_mem_cons, List.forall_mem_cons]
    refine ⟨by decide, noPercent, ?_⟩
    rcases ends with rfl | rfl <;> decide
  have same : form.length? ('%' :: ('3' :: letter :: tail ++ value)) = form.length? ('%' :: '3' :: letter :: tail) := by
    rcases ends with rfl | rfl
    · simp [PercentForm.length?, noEquals]
    · rfl
  have alone := @replaceFrom_front_value form known ('3' :: letter :: tail) [] front rfl
  have before := @replaceFrom_front_value form known ('3' :: letter :: tail) value front noForm
  simp only [List.append_nil] at alone
  rw [List.cons_append]
  cases found : form.length? ('%' :: '3' :: letter :: tail) with
  | none =>
    rw [replaceFrom_kept (.inr (same.trans found)), replaceFrom_kept (.inr found), alone (Nat.zero_le _),
      before (Nat.zero_le _)]
    exact ⟨rfl, .form noPercent ends⟩
  | some length =>
    have short : length - 1 ≤ ('3' :: letter :: tail).length := Nat.sub_le_of_le_add (length?_le found).1
    obtain ⟨mark, plain⟩ := comparator_noPercent form known
    obtain ⟨word, comparator⟩ := List.head?_eq_some_iff.mp mark
    rw [comparator, List.mem_cons, not_or] at plain
    rw [PercentForm.replaceFrom, PercentForm.replaceFrom]
    simp only [Bool.false_eq_true, if_false, same, found, alone short, before short, comparator, List.append_assoc, true_and]
    refine .plain (by decide) fun c member => ?_
    rcases List.mem_append.mp member with here | later
    · exact ne_of_mem_of_not_mem here plain.2
    · exact front c (List.mem_of_mem_drop later)

theorem replaceFrom_sign {sign : List Char} (replaceable : IsReplaceable sign) :
    form.replaceFrom 0 false (sign ++ value) = form.replaceFrom 0 false sign ++ value ∧
      IsReplaceable (form.replaceFrom 0 false sign) := by
  cases replaceable with
  | form noPercent ends => exact replaceFrom_percent noForm noEquals known noPercent ends
  | @plain first more other each =>
    have alone := @replaceFrom_plain [] rfl form known first other more each
    rw [List.append_nil] at alone
    rw [replaceFrom_plain noForm known other each, alone]
    exact ⟨rfl, .plain other each⟩

end

section
variable {value : List Char} (noForm : hasForm false value = false) (noEquals : value.head? ≠ some '=')
include noForm noEquals

/-- The sign of a comparison is replaced apart from the operands. -/
theorem replacePercentForms_operands {field : List Char} (bare : hasForm false field = false) (noEscape : '\\' ∉ field)
    {sign : List Char} (replaceable : IsReplaceable sign) :
    replacePercentForms (field ++ (sign ++ value)) = field ++ (replacePercentForms sign ++ value) := by
  have run : ∀ (forms : List PercentForm) (sign : List Char), (∀ form ∈ forms, form ∈ percentForms) → IsReplaceable sign →
      forms.foldl (fun text form => form.replaceFrom 0 false text) (field ++ (sign ++ value)) =
        field ++ (forms.foldl (fun text form => form.replaceFrom 0 false text) sign ++ value) := by
    intro forms
    induction forms with
    | nil => exact fun _ _ _ => rfl
    | cons form forms ih =>
      intro sign known replaceable
      rw [List.forall_mem_cons] at known
      obtain ⟨apart, later⟩ := replaceFrom_sign noForm noEquals known.1 replaceable
      obtain ⟨first, more, split, other⟩ := replaceable.start
      have kept := replaceFrom_operand known.1 bare noEscape other (more ++ value)
      rw [← List.cons_append, ← split, apart] at kept
      rw [List.foldl_cons, List.foldl_cons, kept, ih _ known.2 later]
  exact run percentForms sign (fun _ member => member) replaceable

end

/-! ### Signs -/

/-- The signs with percent forms are replaced by their operators between equals signs. -/
theorem percentSigns_replaced : ∀ pair ∈ percentSigns,
    replacePercentForms pair.1 = '=' :: pair.2 ++ ['='] ∧ IsWord pair.2 := by decide

theorem IsSymbol.start {symbol operator : List Char} (plain : IsSymbol symbol operator) :
    ∃ first more, symbol = first :: more ∧ first ∈ ['=', '!', '<', '>'] ∧ ∀ c ∈ more, c ≠ '%' := by
  cases plain with
  | fixed known =>
    simp only [symbols, List.mem_cons, Prod.mk.injEq, List.not_mem_nil, or_false] at known
    rcases known with ⟨rfl, _⟩ | ⟨rfl, _⟩ | ⟨rfl, _⟩ | ⟨rfl, _⟩ | ⟨rfl, _⟩ | ⟨rfl, _⟩ | ⟨rfl, _⟩
    all_goals exact ⟨_, _, rfl, by decide, by decide⟩
  | named word =>
    refine ⟨'=', operator ++ ['='], rfl, by decide, ?_⟩
    rw [List.forall_mem_append]
    exact ⟨fun c member => Text.ne_of_class (word.word c member) (by decide), by decide⟩

theorem IsSign.replaceable {sign operator : List Char} (stands : IsSign sign operator) : IsReplaceable sign := by
  cases stands with
  | symbol plain =>
    obtain ⟨first, more, rfl, mark, each⟩ := plain.start
    have others : ∀ c ∈ ['=', '!', '<', '>'], c ∉ formMarks := by decide
    exact .plain (others first mark) each
  | percent known =>
    simp only [percentSigns, List.mem_cons, Prod.mk.injEq, List.not_mem_nil, or_false] at known
    rcases known with ⟨rfl, _⟩ | ⟨rfl, _⟩ | ⟨rfl, _⟩ | ⟨rfl, _⟩ | ⟨rfl, _⟩ | ⟨rfl, _⟩ | ⟨rfl, _⟩ | ⟨rfl, _⟩
    all_goals exact .form (by decide) (by simp)

theorem IsSign.start {sign operator : List Char} (stands : IsSign sign operator) :
    ∃ first more, sign = first :: more ∧ first ≠ '?' := by
  cases stands with
  | symbol plain =>
    obtain ⟨first, more, rfl, mark, _⟩ := plain.start
    have others : ∀ c ∈ ['=', '!', '<', '>'], c ≠ '?' := by decide
    exact ⟨first, more, rfl, others first mark⟩
  | percent known =>
    have starts : ∀ pair ∈ percentSigns, pair.1.head? = some '%' := by decide
    obtain ⟨more, rfl⟩ := List.head?_eq_some_iff.mp (starts _ known)
    exact ⟨'%', more, rfl, by decide⟩

/-- A sign whose percent form is replaced stands for the same operator. -/
theorem IsSign.replaced {sign operator : List Char} (stands : IsSign sign operator) :
    IsSymbol (replacePercentForms sign) operator := by
  cases stands with
  | symbol plain =>
    have starts := plain.start
    obtain ⟨first, more, rfl, mark, each⟩ := starts
    have noPercent : ∀ c ∈ first :: more, c ≠ '%' := by
      rw [List.forall_mem_cons]
      refine ⟨?_, each⟩
      rintro rfl
      exact absurd mark (by decide)
    have noForm := @hasForm_append _ noPercent [] rfl false
    rw [List.append_nil] at noForm
    rwa [replacePercentForms_eq_self noForm]
  | percent known =>
    obtain ⟨same, word⟩ := percentSigns_replaced _ known
    rw [same]
    exact .named word

theorem IsSymbol.operator_word {symbol operator : List Char} (plain : IsSymbol symbol operator) : IsWord operator := by
  cases plain with
  | fixed known =>
    have words : ∀ pair ∈ symbols, IsWord pair.2 := by decide
    exact words _ known
  | named word => exact word

theorem IsSymbol.operator?_eq {symbol operator : List Char} (plain : IsSymbol symbol operator) :
    operator? symbol = some operator := by
  cases plain with
  | fixed known =>
    have each : ∀ pair ∈ symbols, operator? pair.1 = some pair.2 := by decide
    exact each _ known
  | named word =>
    obtain ⟨c, name, rfl⟩ := List.exists_cons_of_ne_nil word.some
    have dropped : (c :: name ++ ['=']).dropLast = c :: name := List.dropLast_concat
    simpa [operator?] using dropped

/-- A symbol in front of a text that goes on with no word and equals sign is one comparator. -/
theorem IsSymbol.comparator?_eq {symbol operator : List Char} (plain : IsSymbol symbol operator) {rest : List Char}
    (ends : (rest.dropWhile Text.isWord).head? ≠ some '=') : comparator? (symbol ++ rest) = some symbol := by
  have none : Shorthand.named rest = [] := by rw [Shorthand.named, if_neg ends]
  have noEquals : rest.head? ≠ some '=' := by
    intro first
    obtain ⟨more, rfl⟩ := List.head?_eq_some_iff.mp first
    exact ends (by rw [List.dropWhile_cons_of_neg (by decide)]; rfl)
  cases plain with
  | fixed known =>
    have double : Shorthand.named ('=' :: rest) = ['='] := @named_word [] (by simp) rest
    simp only [symbols, List.mem_cons, Prod.mk.injEq, List.not_mem_nil, or_false] at known
    rcases known with ⟨rfl, _⟩ | ⟨rfl, _⟩ | ⟨rfl, _⟩ | ⟨rfl, _⟩ | ⟨rfl, _⟩ | ⟨rfl, _⟩ | ⟨rfl, _⟩
    · simp [comparator?, none]
    · simp [comparator?, double]
    · simp [comparator?, none]
    · cases rest with
      | nil => rfl
      | cons c rest => simp [comparator?, show c ≠ '=' by simpa using noEquals]
    · simp [comparator?, none]
    · cases rest with
      | nil => rfl
      | cons c rest => simp [comparator?, show c ≠ '=' by simpa using noEquals]
    · simp [comparator?, none]
  | @named name word =>
    rw [List.append_assoc, List.cons_append, List.singleton_append, comparator?, named_word word.word]
    rfl

/-- The tokens of an operand. -/
def operands (text : List Char) : List Token := if text = [] then [] else [.operand text]

/-- An operand is one token in front of a text that does not go on a run. -/
theorem tokensFrom_operand {text : List Char} (operand : IsOperand text) {rest : List Char}
    (ends : ∀ c, rest.head? = some c → isRunChar c = false) :
    tokensFrom 0 (text ++ rest) = operands text ++ tokensFrom 0 rest := by
  rcases operand.shape with run | ⟨inside, some, each, rfl⟩
  · cases text with
    | nil => rfl
    | cons c text =>
      rw [List.forall_mem_cons] at run
      have stop : rest.takeWhile isRunChar = [] ∧ rest.dropWhile isRunChar = rest := by
        cases rest with
        | nil => exact ⟨rfl, rfl⟩
        | cons d rest => simp [ends d rfl]
      rw [List.cons_append, tokensFrom_run run.1, List.takeWhile_append_of_pos run.2, List.dropWhile_append_of_pos run.2,
        stop.1, stop.2, List.append_nil]
      rfl
  · have noClose : isListChar ')' = false := by decide
    have listed : list? ('(' :: (inside ++ ')' :: rest)) = Option.some ('(' :: inside ++ [')']) := by
      have whole := List.takeWhile_eq_self_iff.mpr each
      have nothing : inside.dropWhile isListChar = [] := List.dropWhile_eq_nil_iff.mpr each
      simp [list?, takeWhile_stop noClose, dropWhile_stop noClose, whole, nothing, some]
    have skip := tokensFrom_drop (inside ++ [')']) rest
    rw [List.append_assoc] at skip
    have text : '(' :: inside ++ [')'] ++ rest = '(' :: (inside ++ ')' :: rest) := by simp
    rw [text, tokensFrom_open, listed]
    exact congrArg (Token.operand ('(' :: inside ++ [')']) :: ·) skip

theorem tokensFrom_symbol {symbol operator : List Char} (plain : IsSymbol symbol operator) {rest : List Char}
    (ends : (rest.dropWhile Text.isWord).head? ≠ some '=') :
    tokensFrom 0 (symbol ++ rest) = .comparator symbol :: tokensFrom 0 rest := by
  have found := plain.comparator?_eq ends
  obtain ⟨first, more, rfl, mark, _⟩ := plain.start
  have noRuns : ∀ c ∈ ['=', '!', '<', '>'], isRunChar c = false := by decide
  have noRun := noRuns first mark
  rw [List.cons_append] at found ⊢
  rw [tokensFrom.eq_def]
  simp only [noRun, found]
  exact congrArg (Token.comparator (first :: more) :: ·) (tokensFrom_drop more rest)

/-- The operands next to a comparator go into its call. -/
theorem text_comparison {field symbol value whole : List Char} (made : call field symbol value = .ok whole) {line : List Token}
    (ends : ∀ operand, line.head? ≠ some (.operand operand)) :
    text (operands field ++ .comparator symbol :: (operands value ++ line)) = (text line).map (whole ++ ·) := by
  have joined : (do return (← call field symbol value) ++ (← text line)) = (text line).map (whole ++ ·) := by
    rw [made]
    cases text line <;> rfl
  have noOperand : ∀ operand rest, line ≠ .operand operand :: rest := by
    rintro operand rest rfl
    exact ends operand rfl
  rw [← joined]
  unfold operands
  by_cases noField : field = []
  · by_cases noValue : value = []
    · subst noField noValue
      rw [if_pos rfl, List.nil_append, List.nil_append, text]
      exact noOperand
    · subst noField
      rw [if_pos rfl, if_neg noValue]
      rfl
  · by_cases noValue : value = []
    · subst noValue
      rw [if_neg noField, if_pos rfl, List.singleton_append, List.nil_append, text]
      exact noOperand
    · rw [if_neg noField, if_neg noValue]
      rfl

/-- The characters between comparisons. -/
def separators : List Char := ['&', ',', '|']

theorem tokensFrom_comparison {field symbol operator value : List Char} (left : IsOperand field)
    (plain : IsSymbol symbol operator) (right : IsOperand value) {rest : List Char}
    (ends : ∀ c, rest.head? = some c → c ∈ separators) :
    tokensFrom 0 (field ++ (symbol ++ (value ++ rest))) =
      operands field ++ .comparator symbol :: (operands value ++ tokensFrom 0 rest) := by
  have noRuns : ∀ c ∈ separators, isRunChar c = false := by decide
  -- Behind the word at the start of the value stands no equals sign.
  have noEquals : ((value ++ rest).dropWhile Text.isWord).head? ≠ some '=' := by
    have within : (value.dropWhile Text.isWord).head? ≠ some '=' := fun equals =>
      right.notMem (by decide) ((List.dropWhile_sublist _).subset (List.mem_of_mem_head? equals))
    cases rest with
    | nil => rwa [List.append_nil]
    | cons separator rest =>
      have others : ∀ c ∈ separators, Text.isWord c = false ∧ c ≠ '=' := by decide
      obtain ⟨noWord, other⟩ := others separator (ends separator rfl)
      rwa [dropWhile_stop noWord, ne_eq, head?_stop other]
  rw [tokensFrom_operand left, tokensFrom_symbol plain noEquals, tokensFrom_operand right]
  · exact fun c first => noRuns c (ends c first)
  · obtain ⟨first, more, rfl, mark, _⟩ := plain.start
    have marks : ∀ c ∈ ['=', '!', '<', '>'], isRunChar c = false := by decide
    intro c same
    obtain rfl : first = c := by simpa using same
    exact marks first mark

/-! ### Chains -/

theorem tokensFrom_divided {separator : Char} (divides : separator ∈ separators) (rest : List Char) :
    tokensFrom 0 (separator :: rest) = .other separator :: tokensFrom 0 rest := by
  have others : ∀ c ∈ separators, isRunChar c = false ∧ isComparator c = false ∧ c ≠ '!' ∧ c ≠ '(' := by decide
  obtain ⟨noRun, plain, noBang, noOpen⟩ := others separator divides
  exact tokensFrom_plain noRun plain noBang noOpen rest

theorem chain_cons (write : Comparison → List Char) (first : Comparison) (part : Char × Comparison)
    (rest : List (Char × Comparison)) :
    chain write first (part :: rest) = write first ++ part.1 :: chain write part.2 rest := by
  rw [chain, chain, List.flatMap_cons, List.cons_append]

namespace Comparison
variable {comparison : Comparison} (valid : comparison.Valid)
include valid

theorem replacePercentForms_text : replacePercentForms comparison.text = comparison.plain.text := by
  refine replacePercentForms_operands valid.value.bare ?_ valid.field.bare
    (valid.field.notMem (by decide)) valid.sign.replaceable
  intro equals
  exact valid.value.notMem (by decide) (List.mem_of_mem_head? equals)

/-- A comparison becomes its call, whatever follows it. -/
theorem text_plain {rest : List Char} (ends : ∀ c, rest.head? = some c → c ∈ separators) :
    Shorthand.text (tokensFrom 0 (comparison.plain.text ++ rest)) =
      (Shorthand.text (tokensFrom 0 rest)).map (comparison.call ++ ·) := by
  have symbol := valid.sign.replaced
  have made : Shorthand.call comparison.field comparison.plain.sign comparison.value = .ok comparison.call := by
    rw [Shorthand.call, plain, symbol.operator?_eq, Comparison.call, Query.callText]
    simp
  have noOperand : ∀ operand, (tokensFrom 0 rest).head? ≠ some (.operand operand) := by
    cases rest with
    | nil => simp [tokensFrom]
    | cons separator rest =>
      rw [tokensFrom_divided (ends separator rfl)]
      simp
  rw [text, List.append_assoc, List.append_assoc, ← text_comparison made noOperand]
  exact congrArg Shorthand.text (tokensFrom_comparison valid.field symbol valid.value ends)

/-- The call of a comparison is a text that no expansion changes. -/
theorem hasForm_call : hasForm false comparison.call = false := by
  have word := hasForm_word valid.sign.replaced.operator_word.word
  have opens : '(' ∉ formMarks := by decide
  have divides : ',' ∉ formMarks := by decide
  have closes : ')' ∉ formMarks := by decide
  rw [call, Query.callText, List.append_assoc, List.cons_append, hasForm_stop opens, word, hasForm_stop closes,
    hasForm_stop divides, valid.field.bare, valid.value.bare]
  rfl

theorem text_start : ∃ c more, comparison.text = c :: more ∧ c ≠ '?' := by
  rw [text]
  cases split : comparison.field with
  | nil =>
    obtain ⟨c, more, same, noMark⟩ := valid.sign.start
    rw [same]
    exact ⟨c, more ++ comparison.value, rfl, noMark⟩
  | cons c field =>
    refine ⟨c, field ++ (comparison.sign ++ comparison.value), rfl, ?_⟩
    rintro rfl
    exact valid.field.notMem (by decide) (split ▸ List.mem_cons_self)

theorem call_start : ∃ c more, comparison.call = c :: more ∧ c ≠ '?' := by
  have word := valid.sign.replaced.operator_word
  obtain ⟨c, name, same⟩ := List.exists_cons_of_ne_nil word.some
  rw [call, Query.callText, same]
  exact ⟨c, _, rfl, Text.ne_of_class (word.word c (same ▸ List.mem_cons_self)) (by decide)⟩

end Comparison

section
variable {first : Comparison} {rest : List (Char × Comparison)}
variable (head : first.Valid) (each : ∀ part ∈ rest, part.1 ∈ separators ∧ part.2.Valid)
include head each

theorem replacePercentForms_chain :
    replacePercentForms (chain Comparison.text first rest) = chain (fun comparison => comparison.plain.text) first rest := by
  induction rest generalizing first with
  | nil =>
    rw [chain, chain, List.flatMap_nil, List.flatMap_nil, List.append_nil, List.append_nil]
    exact first.replacePercentForms_text head
  | cons part rest ih =>
    rw [List.forall_mem_cons] at each
    have others : ∀ c ∈ separators, c ∉ formMarks ∧ c ≠ '=' := by decide
    obtain ⟨other, noEquals⟩ := others part.1 each.1.1
    rw [chain_cons, chain_cons, replacePercentForms_stop other noEquals, first.replacePercentForms_text head, ih each.1.2 each.2]

theorem text_chain :
    text (tokensFrom 0 (chain (fun comparison => comparison.plain.text) first rest)) = .ok (chain Comparison.call first rest) := by
  induction rest generalizing first with
  | nil => exact first.text_plain head (by simp)
  | cons part rest ih =>
    rw [List.forall_mem_cons] at each
    rw [chain_cons, chain_cons, first.text_plain head, tokensFrom_divided each.1.1, text_other, ih each.1.2 each.2]
    · rfl
    · rintro c ⟨⟩
      exact each.1.1

theorem hasForm_chain : hasForm false (chain Comparison.call first rest) = false := by
  induction rest generalizing first with
  | nil =>
    rw [chain, List.flatMap_nil, List.append_nil]
    exact first.hasForm_call head
  | cons part rest ih =>
    rw [List.forall_mem_cons] at each
    have others : ∀ c ∈ separators, c ∉ formMarks := by decide
    rw [chain_cons, hasForm_stop (others part.1 each.1.1), first.hasForm_call head, ih each.1.2 each.2]
    rfl

/-- **Comparisons and calls.** Comparisons are expanded to their calls, whatever stands between them and
beside them, so that both texts are parsed alike. -/
theorem expand_chain :
    expand (chain Comparison.text first rest) = .ok (chain Comparison.call first rest) ∧
      Query.parse (String.ofList (chain Comparison.text first rest)) =
        Query.parse (String.ofList (chain Comparison.call first rest)) := by
  have expanded : expand (chain Comparison.text first rest) = .ok (chain Comparison.call first rest) := by
    rw [expand, replacePercentForms_chain head each]
    exact text_chain head each
  have kept : expand (chain Comparison.call first rest) = .ok (chain Comparison.call first rest) :=
    expand_eq_self (expand_settled expanded) (hasForm_chain head each)
  refine ⟨expanded, ?_⟩
  have parsed : ∀ write : Comparison → List Char, (∃ c more, write first = c :: more ∧ c ≠ '?') →
      Query.parse (String.ofList (chain write first rest)) = (do Query.read (← expand (chain write first rest))) := by
    rintro write ⟨c, more, start, noMark⟩
    have split : (String.ofList (chain write first rest)).toList = c :: (more ++ rest.flatMap fun part => part.1 :: write part.2) := by
      rw [String.toList_ofList, chain, start, List.cons_append]
    rw [Query.parse_eq (by simp [split]) (by simpa [split] using noMark), String.toList_ofList]
  rw [parsed _ (first.text_start head), parsed _ (first.call_start head), expanded, kept]

end

/-- A percent form in front of a list, a named sign with no value and a percent sign alone. -/
theorem expand_chain_mixed :
    ∃ (first : Comparison) (rest : List (Char × Comparison)) (query : Query),
      chain Comparison.text first rest =
        ['a', '%', '3', 'C', '=', '(', '1', ',', '2', ')', '|', 'b', ' ', 'c', '=', 'i', 'n', '=', ',', '=', '%', '3'] ∧
      chain Comparison.call first rest =
        ['l', 'e', '(', 'a', ',', '(', '1', ',', '2', ')', ')', '|', 'i', 'n', '(', 'b', ' ', 'c', ',', ')', ',',
          'e', 'q', '(', ',', '%', '3', ')'] ∧
      first.Valid ∧ (∀ part ∈ rest, part.1 ∈ separators ∧ part.2.Valid) ∧
      expand (chain Comparison.text first rest) = .ok (chain Comparison.call first rest) ∧
      query = ⟨"or", [.node (.text "le") [.text "a", .list [.int 1, .int 2]],
        .node (.text "and") [.node (.text "in") [.text "b c"], .node (.text "eq") [.text "", .text "%3"]]]⟩ ∧
      Query.parse (String.ofList (chain Comparison.call first rest)) = .ok query ∧
      Query.parse (String.ofList (chain Comparison.text first rest)) = .ok query := by
  have run : ∀ text ∈ [[], ['a'], ['b', ' ', 'c'], ['%', '3']], IsOperand text := by
    intro text member
    have shapes : ∀ text ∈ [[], ['a'], ['b', ' ', 'c'], ['%', '3']],
        (∀ c ∈ text, isRunChar c = true) ∧ ∀ c ∈ ['C', 'c', 'E', 'e'], ¬ ['%', '3', c] <:+: text := by decide
    exact ⟨.inl (shapes text member).1, (shapes text member).2⟩
  have list : IsOperand ['(', '1', ',', '2', ')'] := ⟨.inr ⟨['1', ',', '2'], by simp, by decide, rfl⟩, by decide⟩
  have less : Comparison.Valid ⟨['a'], ['%', '3', 'C', '='], ['l', 'e'], ['(', '1', ',', '2', ')']⟩ :=
    ⟨run _ (by simp), .percent (by decide), list⟩
  have named : Comparison.Valid ⟨['b', ' ', 'c'], ['=', 'i', 'n', '='], ['i', 'n'], []⟩ :=
    ⟨run _ (by simp), .symbol (@IsSymbol.named ['i', 'n'] (by decide)), run _ (by simp)⟩
  have equals : Comparison.Valid ⟨[], ['='], ['e', 'q'], ['%', '3']⟩ :=
    ⟨run _ (by simp), .symbol (.fixed (by decide)), run _ (by simp)⟩
  have valid : ∀ part ∈ [('|', Comparison.mk ['b', ' ', 'c'] ['=', 'i', 'n', '='] ['i', 'n'] []),
      (',', Comparison.mk [] ['='] ['e', 'q'] ['%', '3'])], part.1 ∈ separators ∧ part.2.Valid := by
    rw [List.forall_mem_cons, List.forall_mem_singleton]
    exact ⟨⟨by decide, named⟩, by decide, equals⟩
  obtain ⟨expanded, parsed⟩ := expand_chain less valid
  refine ⟨_, _, _, rfl, rfl, less, valid, expanded, rfl, ?called, parsed.trans ?called⟩
  rw [Query.parse_eq (by rw [String.toList_ofList]; exact List.cons_ne_nil _ _)
    (by rw [String.toList_ofList]; decide), String.toList_ofList]
  rfl

end ResourceQuery.Shorthand
