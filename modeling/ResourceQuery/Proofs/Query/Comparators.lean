import ResourceQuery.Proofs.Query.Expansion

/-!
Comparators that stand for no operator. The expansion of a text fails exactly if one of them stands in it, and the
fault names the first (`expand_eq_error_iff`). Otherwise no comparator is left, and a text without comparators and
percent forms is what it was (`expand_outcome`).
-/
namespace ResourceQuery.Shorthand

variable {source symbol : List Char} {fault : Error}

/-- A comparator that stands for no operator: one of `<=`, `>=` and `!=`, and behind it a name, which may be empty, and
another `=`. -/
def IsIllegal (symbol : List Char) : Prop :=
  ∃ sign ∈ ['<', '>', '!'], ∃ name, (∀ c ∈ name, Text.isWord c = true) ∧ symbol = sign :: '=' :: (name ++ ['='])

theorem IsIllegal.ne_nil (illegal : IsIllegal symbol) : symbol ≠ [] := by
  obtain ⟨sign, _, name, _, rfl⟩ := illegal
  exact List.cons_ne_nil _ _

theorem IsIllegal.operator?_eq_none (illegal : IsIllegal symbol) : operator? symbol = none := by
  obtain ⟨sign, mark, name, _, rfl⟩ := illegal
  simp only [List.mem_cons, List.not_mem_nil, or_false] at mark
  rcases mark with rfl | rfl | rfl <;> cases name <;> rfl

/-- A comparator without an operator is an illegal one. -/
theorem isIllegal_of_operator? (found : comparator? source = some symbol) (unknown : operator? symbol = none) :
    IsIllegal symbol := by
  obtain ⟨before, after, _, _, ⟨mark, rfl⟩ | rfl | rfl⟩ := comparator?_eq_some found
  · simp only [List.mem_cons, List.not_mem_nil, or_false] at mark
    rcases named_eq after with none | ⟨name, _, whole, _, word⟩
    · rw [none] at unknown
      rcases mark with rfl | rfl | rfl | rfl <;> cases unknown
    · rw [whole] at unknown ⊢
      rcases mark with rfl | rfl | rfl | rfl
      · cases name <;> simp [operator?] at unknown
      all_goals exact ⟨_, by simp, name, word, rfl⟩
  all_goals cases unknown

/-- A comparator is read at a place of a text. -/
def Stands (symbol source : List Char) : Prop := ∃ part, part <:+ source ∧ comparator? part = some symbol

theorem Stands.behind {rest : List Char} (stands : Stands symbol rest) (c : Char) : Stands symbol (c :: rest) := by
  obtain ⟨part, within, found⟩ := stands
  exact ⟨part, within.trans (List.suffix_cons c rest), found⟩

/-- A comparator token is read from the text at its place. -/
theorem stands_of_mem {skip : Nat} (member : Token.comparator symbol ∈ tokensFrom skip source) : Stands symbol source := by
  fun_induction tokensFrom skip source with
  | case1 => cases member
  | case2 skip c rest ih => exact (ih member).behind c
  | case3 c rest opens run ih => exact (ih (by simpa using member)).behind c
  | case4 c rest noRun other here ih =>
    rcases List.mem_cons.mp member with same | later
    · cases same
      exact ⟨c :: rest, List.suffix_rfl, here⟩
    · exact (ih later).behind c
  | case5 c rest noRun noComparator list here ih => exact (ih (by simpa using member)).behind c
  | case6 c rest noRun noComparator noList ih => exact (ih (by simpa using member)).behind c

/-- A comparator token without an operator is an illegal comparator that stands in the text. -/
theorem isIllegal_of_mem (member : Token.comparator symbol ∈ tokens source) (unknown : operator? symbol = none) :
    IsIllegal symbol ∧ symbol <:+: source := by
  obtain ⟨part, within, found⟩ := stands_of_mem member
  obtain ⟨_, _, rest, rfl, _⟩ := comparator?_eq_some found
  exact ⟨isIllegal_of_operator? found unknown, (List.prefix_append symbol rest).isInfix.trans within.isInfix⟩

/-- No token goes on into an illegal comparator, so that it is a token wherever it stands. -/
theorem tokens_illegal (illegal : IsIllegal symbol) (before after : List Char) :
    ∃ more, tokens (before ++ symbol ++ after) = tokens before ++ .comparator symbol :: more := by
  obtain ⟨sign, mark, name, word, rfl⟩ := illegal
  have outside : ∀ sign ∈ ['<', '>', '!'], EndsTokens sign ∧ isRunChar sign = false := by decide
  obtain ⟨ends, noRun⟩ := outside sign mark
  have closed : named (name ++ '=' :: after) = name ++ ['='] := named_word word after
  have found : comparator? (sign :: '=' :: (name ++ '=' :: after)) = some (sign :: '=' :: (name ++ ['='])) := by
    simp only [List.mem_cons, List.not_mem_nil, or_false] at mark
    rcases mark with rfl | rfl | rfl <;> simp [comparator?, closed]
  have split : before ++ sign :: '=' :: (name ++ ['=']) ++ after = before ++ sign :: '=' :: (name ++ '=' :: after) := by simp
  rw [split, tokens, tokensFrom_stop ends (Nat.zero_le _), tokensFrom.eq_def 0 (sign :: _)]
  simp only [noRun, found]
  exact ⟨_, rfl⟩

/-- Where illegal comparators stand in a text, one of them is the first. -/
theorem exists_first (illegal : IsIllegal symbol) (before after : List Char) :
    ∃ front first back, before ++ symbol ++ after = front ++ first ++ back ∧ IsIllegal first ∧
      ∀ other, IsIllegal other → ¬ other <:+: front := by
  -- The induction is on the length of the text in front, which may hold another one.
  induction length : before.length using Nat.strong_induction_on generalizing before symbol after with
  | _ n ih =>
    by_cases earlier : ∃ other, IsIllegal other ∧ other <:+: before
    · obtain ⟨other, also, front, back, rfl⟩ := earlier
      have shorter : front.length < n := by
        have filled := List.length_pos_iff.mpr also.ne_nil
        simp only [← length, List.length_append]
        omega
      obtain ⟨first, found, rest, split, holds⟩ := ih _ shorter also front (back ++ symbol ++ after) rfl
      exact ⟨first, found, rest, by rw [← split]; simp, holds⟩
    · exact ⟨before, symbol, after, rfl, illegal, fun other also within => earlier ⟨other, also, within⟩⟩

/-- The symbol of a comparator token without an operator. -/
def Token.unknown? : Token → Option (List Char)
  | .comparator symbol => if operator? symbol = none then some symbol else none
  | _ => none

theorem Token.unknown?_eq_some_iff {token : Token} :
    token.unknown? = some symbol ↔ token = .comparator symbol ∧ operator? symbol = none := by
  cases token with
  | comparator other => grind [Token.unknown?]
  | _ => simp [Token.unknown?]

/-- The fault of the first comparator without an operator, if there is one in a line. -/
def FailsAtFirst (line : List Token) (fault : Error) : Prop :=
  ∃ symbol, line.findSome? Token.unknown? = some symbol ∧ fault = .parse (.illegalComparator (String.ofList symbol))

/-- A call in front of a line fails if its comparator has no operator, and else where the line fails. -/
theorem call_append_eq_error_iff {field value : List Char} {rest : Except Error (List Char)} {line : List Token}
    (later : rest = .error fault ↔ FailsAtFirst line fault) :
    (do return (← call field symbol value) ++ (← rest)) = .error fault ↔ FailsAtFirst (.comparator symbol :: line) fault := by
  unfold FailsAtFirst at later ⊢
  unfold call
  cases known : operator? symbol with
  | none => simp [Token.unknown?, known, eq_comm]
  | some name =>
    rw [List.findSome?_cons_of_isNone (by simp [Token.unknown?, known]), ← later]
    cases rest <;> simp

/-- A line fails at the first comparator without an operator. -/
theorem text_eq_error_iff {line : List Token} : text line = .error fault ↔ FailsAtFirst line fault := by
  fun_induction text line with
  | case1 => simp [FailsAtFirst]
  | case2 field symbol value rest ih => exact call_append_eq_error_iff ih
  | case3 field symbol rest _ ih => exact call_append_eq_error_iff ih
  | case4 symbol value rest ih => exact call_append_eq_error_iff ih
  | case5 symbol rest _ ih => exact call_append_eq_error_iff ih
  | case6 operand rest _ _ ih => exact Iff.trans (by cases text rest <;> simp) ih
  | case7 c rest ih => exact Iff.trans (by cases text rest <;> simp) ih

/-- The first illegal comparator of a text is the first token without an operator. -/
theorem findSome?_unknown {before after : List Char} (illegal : IsIllegal symbol)
    (first : ∀ other, IsIllegal other → ¬ other <:+: before) :
    (tokens (before ++ symbol ++ after)).findSome? Token.unknown? = some symbol := by
  obtain ⟨more, split⟩ := tokens_illegal illegal before after
  have none : (tokens before).findSome? Token.unknown? = none := by
    rw [List.findSome?_eq_none_iff]
    refine fun token member => Option.eq_none_iff_forall_ne_some.mpr fun other found => ?_
    obtain ⟨rfl, unknown⟩ := Token.unknown?_eq_some_iff.mp found
    obtain ⟨also, within⟩ := isIllegal_of_mem member unknown
    exact first other also within
  have here : (Token.comparator symbol).unknown? = some symbol :=
    Token.unknown?_eq_some_iff.mpr ⟨rfl, illegal.operator?_eq_none⟩
  rw [split, List.findSome?_append, none, List.findSome?_cons, here]
  rfl

/-- **The expansion fails exactly if an illegal comparator stands in the text behind its percent forms, and names the
first.** -/
theorem expand_eq_error_iff : expand source = .error fault ↔
    ∃ before symbol after, replacePercentForms source = before ++ symbol ++ after ∧ IsIllegal symbol ∧
      (∀ other, IsIllegal other → ¬ other <:+: before) ∧ fault = .parse (.illegalComparator (String.ofList symbol)) := by
  rw [expand, text_eq_error_iff]
  constructor
  · rintro ⟨symbol, found, rfl⟩
    obtain ⟨token, member, here⟩ := List.exists_of_findSome?_eq_some found
    obtain ⟨rfl, unknown⟩ := Token.unknown?_eq_some_iff.mp here
    obtain ⟨illegal, front, back, same⟩ := isIllegal_of_mem member unknown
    obtain ⟨before, first, after, split, also, holds⟩ := exists_first illegal front back
    rw [← same, split, findSome?_unknown also holds, Option.some.injEq] at found
    exact ⟨before, first, after, by rw [← same, split], also, holds, by rw [found]⟩
  · rintro ⟨before, symbol, after, split, illegal, first, rfl⟩
    exact ⟨symbol, by rw [split, findSome?_unknown illegal first], rfl⟩

/-- **What becomes of a text.** The expansion fails exactly if an illegal comparator stands in it behind its percent
forms, and then it names the first one. Otherwise it leaves none of the characters of comparators. A text that holds none of
them, and no percent form but directly behind a backslash, is left as it is. -/
theorem expand_outcome (source : List Char) :
    (∀ fault, expand source = .error fault ↔
      ∃ before symbol after, replacePercentForms source = before ++ symbol ++ after ∧ IsIllegal symbol ∧
        (∀ other, IsIllegal other → ¬ other <:+: before) ∧ fault = .parse (.illegalComparator (String.ofList symbol))) ∧
    (∀ expanded, expand source = .ok expanded → ∀ c ∈ expanded, c ∉ ['=', '<', '>']) ∧
    ((∀ c ∈ source, c ∉ ['=', '<', '>']) →
      (∀ before letter after, source = before ++ '%' :: '3' :: letter :: after → letter ∈ ['C', 'c', 'E', 'e'] →
        before.getLast? = some '\\') →
      expand source = .ok source) := by
  have comparator : ∀ c : Char, isComparator c = false ↔ c ∉ ['=', '<', '>'] := by simp [isComparator, and_assoc]
  refine ⟨fun fault => expand_eq_error_iff, fun expanded done c member => ?_, fun plain behind => ?_⟩
  · exact (comparator c).mp (expand_settled done c member)
  · exact expand_eq_self (fun c member => (comparator c).mpr (plain c member)) (hasForm_eq_false_iff.mpr behind)

/-- Behind a percent form, an illegal comparator in front of another one; a percent form; and one behind a backslash. -/
theorem expand_outcome_percent :
    expand ['a', '%', '3', 'e', '!', '=', 'b', '=', '<', '=', '='] = .error (.parse (.illegalComparator "!=b=")) ∧
    expand ['a', '%', '3', 'E', '=', '1'] = .ok ['g', 'e', '(', 'a', ',', '1', ')'] ∧
    (∀ c ∈ ['g', 'e', '(', 'a', ',', '1', ')'], c ∉ ['=', '<', '>']) ∧
    (∀ c ∈ ['f', '(', '\\', '%', '3', 'c', ')'], c ∉ ['=', '<', '>']) ∧
    expand ['f', '(', '\\', '%', '3', 'c', ')'] = .ok ['f', '(', '\\', '%', '3', 'c', ')'] := by
  have illegal : IsIllegal ['!', '=', 'b', '='] := ⟨'!', by simp, ['b'], by decide, rfl⟩
  have noneBefore : ∀ other, IsIllegal other → ¬ other <:+: ['a', '=', 'g', 't', '='] := by
    rintro _ ⟨sign, mark, name, _, rfl⟩ within
    have member : sign ∈ ['a', '=', 'g', 't', '='] := within.subset List.mem_cons_self
    exact absurd member ((by decide : ∀ sign ∈ ['<', '>', '!'], sign ∉ ['a', '=', 'g', 't', '=']) sign mark)
  have compared : expand ['a', '%', '3', 'E', '=', '1'] = .ok ['g', 'e', '(', 'a', ',', '1', ')'] := by decide +kernel
  have plain : ∀ c ∈ ['f', '(', '\\', '%', '3', 'c', ')'], c ∉ ['=', '<', '>'] := by decide
  refine ⟨?_, compared, (expand_outcome _).2.1 _ compared, plain, ?_⟩
  · exact ((expand_outcome _).1 _).mpr ⟨['a', '=', 'g', 't', '='], _, ['<', '=', '='], by decide, illegal, noneBefore, rfl⟩
  · exact (expand_outcome _).2.2 plain (hasForm_eq_false_iff.mp (by decide))

end ResourceQuery.Shorthand
