import Mathlib.Algebra.GroupWithZero.Nat
import ResourceQuery.Proofs.Equality
import ResourceQuery.Proofs.Query.Expansion
import ResourceQuery.Proofs.Query.Printed

/-!
Quoted arguments. Groups, arguments and quotes are read with what stands in quotes as it is
(`Query.argument_quoted`), but comparisons are expanded in quotes as well: a quoted text is decoded as
its expansion (`Query.parse_quoted`), and that is the text itself exactly if it holds no comparator and
no percent form (`Shorthand.expand_eq_self_iff`).
-/
namespace ResourceQuery

namespace Shorthand

/-- The length of a token, and one more for a comparator. -/
def Token.weight : Token → Nat
  | .operand text => text.length
  | .comparator symbol => symbol.length + 1
  | .other _ => 1

theorem Token.length_le (token : Token) : token.text.length ≤ token.weight := by
  cases token with
  | operand text => exact Nat.le_refl _
  | comparator symbol => exact Nat.le_succ _
  | other c => exact Nat.le_refl _

theorem length_flatMap_text (line : List Token) : (line.flatMap Token.text).length ≤ (line.map Token.weight).sum := by
  induction line with
  | nil => exact Nat.le_refl _
  | cons token rest ih =>
    have head := token.length_le
    rw [List.flatMap_cons, List.length_append, List.map_cons, List.sum_cons]
    omega

/-- Tokens that are no longer than their text hold no comparator. -/
theorem comparator_notMem_of_weight {line : List Token} (short : (line.map Token.weight).sum ≤ (line.flatMap Token.text).length)
    (symbol : List Char) : Token.comparator symbol ∉ line := by
  intro member
  obtain ⟨before, after, rfl⟩ := List.append_of_mem member
  have front := length_flatMap_text before
  have back := length_flatMap_text after
  rw [List.flatMap_append, List.flatMap_cons, List.length_append, List.length_append, List.map_append, List.map_cons,
    List.sum_append, List.sum_cons, Token.text, Token.weight] at short
  omega

theorem length_replaceFrom {form : PercentForm} (known : form ∈ percentForms) (skip : Nat) (escaped : Bool)
    (text : List Char) : text.length ≤ (form.replaceFrom skip escaped text).length + skip := by
  have four : ∀ form ∈ percentForms, form.comparator.length = 4 := by decide
  fun_induction form.replaceFrom skip escaped text with
  | case1 => simp
  | case2 skip escaped c rest ih =>
    rw [List.length_cons]
    omega
  | case3 escaped c rest length found ih =>
    have short : length ≤ 4 := by
      split at found
      · cases found
      · exact (length?_le found).2
    rw [List.length_append, List.length_cons, four form known]
    omega
  | case4 escaped c rest none ih =>
    rw [List.length_cons, List.length_cons]
    omega

theorem length_replacePercentForms (text : List Char) : text.length ≤ (replacePercentForms text).length := by
  have run : ∀ (forms : List PercentForm) (text : List Char), (∀ form ∈ forms, form ∈ percentForms) →
      text.length ≤ (forms.foldl (fun text form => form.replaceFrom 0 false text) text).length := by
    intro forms
    induction forms with
    | nil => exact fun text _ => Nat.le_refl _
    | cons form forms ih =>
      intro text known
      rw [List.forall_mem_cons] at known
      exact (length_replaceFrom known.1 0 false text).trans (ih _ known.2)
  exact run percentForms text fun _ member => member

theorem operator?_length {symbol op : List Char} (found : operator? symbol = some op) : symbol.length ≤ op.length + 2 := by
  unfold operator? at found
  split at found
  all_goals
    cases found
    try simp
  omega

/-- A call is longer than its comparison. -/
theorem length_call {field symbol value whole : List Char} (done : call field symbol value = .ok whole) :
    field.length + symbol.length + value.length < whole.length := by
  obtain ⟨op, found, rfl⟩ := call_eq_ok done
  have short := operator?_length found
  simp only [List.length_append, List.length_cons, List.length_nil]
  omega

/-- A call in front of a text is longer than its comparison, if no comparator makes the text shorter. -/
theorem length_call_append {field symbol value whole : List Char} {rest : List Token}
    (done : (do return (← call field symbol value) ++ (← text rest)) = .ok whole)
    (later : ∀ {tail}, text rest = .ok tail → (rest.map Token.weight).sum ≤ tail.length) :
    field.length + (symbol.length + 1) + value.length + (rest.map Token.weight).sum ≤ whole.length := by
  obtain ⟨head, tail, made, others, rfl⟩ := append_eq_ok done
  have longer := length_call made
  have kept := later others
  rw [List.length_append]
  omega

/-- Every comparator makes a text longer. -/
theorem length_text {line : List Token} {whole : List Char} (done : text line = .ok whole) :
    (line.map Token.weight).sum ≤ whole.length := by
  fun_induction text line generalizing whole with
  | case1 => exact Nat.zero_le _
  | case2 field symbol value rest ih =>
    have longer := length_call_append done ih
    simp only [List.map_cons, List.sum_cons, Token.weight]
    omega
  | case3 field symbol rest _ ih =>
    have longer := length_call_append done ih
    simp only [List.map_cons, List.sum_cons, Token.weight]
    omega
  | case4 symbol value rest ih =>
    have longer := length_call_append done ih
    simp only [List.map_cons, List.sum_cons, Token.weight]
    omega
  | case5 symbol rest _ ih =>
    have longer := length_call_append done ih
    simp only [List.map_cons, List.sum_cons, Token.weight]
    omega
  | case6 operand rest _ _ ih =>
    obtain ⟨tail, others, same⟩ := Outcome.bind_eq_ok_iff.mp done
    cases same
    have later := ih others
    simp only [List.map_cons, List.sum_cons, Token.weight, List.length_append]
    omega
  | case7 c rest ih =>
    obtain ⟨tail, others, same⟩ := Outcome.bind_eq_ok_iff.mp done
    cases same
    have later := ih others
    simp only [List.map_cons, List.sum_cons, Token.weight, List.length_cons]
    omega

/-- **What the expansion leaves as it is**: the texts with no comparator and no percent form but behind
a backslash. -/
theorem expand_eq_self_iff {source : List Char} :
    expand source = .ok source ↔ Settled source ∧ hasForm false source = false := by
  constructor
  · intro done
    have settled := expand_settled done
    refine ⟨settled, ?_⟩
    have noEquals : '=' ∉ source := fun member => absurd (settled '=' member) (by decide)
    -- No token is a comparator, for the text would be longer.
    have longer := length_text done
    have parts : (tokens (replacePercentForms source)).flatMap Token.text = replacePercentForms source :=
      tokensFrom_text 0 _
    have replaced := length_replacePercentForms source
    have none := @comparator_notMem_of_weight (tokens (replacePercentForms source)) (by
      rw [parts]
      exact longer.trans replaced)
    have kept := text_eq_flatMap none
    rw [parts] at kept
    have same : source = replacePercentForms source := Except.ok.inj (done.symm.trans kept)
    -- So no percent form was replaced, for its comparator would be left.
    rw [Bool.eq_false_iff]
    intro formed
    obtain ⟨first, c, last, word, more, _, _, split⟩ := replacePercentForms_formed noEquals formed []
    rw [replacePercentForms_stop (by decide) (by decide), ← same] at split
    have member : '=' ∈ source ++ '(' :: replacePercentForms [] := by
      rw [split]
      simp
    have nothing : '=' ∉ '(' :: replacePercentForms [] := by decide
    exact (List.mem_append.mp member).elim noEquals nothing
  · rintro ⟨settled, noForm⟩
    exact expand_eq_self settled noForm

end Shorthand

/-! ### Arguments in quotes -/

section
variable {quote : Char} (mark : Group.isQuote quote = true) {raw : List Char} (outside : quote ∉ raw)
include mark outside

theorem Argument.isLeaf_quoted : IsLeaf (quote :: raw ++ [quote]) := by
  have solid : Text.isBlank quote = false ∧ quote ≠ '(' ∧ quote ≠ ' ' := by
    simp only [Group.isQuote, Bool.or_eq_true, decide_eq_true_eq] at mark
    rcases mark with rfl | rfl <;> decide
  refine ⟨.quoted mark outside .nil, ?_, strip_ends raw solid.1 solid.1, quote, raw ++ [quote], rfl, solid.2⟩
  rw [List.cons_append, pieces_quoted [] mark outside]
  simp [pieces, piecesFrom]

theorem Argument.unquote_quoted : unquote (quote :: raw ++ [quote]) = raw := by
  have noEscape : quote ≠ '\\' := by
    rintro rfl
    exact absurd mark (by decide)
  have inside : ∀ raw, quote ∉ raw → unquoteFrom (some quote) (raw ++ [quote]) = raw := by
    intro raw outside
    induction raw with
    | nil => simp [unquoteFrom]
    | cons c raw ih =>
      rw [List.mem_cons, not_or] at outside
      simp [unquoteFrom, Ne.symm outside.1, ih outside.2]
  rw [unquote, List.cons_append, unquoteFrom.eq_def]
  simp [noEscape, mark, inside raw outside]

/-- A quoted argument is decoded as what stands between the quotes. -/
theorem Query.argument_quoted (nested : List Char → Except Error Query) :
    argument nested (.leaf (String.ofList (quote :: raw ++ [quote]))) = Literal.value raw := by
  have noWord : Text.isWord quote = false := by
    simp only [Group.isQuote, Bool.or_eq_true, decide_eq_true_eq] at mark
    rcases mark with rfl | rfl <;> decide
  have noCall : startsCall (quote :: raw ++ [quote]) = false := by simp [startsCall, noWord]
  rw [argument, String.toList_ofList, noCall, Argument.unquote_quoted mark outside]
  rfl

end

namespace Query

/-- A call with a quoted argument. -/
theorem read_quoted {raw : List Char} (outside : '\'' ∉ raw) :
    read (callText ['e', 'q'] ('f' :: ',' :: ('\'' :: raw ++ ['\'']))) =
      (Literal.value raw).map fun decoded => ⟨"eq", [.text "f", decoded]⟩ := by
  have word : IsWord ['e', 'q'] := by decide
  have leaf := Argument.isLeaf_quoted (by decide) outside
  have field : Argument.IsLeaf ['f'] :=
    ⟨balanced_word (by decide), by decide, by decide, 'f', [], rfl, by decide, by decide⟩
  have tidy : Argument.AllTidy [.leaf (String.ofList ['f']), .leaf (String.ofList ('\'' :: raw ++ ['\'']))] := by
    simpa only [Argument.AllTidy, Argument.Tidy, String.toList_ofList, and_true] using ⟨field, leaf⟩
  have written : List.intercalate [','] (Argument.writtenAll
      [.leaf (String.ofList ['f']), .leaf (String.ofList ('\'' :: raw ++ ['\'']))]) =
      'f' :: ',' :: ('\'' :: raw ++ ['\'']) := by
    simp [Argument.writtenAll, Argument.written]
  have balanced : Group.Balanced ('f' :: ',' :: ('\'' :: raw ++ ['\''])) := by
    rw [← written]
    exact .intercalate (Argument.writtenAll_balanced tidy)
  have name : ∀ nested, argument nested (.leaf (String.ofList ['f'])) = .ok (.text "f") := fun _ => rfl
  rw [read, readWithin_call word.isName balanced, ← written, callArguments_written tidy, argumentList, name,
    Outcome.ok_bind, argumentList, argument_quoted (by decide) outside, argumentList]
  cases Literal.value raw <;> rfl

/-- **Quoted arguments.** A quoted text is decoded as its expansion, whose errors are raised too; and the
expansion is the text itself exactly if it holds no comparator and no percent form. -/
theorem parse_quoted {s : String} (outside : '\'' ∉ s.toList) :
    parse ("eq(f,'" ++ s ++ "')") = (do
      let decoded ← Literal.value (← Shorthand.expand s.toList)
      return ⟨"eq", [.text "f", decoded]⟩) ∧
    (Shorthand.expand s.toList = .ok s.toList ↔
      Shorthand.Settled s.toList ∧ Shorthand.hasForm false s.toList = false) := by
  refine ⟨?_, Shorthand.expand_eq_self_iff⟩
  have chars : ("eq(f,'" ++ s ++ "')").toList = ['e', 'q', '(', 'f', ','] ++ '\'' :: (s.toList ++ '\'' :: [')']) := by
    simp
  have front : Shorthand.expand ['e', 'q', '(', 'f', ','] = .ok ['e', 'q', '(', 'f', ','] :=
    Shorthand.expand_eq_self (by decide) (by decide)
  have back : Shorthand.expand [')'] = .ok [')'] := Shorthand.expand_eq_self (by decide) (by decide)
  rw [parse_eq (by simp [chars]) (by simp [chars]), chars, Shorthand.expand_boundary (by decide), front, Outcome.ok_bind,
    Shorthand.expand_boundary (by decide), back]
  cases done : Shorthand.expand s.toList with
  | error fault => rfl
  | ok changed =>
    have absent : '\'' ∉ changed := by
      intro member
      rcases Shorthand.expand_mem done _ member with old | word | sign
      · exact outside old
      · exact absurd word (by decide)
      · exact absurd sign (by decide)
    have call := read_quoted absent
    rw [Outcome.ok_bind]
    simp only [callText, List.cons_append, List.nil_append, List.append_assoc] at call
    simp only [Outcome.ok_bind, Outcome.pure_eq, List.cons_append, List.nil_append]
    rw [call]
    cases Literal.value changed <;> rfl

/-- A quoted text with a comma, a parenthesis, separators, a double quote and a backslash at its end. -/
theorem parse_quoted_marks :
    '\'' ∉ "a,b)&|\"\\".toList ∧
    parse ("eq(f,'" ++ "a,b)&|\"\\" ++ "')") = .ok ⟨"eq", [.text "f", .text "a,b)&|\"\\"]⟩ ∧
    Shorthand.expand "a,b)&|\"\\".toList = .ok "a,b)&|\"\\".toList ∧
    Shorthand.Settled "a,b)&|\"\\".toList ∧ Shorthand.hasForm false "a,b)&|\"\\".toList = false := by
  have outside : '\'' ∉ "a,b)&|\"\\".toList := by decide
  obtain ⟨parsed, unchanged⟩ := parse_quoted outside
  have settled : Shorthand.Settled "a,b)&|\"\\".toList ∧ Shorthand.hasForm false "a,b)&|\"\\".toList = false := by
    decide
  have expanded := unchanged.mpr settled
  have decoded : Literal.value "a,b)&|\"\\".toList = .ok (.text "a,b)&|\"\\") := by
    obtain ⟨value, done, agree⟩ := @Outcome.exists_of_any _ _ (Literal.value "a,b)&|\"\\".toList)
      (Value.same (.text "a,b)&|\"\\")) (by decide +kernel)
    rw [done, Value.same_text agree]
  rw [expanded, Outcome.ok_bind, decoded] at parsed
  exact ⟨outside, parsed, expanded, settled⟩

/-- The text that a query has as its second argument. -/
def secondText? (query : Query) : Option String :=
  match query.args with
  | [_, .text shown] => some shown
  | _ => none

/-- A comparator in quotes is not taken literally. -/
theorem parse_quoted_comparator :
    ¬ ∀ s : String, '\'' ∉ s.toList →
      parse ("eq(f,'" ++ s ++ "')") = (Literal.value s.toList).map fun decoded => ⟨"eq", [.text "f", decoded]⟩ := by
  intro literal
  have found : (parse ("eq(f,'" ++ "a=b" ++ "')")).toOption.bind secondText? = some "eq(a,b)" := by decide +kernel
  have decoded : ((Literal.value "a=b".toList).map fun decoded => Query.mk "eq" [.text "f", decoded]).toOption.bind
      secondText? = some "a=b" := by decide +kernel
  rw [literal "a=b" (by decide), decoded] at found
  exact absurd found (by decide)

end Query
end ResourceQuery
