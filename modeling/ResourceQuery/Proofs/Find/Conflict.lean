import Mathlib.Data.List.Perm.Basic
import ResourceQuery.Proofs.Find.Content
import ResourceQuery.Proofs.Operator.Call

/-!
When a query is refused for a conflict. What is found in criteria when an operator is added depends
on the order in which operators came and on their values, but whether some operator is refused does
not: it is a matter of which places a scope fills (`FindQuery.compile_conflict`). `Value.Rearranged`
relates queries with the operands of connectives in another order and with other values in
comparisons; a rearranged query has an operator that is alike (`Value.Rearranged.check`), which
fills the same places in each scope.
-/
namespace ResourceQuery
open Operator

/-- A query with operands in another order, or with other values in comparisons. -/
inductive Value.Rearranged : Value → Value → Prop
  | refl (value : Value) : Rearranged value value
  | trans {one two three : Value} (first : Rearranged one two) (second : Rearranged two three) : Rearranged one three
  | permuted {value other : Value} {name : String} {args others : List Value} {connective : Connective}
    (old : value.call? = some (name, args)) (new : other.call? = some (name, others))
    (kind : OperatorKind.of? name = some (.logical connective)) (order : args.Perm others) : Rearranged value other
  | replaced {value other : Value} {name : String} {field operand replacement : Value} {comparator : Comparator}
    (old : value.call? = some (name, [field, operand])) (new : other.call? = some (name, [field, replacement]))
    (kind : OperatorKind.of? name = some (.comparison comparator)) (plain : replacement.containsQuery = false) :
    Rearranged value other
  | inside {value other : Value} {name : String} {before after : List Value} {operand replacement : Value}
    {connective : Connective} (old : value.call? = some (name, before ++ operand :: after))
    (new : other.call? = some (name, before ++ replacement :: after))
    (kind : OperatorKind.of? name = some (.logical connective)) (within : Rearranged operand replacement) :
    Rearranged value other

namespace Operator

/-- An operator fills a place that another one fills as well, and selects only if the other does. -/
def Matches (operator other : Operator) : Prop :=
  operator.slot? = other.slot? ∧ ∀ specs, operator = .select specs → ∃ fields, other = .select fields

/-- Whatever is done in a scope is done in another one, with whatever values. -/
def Covered (scope other : List Operator) : Prop := ∀ operator ∈ scope, ∃ partner ∈ other, Matches operator partner

/-- Whatever is done in the scopes of an operator is done in those of another one. -/
structure Within (operator other : Operator) : Prop where
  scope : Covered operator.scope other.scope
  innerScopes : ∀ scope ∈ operator.innerScopes, ∃ wider ∈ other.innerScopes, Covered scope wider

/-- The same is done in the scopes of two operators. -/
def Alike (operator other : Operator) : Prop := Within operator other ∧ Within other operator

theorem Matches.refl (operator : Operator) : Matches operator operator := ⟨rfl, fun specs same => ⟨specs, same⟩⟩

theorem Covered.refl (scope : List Operator) : Covered scope scope :=
  fun operator member => ⟨operator, member, .refl operator⟩

theorem Covered.trans {one two three : List Operator} (first : Covered one two) (second : Covered two three) :
    Covered one three := by
  intro operator member
  obtain ⟨partner, inside, fills, selects⟩ := first operator member
  obtain ⟨last, found, same, later⟩ := second partner inside
  refine ⟨last, found, fills.trans same, fun specs selected => ?_⟩
  obtain ⟨fields, chosen⟩ := selects specs selected
  exact later fields chosen

theorem Within.refl (operator : Operator) : Within operator operator :=
  ⟨.refl _, fun scope member => ⟨scope, member, .refl scope⟩⟩

theorem Within.trans {one two three : Operator} (first : Within one two) (second : Within two three) :
    Within one three where
  scope := first.scope.trans second.scope
  innerScopes scope member := by
    obtain ⟨wider, inside, covered⟩ := first.innerScopes scope member
    obtain ⟨last, found, more⟩ := second.innerScopes wider inside
    exact ⟨last, found, covered.trans more⟩

theorem Alike.refl (operator : Operator) : Alike operator operator := ⟨.refl _, .refl _⟩

theorem Alike.trans {one two three : Operator} (first : Alike one two) (second : Alike two three) : Alike one three :=
  ⟨first.1.trans second.1, second.2.trans first.2⟩

theorem mem_scopeAll {operators : List Operator} {operator : Operator} :
    operator ∈ scopeAll operators ↔ ∃ operand ∈ operators, operator ∈ operand.scope := by
  induction operators with
  | nil => simp [scopeAll]
  | cons operand rest ih => simp [scopeAll, ih]

theorem mem_innerScopesAll {operators : List Operator} {scope : List Operator} :
    scope ∈ innerScopesAll operators ↔ ∃ operand ∈ operators, scope ∈ operand.innerScopes := by
  induction operators with
  | nil => simp [innerScopesAll]
  | cons operand rest ih => simp [innerScopesAll, ih]

theorem mem_branchScopes {operators : List Operator} {scope : List Operator} :
    scope ∈ branchScopes operators ↔ ∃ operand ∈ operators, scope ∈ operand.scopes := by
  induction operators with
  | nil => simp [branchScopes]
  | cons operand rest ih => simp [branchScopes, scopes, ih, or_assoc]

/-- Every scope of an operator is covered by one of an operator that it is within. -/
theorem Within.scopes {operator other : Operator} (within : Within operator other) :
    ∀ scope ∈ operator.scopes, ∃ wider ∈ other.scopes, Covered scope wider := by
  refine List.forall_mem_cons.mpr ⟨⟨_, List.mem_cons_self, within.scope⟩, fun scope member => ?_⟩
  obtain ⟨wider, inside, covered⟩ := within.innerScopes scope member
  exact ⟨wider, List.mem_cons_of_mem _ inside, covered⟩

/-- A connective is within another one if each operand is within some operand of the other. -/
theorem Within.logical (connective : Connective) {operands others : List Operator}
    (each : ∀ operand ∈ operands, ∃ other ∈ others, Within operand other) :
    Within (.logical connective operands) (.logical connective others) := by
  cases connective with
  | and =>
    constructor
    · intro operator member
      obtain ⟨operand, inside, here⟩ := mem_scopeAll.mp member
      obtain ⟨other, found, within⟩ := each operand inside
      obtain ⟨partner, placed, same⟩ := within.scope operator here
      exact ⟨partner, mem_scopeAll.mpr ⟨other, found, placed⟩, same⟩
    · intro scope member
      obtain ⟨operand, inside, here⟩ := mem_innerScopesAll.mp member
      obtain ⟨other, found, within⟩ := each operand inside
      obtain ⟨wider, placed, covered⟩ := within.innerScopes scope here
      exact ⟨wider, mem_innerScopesAll.mpr ⟨other, found, placed⟩, covered⟩
  | or =>
    constructor
    · refine List.forall_mem_singleton.mpr ⟨_, List.mem_cons_self, rfl, ?_⟩
      rintro specs ⟨⟩
    · intro scope member
      obtain ⟨operand, inside, here⟩ := mem_branchScopes.mp member
      obtain ⟨other, found, within⟩ := each operand inside
      obtain ⟨wider, placed, covered⟩ := within.scopes scope here
      exact ⟨wider, mem_branchScopes.mpr ⟨other, found, placed⟩, covered⟩

/-- Each of several operators is like one of others, and each of these is like one of them. -/
structure Paired (operators others : List Operator) : Prop where
  there : ∀ operator ∈ operators, ∃ other ∈ others, Alike operator other
  back : ∀ other ∈ others, ∃ operator ∈ operators, Alike operator other

theorem Paired.of_perm {operators others : List Operator} (order : operators.Perm others) : Paired operators others where
  there operator member := ⟨operator, order.mem_iff.mp member, .refl operator⟩
  back other member := ⟨other, order.mem_iff.mpr member, .refl other⟩

theorem Paired.cons {operator other : Operator} {operators others : List Operator} (alike : Alike operator other)
    (paired : Paired operators others) : Paired (operator :: operators) (other :: others) where
  there := by
    refine List.forall_mem_cons.mpr ⟨⟨other, List.mem_cons_self, alike⟩, fun each member => ?_⟩
    obtain ⟨partner, found, same⟩ := paired.there each member
    exact ⟨partner, List.mem_cons_of_mem _ found, same⟩
  back := by
    refine List.forall_mem_cons.mpr ⟨⟨operator, List.mem_cons_self, alike⟩, fun each member => ?_⟩
    obtain ⟨partner, found, same⟩ := paired.back each member
    exact ⟨partner, List.mem_cons_of_mem _ found, same⟩

theorem Alike.logical (connective : Connective) {operands others : List Operator} (paired : Paired operands others) :
    Alike (.logical connective operands) (.logical connective others) := by
  constructor
  · exact .logical connective fun operand member => (paired.there operand member).imp fun _ both => ⟨both.1, both.2.1⟩
  · exact .logical connective fun other member => (paired.back other member).imp fun _ both => ⟨both.1, both.2.2⟩

theorem Alike.comparison (comparator : Comparator) (field : String) (value other : Value) :
    Alike (.comparison comparator field value) (.comparison comparator field other) := by
  have one (old new : Value) : Within (.comparison comparator field old) (.comparison comparator field new) := by
    refine ⟨List.forall_mem_singleton.mpr ⟨_, List.mem_cons_self, rfl, ?_⟩, fun scope member => ?_⟩
    · rintro specs ⟨⟩
    · cases member
  exact ⟨one value other, one other value⟩

theorem Covered.clashes {scope wider : List Operator} (covered : Covered scope wider) {field : String}
    (clash : Clashes scope field) : Clashes wider field := by
  refine clash.mono fun slot member => ?_
  obtain ⟨operator, inside, fills⟩ := mem_places.mp member
  obtain ⟨partner, found, same, _⟩ := covered operator inside
  exact mem_places.mpr ⟨partner, found, same ▸ fills⟩

theorem Within.clashes {operator other : Operator} (within : Within operator other)
    (clash : ∃ scope ∈ operator.scopes, ∃ field, Clashes scope field) :
    ∃ scope ∈ other.scopes, ∃ field, Clashes scope field := by
  obtain ⟨scope, member, field, clashes⟩ := clash
  obtain ⟨wider, inside, covered⟩ := within.scopes scope member
  exact ⟨wider, inside, field, covered.clashes clashes⟩

/-- Nothing is selected in an operator that is within one in which nothing is. -/
theorem Within.noSelection {operator other : Operator} (within : Within operator other)
    (none : ∀ scope ∈ other.scopes, ∀ specs, .select specs ∉ scope) :
    ∀ scope ∈ operator.scopes, ∀ specs, .select specs ∉ scope := by
  intro scope member specs selected
  obtain ⟨wider, inside, covered⟩ := within.scopes scope member
  obtain ⟨partner, found, _, selects⟩ := covered _ selected
  obtain ⟨fields, rfl⟩ := selects specs rfl
  exact none wider inside fields found

/-! ### Rearranged queries -/

theorem checkAll_permuted {args others : List Value} {operands : List Operator} (order : args.Perm others)
    (checked : checkAll args = .ok operands) : ∃ moved, checkAll others = .ok moved ∧ operands.Perm moved := by
  obtain ⟨moved, each, same⟩ := List.perm_comp_forall₂ order.symm (checkAll_eq_ok_iff.mp checked)
  exact ⟨moved, checkAll_eq_ok_iff.mpr each, same.symm⟩

theorem checkAll_inside {operand replacement : Value} {after : List Value}
    (exchanged : ∀ operator, check operand = .ok operator → ∃ other, check replacement = .ok other ∧ Alike operator other)
    (before : List Value) {operands : List Operator} (checked : checkAll (before ++ operand :: after) = .ok operands) :
    ∃ others, checkAll (before ++ replacement :: after) = .ok others ∧ Paired operands others := by
  induction before generalizing operands with
  | nil =>
    obtain ⟨operator, accepted, rest⟩ := Outcome.bind_eq_ok_iff.mp checked
    obtain ⟨tail, more, same⟩ := Outcome.bind_eq_ok_iff.mp rest
    cases same
    obtain ⟨other, found, alike⟩ := exchanged operator accepted
    exact ⟨other :: tail, by simp [checkAll, found, more], .cons alike (.of_perm (.refl tail))⟩
  | cons value before ih =>
    obtain ⟨operator, accepted, rest⟩ := Outcome.bind_eq_ok_iff.mp checked
    obtain ⟨tail, more, same⟩ := Outcome.bind_eq_ok_iff.mp rest
    cases same
    obtain ⟨others, found, paired⟩ := ih more
    exact ⟨operator :: others, by simp [checkAll, accepted, found], .cons (.refl operator) paired⟩

end Operator

/-- A rearranged query has an operator that is alike. -/
theorem Value.Rearranged.check {value other : Value} (rearranged : value.Rearranged other) :
    ∀ operator, Operator.check value = .ok operator →
      ∃ moved, Operator.check other = .ok moved ∧ Alike operator moved := by
  induction rearranged with
  | refl value => exact fun operator valid => ⟨operator, valid, .refl operator⟩
  | trans first second ihFirst ihSecond =>
    intro operator valid
    obtain ⟨middle, checked, alike⟩ := ihFirst operator valid
    obtain ⟨last, done, more⟩ := ihSecond middle checked
    exact ⟨last, done, alike.trans more⟩
  | @permuted value other name args others connective old new kind order =>
    intro operator valid
    rw [check_call old, ofCall_logical kind] at valid
    obtain ⟨some, operands, checked, rfl⟩ := valid
    obtain ⟨moved, found, same⟩ := checkAll_permuted order checked
    have accepted := (ofCall_logical kind).mpr ⟨fun none => some (order.trans (.of_eq none)).eq_nil, moved, found, rfl⟩
    exact ⟨_, (check_call new).trans accepted, .logical connective (.of_perm same)⟩
  | replaced old new kind plain =>
    intro operator valid
    rw [check_call old] at valid
    obtain ⟨path, rfl, accepted⟩ := ofCall_comparison kind plain valid _
    exact ⟨_, (check_call new).trans accepted, .comparison _ path _ _⟩
  | inside old new kind within ih =>
    intro operator valid
    rw [check_call old, ofCall_logical kind] at valid
    obtain ⟨_, operands, checked, rfl⟩ := valid
    obtain ⟨others, found, paired⟩ := checkAll_inside ih _ checked
    have accepted := (ofCall_logical kind).mpr ⟨by simp, others, found, rfl⟩
    exact ⟨_, (check_call new).trans accepted, .logical _ paired⟩

namespace FindQuery
variable {idField : String}

/-- A query in which nothing is selected is refused for a conflict if a scope clashes, and only then. -/
theorem conflict_iff {value : Value} {operator : Operator} (valid : Operator.check value = .ok operator)
    (plain : ∀ scope ∈ operator.scopes, ∀ specs, .select specs ∉ scope) :
    (∃ cause, compile idField value = .error (.conflict cause)) ↔
      ∃ scope ∈ operator.scopes, ∃ field, Clashes scope field := by
  have settled := @compile_settles idField _ _ valid
  cases done : compile idField value with
  | ok found =>
    rw [done] at settled
    simp only [reduceCtorEq, exists_false, false_iff]
    rintro ⟨scope, member, field, clash⟩
    exact settled.1 scope member field clash
  | error fault =>
    rw [done] at settled
    cases fault with
    | conflict cause =>
      obtain ⟨scope, member, clash⟩ := settled
      exact iff_of_true ⟨cause, rfl⟩ ⟨scope, member, _, clash⟩
    | rule fault =>
      obtain ⟨scope, member, specs, selected⟩ := settled
      exact absurd selected (plain scope member specs)
    | _ => cases settled

/-- **Conflicts.** A query with a scope that clashes is never taken. One that is refused for a
conflict has a scope in which the field of the conflict clashes. Unless something is selected, which
may be refused before, a query is refused for a conflict exactly if a scope clashes, and so are all
rearranged ones. -/
theorem compile_conflict {value : Value} {operator : Operator} (valid : Operator.check value = .ok operator) :
    ((∃ scope ∈ operator.scopes, ∃ field, Clashes scope field) → ∀ found, compile idField value ≠ .ok found) ∧
    (∀ cause, compile idField value = .error (.conflict cause) → ∃ scope ∈ operator.scopes, Clashes scope cause.field) ∧
    ((∀ scope ∈ operator.scopes, ∀ specs, .select specs ∉ scope) →
      ((∃ cause, compile idField value = .error (.conflict cause)) ↔
        ∃ scope ∈ operator.scopes, ∃ field, Clashes scope field) ∧
      ∀ other, value.Rearranged other →
        ((∃ cause, compile idField other = .error (.conflict cause)) ↔
          ∃ cause, compile idField value = .error (.conflict cause))) := by
  have settled := @compile_settles idField _ _ valid
  refine ⟨?_, ?_, fun plain => ⟨conflict_iff valid plain, ?_⟩⟩
  · rintro ⟨scope, member, field, clash⟩ found compiled
    rw [compiled] at settled
    exact settled.1 scope member field clash
  · intro cause refused
    rw [refused] at settled
    exact settled
  · intro other rearranged
    obtain ⟨moved, checked, alike⟩ := rearranged.check operator valid
    rw [conflict_iff valid plain, conflict_iff checked (alike.2.noSelection plain)]
    exact ⟨alike.2.clashes, alike.1.clashes⟩

/-- An equality with an object that looks like a comparison, and a comparison of the same field below
another conjunction. -/
theorem compile_conflict_object :
    ∃ (value : Value) (operator : Operator), value = .node (.text "and") [
        .node (.text "EQ") [.text "a", .mapping [("$gt", .int 1)]],
        .node (.text "or") [.node (.text "ne") [.text "a", .int 2], .node (.text "in") [.text "b", .null]],
        .mapping [("name", .text "and"), ("args", .list [.node (.text "lt") [.text "a", .null]])]] ∧
      Operator.check value = .ok operator ∧
      compile "_id" value = .error (.conflict (.afterEquality "lt" "a")) ∧
      (∃ scope ∈ operator.scopes, Clashes scope "a") ∧
      ∀ other, value.Rearranged other → ∃ cause, compile "_id" other = .error (.conflict cause) := by
  refine ⟨_, ?operator, rfl, ?valid, ?refused, (compile_conflict ?valid).2.1 _ ?refused, fun other rearranged =>
    (((compile_conflict ?valid).2.2 ?plain).2 other rearranged).mpr ⟨.afterEquality "lt" "a", ?refused⟩⟩
  case valid => rfl
  case refused => rfl
  case plain => simp [scopes, scope, scopeAll, innerScopes, innerScopesAll, branchScopes]

end FindQuery
end ResourceQuery
