import Mathlib.Data.List.Forall2
import ResourceQuery.Proofs.Operator.Call

/-!
Well-formed queries. The rules of the operators make up a grammar of values (`Value.WellFormed`), and
the operator of a value is its image, node for node (`Operator.Mirrors`). A value has an operator
exactly if it is well formed, and then the one that mirrors it (`Operator.check_iff_wellFormed`). What
holds of all values that are accepted is shown by `Operator.check_induction`.
-/
namespace ResourceQuery

/-- A text in lower case, as far as names of operators go: only ASCII letters become ASCII letters of such
a name. -/
def lowerCase (text : String) : String := String.ofList (text.toList.map Char.toLower)

/-- The name of a kind of operator in lower case. -/
def OperatorKind.name : OperatorKind → String
  | .comparison comparator => comparator.name
  | .logical connective => connective.name
  | .sort => "sort"
  | .select => "select"
  | .limit => "limit"
  | .cursor side => side.name

theorem OperatorKind.ofName?_eq_some_iff {name : String} {kind : OperatorKind} :
    ofName? name = some kind ↔ name = kind.name := by
  constructor
  · intro found
    unfold ofName? at found
    split at found <;> cases found <;> rfl
  · rintro rfl
    cases kind with
    | comparison comparator => cases comparator <;> rfl
    | logical connective => cases connective <;> rfl
    | cursor side => cases side <;> rfl
    | _ => rfl

theorem OperatorKind.of?_eq_some_iff {name : String} {kind : OperatorKind} :
    of? name = some kind ↔ lowerCase name = kind.name := ofName?_eq_some_iff

theorem OperatorKind.name_injective {kind other : OperatorKind} (same : kind.name = other.name) : kind = other :=
  Option.some.inj ((ofName?_eq_some_iff.mpr rfl).symm.trans (ofName?_eq_some_iff.mpr same))

namespace Value

/-- The parts of a value that are reached through lists, itself included. -/
inductive Listed : (whole part : Value) → Prop
  | self (value : Value) : Listed value value
  | item {items : List Value} {item part : Value} (member : item ∈ items) (inside : Listed item part) :
      Listed (.list items) part

/-- No query stands in a value, at any depth of lists. -/
def QueryFree (value : Value) : Prop := ∀ part, Listed value part → part.isQueryLike = false

theorem anyContainsQuery_eq_false_iff {items : List Value} :
    anyContainsQuery items = false ↔ ∀ item ∈ items, item.containsQuery = false := by
  induction items with
  | nil => simp [anyContainsQuery]
  | cons item rest ih => rw [anyContainsQuery, Bool.or_eq_false_iff, ih, List.forall_mem_cons]

theorem Listed.isQueryLike {whole part : Value} (listed : Listed whole part) (free : whole.containsQuery = false) :
    part.isQueryLike = false := by
  induction listed with
  | self value =>
    cases value with
    | list items => rfl
    | _ => exact free
  | item member _ ih => exact ih (anyContainsQuery_eq_false_iff.mp free _ member)

mutual

theorem containsQuery_of_queryFree : ∀ {value : Value}, value.QueryFree → value.containsQuery = false
  | .list _, free => anyContainsQuery_of_queryFree fun _ member _ inside => free _ (.item member inside)
  | .null, _ => rfl
  | .bool _, _ => rfl
  | .int _, _ => rfl
  | .real _, _ => rfl
  | .text _, _ => rfl
  | .moment _, _ => rfl
  | .pattern _, _ => rfl
  | .tuple _, _ => rfl
  | .mapping _, free => free _ (.self _)
  | .node _ _, free => free _ (.self _)

theorem anyContainsQuery_of_queryFree : ∀ {items : List Value}, (∀ item ∈ items, item.QueryFree) →
    anyContainsQuery items = false
  | [], _ => rfl
  | _ :: _, free => by
    rw [List.forall_mem_cons] at free
    rw [anyContainsQuery, containsQuery_of_queryFree free.1, anyContainsQuery_of_queryFree free.2]
    rfl

end

theorem containsQuery_eq_false_iff {value : Value} : value.containsQuery = false ↔ value.QueryFree :=
  ⟨fun free _ listed => listed.isQueryLike free, containsQuery_of_queryFree⟩

end Value

/-- A text that names a field, perhaps behind signs. -/
def NamesField (spec : String) : Prop := ∃ c ∈ spec.toList, c ≠ '+' ∧ c ≠ '-'

/-- The rule of each kind of operator for its arguments. -/
def OperatorKind.Admits : OperatorKind → List Value → Prop
  | .comparison _, args => ∃ field operand, args = [.text field, operand] ∧ field ≠ "" ∧ operand.QueryFree
  | .logical _, args => args ≠ [] ∧ ∀ arg ∈ args, arg.isQueryLike = true
  | .sort, args | .select, args => ∃ specs : List String, args = specs.map .text ∧ ∀ spec ∈ specs, NamesField spec
  | .limit, args => (∃ count : Nat, args = [.int count]) ∨ ∃ count skip : Nat, args = [.int count, .int skip]
  | .cursor _, args => ∃ token rest, args = .text token :: rest

/-- The values that keep the rules: a call of an operator, whose arguments keep the operator's rule, and
if it is a connective are well formed themselves. -/
inductive Value.WellFormed : Value → Prop
  | call {value : Value} {name : String} {args : List Value} {kind : OperatorKind}
      (call : value.call? = some (name, args)) (named : lowerCase name = kind.name) (rule : kind.Admits args)
      (operands : ∀ connective, kind = .logical connective → ∀ arg ∈ args, WellFormed arg) : WellFormed value

namespace Operator

/-- The kind of an operator. -/
def kind : Operator → OperatorKind
  | .comparison comparator _ _ => .comparison comparator
  | .logical connective _ => .logical connective
  | .sort _ => .sort
  | .select _ => .select
  | .limit _ _ => .limit
  | .cursor side _ => .cursor side

/-- What stands in arguments is what an operator holds, where `related` says this of operands. -/
inductive Takes (related : Value → Operator → Prop) : List Value → Operator → Prop
  | comparison {comparator : Comparator} {field : String} {operand : Value} :
      Takes related [.text field, operand] (.comparison comparator field operand)
  | logical {connective : Connective} {operands : List Operator} {args : List Value}
      (each : List.Forall₂ related args operands) : Takes related args (.logical connective operands)
  | sort {specs : List String} : Takes related (specs.map .text) (.sort specs)
  | select {specs : List String} : Takes related (specs.map .text) (.select specs)
  | limit {count : Nat} : Takes related [.int count] (.limit count none)
  | page {count skip : Nat} : Takes related [.int count, .int skip] (.limit count (some skip))
  | cursor {side : Side} {token : String} {rest : List Value} :
      Takes related (.text token :: rest) (.cursor side token)

/-- An operator is the image of a value, node for node, with names in lower case. -/
inductive Mirrors : Value → Operator → Prop
  | call {value : Value} {operator : Operator} {name : String} {args : List Value}
      (call : value.call? = some (name, args)) (named : lowerCase name = operator.kind.name)
      (taken : Takes Mirrors args operator) : Mirrors value operator

/-! ### Rules -/

theorem checkComparison_eq_ok_iff {comparator : Comparator} {name : String} {args : List Value} {operator : Operator} :
    checkComparison comparator name args = .ok operator ↔
      ∃ field operand, (args = [.text field, operand] ∧ field ≠ "" ∧ operand.QueryFree) ∧
        operator = .comparison comparator field operand := by
  constructor
  · intro accepted
    unfold checkComparison at accepted
    split at accepted
    · cases accepted
    · rename_i free
      split at accepted
      · rename_i field operand
        split at accepted
        · cases accepted
        · rename_i filled
          cases accepted
          rw [Bool.not_eq_true, Value.anyContainsQuery_eq_false_iff] at free
          have operandFree := Value.containsQuery_eq_false_iff.mp (free operand (by simp))
          exact ⟨field, operand, ⟨rfl, by simpa using filled, operandFree⟩, rfl⟩
      · cases accepted
      · cases accepted
  · rintro ⟨field, operand, ⟨rfl, filled, free⟩, rfl⟩
    have none : Value.anyContainsQuery [.text field, operand] = false := by
      rw [Value.anyContainsQuery_eq_false_iff, List.forall_mem_cons, List.forall_mem_singleton]
      exact ⟨rfl, Value.containsQuery_eq_false_iff.mpr free⟩
    simp [checkComparison, none, filled]

theorem mapM_text?_eq_some_iff {args : List Value} {specs : List String} :
    args.mapM text? = some specs ↔ args = specs.map .text := by
  induction args generalizing specs with
  | nil => cases specs <;> simp
  | cons value rest ih =>
    rw [List.mapM_cons]
    constructor
    · intro read
      obtain ⟨spec, first, later⟩ := Option.bind_eq_some_iff.mp read
      obtain ⟨others, more, same⟩ := Option.bind_eq_some_iff.mp later
      cases same
      cases value with
      | text s =>
        cases first
        rw [ih.mp more]
        rfl
      | _ => cases first
    · intro same
      cases specs with
      | nil => cases same
      | cons spec others =>
        obtain ⟨rfl, more⟩ := List.cons.inj same
        rw [ih.mpr more]
        rfl

theorem text_injective : Function.Injective (List.map Value.text) := List.map_injective_iff.mpr fun _ _ => Value.text.inj

theorem namesField_iff {spec : String} : namesField spec = true ↔ NamesField spec := by
  simp [namesField, NamesField]

theorem checkFields_eq_ok_iff {name : String} {args : List Value} {specs : List String} :
    checkFields name args = .ok specs ↔ args = specs.map .text ∧ ∀ spec ∈ specs, NamesField spec := by
  rw [← mapM_text?_eq_some_iff, checkFields]
  constructor
  · intro accepted
    split at accepted
    · cases accepted
    · rename_i read
      split at accepted
      · rename_i named
        cases accepted
        exact ⟨read, fun spec member => namesField_iff.mp (List.all_eq_true.mp named spec member)⟩
      · cases accepted
  · rintro ⟨read, named⟩
    have all : specs.all namesField = true := List.all_eq_true.mpr fun spec member => namesField_iff.mpr (named spec member)
    rw [read]
    exact if_pos all

/-- Fields that are checked make the operator that holds their texts. -/
theorem checkFields_map_eq_ok_iff {make : List String → Operator} {name : String} {args : List Value} {operator : Operator} :
    (checkFields name args).map make = .ok operator ↔
      ∃ specs, args = specs.map .text ∧ (∀ spec ∈ specs, NamesField spec) ∧ operator = make specs := by
  simp only [Outcome.map_eq_ok_iff, checkFields_eq_ok_iff, and_assoc, @eq_comm _ operator]

theorem count?_eq_some_iff {value : Value} {count : Nat} : count? value = some count ↔ value = .int count := by
  constructor
  · intro counted
    unfold count? at counted
    split at counted
    · split at counted
      · rename_i positive
        cases counted
        rw [Int.toNat_of_nonneg positive]
      · cases counted
    · cases counted
  · rintro rfl
    simp [count?]

theorem checkLimit_eq_ok_iff {name : String} {args : List Value} {operator : Operator} :
    checkLimit name args = .ok operator ↔
      (∃ count : Nat, args = [.int count] ∧ operator = .limit count none) ∨
        ∃ count skip : Nat, args = [.int count, .int skip] ∧ operator = .limit count (some skip) := by
  constructor
  · intro accepted
    unfold checkLimit at accepted
    split at accepted
    · cases accepted
    · split at accepted
      · cases accepted
      · rename_i counted
        cases accepted
        exact .inl ⟨_, by rw [count?_eq_some_iff.mp counted], rfl⟩
      · rename_i counted
        split at accepted
        · cases accepted
        · rename_i skipped
          split at accepted
          · rename_i alone
            cases accepted
            rw [count?_eq_some_iff.mp counted, count?_eq_some_iff.mp skipped, List.isEmpty_iff.mp alone]
            exact .inr ⟨_, _, rfl, rfl⟩
          · cases accepted
  · rintro (⟨count, rfl, rfl⟩ | ⟨count, skip, rfl, rfl⟩)
    · simp [checkLimit, count?]
    · simp [checkLimit, count?]

theorem checkCursor_eq_ok_iff {side : Side} {name : String} {args : List Value} {operator : Operator} :
    checkCursor side name args = .ok operator ↔ ∃ token rest, args = .text token :: rest ∧ operator = .cursor side token := by
  constructor
  · intro accepted
    unfold checkCursor at accepted
    split at accepted
    · cases accepted
      exact ⟨_, _, rfl, rfl⟩
    · cases accepted
  · rintro ⟨token, rest, rfl, rfl⟩
    rfl

/-- A value is accepted as an operator. -/
def Accepted (value : Value) (operator : Operator) : Prop := check value = .ok operator

/-- A call is accepted if it has the name of the operator, its arguments keep the rule, and they are what the
operator holds. -/
theorem ofCall_eq_ok_iff {name : String} {args : List Value} {operator : Operator} :
    ofCall name args (checkAll args) = .ok operator ↔
      lowerCase name = operator.kind.name ∧ operator.kind.Admits args ∧ Takes Accepted args operator := by
  constructor
  · intro accepted
    cases found : OperatorKind.of? name with
    | none =>
      rw [ofCall, found] at accepted
      cases accepted
    | some kind =>
      have named := OperatorKind.of?_eq_some_iff.mp found
      cases kind with
      | logical connective =>
        obtain ⟨filled, operands, checked, rfl⟩ := (ofCall_logical found).mp accepted
        exact ⟨named, ⟨filled, isQueryLike_of_checkAll checked⟩, .logical (checkAll_eq_ok_iff.mp checked)⟩
      | comparison comparator =>
        rw [ofCall, found] at accepted
        obtain ⟨field, operand, ⟨rfl, rule⟩, rfl⟩ := checkComparison_eq_ok_iff.mp accepted
        exact ⟨named, ⟨field, operand, rfl, rule⟩, .comparison⟩
      | sort =>
        rw [ofCall, found] at accepted
        obtain ⟨specs, rfl, filled, rfl⟩ := checkFields_map_eq_ok_iff.mp accepted
        exact ⟨named, ⟨specs, rfl, filled⟩, .sort⟩
      | select =>
        rw [ofCall, found] at accepted
        obtain ⟨specs, rfl, filled, rfl⟩ := checkFields_map_eq_ok_iff.mp accepted
        exact ⟨named, ⟨specs, rfl, filled⟩, .select⟩
      | limit =>
        rw [ofCall, found] at accepted
        rcases checkLimit_eq_ok_iff.mp accepted with ⟨count, rfl, rfl⟩ | ⟨count, skip, rfl, rfl⟩
        · exact ⟨named, .inl ⟨count, rfl⟩, .limit⟩
        · exact ⟨named, .inr ⟨count, skip, rfl⟩, .page⟩
      | cursor side =>
        rw [ofCall, found] at accepted
        obtain ⟨token, rest, rfl, rfl⟩ := checkCursor_eq_ok_iff.mp accepted
        exact ⟨named, ⟨token, rest, rfl⟩, .cursor⟩
  · rintro ⟨named, rule, taken⟩
    have found := OperatorKind.of?_eq_some_iff.mpr named
    cases taken with
    | logical each =>
      exact (ofCall_logical found).mpr ⟨rule.1, _, checkAll_eq_ok_iff.mpr each, rfl⟩
    | comparison =>
      obtain ⟨field, operand, same, rest⟩ := rule
      cases same
      rw [ofCall, found]
      exact checkComparison_eq_ok_iff.mpr ⟨_, _, ⟨rfl, rest⟩, rfl⟩
    | sort =>
      obtain ⟨specs, same, filled⟩ := rule
      obtain rfl := text_injective same
      rw [ofCall, found]
      exact checkFields_map_eq_ok_iff.mpr ⟨_, rfl, filled, rfl⟩
    | select =>
      obtain ⟨specs, same, filled⟩ := rule
      obtain rfl := text_injective same
      rw [ofCall, found]
      exact checkFields_map_eq_ok_iff.mpr ⟨_, rfl, filled, rfl⟩
    | limit =>
      rw [ofCall, found]
      exact checkLimit_eq_ok_iff.mpr (.inl ⟨_, rfl, rfl⟩)
    | page =>
      rw [ofCall, found]
      exact checkLimit_eq_ok_iff.mpr (.inr ⟨_, _, rfl, rfl⟩)
    | cursor =>
      rw [ofCall, found]
      exact checkCursor_eq_ok_iff.mpr ⟨_, _, rfl, rfl⟩

/-! ### Values -/

theorem check_eq_ok_iff_call {value : Value} {operator : Operator} :
    check value = .ok operator ↔
      ∃ name args, value.call? = some (name, args) ∧ lowerCase name = operator.kind.name ∧ operator.kind.Admits args ∧
        Takes Accepted args operator := by
  constructor
  · intro accepted
    obtain ⟨name, args, call⟩ := call?_of_check accepted
    exact ⟨name, args, call, ofCall_eq_ok_iff.mp (check_call call ▸ accepted)⟩
  · rintro ⟨name, args, call, keeps⟩
    rw [check_call call]
    exact ofCall_eq_ok_iff.mpr keeps

/-- The arguments of a value are smaller than the value. -/
theorem sizeOf_lt_of_call? {value arg : Value} {name : String} {args : List Value}
    (call : value.call? = some (name, args)) (member : arg ∈ args) : sizeOf arg < sizeOf value := by
  have inside := List.sizeOf_lt_of_mem member
  cases value with
  | node head items =>
    cases head with
    | text s =>
      cases call
      simp
      omega
    | _ => cases call
  | mapping entries =>
    obtain ⟨before, after, rfl, _⟩ := List.lookup_eq_some_iff.mp (Value.lookup_of_call? call)
    have entry : sizeOf ("args", Value.list args) < sizeOf (before ++ ("args", Value.list args) :: after) :=
      List.sizeOf_lt_of_mem (by simp)
    simp at entry ⊢
    omega
  | _ => cases call

section
variable {related other : Value → Operator → Prop} {args : List Value} {operator : Operator}

theorem Takes.imp (taken : Takes related args operator)
    (each : ∀ connective, operator.kind = .logical connective →
      ∀ arg ∈ args, ∀ operand, related arg operand → other arg operand) : Takes other args operator := by
  cases taken with
  | logical operands =>
    have both := (List.forall₂_and_left _ _).mpr ⟨each _ rfl, operands⟩
    exact .logical (both.imp fun _ _ step => step.1 _ step.2)
  | comparison => exact .comparison
  | sort => exact .sort
  | select => exact .select
  | limit => exact .limit
  | page => exact .page
  | cursor => exact .cursor

/-- What a connective takes are all its arguments. -/
theorem Takes.operands {holds : Value → Prop} (taken : Takes (fun arg _ => holds arg) args operator)
    {connective : Connective} (kind : operator.kind = .logical connective) : ∀ arg ∈ args, holds arg := by
  cases taken with
  | logical each =>
    clear kind
    induction each with
    | nil => simp
    | cons first _ ih => exact List.forall_mem_cons.mpr ⟨first, ih⟩
  | _ => cases kind

/-- Arguments that keep the rule of a kind are those of an operator of the kind. -/
theorem exists_takes {kind : OperatorKind} (rule : kind.Admits args)
    (each : ∀ connective, kind = .logical connective → ∃ operands, List.Forall₂ related args operands) :
    ∃ operator, operator.kind = kind ∧ Takes related args operator := by
  cases kind with
  | comparison comparator =>
    obtain ⟨field, operand, rfl, _⟩ := rule
    exact ⟨_, rfl, .comparison⟩
  | logical connective =>
    obtain ⟨operands, each⟩ := each _ rfl
    exact ⟨_, rfl, .logical each⟩
  | sort =>
    obtain ⟨specs, rfl, _⟩ := rule
    exact ⟨_, rfl, .sort⟩
  | select =>
    obtain ⟨specs, rfl, _⟩ := rule
    exact ⟨_, rfl, .select⟩
  | limit =>
    rcases rule with ⟨count, rfl⟩ | ⟨count, skip, rfl⟩
    · exact ⟨_, rfl, .limit⟩
    · exact ⟨_, rfl, .page⟩
  | cursor side =>
    obtain ⟨token, rest, rfl⟩ := rule
    exact ⟨_, rfl, .cursor⟩

end

/-- What holds of a call that keeps its rule as soon as it holds of the operands, holds of every value that
is accepted. -/
theorem check_induction {motive : Value → Operator → Prop}
    (step : ∀ {value operator name args}, value.call? = some (name, args) → lowerCase name = operator.kind.name →
      operator.kind.Admits args → Takes motive args operator → motive value operator)
    {value : Value} {operator : Operator} (accepted : check value = .ok operator) : motive value operator := by
  obtain ⟨name, args, call, named, rule, taken⟩ := check_eq_ok_iff_call.mp accepted
  exact step call named rule (taken.imp fun _ _ arg member _ => check_induction step)
termination_by sizeOf value
decreasing_by exact sizeOf_lt_of_call? call member

theorem wellFormed_of_check {value : Value} {operator : Operator} (accepted : check value = .ok operator) :
    value.WellFormed := by
  refine @check_induction (fun value _ => value.WellFormed) ?_ _ _ accepted
  intro value operator name args call named rule taken
  exact .call call named rule fun connective kind => taken.operands kind

theorem mirrors_of_check {value : Value} {operator : Operator} (accepted : check value = .ok operator) :
    operator.Mirrors value :=
  check_induction (fun call named _ taken => .call call named taken) accepted

theorem exists_checkAll {args : List Value} (each : ∀ arg ∈ args, ∃ operand, check arg = .ok operand) :
    ∃ operands, checkAll args = .ok operands := by
  induction args with
  | nil => exact ⟨[], rfl⟩
  | cons arg rest ih =>
    rw [List.forall_mem_cons] at each
    obtain ⟨⟨head, accepted⟩, later⟩ := each
    obtain ⟨tail, checked⟩ := ih later
    exact ⟨head :: tail, checkAll_cons_eq_ok_iff.mpr ⟨head, tail, accepted, checked, rfl⟩⟩

theorem exists_check {value : Value} (wellFormed : value.WellFormed) : ∃ operator, check value = .ok operator := by
  induction wellFormed with
  | @call value name args kind call named rule _ ih =>
    have operands : ∀ connective, kind = .logical connective → ∃ operands, List.Forall₂ Accepted args operands := by
      intro connective same
      obtain ⟨operands, checked⟩ := exists_checkAll (ih connective same)
      exact ⟨operands, checkAll_eq_ok_iff.mp checked⟩
    obtain ⟨operator, rfl, taken⟩ := exists_takes rule operands
    exact ⟨operator, check_eq_ok_iff_call.mpr ⟨name, args, call, named, rule, taken⟩⟩

/-- A well-formed value is accepted as every operator that mirrors it. -/
theorem check_of_mirrors {value : Value} (wellFormed : value.WellFormed) {operator : Operator}
    (mirrors : operator.Mirrors value) : check value = .ok operator := by
  induction wellFormed generalizing operator with
  | @call value name args kind call named rule _ ih =>
    obtain ⟨other, renamed, taken⟩ := mirrors
    cases call.symm.trans other
    obtain rfl := OperatorKind.name_injective (named.symm.trans renamed)
    exact check_eq_ok_iff_call.mpr ⟨name, args, call, named, rule,
      taken.imp fun connective same arg member _ => ih connective same arg member⟩

/-- **The grammar of queries.** A value has an operator exactly if it is well formed, and its operator is the
one that mirrors it node for node. -/
theorem check_iff_wellFormed (value : Value) :
    ((∃ operator, check value = .ok operator) ↔ value.WellFormed) ∧
      ∀ operator, check value = .ok operator ↔ value.WellFormed ∧ operator.Mirrors value := by
  refine ⟨⟨?_, exists_check⟩, fun operator => ⟨fun accepted => ?_, fun both => check_of_mirrors both.1 both.2⟩⟩
  · rintro ⟨operator, accepted⟩
    exact wellFormed_of_check accepted
  · exact ⟨wellFormed_of_check accepted, mirrors_of_check accepted⟩

end Operator
end ResourceQuery
