import ResourceQuery.Find.Compile
import ResourceQuery.Proofs.Operator.Call

/-!
How conjunctions are grouped. A conjunction adds its operands one after the other to one find query,
so one that stands inside of another does what its operands would do in its place, and one with a
single operand does what the operand does. `Value.Regrouped` relates queries that differ in such
groups at any depth. A regrouped query has the same outcome (`FindQuery.compile_regrouped`): the same
find query, with all its entries in the same order, or the same error.
-/
namespace ResourceQuery

/-- A query whose conjunctions are grouped in another way. -/
inductive Value.Regrouped : Value → Value → Prop
  | refl (value : Value) : Regrouped value value
  | symm {value other : Value} (regrouped : Regrouped value other) : Regrouped other value
  | trans {one two three : Value} (first : Regrouped one two) (second : Regrouped two three) : Regrouped one three
  /-- The operands of a conjunction stand in its place inside of another one. -/
  | flattened {value other group : Value} {name inner : String} {before operands after : List Value}
    (old : value.call? = some (name, before ++ group :: after)) (kind : OperatorKind.of? name = some (.logical .and))
    (nested : group.call? = some (inner, operands)) (innerKind : OperatorKind.of? inner = some (.logical .and))
    (filled : operands ≠ []) (new : other.call? = some (name, before ++ operands ++ after)) : Regrouped value other
  /-- A query is the only operand of a conjunction. -/
  | wrapped {value other : Value} {name : String} (new : other.call? = some (name, [value]))
    (kind : OperatorKind.of? name = some (.logical .and)) : Regrouped value other
  | inside {value other : Value} {name : String} {before after : List Value} {operand replacement : Value}
    {connective : Connective} (old : value.call? = some (name, before ++ operand :: after))
    (new : other.call? = some (name, before ++ replacement :: after))
    (kind : OperatorKind.of? name = some (.logical connective)) (within : Regrouped operand replacement) :
    Regrouped value other

namespace FindQuery

/-- Operators are added in two runs as well as in one. -/
theorem addAll_append (idField : String) (front back : List Operator) (query : FindQuery) :
    addAll idField (front ++ back) query = addAll idField front query >>= addAll idField back := by
  induction front generalizing query with
  | nil => rfl
  | cons operator rest ih =>
    rw [List.cons_append, addAll, addAll]
    cases added : add idField operator query with
    | error fault => rfl
    | ok middle => exact ih middle

theorem addEach_append (idField : String) (front back : List Operator) (options : FindOptions) :
    addEach idField (front ++ back) options = do
      let (options, alternatives) ← addEach idField front options
      let (options, more) ← addEach idField back options
      return (options, alternatives ++ more) := by
  induction front generalizing options with
  | nil => cases done : addEach idField back options <;> simp [addEach, done]
  | cons operator rest ih =>
    rw [List.cons_append, addEach, addEach]
    cases added : add idField operator ⟨[], options⟩ with
    | error fault => rfl
    | ok branch =>
      rw [Outcome.ok_bind, Outcome.ok_bind, ih]
      cases first : addEach idField rest branch.options with
      | error fault => rfl
      | ok each => cases second : addEach idField back each.1 <;> simp [second]

end FindQuery

namespace Operator
open FindQuery (addAll_append addEach_append)

/-- Two operators do the same to every find query. -/
def Agrees (operator other : Operator) : Prop :=
  ∀ idField query, FindQuery.add idField operator query = FindQuery.add idField other query

theorem Agrees.refl (operator : Operator) : Agrees operator operator := fun _ _ => rfl

theorem Agrees.symm {operator other : Operator} (agree : Agrees operator other) : Agrees other operator :=
  fun idField query => (agree idField query).symm

theorem Agrees.trans {one two three : Operator} (first : Agrees one two) (second : Agrees two three) : Agrees one three :=
  fun idField query => (first idField query).trans (second idField query)

/-- An operand may be exchanged for one that does the same. -/
theorem Agrees.operand (connective : Connective) (before after : List Operator) {operator other : Operator}
    (agree : Agrees operator other) :
    Agrees (.logical connective (before ++ operator :: after)) (.logical connective (before ++ other :: after)) := by
  intro idField query
  cases connective with
  | and =>
    rw [FindQuery.add, FindQuery.add, addAll_append, addAll_append]
    simp only [FindQuery.addAll, agree idField]
  | or =>
    rw [FindQuery.add, FindQuery.add, addEach_append, addEach_append]
    simp only [FindQuery.addEach, agree idField]

/-- A conjunction inside of another one does what its operands do. -/
theorem agrees_flattened (before operands after : List Operator) :
    Agrees (.logical .and (before ++ .logical .and operands :: after)) (.logical .and (before ++ operands ++ after)) := by
  intro idField query
  have rest : FindQuery.addAll idField (.logical .and operands :: after) =
      FindQuery.addAll idField (operands ++ after) := by
    funext middle
    rw [addAll_append]
    rfl
  rw [FindQuery.add, FindQuery.add, List.append_assoc, addAll_append, addAll_append, rest]

theorem agrees_wrapped (operator : Operator) : Agrees operator (.logical .and [operator]) := by
  intro idField query
  rw [FindQuery.add, FindQuery.addAll]
  cases FindQuery.add idField operator query <;> rfl

/-- Where a value has an operator, another value has one that does the same. -/
def CheckedAs (value other : Value) : Prop :=
  ∀ operator, check value = .ok operator → ∃ moved, check other = .ok moved ∧ Agrees operator moved

theorem CheckedAs.trans {one two three : Value} (first : CheckedAs one two) (second : CheckedAs two three) :
    CheckedAs one three := by
  intro operator valid
  obtain ⟨middle, checked, agree⟩ := first operator valid
  obtain ⟨last, done, more⟩ := second middle checked
  exact ⟨last, done, agree.trans more⟩

section
variable {value other group operand replacement : Value} {name inner : String} {before operands after : List Value}

theorem checkedAs_flattened (old : value.call? = some (name, before ++ group :: after))
    (kind : OperatorKind.of? name = some (.logical .and)) (nested : group.call? = some (inner, operands))
    (innerKind : OperatorKind.of? inner = some (.logical .and))
    (new : other.call? = some (name, before ++ operands ++ after)) : CheckedAs value other := by
  intro operator valid
  obtain ⟨_, all, checked, rfl⟩ := (check_logical old kind).mp valid
  obtain ⟨first, others, checkedBefore, checkedRest, rfl⟩ := checkAll_append_eq_ok_iff.mp checked
  obtain ⟨head, last, checkedGroup, checkedAfter, rfl⟩ := checkAll_cons_eq_ok_iff.mp checkedRest
  obtain ⟨filled, middle, checkedOperands, rfl⟩ := (check_logical nested innerKind).mp checkedGroup
  have flat : checkAll (before ++ operands ++ after) = .ok (first ++ middle ++ last) :=
    checkAll_append_eq_ok_iff.mpr
      ⟨_, _, checkAll_append_eq_ok_iff.mpr ⟨_, _, checkedBefore, checkedOperands, rfl⟩, checkedAfter, rfl⟩
  exact ⟨_, (check_logical new kind).mpr ⟨by simp [filled], _, flat, rfl⟩, agrees_flattened first middle last⟩

theorem checkedAs_grouped (old : value.call? = some (name, before ++ group :: after))
    (kind : OperatorKind.of? name = some (.logical .and)) (nested : group.call? = some (inner, operands))
    (innerKind : OperatorKind.of? inner = some (.logical .and)) (filled : operands ≠ [])
    (new : other.call? = some (name, before ++ operands ++ after)) : CheckedAs other value := by
  intro operator valid
  obtain ⟨_, all, checked, rfl⟩ := (check_logical new kind).mp valid
  obtain ⟨front, last, checkedFront, checkedAfter, rfl⟩ := checkAll_append_eq_ok_iff.mp checked
  obtain ⟨first, middle, checkedBefore, checkedOperands, rfl⟩ := checkAll_append_eq_ok_iff.mp checkedFront
  have checkedGroup := (check_logical nested innerKind).mpr ⟨filled, middle, checkedOperands, rfl⟩
  have whole : checkAll (before ++ group :: after) = .ok (first ++ .logical .and middle :: last) :=
    checkAll_append_eq_ok_iff.mpr
      ⟨_, _, checkedBefore, checkAll_cons_eq_ok_iff.mpr ⟨_, _, checkedGroup, checkedAfter, rfl⟩, rfl⟩
  exact ⟨_, (check_logical old kind).mpr ⟨by simp, _, whole, rfl⟩, (agrees_flattened first middle last).symm⟩

theorem checkedAs_wrapped (new : other.call? = some (name, [value]))
    (kind : OperatorKind.of? name = some (.logical .and)) : CheckedAs value other ∧ CheckedAs other value := by
  constructor
  · intro operator valid
    have alone : checkAll [value] = .ok [operator] := checkAll_cons_eq_ok_iff.mpr ⟨_, _, valid, rfl, rfl⟩
    exact ⟨_, (check_logical new kind).mpr ⟨by simp, _, alone, rfl⟩, agrees_wrapped operator⟩
  · intro operator valid
    obtain ⟨_, all, checked, rfl⟩ := (check_logical new kind).mp valid
    obtain ⟨head, tail, accepted, nothing, rfl⟩ := checkAll_cons_eq_ok_iff.mp checked
    cases nothing
    exact ⟨head, accepted, (agrees_wrapped head).symm⟩

theorem checkedAs_inside {connective : Connective} (old : value.call? = some (name, before ++ operand :: after))
    (new : other.call? = some (name, before ++ replacement :: after))
    (kind : OperatorKind.of? name = some (.logical connective)) (within : CheckedAs operand replacement) :
    CheckedAs value other := by
  intro operator valid
  obtain ⟨_, all, checked, rfl⟩ := (check_logical old kind).mp valid
  obtain ⟨first, others, checkedBefore, checkedRest, rfl⟩ := checkAll_append_eq_ok_iff.mp checked
  obtain ⟨head, last, accepted, checkedAfter, rfl⟩ := checkAll_cons_eq_ok_iff.mp checkedRest
  obtain ⟨moved, found, agree⟩ := within head accepted
  have exchanged : checkAll (before ++ replacement :: after) = .ok (first ++ moved :: last) :=
    checkAll_append_eq_ok_iff.mpr ⟨_, _, checkedBefore, checkAll_cons_eq_ok_iff.mpr ⟨_, _, found, checkedAfter, rfl⟩, rfl⟩
  exact ⟨_, (check_logical new kind).mpr ⟨by simp, _, exchanged, rfl⟩, agree.operand connective first last⟩

end
end Operator

/-- Of a query and a regrouped one each has an operator if the other does, and both do the same. -/
theorem Value.Regrouped.checkedAs {value other : Value} (regrouped : value.Regrouped other) :
    Operator.CheckedAs value other ∧ Operator.CheckedAs other value := by
  induction regrouped with
  | refl value => exact ⟨fun operator valid => ⟨operator, valid, .refl _⟩, fun operator valid => ⟨operator, valid, .refl _⟩⟩
  | symm regrouped ih => exact ⟨ih.2, ih.1⟩
  | trans first second ihFirst ihSecond => exact ⟨ihFirst.1.trans ihSecond.1, ihSecond.2.trans ihFirst.2⟩
  | flattened old kind nested innerKind filled new =>
    exact ⟨Operator.checkedAs_flattened old kind nested innerKind new,
      Operator.checkedAs_grouped old kind nested innerKind filled new⟩
  | wrapped new kind => exact Operator.checkedAs_wrapped new kind
  | inside old new kind within ih =>
    exact ⟨Operator.checkedAs_inside old new kind ih.1, Operator.checkedAs_inside new old kind ih.2⟩

/-! ### Joined queries -/

namespace Query
open Operator (check CheckedAs check_logical checkAll_append_eq_ok_iff checkAll_cons_eq_ok_iff)

/-- What a query brings as the left part of a query that is joined: its own arguments if it is joined by
the same connective. -/
def leftTerms (connective : Connective) (query : Query) : List Value :=
  if query.name = connective.name then query.args else [query.toValue]

theorem combine_eq (connective : Connective) (left right : Query) :
    left.combine connective right = ⟨connective.name, left.leftTerms connective ++ [right.toValue]⟩ := by
  unfold combine leftTerms
  split <;> rfl

theorem kind_and : OperatorKind.of? Connective.and.name = some (.logical .and) := rfl

/-- Queries that have operators have one together. -/
theorem check_combine {left right : Query} {first last : Operator} (validLeft : check left.toValue = .ok first)
    (validRight : check right.toValue = .ok last) : ∃ whole, check (left.combine .and right).toValue = .ok whole := by
  rw [combine_eq]
  have terms : ∃ operators, Operator.checkAll (left.leftTerms .and) = .ok operators := by
    unfold leftTerms
    split
    · rename_i joined
      have kind : OperatorKind.of? left.name = some (.logical .and) := joined ▸ kind_and
      obtain ⟨_, operands, checked, _⟩ := (check_logical rfl kind).mp validLeft
      exact ⟨operands, checked⟩
    · exact ⟨[first], checkAll_cons_eq_ok_iff.mpr ⟨_, _, validLeft, rfl, rfl⟩⟩
  obtain ⟨operators, checked⟩ := terms
  have both : Operator.checkAll (left.leftTerms .and ++ [right.toValue]) = .ok (operators ++ [last]) :=
    checkAll_append_eq_ok_iff.mpr ⟨_, _, checked, checkAll_cons_eq_ok_iff.mpr ⟨_, _, validRight, rfl, rfl⟩, rfl⟩
  exact ⟨_, (check_logical rfl kind_and).mpr ⟨by simp, _, both, rfl⟩⟩

/-- Three queries joined from the left and from the right differ in how they are grouped. -/
theorem regrouped_combine {a b c : Query} {operator : Operator} (valid : check b.toValue = .ok operator) :
    ((a.combine .and b).combine .and c).toValue.Regrouped (a.combine .and (b.combine .and c)).toValue := by
  have left : ((a.combine .and b).combine .and c).toValue =
      .node (.text "and") (a.leftTerms .and ++ b.toValue :: [c.toValue]) := by
    simp [combine_eq, toValue, leftTerms, Connective.name]
  have right : (a.combine .and (b.combine .and c)).toValue =
      .node (.text "and") (a.leftTerms .and ++ Value.node (.text "and") (b.leftTerms .and ++ [c.toValue]) :: []) := by
    rw [combine_eq, combine_eq]
    rfl
  have flat : Value.Regrouped
      (.node (.text "and") (a.leftTerms .and ++ Value.node (.text "and") (b.leftTerms .and ++ [c.toValue]) :: []))
      (.node (.text "and") (a.leftTerms .and ++ (b.leftTerms .and ++ [c.toValue]) ++ [])) :=
    .flattened rfl kind_and rfl kind_and (by simp) rfl
  rw [left, right]
  refine .trans ?_ flat.symm
  rw [List.append_nil]
  by_cases joined : b.name = Connective.and.name
  · have kind : OperatorKind.of? b.name = some (.logical .and) := joined ▸ kind_and
    have filled : b.args ≠ [] := ((check_logical rfl kind).mp valid).1
    rw [leftTerms.eq_def _ b, if_pos joined, ← List.append_assoc]
    exact .flattened rfl kind_and rfl kind filled rfl
  · rw [leftTerms.eq_def _ b, if_neg joined]
    exact .refl _

end Query

namespace FindQuery
open Operator (check)

/-- A query that has an operator has the same outcome as a regrouped one. -/
theorem compile_eq_of_regrouped {idField : String} {value other : Value} {operator : Operator}
    (valid : check value = .ok operator) (regrouped : value.Regrouped other) :
    (∃ moved, check other = .ok moved) ∧ compile idField other = compile idField value := by
  obtain ⟨moved, checked, agree⟩ := regrouped.checkedAs.1 operator valid
  refine ⟨⟨moved, checked⟩, ?_⟩
  rw [compile, compile, valid, checked]
  exact (agree idField {}).symm

/-- **Grouping does not matter.** A query keeps its rules and its outcome, be it a find query or an error,
when conjunctions at any depth are grouped in another way; and three queries have one outcome whether
they are joined from the left or from the right. -/
theorem compile_regrouped (idField : String) :
    (∀ (value other : Value) (operator : Operator), check value = .ok operator → value.Regrouped other →
      (∃ moved, check other = .ok moved) ∧ compile idField other = compile idField value) ∧
    ∀ (a b c : Query) (first second third : Operator),
      check a.toValue = .ok first → check b.toValue = .ok second → check c.toValue = .ok third →
      compile idField ((a.combine .and b).combine .and c).toValue =
        compile idField (a.combine .and (b.combine .and c)).toValue := by
  constructor
  · intro value other operator valid regrouped
    exact compile_eq_of_regrouped valid regrouped
  · intro a b c first second third validA validB validC
    obtain ⟨front, checked⟩ := Query.check_combine validA validB
    obtain ⟨whole, valid⟩ := Query.check_combine checked validC
    exact (compile_eq_of_regrouped valid (Query.regrouped_combine validB)).2.symm

/-- Conjunctions in both operands of a disjunction, one of them a mapping in a conjunction with a name in
upper case and one of them with a single operand, whose selections do not fit together; and three queries
that do, of which one is a conjunction already. -/
theorem compile_regrouped_nested :
    ∃ (value other : Value) (operator first second third : Operator) (a b c : Query) (found : FindQuery),
      value = .node (.text "and") [.node (.text "eq") [.text "a", .int 1], .node (.text "or") [
        .node (.text "AND") [.node (.text "gt") [.text "b", .int 1],
          .mapping [("name", .text "and"), ("args", .list [.node (.text "select") [.text "+x"]])]],
        .node (.text "and") [.node (.text "select") [.text "-y"]]]] ∧
      other = .node (.text "and") [.node (.text "eq") [.text "a", .int 1], .node (.text "or") [
        .node (.text "AND") [.node (.text "gt") [.text "b", .int 1], .node (.text "select") [.text "+x"]],
        .node (.text "select") [.text "-y"]]] ∧
      a = ⟨"eq", [.text "a", .int 1]⟩ ∧ b = ⟨"and", [.node (.text "gt") [.text "b", .int 1]]⟩ ∧
      c = ⟨"eq", [.text "c", .null]⟩ ∧
      check value = .ok operator ∧ value.Regrouped other ∧
      (∃ moved, check other = .ok moved) ∧
      compile "_id" value = .error (.rule (.mixedProjection ["y"])) ∧
      compile "_id" other = .error (.rule (.mixedProjection ["y"])) ∧
      check a.toValue = .ok first ∧ check b.toValue = .ok second ∧ check c.toValue = .ok third ∧
      found.criteria = [("a", .equals (.int 1)), ("b", .operators [("$gt", .int 1)]), ("c", .equals .null)] ∧
      compile "_id" (a.combine .and (b.combine .and c)).toValue = .ok found ∧
      compile "_id" ((a.combine .and b).combine .and c).toValue = .ok found := by
  refine ⟨_, _, ?operator, ?first, ?second, ?third, _, _, _, ?found, rfl, rfl, rfl, rfl, rfl, ?valid, ?regrouped,
    ((compile_regrouped "_id").1 _ _ _ ?valid ?regrouped).1, ?mixed,
    ((compile_regrouped "_id").1 _ _ _ ?valid ?regrouped).2.trans ?mixed, ?validA, ?validB, ?validC, ?criteria, ?right,
    ((compile_regrouped "_id").2 _ _ _ _ _ _ ?validA ?validB ?validC).trans ?right⟩
  case right => rfl
  case criteria => rfl
  case mixed => rfl
  case valid => rfl
  case validA => rfl
  case validB => rfl
  case validC => rfl
  case regrouped =>
    have outer : OperatorKind.of? "and" = some (.logical .and) := rfl
    have upper : OperatorKind.of? "AND" = some (.logical .and) := rfl
    have either : OperatorKind.of? "or" = some (.logical .or) := rfl
    let middle : Value := .node (.text "or") [
      .node (.text "AND") [.node (.text "gt") [.text "b", .int 1], .node (.text "select") [.text "+x"]],
      .node (.text "and") [.node (.text "select") [.text "-y"]]]
    refine @Value.Regrouped.inside _ _ _ [_] [] _ _ _ rfl rfl outer (@Value.Regrouped.trans _ middle _ ?flat ?bare)
    case flat =>
      have flat : Value.Regrouped
          (.node (.text "AND") [.node (.text "gt") [.text "b", .int 1],
            .mapping [("name", .text "and"), ("args", .list [.node (.text "select") [.text "+x"]])]])
          (.node (.text "AND") [.node (.text "gt") [.text "b", .int 1], .node (.text "select") [.text "+x"]]) :=
        @Value.Regrouped.flattened _ _ _ _ _ [_] [_] [] rfl upper rfl outer (List.cons_ne_nil _ _) rfl
      exact @Value.Regrouped.inside _ _ _ [] [_] _ _ _ rfl rfl either flat
    case bare => exact @Value.Regrouped.inside _ _ _ [_] [] _ _ _ rfl rfl either (.symm (.wrapped rfl outer))

end FindQuery
end ResourceQuery
