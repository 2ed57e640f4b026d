import ResourceQuery.Proofs.Find.Meaning
import ResourceQuery.Proofs.Outcome

/-!
Find queries mean what their operators mean (`compile_holds_iff`), if no two operators of one scope
fill the same place. One step adds the meaning of its operator to the criteria (`add_extends`), and
a run adds the meanings of all of them.
-/
namespace ResourceQuery

/-- No two operators of a scope are both disjunctions, nor compare the same field by the same
comparator. -/
def Operator.Distinct (scope : List Operator) : Prop := (places scope).Nodup

instance (scope : List Operator) : Decidable (Operator.Distinct scope) :=
  inferInstanceAs (Decidable (List.Nodup _))

namespace FindQuery
open Operator (places Distinct)

variable {atom : Interpretation} {idField : String}

mutual

/-- One more operator adds its meaning to the criteria and fills the places of its scope. -/
theorem add_extends (operator : Operator) {query after : FindQuery} (done : add idField operator query = .ok after)
    (distinct : Distinct operator.scope) (inner : ∀ scope ∈ operator.innerScopes, Distinct scope)
    (free : ∀ slot ∈ places operator.scope, ¬ query.criteria.Fills slot) :
    Criteria.Extends atom query.criteria after.criteria (places operator.scope) (operator.Holds atom) := by
  cases operator with
  | comparison comparator field value =>
    obtain ⟨criteria, compared, rest⟩ := Outcome.bind_eq_ok_iff.mp done
    cases rest
    exact Criteria.compare_extends compared (free _ (by simp [places, Operator.scope, Operator.slot?]))
  | logical connective operands =>
    cases connective with
    | and => exact addAll_extends operands done distinct inner free
    | or =>
      obtain ⟨⟨options, alternatives⟩, each, rest⟩ := Outcome.bind_eq_ok_iff.mp done
      obtain ⟨criteria, branched, rest⟩ := Outcome.bind_eq_ok_iff.mp rest
      cases rest
      have extended : Criteria.Extends atom query.criteria criteria [.alternatives] _ :=
        Criteria.branch_extends branched (free _ (by simp [places, Operator.scope, Operator.slot?]))
      rw [addEach_holds_iff operands each inner] at extended
      exact extended
  | sort specs =>
    cases done
    exact .refl _
  | select specs =>
    obtain ⟨options, selected, rest⟩ := Outcome.bind_eq_ok_iff.mp done
    cases rest
    exact .refl _
  | limit count skip =>
    cases done
    exact .refl _
  | cursor side token =>
    cases done
    exact .refl _
termination_by structural operator

/-- More operators add all their meanings. -/
theorem addAll_extends (operators : List Operator) {query after : FindQuery}
    (done : addAll idField operators query = .ok after) (distinct : Distinct (Operator.scopeAll operators))
    (inner : ∀ scope ∈ Operator.innerScopesAll operators, Distinct scope)
    (free : ∀ slot ∈ places (Operator.scopeAll operators), ¬ query.criteria.Fills slot) :
    Criteria.Extends atom query.criteria after.criteria (places (Operator.scopeAll operators))
      (Operator.AllHold atom operators) := by
  cases operators with
  | nil =>
    cases done
    exact .refl _
  | cons operator rest =>
    obtain ⟨middle, added, run⟩ := Outcome.bind_eq_ok_iff.mp done
    have split : places (Operator.scopeAll (operator :: rest)) =
        places operator.scope ++ places (Operator.scopeAll rest) := List.filterMap_append
    simp only [Operator.innerScopesAll, List.mem_append] at inner
    rw [Distinct, split, List.nodup_append] at distinct
    rw [split] at free ⊢
    obtain ⟨own, others, apart⟩ := distinct
    have head : Criteria.Extends atom query.criteria middle.criteria (places operator.scope) _ :=
      add_extends operator added own (fun scope member => inner scope (.inl member))
        (fun slot member => free slot (List.mem_append_left _ member))
    -- A place that the later operators fill is still free: it is none of the first operator's.
    have stillFree : ∀ slot ∈ places (Operator.scopeAll rest), ¬ middle.criteria.Fills slot := by
      intro slot member filled
      rcases head.fills slot filled with earlier | taken
      · exact free slot (List.mem_append_right _ member) earlier
      · exact apart slot taken slot member rfl
    exact head.trans (addAll_extends rest run others (fun scope member => inner scope (.inr member)) stillFree)
termination_by structural operators

/-- The criteria of the operands of a disjunction mean the operands. -/
theorem addEach_holds_iff (operators : List Operator) {options after : FindOptions} {alternatives : List Criteria}
    (done : addEach idField operators options = .ok (after, alternatives))
    (inner : ∀ scope ∈ Operator.branchScopes operators, Distinct scope) :
    Criteria.AnyHolds atom alternatives ↔ Operator.AnyHolds atom operators := by
  cases operators with
  | nil =>
    cases done
    exact Iff.rfl
  | cons operator rest =>
    obtain ⟨branch, added, run⟩ := Outcome.bind_eq_ok_iff.mp done
    obtain ⟨⟨final, others⟩, each, finish⟩ := Outcome.bind_eq_ok_iff.mp run
    cases finish
    simp only [Operator.branchScopes, List.cons_append, List.mem_cons, List.mem_append] at inner
    have head : Criteria.Extends atom [] branch.criteria (places operator.scope) _ :=
      add_extends operator added (inner _ (.inl rfl)) (fun scope member => inner scope (.inr (.inl member)))
        (fun slot _ => Criteria.not_fills_nil slot)
    have tail := addEach_holds_iff rest each (fun scope member => inner scope (.inr (.inr member)))
    simp only [Criteria.AnyHolds, Operator.AnyHolds, head.holds, tail, Criteria.Holds, true_and]
termination_by structural operators

end

/-- **Compilation keeps the meaning.** -/
theorem compile_holds_iff (atom : Interpretation) {idField : String} {value : Value} {operator : Operator}
    {found : FindQuery} (valid : Operator.check value = .ok operator) (compiled : compile idField value = .ok found)
    (distinct : ∀ scope ∈ operator.scopes, Distinct scope) :
    Criteria.Holds atom found.criteria ↔ operator.Holds atom := by
  obtain ⟨checked, same, added⟩ := Outcome.bind_eq_ok_iff.mp compiled
  rw [valid] at same
  cases same
  have extended : Criteria.Extends atom [] found.criteria _ (operator.Holds atom) :=
    add_extends operator added (distinct _ List.mem_cons_self)
      (fun scope member => distinct scope (List.mem_cons_of_mem _ member)) (fun slot _ => Criteria.not_fills_nil slot)
  rw [extended.holds]
  exact and_iff_right trivial

/-- Two comparisons of one field, and a disjunction between them, met by one interpretation and not by
another. -/
theorem compile_holds_iff_mixed :
    ∃ value operator found,
      value = .node (.text "and") [.node (.text "GT") [.text "a", .int 1],
        .node (.text "or") [.node (.text "eq") [.text "b", .null], .node (.text "in") [.text "a", .int 2]],
        .node (.text "lt") [.text "a", .int 5]] ∧
      Operator.check value = .ok operator ∧ compile "_id" value = .ok found ∧
      (∀ scope ∈ operator.scopes, Distinct scope) ∧
      found.criteria = [("a", .operators [("$gt", .int 1), ("$lt", .int 5)]),
        ("$or", .branches [[("b", .equals .null)], [("a", .operators [("$in", .list [.int 2])])]])] ∧
      Criteria.Holds (fun field _ _ => field = "a") found.criteria ∧
      ¬ Criteria.Holds (fun field tag _ => field = "a" ∧ tag ≠ "$in") found.criteria := by
  refine ⟨_, ?operator, ?found, rfl, ?valid, ?compiled, ?distinct, ?criteria,
    (compile_holds_iff _ ?valid ?compiled ?distinct).mpr ?met,
    mt (compile_holds_iff _ ?valid ?compiled ?distinct).mp ?missed⟩
  case valid => rfl
  case compiled => rfl
  case distinct => decide
  case criteria => rfl
  case met => exact ⟨rfl, .inr (.inl rfl), rfl, trivial⟩
  case missed =>
    rintro ⟨_, ⟨other, _⟩ | ⟨_, different⟩ | none, _⟩
    · exact absurd other (by decide)
    · exact different rfl
    · exact none

end FindQuery
end ResourceQuery
