import Mathlib.Tactic.Tauto
import ResourceQuery.Proofs.Entries
import ResourceQuery.Proofs.Find.Scope

/-!
The meaning of operators and of criteria under an interpretation of the atomic constraints, and the
theorem that the find query of a tree means what the tree means. It holds where no two operators of
a scope fill the same place, for there the later one would take the place of the earlier one. The
invariant of the run is `Criteria.Fills`: which places the criteria have filled so far.
-/
namespace ResourceQuery

/-- Which fields meet which operators of the database with which values. -/
abbrev Interpretation := (field tag : String) → Value → Prop

/-- The values among which a membership test looks: those of a list, and any other value alone. -/
def Value.members : Value → List Value
  | .list items => items
  | value => [value]

variable (atom : Interpretation)

/-- The meaning of a comparison: a membership test looks among the members of its value, any other
comparison takes the value as it is. -/
def Comparator.Holds (field : String) (value : Value) : Comparator → Prop
  | .in => atom field "$in" (.list value.members)
  | .out => atom field "$nin" (.list value.members)
  | comparator => atom field comparator.tag value

theorem Comparator.holds_iff (field : String) (value : Value) (comparator : Comparator) :
    comparator.Holds atom field value ↔ atom field comparator.tag (comparator.operand value) := by
  cases comparator <;> cases value <;> exact Iff.rfl

namespace Operator

mutual

/-- The meaning of an operator: a filter for comparisons, conjunctions and disjunctions, and no
filter at all for what orders or pages the results. -/
def Holds : Operator → Prop
  | .comparison comparator field value => comparator.Holds atom field value
  | .logical .and operands => AllHold operands
  | .logical .or operands => AnyHolds operands
  | _ => True
termination_by structural operator => operator

def AllHold : List Operator → Prop
  | [] => True
  | operator :: rest => operator.Holds ∧ AllHold rest
termination_by structural operators => operators

def AnyHolds : List Operator → Prop
  | [] => False
  | operator :: rest => operator.Holds ∨ AnyHolds rest
termination_by structural operators => operators

end

end Operator

mutual

/-- The meaning of what a field is bound to. The alternatives mean a disjunction. -/
def Constraint.Holds (field : String) : Constraint → Prop
  | .equals value => atom field Comparator.eq.tag value
  | .operators values => ∀ entry ∈ values, atom field entry.1 entry.2
  | .branches alternatives => Criteria.AnyHolds alternatives
termination_by structural constraint => constraint

def Criteria.AnyHolds : List (List (String × Constraint)) → Prop
  | [] => False
  | criteria :: rest => Criteria.Holds criteria ∨ Criteria.AnyHolds rest
termination_by structural alternatives => alternatives

/-- The meaning of criteria: all their constraints hold. -/
def Criteria.Holds : List (String × Constraint) → Prop
  | [] => True
  | (field, constraint) :: rest => constraint.Holds field ∧ Criteria.Holds rest
termination_by structural entries => entries

end

/-- A constraint that stands in the entry of a place fills it. -/
inductive Constraint.Fills : Constraint → Slot → Prop
  | equals {value field} : Fills (.equals value) (.comparison field .eq)
  | operators {values field comparator} (inequality : comparator ≠ .eq)
      (member : comparator.tag ∈ values.map Prod.fst) : Fills (.operators values) (.comparison field comparator)
  | branches {alternatives} : Fills (.branches alternatives) .alternatives

theorem Constraint.Fills.equals_eq {value : Value} {field : String} {slot : Slot}
    (fills : (Constraint.equals value).Fills slot) (same : slot.key = field) : slot = .comparison field .eq := by
  cases fills
  exact congrArg (Slot.comparison · .eq) same

theorem Constraint.Fills.operators_eq {values : List (String × Value)} {field : String} {slot : Slot}
    (fills : (Constraint.operators values).Fills slot) (same : slot.key = field) :
    ∃ comparator, slot = .comparison field comparator ∧ comparator ≠ .eq ∧ comparator.tag ∈ values.map Prod.fst := by
  cases fills with
  | operators inequality member => exact ⟨_, congrArg (Slot.comparison · _) same, inequality, member⟩

theorem Constraint.Fills.branches_eq {alternatives : List (List (String × Constraint))} {slot : Slot}
    (fills : (Constraint.branches alternatives).Fills slot) : slot = .alternatives := by
  cases fills
  rfl

namespace Criteria

/-- The criteria have a constraint in a place. -/
def Fills (criteria : Criteria) (slot : Slot) : Prop :=
  ∃ constraint, criteria.get? slot.key = some constraint ∧ constraint.Fills slot

theorem not_fills_nil (slot : Slot) : ¬ Fills [] slot := by
  rintro ⟨constraint, found, _⟩
  simp at found

/-- What is filled after a constraint has been put is filled by it or was filled before. -/
theorem fills_put {criteria : Criteria} {field : String} {constraint : Constraint} {slot : Slot}
    (filled : Fills (Entries.put field constraint criteria) slot) :
    (slot.key = field ∧ constraint.Fills slot) ∨ criteria.Fills slot := by
  obtain ⟨stored, found, fills⟩ := filled
  rw [Entries.get?_put] at found
  by_cases same : slot.key = field
  · rw [if_pos same] at found
    cases found
    exact .inl ⟨same, fills⟩
  · rw [if_neg same] at found
    exact .inr ⟨stored, found, fills⟩

theorem holds_append (first second : List (String × Constraint)) :
    Holds atom (first ++ second) ↔ Holds atom first ∧ Holds atom second := by
  induction first with
  | nil => simp [Holds]
  | cons entry rest ih =>
    obtain ⟨field, constraint⟩ := entry
    simp [Holds, ih, and_assoc]

/-- A constraint for a new field joins the others. -/
theorem holds_put_fresh {criteria : Criteria} {field : String} (absent : criteria.get? field = none)
    (constraint : Constraint) :
    Holds atom (Entries.put field constraint criteria) ↔ Holds atom criteria ∧ constraint.Holds atom field := by
  rw [Entries.put_fresh absent, holds_append]
  simp [Holds]

/-- A constraint that says more about a field than the one before says more in the criteria. -/
theorem holds_put_more {criteria : Criteria} {field : String} {old new : Constraint} {more : Prop}
    (found : criteria.get? field = some old) (stronger : new.Holds atom field ↔ old.Holds atom field ∧ more) :
    Holds atom (Entries.put field new criteria) ↔ Holds atom criteria ∧ more := by
  obtain ⟨before, after, split, replaced⟩ := Entries.get?_split found
  rw [replaced, split, holds_append, holds_append]
  simp only [Holds, stronger]
  tauto

/-- The criteria `after` say what `criteria` say and a condition besides, and fill only some more
places. -/
structure Extends (criteria after : Criteria) (places : List Slot) (condition : Prop) : Prop where
  holds : Holds atom after ↔ Holds atom criteria ∧ condition
  fills : ∀ slot, after.Fills slot → criteria.Fills slot ∨ slot ∈ places

variable {atom}

theorem Extends.refl (criteria : Criteria) : Extends atom criteria criteria [] True :=
  ⟨by simp, fun _ filled => .inl filled⟩

theorem Extends.trans {first second third : Criteria} {places more : List Slot} {p q : Prop}
    (one : Extends atom first second places p) (two : Extends atom second third more q) :
    Extends atom first third (places ++ more) (p ∧ q) := by
  constructor
  · rw [two.holds, one.holds, and_assoc]
  · intro slot filled
    rw [List.mem_append]
    rcases two.fills slot filled with earlier | late
    · rcases one.fills slot earlier with first | middle
      · exact .inl first
      · exact .inr (.inl middle)
    · exact .inr (.inr late)

theorem equate_extends {criteria after : Criteria} {field : String} {value : Value}
    (done : criteria.equate field value = .ok after) (free : ¬ criteria.Fills (.comparison field .eq)) :
    Extends atom criteria after [.comparison field .eq] (atom field Comparator.eq.tag value) := by
  unfold equate at done
  cases found : criteria.get? field with
  | none =>
    rw [found] at done
    cases done
    refine ⟨by simpa [Constraint.Holds] using holds_put_fresh atom found (.equals value), ?_⟩
    intro slot filled
    rcases fills_put filled with ⟨same, fills⟩ | earlier
    · exact .inr (List.mem_singleton.mpr (fills.equals_eq same))
    · exact .inl earlier
  | some constraint =>
    rw [found] at done
    cases constraint with
    | equals old => exact absurd ⟨_, found, .equals⟩ free
    | operators values => cases done
    | branches alternatives => cases done

theorem constrain_extends {criteria after : Criteria} {comparator : Comparator} {field : String} {value : Value}
    (inequality : comparator ≠ .eq) (done : criteria.constrain comparator field value = .ok after)
    (free : ¬ criteria.Fills (.comparison field comparator)) :
    Extends atom criteria after [.comparison field comparator] (atom field comparator.tag value) := by
  unfold constrain at done
  cases found : criteria.get? field with
  | none =>
    rw [found] at done
    cases done
    refine ⟨by simpa [Constraint.Holds] using holds_put_fresh atom found (.operators [(comparator.tag, value)]), ?_⟩
    intro slot filled
    rcases fills_put filled with ⟨same, fills⟩ | earlier
    · obtain ⟨second, rfl, different, member⟩ := fills.operators_eq same
      have tags : second.tag = comparator.tag := by simpa using member
      exact .inr (by simp [Comparator.tag_injective tags])
    · exact .inl earlier
  | some constraint =>
    rw [found] at done
    cases constraint with
    | equals old => cases done
    | branches alternatives => cases done
    | operators values =>
      cases done
      have absent : Entries.get? values comparator.tag = none := by
        cases stored : Entries.get? values comparator.tag with
        | none => rfl
        | some old => exact absurd ⟨_, found, .operators inequality (Entries.mem_keys_of_get? stored)⟩ free
      constructor
      · apply holds_put_more atom found
        rw [Entries.put_fresh absent]
        simp only [Constraint.Holds, List.forall_mem_append, List.forall_mem_singleton]
      · intro slot filled
        rcases fills_put filled with ⟨same, fills⟩ | earlier
        · obtain ⟨second, rfl, different, member⟩ := fills.operators_eq same
          rcases (Entries.mem_keys_put ..).mp member with tags | stored
          · exact .inr (by simp [Comparator.tag_injective tags])
          · exact .inl ⟨_, found, .operators different stored⟩
        · exact .inl earlier

theorem compare_extends {criteria after : Criteria} {comparator : Comparator} {field : String} {value : Value}
    (done : criteria.compare comparator field value = .ok after)
    (free : ¬ criteria.Fills (.comparison field comparator)) :
    Extends atom criteria after [.comparison field comparator] (comparator.Holds atom field value) := by
  rw [Comparator.holds_iff]
  unfold compare at done
  by_cases equality : comparator = .eq
  · subst equality
    exact equate_extends done free
  · rw [if_neg equality] at done
    exact constrain_extends equality done free

theorem branch_extends {criteria after : Criteria} {alternatives : List Criteria}
    (done : criteria.branch alternatives = .ok after) (free : ¬ criteria.Fills .alternatives) :
    Extends atom criteria after [.alternatives] (AnyHolds atom alternatives) := by
  unfold branch at done
  cases found : criteria.get? branchesKey with
  | none =>
    rw [found] at done
    cases done
    refine ⟨by simpa [Constraint.Holds] using holds_put_fresh atom found (.branches alternatives), ?_⟩
    intro slot filled
    rcases fills_put filled with ⟨same, fills⟩ | earlier
    · exact .inr (List.mem_singleton.mpr fills.branches_eq)
    · exact .inl earlier
  | some constraint =>
    rw [found] at done
    cases constraint with
    | equals old => cases done
    | operators values => cases done
    | branches earlier => exact absurd ⟨_, found, .branches⟩ free

end Criteria
end ResourceQuery
