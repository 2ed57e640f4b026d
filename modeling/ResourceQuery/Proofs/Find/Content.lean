import Mathlib.Data.List.Forall2
import ResourceQuery.Proofs.Find.Mapping
import ResourceQuery.Proofs.Outcome

/-!
What criteria hold. A run that adds the operators of a scope one by one keeps the criteria at the
mapping of those so far, as long as no field clashes (`FindQuery.add_settles`), and so the criteria of
a find query are the mappings of its scopes (`FindQuery.compile_content`).
-/
namespace ResourceQuery

namespace Operator

/-- Why the operators of scopes are not taken: a field of one of them clashes, or one of them selects
fields. -/
def Refused (scopes : List (List Operator)) : Error → Prop
  | .conflict cause => ∃ scope ∈ scopes, Clashes scope cause.field
  | .rule _ => ∃ scope ∈ scopes, ∃ specs, .select specs ∈ scope
  | _ => False

/-- The operators of scopes are taken, with such a result, if there is no clash; else they are refused. -/
def Settles {α : Type} (scopes : List (List Operator)) (result : α → Prop) : Except Error α → Prop
  | .ok value => (∀ scope ∈ scopes, Harmonious scope) ∧ result value
  | .error fault => Refused scopes fault

theorem places_subset {scope wider : List Operator} (subset : scope ⊆ wider) : places scope ⊆ places wider := by
  intro slot member
  obtain ⟨operator, inside, fills⟩ := mem_places.mp member
  exact mem_places.mpr ⟨operator, subset inside, fills⟩

theorem Clashes.mono {scope wider : List Operator} {field : String} (subset : places scope ⊆ places wider)
    (clash : Clashes scope field) : Clashes wider field := by
  rcases clash with ⟨equality, comparator, inequality, compared⟩ | ⟨key, disjunction, comparator, compared⟩
  · exact .inl ⟨subset equality, comparator, inequality, subset compared⟩
  · exact .inr ⟨key, subset disjunction, comparator, subset compared⟩

theorem Refused.mono {scopes wider : List (List Operator)} {fault : Error} (refused : Refused scopes fault)
    (within : ∀ scope ∈ scopes, ∃ other ∈ wider, scope ⊆ other) : Refused wider fault := by
  cases fault with
  | conflict cause =>
    obtain ⟨scope, member, clash⟩ := refused
    obtain ⟨other, inside, subset⟩ := within scope member
    exact ⟨other, inside, clash.mono (places_subset subset)⟩
  | rule cause =>
    obtain ⟨scope, member, specs, selected⟩ := refused
    obtain ⟨other, inside, subset⟩ := within scope member
    exact ⟨other, inside, specs, subset selected⟩
  | _ => exact refused

theorem Settles.map {α β : Type} {scopes : List (List Operator)} {middle : α → Prop} {result : β → Prop}
    {first : Except Error α} (one : Settles scopes middle first) {f : α → β}
    (reached : ∀ value, middle value → result (f value)) : Settles scopes result (do return f (← first)) := by
  cases first with
  | error fault => exact one
  | ok value => exact ⟨one.1, reached value one.2⟩

/-- Steps one after the other take the scopes of both. -/
theorem Settles.bind {α β : Type} {here later scopes : List (List Operator)} {middle : α → Prop} {result : β → Prop}
    {first : Except Error α} {next : α → Except Error β} (one : Settles here middle first)
    (two : ∀ value, (∀ scope ∈ here, Harmonious scope) → middle value → Settles later result (next value))
    (within : ∀ scope ∈ here ++ later, ∃ other ∈ scopes, scope ⊆ other)
    (covered : ∀ scope ∈ scopes, scope ∈ here ++ later) : Settles scopes result (first >>= next) := by
  rw [List.forall_mem_append] at within
  cases first with
  | error fault => exact Refused.mono one within.1
  | ok value =>
    obtain ⟨harmony, reached⟩ := one
    have rest := two value harmony reached
    rw [Outcome.ok_bind]
    cases done : next value with
    | error fault =>
      rw [done] at rest
      exact Refused.mono rest within.2
    | ok last =>
      rw [done] at rest
      exact ⟨fun scope member => (List.mem_append.mp (covered scope member)).elim (harmony scope) (rest.1 scope), rest.2⟩

section
variable {seen : List Operator} {branches : List Criteria}

/-- An equality joins the mapping if the field has equalities at most. -/
theorem equate_joins (harmony : Harmonious seen) {field : String} (value : Value)
    (apart : ¬(field = branchesKey ∧ .alternatives ∈ places seen))
    (equal : ∀ comparator, comparator ≠ .eq → .comparison field comparator ∉ places seen) :
    Settles [seen ++ [Operator.comparison .eq field value]] (· = layout (seen ++ [Operator.comparison .eq field value]) branches)
      (.ok ((layout seen branches).put field (.equals value))) := by
  have fills : (Operator.comparison .eq field value).slot? = some (.comparison field .eq) := rfl
  constructor
  · refine List.forall_mem_singleton.mpr (harmonious_concat harmony fills ?_)
    rintro (⟨_, comparator, inequality, compared⟩ | ⟨key, disjunction, _⟩)
    · rcases (mem_places_concat fills _).mp compared with before | same
      · exact equal comparator inequality before
      · cases same
        exact inequality rfl
    · exact apart ⟨key, (alternatives_compared ..).mp disjunction⟩
  · have bound : binding (seen ++ [Operator.comparison .eq field value]) branches field = .equals value := by
      simp [binding, alternatives_compared, apart, equalities_compared]
    have put := layout_put fills (fun key other => @binding_compared seen branches .eq field value key other)
    rw [show (Slot.comparison field .eq).key = field from rfl, bound] at put
    exact put

theorem equate_settles (harmony : Harmonious seen) (field : String) (value : Value) :
    Settles [seen ++ [Operator.comparison .eq field value]] (· = layout (seen ++ [Operator.comparison .eq field value]) branches)
      ((layout seen branches).equate field value) := by
  have fills : (Operator.comparison .eq field value).slot? = some (.comparison field .eq) := rfl
  have placed : .comparison field .eq ∈ places (seen ++ [Operator.comparison .eq field value]) :=
    (mem_places_concat fills _).mpr (.inr rfl)
  have kept : ∀ slot ∈ places seen, slot ∈ places (seen ++ [Operator.comparison .eq field value]) :=
    fun slot member => (mem_places_concat fills _).mpr (.inl member)
  unfold Criteria.equate
  cases found : (layout seen branches).get? field with
  | none =>
    have absent := layout_absent found
    exact equate_joins harmony value (fun both => absent _ both.2 both.1.symm) fun comparator _ member => absent _ member rfl
  | some constraint =>
    cases constraint with
    | equals old =>
      obtain ⟨apart, equality⟩ := layout_equals found
      exact equate_joins harmony value apart fun comparator inequality member =>
        harmony field (.inl ⟨equality, comparator, inequality, member⟩)
    | operators values =>
      obtain ⟨_, _, compared, _⟩ := layout_operators found
      obtain ⟨comparator, inequality, member⟩ := constraints_ne_nil.mp compared
      exact ⟨_, List.mem_singleton_self _, .inl ⟨placed, comparator, inequality, kept _ member⟩⟩
    | branches alternatives =>
      obtain ⟨key, disjunction, _⟩ := layout_branches found
      exact ⟨_, List.mem_singleton_self _, .inr ⟨key, kept _ disjunction, .eq, placed⟩⟩

/-- Another comparison joins the mapping if the field has no equality. -/
theorem constrain_joins (harmony : Harmonious seen) {comparator : Comparator} (inequality : comparator ≠ .eq)
    {field : String} (value : Value) (apart : ¬(field = branchesKey ∧ .alternatives ∈ places seen))
    (unequal : .comparison field .eq ∉ places seen) :
    Settles [seen ++ [Operator.comparison comparator field value]] (· = layout (seen ++ [Operator.comparison comparator field value]) branches)
      (.ok ((layout seen branches).put field (.operators (Entries.put comparator.tag (comparator.operand value)
        (Entries.ofPairs (constraints seen field)))))) := by
  have fills : (Operator.comparison comparator field value).slot? = some (.comparison field comparator) := rfl
  constructor
  · refine List.forall_mem_singleton.mpr (harmonious_concat harmony fills ?_)
    rintro (⟨equality, _⟩ | ⟨key, disjunction, _⟩)
    · rcases (mem_places_concat fills _).mp equality with before | same
      · exact unequal before
      · cases same
        exact inequality rfl
    · exact apart ⟨key, (alternatives_compared ..).mp disjunction⟩
  · have none : equalities seen field = [] := by simpa using mt equalities_ne_nil.mp unequal
    have bound : binding (seen ++ [Operator.comparison comparator field value]) branches field =
        .operators (Entries.put comparator.tag (comparator.operand value) (Entries.ofPairs (constraints seen field))) := by
      simp [binding, alternatives_compared, apart, equalities_compared, constraints_compared, none, inequality,
        Entries.ofPairs_concat]
    have put := layout_put fills (fun key other => @binding_compared seen branches comparator field value key other)
    rw [show (Slot.comparison field comparator).key = field from rfl, bound] at put
    exact put

theorem constrain_settles (harmony : Harmonious seen) {comparator : Comparator} (inequality : comparator ≠ .eq)
    (field : String) (value : Value) :
    Settles [seen ++ [Operator.comparison comparator field value]] (· = layout (seen ++ [Operator.comparison comparator field value]) branches)
      ((layout seen branches).constrain comparator field (comparator.operand value)) := by
  have fills : (Operator.comparison comparator field value).slot? = some (.comparison field comparator) := rfl
  have placed : .comparison field comparator ∈ places (seen ++ [Operator.comparison comparator field value]) :=
    (mem_places_concat fills _).mpr (.inr rfl)
  have kept : ∀ slot ∈ places seen, slot ∈ places (seen ++ [Operator.comparison comparator field value]) :=
    fun slot member => (mem_places_concat fills _).mpr (.inl member)
  unfold Criteria.constrain
  cases found : (layout seen branches).get? field with
  | none =>
    have absent := layout_absent found
    have none : constraints seen field = [] := by
      by_contra some
      obtain ⟨other, _, member⟩ := constraints_ne_nil.mp some
      exact absent _ member rfl
    have joins := @constrain_joins seen branches harmony _ inequality field value
      (fun both => absent _ both.2 both.1.symm) fun member => absent _ member rfl
    rw [none] at joins
    exact joins
  | some constraint =>
    cases constraint with
    | equals old =>
      obtain ⟨_, equality⟩ := layout_equals found
      exact ⟨_, List.mem_singleton_self _, .inl ⟨kept _ equality, comparator, inequality, placed⟩⟩
    | operators values =>
      obtain ⟨apart, none, _, rfl⟩ := layout_operators found
      exact constrain_joins harmony inequality value apart fun member => equalities_ne_nil.mpr member none
    | branches alternatives =>
      obtain ⟨key, disjunction, _⟩ := layout_branches found
      exact ⟨_, List.mem_singleton_self _, .inr ⟨key, kept _ disjunction, comparator, placed⟩⟩

theorem compare_settles (harmony : Harmonious seen) (comparator : Comparator) (field : String) (value : Value) :
    Settles [seen ++ [Operator.comparison comparator field value]] (· = layout (seen ++ [Operator.comparison comparator field value]) branches)
      ((layout seen branches).compare comparator field value) := by
  unfold Criteria.compare
  by_cases equality : comparator = .eq
  · subst equality
    exact equate_settles harmony field value
  · rw [if_neg equality]
    exact constrain_settles harmony equality field value

theorem branch_settles (harmony : Harmonious seen) (none : .alternatives ∉ places seen → branches = [])
    (operands : List Operator) (more : List Criteria) :
    Settles [seen ++ [Operator.logical .or operands]] (· = layout (seen ++ [Operator.logical .or operands]) (branches ++ more))
      ((layout seen branches).branch more) := by
  have fills : (Operator.logical .or operands).slot? = some .alternatives := rfl
  have placed : .alternatives ∈ places (seen ++ [Operator.logical .or operands]) := (mem_places_concat fills _).mpr (.inr rfl)
  have kept : ∀ slot ∈ places seen, slot ∈ places (seen ++ [Operator.logical .or operands]) :=
    fun slot member => (mem_places_concat fills _).mpr (.inl member)
  have joins (free : ∀ comparator, .comparison branchesKey comparator ∉ places seen) :
      Settles [seen ++ [Operator.logical .or operands]] (· = layout (seen ++ [Operator.logical .or operands]) (branches ++ more))
        (.ok ((layout seen branches).put branchesKey (.branches (branches ++ more)))) := by
    constructor
    · refine List.forall_mem_singleton.mpr (harmonious_concat harmony fills ?_)
      have old : ∀ comparator, .comparison branchesKey comparator ∉ places (seen ++ [Operator.logical .or operands]) :=
        fun comparator member => (mem_places_concat fills _).mp member |>.elim (free comparator) (by simp)
      rintro (⟨equality, _⟩ | ⟨_, _, comparator, compared⟩)
      · exact old _ equality
      · exact old _ compared
    · have bound : binding (seen ++ [Operator.logical .or operands]) (branches ++ more) branchesKey = .branches (branches ++ more) :=
        if_pos ⟨rfl, placed⟩
      have put := layout_put fills (fun key other => @binding_disjunction seen branches (branches ++ more) operands key other)
      rw [show Slot.alternatives.key = branchesKey from rfl, bound] at put
      exact put
  unfold Criteria.branch
  cases found : (layout seen branches).get? branchesKey with
  | none =>
    have absent := layout_absent found
    have settled := joins fun comparator member => absent _ member rfl
    rw [none fun member => absent _ member rfl] at settled ⊢
    exact settled
  | some constraint =>
    cases constraint with
    | equals old =>
      obtain ⟨_, equality⟩ := layout_equals found
      exact ⟨_, List.mem_singleton_self _, .inr ⟨rfl, placed, .eq, kept _ equality⟩⟩
    | operators values =>
      obtain ⟨_, _, compared, _⟩ := layout_operators found
      obtain ⟨comparator, _, member⟩ := constraints_ne_nil.mp compared
      exact ⟨_, List.mem_singleton_self _, .inr ⟨rfl, placed, comparator, kept _ member⟩⟩
    | branches earlier =>
      obtain ⟨_, disjunction, rfl⟩ := layout_branches found
      exact joins fun comparator member => harmony branchesKey (.inr ⟨rfl, disjunction, comparator, member⟩)

end

/-- The criteria are the mapping of the operators so far, which do not clash. -/
structure Filled (seen : List Operator) (branches : List Criteria) (criteria : Criteria) : Prop where
  harmony : Harmonious seen
  noBranches : .alternatives ∉ places seen → branches = []
  eq_layout : criteria = layout seen branches

theorem Filled.nil : Filled [] [] [] where
  harmony field clash := by
    rcases clash with ⟨equality, _⟩ | ⟨_, disjunction, _⟩
    · cases equality
    · cases disjunction
  noBranches _ := rfl
  eq_layout := rfl

/-- An operator that fills no place leaves the criteria as they are. -/
theorem Filled.idle {seen : List Operator} {branches : List Criteria} {criteria : Criteria}
    (filled : Filled seen branches criteria) {operator : Operator} (idle : operator.slot? = none) :
    (∀ scope ∈ [seen ++ [operator]], Harmonious scope) ∧ criteria = layout (seen ++ [operator]) (branches ++ []) := by
  have same : places (seen ++ [operator]) = places seen := by simp [places, List.filterMap_append, idle]
  constructor
  · rw [List.forall_mem_singleton]
    exact fun field clash => filled.harmony field (clash.mono (same ▸ List.Subset.refl _))
  · rw [List.append_nil, layout_idle idle]
    exact filled.eq_layout

end Operator

/-! ### Runs -/

namespace FindQuery
open Operator

variable {idField : String}

mutual

/-- One more operator takes the criteria to the mapping of its scope as well, or something clashes. -/
theorem add_settles (operator : Operator) {seen : List Operator} {branches : List Criteria} {query : FindQuery}
    (filled : Filled seen branches query.criteria) :
    Settles ((seen ++ operator.scope) :: operator.innerScopes)
      (fun after => after.criteria = layout (seen ++ operator.scope) (branches ++ operator.branches))
      (add idField operator query) := by
  cases operator with
  | comparison comparator field value =>
    have compared := @compare_settles seen branches filled.harmony comparator field value
    rw [← filled.eq_layout] at compared
    have none : (Operator.comparison comparator field value).branches = [] := rfl
    rw [none, List.append_nil]
    exact compared.map fun after same => same
  | logical connective operands =>
    cases connective with
    | and => exact addAll_settles operands filled
    | or =>
      have branched (each : FindOptions × List Criteria) (same : each.2 = mappings operands) :
          Settles [seen ++ [Operator.logical .or operands]]
            (fun after => after.criteria = layout (seen ++ [Operator.logical .or operands]) (branches ++ mappings operands))
            (do return (⟨← query.criteria.branch each.2, each.1⟩ : FindQuery)) := by
        have settled := branch_settles filled.harmony filled.noBranches operands each.2
        rw [← filled.eq_layout, same] at settled
        rw [same]
        exact settled.map fun after reached => reached
      refine (addEach_settles operands query.options).bind (fun each _ same => branched each same) ?_ ?_
      · intro scope member
        exact ⟨scope, by simpa [Operator.scope, innerScopes, or_comm] using member, List.Subset.refl _⟩
      · simp [Operator.scope, innerScopes, or_comm]
  | sort specs => exact filled.idle rfl
  | select specs =>
    have idle := @Filled.idle _ _ _ filled (.select specs) rfl
    unfold add FindOptions.addSelect FindOptions.checkProjection
    dsimp only
    split
    · exact ⟨_, List.mem_cons_self, specs, by simp [Operator.scope]⟩
    · exact idle
  | limit count skip => exact filled.idle rfl
  | cursor side token => exact filled.idle rfl
termination_by structural operator

/-- More operators take the criteria to the mapping of their scope as well. -/
theorem addAll_settles (operators : List Operator) {seen : List Operator} {branches : List Criteria} {query : FindQuery}
    (filled : Filled seen branches query.criteria) :
    Settles ((seen ++ scopeAll operators) :: innerScopesAll operators)
      (fun after => after.criteria = layout (seen ++ scopeAll operators) (branches ++ branchesAll operators))
      (addAll idField operators query) := by
  cases operators with
  | nil =>
    rw [scopeAll, branchesAll, List.append_nil, List.append_nil]
    exact ⟨by simpa [innerScopesAll] using filled.harmony, filled.eq_layout⟩
  | cons operator rest =>
    have later (middle : FindQuery) (harmony : ∀ scope ∈ (seen ++ operator.scope) :: operator.innerScopes, Harmonious scope)
        (reached : middle.criteria = layout (seen ++ operator.scope) (branches ++ operator.branches)) :
        Settles ((seen ++ scopeAll (operator :: rest)) :: innerScopesAll rest)
          (fun after => after.criteria =
            layout (seen ++ scopeAll (operator :: rest)) (branches ++ branchesAll (operator :: rest)))
          (addAll idField rest middle) := by
      have next : Filled (seen ++ operator.scope) (branches ++ operator.branches) middle.criteria := by
        refine ⟨harmony _ List.mem_cons_self, fun absent => ?_, reached⟩
        rw [places, List.filterMap_append, List.mem_append, not_or] at absent
        rw [filled.noBranches absent.1, branches_eq_nil absent.2]
        rfl
      have settled := addAll_settles rest next
      rw [List.append_assoc, List.append_assoc] at settled
      exact settled
    refine (add_settles operator filled).bind later ?_ ?_
    · intro scope member
      rw [List.mem_append, List.mem_cons] at member
      rcases member with (rfl | inner) | member
      · -- The scope of the first operators is a part of the whole scope.
        refine ⟨_, List.mem_cons_self, ?_⟩
        rw [scopeAll, ← List.append_assoc]
        exact List.subset_append_left _ _
      · exact ⟨scope, by simp [innerScopesAll, inner], List.Subset.refl _⟩
      · exact ⟨scope, by simpa [innerScopesAll] using (List.mem_cons.mp member).imp id .inr, List.Subset.refl _⟩
    · intro scope member
      rw [innerScopesAll, List.mem_cons, List.mem_append] at member
      rcases member with whole | inner | inner
      · exact List.mem_append_right _ (whole ▸ List.mem_cons_self)
      · exact List.mem_append_left _ (List.mem_cons_of_mem _ inner)
      · exact List.mem_append_right _ (List.mem_cons_of_mem _ inner)
termination_by structural operators

/-- Operators of which each has criteria of its own take these to the mappings of their scopes. -/
theorem addEach_settles (operators : List Operator) (options : FindOptions) :
    Settles (branchScopes operators) (fun after => after.2 = mappings operators) (addEach idField operators options) := by
  cases operators with
  | nil => exact ⟨by simp [branchScopes], rfl⟩
  | cons operator rest =>
    have own := @add_settles operator [] [] ⟨[], options⟩ .nil
    have others (branch : FindQuery) (same : branch.criteria = layout operator.scope operator.branches) :
        Settles (branchScopes rest) (fun after => after.2 = mappings (operator :: rest)) (do
          let (options, alternatives) ← addEach idField rest branch.options
          return (options, branch.criteria :: alternatives)) := by
      refine (addEach_settles rest branch.options).map fun each reached => ?_
      rw [same, reached, mappings]
    refine own.bind (fun branch _ same => others branch same) ?_ ?_
    · intro scope member
      exact ⟨scope, by simpa [branchScopes] using member, List.Subset.refl _⟩
    · simp [branchScopes]
termination_by structural operators

end

/-- What becomes of a query: its scopes are taken one by one, or refused. -/
theorem compile_settles {value : Value} {operator : Operator} (valid : Operator.check value = .ok operator) :
    Settles operator.scopes (fun found => found.criteria = mapping operator.scope) (compile idField value) := by
  have settled := @add_settles idField operator [] [] {} .nil
  rw [List.nil_append, List.nil_append, ← mapping_scope] at settled
  rw [compile, valid]
  exact settled

/-- The criteria and all criteria inside of them are the mappings of the scopes, none of which clashes. -/
theorem compile_layers {value : Value} {operator : Operator} {found : FindQuery}
    (valid : Operator.check value = .ok operator) (compiled : compile idField value = .ok found) :
    found.criteria.layers = operator.scopes.map mapping ∧ ∀ scope ∈ operator.scopes, Harmonious scope := by
  have settled := @compile_settles idField _ _ valid
  rw [compiled] at settled
  obtain ⟨harmony, content⟩ := settled
  exact ⟨by rw [content, Criteria.layers_mapping], harmony⟩

/-- **The content of criteria.** The criteria that are found, and all criteria inside of them, are the
mappings of the scopes in order, and each of these is what its scope says. -/
theorem compile_content {value : Value} {operator : Operator} {found : FindQuery}
    (valid : Operator.check value = .ok operator) (compiled : compile idField value = .ok found) :
    found.criteria.layers = operator.scopes.map mapping ∧
      ∀ scope ∈ operator.scopes, Criteria.Describes scope (mapping scope) := by
  obtain ⟨layers, harmony⟩ := compile_layers valid compiled
  exact ⟨layers, fun scope member => describes_mapping member (harmony scope member)⟩

/-- Two equalities of one field, comparisons on both sides of a conjunction, and two disjunctions. -/
theorem compile_content_mixed :
    ∃ value operator found,
      value = .node (.text "and") [.node (.text "eq") [.text "a", .int 1],
        .node (.text "or") [.node (.text "gt") [.text "a", .int 0]],
        .node (.text "and") [.node (.text "gt") [.text "b", .int 2], .node (.text "eq") [.text "a", .int 3]],
        .node (.text "in") [.text "b", .int 5], .node (.text "gt") [.text "b", .int 7],
        .node (.text "or") [.node (.text "lt") [.text "c", .null], .node (.text "sort") [.text "c"]]] ∧
      Operator.check value = .ok operator ∧ compile "_id" value = .ok found ∧
      operator.scopes =
        [[.comparison .eq "a" (.int 1), .logical .or [.comparison .gt "a" (.int 0)], .comparison .gt "b" (.int 2),
          .comparison .eq "a" (.int 3), .comparison .in "b" (.int 5), .comparison .gt "b" (.int 7),
          .logical .or [.comparison .lt "c" .null, .sort ["c"]]],
        [.comparison .gt "a" (.int 0)], [.comparison .lt "c" .null], [.sort ["c"]]] ∧
      found.criteria.layers =
        [[("a", .equals (.int 3)),
          ("$or", .branches [[("a", .operators [("$gt", .int 0)])], [("c", .operators [("$lt", .null)])], []]),
          ("b", .operators [("$gt", .int 7), ("$in", .list [.int 5])])],
        [("a", .operators [("$gt", .int 0)])], [("c", .operators [("$lt", .null)])], []] ∧
      List.Forall₂ Criteria.Describes operator.scopes found.criteria.layers := by
  refine ⟨_, ?operator, ?found, rfl, ?valid, ?compiled, ?scopes, ?layers,
    (compile_content ?valid ?compiled).elim ?described⟩
  case valid => rfl
  case compiled => rfl
  case scopes => rfl
  case layers => rfl
  case described =>
    intro layers described
    rw [layers]
    exact List.forall₂_map_right_iff.mpr (List.forall₂_same.mpr described)

end FindQuery
end ResourceQuery
