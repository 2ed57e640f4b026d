import ResourceQuery.Proofs.Find.Meaning
import ResourceQuery.Proofs.Find.Regrouping

/-!
Paging that is pushed on a query. A limit and a cursor that become further operands of a conjunction
change the page of the results and nothing else. As further operands of a disjunction they set the
same page, but each brings alternatives of its own, and since these ask for nothing every document
meets the criteria (`FindQuery.compile_push_paging`).
-/
namespace ResourceQuery

/-- A limit with a number of results to leave out, and a cursor. -/
def Query.paging (count skip : Nat) (token : String) : List Value :=
  [(Query.limit count (some skip)).toValue, (Query.after token).toValue]

def FindOptions.withPage (options : FindOptions) (count skip : Nat) (token : String) : FindOptions :=
  { options with limit := count, skip := skip, after := token }

/-- Alternatives of which one asks for nothing are always met. -/
theorem Criteria.anyHolds_of_nil_mem {atom : Interpretation} {alternatives : List Criteria} (free : [] ∈ alternatives) :
    Criteria.AnyHolds atom alternatives := by
  induction alternatives with
  | nil => cases free
  | cons first rest ih =>
    rcases List.mem_cons.mp free with rfl | later
    · exact .inl trivial
    · exact .inr (ih later)

namespace FindQuery
open Operator (check checkAll check_logical checkAll_cons_eq_ok_iff checkAll_append_eq_ok_iff)

variable (idField : String) (count skip : Nat) (token : String)

theorem checkAll_paging :
    checkAll (Query.paging count skip token) = .ok [.limit count (some skip), .cursor .after token] := by
  have limit : check (Query.limit count (some skip)).toValue = .ok (.limit count (some skip)) := by
    have call : Value.call? (Query.limit count (some skip)).toValue = some ("limit", [.int count, .int skip]) := rfl
    have kind : OperatorKind.of? "limit" = some .limit := rfl
    simp [Operator.check_call call, Operator.ofCall, kind, Operator.checkLimit, Operator.count?]
  have cursor : check (Query.after token).toValue = .ok (.cursor .after token) := by
    have call : Value.call? (Query.after token).toValue = some ("after", [.text token]) := rfl
    have kind : OperatorKind.of? "after" = some (.cursor .after) := rfl
    simp [Operator.check_call call, Operator.ofCall, kind, Operator.checkCursor]
  exact checkAll_cons_eq_ok_iff.mpr ⟨_, _, limit, checkAll_cons_eq_ok_iff.mpr ⟨_, _, cursor, rfl, rfl⟩, rfl⟩

/-- A query that is joined has the operators of pushed paging after those of its operands. -/
theorem check_push_paging {query : Query} {connective : Connective}
    (kind : OperatorKind.of? query.name = some (.logical connective)) {operands : List Operator}
    (checked : checkAll query.args = .ok operands) :
    check (query.push (Query.paging count skip token)).toValue =
      .ok (.logical connective (operands ++ [Operator.limit count (some skip), Operator.cursor .after token])) := by
  have all := checkAll_append_eq_ok_iff.mpr ⟨_, _, checked, checkAll_paging count skip token, rfl⟩
  exact (check_logical rfl kind).mpr ⟨by simp [Query.paging], _, all, rfl⟩

theorem addAll_paging (query : FindQuery) :
    addAll idField [.limit count (some skip), .cursor .after token] query =
      .ok { query with options := query.options.withPage count skip token } := rfl

theorem addEach_paging (options : FindOptions) :
    addEach idField [.limit count (some skip), .cursor .after token] options =
      .ok (options.withPage count skip token, [[], []]) := rfl

/-- What a disjunction as the root becomes: alternatives alone. -/
theorem add_disjunction {idField : String} {operands : List Operator} {found : FindQuery}
    (added : add idField (.logical .or operands) {} = .ok found) :
    ∃ alternatives, addEach idField operands {} = .ok (found.options, alternatives) ∧
      found.criteria = [(branchesKey, .branches alternatives)] := by
  obtain ⟨⟨options, alternatives⟩, each, rest⟩ := Outcome.bind_eq_ok_iff.mp added
  cases rest
  exact ⟨alternatives, each, rfl⟩

/-- **Paging that is pushed.** A query that is joined and has a result still has one when a limit and a
cursor are pushed on it, with the new page and all other options as before. The criteria are those from
before exactly if the query is a conjunction; a disjunction gets two alternatives that ask for nothing,
so that the criteria are always met. -/
theorem compile_push_paging {query : Query} {connective : Connective} {found : FindQuery}
    (kind : OperatorKind.of? query.name = some (.logical connective))
    (compiled : compile idField query.toValue = .ok found) :
    ∃ criteria, compile idField (query.push (Query.paging count skip token)).toValue =
        .ok ⟨criteria, { found.options with limit := count, skip := skip, after := token }⟩ ∧
      (criteria = found.criteria ↔ connective = .and) ∧
      (connective = .or →
        (∃ alternatives, found.criteria = [(branchesKey, .branches alternatives)] ∧
          criteria = [(branchesKey, .branches (alternatives ++ [[], []]))]) ∧
        ∀ atom, Criteria.Holds atom criteria) := by
  obtain ⟨operator, valid, added⟩ := Outcome.bind_eq_ok_iff.mp compiled
  obtain ⟨_, operands, checked, rfl⟩ := (check_logical rfl kind).mp valid
  rw [compile, check_push_paging count skip token kind checked, Outcome.ok_bind]
  cases connective with
  | and =>
    have run : addAll idField operands {} = .ok found := added
    refine ⟨found.criteria, ?_, by simp, fun other => by cases other⟩
    rw [ofOperator, add, addAll_append, run]
    exact addAll_paging idField count skip token found
  | or =>
    obtain ⟨alternatives, each, criteria⟩ := add_disjunction added
    refine ⟨[(branchesKey, .branches (alternatives ++ [[], []]))], ?_, ?_, fun _ =>
      ⟨⟨alternatives, criteria, rfl⟩, fun atom => ?_⟩⟩
    · rw [ofOperator, add, addEach_append, each, Outcome.ok_bind]
      dsimp only
      rw [addEach_paging]
      rfl
    · rw [criteria]
      simp
    · exact ⟨Criteria.anyHolds_of_nil_mem (by simp), trivial⟩

/-- A conjunction with a mapping and a limit of its own, which the pushed one replaces. -/
theorem compile_push_paging_joined :
    ∃ query : Query,
      query = ⟨"AND", [.mapping [("name", .text "eq"), ("args", .list [.text "a", .int 1])],
        (Query.limit 5 none).toValue]⟩ ∧
      OperatorKind.of? query.name = some (.logical .and) ∧
      compile "_id" query.toValue = .ok ⟨[("a", .equals (.int 1))], { limit := 5 }⟩ ∧
      compile "_id" (query.push (Query.paging 10 20 "x")).toValue =
        .ok ⟨[("a", .equals (.int 1))], { limit := 10, skip := 20, after := "x" }⟩ := by
  have kind : OperatorKind.of? "AND" = some (.logical .and) := rfl
  have compiled : compile "_id" (Value.node (.text "AND")
      [.mapping [("name", .text "eq"), ("args", .list [.text "a", .int 1])], (Query.limit 5 none).toValue]) =
      .ok ⟨[("a", .equals (.int 1))], { limit := 5 }⟩ := rfl
  obtain ⟨criteria, pushed, same, _⟩ := @compile_push_paging "_id" 10 20 "x" ⟨"AND", _⟩ _ _ kind compiled
  obtain rfl := same.mpr rfl
  exact ⟨_, rfl, kind, compiled, pushed⟩

/-- Two alternatives no longer restrict the results when paging is pushed on them. -/
theorem compile_push_paging_alternatives :
    ∃ (query : Query) (found pushed : FindQuery),
      query = ⟨"or", [.node (.text "eq") [.text "a", .int 1], .node (.text "eq") [.text "b", .int 2]]⟩ ∧
      compile "_id" query.toValue = .ok found ∧
      compile "_id" (query.push (Query.paging 10 20 "x")).toValue = .ok pushed ∧
      pushed.options = { found.options with limit := 10, skip := 20, after := "x" } ∧
      pushed.criteria ≠ found.criteria ∧
      ∃ atom, Criteria.Holds atom pushed.criteria ∧ ¬Criteria.Holds atom found.criteria := by
  let found : Criteria := [(branchesKey, .branches [[("a", .equals (.int 1))], [("b", .equals (.int 2))]])]
  let pushed : Criteria := [(branchesKey, .branches [[("a", .equals (.int 1))], [("b", .equals (.int 2))], [], []])]
  have differ : pushed ≠ found := by simp [pushed, found]
  refine ⟨_, ⟨found, {}⟩, ⟨pushed, { limit := 10, skip := 20, after := "x" }⟩, rfl, rfl, rfl, rfl, differ,
    fun _ _ _ => False, ?_, ?_⟩
  · exact ⟨Criteria.anyHolds_of_nil_mem (by simp), trivial⟩
  · rintro ⟨(⟨unmet, _⟩ | ⟨unmet, _⟩ | none), _⟩
    · exact unmet
    · exact unmet
    · exact none

end FindQuery
end ResourceQuery
