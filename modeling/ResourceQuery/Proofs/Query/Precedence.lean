import ResourceQuery.Proofs.Query.Terms

/-!
Conjunction binds tighter than disjunction. A `Junction` is the part of a tree that the separators
build, with the terms as leaves; `Junction.join` is `Query.join` on any leaves. The leaves of a
text of terms are its terms in order, and the junction means the disjunction of the runs of terms
between the disjunction signs (`read_sequence_junction`).
-/
namespace ResourceQuery

/-- Terms joined by connectives. -/
inductive Junction (α : Type)
  | leaf (term : α)
  | node (connective : Connective) (parts : List (Junction α))

namespace Junction
variable {α : Type}

mutual

/-- The leaves from left to right. -/
def leaves : Junction α → List α
  | .leaf term => [term]
  | .node _ parts => leavesAll parts
termination_by structural tree => tree

def leavesAll : List (Junction α) → List α
  | [] => []
  | tree :: rest => tree.leaves ++ leavesAll rest
termination_by structural trees => trees

end

section
variable (queryOf : α → Query)

mutual

/-- The query tree of a junction. -/
def toQuery : Junction α → Query
  | .leaf term => queryOf term
  | .node connective parts => Query.joined connective (toQueries parts)
termination_by structural tree => tree

def toQueries : List (Junction α) → List Query
  | [] => []
  | tree :: rest => tree.toQuery :: toQueries rest
termination_by structural trees => trees

end
end

section
variable (truth : α → Prop)

mutual

/-- The truth of a junction by that of its leaves. -/
def Holds : Junction α → Prop
  | .leaf term => truth term
  | .node .and parts => AllHold parts
  | .node .or parts => AnyHolds parts
termination_by structural tree => tree

def AllHold : List (Junction α) → Prop
  | [] => True
  | tree :: rest => tree.Holds ∧ AllHold rest
termination_by structural trees => trees

def AnyHolds : List (Junction α) → Prop
  | [] => False
  | tree :: rest => tree.Holds ∨ AnyHolds rest
termination_by structural trees => trees

end
end

/-- The junction of terms, of which `done` and then `last` are joined by `top` and the rest is still
to come. -/
def joinFrom (top : Connective) (done : List (Junction α)) (last : Junction α) :
    List (Connective × α) → Junction α
  | [] => .node top (done ++ [last])
  | (connective, next) :: rest =>
    if connective = top then joinFrom top (done ++ [last]) (.leaf next) rest
    else
      match connective with
      | .and => .node top (done ++ [joinFrom .and [last] (.leaf next) rest])
      | .or => joinFrom .or [.node top (done ++ [last])] (.leaf next) rest

/-- The junction of a term and the terms after it. -/
def join (first : α) : List (Connective × α) → Junction α
  | [] => .leaf first
  | (connective, next) :: rest => joinFrom connective [.leaf first] (.leaf next) rest

theorem toQueries_append (queryOf : α → Query) (front back : List (Junction α)) :
    toQueries queryOf (front ++ back) = toQueries queryOf front ++ toQueries queryOf back := by
  induction front with
  | nil => rfl
  | cons tree rest ih => simp [toQueries, ih]

theorem toQuery_joinFrom (queryOf : α → Query) (rest : List (Connective × α)) (top : Connective)
    (done : List (Junction α)) (last : Junction α) :
    (joinFrom top done last rest).toQuery queryOf =
      Query.joinFrom top (toQueries queryOf done) (last.toQuery queryOf)
        (rest.map fun item => (item.1, queryOf item.2)) := by
  induction rest generalizing top done last with
  | nil => simp [joinFrom, Query.joinFrom, toQuery, toQueries_append, toQueries]
  | cons item rest ih =>
    obtain ⟨connective, next⟩ := item
    cases connective <;> cases top <;>
      simp [joinFrom, Query.joinFrom, ih, toQueries_append, toQueries, toQuery]

theorem toQuery_join (queryOf : α → Query) (first : α) (rest : List (Connective × α)) :
    (join first rest).toQuery queryOf = Query.join (queryOf first) (rest.map fun item => (item.1, queryOf item.2)) := by
  cases rest with
  | nil => rfl
  | cons item rest => exact toQuery_joinFrom queryOf rest item.1 [.leaf first] (.leaf item.2)

theorem leavesAll_append (front back : List (Junction α)) :
    leavesAll (front ++ back) = leavesAll front ++ leavesAll back := by
  induction front with
  | nil => rfl
  | cons tree rest ih => simp [leavesAll, ih]

theorem leaves_joinFrom (rest : List (Connective × α)) (top : Connective) (done : List (Junction α))
    (last : Junction α) :
    (joinFrom top done last rest).leaves = leavesAll done ++ last.leaves ++ rest.map Prod.snd := by
  induction rest generalizing top done last with
  | nil => simp [joinFrom, leaves, leavesAll_append, leavesAll]
  | cons item rest ih =>
    obtain ⟨connective, next⟩ := item
    cases connective <;> cases top <;> simp [joinFrom, ih, leavesAll_append, leavesAll, leaves]

theorem leaves_join (first : α) (rest : List (Connective × α)) :
    (join first rest).leaves = first :: rest.map Prod.snd := by
  cases rest with
  | nil => rfl
  | cons item rest => exact leaves_joinFrom rest item.1 [.leaf first] (.leaf item.2)

/-- The runs of terms that are joined by conjunction: the first one, and those after it. -/
def runsFrom (first : α) : List (Connective × α) → List α × List (List α)
  | [] => ([first], [])
  | (connective, next) :: rest =>
    match connective, runsFrom next rest with
    | .and, (run, later) => (first :: run, later)
    | .or, (run, later) => ([first], run :: later)

/-- The longest runs of terms that are joined by conjunction. -/
def runs (first : α) (rest : List (Connective × α)) : List (List α) := (runsFrom first rest).1 :: (runsFrom first rest).2

section
variable (truth : α → Prop)

/-- The truth of terms of which those so far amount to `sofar` in the current run. -/
def Runs (sofar : Prop) : List (Connective × α) → Prop
  | [] => sofar
  | (.and, next) :: rest => Runs (sofar ∧ truth next) rest
  | (.or, next) :: rest => sofar ∨ Runs (truth next) rest

theorem runs_iff (rest : List (Connective × α)) (first : α) (sofar : Prop) :
    Runs truth (sofar ∧ truth first) rest ↔
      (sofar ∧ ∀ term ∈ (runsFrom first rest).1, truth term) ∨
        ∃ run ∈ (runsFrom first rest).2, ∀ term ∈ run, truth term := by
  induction rest generalizing first sofar with
  | nil => simp [Runs, runsFrom]
  | cons item rest ih =>
    obtain ⟨connective, next⟩ := item
    cases connective with
    | and =>
      rw [Runs, ih]
      simp [runsFrom, and_assoc]
    | or =>
      have later := ih next True
      rw [true_and, true_and] at later
      rw [Runs, later]
      simp [runsFrom]

theorem allHold_append (front back : List (Junction α)) :
    AllHold truth (front ++ back) ↔ AllHold truth front ∧ AllHold truth back := by
  induction front with
  | nil => simp [AllHold]
  | cons tree rest ih => simp [AllHold, ih, and_assoc]

theorem anyHolds_append (front back : List (Junction α)) :
    AnyHolds truth (front ++ back) ↔ AnyHolds truth front ∨ AnyHolds truth back := by
  induction front with
  | nil => simp [AnyHolds]
  | cons tree rest ih => simp [AnyHolds, ih, or_assoc]

/-- A conjunction under way is one run; under a disjunction only the last term is. -/
theorem holds_joinFrom (rest : List (Connective × α)) (done : List (Junction α)) (last : Junction α) :
    ((joinFrom .and done last rest).Holds truth ↔ Runs truth (AllHold truth done ∧ last.Holds truth) rest) ∧
      ((joinFrom .or done last rest).Holds truth ↔ AnyHolds truth done ∨ Runs truth (last.Holds truth) rest) := by
  induction rest generalizing done last with
  | nil => simp [joinFrom, Holds, Runs, allHold_append, anyHolds_append, AllHold, AnyHolds]
  | cons item rest ih =>
    obtain ⟨connective, next⟩ := item
    cases connective with
    | and => simp [joinFrom, Holds, Runs, ih, allHold_append, anyHolds_append, AllHold, AnyHolds, and_assoc]
    | or => simp [joinFrom, Holds, Runs, ih, allHold_append, anyHolds_append, AllHold, AnyHolds, or_assoc]

theorem holds_join (first : α) (rest : List (Connective × α)) :
    (join first rest).Holds truth ↔ ∃ run ∈ runs first rest, ∀ term ∈ run, truth term := by
  have meaning := runs_iff truth rest first True
  rw [true_and, true_and] at meaning
  simp only [runs, List.mem_cons, exists_eq_or_imp]
  rw [← meaning]
  cases rest with
  | nil => exact Iff.rfl
  | cons item rest =>
    obtain ⟨connective, next⟩ := item
    cases connective with
    | and => simpa [join, Runs, AllHold, Holds] using (holds_joinFrom truth rest [.leaf first] (.leaf next)).1
    | or => simpa [join, Runs, AnyHolds, Holds] using (holds_joinFrom truth rest [.leaf first] (.leaf next)).2

end
end Junction

namespace Query

/-- The terms behind separators, each with its connective, and with its place in the text counted
from `place` on. -/
def placed (place : Nat) : List Joint → List (Connective × Query × Nat)
  | [] => []
  | joint :: rest => (joint.connective, joint.query, place) :: placed (place + 1) rest

theorem placed_queries (place : Nat) (rest : List Joint) :
    (placed place rest).map (fun item => (item.1, item.2.1)) =
      rest.map fun joint => (joint.connective, joint.query) := by
  induction rest generalizing place with
  | nil => rfl
  | cons joint rest ih => simp [placed, ih]

theorem placed_leaves (place : Nat) (rest : List Joint) :
    (placed place rest).map Prod.snd = (rest.map Joint.query).zipIdx place := by
  induction rest generalizing place with
  | nil => rfl
  | cons joint rest ih => simp [placed, ih, List.zipIdx_cons]

/-- **Conjunction binds tighter than disjunction.** A text of terms is read as a junction whose
leaves are the terms in order, each with its place, and which holds when all terms of some run
do. -/
theorem read_sequence_junction {first : List Char} {query : Query} {rest : List Joint} (head : IsTerm first query)
    (valid : ∀ joint ∈ rest, joint.Valid) :
    ∃ tree : Junction (Query × Nat), read (sequence first rest) = .ok (tree.toQuery Prod.fst) ∧
      tree.leaves = (query :: rest.map Joint.query).zipIdx ∧
      ∀ truth : Query × Nat → Prop, tree.Holds truth ↔
        ∃ run ∈ Junction.runs (query, 0) (placed 1 rest), ∀ term ∈ run, truth term := by
  refine ⟨Junction.join (query, 0) (placed 1 rest), ?_, ?_, fun truth => Junction.holds_join truth _ _⟩
  · rw [read_sequence head valid, Junction.toQuery_join, placed_queries]
  · rw [Junction.leaves_join, placed_leaves, List.zipIdx_cons]

/-- A call, a name and a group, with a disjunction and then a conjunction between them. -/
theorem read_sequence_junction_switches :
    ∃ (first : List Char) (query : Query) (rest : List Joint) (tree : Junction (Query × Nat)),
      sequence first rest = ['f', '(', 'x', ')', '|', 'b', ',', '(', 'c', '|', 'd', ')'] ∧
      IsTerm first query ∧ (∀ joint ∈ rest, joint.Valid) ∧
      read (sequence first rest) = .ok (tree.toQuery Prod.fst) ∧
      tree.toQuery Prod.fst = ⟨"or", [.node (.text "f") [.text "x"], .node (.text "and") [.node (.text "b") [],
        .node (.text "or") [.node (.text "c") [], .node (.text "d") []]]]⟩ ∧
      tree.leaves = [(⟨"f", [.text "x"]⟩, 0), (⟨"b", []⟩, 1),
        (⟨"or", [.node (.text "c") [], .node (.text "d") []]⟩, 2)] ∧
      ∀ truth : Nat → Prop, tree.Holds (fun leaf => truth leaf.2) ↔ truth 0 ∨ truth 1 ∧ truth 2 := by
  have call : IsTerm ['f', '(', 'x', ')'] ⟨"f", [.text "x"]⟩ := ⟨by rintro (_ | _) <;> decide, rfl⟩
  have name : IsTerm ['b'] ⟨"b", []⟩ := ⟨by rintro (_ | _) <;> decide, rfl⟩
  have group : IsTerm ['(', 'c', '|', 'd', ')'] ⟨"or", [.node (.text "c") [], .node (.text "d") []]⟩ :=
    ⟨by rintro (_ | _) <;> decide, rfl⟩
  have valid : ∀ joint ∈ [Joint.mk '|' .or ['b'] ⟨"b", []⟩, Joint.mk ',' .and ['(', 'c', '|', 'd', ')']
      ⟨"or", [.node (.text "c") [], .node (.text "d") []]⟩], joint.Valid := by
    simp only [List.forall_mem_cons, List.not_mem_nil, false_implies, implies_true, and_true]
    exact ⟨⟨by decide, name⟩, ⟨by decide, group⟩⟩
  obtain ⟨tree, done, leaves, meaning⟩ := read_sequence_junction call valid
  refine ⟨_, _, _, tree, rfl, call, valid, done, ?shape, leaves, fun truth => ?runs⟩
  case shape => exact (Except.ok.inj done).symm
  case runs =>
    rw [meaning]
    simp only [placed, Junction.runs, Junction.runsFrom, List.mem_cons, exists_eq_or_imp, forall_eq_or_imp]
    simp

end Query
end ResourceQuery
