import ResourceQuery.Find.Compile
import ResourceQuery.Proofs.Operator.Call

/-!
Nodes and mappings. A query may be given as a tree of nodes or as the mapping that stands for it, and
its nodes may themselves hold mappings as operands. No rule tells the two forms apart
(`Value.Interchangeable`): it makes no difference whether a mapping is read as a node before the rules
are checked or when it is met, so a tree and its plain form have the same operator or break the same
rule, and both are turned into the same find query or fail alike (`FindQuery.convert_plain_forms`).
-/
namespace ResourceQuery

namespace Value

mutual

/-- Every node that is reached through arguments and lists is named by a text. -/
def TextNamed : Value → Prop
  | .node (.text _) args => AllTextNamed args
  | .node _ _ => False
  | .list items => AllTextNamed items
  | _ => True
termination_by structural value => value

def AllTextNamed : List Value → Prop
  | [] => True
  | item :: rest => item.TextNamed ∧ AllTextNamed rest
termination_by structural items => items

end

/-- Two values that no rule tells apart: either both are queries, or hold queries, alike, or they are
one value. -/
structure Interchangeable (value other : Value) : Prop where
  queries : other.isQueryLike = value.isQueryLike
  contained : other.containsQuery = value.containsQuery
  plain : value.containsQuery = false → other = value

theorem Interchangeable.refl (value : Value) : Interchangeable value value := ⟨rfl, rfl, fun _ => rfl⟩

theorem anyContainsQuery_eq {values others : List Value} (each : List.Forall₂ Interchangeable values others) :
    anyContainsQuery others = anyContainsQuery values := by
  induction each with
  | nil => rfl
  | cons head _ ih => rw [anyContainsQuery, anyContainsQuery, head.contained, ih]

/-- Values without a query are what no rule tells apart from them. -/
theorem eq_of_interchangeable {values others : List Value} (each : List.Forall₂ Interchangeable values others)
    (free : anyContainsQuery values = false) : others = values := by
  induction each with
  | nil => rfl
  | cons head _ ih =>
    rw [anyContainsQuery, Bool.or_eq_false_iff] at free
    rw [head.plain free.1, ih free.2]

/-- A list of interchangeable values is interchangeable. -/
theorem Interchangeable.list {items others : List Value} (each : List.Forall₂ Interchangeable items others) :
    Interchangeable (.list items) (.list others) where
  queries := rfl
  contained := anyContainsQuery_eq each
  plain free := congrArg Value.list (eq_of_interchangeable each free)

end Value

namespace Operator
open Value (Interchangeable)

/-- What holds a query is neither a text nor a count. -/
theorem scalar_of_containsQuery {value : Value} (query : value.containsQuery = true) :
    text? value = none ∧ count? value = none := by
  cases value <;> first | exact ⟨rfl, rfl⟩ | cases query

theorem text?_eq {value other : Value} (same : Interchangeable value other) : text? other = text? value := by
  cases holds : value.containsQuery with
  | false => rw [same.plain holds]
  | true => rw [(scalar_of_containsQuery holds).1, (scalar_of_containsQuery (same.contained.trans holds)).1]

theorem count?_eq {value other : Value} (same : Interchangeable value other) : count? other = count? value := by
  cases holds : value.containsQuery with
  | false => rw [same.plain holds]
  | true => rw [(scalar_of_containsQuery holds).2, (scalar_of_containsQuery (same.contained.trans holds)).2]

theorem checkCursor_cons (side : Side) (name : String) (value : Value) (rest : List Value) :
    checkCursor side name (value :: rest) =
      match text? value with
      | some token => .ok (.cursor side token)
      | none => broken (.cursorText name) := by
  cases value <;> rfl

theorem mapM_text?_eq {values others : List Value} (each : List.Forall₂ Interchangeable values others) :
    others.mapM text? = values.mapM text? := by
  induction each with
  | nil => rfl
  | cons head _ ih => rw [List.mapM_cons, List.mapM_cons, text?_eq head, ih]

theorem checkLimit_eq {name : String} {values others : List Value} (each : List.Forall₂ Interchangeable values others) :
    checkLimit name others = checkLimit name values := by
  cases each with
  | nil => rfl
  | cons first rest =>
    cases rest with
    | nil =>
      unfold checkLimit
      dsimp only
      rw [count?_eq first]
    | cons second more =>
      unfold checkLimit
      dsimp only
      rw [count?_eq first]
      cases count? _ with
      | none => rfl
      | some count =>
        dsimp only
        rw [count?_eq second]
        cases more <;> rfl

theorem all_isQueryLike_eq {values others : List Value} (each : List.Forall₂ Interchangeable values others) :
    others.all Value.isQueryLike = values.all Value.isQueryLike := by
  induction each with
  | nil => rfl
  | cons head _ ih => rw [List.all_cons, List.all_cons, head.queries, ih]

/-- No kind of operator tells the arguments of two calls apart. -/
theorem ofCall_eq {name : String} {args others : List Value} (each : List.Forall₂ Interchangeable args others)
    (operands : Except Error (List Operator)) : ofCall name others operands = ofCall name args operands := by
  unfold ofCall
  split
  · rfl
  · unfold checkComparison
    rw [Value.anyContainsQuery_eq each]
    cases holds : Value.anyContainsQuery args with
    | true => rfl
    | false => rw [Value.eq_of_interchangeable each holds]
  · rw [all_isQueryLike_eq each]
    cases each <;> rfl
  · rw [checkFields, checkFields, mapM_text?_eq each]
  · rw [checkFields, checkFields, mapM_text?_eq each]
  · exact checkLimit_eq each
  · cases each with
    | nil => rfl
    | cons first rest => rw [checkCursor_cons, checkCursor_cons, text?_eq first]

end Operator

/-! ### Plain forms -/

namespace Value

mutual

/-- No rule tells a value from its plain form. -/
theorem interchangeable_toPlain : ∀ {value : Value}, value.TextNamed → Interchangeable value value.toPlain
  | .node (.text _) _, _ => ⟨rfl, rfl, fun free => nomatch free⟩
  | .list _, named => .list (interchangeable_toPlainItems named)
  | .null, _ => .refl _
  | .bool _, _ => .refl _
  | .int _, _ => .refl _
  | .real _, _ => .refl _
  | .text _, _ => .refl _
  | .moment _, _ => .refl _
  | .pattern _, _ => .refl _
  | .tuple _, _ => .refl _
  | .mapping _, _ => .refl _

theorem interchangeable_toPlainItems : ∀ {items : List Value}, AllTextNamed items →
    List.Forall₂ Interchangeable items (toPlainItems items)
  | [], _ => .nil
  | _ :: _, named => .cons (interchangeable_toPlain named.1) (interchangeable_toPlainItems named.2)

end

/-- The arguments in a mapping are the list under `args`. -/
theorem plainArgs?_eq (entries : List (String × Value)) :
    plainArgs? entries =
      match entries.lookup "args" with
      | some (.list items) => some (ofPlainItems items)
      | _ => none := by
  induction entries with
  | nil => rfl
  | cons entry rest ih =>
    obtain ⟨key, value⟩ := entry
    unfold plainArgs?
    rw [List.lookup_cons]
    by_cases same : key = "args"
    · subst same
      cases value <;> rfl
    · rw [if_neg same, beq_false_of_ne (Ne.symm same), ih]

/-- A mapping is read as a node if it stands for a query, and else kept. -/
theorem ofPlain_mapping (entries : List (String × Value)) :
    ofPlain (.mapping entries) =
      match call? (.mapping entries) with
      | some (name, args) => .node (.text name) (ofPlainItems args)
      | none => .mapping entries := by
  rw [ofPlain, plainArgs?_eq, call?]
  cases entries.lookup "name" with
  | none => rfl
  | some name =>
    cases entries.lookup "args" with
    | none => cases name <;> rfl
    | some args => cases name <;> cases args <;> rfl

theorem isQueryLike_mapping (entries : List (String × Value)) :
    isQueryLike (.mapping entries) = (call? (.mapping entries)).isSome := by
  rw [isQueryLike, call?]
  split <;> simp_all

mutual

/-- No rule tells a value from the one in which mappings are read as nodes. -/
theorem interchangeable_ofPlain : ∀ value : Value, Interchangeable value value.ofPlain
  | .mapping entries => by
    rw [ofPlain_mapping]
    cases call : call? (.mapping entries) with
    | none => exact .refl _
    | some parts =>
      have query : isQueryLike (.mapping entries) = true := by rw [isQueryLike_mapping, call]; rfl
      exact ⟨query.symm, query.symm, fun free => absurd (query.symm.trans free) Bool.noConfusion⟩
  | .list items => .list (interchangeable_ofPlainItems items)
  | .null => .refl _
  | .bool _ => .refl _
  | .int _ => .refl _
  | .real _ => .refl _
  | .text _ => .refl _
  | .moment _ => .refl _
  | .pattern _ => .refl _
  | .tuple _ => .refl _
  | .node _ _ => .refl _

theorem interchangeable_ofPlainItems : ∀ items : List Value, List.Forall₂ Interchangeable items (ofPlainItems items)
  | [] => .nil
  | item :: rest => .cons (interchangeable_ofPlain item) (interchangeable_ofPlainItems rest)

end

end Value

namespace Operator
open Value (TextNamed AllTextNamed Interchangeable call? ofPlainItems toPlainItems)

mutual

/-- A value and its plain form keep the same rules. -/
theorem check_toPlain : ∀ {value : Value}, value.TextNamed → check value.toPlain = check value
  | .node (.text name) args, named => by
    have call : call? (Value.toPlain (.node (.text name) args)) = some (name, toPlainItems args) := rfl
    rw [check_call call, checkAll_toPlainItems named, ofCall_eq (Value.interchangeable_toPlainItems named), check]
  | .list _, _ => rfl
  | .null, _ => rfl
  | .bool _, _ => rfl
  | .int _, _ => rfl
  | .real _, _ => rfl
  | .text _, _ => rfl
  | .moment _, _ => rfl
  | .pattern _, _ => rfl
  | .tuple _, _ => rfl
  | .mapping _, _ => rfl

theorem checkAll_toPlainItems : ∀ {items : List Value}, AllTextNamed items → checkAll (toPlainItems items) = checkAll items
  | [], _ => rfl
  | _ :: _, named => by
    rw [toPlainItems, checkAll, checkAll, check_toPlain named.1, checkAll_toPlainItems named.2]

end

mutual

/-- A value keeps the same rules when mappings are read as nodes first. -/
theorem check_ofPlain : ∀ value : Value, check value.ofPlain = check value
  | .mapping entries => by
    rw [Value.ofPlain_mapping]
    cases call : call? (.mapping entries) with
    | none => rfl
    | some parts =>
      obtain ⟨name, args⟩ := parts
      have same : check (.node (.text name) (ofPlainItems args)) =
          ofCall name (ofPlainItems args) (checkAll (ofPlainItems args)) :=
        rfl
      rw [same, check_call call, checkAll_listed entries (Value.lookup_of_call? call),
        ofCall_eq (Value.interchangeable_ofPlainItems args)]
  | .list _ => rfl
  | .null => rfl
  | .bool _ => rfl
  | .int _ => rfl
  | .real _ => rfl
  | .text _ => rfl
  | .moment _ => rfl
  | .pattern _ => rfl
  | .tuple _ => rfl
  | .node _ _ => rfl

/-- The list in a mapping has the same operators when mappings in it are read as nodes first. -/
theorem checkAll_listed : ∀ (entries : List (String × Value)) {args : List Value},
    entries.lookup "args" = some (.list args) → checkAll (ofPlainItems args) = checkAll args
  | [], _, listed => nomatch listed
  | (key, value) :: rest, args, listed => by
    rw [List.lookup_cons] at listed
    by_cases same : key = "args"
    · subst same
      cases value with
      | list items =>
        cases listed
        exact checkAll_ofPlainItems _
      | _ => cases listed
    · rw [beq_false_of_ne (Ne.symm same)] at listed
      exact checkAll_listed rest listed

theorem checkAll_ofPlainItems : ∀ items : List Value, checkAll (ofPlainItems items) = checkAll items
  | [] => rfl
  | item :: rest => by rw [ofPlainItems, checkAll, checkAll, check_ofPlain item, checkAll_ofPlainItems rest]

end

/-! ### Faults -/

/-- Where a check fails, a rule is broken. -/
def BreaksRules {α : Type} : Except Error α → Prop
  | .ok _ => True
  | .error fault => ∃ rule, fault = .rule rule

theorem BreaksRules.ok {α : Type} (result : α) : BreaksRules (.ok result) := trivial

theorem BreaksRules.broken {α : Type} (rule : RuleFault) : BreaksRules (broken rule : Except Error α) := ⟨rule, rfl⟩

theorem BreaksRules.map {α β : Type} {outcome : Except Error α} (one : BreaksRules outcome) (f : α → β) :
    BreaksRules (outcome.map f) := by
  cases outcome with
  | ok result => trivial
  | error fault => exact one

theorem BreaksRules.bind {α β : Type} {first : Except Error α} {next : α → Except Error β} (one : BreaksRules first)
    (two : ∀ result, BreaksRules (next result)) : BreaksRules (first >>= next) := by
  cases first with
  | ok result => exact two result
  | error fault => exact one

theorem breaksRules_checkComparison (comparator : Comparator) (name : String) (args : List Value) :
    BreaksRules (checkComparison comparator name args) := by
  unfold checkComparison
  split
  · exact .broken _
  · split
    · split
      · exact .broken _
      · exact .ok _
    · exact .broken _
    · exact .broken _

theorem breaksRules_checkFields (name : String) (args : List Value) : BreaksRules (checkFields name args) := by
  unfold checkFields
  split
  · exact .broken _
  · split
    · exact .ok _
    · exact .broken _

theorem breaksRules_checkLimit (name : String) (args : List Value) : BreaksRules (checkLimit name args) := by
  unfold checkLimit
  split
  · exact .broken _
  · split
    · exact .broken _
    · exact .ok _
    · split
      · exact .broken _
      · split
        · exact .ok _
        · exact .broken _

theorem breaksRules_checkCursor (side : Side) (name : String) (args : List Value) :
    BreaksRules (checkCursor side name args) := by
  unfold checkCursor
  split
  · exact .ok _
  · exact .broken _

theorem breaksRules_ofCall (name : String) (args : List Value) {operands : Except Error (List Operator)}
    (each : BreaksRules operands) : BreaksRules (ofCall name args operands) := by
  unfold ofCall
  split
  · exact .broken _
  · exact breaksRules_checkComparison ..
  · split
    · exact .broken _
    · exact each.map _
  · exact (breaksRules_checkFields ..).map _
  · exact (breaksRules_checkFields ..).map _
  · exact breaksRules_checkLimit ..
  · exact breaksRules_checkCursor ..

mutual

theorem breaksRules_check : ∀ value : Value, BreaksRules (check value)
  | .node name args => by
    unfold check
    split
    · rename_i same
      cases same
      exact breaksRules_ofCall _ _ (breaksRules_checkAll args)
    · rename_i same
      cases same
    · exact .broken _
  | .mapping entries => by
    rw [check]
    split
    · exact breaksRules_checkEntries _ entries
    · exact .broken _
  | .list _ => .broken _
  | .null => .broken _
  | .bool _ => .broken _
  | .int _ => .broken _
  | .real _ => .broken _
  | .text _ => .broken _
  | .moment _ => .broken _
  | .pattern _ => .broken _
  | .tuple _ => .broken _

theorem breaksRules_checkEntries (name : String) : ∀ entries : List (String × Value), BreaksRules (checkEntries name entries)
  | [] => .broken _
  | (key, value) :: rest => by
    unfold checkEntries
    split
    · cases value with
      | list items => exact breaksRules_ofCall _ _ (breaksRules_checkAll items)
      | _ => exact .broken _
    · exact breaksRules_checkEntries name rest

theorem breaksRules_checkAll : ∀ items : List Value, BreaksRules (checkAll items)
  | [] => .ok _
  | item :: rest => (breaksRules_check item).bind fun _ => (breaksRules_checkAll rest).bind fun _ => .ok _

end

end Operator

namespace FindQuery
open Operator (check validate)

/-- A query that is checked before it is compiled, as a tree of nodes, has the outcome of the value. -/
theorem validate_compile (idField : String) (value : Value) :
    (validate value >>= compile idField) = compile idField value := by
  rw [validate]
  unfold compile
  cases checked : check value with
  | error fault => rfl
  | ok operator => simp [Operator.check_ofPlain, checked]

/-- **Two forms of queries.** A tree of nodes, the mapping that stands for it, and the tree that is made
of the mapping again all have the same operator, or all break the same rule. So the tree and the mapping
are converted to the same find query or fail with the same error, and so they do if they are checked
and made trees of nodes first. -/
theorem convert_plain_forms {query : Query} (named : Value.AllTextNamed query.args) :
    ((∃ operator, check query.toValue = .ok operator ∧ check query.toPlain = .ok operator ∧
        check query.toPlain.ofPlain = .ok operator) ∨
      ∃ rule, check query.toValue = .error (.rule rule) ∧ check query.toPlain = .error (.rule rule) ∧
        check query.toPlain.ofPlain = .error (.rule rule)) ∧
    ∀ idField, convert idField query.toPlain = convert idField query.toValue ∧
      (validate query.toValue >>= compile idField) = convert idField query.toValue ∧
      (validate query.toPlain >>= compile idField) = convert idField query.toValue := by
  have plain : check query.toPlain = check query.toValue := @Operator.check_toPlain query.toValue named
  have converted (idField : String) : convert idField query.toPlain = convert idField query.toValue := by
    have mapping : convert idField query.toPlain = compile idField query.toPlain := rfl
    have node : convert idField query.toValue = compile idField query.toValue := rfl
    rw [mapping, node, compile, compile, plain]
  constructor
  · rw [Operator.check_ofPlain, plain]
    cases checked : check query.toValue with
    | ok operator => exact .inl ⟨operator, rfl, rfl, rfl⟩
    | error fault =>
      have broken := Operator.breaksRules_check query.toValue
      rw [checked] at broken
      obtain ⟨rule, rfl⟩ := broken
      exact .inr ⟨rule, rfl, rfl, rfl⟩
  · intro idField
    exact ⟨converted idField, validate_compile idField _, (validate_compile idField _).trans (converted idField)⟩

/-- A mapping with operands in both forms, next to a mapping that is a value and a node in a tuple. -/
theorem convert_plain_forms_mixed :
    ∃ (query : Query) (operator : Operator) (found : FindQuery),
      query = ⟨"AND", [.node (.text "Eq") [.text "a", .mapping [("name", .int 5)]],
        .mapping [("name", .text "or"), ("args", .list [.node (.text "select") [.text "+x"],
          .mapping [("name", .text "in"), ("args", .list [.text "b", .list [.null]])]])],
        .node (.text "le") [.text "t", .tuple [.node .null []]]]⟩ ∧
      Value.AllTextNamed query.args ∧
      operator = .logical .and [.comparison .eq "a" (.mapping [("name", .int 5)]),
        .logical .or [.select ["+x"], .comparison .in "b" (.list [.null])],
        .comparison .le "t" (.tuple [.node .null []])] ∧
      check query.toValue = .ok operator ∧ check query.toPlain = .ok operator ∧
      check query.toPlain.ofPlain = .ok operator ∧
      found.criteria = [("a", .equals (.mapping [("name", .int 5)])),
        ("$or", .branches [[], [("b", .operators [("$in", .list [.null])])]]),
        ("t", .operators [("$lte", .tuple [.node .null []])])] ∧
      found.options.projection.entries = [("x", true)] ∧
      convert "_id" query.toValue = .ok found ∧ convert "_id" query.toPlain = .ok found ∧
      (validate query.toValue >>= compile "_id") = .ok found ∧
      (validate query.toPlain >>= compile "_id") = .ok found := by
  refine ⟨_, _, ?found, rfl, ?named, rfl, (convert_plain_forms ?named).elim ?outcomes⟩
  case named => simp [Value.AllTextNamed, Value.TextNamed]
  case outcomes =>
    intro forms converted
    obtain ⟨plain, node, mapping⟩ := converted "_id"
    rcases forms with ⟨operator, checked, others⟩ | ⟨rule, broken, _⟩
    · cases checked
      refine ⟨rfl, others.1, others.2, ?criteria, ?projection, ?taken, plain.trans ?taken, node.trans ?taken,
        mapping.trans ?taken⟩
      case taken => rfl
      case criteria => rfl
      case projection => rfl
    · cases broken

end FindQuery
end ResourceQuery
