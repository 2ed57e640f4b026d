import ResourceQuery.Proofs.Equality
import ResourceQuery.Proofs.Operator.Plain

/-!
Plain forms read back. In the plain form of a tree the nodes are written as mappings, and when it is read the
mappings that can stand for queries become nodes again. So a tree comes back as it was exactly if it holds no
such mapping itself where plain forms are read, which is in arguments and lists (`Value.ofPlain_toPlain`,
`Value.free_of_same`).
-/
namespace ResourceQuery.Value

/-- Another value is reached from a value through arguments and lists. -/
inductive Reaches : Value → Value → Prop
  | refl (value : Value) : Reaches value value
  | arg {name : Value} {args : List Value} {item other : Value} (member : item ∈ args) (below : Reaches item other) :
    Reaches (.node name args) other
  | item {items : List Value} {item other : Value} (member : item ∈ items) (below : Reaches item other) :
    Reaches (.list items) other

theorem Reaches.trans {value middle other : Value} (first : value.Reaches middle) (second : middle.Reaches other) :
    value.Reaches other := by
  induction first with
  | refl value => exact second
  | arg member _ ih => exact .arg member (ih second)
  | item member _ ih => exact .item member (ih second)

/-- A mapping has a text under `name` and a list under `args`. -/
def StandsForQuery (entries : List (String × Value)) : Prop :=
  ∃ name args, entries.lookup "name" = some (.text name) ∧ entries.lookup "args" = some (.list args)

/-- No mapping that can stand for a query is reached from a value. -/
def Free (value : Value) : Prop := ∀ entries, value.Reaches (.mapping entries) → ¬ StandsForQuery entries

theorem standsForQuery_iff {entries : List (String × Value)} :
    StandsForQuery entries ↔ (call? (.mapping entries)).isSome = true := by
  rw [call?]
  constructor
  · rintro ⟨name, args, named, listed⟩
    rw [named, listed]
    rfl
  · intro some
    split at some
    · exact ⟨_, _, ‹_›, ‹_›⟩
    · cases some

theorem free_node {name : Value} {args : List Value} : Free (.node name args) ↔ ∀ item ∈ args, item.Free := by
  constructor
  · exact fun free item member entries reached => free entries (.arg member reached)
  · intro each entries reached
    cases reached with
    | arg member below => exact each _ member entries below

theorem free_list {items : List Value} : Free (.list items) ↔ ∀ item ∈ items, item.Free := by
  constructor
  · exact fun free item member entries reached => free entries (.item member reached)
  · intro each entries reached
    cases reached with
    | item member below => exact each _ member entries below

theorem free_mapping {entries : List (String × Value)} : Free (.mapping entries) ↔ ¬ StandsForQuery entries := by
  constructor
  · exact fun free => free entries (.refl _)
  · intro plain others reached
    cases reached
    exact plain

/-- The plain form of a node is read as the node of what its arguments are read as. -/
theorem ofPlain_toPlain_node (name : String) (args : List Value) :
    (Value.node (.text name) args).toPlain.ofPlain = .node (.text name) (ofPlainItems (toPlainItems args)) := rfl

mutual

/-- A value without a mapping that can stand for a query comes back. -/
theorem ofPlain_toPlain : ∀ {value : Value}, value.TextNamed → value.Free → value.toPlain.ofPlain = value
  | .node (.text name) args, named, free => by
    rw [ofPlain_toPlain_node, ofPlainItems_toPlainItems named (free_node.mp free)]
  | .list items, named, free => congrArg Value.list (ofPlainItems_toPlainItems named (free_list.mp free))
  | .mapping entries, _, free => by
    have none : call? (.mapping entries) = none := by
      simpa using mt standsForQuery_iff.mpr (free_mapping.mp free)
    rw [toPlain, ofPlain_mapping, none]
    all_goals simp
  | .null, _, _ => rfl
  | .bool _, _, _ => rfl
  | .int _, _, _ => rfl
  | .real _, _, _ => rfl
  | .text _, _, _ => rfl
  | .moment _, _, _ => rfl
  | .pattern _, _, _ => rfl
  | .tuple _, _, _ => rfl

theorem ofPlainItems_toPlainItems : ∀ {items : List Value}, AllTextNamed items → (∀ item ∈ items, item.Free) →
    ofPlainItems (toPlainItems items) = items
  | [], _, _ => rfl
  | item :: rest, named, free => by
    rw [List.forall_mem_cons] at free
    rw [toPlainItems, ofPlainItems, ofPlain_toPlain named.1 free.1, ofPlainItems_toPlainItems named.2 free.2]

end

mutual

/-- A mapping that can stand for a query comes back as a node, which is equal to no mapping. -/
theorem free_of_same : ∀ {value : Value}, value.TextNamed → same value.toPlain.ofPlain value = true → value.Free
  | .node (.text name) args, named, agree => by
    rw [ofPlain_toPlain_node, same, Bool.and_eq_true] at agree
    exact free_node.mpr (free_of_sameItems named agree.2)
  | .list items, named, agree => free_list.mpr (free_of_sameItems named agree)
  | .mapping entries, _, agree => by
    refine free_mapping.mpr fun stands => ?_
    obtain ⟨parts, call⟩ := Option.isSome_iff_exists.mp (standsForQuery_iff.mp stands)
    have form : toPlain (.mapping entries) = .mapping entries := by rw [toPlain] <;> simp
    rw [form, ofPlain_mapping, call] at agree
    cases agree
  | .null, _, _ => nofun
  | .bool _, _, _ => nofun
  | .int _, _, _ => nofun
  | .real _, _, _ => nofun
  | .text _, _, _ => nofun
  | .moment _, _, _ => nofun
  | .pattern _, _, _ => nofun
  | .tuple _, _, _ => nofun

theorem free_of_sameItems : ∀ {items : List Value}, AllTextNamed items →
    sameItems (ofPlainItems (toPlainItems items)) items = true → ∀ item ∈ items, item.Free
  | [], _, _ => nofun
  | item :: rest, named, agree => by
    rw [toPlainItems, ofPlainItems, sameItems, Bool.and_eq_true] at agree
    exact List.forall_mem_cons.mpr ⟨free_of_same named.1 agree.1, free_of_sameItems named.2 agree.2⟩

end

end ResourceQuery.Value

namespace ResourceQuery

/-- A query as one is held in a session: the nodes in it are named by texts, and no mapping in it has a key twice. -/
structure ProperQuery extends Query where
  named : Value.AllTextNamed args
  apart : Value.AllKeysApart args

namespace ProperQuery

variable (query : ProperQuery)

theorem equals_self : query.toValue.equals query.toValue = true :=
  @Value.same_self query.toValue ⟨trivial, query.apart⟩

/-- The plain form of a query is read as a query that is equal to it exactly if no mapping that can stand for a query
is reached from it. -/
theorem equals_ofPlain_toPlain_iff : query.toPlain.ofPlain.equals query.toValue = true ↔ query.toValue.Free := by
  constructor
  · exact @Value.free_of_same query.toValue query.named
  · intro free
    have back : query.toPlain.ofPlain = query.toValue := @Value.ofPlain_toPlain query.toValue query.named free
    rw [back]
    exact query.equals_self

/-- What is equal to the query is the query itself. -/
theorem ofPlain_toPlain_iff : query.toPlain.ofPlain = query.toValue ↔ query.toValue.Free := by
  constructor
  · intro back
    exact query.equals_ofPlain_toPlain_iff.mp (back ▸ query.equals_self)
  · exact @Value.ofPlain_toPlain query.toValue query.named

end ProperQuery
end ResourceQuery
