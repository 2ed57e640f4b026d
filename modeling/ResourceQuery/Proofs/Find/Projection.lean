import ResourceQuery.Proofs.Find.Settings

/-!
Projections. Every selection of a query, wherever it stands, goes into one projection, in which a
path has the flag with which it was last named. A projection that shows paths and leaves out others
than the identifier is refused as soon as a selection has made it so, even if a later selection
would mend it (`FindQuery.compile_projection`).
-/
namespace ResourceQuery

/-- The fields of each selection among settings, in order. -/
def Operator.selected (settings : List Operator) : List (List String) :=
  settings.filterMap fun
    | .select specs => some specs
    | _ => none

/-- The fields of each selection in an operator, from left to right. -/
def Operator.selections (operator : Operator) : List (List String) := selected operator.settings

namespace FindOptions
variable {idField : String} {specs : List String}

/-- The flag with which a path is last named. -/
def flag? (specs : List String) (path : String) : Option Bool :=
  ((specs.map splitSign).filter fun pair => pair.1 = path).getLast?.map Prod.snd

/-- Some path is shown, and some other than the identifier is left out. -/
def Mixes (idField : String) (specs : List String) : Prop :=
  (∃ path, flag? specs path = some true) ∧ ∃ path, flag? specs path = some false ∧ path ≠ idField

theorem not_mixes_nil : ¬ Mixes idField [] := by
  rintro ⟨⟨path, named⟩, _⟩
  cases named

theorem entries_putSigned (flags : Mapping Bool) (specs : List String) :
    (putSigned flags specs).entries =
      specs.foldl (fun entries spec => entries.put (splitSign spec).1 (splitSign spec).2) flags.entries := by
  induction specs generalizing flags with
  | nil => rfl
  | cons spec specs ih => exact ih (flags.put (splitSign spec).1 (splitSign spec).2)

theorem putSigned_eq_ofPairs (specs : List String) :
    (putSigned .empty specs).entries = Entries.ofPairs (specs.map splitSign) := by
  rw [entries_putSigned, Entries.ofPairs, List.foldl_map]
  rfl

theorem putSigned_append (flags : Mapping Bool) (front back : List String) :
    putSigned flags (front ++ back) = putSigned (putSigned flags front) back := List.foldl_append

/-- A projection has every path with the flag with which it was last named. -/
theorem mem_putSigned_iff {path : String} {flag : Bool} :
    (path, flag) ∈ (putSigned .empty specs).entries ↔ flag? specs path = some flag := by
  rw [Entries.mem_iff_get? (putSigned .empty specs).apart, putSigned_eq_ofPairs, (Entries.ofPairs_latest _).values]
  rfl

theorem mem_excluded {path : String} :
    path ∈ excluded idField (putSigned .empty specs) ↔ flag? specs path = some false ∧ path ≠ idField := by
  rw [← mem_putSigned_iff]
  simp [excluded]

theorem checkProjection_eq_ok_iff : checkProjection idField (putSigned .empty specs) = .ok () ↔ ¬ Mixes idField specs := by
  have shown : (putSigned .empty specs).entries.any Prod.snd = true ↔ ∃ path, flag? specs path = some true := by
    simp [List.any_eq_true, mem_putSigned_iff]
  have left : (excluded idField (putSigned .empty specs)).isEmpty = false ↔
      ∃ path, flag? specs path = some false ∧ path ≠ idField := by
    simp only [List.isEmpty_eq_false_iff_exists_mem, mem_excluded]
  rw [Mixes, ← shown, ← left, checkProjection]
  split
  · rename_i both
    simpa using both
  · rename_i either
    simpa using either

theorem checkProjection_error {projection : Mapping Bool} {fault : Error}
    (refused : checkProjection idField projection = .error fault) :
    fault = .rule (.mixedProjection (excluded idField projection)) := by
  rw [checkProjection] at refused
  split at refused
  · cases refused
    rfl
  · cases refused

/-- What becomes of selections after earlier ones: they are taken if no one of them makes a mixed
projection, and else refused for the first one that does. -/
def Chosen (idField : String) (specs : List String) (selections : List (List String)) : Except Error FindOptions → Prop
  | .ok after => after.projection = putSigned .empty (specs ++ selections.flatten) ∧
      ∀ front, front <+: selections → ¬ Mixes idField (specs ++ front.flatten)
  | .error fault => ∃ front, front <+: selections ∧ Mixes idField (specs ++ front.flatten) ∧
      fault = .rule (.mixedProjection (excluded idField (putSigned .empty (specs ++ front.flatten))))

/-- One more selection is taken, or refused if it makes a mixed projection. -/
theorem addSelect_cases {options : FindOptions} (made : options.projection = putSigned .empty specs) (more : List String) :
    (options.addSelect idField more = .ok { options with projection := putSigned .empty (specs ++ more) } ∧
        ¬ Mixes idField (specs ++ more)) ∨
      (options.addSelect idField more =
          .error (.rule (.mixedProjection (excluded idField (putSigned .empty (specs ++ more))))) ∧
        Mixes idField (specs ++ more)) := by
  rw [addSelect, made, ← putSigned_append]
  cases checked : checkProjection idField (putSigned .empty (specs ++ more)) with
  | ok taken => exact .inl ⟨rfl, checkProjection_eq_ok_iff.mp checked⟩
  | error fault =>
    obtain rfl := checkProjection_error checked
    refine .inr ⟨rfl, ?_⟩
    by_contra unmixed
    rw [checkProjection_eq_ok_iff.mpr unmixed] at checked
    cases checked

/-- A run of settings takes the selections among them, or is refused for the first that mixes. -/
theorem setAll_chosen (settings : List Operator) {options : FindOptions} {specs : List String}
    (made : options.projection = putSigned .empty specs) (unmixed : ¬ Mixes idField specs) :
    Chosen idField specs (Operator.selected settings) (setAll idField settings options) := by
  induction settings generalizing options specs with
  | nil =>
    refine ⟨by simpa [Operator.selected] using made, fun front inside => ?_⟩
    rw [List.prefix_nil.mp inside]
    simpa using unmixed
  | cons setting rest ih =>
    cases setting with
    | select more =>
      rcases addSelect_cases made more with ⟨taken, still⟩ | ⟨refused, mixed⟩
      · have run : setAll idField (.select more :: rest) options =
            setAll idField rest { options with projection := putSigned .empty (specs ++ more) } := by
          rw [setAll, set, taken]
          rfl
        have chosen := @ih { options with projection := putSigned .empty (specs ++ more) } (specs ++ more) rfl still
        have selections : Operator.selected (.select more :: rest) = more :: Operator.selected rest := rfl
        rw [run, selections]
        cases done : setAll idField rest { options with projection := putSigned .empty (specs ++ more) } with
        | ok after =>
          rw [done] at chosen
          refine ⟨by simpa using chosen.1, fun front inside => ?_⟩
          rcases List.prefix_cons_iff.mp inside with rfl | ⟨tail, rfl, later⟩
          · simpa using unmixed
          · simpa using chosen.2 tail later
        | error fault =>
          rw [done] at chosen
          obtain ⟨front, inside, mixed, same⟩ := chosen
          exact ⟨more :: front, List.prefix_cons_iff.mpr (.inr ⟨front, rfl, inside⟩), by simpa using mixed,
            by simpa using same⟩
      · have run : setAll idField (.select more :: rest) options =
            .error (.rule (.mixedProjection (excluded idField (putSigned .empty (specs ++ more))))) := by
          rw [setAll, set, refused]
          rfl
        rw [run]
        exact ⟨[more], List.prefix_cons_iff.mpr (.inr ⟨[], rfl, List.nil_prefix⟩), by simpa using mixed, by simp⟩
    | cursor side token => cases side <;> exact ih made unmixed
    | _ => exact ih made unmixed

end FindOptions

namespace FindQuery
open Operator (Harmonious selections)
open FindOptions (Mixes flag? mem_putSigned_iff)

/-- **Projections.** A projection that is found shows no path, or leaves out none but the identifier. A
query whose scopes have no clash is refused exactly if, after some of its selections in their order from
left to right, some path was last named to be shown and some other than the identifier to be left out;
and the error is the rule on projections. -/
theorem compile_projection {idField : String} {value : Value} {operator : Operator}
    (valid : Operator.check value = .ok operator) :
    (∀ found, compile idField value = .ok found →
      (∀ path, (path, true) ∉ found.options.projection.entries) ∨
        ∀ path, (path, false) ∈ found.options.projection.entries → path = idField) ∧
    ((∀ scope ∈ operator.scopes, Harmonious scope) →
      ((∃ fault, compile idField value = .error fault) ↔
        ∃ front, front <+: operator.selections ∧ Mixes idField front.flatten) ∧
      ∀ fault, compile idField value = .error fault → ∃ left, fault = .rule (.mixedProjection left)) := by
  have chosen := @FindOptions.setAll_chosen idField operator.settings {} [] rfl FindOptions.not_mixes_nil
  constructor
  · intro found compiled
    have run := @compile_tracks idField _ _ valid
    rw [compiled] at run
    rw [show FindOptions.setAll idField operator.settings {} = _ from run] at chosen
    obtain ⟨projection, unmixed⟩ := chosen
    rw [projection]
    by_contra both
    simp only [not_or, not_forall, not_not, exists_prop] at both
    obtain ⟨⟨shown, named⟩, left, out, other⟩ := both
    exact unmixed _ (List.prefix_refl _) ⟨⟨shown, mem_putSigned_iff.mp named⟩, left, mem_putSigned_iff.mp out, other⟩
  · intro harmony
    rw [← compile_options valid harmony] at chosen
    cases done : compile idField value with
    | ok found =>
      rw [done] at chosen
      refine ⟨iff_of_false (by simp) ?_, by simp⟩
      rintro ⟨front, inside, mixed⟩
      exact chosen.2 front inside mixed
    | error fault =>
      rw [done] at chosen
      obtain ⟨front, inside, mixed, same⟩ := chosen
      refine ⟨iff_of_true ⟨fault, rfl⟩ ⟨front, inside, mixed⟩, ?_⟩
      rintro _ ⟨⟩
      exact ⟨_, same⟩

/-- A projection without the identifier, and one that is mixed between two operands of a disjunction but
would not be after the last one. -/
theorem compile_projection_branches :
    ∃ (taken refused : Value) (first second : Operator) (found : FindQuery),
      taken = .node (.text "and") [.node (.text "select") [.text "-_id"],
        .node (.text "or") [.node (.text "select") [.text "a", .text "+b"]]] ∧
      refused = .node (.text "or") [.node (.text "select") [.text "+a"],
        .node (.text "and") [.node (.text "gt") [.text "a", .int 1], .node (.text "select") [.text "-b"]],
        .node (.text "select") [.text "+b"]] ∧
      Operator.check taken = .ok first ∧ compile "_id" taken = .ok found ∧
      found.options.projection.entries = [("_id", false), ("a", true), ("b", true)] ∧
      (∀ path, (path, false) ∈ found.options.projection.entries → path = "_id") ∧
      Operator.check refused = .ok second ∧ (∀ scope ∈ second.scopes, Harmonious scope) ∧
      second.selections = [["+a"], ["-b"], ["+b"]] ∧ Mixes "_id" ["+a", "-b"] ∧
      ∃ left, compile "_id" refused = .error (.rule (.mixedProjection left)) ∧ left = ["b"] := by
  have mixes : Mixes "_id" ["+a", "-b"] := ⟨⟨"a", rfl⟩, "b", rfl, by decide⟩
  refine ⟨_, _, ?first, ?second, ?found, rfl, rfl, ?taken, ?compiled, ?projection,
    ((compile_projection ?taken).1 _ ?compiled).resolve_left ?shows, ?refused, ?harmony, ?selections, mixes,
    ((@compile_projection "_id" _ _ ?refused).2 ?harmony).elim ?fails⟩
  case taken => rfl
  case compiled => rfl
  case projection => rfl
  case shows => exact not_forall_not.mpr ⟨"a", .tail _ (.head _)⟩
  case refused => rfl
  case harmony =>
    simp [Operator.scopes, Operator.scope, Operator.scopeAll, Operator.innerScopes, Operator.innerScopesAll,
      Operator.branchScopes, Harmonious, Operator.Clashes, Operator.places, Operator.slot?]
  case selections => rfl
  case fails =>
    intro refuses rule
    obtain ⟨fault, refused⟩ := refuses.mpr ⟨[["+a"], ["-b"]], ⟨[["+b"]], rfl⟩, mixes⟩
    obtain ⟨left, rfl⟩ := rule fault refused
    refine ⟨left, refused, ?_⟩
    cases refused
    rfl

end FindQuery
end ResourceQuery
