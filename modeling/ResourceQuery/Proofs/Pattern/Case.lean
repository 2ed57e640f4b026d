import ResourceQuery.Pattern.Basic

/-!
Reading a pattern does not depend on the flag that ignores case. A step of reading that is started
with the flag set does what it does without, and sets the flag in what it leaves (`Blind`). All steps
are of this kind, and so a pattern is compiled with the flag as it is without, the flag added
(`compile_ignoreCase`).
-/
namespace ResourceQuery.Pattern

/-- The progress with the flag that ignores case. -/
def Progress.caseless (progress : Progress) : Progress :=
  { progress with flags := progress.flags.insert .ignoreCase }

/-- A result with the flag that ignores case. -/
def caselessResult {α : Type} (result : α × Progress) : α × Progress := (result.1, result.2.caseless)

/-- Whether one step does with the flag what another one does without. -/
def Follows {α : Type} (reading plain : Reading α) : Prop :=
  ∀ progress, reading progress.caseless = (plain progress).map caselessResult

/-- Whether a step does the same with the flag and without. -/
abbrev Blind {α : Type} (reading : Reading α) : Prop := Follows reading reading

variable {α β : Type}

theorem Follows.bind {reading plain : Reading α} {next plainNext : α → Reading β} (first : Follows reading plain)
    (later : ∀ a, Follows (next a) (plainNext a)) : Follows (reading >>= next) (plain >>= plainNext) := by
  intro progress
  have start := first progress
  show (reading progress.caseless >>= fun (result : α × Progress) => next result.1 result.2) =
    ((plain progress >>= fun (result : α × Progress) => plainNext result.1 result.2) : Except Fault (β × Progress)).map caselessResult
  rw [start]
  cases plain progress with
  | error fault => rfl
  | ok result => exact later result.1 result.2

theorem Follows.pure (a : α) : Blind (Pure.pure a : Reading α) := fun _ => rfl

theorem Follows.throw (fault : Fault) : Blind (throw fault : Reading α) := fun _ => rfl

theorem Follows.fail (cause : Cause) (back : Nat) : Blind (Reading.fail cause back : Reading α) := fun _ => rfl

theorem Follows.failAt (cause : Cause) (position : Nat) : Blind (Reading.failAt cause position : Reading α) := fun _ => rfl

theorem Follows.set (progress : Progress) :
    Follows (MonadStateOf.set progress.caseless : Reading PUnit) (MonadStateOf.set progress) := fun _ => rfl

/-- A step that looks at the progress. -/
theorem Follows.look {next plain : Progress → Reading β}
    (later : ∀ progress, Follows (next progress.caseless) (plain progress)) :
    Follows (MonadState.get >>= next) (MonadState.get >>= plain) := fun progress => later progress progress

/-- A step that looks at the progress except for the flag. -/
theorem Follows.read {next : Progress → Reading β} (steady : ∀ progress, next progress.caseless = next progress)
    (later : ∀ progress, Blind (next progress)) : Blind (MonadState.get >>= next) :=
  .look fun progress => by
    rw [steady]
    exact later progress

theorem Follows.ite {c : Prop} [Decidable c] {yes no plainYes plainNo : Reading α} (left : Follows yes plainYes)
    (right : Follows no plainNo) : Follows (if c then yes else no) (if c then plainYes else plainNo) := by
  split
  · exact left
  · exact right

/-- A step that another one, such as a fault, may come before. -/
theorem Follows.guard {c : Prop} [Decidable c] {stop : Reading Unit} {next plainNext : Unit → Reading β}
    (left : Blind stop) (later : ∀ a, Follows (next a) (plainNext a)) :
    Follows (if c then stop >>= next else next ()) (if c then stop >>= plainNext else plainNext ()) :=
  .ite (left.bind later) (later ())

/-- A step after one of two steps. -/
theorem Follows.choose {c : Prop} [Decidable c] {yes no : Reading α} {next plainNext : α → Reading β} (left : Blind yes)
    (right : Blind no) (later : ∀ a, Follows (next a) (plainNext a)) :
    Follows (if c then yes >>= next else no >>= next) (if c then yes >>= plainNext else no >>= plainNext) :=
  .ite (left.bind later) (right.bind later)

theorem blind_peek : Blind Reading.peek := fun _ => rfl

theorem blind_advance : Blind Reading.advance := by
  intro progress
  obtain ⟨rest, position, dangling, flags, names, groups, lookBehind, conditions⟩ := progress
  cases rest with
  | nil => rfl
  | cons token rest =>
    cases rest with
    | nil => cases dangling <;> rfl
    | cons next rest => rfl

theorem blind_next : Blind Reading.next := blind_peek.bind fun _ => blind_advance.bind fun _ => .pure _

theorem blind_eat (c : Char) : Blind (Reading.eat c) :=
  blind_peek.bind fun _ => .ite (blind_advance.bind fun _ => .pure _) (.pure _)

theorem blind_takeSome (isIn : Char → Bool) : ∀ count, Blind (Reading.takeSome isIn count)
  | 0 => .pure _
  | count + 1 => blind_peek.bind fun token => by
    split
    · exact .ite (blind_advance.bind fun _ => (blind_takeSome isIn count).bind fun _ => .pure _) (.pure _)
    · exact .pure _

theorem blind_takeAll (isIn : Char → Bool) : Blind (Reading.takeAll isIn) :=
  .read (fun _ => rfl) fun _ => blind_takeSome isIn _

theorem blind_takeName (terminator : Char) (kind : String) :
    ∀ fuel taken, Blind (Reading.takeName terminator kind fuel taken)
  | 0, _ => .pure _
  | fuel + 1, taken => blind_next.bind fun token => by
    split
    · exact .ite (.fail _ _) (.fail _ _)
    · exact .ite (.ite (.fail _ _) (.pure _)) (blind_takeName terminator kind fuel _)

theorem blind_nameUntil (terminator : Char) (kind : String) : Blind (Reading.nameUntil terminator kind) :=
  .read (fun _ => rfl) fun _ => blind_takeName terminator kind _ _

theorem blind_isClosed (group : Nat) : Blind (isClosed group) := fun _ => rfl

theorem blind_checkLookBehind (group : Nat) : Blind (checkLookBehind group) :=
  .read (fun _ => rfl) fun progress => by
    split
    · exact .pure _
    · exact (blind_isClosed group).bind fun _ => .guard (.fail _ _) fun _ => .ite (.fail _ _) (.pure _)

theorem blind_reference (group back : Nat) : Blind (reference group back) :=
  .read (fun _ => rfl) fun progress => by
    split
    · exact .fail _ _
    · exact (blind_checkLookBehind group).bind fun _ => .pure _

theorem blind_openGroup (name : Option (List Char)) : Blind (openGroup name) := by
  cases name with
  | none => exact fun _ => rfl
  | some chars =>
    refine .look fun progress => ?_
    cases found : progress.names.lookup (String.ofList chars) with
    | none =>
      have also : progress.caseless.names.lookup (String.ofList chars) = none := found
      simp only [also, found]
      exact Follows.bind (.set { progress with
        groups := progress.groups ++ [none]
        names := (String.ofList chars, progress.groups.length) :: progress.names }) fun _ => .pure _
    | some earlier =>
      have also : progress.caseless.names.lookup (String.ofList chars) = some earlier := found
      simp only [also, found]
      exact (Follows.fail _ _).bind fun _ => .pure _

theorem blind_closeGroup (number : Nat) (body : List Node) : Blind (closeGroup number body) := fun _ => rfl

theorem blind_checkGroupName (name : List Char) : Blind (checkGroupName name) := .ite (.fail _ _) (.pure _)

theorem blind_groupNamed (name : List Char) : Blind (groupNamed name) :=
  .read (fun _ => rfl) fun progress => by
    split
    · exact .pure _
    · exact .fail _ _

theorem blind_conditionGroup (name : List Char) : Blind (conditionGroup name) := by
  refine .ite (blind_groupNamed name) ?_
  split
  · exact .fail _ _
  · refine .guard (.fail _ _) fun _ => .guard (.fail _ _) fun _ => .guard (.fail _ _) fun _ => .look fun progress => ?_
    exact .ite (Follows.bind (.set { progress with
      conditions := progress.conditions ++ [_] }) fun _ => .pure _) (.pure _)

theorem blind_hexEscape (letter : Char) (count : Nat) : Blind (hexEscape letter count) :=
  (blind_takeSome _ count).bind fun _ => .guard (.fail _ _) fun _ => .guard (.fail _ _) fun _ => .pure _

theorem blind_namedEscape : Blind namedEscape :=
  (blind_eat _).bind fun _ => .guard (.fail _ _) fun _ => (blind_nameUntil _ _).bind fun name => by
    split
    · exact .pure _
    · exact .fail _ _

theorem blind_codeEscape {c : Char} {code : Reading Nat} (found : codeEscape? c = some code) : Blind code := by
  unfold codeEscape? at found
  split at found
  · cases found
    exact blind_hexEscape c 2
  split at found
  · cases found
    exact blind_hexEscape c 4
  split at found
  · cases found
    exact blind_hexEscape c 8
  split at found
  · cases found
    exact blind_namedEscape
  · cases found

theorem blind_checkOctal (digits : List Char) : Blind (checkOctal digits) := .guard (.fail _ _) fun _ => .pure _

theorem blind_digitEscape (first : Char) : Blind (digitEscape first) :=
  (blind_takeSome _ 1).bind fun _ => .choose (blind_takeSome _ 1) (.pure _) fun _ =>
    .ite ((blind_checkOctal _).bind fun _ => .pure _) <|
      .read (fun _ => rfl) fun _ => .ite (blind_reference _ _) (.fail _ _)

theorem blind_escape (c : Char) : Blind (escape c) := by
  refine .ite (.pure _) (.ite (.pure _) ?_)
  split
  · rename_i code found
    exact (blind_codeEscape found).bind fun _ => .pure _
  · exact .ite ((blind_takeSome _ 2).bind fun _ => .pure _)
      (.ite (blind_digitEscape c) (.ite (.fail _ _) (.pure _)))

theorem blind_setEscape (c : Char) : Blind (setEscape c) := by
  unfold setEscape
  split
  · exact .pure _
  · refine .ite (.pure _) ?_
    split
    · rename_i code found
      exact (blind_codeEscape found).bind fun _ => .pure _
    · exact .ite ((blind_takeSome _ 2).bind fun _ => (blind_checkOctal _).bind fun _ => .pure _)
        (.ite (.fail _ _) (.pure _))

theorem blind_member (token : Token) : Blind (member token) := by
  cases token with
  | plain c => exact .pure _
  | escaped c => exact blind_setEscape c

theorem blind_checkRange (low high : Token) (first last : Member) : Blind (checkRange low high first last) := by
  unfold checkRange
  split
  · exact .ite (.fail _ _) (.pure _)
  · exact .fail _ _

theorem blind_setMembers (here : Nat) : ∀ fuel inhabited, Blind (setMembers here fuel inhabited)
  | 0, _ => .pure _
  | fuel + 1, inhabited => blind_next.bind fun token => by
    split
    · exact .failAt _ _
    · refine .ite (.pure _) ((blind_member _).bind fun first => (blind_eat _).bind fun ranged => .ite ?_ ?_)
      · refine blind_next.bind fun high => ?_
        split
        · exact .failAt _ _
        · exact .ite (.pure _) ((blind_member _).bind fun last => (blind_checkRange _ _ _ _).bind fun _ =>
            blind_setMembers here fuel true)
      · exact blind_setMembers here fuel true

theorem blind_characterSet : Blind characterSet :=
  .read (fun _ => rfl) fun _ => (blind_eat _).bind fun _ =>
    .read (fun _ => rfl) fun _ => (blind_setMembers _ _ _).bind fun _ => .pure _

theorem blind_repeatCount (digits : List Char) : Blind (repeatCount digits) :=
  .guard (.throw _) fun _ => .guard (.throw _) fun _ => .pure _

theorem blind_braces : Blind braces := by
  refine .look fun start => blind_peek.bind fun token => .ite (.pure _) <| (blind_takeAll _).bind fun low =>
    (blind_eat _).bind fun comma => .choose (blind_takeAll _) (.pure _) fun high => (blind_eat _).bind fun closed =>
      .ite (Follows.bind (.set start) fun _ => .pure _) <| .choose (.pure _) (blind_repeatCount _) fun least =>
        .choose (.pure _) ((blind_repeatCount _).bind fun _ => .pure _) fun most => ?_
  cases most with
  | some most => exact .guard (.failAt _ _) fun _ => .pure _
  | none => exact .pure _

theorem blind_repeatCounts (sign : Char) : Blind (repeatCounts sign) :=
  .ite (.pure _) (.ite (.pure _) (.ite (.pure _) blind_braces))

theorem blind_repeatLast (sign : Char) (done : List Node) : Blind (repeatLast sign done) :=
  .read (fun _ => rfl) fun _ => (blind_repeatCounts sign).bind fun counts => by
    split
    · exact .pure _
    · split
      · exact .failAt _ _
      · exact .failAt _ _
      · exact .failAt _ _
      · exact (blind_eat _).bind fun lazy => .choose (.pure _) (blind_eat _) fun _ => .pure _

theorem blind_flagOf (token : Token) (otherwise : Cause) : Blind (flagOf token otherwise) := by
  unfold flagOf
  split
  · exact .fail _ _
  · split
    · exact .pure _
    · exact .fail _ _
  · exact .fail _ _

theorem blind_flagsOn : ∀ fuel token flags, Blind (flagsOn fuel token flags)
  | 0, _, _ => .pure _
  | fuel + 1, token, flags => (blind_flagOf _ _).bind fun flag => .guard (.fail _ _) fun _ => blind_next.bind fun token => by
    split
    · exact .fail _ _
    · exact .pure _
    · exact .pure _
    · exact .pure _
    · exact blind_flagsOn fuel _ _

theorem blind_flagsOff : ∀ fuel token flags, Blind (flagsOff fuel token flags)
  | 0, _, _ => .pure _
  | fuel + 1, token, flags => by
    rw [flagsOff]
    refine .guard (.fail _ _) fun _ => (blind_flagOf _ _).bind fun flag => .guard (.fail _ _) fun _ =>
      blind_next.bind fun token => ?_
    split
    · exact .fail _ _
    · exact .pure _
    · exact blind_flagsOff fuel _ _

theorem blind_addFlags (on : Flags) :
    Blind (modify fun progress => { progress with flags := progress.flags.union on } : Reading Unit) := fun _ => rfl

theorem blind_inlineFlags (first : Token) : Blind (inlineFlags first) := by
  refine .read (fun _ => rfl) fun _ => .choose (.pure _) (blind_flagsOn _ _ _) fun result => ?_
  refine .ite ((blind_addFlags _).bind fun _ => .pure _) (.guard (.fail _ _) fun _ => .ite (blind_next.bind fun token => ?_) ?_)
  · cases token with
    | none => exact (Follows.fail _ _).bind fun _ => .guard (.fail _ _) fun _ => .guard (.fail _ _) fun _ => .pure _
    | some token =>
      exact (blind_flagsOff _ _ _).bind fun _ => .guard (.fail _ _) fun _ => .guard (.fail _ _) fun _ => .pure _
  · exact (Follows.pure _).bind fun _ => .guard (.fail _ _) fun _ => .guard (.fail _ _) fun _ => .pure _

/-! ### Sequences and groups -/

theorem blind_skipLine : ∀ fuel, Blind (skipLine fuel)
  | 0 => .pure _
  | fuel + 1 => blind_next.bind fun token => by
    split
    · exact .pure _
    · exact .ite (.pure _) (blind_skipLine fuel)

theorem blind_skipComment (start : Nat) : ∀ fuel, Blind (skipComment start fuel)
  | 0 => .pure _
  | fuel + 1 => blind_peek.bind fun token => by
    split
    · exact .failAt _ _
    · exact blind_advance.bind fun _ => .ite (.pure _) (blind_skipComment start fuel)

theorem blind_expectClose (start : Nat) : Blind (expectClose start) :=
  (blind_eat _).bind fun _ => .ite (.failAt _ _) (.pure _)

theorem blind_namedOpening : Blind namedOpening := by
  refine (blind_eat _).bind fun captured => .ite ?_ ((blind_eat _).bind fun referred => .ite ?_ ?_)
  · exact (blind_nameUntil _ _).bind fun _ => (blind_checkGroupName _).bind fun _ => .pure _
  · exact (blind_nameUntil _ _).bind fun _ => (blind_checkGroupName _).bind fun _ => (blind_groupNamed _).bind fun _ =>
      (blind_reference _ _).bind fun _ => .pure _
  · refine blind_next.bind fun token => ?_
    split
    · exact .fail _ _
    · exact .fail _ _

theorem blind_opening (start : Nat) : Blind (opening start) := by
  refine (blind_eat _).bind fun _ => .ite (.pure _) (blind_next.bind fun token => ?_)
  split
  · exact .fail _ _
  · exact blind_namedOpening
  · exact .pure _
  · exact .read (fun _ => rfl) fun _ => (blind_skipComment _ _).bind fun _ => .pure _
  · exact .pure _
  · exact .pure _
  · refine blind_next.bind fun token => ?_
    split
    · exact .fail _ _
    · exact .pure _
    · exact .pure _
    · exact .fail _ _
  · exact (blind_nameUntil _ _).bind fun _ => (blind_conditionGroup _).bind fun _ =>
      (blind_checkLookBehind _).bind fun _ => .pure _
  · exact .pure _
  · refine .ite ((blind_inlineFlags _).bind fun scope => ?_) (.fail _ _)
    split
    · exact .pure _
    · exact .pure _

theorem blind_enterLookBehind :
    Blind (modify fun progress => { progress with lookBehind := some progress.groups.length } : Reading Unit) := fun _ => rfl

theorem blind_leaveLookBehind :
    Blind (modify fun progress => { progress with lookBehind := none } : Reading Unit) := fun _ => rfl

mutual

theorem blind_branches : ∀ fuel verbose top first, Blind (branches fuel verbose top first)
  | 0, _, _, _ => .pure _
  | fuel + 1, verbose, top, first => (blind_parts fuel verbose first []).bind fun _ => (blind_eat _).bind fun _ =>
    .ite (.read (fun _ => rfl) fun _ => (blind_branches fuel _ top false).bind fun _ => .pure _) (.pure _)

theorem blind_parts : ∀ fuel verbose first done, Blind (parts fuel verbose first done)
  | 0, _, _, _ => .pure _
  | fuel + 1, verbose, first, done => by
    have go := fun verbose done => blind_parts fuel verbose first done
    refine blind_peek.bind fun token => ?_
    split
    · exact .pure _
    · exact .pure _
    · exact .pure _
    · exact blind_advance.bind fun _ => (blind_escape _).bind fun _ => go _ _
    · refine blind_advance.bind fun _ => .ite (go _ _) (.ite ?_ (.ite ?_ (.ite ?_ (.ite (go _ _) (.ite ?_ (go _ _))))))
      · exact .read (fun _ => rfl) fun _ => (blind_skipLine _).bind fun _ => go _ _
      · exact blind_characterSet.bind fun _ => go _ _
      · exact (blind_repeatLast _ _).bind fun _ => go _ _
      · refine .read (fun _ => rfl) fun progress => (blind_opening _).bind fun opening => ?_
        cases opening with
        | comment => exact go _ _
        | backReference node => exact go _ _
        | globalFlags =>
          exact .guard (.failAt _ _) fun _ => .read (fun _ => rfl) fun _ => go _ _
        | look behind =>
          exact .read (fun _ => rfl) fun _ => .guard blind_enterLookBehind fun _ => (blind_body fuel verbose).bind fun _ =>
            .guard blind_leaveLookBehind fun _ => (blind_expectClose _).bind fun _ => go _ _
        | condition group =>
          refine (blind_parts fuel verbose false []).bind fun yes => (blind_eat _).bind fun more => .ite ?_ ?_
          · exact (blind_parts fuel verbose false []).bind fun _ => blind_peek.bind fun _ => .guard (.fail _ _) fun _ =>
              (Follows.pure _).bind fun _ => (blind_expectClose _).bind fun _ => go _ _
          · exact (Follows.pure _).bind fun _ => (blind_expectClose _).bind fun _ => go _ _
        | capture name =>
          exact (blind_openGroup _).bind fun _ => (blind_body fuel verbose).bind fun _ => (blind_expectClose _).bind fun _ =>
            (blind_closeGroup _ _).bind fun _ => go _ _
        | plain => exact (blind_body fuel verbose).bind fun _ => (blind_expectClose _).bind fun _ => go _ _
        | flagged on off => exact (blind_body fuel _).bind fun _ => (blind_expectClose _).bind fun _ => go _ _
        | atomic => exact (blind_body fuel verbose).bind fun _ => (blind_expectClose _).bind fun _ => go _ _

theorem blind_body : ∀ fuel verbose, Blind (body fuel verbose)
  | 0, _ => .pure _
  | fuel + 1, verbose => (blind_branches fuel verbose false false).bind fun found => by
    split
    · exact .pure _
    · exact .pure _

end

/-! ### Whole patterns -/

theorem blind_whole (fuel : Nat) : Blind (whole fuel) := by
  refine .read (fun _ => rfl) fun _ => (blind_branches _ _ _ _).bind fun result => .look fun progress =>
    .guard (.throw _) fun _ => Follows.bind (fun _ => rfl) fun _ => blind_peek.bind fun token => .guard (.fail _ _) fun _ =>
      .read (fun _ => rfl) fun progress => ?_
  split
  · exact .failAt _ _
  · exact .pure _

/-- A pattern is checked with the flag that ignores case as it is without. -/
theorem parse_ignoreCase (source : String) (flags : Flags) :
    parse source (flags.insert .ignoreCase) = (parse source flags).map (·.insert .ignoreCase) := by
  unfold parse
  obtain ⟨tokens, dangling⟩ := Token.scan source.toList
  by_cases lone : (tokens.isEmpty && dangling) = true
  · simp only [lone, if_true]
    rfl
  · have read := blind_whole (3 * tokens.length + 3) { rest := tokens, position := 0, dangling, flags }
    simp only [lone, StateT.run]
    rw [show ({ rest := tokens, position := 0, dangling, flags := flags.insert .ignoreCase } : Progress) =
      Progress.caseless { rest := tokens, position := 0, dangling, flags } from rfl, read]
    cases whole (3 * tokens.length + 3) { rest := tokens, position := 0, dangling, flags } with
    | error fault => rfl
    | ok result =>
      obtain ⟨parsed, finish⟩ := result
      show (checkDemands finish.flags.template (branchesDemands parsed) >>= fun _ => pure finish.caseless.flags) =
        (checkDemands finish.flags.template (branchesDemands parsed) >>= fun _ => pure finish.flags).map (·.insert .ignoreCase)
      cases checkDemands finish.flags.template (branchesDemands parsed) <;> rfl

/-- **A pattern is compiled with the flag that ignores case as it is without, the flag added.** -/
theorem compile_ignoreCase (source : String) (flags : Flags) :
    compile source (flags.insert .ignoreCase) =
      (compile source flags).map fun pattern => { pattern with flags := pattern.flags.insert .ignoreCase } := by
  rw [compile, compile, parse_ignoreCase]
  cases parse source flags <;> rfl

/-- A pattern that was compiled without flags, or with the one that ignores case, is compiled again
with that flag if it ignores case, and without flags otherwise. -/
theorem compile_again {source : String} {flags : Flags} {pattern : ResourceQuery.Pattern}
    (plain : flags = {} ∨ flags = Flags.insert {} .ignoreCase) (done : compile source flags = .ok pattern) :
    pattern.source = source ∧
      compile source (if pattern.flags.ignoreCase then Flags.insert {} .ignoreCase else {}) = .ok pattern := by
  have named : pattern.source = source := by
    rw [compile] at done
    cases parsed : parse source flags with
    | error fault =>
      rw [parsed] at done
      cases done
    | ok read =>
      rw [parsed] at done
      cases done
      rfl
  refine ⟨named, ?_⟩
  rcases plain with rfl | rfl
  · by_cases set : pattern.flags.ignoreCase = true
    · have same : pattern.flags.insert .ignoreCase = pattern.flags := by
        simp [Flags.insert, ← set]
      rw [if_pos set, compile_ignoreCase, done, Except.map, same]
    · rw [if_neg set, done]
  · have set : pattern.flags.ignoreCase = true := by
      rw [compile_ignoreCase] at done
      cases plainly : compile source {} with
      | error fault =>
        rw [plainly] at done
        cases done
      | ok bare =>
        rw [plainly] at done
        cases done
        rfl
    rw [if_pos set, done]

end ResourceQuery.Pattern
