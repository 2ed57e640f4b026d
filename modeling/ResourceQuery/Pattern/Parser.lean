import ResourceQuery.Number.Decimal
import ResourceQuery.Pattern.Fault
import ResourceQuery.Pattern.Flags
import ResourceQuery.Pattern.Node
import ResourceQuery.Text.CharacterName

/-!
Reading patterns. A pattern is read as tokens, a backslash and the character after it being one,
with one token of foresight: a lone backslash at the end is found as soon as the token before it
is taken. `parse` gives the parts of a pattern and its flags, or the first fault.
-/
namespace ResourceQuery.Pattern

/-- A token of a pattern. -/
inductive Token
  | plain (c : Char)
  | escaped (c : Char)
  deriving DecidableEq

namespace Token

/-- The characters of a token. -/
def chars : Token → List Char
  | .plain c => [c]
  | .escaped c => ['\\', c]

/-- The number of characters of a token. -/
def size (token : Token) : Nat := token.chars.length

/-- Whether the token is a letter. -/
def isLetter : Token → Bool
  | .plain c => Text.isLetter c
  | .escaped _ => false

/-- The tokens of a pattern, and whether a lone backslash is left at its end. -/
def scan : List Char → List Token × Bool
  | [] => ([], false)
  | '\\' :: [] => ([], true)
  | '\\' :: c :: rest => let (tokens, dangling) := scan rest; (.escaped c :: tokens, dangling)
  | c :: rest => let (tokens, dangling) := scan rest; (.plain c :: tokens, dangling)

end Token

/-- How far a pattern is read, and what has been learned on the way. -/
structure Progress where
  /-- The tokens to come. -/
  rest : List Token
  /-- The position of the next token. -/
  position : Nat
  /-- A lone backslash stands after the last token. -/
  dangling : Bool
  flags : Flags
  /-- The names of groups and their numbers. -/
  names : List (String × Nat) := []
  /-- The width of every group once it is closed; the whole pattern, number 0, never is. -/
  groups : List (Option Width) := [none]
  /-- Inside a look-behind, the number of groups before it. -/
  lookBehind : Option Nat := none
  /-- The groups that conditions name by number, and where each was first named. -/
  conditions : List (Nat × Nat) := []

/-- A step of reading. -/
abbrev Reading := StateT Progress (Except Fault)

namespace Reading

/-- Stop with a cause, `back` characters before the next token. -/
def fail {α : Type} (cause : Cause) (back : Nat) : Reading α := do
  let progress ← get
  throw (.malformed cause (some (progress.position - back)))

/-- Stop with a cause at a position. -/
def failAt {α : Type} (cause : Cause) (position : Nat) : Reading α :=
  throw (.malformed cause (some position))

/-- The next token. -/
def peek : Reading (Option Token) := do return (← get).rest.head?

/-- Go on to the token after the next. -/
def advance : Reading Unit := do
  let progress ← get
  match progress.rest with
  | [] => pure ()
  | token :: rest =>
    let position := progress.position + token.size
    if rest.isEmpty && progress.dangling then failAt .danglingEscape position
    set { progress with rest, position }

/-- Take the next token. -/
def next : Reading (Option Token) := do
  let token ← peek
  advance
  return token

/-- Take the next token if it is this character. -/
def eat (c : Char) : Reading Bool := do
  if (← peek) = some (.plain c) then
    advance
    return true
  else return false

/-- Take up to `count` characters of a class. -/
def takeSome (isIn : Char → Bool) : (count : Nat) → Reading (List Char)
  | 0 => return []
  | count + 1 => do
    match ← peek with
    | some (.plain c) =>
      if isIn c then
        advance
        return c :: (← takeSome isIn count)
      else return []
    | _ => return []

/-- Take all characters of a class. -/
def takeAll (isIn : Char → Bool) : Reading (List Char) := do
  takeSome isIn (← get).rest.length

/-- The characters up to a terminator, which is taken too; `taken` are those before, last first. -/
def takeName (terminator : Char) (kind : String) : (fuel : Nat) → (taken : List Char) →
    Reading (List Char)
  | 0, taken => return taken.reverse
  | fuel + 1, taken => do
    match ← next with
    | none =>
      if taken.isEmpty then fail (.missingName kind) 0
      else fail (.unterminatedName terminator) taken.length
    | some token =>
      if token = .plain terminator then
        if taken.isEmpty then fail (.missingName kind) 1 else return taken.reverse
      else takeName terminator kind fuel (token.chars.reverse ++ taken)

/-- A name up to a terminator. -/
def nameUntil (terminator : Char) (kind : String) : Reading (List Char) := do
  takeName terminator kind ((← get).rest.length + 1) []

end Reading

open Reading

/-- An octal digit. -/
def isOctal (c : Char) : Bool := '0' ≤ c && c ≤ '7'

/-- The number that digits of a base denote. -/
def ofBase (base : Nat) (digits : List Char) : Nat :=
  digits.foldl (fun value c => base * value + (Text.hexValue? c).getD 0) 0

/-! ### Groups -/

/-- Whether a group is closed. -/
def isClosed (group : Nat) : Reading Bool := do
  return ((← get).groups[group]?.join).isSome

/-- Inside a look-behind only groups may be named that were closed before it. -/
def checkLookBehind (group : Nat) : Reading Unit := do
  match (← get).lookBehind with
  | none => pure ()
  | some before =>
    if !(← isClosed group) then fail .openGroup 0
    if before ≤ group then fail .ownLookBehind 0

/-- What a closed group has taken. -/
def reference (group : Nat) (back : Nat) : Reading Node := do
  match (← get).groups[group]?.join with
  | none => fail .openGroup back
  | some width =>
    checkLookBehind group
    return .reference width

/-- Open a group and give its number. -/
def openGroup (name : Option (List Char)) : Reading Nat := do
  let progress ← get
  let number := progress.groups.length
  let progress := { progress with groups := progress.groups ++ [none] }
  match name with
  | none => set progress
  | some chars =>
    let text := String.ofList chars
    match progress.names.lookup text with
    | some earlier => fail (.redefinition text number earlier) (chars.length + 1)
    | none => set { progress with names := (text, number) :: progress.names }
  return number

/-- Close a group with its content. -/
def closeGroup (number : Nat) (body : List Node) : Reading Unit :=
  modify fun progress => { progress with groups := progress.groups.set number (some (widthOf body)) }

/-- A group's name is an identifier. -/
def checkGroupName (name : List Char) : Reading Unit := do
  if !Text.isIdentifier name then fail (.groupName (String.ofList name)) (name.length + 1)

/-- The number of the group of a name. -/
def groupNamed (name : List Char) : Reading Nat := do
  match (← get).names.lookup (String.ofList name) with
  | some number => return number
  | none => fail (.unknownGroup (String.ofList name)) (name.length + 1)

/-- No group has this number or a greater one. -/
def groupBound : Nat := 1073741823

/-- The group that a condition names, by its name or by its number. -/
def conditionGroup (name : List Char) : Reading Nat := do
  if Text.isIdentifier name then groupNamed name
  else
    let back := name.length + 1
    match Number.loose? name with
    | none => fail (.groupName (String.ofList name)) back
    | some value =>
      if value < 0 then fail (.groupName (String.ofList name)) back
      let number := value.toNat
      if number = 0 then fail .groupNumber back
      if groupBound ≤ number then fail (.groupReference number) back
      let progress ← get
      if (progress.conditions.lookup number).isNone then
        set { progress with
          conditions := progress.conditions ++ [(number, progress.position - back)] }
      return number

/-! ### Escapes -/

/-- The code point of exactly `count` hexadecimal digits after an escape letter. -/
def hexEscape (letter : Char) (count : Nat) : Reading Nat := do
  let digits ← takeSome (fun c => (Text.hexValue? c).isSome) count
  let text := '\\' :: letter :: digits
  if digits.length ≠ count then fail (.incompleteEscape (String.ofList text)) text.length
  let code := ofBase 16 digits
  if 0x10FFFF < code then fail (.badEscape (String.ofList text)) text.length
  return code

/-- The code point of a character that is called by its name. -/
def namedEscape : Reading Nat := do
  if !(← eat '\x7b') then fail .missingBrace 0
  let name ← nameUntil '\x7d' "character name"
  match Text.characterNamed? name with
  | some code => return code
  | none => fail (.unknownCharacter (String.ofList name)) (name.length + 4)

/-- The code points of control characters that have an escape letter. -/
def controlEscape? : Char → Option Nat
  | 'a' => some 7
  | 'b' => some 8
  | 't' => some 9
  | 'n' => some 10
  | 'v' => some 11
  | 'f' => some 12
  | 'r' => some 13
  | '\\' => some 92
  | _ => none

/-- The escape letters of classes of characters. -/
def isClassLetter (c : Char) : Bool := ['d', 'D', 's', 'S', 'w', 'W'].contains c

/-- The escape letters of places. -/
def isAnchorLetter (c : Char) : Bool := ['A', 'b', 'B', 'Z'].contains c

/-- The escapes that mean the same inside a set and outside, given by a code point. -/
def codeEscape? (c : Char) : Option (Reading Nat) :=
  if c = 'x' then some (hexEscape c 2)
  else if c = 'u' then some (hexEscape c 4)
  else if c = 'U' then some (hexEscape c 8)
  else if c = 'N' then some namedEscape
  else none

/-- An octal escape has at most three digits and a value of at most one octet. -/
def checkOctal (digits : List Char) : Reading Nat := do
  let code := ofBase 8 digits
  if 0o377 < code then
    fail (.octalRange (String.ofList ('\\' :: digits))) (digits.length + 1)
  return code

/-- An escape that starts with a digit from 1 to 9: three octal digits, or the number of a
group. -/
def digitEscape (first : Char) : Reading Node := do
  let second ← takeSome Char.isDigit 1
  let digits := first :: second
  let third ← if !second.isEmpty && digits.all isOctal then takeSome isOctal 1 else pure []
  if !third.isEmpty then
    let _ ← checkOctal (digits ++ third)
    return .single
  else
    let number := ofBase 10 digits
    if number < (← get).groups.length then reference number (digits.length + 1)
    else fail (.groupReference number) digits.length

/-- An escape outside of sets. -/
def escape (c : Char) : Reading Node := do
  if isAnchorLetter c then return .anchor
  else if isClassLetter c || (controlEscape? c).isSome then return .single
  else
    match codeEscape? c with
    | some code =>
      let _ ← code
      return .single
    | none =>
      if c = '0' then
        let _ ← takeSome isOctal 2
        return .single
      else if c.isDigit then digitEscape c
      else if c.isAlpha then fail (.badEscape (String.ofList ['\\', c])) 2
      else return .single

/-! ### Sets of characters -/

/-- A member of a set: a character by its code point, or a class. -/
inductive Member
  | code (n : Nat)
  | category

/-- An escape inside a set. -/
def setEscape (c : Char) : Reading Member := do
  match controlEscape? c with
  | some code => return .code code
  | none =>
    if isClassLetter c then return .category
    else
      match codeEscape? c with
      | some code => return .code (← code)
      | none =>
        if isOctal c then
          let more ← takeSome isOctal 2
          return .code (← checkOctal (c :: more))
        else if c.isDigit || c.isAlpha then fail (.badEscape (String.ofList ['\\', c])) 2
        else return .code c.toNat

/-- A member of a set from its first token. -/
def member : Token → Reading Member
  | .plain c => return .code c.toNat
  | .escaped c => setEscape c

/-- A range of a set runs from a character to one that is not before it. -/
def checkRange (low high : Token) (first last : Member) : Reading Unit := do
  let bad : Reading Unit :=
    fail (.characterRange (String.ofList low.chars) (String.ofList high.chars))
      (low.size + 1 + high.size)
  match first, last with
  | .code a, .code b => if b < a then bad
  | _, _ => bad

/-- The members of a set up to its closing bracket. `here` is where the set starts, and
`inhabited` says whether it has a member already. -/
def setMembers (here : Nat) : (fuel : Nat) → (inhabited : Bool) → Reading Unit
  | 0, _ => pure ()
  | fuel + 1, inhabited => do
    match ← next with
    | none => failAt .unterminatedSet here
    | some low =>
      if low = .plain ']' && inhabited then pure ()
      else
        let first ← member low
        if ← eat '-' then
          match ← next with
          | none => failAt .unterminatedSet here
          | some high =>
            if high = .plain ']' then pure ()
            else
              let last ← member high
              checkRange low high first last
              setMembers here fuel true
        else setMembers here fuel true

/-- A set of characters after its opening bracket. -/
def characterSet : Reading Node := do
  let here := (← get).position - 1
  let _ ← eat '^'
  setMembers here ((← get).rest.length + 1) false
  return .single

/-! ### Repetition -/

/-- No part can be repeated this often or more. -/
def repeatBound : Nat := 4294967295

/-- The number of decimal digits of a repeat count. -/
def repeatCount (digits : List Char) : Reading Nat := do
  if Number.maxDigits < digits.length then throw (.digitLimit digits.length)
  let count := Number.ofDigits digits
  if repeatBound ≤ count then throw .repeatLimit
  return count

/-- The counts in braces after the opening one, or nothing when no counts stand there. -/
def braces : Reading (Option (Nat × Option Nat)) := do
  let start ← get
  if (← peek) = some (.plain '\x7d') then return none
  let low ← takeAll Char.isDigit
  let high ← if ← eat ',' then takeAll Char.isDigit else pure low
  if !(← eat '\x7d') then
    set start
    return none
  let least ← if low.isEmpty then pure 0 else repeatCount low
  let most ← if high.isEmpty then pure none else some <$> repeatCount high
  match most with
  | some most => if most < least then failAt .repeatOrder start.position
  | none => pure ()
  return some (least, most)

/-- The counts of a repeat sign, or nothing when it stands for itself. -/
def repeatCounts (sign : Char) : Reading (Option (Nat × Option Nat)) :=
  if sign = '?' then return some (0, some 1)
  else if sign = '*' then return some (0, none)
  else if sign = '+' then return some (1, none)
  else braces

/-- Repeat the last of the parts read so far, the last one being first in `done`. A second sign
makes the repetition lazy or possessive. -/
def repeatLast (sign : Char) (done : List Node) : Reading (List Node) := do
  let position := (← get).position - 1
  match ← repeatCounts sign with
  | none => return .single :: done
  | some (least, most) =>
    match done with
    | [] => failAt .nothingToRepeat position
    | .anchor :: _ => failAt .nothingToRepeat position
    | .repetition _ _ _ _ :: _ => failAt .multipleRepeat position
    | last :: before =>
      let lazy ← eat '?'
      let possessive ← if lazy then pure false else eat '+'
      let greed : Greed := if lazy then .lazy else if possessive then .possessive else .greedy
      return .repetition greed least most [last] :: before

/-! ### Flags inside a pattern -/

/-- The flag of a letter inside a pattern, or the fault of a letter that is none. -/
def flagOf (token : Token) (otherwise : Cause) : Reading Flag := do
  match token with
  | .plain 'L' => fail .localeFlag 0
  | .plain c =>
    match Flag.ofLetter? c with
    | some flag => return flag
    | none => fail (if token.isLetter then .unknownFlag else otherwise) token.size
  | .escaped _ => fail otherwise token.size

/-- Flags to turn on, up to the character that ends them. -/
def flagsOn : (fuel : Nat) → Token → Flags → Reading (Flags × Char)
  | 0, _, flags => return (flags, ':')
  | fuel + 1, token, flags => do
    let flag ← flagOf token .missingFlagEnd
    let flags := flags.insert flag
    if flag.choosesAlphabet && flags.ascii && flags.unicode then fail .alphabetFlags 0
    match ← next with
    | none => fail .missingFlagEnd 0
    | some (.plain ')') => return (flags, ')')
    | some (.plain '-') => return (flags, '-')
    | some (.plain ':') => return (flags, ':')
    | some token => flagsOn fuel token flags

/-- Flags to turn off, up to the colon that ends them. -/
def flagsOff : (fuel : Nat) → Token → Flags → Reading Flags
  | 0, _, flags => return flags
  | fuel + 1, token, flags => do
    if token = .plain 'L' then fail .alphabetFlagOff 0
    let flag ← flagOf token (if flags = {} then .missingFlag else .missingColon)
    if flag.choosesAlphabet then fail .alphabetFlagOff 0
    let flags := flags.insert flag
    match ← next with
    | none => fail .missingColon 0
    | some (.plain ':') => return flags
    | some token => flagsOff fuel token flags

/-- What flags inside a pattern do: set flags of the whole pattern, or turn the verbose form on or
off for one group. -/
inductive FlagScope
  | global
  | group (verboseOn verboseOff : Bool)

/-- Flags inside a pattern, from their first token on. -/
def inlineFlags (first : Token) : Reading FlagScope := do
  let fuel := (← get).rest.length + 1
  let (on, finish) ← if first = .plain '-' then pure ({}, '-') else flagsOn fuel first {}
  if finish = ')' then
    modify fun progress => { progress with flags := progress.flags.union on }
    return .global
  if on.template then fail .globalFlagOn 1
  let off ←
    if finish = '-' then
      match ← next with
      | none => fail .missingFlag 0
      | some token => flagsOff fuel token {}
    else pure {}
  if off.template then fail .globalFlagOff 1
  if on.meets off then fail .flagOnAndOff 1
  return .group on.verbose off.verbose

/-! ### Sequences and groups -/

/-- White space that the verbose form skips. -/
def isLayout (c : Char) : Bool := [' ', '\t', '\n', '\r', '\x0b', '\x0c'].contains c

/-- Skip a comment of the verbose form, which ends with its line. -/
def skipLine : (fuel : Nat) → Reading Unit
  | 0 => pure ()
  | fuel + 1 => do
    match ← next with
    | none => pure ()
    | some token => if token = .plain '\n' then pure () else skipLine fuel

/-- Skip a comment in parentheses that started at a position. -/
def skipComment (start : Nat) : (fuel : Nat) → Reading Unit
  | 0 => pure ()
  | fuel + 1 => do
    match ← peek with
    | none => failAt .unterminatedComment start
    | some token =>
      advance
      if token = .plain ')' then pure () else skipComment start fuel

/-- The end of a group that started at a position. -/
def expectClose (start : Nat) : Reading Unit := do
  if !(← eat ')') then failAt .unterminatedGroup start

/-- What starts with an opening parenthesis. -/
inductive Opening
  | capture (name : Option (List Char))
  | plain
  | atomic
  | flagged (verboseOn verboseOff : Bool)
  | look (behind : Bool)
  | condition (group : Nat)
  | backReference (node : Node)
  | comment
  | globalFlags

/-- What stands after `(?P`. -/
def namedOpening : Reading Opening := do
  if ← eat '<' then
    let name ← nameUntil '>' "group name"
    checkGroupName name
    return .capture (some name)
  else if ← eat '=' then
    let name ← nameUntil ')' "group name"
    checkGroupName name
    let number ← groupNamed name
    return .backReference (← reference number (name.length + 1))
  else
    match ← next with
    | none => fail .unexpectedEnd 0
    | some token => fail (.unknownExtension (String.ofList ('?' :: 'P' :: token.chars))) (token.size + 2)

/-- What stands after an opening parenthesis that started at a position. -/
def opening (start : Nat) : Reading Opening := do
  if !(← eat '?') then return .capture none
  match ← next with
  | none => fail .unexpectedEnd 0
  | some (.plain 'P') => namedOpening
  | some (.plain ':') => return .plain
  | some (.plain '#') =>
    skipComment start ((← get).rest.length + 1)
    return .comment
  | some (.plain '=') => return .look false
  | some (.plain '!') => return .look false
  | some (.plain '<') =>
    match ← next with
    | none => fail .unexpectedEnd 0
    | some (.plain '=') => return .look true
    | some (.plain '!') => return .look true
    | some token =>
      fail (.unknownExtension (String.ofList ('?' :: '<' :: token.chars))) (token.size + 2)
  | some (.plain '(') =>
    let name ← nameUntil ')' "group name"
    let group ← conditionGroup name
    checkLookBehind group
    return .condition group
  | some (.plain '>') => return .atomic
  | some token =>
    let isFlag := match token with
      | .plain c => c = '-' || c = 'L' || (Flag.ofLetter? c).isSome
      | .escaped _ => false
    if isFlag then
      match ← inlineFlags token with
      | .global => return .globalFlags
      | .group verboseOn verboseOff => return .flagged verboseOn verboseOff
    else fail (.unknownExtension (String.ofList ('?' :: token.chars))) (token.size + 1)

mutual

/-- Branches divided by bars. At the top of a pattern the flags found in one branch hold for the
next. -/
def branches : (fuel : Nat) → (verbose top first : Bool) → Reading (List (List Node))
  | 0, _, _, _ => return []
  | fuel + 1, verbose, top, first => do
    let branch ← parts fuel verbose first []
    if ← eat '|' then
      let flags := (← get).flags
      let verbose := if top then flags.verbose else verbose
      return branch :: (← branches fuel verbose top false)
    else return [branch]

/-- Parts after each other, up to a bar, a closing parenthesis or the end; `done` are those read,
the last one first, and `first` says whether flags of the whole pattern may still be set. -/
def parts : (fuel : Nat) → (verbose first : Bool) → (done : List Node) → Reading (List Node)
  | 0, _, _, done => return done.reverse
  | fuel + 1, verbose, first, done => do
    match ← peek with
    | none => return done.reverse
    | some (.plain '|') => return done.reverse
    | some (.plain ')') => return done.reverse
    | some (.escaped c) =>
      advance
      parts fuel verbose first ((← escape c) :: done)
    | some (.plain c) =>
      advance
      if verbose && isLayout c then parts fuel verbose first done
      else if verbose && c = '#' then
        skipLine ((← get).rest.length + 1)
        parts fuel verbose first done
      else if c = '[' then parts fuel verbose first ((← characterSet) :: done)
      else if c = '?' || c = '*' || c = '+' || c = '\x7b' then
        parts fuel verbose first (← repeatLast c done)
      else if c = '^' || c = '$' then parts fuel verbose first (.anchor :: done)
      else if c = '(' then
        let start := (← get).position - 1
        match ← opening start with
        | .comment => parts fuel verbose first done
        | .backReference node => parts fuel verbose first (node :: done)
        | .globalFlags =>
          if !first || !done.isEmpty then failAt .lateFlags start
          parts fuel (← get).flags.verbose first done
        | .look behind =>
          let outer := (← get).lookBehind
          if behind && outer.isNone then
            modify fun progress => { progress with lookBehind := some progress.groups.length }
          let body ← body fuel verbose
          if behind && outer.isNone then
            modify fun progress => { progress with lookBehind := none }
          expectClose start
          parts fuel verbose first (.look behind body :: done)
        | .condition _ =>
          let yes ← parts fuel verbose false []
          let no ←
            if ← eat '|' then
              let no ← parts fuel verbose false []
              if (← peek) = some (.plain '|') then fail .branches 0
              pure no
            else pure []
          expectClose start
          parts fuel verbose first (.conditional yes no :: done)
        | .capture name =>
          let number ← openGroup name
          let body ← body fuel verbose
          expectClose start
          closeGroup number body
          parts fuel verbose first (.group body :: done)
        | .plain =>
          let body ← body fuel verbose
          expectClose start
          parts fuel verbose first (.group body :: done)
        | .flagged verboseOn verboseOff =>
          let body ← body fuel ((verbose || verboseOn) && !verboseOff)
          expectClose start
          parts fuel verbose first (.group body :: done)
        | .atomic =>
          let body ← body fuel verbose
          expectClose start
          parts fuel verbose first (.atomic body :: done)
      else parts fuel verbose first (.single :: done)

/-- The content of a group. -/
def body : (fuel : Nat) → (verbose : Bool) → Reading (List Node)
  | 0, _ => return []
  | fuel + 1, verbose => do
    match ← branches fuel verbose false false with
    | [only] => return only
    | several => return [.alternation several]

end

/-- A whole pattern: its branches and nothing after them. Patterns read letters of all scripts
unless a flag says otherwise. -/
def whole (fuel : Nat) : Reading (List (List Node)) := do
  let result ← branches fuel (← get).flags.verbose true true
  let flags := (← get).flags
  if flags.ascii && flags.unicode then throw .flagConflict
  modify fun progress => { progress with flags := { flags with unicode := !flags.ascii } }
  if (← peek).isSome then fail .unbalanced 0
  let progress ← get
  match progress.conditions.find? fun condition => progress.groups.length ≤ condition.1 with
  | some (number, position) => failAt (.groupReference number) position
  | none => return result

/-- Every look-behind goes back by a fixed distance that is not too great, and a template repeats
nothing. -/
def checkDemands (template : Bool) : List Demand → Except Fault Unit
  | [] => .ok ()
  | .lookBehind width :: rest =>
    if maxLookBehind < width.least then .error (.malformed .looksTooFar none)
    else if width.least ≠ width.most then .error (.malformed .variableLookBehind none)
    else checkDemands template rest
  | .repetition greed :: rest =>
    if template then .error (.malformed (.templateRepeat greed) none)
    else checkDemands template rest

/-- The flags of a pattern, those set inside it included, or why it is refused. -/
def parse (source : String) (flags : Flags) : Except Fault Flags := do
  let (tokens, dangling) := Token.scan source.toList
  if tokens.isEmpty && dangling then throw (.malformed .danglingEscape (some 0))
  let start : Progress := { rest := tokens, position := 0, dangling, flags }
  let (parsed, finish) ← (whole (3 * tokens.length + 3)).run start
  checkDemands finish.flags.template (branchesDemands parsed)
  return finish.flags

end ResourceQuery.Pattern
