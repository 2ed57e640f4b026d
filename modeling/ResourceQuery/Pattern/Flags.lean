/-!
The flags of a pattern. A flag may be set from outside or by a letter inside the pattern.
-/
namespace ResourceQuery.Pattern

/-- One flag. -/
inductive Flag
  | ignoreCase
  | multiline
  | dotAll
  | verbose
  | ascii
  | unicode
  | template
  deriving DecidableEq, Repr

/-- A set of flags. -/
structure Flags where
  ignoreCase : Bool := false
  multiline : Bool := false
  dotAll : Bool := false
  verbose : Bool := false
  ascii : Bool := false
  unicode : Bool := false
  template : Bool := false
  deriving DecidableEq, Inhabited, Repr

namespace Flag

/-- The flag of a letter. -/
def ofLetter? : Char → Option Flag
  | 'i' => some .ignoreCase
  | 'm' => some .multiline
  | 's' => some .dotAll
  | 'x' => some .verbose
  | 'a' => some .ascii
  | 'u' => some .unicode
  | 't' => some .template
  | _ => none

/-- Flags that choose what counts as a letter exclude each other. -/
def choosesAlphabet (flag : Flag) : Bool := flag = .ascii || flag = .unicode

end Flag

namespace Flags

/-- The set with one more flag. -/
def insert (flags : Flags) : Flag → Flags
  | .ignoreCase => { flags with ignoreCase := true }
  | .multiline => { flags with multiline := true }
  | .dotAll => { flags with dotAll := true }
  | .verbose => { flags with verbose := true }
  | .ascii => { flags with ascii := true }
  | .unicode => { flags with unicode := true }
  | .template => { flags with template := true }

/-- All flags of two sets. -/
def union (a b : Flags) : Flags where
  ignoreCase := a.ignoreCase || b.ignoreCase
  multiline := a.multiline || b.multiline
  dotAll := a.dotAll || b.dotAll
  verbose := a.verbose || b.verbose
  ascii := a.ascii || b.ascii
  unicode := a.unicode || b.unicode
  template := a.template || b.template

/-- Whether two sets share a flag. -/
def meets (a b : Flags) : Bool :=
  (a.ignoreCase && b.ignoreCase) || (a.multiline && b.multiline) || (a.dotAll && b.dotAll) ||
    (a.verbose && b.verbose) || (a.ascii && b.ascii) || (a.unicode && b.unicode) ||
    (a.template && b.template)

/-- The set of the flags of some letters; letters of no flag are skipped. -/
def ofLetters (letters : List Char) : Flags :=
  (letters.filterMap Flag.ofLetter?).foldl insert {}

/-- The letters of the flags that a reader of a pattern can tell apart. -/
def letters (flags : Flags) : List Char :=
  [(flags.ascii, 'a'), (flags.ignoreCase, 'i'), (flags.multiline, 'm'), (flags.dotAll, 's'),
    (flags.verbose, 'x')].filterMap fun (set, letter) => if set then some letter else none

end Flags
end ResourceQuery.Pattern
