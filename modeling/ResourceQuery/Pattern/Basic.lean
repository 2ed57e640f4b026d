import ResourceQuery.Pattern.Parser

/-!
Patterns: regular expressions that are checked and printed but not run. Two patterns are the same
when their texts and flags are.
-/
namespace ResourceQuery

/-- A regular expression with its flags. -/
structure Pattern where
  source : String
  flags : Pattern.Flags
  deriving DecidableEq, Inhabited

/-- The pattern of a text, with the flags set inside it added to those given. -/
def Pattern.compile (source : String) (flags : Pattern.Flags) : Except Pattern.Fault Pattern := do
  return ⟨source, ← Pattern.parse source flags⟩

end ResourceQuery
