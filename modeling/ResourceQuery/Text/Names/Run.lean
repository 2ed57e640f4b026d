/-!
Runs of names. The names of characters that follow each other share most of their words, so a run
gives each name by what it adds to the one before it: a small letter says how many words the name
takes over (`a` for none), and the rest of the name follows. A word ends with the space or the
hyphen after it. `NameRun.names` writes all names out.
-/
namespace ResourceQuery.Text

/-- The names of characters from `first` on, one for each, written one after the other; the lines
are parts of one text. -/
structure NameRun where
  first : Nat
  lines : List String

/-- The words of a name, each with the space or hyphen after it. -/
def nameWords : List Char → List (List Char)
  | [] => []
  | c :: rest =>
    if c = ' ' ∨ c = '-' then [c] :: nameWords rest
    else
      match nameWords rest with
      | [] => [[c]]
      | word :: more => (c :: word) :: more

/-- The text up to the first small letter, and then for each small letter how many words it takes
over and the text after it. -/
def nameEntries : List Char → List Char × List (Nat × List Char)
  | [] => ([], [])
  | c :: rest =>
    match nameEntries rest with
    | (text, more) => if c.isLower then ([], (c.toNat - 97, text) :: more) else (c :: text, more)

/-- The names that entries stand for with their code points from `code` on, where the words of the
name before them are given. -/
def namesFrom : (code : Nat) → (before : List (List Char)) → List (Nat × List Char) →
    List (String × Nat)
  | _, _, [] => []
  | code, before, (shared, text) :: rest =>
    let words := before.take shared ++ nameWords text
    (String.ofList words.flatten, code) :: namesFrom (code + 1) words rest

/-- The names of a run with their code points. -/
def NameRun.names (run : NameRun) : List (String × Nat) :=
  namesFrom run.first [] (nameEntries (run.lines.flatMap String.toList)).2

end ResourceQuery.Text
