import ResourceQuery.Error

/-!
Comparisons in shorthand: `field<=value` stands for the call `le(field,value)`. The symbols `<`
and `>` may be written as `%3C` and `%3E`; with a backslash in front these are ordinary text. The
text is read as operands, comparators and other characters, and `Shorthand.expand` writes every
comparator with the operands next to it as a call.
-/
namespace ResourceQuery.Shorthand

/-- The percent forms of comparators: the last character of the escape, whether `=` follows it, and
the comparator it stands for. -/
structure PercentForm where
  upper : Char
  lower : Char
  withEquals : Bool
  comparator : List Char

/-- How many characters of a text are a percent form. -/
def PercentForm.length? (form : PercentForm) : List Char → Option Nat
  | '%' :: '3' :: c :: rest =>
    if c = form.upper ∨ c = form.lower then
      if form.withEquals then
        if rest.head? = some '=' then some 4 else none
      else some 3
    else none
  | _ => none

/-- The text with a percent form replaced by its comparator, from the character after the first
`skip` on; `escaped` says whether a backslash stands before it. -/
def PercentForm.replaceFrom (form : PercentForm) : (skip : Nat) → (escaped : Bool) → List Char → List Char
  | _, _, [] => []
  | skip + 1, _, _ :: rest => form.replaceFrom skip false rest
  | 0, escaped, c :: rest =>
    match if escaped then none else form.length? (c :: rest) with
    | some length => form.comparator ++ form.replaceFrom (length - 1) false rest
    | none => c :: form.replaceFrom 0 (c = '\\') rest

/-- The percent forms in the order in which they are replaced. -/
def percentForms : List PercentForm :=
  [⟨'C', 'c', true, ['=', 'l', 'e', '=']⟩, ⟨'E', 'e', true, ['=', 'g', 'e', '=']⟩,
    ⟨'C', 'c', false, ['=', 'l', 't', '=']⟩, ⟨'E', 'e', false, ['=', 'g', 't', '=']⟩]

/-- The text with all percent forms replaced. -/
def replacePercentForms (text : List Char) : List Char :=
  percentForms.foldl (fun text form => form.replaceFrom 0 false text) text

/-- A token of a text with comparisons. -/
inductive Token
  /-- A run of operand characters, or such runs and commas in parentheses. -/
  | operand (text : List Char)
  | comparator (symbol : List Char)
  | other (c : Char)
  deriving DecidableEq, Repr

/-- The characters of a name or number, inside parentheses or outside. -/
def isOperandChar (c : Char) : Bool := Text.isWord c || "+*$-:%._".toList.contains c

/-- The characters of an operand outside parentheses. -/
def isRunChar (c : Char) : Bool := isOperandChar c || c = ' '

/-- The characters of an operand inside parentheses. -/
def isListChar (c : Char) : Bool := isOperandChar c || c = ','

/-- The operand in parentheses at the start of a text. -/
def list? : List Char → Option (List Char)
  | '(' :: rest =>
    let inside := rest.takeWhile isListChar
    if inside ≠ [] ∧ (rest.dropWhile isListChar).head? = some ')' then some ('(' :: inside ++ [')'])
    else none
  | _ => none

/-- After an `=`: a word and another `=`, or nothing. -/
def named (text : List Char) : List Char :=
  if (text.dropWhile Text.isWord).head? = some '=' then text.takeWhile Text.isWord ++ ['='] else []

/-- The comparator at the start of a text: `=` alone, after `<`, `>` or `!` or around a name, or
`<` or `>` alone. -/
def comparator? : List Char → Option (List Char)
  | '=' :: rest => some ('=' :: named rest)
  | c :: '=' :: rest =>
    if c = '<' ∨ c = '>' ∨ c = '!' then some (c :: '=' :: named rest) else none
  | c :: _ => if c = '<' ∨ c = '>' then some [c] else none
  | [] => none

/-- The tokens of a text of which the first `skip` characters are already taken. -/
def tokensFrom : (skip : Nat) → List Char → List Token
  | _, [] => []
  | skip + 1, _ :: rest => tokensFrom skip rest
  | 0, c :: rest =>
    if isRunChar c then
      let run := rest.takeWhile isRunChar
      .operand (c :: run) :: tokensFrom run.length rest
    else
      match comparator? (c :: rest) with
      | some symbol => .comparator symbol :: tokensFrom (symbol.length - 1) rest
      | none =>
        match list? (c :: rest) with
        | some list => .operand list :: tokensFrom (list.length - 1) rest
        | none => .other c :: tokensFrom 0 rest

/-- The tokens of a text. -/
def tokens (text : List Char) : List Token := tokensFrom 0 text

/-- The operator of a comparator: one of the symbols, or the name between two `=`. -/
def operator? (symbol : List Char) : Option (List Char) :=
  match symbol with
  | ['!', '='] => some ['n', 'e']
  | ['<'] => some ['l', 't']
  | ['<', '='] => some ['l', 'e']
  | ['='] => some ['e', 'q']
  | ['=', '='] => some ['e', 'q']
  | ['>'] => some ['g', 't']
  | ['>', '='] => some ['g', 'e']
  | '=' :: name => some name.dropLast
  | _ => none

/-- A comparison as a call. -/
def call (field symbol value : List Char) : Except Error (List Char) :=
  match operator? symbol with
  | some name => .ok (name ++ '(' :: field ++ ',' :: value ++ [')'])
  | none => .error (.parse (.illegalComparator (String.ofList symbol)))

/-- The text of tokens, in which a comparator takes the operands next to it; an operand goes to the
comparator after it only if it was not taken by the one before. -/
def text : List Token → Except Error (List Char)
  | [] => .ok []
  | .operand field :: .comparator symbol :: .operand value :: rest => do
    return (← call field symbol value) ++ (← text rest)
  | .operand field :: .comparator symbol :: rest => do
    return (← call field symbol []) ++ (← text rest)
  | .comparator symbol :: .operand value :: rest => do
    return (← call [] symbol value) ++ (← text rest)
  | .comparator symbol :: rest => do
    return (← call [] symbol []) ++ (← text rest)
  | .operand operand :: rest => do return operand ++ (← text rest)
  | .other c :: rest => do return c :: (← text rest)

/-- The text with every comparison written as a call. -/
def expand (source : List Char) : Except Error (List Char) :=
  text (tokens (replacePercentForms source))

end ResourceQuery.Shorthand
