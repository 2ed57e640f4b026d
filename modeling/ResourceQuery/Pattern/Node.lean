/-!
Patterns as trees, as far as their form matters: which parts take characters, and how many. The
width of a part is the least and the greatest number of characters it takes. A look-behind must
have one width, and a template may not repeat anything; `demandsOf` lists the places where this
matters.
-/
namespace ResourceQuery.Pattern

/-- The least and the greatest number of characters that a part takes. -/
structure Width where
  least : Nat
  most : Nat
  deriving DecidableEq, Inhabited, Repr

/-- Widths are counted up to this bound, which stands for any greater one too. -/
def maxWidth : Nat := Nat.pow 2 64

/-- The greatest distance that a look-behind can have. -/
def maxLookBehind : Nat := Nat.pow 2 32 - 1

/-- How a repetition shares characters with what follows it: it takes as many as it can, as few as
it can, or as many as it can without giving any back. -/
inductive Greed
  | greedy
  | lazy
  | possessive
  deriving DecidableEq, Repr

/-- A part of a pattern. -/
inductive Node
  /-- One character: a letter, a set or any. -/
  | single
  /-- A place, such as the start of a line. -/
  | anchor
  | look (behind : Bool) (body : List Node)
  | group (body : List Node)
  | atomic (body : List Node)
  /-- A part that is repeated; without `most` any number of times. -/
  | repetition (greed : Greed) (least : Nat) (most : Option Nat) (body : List Node)
  /-- What an earlier group has taken. -/
  | reference (width : Width)
  | conditional (yes : List Node) (no : List Node)
  | alternation (branches : List (List Node))

namespace Width

/-- The width of nothing. -/
def zero : Width := ⟨0, 0⟩

/-- The width of two parts after each other. -/
def add (a b : Width) : Width := ⟨a.least + b.least, a.most + b.most⟩

/-- The width of either of two parts. -/
def join (a b : Width) : Width := ⟨min a.least b.least, max a.most b.most⟩

/-- A width within the bound. -/
def bounded (width : Width) : Width := ⟨min width.least maxWidth, min width.most maxWidth⟩

/-- The width of a repeated part. -/
def times (width : Width) (least : Nat) : Option Nat → Width
  | some most => ⟨width.least * least, width.most * most⟩
  | none => ⟨width.least * least, if width.most = 0 then 0 else maxWidth⟩

end Width

mutual

/-- The width of a part. -/
def Node.width : Node → Width
  | .single => ⟨1, 1⟩
  | .anchor => Width.zero
  | .look _ _ => Width.zero
  | .group body => (widthSum body).bounded
  | .atomic body => (widthSum body).bounded
  | .repetition _ least most body => (widthSum body).bounded.times least most
  | .reference width => width
  | .conditional yes no => (widthSum yes).bounded.join (widthSum no).bounded
  | .alternation branches => branchesWidth branches
termination_by structural node => node

/-- The widths of parts, added up. -/
def widthSum : List Node → Width
  | [] => Width.zero
  | node :: rest => node.width.add (widthSum rest)
termination_by structural nodes => nodes

/-- The width of any of several branches. -/
def branchesWidth : List (List Node) → Width
  | [] => ⟨maxWidth, 0⟩
  | branch :: rest => (widthSum branch).bounded.join (branchesWidth rest)
termination_by structural branches => branches

end

/-- The width of parts after each other. -/
def widthOf (nodes : List Node) : Width := (widthSum nodes).bounded

/-- A place of a pattern that not every pattern may have. -/
inductive Demand
  | lookBehind (width : Width)
  | repetition (greed : Greed)

mutual

/-- The demands of a part, its own before those of the parts inside it. -/
def Node.demands : Node → List Demand
  | .single => []
  | .anchor => []
  | .look behind body =>
    if behind then .lookBehind (widthOf body) :: demandsOf body else demandsOf body
  | .group body => demandsOf body
  | .atomic body => demandsOf body
  | .repetition greed _ _ body => .repetition greed :: demandsOf body
  | .reference _ => []
  | .conditional yes no => demandsOf yes ++ demandsOf no
  | .alternation branches => branchesDemands branches
termination_by structural node => node

/-- The demands of parts after each other. -/
def demandsOf : List Node → List Demand
  | [] => []
  | node :: rest => node.demands ++ demandsOf rest
termination_by structural nodes => nodes

/-- The demands of several branches. -/
def branchesDemands : List (List Node) → List Demand
  | [] => []
  | branch :: rest => demandsOf branch ++ branchesDemands rest
termination_by structural branches => branches

end

end ResourceQuery.Pattern
