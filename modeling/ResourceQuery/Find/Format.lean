import ResourceQuery.Find.Listing

/-!
The formats in which find queries are written.
-/
namespace ResourceQuery

/-- A format: JSON in a style, or a listing. -/
inductive Format
  | json (style : Json.Style)
  | tree

namespace Format

/-- The format of a name; JSON has an indent of two. -/
def ofName : String → Except Error Format
  | "json" => .ok (.json (.indented 2))
  | "tree" => .ok .tree
  | name => .error (.unknownFormat name)

/-- JSON with an indent, or on one line without one. -/
def ofIndent : Option Int → Format
  | some indent => .json (.indented indent)
  | none => .json .spaced

/-- A find query in a format. -/
def render (query : FindQuery) : Format → Except Error String
  | .json style => query.toValue.jsonText style
  | .tree => Listing.text query

end Format
end ResourceQuery
