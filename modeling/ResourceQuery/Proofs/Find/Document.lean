import ResourceQuery.Find.Format
import ResourceQuery.Proofs.Find.Options
import ResourceQuery.Proofs.Json.Document

/-!
Find queries in JSON. Whatever the indent, what is read from the JSON text of a find query is its
mapping, with dates as texts, patterns as mappings and tuples as lists (`render_indent`).
-/
namespace ResourceQuery

/-- Flags as numbers are data. -/
theorem isData_flagEntries (set clear : Int) (flags : Mapping Bool) (special : Bool) :
    (Value.mapping (flagEntries set clear flags.entries)).IsData special := by
  obtain ⟨flags, apart⟩ := flags
  have made : Value.EntriesOfData special (flagEntries set clear flags) ∧ Value.EntriesKeysApart (flagEntries set clear flags) := by
    clear apart
    induction flags with
    | nil => exact ⟨trivial, trivial⟩
    | cons flag flags ih => exact ⟨⟨trivial, ih.1⟩, trivial, ih.2⟩
  exact ⟨made.1, (FindQuery.keys_flagEntries set clear flags).symm ▸ apart, made.2⟩

/-- A find query of which the criteria are data. -/
structure DataQuery extends FindQuery where
  data : (Value.mapping criteria.toEntries).IsData true

namespace FindQuery

/-- The mapping of a find query is data if its criteria are. -/
theorem isData_toValue {query : FindQuery} {special : Bool}
    (criteria : (Value.mapping query.criteria.toEntries).IsData special) : query.toValue.IsData special := by
  have sort := isData_flagEntries 1 (-1) query.options.sort special
  have projection := isData_flagEntries 1 0 query.options.projection special
  have keys : ["criteria", "sort", "projection", "limit", "skip", "after", "before"].Nodup := by decide
  exact ⟨⟨criteria.made, sort.made, projection.made, trivial, trivial, trivial, trivial, trivial⟩,
    keys, criteria.apart, sort.apart, projection.apart, trivial, trivial, trivial, trivial, trivial⟩

/-- A query with a date, a pattern, a tuple and empty containers among its criteria. -/
def sample : DataQuery where
  criteria :=
    [("a", .operators [("$gt", .moment ⟨⟨2001, 2, 3⟩, 4, 5, 6, 7000, some 0⟩),
        ("$in", .list [.tuple [.null, .text "é\n\"😀"], .mapping []])]),
      ("b", .equals (.pattern ⟨"^x", .ofLetters ['i']⟩)), ("$or", .branches [[("c", .equals (.int (-3)))], []])]
  options := { sort := Mapping.empty.put "a" false, limit := 10 }
  data := by
    constructor
    · simp [Criteria.toEntries, Constraint.entryValues, Constraint.toValue, Constraint.alternativeValues, Value.OfData,
        Value.AllOfData, Value.EntriesOfData]
    · simp [Criteria.toEntries, Constraint.entryValues, Constraint.toValue, Constraint.alternativeValues, Value.KeysApart,
        Value.AllKeysApart, Value.EntriesKeysApart]

end FindQuery

namespace Format

/-- JSON with an indent or without one. -/
theorem exists_style (indent : Option Int) : ∃ style, ofIndent indent = .json style ∧ style.layout.Loose := by
  cases indent with
  | none => exact ⟨.spaced, rfl, Json.loose_spaced⟩
  | some indent => exact ⟨.indented indent, rfl, Json.loose_indented indent⟩

/-- **JSON loses nothing of a find query of data.** Whatever the indent, what is read from the text is the mapping of the query, each entry in its place, with dates as texts, patterns as mappings and tuples as
lists; and with any other indent there is a text too, from which the same is read. -/
theorem render_indent {query : DataQuery} {indent : Option Int} {text : String}
    (rendered : render query.toFindQuery (ofIndent indent) = .ok text) :
    ∃ json, Json.read text = .ok json ∧ Value.ofJson json = query.toValue.decoded ∧
      ∀ other, ∃ again, render query.toFindQuery (ofIndent other) = .ok again ∧ Json.read again = .ok json := by
  obtain ⟨style, same, loose⟩ := exists_style indent
  rw [same] at rendered
  obtain ⟨json, read, found, each⟩ := Value.jsonText_read loose (FindQuery.isData_toValue query.data) rendered
  refine ⟨json, read, found, fun other => ?_⟩
  obtain ⟨otherStyle, otherSame, otherLoose⟩ := exists_style other
  rw [otherSame]
  exact each otherStyle otherLoose

/-- On lines without an indent, for one, and so on one line. -/
theorem render_indent_sample :
    ∃ text json, render FindQuery.sample.toFindQuery (ofIndent (some (-1))) = .ok text ∧ Json.read text = .ok json ∧
      Value.ofJson json = .mapping [("criteria", .mapping
          [("a", .mapping [("$gt", .text "2001-02-03T04:05:06.007000+00:00"),
              ("$in", .list [.list [.null, .text "é\n\"😀"], .mapping []])]),
            ("b", .mapping [("$regex", .text "^x"), ("$options", .text "i")]),
            ("$or", .list [.mapping [("c", .int (-3))], .mapping []])]),
        ("sort", .mapping [("a", .int (-1))]), ("projection", .mapping []), ("limit", .int 10), ("skip", .int 0),
        ("after", .text ""), ("before", .text "")] ∧
      ∃ again, render FindQuery.sample.toFindQuery (ofIndent none) = .ok again ∧ Json.read again = .ok json := by
  have rendered : ∃ text, render FindQuery.sample.toFindQuery (ofIndent (some (-1))) = .ok text := ⟨_, rfl⟩
  obtain ⟨text, rendered⟩ := rendered
  obtain ⟨json, read, found, each⟩ := render_indent rendered
  exact ⟨text, json, rendered, read, found.trans rfl, each none⟩

end Format
end ResourceQuery
