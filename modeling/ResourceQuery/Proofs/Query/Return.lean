import ResourceQuery.Proofs.Query.Leftmost
import ResourceQuery.Proofs.Query.Survival

/-!
Which trees return from their printed text. A tree that was read is read again from the text that is
printed for it exactly if its root has a name that can open a text and all arguments survive
(`Query.parse_print_iff`). If the printed text is read as an equal tree, the expansion of shorthand
kept the name of the root, and all nodes among the arguments that are read are named by words.
-/
namespace ResourceQuery

open Query (CanName Unjoined)

theorem Query.Unjoined.append {first second : List Char} (left : Unjoined first) (right : Unjoined second) :
    Unjoined (first ++ second) := List.forall_mem_append.mpr ⟨left, right⟩

theorem Query.CanName.unjoined {name : List Char} (valid : CanName name) : Unjoined name := by
  intro c member
  have none := valid.1.noSeparator c member
  refine ⟨?_, ?_⟩
  · rintro rfl
    cases none
  · rintro rfl
    cases none

theorem Text.unjoined_listed {texts : List String} (each : ∀ text ∈ texts, Unjoined text.toList) :
    Unjoined (listed texts) := by
  induction texts with
  | nil => exact fun c member => by simp [listed] at member
  | cons head tail ih =>
    rw [List.forall_mem_cons] at each
    cases tail with
    | nil => simpa [listed] using each.1
    | cons next rest =>
      rw [listed, List.map_cons, List.map_cons, List.intercalate_cons_cons]
      exact (each.1.append (by decide)).append (ih each.2)

theorem Literal.print_unjoined {value : Value} {text : String} (printed : Literal.print value = .ok text) :
    Unjoined text.toList := by
  intro c member
  refine ⟨?_, ?_⟩
  · rintro rfl
    exact absurd ((Literal.print_inert printed).1.isPlain_or member) (by decide)
  · rintro rfl
    exact absurd ((Literal.print_inert printed).1.isPlain_or member) (by decide)

theorem Query.unjoined_group {inside : List Char} (unjoined : Unjoined inside) : Unjoined ('(' :: inside ++ [')']) :=
  Unjoined.append (List.forall_mem_cons.mpr ⟨by decide, unjoined⟩) (by decide)

mutual

/-- No connective sign is printed. -/
theorem Value.print_unjoined : ∀ {value : Value} {text : String}, value.Sound CanName → value.print = .ok text →
    Unjoined text.toList
  | .node (.text name) args, _, sound, printed => by
    obtain ⟨texts, inside, whole⟩ := Value.print_node printed
    rw [whole, Query.callText, List.append_assoc]
    exact sound.1.unjoined.append (Query.unjoined_group (Text.unjoined_listed (Value.printItems_unjoined sound.2 inside)))
  | .list items, _, sound, printed => by
    obtain ⟨texts, inside, whole⟩ := Value.print_items printed
    rw [whole]
    exact Query.unjoined_group (Text.unjoined_listed (Value.printItems_unjoined sound inside))
  | .null, _, _, printed => @Literal.print_unjoined .null _ printed
  | .bool b, _, _, printed => @Literal.print_unjoined (.bool b) _ printed
  | .int n, _, _, printed => @Literal.print_unjoined (.int n) _ printed
  | .real x, _, _, printed => @Literal.print_unjoined (.real x) _ printed
  | .text s, _, _, printed => @Literal.print_unjoined (.text s) _ printed
  | .moment m, _, _, printed => @Literal.print_unjoined (.moment m) _ printed
  | .pattern p, _, _, printed => @Literal.print_unjoined (.pattern p) _ printed
  | .mapping entries, _, _, printed => @Literal.print_unjoined (.mapping entries) _ printed

theorem Value.printItems_unjoined : ∀ {items : List Value} {texts : List String}, Value.AllSound CanName items →
    Value.printItems items = .ok texts → ∀ text ∈ texts, Unjoined text.toList
  | [], _, _, printed => by
    cases printed
    simp
  | item :: rest, _, sound, printed => by
    obtain ⟨head, tail, first, later, rfl⟩ := Value.printItems_cons printed
    exact List.forall_mem_cons.mpr ⟨Value.print_unjoined sound.1 first, Value.printItems_unjoined sound.2 later⟩

end

/-- The expansion brings no connective sign in. -/
theorem Shorthand.expand_unjoined {source expanded : List Char} (unjoined : Unjoined source)
    (done : expand source = .ok expanded) : Unjoined expanded := by
  intro c member
  rcases expand_mem done c member with old | word | sign
  · exact unjoined c old
  · exact ⟨Text.ne_of_class word (by decide), Text.ne_of_class word (by decide)⟩
  · exact (by decide : ∀ c ∈ ['(', ',', ')'], c ≠ '&' ∧ c ≠ '|') c sign

theorem Value.equalScalars_wordNamed {first second : Value} (agree : equalScalars first second = true) :
    second.WordNamed := by
  cases second with
  | list | tuple | node => simp [equalScalars] at agree
  | _ => trivial

mutual

/-- A value that agrees with one whose nodes are named by words is such a value. -/
theorem Value.same_wordNamed : ∀ {first second : Value}, first.Sound IsWord → same first second = true → second.WordNamed
  | .node (.text name) args, _, sound, agree => by
    obtain ⟨others, rfl, items⟩ := Value.same_node agree
    exact ⟨sound.1, Value.sameItems_wordNamed sound.2 items⟩
  | .list items, second, sound, agree => by
    cases second with
    | list others => exact Value.sameItems_wordNamed sound agree
    | _ => simp [same, equalScalars] at agree
  | .mapping _, second, _, agree => by
    cases second with
    | mapping => trivial
    | _ => simp [same, equalScalars] at agree
  | .real _, second, _, agree => by
    cases second with
    | list | tuple | node => simp [same, equalScalars] at agree
    | _ => trivial
  | .null, _, _, agree => Value.equalScalars_wordNamed agree
  | .bool _, _, _, agree => Value.equalScalars_wordNamed agree
  | .int _, _, _, agree => Value.equalScalars_wordNamed agree
  | .text _, _, _, agree => Value.equalScalars_wordNamed agree
  | .moment _, _, _, agree => Value.equalScalars_wordNamed agree
  | .pattern _, _, _, agree => Value.equalScalars_wordNamed agree

theorem Value.sameItems_wordNamed : ∀ {first second : List Value}, Value.AllSound IsWord first →
    sameItems first second = true → Value.AllWordNamed second
  | [], second, _, agree => by
    cases second with
    | nil => trivial
    | cons => cases agree
  | item :: rest, second, sound, agree => by
    cases second with
    | nil => cases agree
    | cons other others =>
      obtain ⟨here, later⟩ := Bool.and_eq_true _ _ ▸ agree
      exact ⟨Value.same_wordNamed sound.1 here, Value.sameItems_wordNamed sound.2 later⟩

end

namespace Query

/-! ### The name of the root -/

theorem CanName.calm {name : List Char} (valid : CanName name) : ∀ c ∈ name, Shorthand.isComparator c = false ∧ c ≠ '(' :=
  fun c member => ⟨valid.2 c member, fun same => valid.1.noOpen (same ▸ member)⟩

theorem open_unique {name other rest more : List Char} (split : name ++ '(' :: rest = other ++ '(' :: more)
    (noOpen : '(' ∉ name) (otherNoOpen : '(' ∉ other) : name = other ∧ rest = more := by
  obtain ⟨between, rfl, tail⟩ := Text.append_split split fun c head member => by
    cases head
    exact noOpen member
  obtain _ | ⟨c, between⟩ := between
  · exact ⟨(List.append_nil name).symm, (List.cons.inj tail).2⟩
  · obtain rfl := (List.cons.inj tail).1
    exact absurd (by simp) otherNoOpen

/-- If the expansion of a printed text is read as a conjunction of its first call with other terms and
this agrees with what was printed, then the printed text starts with any number of nested words. -/
theorem begins_endless {query : Query} {text : String} (printed : query.print = .ok text) {name inside after : List Char}
    (expanded : Shorthand.expand text.toList = .ok (name ++ '(' :: (inside ++ ')' :: after))) (noOpen : '(' ∉ name)
    (unjoined : Unjoined inside) {depth : Nat} {args others : List Value}
    (reads : callArguments (readWithin depth) inside = .ok args)
    (agree : Value.same (.node (.text "and") (.node (.text (String.ofList name)) args :: others)) query.toValue = true)
    (count : Nat) : ∃ names, names.length = count + 1 ∧ (∀ name ∈ names, IsWord name) ∧ query.toValue.Begins names := by
  have outer : IsWord "and".toList := by decide +kernel
  induction count with
  | zero =>
    have begins : Value.Begins ["and".toList] (.node (.text "and") (.node (.text (String.ofList name)) args :: others)) :=
      ⟨rfl, .inl rfl⟩
    exact ⟨_, rfl, by simpa using outer, Value.same_begins begins agree⟩
  | succ count ih =>
    obtain ⟨names, length, words, begins⟩ := ih
    obtain ⟨rest, start⟩ := Value.print_begins begins printed
    rw [start] at expanded
    obtain ⟨changed, more, nested, same, each⟩ := Shorthand.expand_nest (by rintro rfl; cases length) words expanded
    obtain _ | ⟨word, changed⟩ := changed
    · rw [length] at same
      cases same
    · rw [List.forall_mem_cons] at each
      obtain ⟨rfl, tail⟩ := open_unique nested noOpen each.1.isName.noOpen
      have inner : Value.Begins (name :: changed) (.node (.text (String.ofList name)) args) := by
        refine ⟨String.toList_ofList, ?_⟩
        by_cases last : changed = []
        · exact .inl last
        · exact .inr (callArguments_nest last each.2 unjoined tail reads)
      have whole : Value.Begins ("and".toList :: name :: changed)
          (.node (.text "and") (.node (.text (String.ofList name)) args :: others)) := ⟨rfl, .inr ⟨_, _, rfl, inner⟩⟩
      refine ⟨_, by simpa [length] using same, ?_, Value.same_begins whole agree⟩
      exact List.forall_mem_cons.mpr ⟨outer, List.forall_mem_cons.mpr each⟩

theorem length_nest (names : List (List Char)) (rest : List Char) : names.length ≤ (Shorthand.nest names rest).length := by
  induction names with
  | nil => exact Nat.zero_le _
  | cons name names ih =>
    simp only [Shorthand.nest, List.foldr_cons, List.length_cons, List.length_append] at ih ⊢
    omega

/-- If the expansion of a printed text is read as an equal query, it is read as a call of the name that
the expansion starts with. -/
theorem first_call {query again : Query} {text : String} (sound : query.Sound) (printed : query.print = .ok text)
    {name rest : List Char} (valid : IsName name) (expanded : Shorthand.expand text.toList = .ok (name ++ '(' :: rest))
    (done : read (name ++ '(' :: rest) = .ok again) (agree : Value.same again.toValue query.toValue = true) :
    String.ofList name = query.name ∧ Value.AllWordNamed query.args := by
  have unjoined : Unjoined rest :=
    (Shorthand.expand_unjoined (Value.print_unjoined sound printed) expanded).subset fun c member => by simp [member]
  obtain ⟨less, inside, after, args, _, rfl, _, reads, alone⟩ := readWithin_call_first valid unjoined done
  have calm : Unjoined inside := unjoined.subset fun c member => by simp [member]
  rcases alone with rfl | ⟨_, others, rfl⟩
  · obtain ⟨found, same, items⟩ := Value.same_node agree
    obtain ⟨named, arguments⟩ := Value.node.inj same
    rw [arguments]
    exact ⟨(Value.text.inj named).symm, Value.sameItems_wordNamed (callArguments_words calm reads) items⟩
  · obtain ⟨names, length, _, begins⟩ := begins_endless printed expanded valid.noOpen calm reads agree text.toList.length
    obtain ⟨tail, start⟩ := Value.print_begins begins printed
    have bound := length_nest names tail
    rw [← start] at bound
    omega

theorem isName_append {name front word : List Char} (valid : IsName name) (within : ∀ c ∈ front, c ∈ name)
    (each : ∀ c ∈ word, Text.isWord c = true) (some : front ++ word ≠ []) : IsName (front ++ word) where
  some := some
  noSeparator := List.forall_mem_append.mpr
    ⟨fun c member => valid.noSeparator c (within c member), fun c member => separator?_word (each c member)⟩
  noOpen member := by
    rcases List.mem_append.mp member with old | new
    · exact valid.noOpen (within _ old)
    · exact absurd (each _ new) (by decide)
  noBlank := List.forall_mem_append.mpr
    ⟨fun c member => valid.noBlank c (within c member), fun c member => isBlank_word (each c member)⟩

/-- **Round trip.** A tree that was read and can be printed is read again from the printed text, as an
equal tree, exactly if the name of its root does not start with a question mark and holds no percent
form of a comparator, and its arguments survive: among them there are no NaN, no dates that UTC writes
to the millisecond before the year 1000, and no nodes with names that are no words. -/
theorem parse_print_iff {source text : String} {query : Query} (parsed : parse source = .ok query)
    (printed : query.print = .ok text) :
    (∃ again, parse text = .ok again ∧ again.toValue.equals query.toValue = true) ↔
      query.name.toList.head? ≠ some '?' ∧ Shorthand.hasForm false query.name.toList = false ∧
        Value.AllSurvive query.args := by
  have sound := parse_sound parsed
  obtain ⟨⟨valid, settled⟩, args⟩ : CanName query.name.toList ∧ Value.AllSound CanName query.args := parse_sound parsed
  obtain ⟨texts, inside, whole⟩ := Value.print_node printed
  rw [callText, List.append_assoc] at whole
  constructor
  · rintro ⟨again, done, agree⟩
    have noMark : query.name.toList.head? ≠ some '?' := by
      intro mark
      obtain ⟨tail, start⟩ := List.head?_eq_some_iff.mp mark
      rw [parse, whole, start] at done
      cases done
    have opens : text.toList.head? ≠ some '?' := by
      rw [whole, List.head?_append, List.head?_eq_some_head valid.some]
      rwa [List.head?_eq_some_head valid.some] at noMark
    obtain ⟨expansion, expanded, read⟩ := Outcome.bind_eq_ok_iff.mp (parse_eq (by simp [whole]) opens ▸ done)
    have calm := CanName.calm ⟨valid, settled⟩
    have found := expanded
    rw [whole] at found
    cases formed : Shorthand.hasForm false query.name.toList with
    | true =>
      -- The expansion starts with a shorter name.
      obtain ⟨before, word, more, rfl, within, named, shorter⟩ := Shorthand.expand_formed calm formed found
      have other := isName_append valid within named.word (by simp [named.some])
      obtain ⟨same, _⟩ := first_call sound printed other expanded read agree
      have length := congrArg (fun name => name.toList.length) same
      simp only [String.toList_ofList, List.length_append] at length
      omega
    | false =>
      obtain ⟨op, more, rfl, word⟩ := Shorthand.expand_name calm formed found
      have other := isName_append valid (fun _ member => member) word (by simp [valid.some])
      obtain ⟨_, words⟩ := first_call sound printed other expanded read agree
      rw [parse_printed ⟨valid, settled, formed, noMark⟩ words printed] at done
      obtain ⟨values, reread, rfl⟩ := Outcome.map_eq_ok_iff.mp done
      have items := (Bool.and_eq_true _ _ ▸ agree : _ ∧ Value.sameItems values query.args = true).2
      exact ⟨noMark, rfl, (Value.allReadBack_iff args words inside).mp ⟨values, reread, items⟩⟩
  · rintro ⟨noMark, noForm, survive⟩
    obtain ⟨values, reread, agree⟩ := (Value.allReadBack_iff args survive.wordNamed inside).mpr survive
    refine ⟨⟨query.name, values⟩, ?_, ?_⟩
    · rw [parse_printed ⟨valid, settled, noForm, noMark⟩ survive.wordNamed printed, reread]
      rfl
    · have same : Value.same (.node (.text query.name) values) (.node (.text query.name) query.args) = true := by
        rw [Value.same, Value.same_text_self, agree]
        rfl
      exact same

/-- A disjunction of a comparison with a date and a call without any. -/
theorem parse_print_iff_date :
    ∃ query again, parse "eq(a,date:2000-01-01)|sort(-b)" = .ok query ∧
      query.print = .ok "or(eq(a,date:2000-01-01T00:00:00.000Z),sort(-b))" ∧
      parse "or(eq(a,date:2000-01-01T00:00:00.000Z),sort(-b))" = .ok again ∧
      again.toValue.equals query.toValue = true ∧
      query.name.toList.head? ≠ some '?' ∧ Shorthand.hasForm false query.name.toList = false ∧
      Value.AllSurvive query.args := by
  obtain ⟨query, parsed, rest⟩ := Outcome.exists_of_any (show (parse "eq(a,date:2000-01-01)|sort(-b)").toOption.any
    (fun query => query.print.toOption.any (· = "or(eq(a,date:2000-01-01T00:00:00.000Z),sort(-b))") &&
      (parse "or(eq(a,date:2000-01-01T00:00:00.000Z),sort(-b))").toOption.any
        fun again => again.toValue.equals query.toValue) = true by decide +kernel)
  obtain ⟨shown, returns⟩ := Bool.and_eq_true _ _ ▸ rest
  obtain ⟨text, printed, same⟩ := Outcome.exists_of_any shown
  obtain ⟨again, reads, agree⟩ := Outcome.exists_of_any returns
  obtain rfl := of_decide_eq_true same
  exact ⟨query, again, parsed, printed, reads, agree, (parse_print_iff parsed printed).mp ⟨again, reads, agree⟩⟩

/-- A node whose name is no word is lost among arguments: what is printed for it is read as a text. -/
theorem parse_print_nameless :
    ∃ query again, parse "a-b(x)&c" = .ok query ∧ query.print = .ok "and(a-b(x),c())" ∧
      parse "and(a-b(x),c())" = .ok again ∧ again.toValue.equals query.toValue = false := by
  obtain ⟨query, parsed, rest⟩ := Outcome.exists_of_any (show (parse "a-b(x)&c").toOption.any (fun query =>
    query.print.toOption.any (· = "and(a-b(x),c())") &&
      (parse "and(a-b(x),c())").toOption.any fun again => !again.toValue.equals query.toValue) = true by decide +kernel)
  obtain ⟨shown, lost⟩ := Bool.and_eq_true _ _ ▸ rest
  obtain ⟨text, printed, same⟩ := Outcome.exists_of_any shown
  obtain ⟨again, reads, differs⟩ := Outcome.exists_of_any lost
  obtain rfl := of_decide_eq_true same
  exact ⟨query, again, parsed, printed, reads, by simpa using differs⟩

end Query
end ResourceQuery
