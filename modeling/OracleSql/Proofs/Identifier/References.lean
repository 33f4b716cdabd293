import OracleSql.Identifier.Basic
import OracleSql.Proofs.Text.Reading

/-!
# What is written for a reference

A reference is cut into an alias and segments, and the segments are written with dots and prefixes
around them.  Nothing is made up on the way: a segment has no characters but those of the reference
and of a prefix.  So a property that composes holds of all that is written when it holds of what is
written for one segment (`Writes`).
-/

namespace OracleSql.Identifier

/-- What is needed for a property `P` of the text that is written for segments whose characters
are all `ok`. -/
structure WritesSegments (c : Config) (ok : Char → Prop) (P : String → Prop) : Prop where
  segment : ∀ s : String, (∀ ch ∈ s.toList, ok ch) → P (wrapValue c s)
  tablePrefix : ∀ ch ∈ c.tablePrefix.toList, ok ch

/-- What is needed for a property `P` of the text that is written for references whose characters
are all `ok`. -/
structure Writes (c : Config) (ok : Char → Prop) (P : String → Prop) : Prop
    extends WritesSegments c ok P where
  composes : Text.Composes P
  dot : P "."
  blank : P " "
  as : P " as "
  schemaPrefix : ∀ schema ∈ c.schemaPrefix, ∀ ch ∈ schema.toList, ok ch

/-! ### Parts of a reference -/

theorem mem_of_splitAlias? {s expression shown : String}
    (h : splitAlias? s = some (expression, shown)) {ch : Char}
    (hch : ch ∈ expression.toList ∨ ch ∈ shown.toList) : ch ∈ s.toList := by
  rw [splitAlias?, Option.map_eq_some_iff] at h
  obtain ⟨⟨before, _⟩, _, heq⟩ := h
  cases heq
  rw [String.toList_ofList, String.toList_ofList] at hch
  rcases hch with hch | hch
  · exact List.mem_of_mem_take (Text.mem_of_mem_trimList hch)
  · exact List.mem_of_mem_drop (Text.mem_of_mem_trimList hch)

theorem mem_of_mem_segments {s part : String} (h : part ∈ segments s) {ch : Char}
    (hch : ch ∈ part.toList) : ch ∈ s.toList := by
  obtain ⟨cs, hcs, rfl⟩ := List.mem_map.mp h
  rw [String.toList_ofList] at hch
  exact Text.mem_of_mem_splitOn hcs hch

/-! ### What is written for them -/

variable {c : Config} {ok : Char → Prop} {P : String → Prop}

namespace WritesSegments

theorem prefixed (h : WritesSegments c ok P) {s : String} (hs : ∀ ch ∈ s.toList, ok ch) :
    P (wrapValue c (c.tablePrefix ++ s)) := by
  refine h.segment _ fun ch hch => ?_
  rw [String.toList_append] at hch
  rcases List.mem_append.mp hch with hch | hch
  · exact h.tablePrefix ch hch
  · exact hs ch hch

theorem wrapSegments (h : WritesSegments c ok P) :
    ∀ parts : List String, (∀ s ∈ parts, ∀ ch ∈ s.toList, ok ch) →
      ∀ t ∈ Identifier.wrapSegments c parts, P t
  | [], _, t, ht => absurd ht List.not_mem_nil
  | [column], hparts, t, ht => by
    rw [Identifier.wrapSegments, List.mem_singleton] at ht
    rw [ht]
    exact h.segment column (hparts column List.mem_cons_self)
  | [table, column], hparts, t, ht => by
    rw [Identifier.wrapSegments, List.mem_cons, List.mem_singleton] at ht
    rcases ht with rfl | rfl
    · exact h.prefixed (hparts table List.mem_cons_self)
    · exact h.segment column (hparts column (List.mem_cons_of_mem _ List.mem_cons_self))
  | schema :: second :: third :: rest, hparts, t, ht => by
    rw [Identifier.wrapSegments, List.mem_cons] at ht
    · rcases ht with rfl | ht
      · exact h.segment schema (hparts schema List.mem_cons_self)
      · exact wrapSegments h (second :: third :: rest)
          (fun s hs => hparts s (List.mem_cons_of_mem _ hs)) t ht
    · simp
    · simp

end WritesSegments

namespace Writes

theorem wrapPath (h : Writes c ok P) {path : String} (hpath : ∀ ch ∈ path.toList, ok ch) :
    P (Identifier.wrapPath c path) := by
  refine h.composes.intercalate h.dot (h.wrapSegments _ fun s hs ch hch => ?_)
  exact hpath ch (mem_of_mem_segments hs hch)

theorem wrap (h : Writes c ok P) {reference : String} (href : ∀ ch ∈ reference.toList, ok ch) :
    P (Identifier.wrap c reference) := by
  rw [Identifier.wrap]
  split
  · next expression shown halias =>
    have hmem := fun ch hch => href ch (mem_of_splitAlias? halias hch)
    refine h.composes.append _ _ (h.composes.append _ _ (h.wrapPath fun ch hch => ?_) h.as)
      (h.segment _ fun ch hch => ?_)
    · exact hmem ch (Or.inl hch)
    · exact hmem ch (Or.inr hch)
  · exact h.wrapPath href

theorem wrapTablePath (h : Writes c ok P) {path : String} (hpath : ∀ ch ∈ path.toList, ok ch) :
    P (Identifier.wrapTablePath c path) := by
  rw [Identifier.wrapTablePath]
  split
  · next schema name hcut =>
    refine h.composes.append _ _ (h.composes.append _ _ (h.segment _ fun ch hch => ?_) h.dot)
      (h.prefixed fun ch hch => ?_)
    · rw [String.toList_ofList] at hch
      exact hpath ch (Text.mem_of_breakOn hcut (Or.inl hch))
    · rw [String.toList_ofList] at hch
      exact hpath ch (Text.mem_of_breakOn hcut (Or.inr hch))
  · split
    · next schema hschema =>
      refine h.composes.append _ _ (h.composes.append _ _ (h.segment _ ?_) h.dot)
        (h.prefixed hpath)
      exact h.schemaPrefix schema hschema
    · exact h.prefixed hpath

theorem wrapTable (h : Writes c ok P) {reference : String}
    (href : ∀ ch ∈ reference.toList, ok ch) : P (Identifier.wrapTable c reference) := by
  rw [Identifier.wrapTable]
  split
  · next path shown halias =>
    have hmem := fun ch hch => href ch (mem_of_splitAlias? halias hch)
    refine h.composes.append _ _ (h.composes.append _ _ (h.wrapTablePath fun ch hch => ?_) h.blank)
      (h.segment _ fun ch hch => ?_)
    · exact hmem ch (Or.inl hch)
    · exact hmem ch (Or.inr hch)
  · exact h.wrapTablePath href

theorem columnList (h : Writes c ok P) (hcomma : P ", ") {columns : List String}
    (hcolumns : ∀ s ∈ columns, ∀ ch ∈ s.toList, ok ch) : P (Identifier.columnList c columns) := by
  refine h.composes.intercalate hcomma fun t ht => ?_
  obtain ⟨s, hs, rfl⟩ := List.mem_map.mp ht
  exact h.wrap (hcolumns s hs)

end Writes

end OracleSql.Identifier
