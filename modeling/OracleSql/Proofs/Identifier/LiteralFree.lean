import OracleSql.Proofs.Identifier.Quotes

/-!
# References bring no literals

What is written for a reference stands between other parts of a statement, and literals may follow it.
When the reference and the prefixes before it hold no quotes, the only quotes that are written are
the double ones around reserved words, and these are closed again.  So whatever follows is read as
if the reference were not there (`reads_wrap`, `reads_wrapTable`).
-/

namespace OracleSql

/-! ### Quoted names -/

/-- Two quoted texts without anything between them are one. -/
theorem Text.readQuoted_doubled_append (q : Char) (text rest : List Char) :
    Text.readQuoted q (Text.doubled q text ++ q :: q :: rest)
      = (Text.readQuoted q rest).map fun (t, r) => (text ++ q :: t, r) := by
  induction text with
  | nil => rw [Text.doubled, List.nil_append, Text.readQuoted, if_pos rfl, if_pos rfl]; rfl
  | cons c text ih =>
    by_cases hc : c = q
    · rw [Text.doubled, if_pos hc, List.cons_append, List.cons_append, Text.readQuoted, if_pos rfl,
        if_pos rfl, ih, Option.map_map, hc]
      rfl
    · rw [Text.doubled, if_neg hc, List.cons_append, Text.readQuoted_cons_of_ne hc (by simp), ih,
        Option.map_map]
      rfl

/-- A quoted identifier is passed over, up to the end of its quotes. -/
theorem literalsFrom?_identifier (cs : List Char) :
    literalsFrom? ('"' :: cs) = (Text.readQuoted '"' cs).bind fun read => literalsFrom? read.2 := by
  rw [literalsFrom?_opening (by decide)]
  cases Text.readQuoted '"' cs with
  | none => rfl
  | some read => exact Option.map_id'

namespace Reads

theorem composes : Text.Composes (Reads · []) :=
  ⟨of_unquoted (by decide), fun _ _ hs ht => hs.append ht⟩

/-- **A quoted name brings no literal**, even where another one follows and the two are one. -/
theorem of_quoted {s : String} (h : Unquoted s) : Reads ("\"" ++ s ++ "\"") [] := by
  intro rest
  have hdoubled : s.toList = Text.doubled '"' s.toList :=
    (doubled_eq_self fun hmem => absurd (h _ hmem) (by decide)).symm
  have hopen : ("\"" ++ s ++ "\"").toList ++ rest
      = '"' :: (Text.doubled '"' s.toList ++ '"' :: rest) := by
    rw [← hdoubled]
    simp
  rw [hopen, literalsFrom?_identifier]
  by_cases hrest : rest.head? = some '"'
  · obtain ⟨_, rfl⟩ := List.head?_eq_some_iff.mp hrest
    rw [Text.readQuoted_doubled_append, literalsFrom?_identifier]
    cases Text.readQuoted '"' _ with
    | none => rfl
    | some read => exact Option.map_id'.symm
  · rw [Text.readQuoted_doubled _ hrest]
    exact Option.map_id'.symm

end Reads

/-! ### References -/

theorem toNat_of_opensQuotes (d : Char) (h : opensQuotes d = true) :
    d.toNat < 64 ∧ d.toNat ≠ 0 := by
  rw [opensQuotes, Bool.or_eq_true, beq_iff_eq, beq_iff_eq] at h
  rcases h with rfl | rfl <;> decide

theorem unquoted_upper {s : String} (h : Unquoted s) : Unquoted (Text.upper s) := by
  intro d hd
  rw [Text.upper, String.toList_ofList] at hd
  obtain ⟨c, hc, hd⟩ := List.mem_flatMap.mp hd
  exact eq_false_of_mem_upperChar toNat_of_opensQuotes (h c hc) hd

namespace Identifier

variable {c : Config}

theorem reads_wrapValue (c : Config) {s : String} (h : Unquoted s) : Reads (wrapValue c s) [] := by
  rw [wrapValue]
  split
  · exact .of_unquoted h
  · split
    · exact .of_quoted (unquoted_upper h)
    · split
      · exact .of_unquoted h
      · exact .of_unquoted (unquoted_upper h)

/-- The texts from which a column reference is written: its own, and the table prefix when it
names a table. -/
def columnSources (c : Config) (reference : String) : List String :=
  reference :: if '.' ∈ (tablePath reference).toList then [c.tablePrefix] else []

theorem reads_wrapPath {path : String} (hpath : Unquoted path)
    (hfront : '.' ∈ path.toList → Unquoted c.tablePrefix) : Reads (wrapPath c path) [] := by
  rw [wrapPath]
  by_cases hdot : '.' ∈ path.toList
  · have hsegments : WritesSegments c (fun ch => opensQuotes ch = false) (Reads · []) :=
      ⟨fun _ => reads_wrapValue c, hfront hdot⟩
    refine Reads.composes.intercalate (.of_unquoted (by decide)) (hsegments.wrapSegments _ ?_)
    exact fun s hs ch hch => hpath ch (mem_of_mem_segments hs hch)
  · rw [segments_of_not_mem hdot, wrapSegments, String.intercalate_singleton]
    exact reads_wrapValue c hpath

theorem reads_wrap {reference : String} (h : ∀ s ∈ columnSources c reference, Unquoted s) :
    Reads (wrap c reference) [] := by
  rw [columnSources, List.forall_mem_cons, tablePath] at h
  obtain ⟨hreference, hfront⟩ := h
  rw [wrap]
  split
  · next path shown halias =>
    have hpart := fun ch hch => hreference ch (mem_of_splitAlias? halias hch)
    rw [halias] at hfront
    have hpath : Reads (wrapPath c path) [] :=
      reads_wrapPath (fun ch hch => hpart ch (.inl hch)) fun hdot => hfront _ (by simpa using hdot)
    exact (hpath.append (.of_unquoted (by decide))).append
      (reads_wrapValue c fun ch hch => hpart ch (.inr hch))
  · next halias =>
    rw [halias] at hfront
    exact reads_wrapPath hreference fun hdot => hfront _ (by simpa using hdot)

theorem reads_wrapTablePath {path : String} (hpath : Unquoted path)
    (hfront : Unquoted c.tablePrefix)
    (hschema : ∀ s ∈ (if '.' ∈ path.toList then [] else c.schemaPrefix.toList), Unquoted s) :
    Reads (wrapTablePath c path) [] := by
  have hdot : Reads "." [] := .of_unquoted (by decide)
  rw [wrapTablePath]
  split
  · next schema name hcut =>
    have hpart := fun ch hch => hpath ch (Text.mem_of_breakOn hcut hch)
    refine ((reads_wrapValue c ?_).append hdot).append
      (reads_wrapValue c (unquoted_append.mpr ⟨hfront, ?_⟩))
    · exact fun ch hch => hpart ch (.inl (by rwa [String.toList_ofList] at hch))
    · exact fun ch hch => hpart ch (.inr (by rwa [String.toList_ofList] at hch))
  · next hcut =>
    have htable : Reads (wrapValue c (c.tablePrefix ++ path)) [] :=
      reads_wrapValue c (unquoted_append.mpr ⟨hfront, hpath⟩)
    rw [if_neg (not_mem_of_breakOn hcut)] at hschema
    split
    · next schema hsome =>
      rw [hsome] at hschema
      exact ((reads_wrapValue c (hschema _ (List.mem_singleton_self _))).append hdot).append htable
    · exact htable

theorem reads_wrapTable {reference : String} (h : ∀ s ∈ tableSources c reference, Unquoted s) :
    Reads (wrapTable c reference) [] := by
  rw [tableSources, List.forall_mem_cons, List.forall_mem_cons, tablePath] at h
  obtain ⟨hreference, hfront, hschema⟩ := h
  rw [wrapTable]
  split
  · next path shown halias =>
    have hpart := fun ch hch => hreference ch (mem_of_splitAlias? halias hch)
    rw [halias] at hschema
    exact ((reads_wrapTablePath (fun ch hch => hpart ch (.inl hch)) hfront hschema).append
      (.of_unquoted (by decide))).append (reads_wrapValue c fun ch hch => hpart ch (.inr hch))
  · next halias =>
    rw [halias] at hschema
    exact reads_wrapTablePath hreference hfront hschema

end Identifier

end OracleSql
