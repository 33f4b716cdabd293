import OracleSql.Proofs.ColumnList.Reading

/-!
# Reading the modifiers of a column

`modifier?_written`: one modifier is read back whatever stands behind it, and `modifiers_written`:
so is a row of them.  The alternatives of the reader are tried in a fixed order, and the words of
the grammar are such that none of them starts like a keyword that is tried before it; this is where
`in=` and `index`, `nullable` and `nocache` are told apart.

What modifiers make of a column does not depend on their order, as long as all of them say what is
so of one column (`foldl_modify_of_perm`).
-/

namespace OracleSql.ColumnList

/-! ### Defaults -/

theorem asciiLower_eq_iff {s word : String} : Text.asciiLower s = word ↔ Spells word s.toList := by
  rw [Spells, Text.asciiLower, ← String.toList_inj, String.toList_ofList]

theorem isPlain_of_spells {word : String} {w : List Char} (hw : Spells word w)
    (hword : word.toList.all isPlain = true) : ∀ c ∈ w, isPlain c = true := by
  intro c hc
  exact isPlain_of_toLower (List.all_eq_true.mp hword _ (hw ▸ List.mem_map_of_mem hc))

theorem ne_nil_of_spells {word : String} {w : List Char} (hw : Spells word w)
    (hword : word.toList ≠ []) : w ≠ [] := by
  rintro rfl
  exact hword hw.symm

theorem classify_bool (b : Bool) {s : String} (hs : Spells (toString b) s.toList) :
    classify s = .bool b := by
  have hlower : Text.asciiLower s = toString b := asciiLower_eq_iff.mpr hs
  rw [classify, hlower]
  cases b <;> rfl

/-- No integer is written like a truth value. -/
theorem classify_int (n : Int64) : classify (toString n.toInt) = .int n := by
  have hne (word : String) (hword : word.toList.all Char.isAlpha = true)
      (hnonempty : word.toList ≠ []) : Text.asciiLower (toString n.toInt) ≠ word := by
    intro heq
    have hspells := asciiLower_eq_iff.mp heq
    obtain ⟨c, cs, hcs⟩ := List.exists_cons_of_ne_nil (ne_nil_of_spells hspells hnonempty)
    have hmem : c ∈ (toString n.toInt).toList := hcs ▸ List.mem_cons_self
    have halpha : c.isAlpha = true :=
      isAlpha_of_toLower (List.all_eq_true.mp hword _ (hspells ▸ List.mem_map_of_mem hmem))
    rcases Text.isDigit_or_eq_of_mem_toString hmem with hdigit | rfl
    · rw [not_isAlpha_of_isDigit hdigit] at halpha
      cases halpha
    · cases halpha
  simp only [classify]
  rw [if_neg (hne "true" (by decide) (by decide)), if_neg (hne "false" (by decide) (by decide)),
    Text.int64OfText?_toString]

theorem intOfDigits?_of_isAlpha {c : Char} (hc : c.isAlpha = true) (cs : List Char) :
    Text.intOfDigits? (c :: cs) = none := by
  have hdigit : ¬('0' ≤ c ∧ c ≤ '9') := by
    intro h
    have hisDigit : c.isDigit = true := by
      rw [Char.isDigit, Bool.and_eq_true, decide_eq_true_eq, decide_eq_true_eq]
      exact h
    rw [not_isAlpha_of_isDigit hisDigit] at hc
    cases hc
  have hnone : Text.natOfDigits? (c :: cs) = none := by
    rw [Text.natOfDigits?, if_neg (by simp), Text.digitsValue?, Text.digitValue?, if_neg hdigit]
    rfl
  unfold Text.intOfDigits?
  split
  · next heq => cases heq; cases hc
  · next heq => cases heq; cases hc
  · rw [hnone, Option.map_none]

/-- A word that starts with a letter writes no number, if it is none of the words that do. -/
theorem ofText?_of_isAlpha {s : String} {c : Char} {cs : List Char} (hs : s.toList = c :: cs)
    (hc : c.isAlpha = true) (hword : Binary64.wordValue? false s.toList = none) :
    Binary64.ofText? s = none := by
  have hdigit : ¬c.isDigit = true := fun h => by
    rw [not_isAlpha_of_isDigit h] at hc
    cases hc
  have hdigits : Binary64.ofDigits? false s.toList = none := by
    rw [hs]
    simp only [Binary64.ofDigits?, List.takeWhile_cons_of_neg hdigit, List.length_nil, List.drop_zero]
    split
    · next heq => cases heq; cases hc
    · rfl
  have hunsigned : Binary64.ofUnsigned? false s.toList = none := by
    rw [Binary64.ofUnsigned?, hdigits, hword]
    rfl
  unfold Binary64.ofText?
  split
  · next heq => cases hs.symm.trans heq; cases hc
  · next heq => cases hs.symm.trans heq; cases hc
  · exact hunsigned

theorem classify_raw {s : String} (hs : Text.asciiLower s ∈ defaultExpressions) :
    classify s = .raw s := by
  have hspells : s.toList.map Char.toLower = (Text.asciiLower s).toList := asciiLower_eq_iff.mp rfl
  have hfirst : ∀ word ∈ defaultExpressions, word.toList.head?.any Char.isAlpha = true := by decide
  obtain ⟨d, hd, halpha⟩ := (Option.any_eq_true _ _).mp (hfirst _ hs)
  obtain ⟨c, cs, hcs⟩ : ∃ c cs, s.toList = c :: cs := by
    refine List.exists_cons_of_ne_nil (ne_nil_of_spells hspells ?_)
    intro h
    rw [h] at hd
    cases hd
  have hc : c.isAlpha = true := by
    refine isAlpha_of_toLower ?_
    rw [← hspells, hcs, List.map_cons] at hd
    rwa [Option.some.inj hd]
  have hword : Binary64.wordValue? false s.toList = none := by
    have hwords : ∀ word ∈ defaultExpressions, ¬(word.toList = "inf".toList ∨
        word.toList = "infinity".toList) ∧ ¬word.toList = "nan".toList := by decide
    simp only [Binary64.wordValue?, hspells]
    rw [if_neg (hwords _ hs).1, if_neg (hwords _ hs).2]
  have hbools : ∀ word ∈ defaultExpressions, word ≠ "true" ∧ word ≠ "false" := by decide
  have hint : Text.int64OfText? s = none := by
    rw [Text.int64OfText?, hcs, intOfDigits?_of_isAlpha hc]
    rfl
  simp only [classify]
  rw [if_neg (hbools _ hs).1, if_neg (hbools _ hs).2, hint, ofText?_of_isAlpha hcs hc hword]
  simp only [List.contains_iff_mem, if_pos hs]

theorem default?_bare {w rest : List Char} (hne : w ≠ []) (hw : ∀ c ∈ w, isPlain c = true)
    (hrest : Follows rest) :
    default? (w ++ rest) = some (classify (String.ofList w), rest.dropWhile isGap) := by
  have hquoted : quoted? (w ++ rest) = none := by
    refine quoted?_of_head ?_
    rw [List.head?_append_of_ne_nil _ hne]
    exact fun c hc => (ne_of_isPlain (hw c (List.mem_of_mem_head? hc))).2.2
  rw [default?, hquoted, bare?_append hne hw hrest]
  rfl

/-- A written default stands in quotes, or is a word that means the default. -/
theorem writesDefault_cases {d : DefaultValue} {cs : List Char} (h : WritesDefault d cs) :
    (∃ s, QuoteFree s ∧ d = .text s ∧ cs = inQuotes s) ∨
      (cs ≠ [] ∧ (∀ c ∈ cs, isPlain c = true) ∧ classify (String.ofList cs) = d) := by
  cases h with
  | text hs => exact .inl ⟨_, hs, rfl, rfl⟩
  | bool b hcs =>
    refine .inr ⟨ne_nil_of_spells hcs (by cases b <;> decide),
      isPlain_of_spells hcs (by cases b <;> decide), classify_bool b ?_⟩
    rwa [String.toList_ofList]
  | int n =>
    refine .inr ⟨?_, ?_, by rw [String.ofList_toList, classify_int]⟩
    · intro h
      have hread := Text.intOfDigits?_toString n.toInt
      rw [h] at hread
      cases hread
    · intro c hc
      rcases Text.isDigit_or_eq_of_mem_toString hc with hc | rfl
      · exact isPlain_of_isDigit hc
      · decide
  | @raw s hs =>
    have hwords : ∀ word ∈ defaultExpressions, word.toList ≠ [] ∧
        word.toList.all isPlain = true := by decide
    have hspells : Spells (Text.asciiLower s) s.toList := asciiLower_eq_iff.mp rfl
    exact .inr ⟨ne_nil_of_spells hspells (hwords _ hs).1, isPlain_of_spells hspells (hwords _ hs).2,
      by rw [String.ofList_toList, classify_raw hs]⟩

theorem default?_written {d : DefaultValue} {cs rest : List Char} (h : WritesDefault d cs)
    (hrest : Follows rest) :
    ∃ rest', SkipsGap rest rest' ∧ default? (cs ++ rest) = some (d, rest') := by
  rcases writesDefault_cases h with ⟨s, hs, rfl, rfl⟩ | ⟨hne, hplain, rfl⟩
  · exact ⟨rest, .inl rfl, by rw [default?, quoted?_inQuotes hs]; rfl⟩
  · exact ⟨_, .inr rfl, default?_bare hne hplain hrest⟩

/-! ### Allowed values -/

theorem allowedValue?_inQuotes {s : String} (hs : QuoteFree s) (rest : List Char) :
    allowedValue? (inQuotes s ++ rest) = some (s, rest) := by
  rw [allowedValue?, quoted?_inQuotes hs]
  rfl

theorem moreAllowed_written {values : List String} (hvalues : ∀ s ∈ values, QuoteFree s)
    {rest : List Char} (hrest : Follows rest) :
    moreAllowed ((values.flatMap fun value => '|' :: inQuotes value) ++ rest) = (values, rest) := by
  induction values with
  | nil =>
    have hbar := hrest.head_not (p := (· == '|')) (by decide) (by decide) (by decide)
    rw [List.flatMap_nil, List.nil_append]
    unfold moreAllowed
    split
    · exact absurd (hbar '|' rfl) (by decide)
    · rfl
  | cons s values ih =>
    have hs := allowedValue?_inQuotes (hvalues s List.mem_cons_self)
      ((values.flatMap fun value => '|' :: inQuotes value) ++ rest)
    have hmore := ih fun value hvalue => hvalues value (List.mem_cons_of_mem _ hvalue)
    rw [List.flatMap_cons, List.append_assoc, List.cons_append, moreAllowed]
    split
    · next heq =>
      rw [hs] at heq
      cases heq
      rw [hmore]
    · next heq =>
      rw [hs] at heq
      cases heq

/-! ### Modifiers -/

/-- No flag is taken for a keyword with a value. -/
theorem flagWords_other {word : String} {m : Modifier} (hm : (word, m) ∈ flagWords) :
    ∀ key ∈ ["default=", "comment=", "in=", "start="], ∀ rest : List Char,
      key.toList.isPrefixOf (word.toList ++ rest) = false := by
  simp only [flagWords, List.mem_cons, Prod.mk.injEq, List.not_mem_nil, or_false] at hm ⊢
  rintro key (rfl | rfl | rfl | rfl) rest <;>
    rcases hm with ⟨rfl, -⟩ | ⟨rfl, -⟩ | ⟨rfl, -⟩ | ⟨rfl, -⟩ | ⟨rfl, -⟩ | ⟨rfl, -⟩ | ⟨rfl, -⟩ <;> rfl

/-- No flag is taken for one that is tried before it. -/
theorem flag?_spelled {word : String} {m : Modifier} (hm : (word, m) ∈ flagWords) {w : List Char}
    (hw : Spells word w) (rest : List Char) : flag? (w ++ rest) = some (m, rest) := by
  have hfound : (flags.findSome? fun flag =>
      if flag.1.toList.isPrefixOf (word.toList ++ rest.map Char.toLower) then
        some (flag.2, (w ++ rest).drop flag.1.toList.length)
      else none) = some (m, (w ++ rest).drop word.toList.length) := by
    simp only [flagWords, List.mem_cons, Prod.mk.injEq, List.not_mem_nil, or_false] at hm
    rcases hm with ⟨rfl, rfl⟩ | ⟨rfl, rfl⟩ | ⟨rfl, rfl⟩ | ⟨rfl, rfl⟩ | ⟨rfl, rfl⟩ | ⟨rfl, rfl⟩ |
      ⟨rfl, rfl⟩ <;> rfl
  rw [← length_of_spells hw, List.drop_left] at hfound
  rw [← hfound, flag?]
  congr 1
  funext flag
  simp only [keyword?_spelled hw]
  split <;> rfl

theorem modifier?_written {m : Modifier} {cs rest : List Char} (h : WritesModifier m cs)
    (hrest : Follows rest) :
    ∃ rest', SkipsGap rest rest' ∧ modifier? (cs ++ rest) = some (m, rest') := by
  cases h with
  | flag hm hcs =>
    refine ⟨rest, .inl rfl, ?_⟩
    have hother := flagWords_other hm
    rw [modifier?, keyed?_other hcs (hother "default=" (by decide)),
      keyed?_other hcs (hother "comment=" (by decide)), keyed?_other hcs (hother "in=" (by decide)),
      keyed?_other hcs (hother "start=" (by decide)), flag?_spelled hm hcs]
    rfl
  | @default key hkey d cs hcs =>
    obtain ⟨rest', hskip, hread⟩ := default?_written hcs hrest
    refine ⟨rest', hskip, ?_⟩
    rw [modifier?, List.append_assoc, keyed?_spelled hkey hread]
    rfl
  | @comment key hkey s hs =>
    have hread : text? (inQuotes s ++ rest) = some (s, rest) := by
      rw [text?, quoted?_inQuotes hs]
      rfl
    refine ⟨rest, .inl rfl, ?_⟩
    rw [modifier?, List.append_assoc, keyed?_other hkey (fun _ => rfl), keyed?_spelled hkey hread]
    rfl
  | @allowed key hkey s more hs =>
    have hread : allowedValues? ((inQuotes s ++ more.flatMap fun value => '|' :: inQuotes value) ++ rest)
        = some (s :: more, rest) := by
      have hmore :=
        moreAllowed_written (fun value hvalue => hs value (List.mem_cons_of_mem _ hvalue)) hrest
      rw [List.append_assoc, allowedValues?, allowedValue?_inQuotes (hs s List.mem_cons_self),
        Option.map_some]
      simp only [hmore]
    refine ⟨rest, .inl rfl, ?_⟩
    rw [modifier?, List.append_assoc, keyed?_other hkey (fun _ => rfl),
      keyed?_other hkey (fun _ => rfl), keyed?_spelled hkey hread]
    rfl
  | @start key hkey n =>
    have hread : start? (digits n.toNat ++ rest) = some (n, rest) :=
      start?_digits n (hrest.head_not (by decide) (by decide) (by decide))
    refine ⟨rest, .inl rfl, ?_⟩
    rw [modifier?, List.append_assoc, keyed?_other hkey (fun _ => rfl),
      keyed?_other hkey (fun _ => rfl), keyed?_other hkey (fun _ => rfl), keyed?_spelled hkey hread]
    rfl

theorem modifiers_of_ends {rest : List Char} (h : Ends rest) : modifiers rest = ([], rest) := by
  have hcolon : ∀ c ∈ rest.head?, c ≠ ':' := by
    cases h with
    | nil => nofun
    | @comma gap hgap rest =>
      cases gap with
      | nil => rintro c ⟨⟩; decide
      | cons d gap =>
        rintro c ⟨⟩ rfl
        exact absurd (hgap ':' List.mem_cons_self) (by decide)
  unfold modifiers
  split
  · exact absurd rfl (hcolon ':' rfl)
  · rfl

theorem follows_texts (texts : List (List Char)) {rest : List Char} (hrest : Ends rest) :
    Follows ((texts.flatMap fun text => ':' :: text) ++ rest) := by
  cases texts with
  | nil => exact .ends hrest
  | cons => exact .colon _

/-- **Written modifiers are read back**, and behind them stands what stood behind them before. -/
theorem modifiers_written {ms : List Modifier} {texts : List (List Char)}
    (h : List.Forall₂ WritesModifier ms texts) {rest : List Char} (hrest : Ends rest)
    {cs : List Char} (hcs : SkipsGap ((texts.flatMap fun text => ':' :: text) ++ rest) cs) :
    ∃ rest', SkipsGap rest rest' ∧ modifiers cs = (ms, rest') := by
  induction h generalizing cs with
  | nil => exact ⟨cs, hcs, modifiers_of_ends (hrest.skipsGap hcs)⟩
  | @cons m text ms texts hm hmore ih =>
    rw [List.flatMap_cons, List.append_assoc, List.cons_append] at hcs
    obtain ⟨behind, hskip, hread⟩ := modifier?_written hm (follows_texts texts hrest)
    obtain ⟨rest', hskip', hmore⟩ := ih hskip
    refine ⟨rest', hskip', ?_⟩
    -- There is no gap before a colon.
    rw [SkipsGap, List.dropWhile_cons_of_neg (by decide), or_self] at hcs
    rw [hcs, modifiers]
    split
    · next heq =>
      rw [hread] at heq
      cases heq
      rw [hmore]
    · next heq =>
      rw [hread] at heq
      cases heq

/-! ### What modifiers make of a column -/

/-- What the modifier says is so of a column. -/
def Modifier.SaidOf (c : Column) : Modifier → Prop
  | default value => c.default = some value
  | comment text => c.comment = some text
  | allowed values => c.allowed = values
  | start value => c.startValue = some value
  | _ => True

theorem saidOf_of_mem_modifiersOf {c : Column} {m : Modifier} (h : m ∈ modifiersOf c) :
    m.SaidOf c := by
  simp only [modifiersOf, List.mem_append, or_assoc, mem_flagged, Option.mem_toList,
    Option.map_eq_some_iff] at h
  rcases h with ⟨-, rfl⟩ | ⟨-, rfl⟩ | ⟨-, rfl⟩ | ⟨-, rfl⟩ | ⟨-, rfl⟩ | ⟨-, rfl⟩ | ⟨d, hd, rfl⟩ |
    ⟨s, hs, rfl⟩ | ⟨-, rfl⟩ | ⟨n, hn, rfl⟩
  any_goals exact trivial
  · exact hd
  · exact hs
  · rfl
  · exact hn

/-- Two modifiers that are both so of one column can be told in either order: they say the same, or
they speak of different fields. -/
theorem modify_comm {c : Column} {m m' : Modifier} (hm : m.SaidOf c) (hm' : m'.SaidOf c)
    (start : Column) : m'.modify (m.modify start) = m.modify (m'.modify start) := by
  cases m <;> cases m' <;> first
    | rfl
    | rw [Option.some.inj (hm.symm.trans hm')]
    | rw [show _ = _ from hm.symm.trans hm']

/-- What modifiers make of a column does not depend on their order. -/
theorem foldl_modify_of_perm {c : Column} {ms : List Modifier} (h : ms.Perm (modifiersOf c))
    (start : Column) :
    ms.foldl Modifier.modify start = (modifiersOf c).foldl Modifier.modify start := by
  refine h.foldl_eq' ?_ start
  intro m hm m' hm' column
  exact modify_comm (saidOf_of_mem_modifiersOf (h.mem_iff.mp hm))
    (saidOf_of_mem_modifiersOf (h.mem_iff.mp hm')) column

theorem foldl_flagged (m : Modifier) (set : Column → Bool → Column)
    (hset : ∀ column, m.modify column = set column true) {b : Bool} {column : Column}
    (hcolumn : set column false = column) :
    (flagged b m).foldl Modifier.modify column = set column b := by
  cases b with
  | true => exact hset column
  | false => exact hcolumn.symm

theorem foldl_toList {α : Type} (make : α → Modifier) (set : Column → Option α → Column)
    (hset : ∀ column a, (make a).modify column = set column (some a)) {value : Option α}
    {column : Column} (hcolumn : set column none = column) :
    (value.map make).toList.foldl Modifier.modify column = set column value := by
  cases value with
  | some a => exact hset column a
  | none => exact hcolumn.symm

theorem foldl_allowed (values : List String) {column : Column}
    (hcolumn : { column with allowed := [] } = column) :
    (flagged (values ≠ []) (.allowed values)).foldl Modifier.modify column
      = { column with allowed := values } := by
  cases values with
  | cons => rfl
  | nil => exact hcolumn.symm

/-- **The modifiers of a column make it** from a new column of its name, type and arguments. -/
theorem foldl_modifiersOf (c : Column) {length precision places : Option UInt32} :
    (modifiersOf c).foldl Modifier.modify
        { Column.of c.name c.type with length, precision, places }
      = { c with length, precision, places, change := false } := by
  simp only [modifiersOf, List.foldl_append]
  rw [foldl_flagged .nullable (fun column b => { column with nullable := b }) (fun _ => rfl),
    foldl_flagged .autoIncrement (fun column b => { column with autoIncrement := b }) (fun _ => rfl),
    foldl_flagged .primary (fun column b => { column with primary := b }) (fun _ => rfl),
    foldl_flagged .unique (fun column b => { column with unique := b }) (fun _ => rfl),
    foldl_flagged .index (fun column b => { column with index := b }) (fun _ => rfl),
    foldl_flagged .nocache (fun column b => { column with nocache := b }) (fun _ => rfl),
    foldl_toList .default (fun column d => { column with default := d }) (fun _ _ => rfl),
    foldl_toList .comment (fun column s => { column with comment := s }) (fun _ _ => rfl),
    foldl_allowed,
    foldl_toList .start (fun column n => { column with startValue := n }) (fun _ _ => rfl)]
  all_goals rfl

end OracleSql.ColumnList
