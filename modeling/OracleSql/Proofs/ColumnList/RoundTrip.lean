import OracleSql.Proofs.ColumnList.Modifiers

/-!
# A written column list is read back

`parseColumns_written`: every list of expressible columns can be written, and however it is
written, reading it gives the columns back.  There is one exception, and it is in the columns: a
float or a decimal has no length, and one argument is its precision (`asRead`), so a column of these
types that has a length comes back with a precision instead (`parseColumns_float_length`).

A list is read column by column.  Each column is read up to the gap before the next comma, and the
number of columns is bounded by what is left of the text.  White space is cut away around a list
first; a written list has none there (`Sealed`).
-/

namespace OracleSql.ColumnList

/-! ### The type and its arguments -/

theorem name?_append {w rest : List Char} (hne : w ≠ []) (hw : ∀ c ∈ w, isNameChar c = true)
    (hrest : ∀ c ∈ rest.head?, isNameChar c = false) :
    name? (w ++ rest) = some (String.ofList w, rest) := by
  rw [name?, run?_append hne hw hrest]
  rfl

/-- The names of the types are names, and none of them numbers a column. -/
theorem typeNames_spec : ∀ pair ∈ ColumnType.names, pair.1.toList ≠ [] ∧
    pair.1.toList.all isNameChar = true ∧ serialTypes.lookup pair.1 = none ∧
    ColumnType.names.lookup pair.1 = some pair.2 := by
  decide +kernel

theorem isNameChar_of_spells {name : String} {type : ColumnType}
    (hname : (name, type) ∈ ColumnType.names) {w : List Char} (hw : Spells name w) :
    w ≠ [] ∧ ∀ c ∈ w, isNameChar c = true := by
  obtain ⟨hne, hchars, -, -⟩ := typeNames_spec _ hname
  exact ⟨ne_nil_of_spells hw hne,
    fun c hc => isNameChar_of_toLower
      (List.all_eq_true.mp hchars _ (hw ▸ List.mem_map_of_mem hc))⟩

/-- **A type is read back** in any case and under any of its names. -/
theorem type?_written {name : String} {type : ColumnType} (hname : (name, type) ∈ ColumnType.names)
    {w rest : List Char} (hw : Spells name w) (hrest : ∀ c ∈ rest.head?, isNameChar c = false) :
    type? (w ++ rest) = some ((type, false), rest) := by
  obtain ⟨-, -, hserial, hlookup⟩ := typeNames_spec _ hname
  obtain ⟨hne, hchars⟩ := isNameChar_of_spells hname hw
  have hlower : Text.asciiLower (String.ofList w) = name :=
    asciiLower_eq_iff.mpr (by rwa [String.toList_ofList])
  have hread : name? (w ++ rest) = some (String.ofList w, rest) := name?_append hne hchars hrest
  rw [type?, hread]
  simp only [Option.bind_eq_bind, Option.bind_some, typeOfName?, hlower, hserial, ColumnType.ofName?,
    hlookup]
  rfl

theorem secondArgument_paren (rest : List Char) :
    secondArgument (')' :: rest) = (none, ')' :: rest) := by
  rfl

theorem secondArgument_comma {before after : List Char} (hbefore : Gap before) (hafter : Gap after)
    (n : UInt32) (rest : List Char) :
    secondArgument (before ++ ',' :: (after ++ (digits n.toNat ++ ')' :: rest)))
      = (some n, ')' :: rest) := by
  obtain ⟨d, ds, hds⟩ := List.exists_cons_of_ne_nil (digits_ne_nil n.toNat)
  have hdigit : d.isDigit = true := isDigit_of_mem_digits (hds ▸ List.mem_cons_self)
  have hgap : isGap d = false :=
    not_isGap_of_not_isBlank (not_isBlank_of_isPlain (isPlain_of_isDigit hdigit))
  have hcomma : comma? (before ++ ',' :: (after ++ (digits n.toNat ++ ')' :: rest)))
      = some (digits n.toNat ++ ')' :: rest) := by
    rw [hds, List.cons_append]
    exact comma?_skipsGap hbefore hafter hgap _ (.inl rfl)
  have hsize : size? (digits n.toNat ++ ')' :: rest) = some (n, ')' :: rest) :=
    size?_digits n (by rintro c ⟨⟩; decide)
  rw [secondArgument, hcomma]
  simp only [Option.bind_eq_bind, Option.bind_some, hsize]

theorem arguments?_written {args : Option (UInt32 × Option UInt32)} {cs rest : List Char}
    (h : WritesArguments args cs) (hrest : ∀ c ∈ rest.head?, c ≠ '(') :
    arguments? (cs ++ rest) = args.map fun args => (args, rest) := by
  cases h with
  | none =>
    rw [List.nil_append]
    unfold arguments?
    split
    · exact absurd rfl (hrest '(' rfl)
    · rfl
  | one n =>
    have hsize : size? (digits n.toNat ++ ')' :: rest) = some (n, ')' :: rest) :=
      size?_digits n (by rintro c ⟨⟩; decide)
    rw [List.cons_append, List.append_assoc, List.singleton_append, arguments?, hsize]
    simp only [Option.bind_eq_bind, Option.bind_some, secondArgument_paren]
    rfl
  | @two m n before after hbefore hafter =>
    have hsize : size? (digits m.toNat ++
        (before ++ ',' :: (after ++ (digits n.toNat ++ ')' :: rest))))
        = some (m, before ++ ',' :: (after ++ (digits n.toNat ++ ')' :: rest))) := by
      refine size?_digits m fun c hc => ?_
      have hfollows := Follows.ends (.comma hbefore (after ++ (digits n.toNat ++ ')' :: rest)))
      exact hfollows.head_not (by decide) (by decide) (by decide) c hc
    simp only [List.cons_append, List.append_assoc, List.nil_append]
    rw [arguments?, hsize]
    simp only [Option.bind_eq_bind, Option.bind_some, secondArgument_comma hbefore hafter]
    rfl

/-- **A column as it is read**: one argument of a float or a decimal is its precision. -/
def asRead (c : Column) : Column :=
  if c.type = .float ∨ c.type = .decimal then
    { c with length := none, precision := c.precision.or c.length }
  else c

theorem withArguments_hasArguments {c : Column} {args : Option (UInt32 × Option UInt32)}
    (h : HasArguments c args) :
    args.elim (Column.of c.name c.type) (withArguments (Column.of c.name c.type))
      = { Column.of c.name c.type with
          length := (asRead c).length, precision := (asRead c).precision, places := c.places } := by
  cases h with
  | none hlength hprecision hplaces =>
    unfold asRead
    split <;> simp [Column.of, hlength, hprecision, hplaces]
  | length n hlength hprecision hplaces =>
    rw [Option.elim_some, withArguments, asRead]
    change (if c.type = .float ∨ c.type = .decimal then _ else _) = _
    split <;> simp [Column.of, hlength, hprecision, hplaces]
  | places n places hlength hprecision hplaces =>
    unfold asRead
    split <;> simp [withArguments, Column.of, hlength, hprecision, hplaces]
  | precision n htype hlength hprecision hplaces =>
    rw [Option.elim_some, withArguments, asRead]
    change (if c.type = .float ∨ c.type = .decimal then _ else _) = _
    rw [if_pos htype, if_pos htype]
    simp [Column.of, hlength, hprecision, hplaces]

theorem asRead_eq_iff {c : Column} :
    asRead c = c ↔ (c.length ≠ none → c.type ≠ .float ∧ c.type ≠ .decimal) := by
  rw [asRead, ← not_or]
  split
  · next htype =>
    constructor
    · intro heq hlength
      exact absurd (congrArg Column.length heq).symm hlength
    · intro himp
      have hlength : c.length = none := by
        by_contra hlength
        exact himp hlength htype
      rw [hlength, Option.or_none, ← hlength]
  · next htype => exact ⟨fun _ _ => htype, fun _ => rfl⟩

/-! ### Columns -/

/-- **A written column is read back** as it is read, whatever stands behind it. -/
theorem column?_written {c : Column} (h : Expressible c) {cs : List Char} (hcs : WritesColumn c cs)
    {rest : List Char} (hrest : Ends rest) :
    ∃ rest', SkipsGap rest rest' ∧ column? (cs ++ rest) = .ok (asRead c, rest') := by
  obtain @⟨typeName, htype, type, hspells, args, hargs, written, hwritten, ms, hms, texts, htexts⟩ :=
    hcs
  have hfollows := follows_texts texts hrest
  have hafter : ∀ ch ∈ (written ++ ((texts.flatMap fun text => ':' :: text) ++ rest)).head?,
      isNameChar ch = false := by
    cases hwritten with
    | none => exact hfollows.head_not (by decide) (by decide) (by decide)
    | one | two => rintro ch ⟨⟩; decide
  have hparen : ∀ ch ∈ ((texts.flatMap fun text => ':' :: text) ++ rest).head?, ch ≠ '(' := by
    intro ch hch
    have hnot := hfollows.head_not (p := (· == '(')) (by decide) (by decide) (by decide) ch hch
    exact beq_eq_false_iff_ne.mp hnot
  obtain ⟨rest', hskip, hmodifiers⟩ := modifiers_written htexts hrest (.inl rfl)
  refine ⟨rest', hskip, ?_⟩
  have hmade : ms.foldl Modifier.modify
      (args.elim (Column.of c.name c.type) (withArguments (Column.of c.name c.type))) = asRead c := by
    rw [withArguments_hasArguments hargs, foldl_modify_of_perm hms, foldl_modifiersOf, ← h.change]
    rw [asRead]
    split <;> rfl
  have hcolon : ∀ rest : List Char, ∀ ch ∈ (':' :: rest).head?, isNameChar ch = false := by
    rintro rest ch ⟨⟩
    decide
  simp only [List.append_assoc, List.cons_append]
  rw [column?, name?_append h.name_ne h.name_chars (hcolon _), String.ofList_toList]
  simp only [type?_written htype hspells hafter, arguments?_written hwritten hparen]
  rw [← hmade]
  cases hwritten with
  | none =>
    simp only [Option.map_none, List.nil_append, hmodifiers]
    rfl
  | one | two =>
    simp only [Option.map_some, hmodifiers]
    rfl

theorem ends_of_writesMore {rest : List Column} {more : List Char} (h : WritesMore rest more) :
    Ends more := by
  cases h with
  | nil => exact .nil
  | cons hbefore => exact .comma hbefore _

theorem WritesColumn.exists_cons {c : Column} (h : Expressible c) {cs : List Char}
    (hcs : WritesColumn c cs) : ∃ ch cs', cs = ch :: cs' ∧ isNameChar ch = true := by
  obtain ⟨ch, name, hname⟩ := List.exists_cons_of_ne_nil h.name_ne
  cases hcs
  rw [hname]
  exact ⟨ch, _, rfl, h.name_chars ch (hname ▸ List.mem_cons_self)⟩

theorem length_le_of_writesMore {rest : List Column} {more : List Char} (h : WritesMore rest more)
    {cs : List Char} (hcs : SkipsGap more cs) : rest.length ≤ cs.length := by
  induction h generalizing cs with
  | nil => exact Nat.zero_le _
  | @cons c before after text hbefore hafter hc rest more hmore ih =>
    have hmore := ih (.inl rfl)
    rcases hcs with rfl | rfl
    · simp only [List.length_append, List.length_cons]
      omega
    · rw [dropWhile_isGap_append hbefore (by decide)]
      simp only [List.length_append, List.length_cons]
      omega

theorem moreColumns_written {rest : List Column} {more : List Char} (h : WritesMore rest more)
    (hrest : ∀ c ∈ rest, Expressible c) {fuel : Nat} (hfuel : rest.length ≤ fuel) {cs : List Char}
    (hcs : SkipsGap more cs) : moreColumns fuel cs = (rest.map asRead, []) := by
  induction h generalizing fuel cs with
  | nil =>
    rw [SkipsGap, List.dropWhile_nil, or_self] at hcs
    rw [hcs]
    cases fuel <;> rfl
  | @cons c before after text hbefore hafter hc rest more hmore ih =>
    have hexpressible := hrest c List.mem_cons_self
    obtain ⟨fuel, rfl⟩ : ∃ n, fuel = n + 1 := ⟨fuel - 1, by rw [List.length_cons] at hfuel; omega⟩
    obtain ⟨ch, text', rfl, hch⟩ := WritesColumn.exists_cons hexpressible hc
    have hgap : isGap ch = false := not_isGap_of_not_isBlank (not_isBlank_of_isNameChar hch)
    have hcomma : comma? cs = some (ch :: (text' ++ more)) := comma?_skipsGap hbefore hafter hgap _ hcs
    obtain ⟨behind, hskip, hread⟩ := column?_written hexpressible hc (ends_of_writesMore hmore)
    rw [List.cons_append] at hread
    have hmore := ih (fun c hc => hrest c (List.mem_cons_of_mem _ hc)) (Nat.le_of_succ_le_succ hfuel)
      hskip
    rw [moreColumns, hcomma]
    simp only [hread, hmore]
    rfl

theorem columns?_written {columns : List Column} {cs : List Char} (h : WritesColumns columns cs)
    (hcolumns : ∀ c ∈ columns, Expressible c) : columns? cs = .ok (columns.map asRead, []) := by
  obtain @⟨c, text, hc, rest, more, hmore⟩ := h
  obtain ⟨behind, hskip, hread⟩ :=
    column?_written (hcolumns c List.mem_cons_self) hc (ends_of_writesMore hmore)
  have hmore := moreColumns_written hmore (fun c hc => hcolumns c (List.mem_cons_of_mem _ hc))
    (length_le_of_writesMore hmore hskip) hskip
  rw [columns?, hread]
  simp only [Except.bind, bind, pure, Except.pure, hmore]
  rfl

/-! ### The ends of a list -/

/-- A text that does not end with white space. -/
def Sealed (cs : List Char) : Prop :=
  ∃ c ∈ cs.getLast?, Text.isBlank c = false

theorem Sealed.append_left {w : List Char} (h : Sealed w) (v : List Char) : Sealed (v ++ w) := by
  obtain ⟨c, hc, hblank⟩ := h
  refine ⟨c, ?_, hblank⟩
  rw [List.getLast?_append, Option.mem_def.mp hc, Option.some_or]
  rfl

theorem Sealed.append {v w : List Char} (hv : Sealed v) (hw : w = [] ∨ Sealed w) :
    Sealed (v ++ w) := by
  rcases hw with rfl | hw
  · rwa [List.append_nil]
  · exact hw.append_left v

theorem sealed_of_forall {w : List Char} (hne : w ≠ []) (h : ∀ c ∈ w, Text.isBlank c = false) :
    Sealed w :=
  ⟨w.getLast hne, List.getLast?_eq_getLast_of_ne_nil hne, h _ (List.getLast_mem hne)⟩

theorem sealed_flatMap {α : Type} {f : α → List Char} {l : List α} (h : ∀ a ∈ l, Sealed (f a)) :
    l.flatMap f = [] ∨ Sealed (l.flatMap f) := by
  induction l with
  | nil => exact .inl rfl
  | cons a l ih =>
    rw [List.flatMap_cons]
    exact .inr ((h a List.mem_cons_self).append (ih fun a ha => h a (List.mem_cons_of_mem _ ha)))

theorem sealed_inQuotes (s : String) : Sealed (inQuotes s) :=
  Sealed.append_left (w := ['\'']) ⟨'\'', rfl, by decide⟩ ('\'' :: s.toList)

theorem sealed_digits (n : Nat) : Sealed (digits n) :=
  sealed_of_forall (digits_ne_nil n) fun _ hc =>
    not_isBlank_of_isPlain (isPlain_of_isDigit (isDigit_of_mem_digits hc))

theorem sealed_of_writesModifier {m : Modifier} {cs : List Char} (h : WritesModifier m cs) :
    Sealed cs := by
  cases h with
  | @flag word _ hm _ hcs =>
    have hwords : ∀ pair ∈ flagWords, pair.1.toList ≠ [] ∧ pair.1.toList.all isPlain = true := by
      simp only [flagWords, List.forall_mem_cons]
      decide
    obtain ⟨hne, hplain⟩ := hwords _ hm
    exact sealed_of_forall (ne_nil_of_spells hcs hne) fun c hc =>
      not_isBlank_of_isPlain (isPlain_of_spells hcs hplain c hc)
  | @default key hkey d cs hcs =>
    refine Sealed.append_left ?_ key
    rcases writesDefault_cases hcs with ⟨s, _, _, rfl⟩ | ⟨hne, hplain, _⟩
    · exact sealed_inQuotes s
    · exact sealed_of_forall hne fun c hc => not_isBlank_of_isPlain (hplain c hc)
  | @comment key _ s => exact (sealed_inQuotes s).append_left key
  | @allowed key _ s more =>
    refine Sealed.append_left ((sealed_inQuotes s).append (sealed_flatMap fun value _ => ?_)) key
    exact (sealed_inQuotes value).append_left ['|']
  | @start key _ n => exact (sealed_digits _).append_left key

theorem sealed_of_writesModifiers {ms : List Modifier} {texts : List (List Char)}
    (h : List.Forall₂ WritesModifier ms texts) : ∀ text ∈ texts, Sealed (':' :: text) := by
  induction h with
  | nil => nofun
  | cons hm _ ih =>
    rw [List.forall_mem_cons]
    exact ⟨(sealed_of_writesModifier hm).append_left [':'], ih⟩

theorem sealed_of_writesColumn {c : Column} {cs : List Char} (h : WritesColumn c cs) : Sealed cs := by
  obtain @⟨typeName, htype, type, hspells, args, _, written, hwritten, ms, _, texts, htexts⟩ := h
  obtain ⟨hne, hchars⟩ := isNameChar_of_spells htype hspells
  have htype : Sealed type :=
    sealed_of_forall hne fun c hc => not_isBlank_of_isNameChar (hchars c hc)
  have hwritten : written = [] ∨ Sealed written := by
    have hparen : Sealed [')'] := ⟨')', rfl, by decide⟩
    cases hwritten with
    | none => exact .inl rfl
    | one n => exact .inr (hparen.append_left ('(' :: digits n.toNat))
    | @two m n before after =>
      have hclosed := ((hparen.append_left (digits n.toNat)).append_left after).append_left [',']
      exact .inr ((hclosed.append_left before).append_left ('(' :: digits m.toNat))
  have htexts := sealed_flatMap (sealed_of_writesModifiers htexts)
  rw [← List.append_assoc type]
  exact (((htype.append hwritten).append htexts).append_left [':']).append_left c.name.toList

theorem sealed_of_writesMore {rest : List Column} {more : List Char} (h : WritesMore rest more) :
    more = [] ∨ Sealed more := by
  induction h with
  | nil => exact .inl rfl
  | @cons c before after cs hbefore hafter hc rest more hmore ih =>
    have hcs := (((sealed_of_writesColumn hc).append ih).append_left after).append_left [',']
    exact .inr (hcs.append_left before)

/-- **There is no white space around a written list.** -/
theorem trimList_written {columns : List Column} {cs : List Char} (h : WritesColumns columns cs)
    (hcolumns : ∀ c ∈ columns, Expressible c) : Text.trimList Text.isBlank cs = cs ∧ cs ≠ [] := by
  obtain @⟨c, text, hc, rest, more, hmore⟩ := h
  obtain ⟨ch, cs', hcs, hch⟩ := WritesColumn.exists_cons (hcolumns c List.mem_cons_self) hc
  obtain ⟨last, hlast, hblank⟩ := (sealed_of_writesColumn hc).append (sealed_of_writesMore hmore)
  have hne : text ++ more ≠ [] := by simp [hcs]
  have htrim := Text.trimList_append hne (p := Text.isBlank) ?_ ?_ (show ∀ c ∈ [], _ from nofun)
  · rw [List.append_nil] at htrim
    exact ⟨htrim, hne⟩
  · rw [hcs]
    rintro _ ⟨⟩
    exact not_isBlank_of_isNameChar hch
  · intro c hc
    cases hlast.symm.trans hc
    exact hblank

/-! ### Lists -/

theorem parseColumns_of_writesColumns {columns : List Column} {s : String}
    (h : WritesColumns columns s.toList) (hcolumns : ∀ c ∈ columns, Expressible c) :
    parseColumns s = .ok (columns.map asRead) := by
  obtain ⟨htrim, hne⟩ := trimList_written h hcolumns
  simp only [parseColumns, htrim]
  rw [if_neg (by simpa using hne), columns?_written h hcolumns]

/-- **A written column list is read back.**  Columns that a list can say can be written, and
however they are written (in whatever order the modifiers stand, in whatever case the keywords,
with whatever gaps around the commas, and whatever is in the texts), reading gives exactly these
columns, if no float and no decimal among them has a length; that one comes back as a precision. -/
theorem parseColumns_written {columns : List Column} (hne : columns ≠ [])
    (h : ∀ c ∈ columns, Expressible c) :
    (∃ s : String, WritesColumns columns s.toList) ∧
      ∀ s : String, WritesColumns columns s.toList →
        parseColumns s = .ok (columns.map asRead) ∧
          (parseColumns s = .ok columns ↔
            ∀ c ∈ columns, c.length ≠ none → c.type ≠ .float ∧ c.type ≠ .decimal) := by
  refine ⟨?_, fun s hs => ⟨parseColumns_of_writesColumns hs h, ?_⟩⟩
  · obtain ⟨text, htext⟩ := exists_writesColumns hne h
    exact ⟨String.ofList text, by rwa [String.toList_ofList]⟩
  · rw [parseColumns_of_writesColumns hs h, Except.ok.injEq]
    have hsame : columns.map asRead = columns ↔ ∀ c ∈ columns, asRead c = c := by
      simpa using List.map_inj_left (f := asRead) (g := id) (l := columns)
    rw [hsame]
    exact forall₂_congr fun _ _ => asRead_eq_iff

/-- Two columns with stops in their texts, modifiers out of order, and a gap around the comma. -/
theorem parseColumns_written_orders :
    let price : Column :=
      { Column.of "price" .decimal with
        precision := some 10, places := some 2, nullable := true, default := some (.int (-5)) }
    let state : Column :=
      { Column.of "state" .enum with length := some 20, allowed := ["a, b|c", ":"] }
    let s := "price:Decimal(10, 2):default=-5:NULLABLE ,\nstate:enum(20):in='a, b|c'|':'"
    (∀ c ∈ [price, state], Expressible c) ∧ WritesColumns [price, state] s.toList ∧
      parseColumns s = .ok [price, state] := by
  intro price state s
  have hexpressible : ∀ c ∈ [price, state], Expressible c := by
    rw [List.forall_mem_cons, List.forall_mem_singleton]
    constructor
    · exact ⟨by decide, List.all_eq_true.mp (by decide), rfl, ⟨_, .places 10 2 rfl rfl rfl⟩, by rintro _ ⟨⟩; trivial,
        nofun, nofun⟩
    · exact ⟨by decide, List.all_eq_true.mp (by decide), rfl, ⟨_, .length 20 rfl rfl rfl⟩, nofun,
        nofun, by decide⟩
  have hprice :=
    WritesColumn.intro (show ("decimal", price.type) ∈ ColumnType.names by decide)
      (show Spells "decimal" "Decimal".toList from rfl) (.places 10 2 rfl rfl rfl)
      (.two 10 2 gap_nil (show Gap [' '] by decide))
      (show List.Perm [.default (.int (-5)), .nullable] (modifiersOf price) by decide)
      (.cons (.default (show Spells _ "default=".toList from rfl) (.int (-5))) (.cons
        (.flag (show ("nullable", _) ∈ flagWords by decide)
          (show Spells "nullable" "NULLABLE".toList by decide)) .nil))
  have hstate :=
    WritesColumn.intro (show ("enum", state.type) ∈ ColumnType.names by decide)
      (show Spells "enum" "enum".toList from rfl) (.length 20 rfl rfl rfl) (.one 20)
      (show List.Perm [.allowed ["a, b|c", ":"]] (modifiersOf state) by decide)
      (.cons (.allowed (show Spells _ "in=".toList from rfl) (by decide)) .nil)
  have hwritten : WritesColumns [price, state] s.toList := by
    convert WritesColumns.cons hprice
      (.cons (show Gap [' '] by decide) (show Gap ['\n'] by decide) hstate .nil) using 1
    decide +kernel
  refine ⟨hexpressible, hwritten, ?_⟩
  refine (((parseColumns_written (by simp) hexpressible).2 s hwritten).2).mpr ?_
  simp [price, state, Column.of]

/-- **A float has no length.**  One that is given a length can be written, and comes back with a
precision instead. -/
theorem parseColumns_float_length :
    let ratio : Column := { Column.of "ratio" .float with length := some 10 }
    Expressible ratio ∧ WritesColumns [ratio] "ratio:float(10)".toList ∧
      parseColumns "ratio:float(10)" = .ok [{ Column.of "ratio" .float with precision := some 10 }] ∧
      parseColumns "ratio:float(10)" ≠ .ok [ratio] := by
  intro ratio
  have hexpressible : Expressible ratio :=
    ⟨by decide, List.all_eq_true.mp (by decide), rfl, ⟨_, .length 10 rfl rfl rfl⟩, nofun, nofun, nofun⟩
  have hratio :=
    WritesColumn.intro (show ("float", ratio.type) ∈ ColumnType.names by decide)
      (show Spells "float" "float".toList from rfl) (.length 10 rfl rfl rfl) (.one 10)
      (show List.Perm [] (modifiersOf ratio) by decide) .nil
  have hwritten : WritesColumns [ratio] "ratio:float(10)".toList := by
    convert WritesColumns.cons hratio .nil using 1
    decide +kernel
  have hread := parseColumns_of_writesColumns hwritten
    (fun c hc => List.mem_singleton.mp hc ▸ hexpressible)
  refine ⟨hexpressible, hwritten, hread, ?_⟩
  rw [hread, Ne, Except.ok.injEq]
  decide

end OracleSql.ColumnList
