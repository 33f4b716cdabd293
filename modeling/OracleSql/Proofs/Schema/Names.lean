import OracleSql.Proofs.Schema.MarkedPlan

/-!
# The names in a plan

A name fits when it is within the identifier limit.  The marked statements of a plan are checked
part by part, and so every name of a plan fits (`Blueprint.fits_markedPlan`).  With what is known of
full-text indexes and their preferences this is said of the plan as a whole in
`generated_names_fit`.
-/

namespace OracleSql

open Identifier MarkedSql

namespace MarkedSql

/-! ### Names that fit -/

/-- Every name in the statement is within the limit. -/
def Fits (limit : Nat) (m : MarkedSql) : Prop :=
  ∀ name, .name name ∈ m → name.utf8ByteSize ≤ limit

variable {limit : Nat}

theorem fits_nil : Fits limit [] := fun _ h => by cases h

theorem fits_cons_text {s : String} {m : MarkedSql} (h : Fits limit m) :
    Fits limit (.text s :: m) := by
  intro name hname
  rcases List.mem_cons.mp hname with hname | hname
  · cases hname
  · exact h name hname

theorem fits_cons_name {s : String} {m : MarkedSql} (hs : s.utf8ByteSize ≤ limit)
    (h : Fits limit m) : Fits limit (.name s :: m) := by
  intro name hname
  rcases List.mem_cons.mp hname with hname | hname
  · cases hname
    exact hs
  · exact h name hname

theorem fits_plain (s : String) : Fits limit (plain s) := fits_cons_text fits_nil

theorem fits_append {m m' : MarkedSql} (h : Fits limit m) (h' : Fits limit m') :
    Fits limit (m ++ m') := by
  intro name hname
  rcases List.mem_append.mp hname with hname | hname
  · exact h name hname
  · exact h' name hname

theorem fits_joined {separator : String} {ms : List MarkedSql} (h : ∀ m ∈ ms, Fits limit m) :
    Fits limit (joined separator ms) := by
  induction ms with
  | nil => exact fits_nil
  | cons m rest ih =>
    obtain ⟨hm, hrest⟩ := List.forall_mem_cons.mp h
    cases rest with
    | nil => exact hm
    | cons m' rest => exact fits_append hm (fits_cons_text (ih hrest))

theorem fits_qualified {name : String} (c : Config) (h : name.utf8ByteSize ≤ limit) :
    Fits limit (qualified c name) := by
  rw [qualified]
  cases c.schemaPrefix with
  | some schema => exact fits_cons_text (fits_cons_name h fits_nil)
  | none => exact fits_cons_name h fits_nil

end MarkedSql

/-! ### Every name fits -/

/-- **The limit is 30 or 128 bytes.** -/
theorem Config.maxLength_of_validate {c : Config} (h : c.validate = .ok ()) :
    c.maxLength = 30 ∨ c.maxLength = 128 := by
  rw [validate] at h
  split at h
  · cases h
  · next hlength =>
    rw [not_and_or, not_not, not_not] at hlength
    rcases hlength with hlength | hlength
    · exact Or.inl (congrArg UInt64.toNat hlength)
    · exact Or.inr (congrArg UInt64.toNat hlength)

theorem Identifier.utf8ByteSize_columnObject_le (c : Config) (table column suffix : String) :
    (columnObject c table column suffix).utf8ByteSize ≤ c.maxLength :=
  utf8ByteSize_shorten_le _ _

theorem IndexSpec.fits_markedKey (c : Config) (table : String) (spec : IndexSpec) :
    Fits c.maxLength (spec.markedKey c table) :=
  fits_cons_text (fits_cons_name (spec.utf8ByteSize_objectName_le c table _)
    (fits_cons_text fits_nil))

theorem ForeignKey.fits_marked (c : Config) (table : String) (f : ForeignKey) :
    Fits c.maxLength (f.marked c table) :=
  fits_cons_text (fits_cons_name (f.spec.utf8ByteSize_objectName_le c table _)
    (fits_cons_text fits_nil))

theorem FulltextIndex.fits_marked {limit : Nat} {i : FulltextIndex} (c : Config) (table : String)
    (hname : i.name.utf8ByteSize ≤ limit)
    (hdatastore : ∀ name ∈ i.datastore, name.utf8ByteSize ≤ limit) :
    Fits limit (i.marked c table) := by
  refine fits_append (fits_append ?_ ?_) (fits_plain _ |> fits_cons_text)
  · exact fits_cons_text (fits_cons_text (fits_cons_name hname (fits_cons_text fits_nil)))
  · cases hi : i.datastore with
    | none => exact fits_nil
    | some preference =>
      exact fits_cons_text (fits_cons_name (hdatastore preference hi) (fits_cons_text fits_nil))

theorem Preference.fits_marked {limit : Nat} {p : Preference} (c : Config)
    (hname : p.name.utf8ByteSize ≤ limit) : Fits limit (p.marked c) :=
  fits_cons_text (fits_cons_name hname (fits_cons_text (fits_cons_name hname
    (fits_cons_text fits_nil))))

theorem Preference.fits_marked? {limit : Nat} {preferences : List Preference} (c : Config)
    (hnames : ∀ p ∈ preferences, p.name.utf8ByteSize ≤ limit) :
    ∀ m ∈ marked? c preferences, Fits limit m := by
  intro m hm
  rw [marked?] at hm
  split at hm
  · cases hm
  · cases hm
    refine fits_append (fits_cons_text (fits_joined ?_)) (fits_plain _)
    exact List.forall_mem_map.mpr fun p hp => fits_marked c (hnames p hp)

theorem Numbering.fits_marked (c : Config) (table : String) (column : Column) :
    ∀ m ∈ (Numbering.ofColumn c table column).marked c, Fits c.maxLength m := by
  have hname (suffix : String) := utf8ByteSize_columnObject_le c table column.name suffix
  refine List.forall_mem_cons.mpr ⟨?_, List.forall_mem_cons.mpr ⟨?_, List.forall_mem_nil _⟩⟩
  · exact fits_append (fits_cons_text (fits_qualified c (hname _))) (fits_plain _)
  · refine fits_append (fits_append (fits_cons_text (fits_qualified c (hname _))) ?_) (fits_plain _)
    exact fits_cons_text (fits_qualified c (hname _))

namespace Blueprint

theorem fits_markedCreate (c : Config) (b : Blueprint) : Fits c.maxLength (b.markedCreate c) := by
  refine fits_append (fits_cons_text (fits_joined ?_)) (fits_plain _)
  refine List.forall_mem_append.mpr ⟨List.forall_mem_append.mpr ⟨?_, ?_⟩, ?_⟩
  · exact List.forall_mem_map.mpr fun column _ => fits_plain _
  · exact List.forall_mem_map.mpr fun key _ => key.fits_marked c b.name
  · exact List.forall_mem_map.mpr fun spec _ => spec.fits_markedKey c b.name

theorem fits_unnamed (c : Config) (b : Blueprint) (command : SchemaCommand) :
    ∀ m ∈ b.unnamed c command, Fits c.maxLength m := by
  rw [unnamed]
  split
  · exact List.forall_mem_map.mpr fun text _ => fits_plain _
  · exact List.forall_mem_nil _

theorem fits_markedFulltext {c : Config} (hlimit : 11 ≤ c.maxLength) (b : Blueprint)
    {spec : IndexSpec} (hcolumns : spec.columns.length ≤ 10 ^ 10) :
    Fits c.maxLength (b.markedFulltext c spec) := by
  refine fits_append (fits_cons_text (fits_joined ?_)) (fits_plain _)
  refine List.forall_mem_map.mpr fun i hi => ?_
  obtain ⟨hname, hdatastore⟩ := IndexSpec.fulltextIndexes_fit hlimit hcolumns hi
  exact i.fits_marked c b.name hname hdatastore

theorem fits_markedCommand {c : Config} (hlimit : 11 ≤ c.maxLength) (b : Blueprint)
    {command : SchemaCommand}
    (hcolumns : ∀ spec, command = .fulltext spec → spec.columns.length ≤ 10 ^ 10) :
    ∀ m ∈ b.markedCommand c command, Fits c.maxLength m := by
  have hnamed (spec : IndexSpec) (kind : IndexKind) (before after : String) :
      Fits c.maxLength [.text before, .name (spec.objectName c b.name kind), .text after] :=
    fits_cons_text (fits_cons_name (spec.utf8ByteSize_objectName_le c b.name kind)
      (fits_cons_text fits_nil))
  have hlast (spec : IndexSpec) (kind : IndexKind) (before : String) :
      Fits c.maxLength [.text before, .name (spec.objectName c b.name kind)] :=
    fits_cons_text (fits_cons_name (spec.utf8ByteSize_objectName_le c b.name kind) fits_nil)
  have hsingle {m : MarkedSql} (h : Fits c.maxLength m) : ∀ m' ∈ [m], Fits c.maxLength m' :=
    List.forall_mem_singleton.mpr h
  have hunnamed := b.fits_unnamed c command
  cases command with
  | create => exact hsingle (b.fits_markedCreate c)
  | primary spec =>
    rw [markedCommand]
    split
    · exact List.forall_mem_nil _
    · exact hsingle (hnamed spec _ _ _)
  | foreign key =>
    rw [markedCommand]
    split
    · exact List.forall_mem_nil _
    · exact hsingle (fits_cons_text (key.fits_marked c b.name))
  | unique spec | index spec => exact hsingle (hnamed spec _ _ _)
  | fulltext spec => exact hsingle (b.fits_markedFulltext hlimit (hcolumns spec rfl))
  | dropPrimary spec | dropUnique spec | dropForeign spec | dropIndex spec =>
    exact hsingle (hlast spec _ _)
  | dropFulltext spec =>
    rw [markedCommand]
    split
    · exact hsingle (hlast spec _ _)
    · exact hunnamed
  | add | change | drop | dropIfExists | dropColumns _ | rename _ | renameColumn _ _ =>
    exact hunnamed

/-- Full-text commands are all given; none is implied by a column. -/
theorem fulltext_mem_of_mem_allCommands {b : Blueprint} {spec : IndexSpec}
    (h : .fulltext spec ∈ b.allCommands) : .fulltext spec ∈ b.commands := by
  have hcolumns : .fulltext spec ∉ b.columnCommands := by
    rw [columnCommands]
    split
    · exact List.not_mem_nil
    · simp
  have hflags (hasPrimary : Bool) (columns : List Column) :
      .fulltext spec ∉ flagCommands hasPrimary columns := by
    induction columns generalizing hasPrimary with
    | nil => exact List.not_mem_nil
    | cons column rest ih =>
      rw [flagCommands]
      simp [ih]
  rw [allCommands, List.mem_append, List.mem_append] at h
  rcases h with (h | h) | h
  · exact absurd h hcolumns
  · exact h
  · exact absurd h (hflags _ _)

/-- **The names in a plan fit.** -/
theorem fits_markedPlan {c : Config} (hlimit : 11 ≤ c.maxLength) {b : Blueprint}
    (hcolumns : ∀ spec, .fulltext spec ∈ b.commands → spec.columns.length ≤ 10 ^ 10) :
    ∀ m ∈ b.markedPlan c, Fits c.maxLength m := by
  refine List.forall_mem_append.mpr ⟨List.forall_mem_append.mpr
    ⟨List.forall_mem_append.mpr ⟨?_, ?_⟩, ?_⟩, ?_⟩
  · intro m hm
    refine Preference.fits_marked? c (List.forall_mem_map.mpr fun spec hspec => ?_) m
      (Option.mem_toList.mp hm)
    exact IndexSpec.utf8ByteSize_preference_le hlimit (List.mem_filter.mp hspec).2 b.name
  · intro m hm
    obtain ⟨command, hcommand, hm⟩ := List.mem_flatMap.mp hm
    refine b.fits_markedCommand hlimit (fun spec hspec => hcolumns spec ?_) m hm
    rw [hspec] at hcommand
    exact fulltext_mem_of_mem_allCommands hcommand
  · exact List.forall_mem_map.mpr fun text _ => fits_plain _
  · cases b.serial? with
    | none => exact List.forall_mem_nil _
    | some column => exact Numbering.fits_marked c b.name column

end Blueprint

/-! ### The plan as a whole -/

/-- **Every name in a plan fits, and full-text indexes lead back to their preference.**  In the
plan of an accepted blueprint all names that are made up are within the identifier limit, names
given by the caller included.  The plan starts with the preferences, one for each full-text command
on several columns and in their order.  The indexes of such a command are one for each column and
have different names, and what stands before the last underscore of each name, ended as preferences
are, is the preference of this command, which the index reads through. -/
theorem generated_names_fit (c : Config) (b : Blueprint) (statements : List String)
    (hvalid : c.validate = .ok ()) (hplan : (b.plan c).result = .ok statements)
    (hcolumns : ∀ spec, .fulltext spec ∈ b.commands → spec.columns.length ≤ 10 ^ 10) :
    statements = (b.markedPlan c).map text ∧
    (∀ m ∈ b.markedPlan c, ∀ name, .name name ∈ m → name.utf8ByteSize ≤ c.maxLength) ∧
    ∃ rest,
      statements = (Preference.createSql? c
        ((multiColumn b.commands).map (·.preference c b.name))).toList ++ rest ∧
      ∀ spec ∈ multiColumn b.commands,
        IndexSpec.fulltextBlock c b.name (spec.fulltextIndexes c b.name) ∈ rest ∧
        (spec.fulltextIndexes c b.name).map (·.column) = spec.columns ∧
        ((spec.fulltextIndexes c b.name).map (·.name)).Nodup ∧
        ∀ i ∈ spec.fulltextIndexes c b.name,
          preferenceName (Text.beforeLast '_' i.name) = (spec.preference c b.name).name ∧
            i.datastore = some (spec.preference c b.name).name := by
  have hlimit : 11 ≤ c.maxLength := by
    have := Config.maxLength_of_validate hvalid
    omega
  refine ⟨Blueprint.plan_eq_markedPlan hplan, Blueprint.fits_markedPlan hlimit hcolumns, ?_⟩
  obtain ⟨preferences, commands, numbering, hpreferences, hcommands, _, rfl⟩ :=
    Blueprint.plan_eq_ok.mp hplan
  cases (Preference.result_ofCommands c b.name b.commands).symm.trans hpreferences
  refine ⟨_, by rw [List.append_assoc, List.append_assoc], fun spec hspec => ?_⟩
  have hmulti : spec.isMultiColumn = true := (List.mem_filter.mp hspec).2
  refine ⟨?_, spec.columns_fulltextIndexes c b.name, spec.nodup_fulltextIndexes hmulti c b.name,
    fun i hi => spec.preference_of_fulltextIndex hmulti hi⟩
  have hall : .fulltext spec ∈ b.allCommands := by
    have hmem := fulltext_mem_of_mem_multiColumn hspec
    simp [Blueprint.allCommands, hmem]
  obtain ⟨texts, htexts, hcommand⟩ := Compile.exists_mem_of_mapM hcommands hall
  obtain ⟨block, hblock, hcommand⟩ := Compile.result_bind_eq_ok.mp hcommand
  cases hcommand
  cases (spec.result_createFulltext c b.name).symm.trans hblock
  exact List.mem_append_left _ (List.mem_flatten.mpr ⟨_, htexts, List.mem_singleton_self _⟩)

/-- A full-text command on three columns of a table with a long name. -/
theorem generated_names_fit_articles :
    let b : Blueprint :=
      { Blueprint.create "customer_support_articles" with
        columns := [{ Column.of "id" .integer with autoIncrement := true }]
        commands := [.create, .fulltext ⟨none, ["headline", "abstract", "body"]⟩] }
    let spec : IndexSpec := ⟨none, ["headline", "abstract", "body"]⟩
    ∃ statements, (b.plan .standard).result = .ok statements ∧
      (∀ m ∈ b.markedPlan .standard, ∀ name, .name name ∈ m → name.utf8ByteSize ≤ 30) ∧
      (spec.preference .standard b.name).name = "c_su_ar_he_ab_bo_fu_preference" ∧
      ∃ rest, statements
          = (Preference.createSql? .standard [spec.preference .standard b.name]).toList ++ rest ∧
        ((spec.fulltextIndexes .standard b.name).map (·.name)).Nodup ∧
        ∀ i ∈ spec.fulltextIndexes .standard b.name,
          preferenceName (Text.beforeLast '_' i.name) = (spec.preference .standard b.name).name := by
  intro b spec
  have hvalid : Config.standard.validate = .ok () := by decide +kernel
  have hcolumns : ∀ spec, .fulltext spec ∈ b.commands → spec.columns.length ≤ 10 ^ 10 := by
    intro spec hspec
    rcases List.mem_cons.mp hspec with hspec | hspec
    · cases hspec
    · cases List.mem_singleton.mp hspec
      decide
  have hisOk : (b.plan .standard).result.isOk = true := by decide +kernel
  cases hplan : (b.plan .standard).result with
  | error e =>
    rw [hplan] at hisOk
    cases hisOk
  | ok statements =>
    obtain ⟨_, hfit, rest, hrest, hback⟩ :=
      generated_names_fit .standard b statements hvalid hplan hcolumns
    obtain ⟨_, _, hnodup, hnames⟩ := hback spec List.mem_cons_self
    exact ⟨statements, rfl, hfit, by decide +kernel, rest, hrest, hnodup,
      fun i hi => (hnames i hi).1⟩

end OracleSql
