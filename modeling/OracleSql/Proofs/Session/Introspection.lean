import OracleSql.Proofs.Identifier.Qualified
import OracleSql.Proofs.Session.Owner

/-!
# The table that is looked at

A table reference is resolved in two places.  `wrapTable` resolves it for the statements on the
table: a schema of its own comes first, then the configured one, and without either the connection
takes its current schema.  The commands that look a table up bind the owner of the session and the
table with its prefix, and the schema of the reference is cut off.

So both are about the same table when the reference has no schema, and otherwise only when its
schema happens to be the owner (`Session.introspection_addresses_iff`).
-/

namespace OracleSql

open Identifier

/-! ### Paths of tables -/

namespace Identifier

/-- A reference to a table, or to a table of a schema. -/
structure TablePath where
  schema? : Option PlainWord
  name : PlainWord

namespace TablePath

/-- The path as a description gives it. -/
def text (p : TablePath) : String :=
  match p.schema? with
  | some schema => schema.text ++ "." ++ p.name.text
  | none => p.name.text

/-- The schema that is written before the table: that of the path, or else the configured one. -/
def qualifier? (c : Config) (p : TablePath) : Option String :=
  (p.schema?.map (·.text)).or c.schemaPrefix

/-- The schema that a statement addresses when `current` is that of the connection. -/
def schema (c : Config) (current : String) (p : TablePath) : String :=
  (p.qualifier? c).getD current

def table (c : Config) (p : TablePath) : String :=
  c.tablePrefix ++ p.name.text

/-- The path as a statement writes it. -/
def written (c : Config) (p : TablePath) : String :=
  match p.qualifier? c with
  | some schema => wrapValue c schema ++ "." ++ wrapValue c (p.table c)
  | none => wrapValue c (p.table c)

theorem dotted_text (p : TablePath) : Dotted p.text := by
  rw [text]
  cases p.schema? with
  | some schema => exact schema.dotted_pair p.name
  | none => exact p.name.worded.dotted

/-- **A statement addresses the table of the path**, in the schema of the path or in the configured
one. -/
theorem wrapTable_text (c : Config) (p : TablePath) : wrapTable c p.text = p.written c := by
  have hpath : wrapTable c p.text = wrapTablePath c p.text := by
    rw [wrapTable, splitAlias?_of_dotted p.dotted_text]
  rw [hpath, wrapTablePath, written, qualifier?, text]
  cases p.schema? with
  | some schema =>
    have hdot : '.' ∉ schema.text.toList := schema.not_mem_text (by decide)
    have hbreak : Text.breakOn ['.'] (schema.text.toList ++ (['.'] ++ p.name.text.toList))
        = some (schema.text.toList, p.name.text.toList) := Text.breakOn_append _ _ hdot
    have htext : (schema.text ++ "." ++ p.name.text).toList
        = schema.text.toList ++ (['.'] ++ p.name.text.toList) := by
      rw [String.toList_append, String.toList_append, List.append_assoc]
      rfl
    rw [htext, hbreak]
    dsimp only
    rw [String.ofList_toList, String.ofList_toList]
    rfl
  | none =>
    have hbreak : Text.breakOn ['.'] p.name.text.toList = none :=
      breakOn_eq_none fun _ hch heq => p.name.not_mem_text (by decide) (heq ▸ hch)
    rw [hbreak]
    rfl

/-- The data dictionary is asked about the table of the path. -/
theorem prefixedTable_text (c : Config) (p : TablePath) : prefixedTable c p.text = p.table c := by
  have hbare : bareTable p.text = p.name.text := by
    rw [bareTable, text]
    cases p.schema? with
    | some schema =>
      rw [schema.segments_pair p.name]
      rfl
    | none =>
      have hsegments : segments (".".intercalate [p.name.text]) = [p.name.text] :=
        segments_intercalate (List.cons_ne_nil _ _)
          (List.forall_mem_singleton.mpr (p.name.not_mem_text (by decide)))
      rw [String.intercalate_singleton] at hsegments
      rw [hsegments]
      rfl
  rw [prefixedTable, hbare, table]

end TablePath

/-- Names that the data dictionary takes for the same: it compares them in upper case. -/
def SameName (s t : String) : Prop :=
  Text.upper s = Text.upper t

instance (s t : String) : Decidable (SameName s t) :=
  inferInstanceAs (Decidable (Text.upper s = Text.upper t))

end Identifier

/-! ### What is bound -/

/-- The table that a command looks up in the data dictionary. -/
def Command.table? : Command → Option String
  | hasTable table | hasColumn table _ | columnListing table | columns table | indexes table
  | foreignKeys table => some table
  | _ => none

/-- **A command that looks a table up binds the owner and the table**, and after them the column if
it looks for one. -/
theorem Command.ownedRequest?_of_table? {command : Command} {table : String}
    (h : command.table? = some table) (c : Config) (owner : String) :
    ∃ sql rest, command.ownedRequest? c owner
      = some (.fetch sql (.text owner :: .text (prefixedTable c table) :: rest)) := by
  cases command with
  | hasTable _ | hasColumn _ _ | columnListing _ | columns _ | indexes _ | foreignKeys _ =>
    cases h
    exact ⟨_, _, rfl⟩
  | _ => cases h

theorem Command.needsOwner_of_table? {command : Command} {table : String}
    (h : command.table? = some table) : command.needsOwner = true := by
  cases command with
  | hasTable _ | hasColumn _ _ | columnListing _ | columns _ | indexes _ | foreignKeys _ => rfl
  | _ => cases h

namespace Session

/-- The owner of a run that has come so far: the configured schema, or else the one that a lookup
has reported. -/
def OwnedBy (c : Config) (before : List (Command × Exchange)) (owner : String) : Prop :=
  c.schemaPrefix = some owner ∨
    (c.schemaPrefix = none ∧ ∃ lookup ∈ before, IsLookup lookup ∧ lookup.2.schema? = some owner)

theorem mem_before_or_after {α : Type} {xs ys zs ws : List α} {a b : α}
    (h : xs ++ a :: ys = zs ++ b :: ws) (hne : a ≠ b) : a ∈ zs ∨ (b ∈ xs ∧ a ∈ ws) := by
  rcases List.append_eq_append_iff.mp h with ⟨between, rfl, htail⟩ | ⟨between, rfl, htail⟩
  · cases between with
    | nil =>
      cases htail
      exact absurd rfl hne
    | cons _ between =>
      cases htail
      exact Or.inl (List.mem_append_right _ List.mem_cons_self)
  · cases between with
    | nil =>
      cases htail
      exact absurd rfl hne
    | cons _ between =>
      cases htail
      refine Or.inr ⟨List.mem_append_right _ List.mem_cons_self, ?_⟩
      exact List.mem_append_right _ List.mem_cons_self

/-- **Whatever is asked about tables is asked about the owner.** -/
theorem exists_ownedBy {c : Config} {script : Script} {steps : List (Script × Command)}
    {before after : List (Command × Exchange)} {entry : Command × Exchange}
    (htrace : (start c script).trace steps = before ++ entry :: after)
    (hneeds : entry.1.needsOwner = true) (hlookup : ¬ IsLookup entry) :
    ∃ owner, OwnedBy c before owner ∧ AsksAbout c owner entry := by
  have hentry : entry ∈ (start c script).trace steps := by
    rw [htrace]
    exact List.mem_append_right _ List.mem_cons_self
  cases hconfigured : c.schemaPrefix with
  | some owner =>
    exact ⟨owner, Or.inl hconfigured, (trace_of_known hconfigured steps entry hentry hneeds).2⟩
  | none =>
    rcases trace_of_unknown (s := start c script) hconfigured steps with hnever |
      ⟨first, lookup, rest, owner, hfound, hfirst, hschema, hbefore, hafter⟩
    · exact absurd (hnever entry hentry hneeds).1 hlookup
    · have hne : entry ≠ lookup := by
        rintro rfl
        exact hlookup hfirst
      rcases mem_before_or_after (htrace.symm.trans hfound) hne with hmem | ⟨hmem, hlater⟩
      · exact absurd (hbefore entry hmem hneeds).1 hlookup
      · exact ⟨owner, Or.inr ⟨hconfigured, lookup, hmem, hfirst, hschema⟩,
          (hafter entry hlater hneeds).2⟩

/-- **When introspection looks at the table that statements address.**  In every run, whatever the
configuration and the replies are, a command that looks a table up binds two names for it: the owner
of the run, and the table with its prefix.  A statement writes the schema of the path, or else the
configured one, before the table with its prefix, and without either it is carried out in the
current schema of the connection, which is what a lookup of the owner has reported.  Both are the
same but for the case exactly when the path has no schema of its own, or its schema is the owner. -/
theorem introspection_addresses_iff (c : Config) (script : Script)
    (steps : List (Script × Command)) (p : TablePath) (command : Command) (e : Exchange)
    (before after : List (Command × Exchange))
    (htrace : (start c script).trace steps = before ++ (command, e) :: after)
    (htable : command.table? = some p.text) (hlookup : ¬ IsLookup (command, e)) :
    wrapTable c p.text = p.written c ∧
      ∃ owner table, OwnedBy c before owner ∧
        (∃ sql rest, e.request = .fetch sql (.text owner :: .text table :: rest)) ∧
        ∀ current, (c.schemaPrefix = none → current = owner) →
          ((SameName owner (p.schema c current) ∧ SameName table (p.table c)) ↔
            ∀ schema, p.schema? = some schema → SameName schema.text owner) := by
  have hneeds : command.needsOwner = true := Command.needsOwner_of_table? htable
  obtain ⟨owner, howned, hasks⟩ := exists_ownedBy htrace hneeds hlookup
  obtain ⟨sql, rest, hbinds⟩ := Command.ownedRequest?_of_table? htable c owner
  refine ⟨p.wrapTable_text c, owner, p.table c, howned, ⟨sql, rest, ?_⟩, ?_⟩
  · rw [← p.prefixedTable_text c]
    exact Option.some.inj (hasks.symm.trans hbinds)
  · intro current hcurrent
    have hsame : SameName (p.table c) (p.table c) := rfl
    rw [and_iff_left hsame]
    cases hschema : p.schema? with
    | some schema =>
      have haddress : p.schema c current = schema.text := by
        rw [TablePath.schema, TablePath.qualifier?, hschema]
        rfl
      rw [haddress]
      constructor
      · rintro h _ ⟨⟩
        exact h.symm
      · intro h
        exact (h schema rfl).symm
    | none =>
      have haddress : p.schema c current = owner := by
        rw [TablePath.schema, TablePath.qualifier?, hschema]
        rcases howned with hconfigured | ⟨hconfigured, _⟩
        · rw [hconfigured]
          rfl
        · rw [hconfigured]
          exact hcurrent hconfigured
      rw [haddress]
      exact ⟨fun _ _ hsome => absurd hsome (by simp), fun _ => rfl⟩

/-- All that is asked when the owner is configured and one table is looked for. -/
theorem trace_hasTable {c : Config} {owner : String} (hconfigured : c.schemaPrefix = some owner)
    (p : TablePath) :
    ∃ sql reply, (start c .empty).trace [(.empty, .hasTable p.text)]
      = [(.hasTable p.text, ⟨.fetch sql [.text owner, .text (p.table c)], reply⟩)] := by
  let s : Session := { start c .empty with script := Script.empty.append .empty }
  have howner : Step.owner s = ⟨.ok owner, s, [], []⟩ := Step.owner_of_known hconfigured
  have hresult : (Step.owner s).result = .ok owner := by rw [howner]
  let query := Dictionary.tableExists c owner p.text
  obtain ⟨reply, hexchange, _⟩ := Step.ask_cases query.fetchRequest s
  have hstep : ((Command.hasTable p.text).step s).exchanges = [⟨query.fetchRequest, reply⟩] := by
    rw [Command.step, (Step.bind_pure_apply _ _ _).1, Step.hasTable, (Step.bind_pure_apply _ _ _).1,
      Step.fetchOwned, Step.exchanges_bind_of_ok hresult, howner, List.nil_append, Step.config_bind]
    exact hexchange
  have hperform : ((start c .empty).perform .empty (.hasTable p.text)).exchanges
      = [⟨query.fetchRequest, reply⟩] := hstep
  refine ⟨query.numberedSql, reply, ?_⟩
  rw [trace_cons, hperform, ← p.prefixedTable_text c]
  rfl

/-- The schema of the path is the configured one, in another case. -/
theorem introspection_addresses_same_schema :
    let c : Config := { Config.standard with schemaPrefix := some "HR", tablePrefix := "app_" }
    let p : TablePath := ⟨some ⟨"hr", by decide, by decide⟩, ⟨"users", by decide, by decide⟩⟩
    ∃ e, (start c .empty).trace [(.empty, .hasTable p.text)] = [(.hasTable p.text, e)] ∧
      ¬ IsLookup (.hasTable p.text, e) ∧ wrapTable c p.text = "hr.app_users" ∧
      ∃ owner table, (∃ sql rest, e.request = .fetch sql (.text owner :: .text table :: rest)) ∧
        SameName owner (p.schema c "HR") ∧ SameName table (p.table c) := by
  intro c p
  obtain ⟨sql, reply, htrace⟩ := trace_hasTable (c := c) rfl p
  have hlookup : ¬ IsLookup (.hasTable p.text,
      ⟨.fetch sql [.text "HR", .text (p.table c)], reply⟩) := by
    rintro ⟨_, h⟩
    cases (Request.fetch.inj h).2
  obtain ⟨hwritten, owner, table, howned, hbinds, haddress⟩ :=
    introspection_addresses_iff c .empty _ p _ _ [] [] htrace rfl hlookup
  have howner : owner = "HR" := by
    rcases howned with h | ⟨h, _⟩
    · exact (Option.some.inj h).symm
    · cases h
  have hschema : ∀ schema, p.schema? = some schema → SameName schema.text owner := by
    rintro _ ⟨⟩
    rw [howner]
    decide +kernel
  obtain ⟨howner, htable⟩ := (haddress "HR" nofun).mpr hschema
  exact ⟨_, htrace, hlookup, hwritten.trans (by decide +kernel), owner, table, hbinds, howner,
    htable⟩

/-- **A schema of the path is cut off.**  The statement is about `users` of `hr`, and the command
looks for `users` of the configured schema. -/
theorem hasTable_looks_elsewhere :
    let c : Config := { Config.standard with schemaPrefix := some "app" }
    let p : TablePath := ⟨some ⟨"hr", by decide, by decide⟩, ⟨"users", by decide, by decide⟩⟩
    p.text = "hr.users" ∧ wrapTable c p.text = "hr.users" ∧
      (∃ sql reply, (start c .empty).trace [(.empty, .hasTable p.text)]
        = [(.hasTable p.text, ⟨.fetch sql [.text "app", .text "users"], reply⟩)]) ∧
      ∀ current, ¬ SameName "app" (p.schema c current) := by
  intro c p
  refine ⟨by decide +kernel, by decide +kernel, ?_, fun current => ?_⟩
  · obtain ⟨sql, reply, htrace⟩ := trace_hasTable (c := c) rfl p
    exact ⟨sql, reply, htrace⟩
  · have hschema : p.schema c current = "hr" := rfl
    rw [hschema]
    decide +kernel

end Session

end OracleSql
