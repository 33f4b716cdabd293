import OracleSql.Proofs.Session.Transactions

/-!
# The owner of the tables

The owner is the one thing that a session learns.  A configured schema is the owner from the start;
otherwise the first command that needs it asks the database for the schema of the connection, and
keeps the answer.  `Command.resolves_step` says all that a command which needs the owner can do, and
`Command.keepsOwner_step` that no other command touches it.

So the state of a run is whether the owner is known.  While it is not, a run only looks it up, in
vain (`Session.trace_of_unknown`); once it is, a run asks about the tables of this owner and about
no others (`Session.trace_of_known`).  `Session.owner_resolved_once` puts the two together.
-/

namespace OracleSql

/-! ### What is asked -/

def Statement.fetchRequest (statement : Statement) : Request :=
  .fetch statement.numberedSql statement.params

/-- The request for the schema of the connection. -/
def Request.currentSchema : Request :=
  (Statement.ofText Dictionary.currentSchemaSql).fetchRequest

/-- The schema that an exchange reports: the text in the field `schema` of the first row. -/
def Exchange.schema? : Exchange → Option String
  | ⟨.fetch _ _, .ok rows⟩ => Step.schemaOfRows rows
  | _ => none

namespace Command

/-- **What a command asks about the tables of an owner.** -/
def ownedRequest? (c : Config) (owner : String) : Command → Option Request
  | hasTable table => some (Dictionary.tableExists c owner table).fetchRequest
  | hasColumn table column => some (Dictionary.columnExists c owner table column).fetchRequest
  | columnListing table => some (Dictionary.columnListing c owner table).fetchRequest
  | columns table => some (Dictionary.columns c owner table).fetchRequest
  | indexes table => some (Dictionary.indexes c owner table).fetchRequest
  | foreignKeys table => some (Dictionary.foreignKeys c owner table).fetchRequest
  | tables => some (Dictionary.tables owner).fetchRequest
  | toggleForeignKeys enable => some (.execute (Dictionary.toggleForeignKeys owner enable) [])
  | _ => none

def needsOwner : Command → Bool
  | owner | hasTable _ | hasColumn _ _ | columnListing _ | columns _ | indexes _ | foreignKeys _
  | tables | toggleForeignKeys _ => true
  | _ => false

/-- The schema of the connection is asked for in a text of its own: it binds nothing, and whatever
is asked about an owner binds the owner, or is executed. -/
theorem ownedRequest?_ne_currentSchema (c : Config) (owner : String) (command : Command) :
    command.ownedRequest? c owner ≠ some .currentSchema := by
  intro h
  cases command with
  | toggleForeignKeys enable => cases h
  | hasTable _ | hasColumn _ _ | columnListing _ | columns _ | indexes _ | foreignKeys _ | tables =>
    have hparams := (Request.fetch.inj (Option.some.inj h)).2
    cases hparams
  | _ => cases h

end Command

namespace Step

variable {α β : Type}

/-! ### Steps that leave the owner alone -/

/-- A step that leaves the owner as it is. -/
def KeepsOwner (x : Step α) : Prop :=
  ∀ s, (x s).session.owner? = s.owner?

namespace KeepsOwner

theorem pure (a : α) : KeepsOwner (Pure.pure a : Step α) := fun _ => rfl

theorem fail (e : Error) : KeepsOwner (Step.fail e : Step α) := fun _ => rfl

theorem warn (w : Warning) : KeepsOwner (Step.warn w) := fun _ => rfl

theorem configuration : KeepsOwner Step.config := fun _ => rfl

theorem ofCompile (x : Compile α) : KeepsOwner (Step.ofCompile x) := fun _ => rfl

theorem ask (r : Request) : KeepsOwner (Step.ask r) := fun _ => rfl

theorem execute (statement : Statement) : KeepsOwner (Step.execute statement) := ask _

theorem executeSql (sql : String) : KeepsOwner (Step.executeSql sql) := ask _

theorem fetch (statement : Statement) : KeepsOwner (Step.fetch statement) := ask _

theorem executeReturning (statement : Statement) :
    KeepsOwner (Step.executeReturning statement) := ask _

theorem attempt {x : Step α} (hx : KeepsOwner x) : KeepsOwner (Step.attempt x) := hx

theorem bind {x : Step α} {f : α → Step β} (hx : KeepsOwner x) (hf : ∀ a, KeepsOwner (f a)) :
    KeepsOwner (x >>= f) := by
  intro s
  cases h : (x s).result with
  | error e => rw [bind_of_error h, hx]
  | ok a => rw [session_bind_of_ok h, hf, hx]

theorem wrapped {x : Step α} (hx : KeepsOwner x) (f : α → β) :
    KeepsOwner (x >>= fun a => Pure.pure (f a)) :=
  hx.bind fun _ => pure _

theorem forM {f : α → Step PUnit} (hf : ∀ a, KeepsOwner (f a)) (xs : List α) :
    KeepsOwner (xs.forM f) := by
  induction xs with
  | nil => exact pure _
  | cons a rest ih => exact (hf a).bind fun _ => ih

theorem configured {compile : Config → Compile α} {f : α → Step β} (hf : ∀ a, KeepsOwner (f a)) :
    KeepsOwner (Step.config >>= fun c => Step.ofCompile (compile c) >>= f) :=
  configuration.bind fun c => (ofCompile (compile c)).bind hf

theorem executed (sql : Config → String) :
    KeepsOwner (Step.config >>= fun c => Step.executeSql (sql c) >>= fun _ => Pure.pure ()) :=
  configuration.bind fun _ => (executeSql _).wrapped _

theorem transaction {body : Step α} (hbody : KeepsOwner body) :
    KeepsOwner (Step.transaction body) := by
  refine (ask _).bind fun _ => hbody.attempt.bind fun result => ?_
  cases result with
  | ok a => exact (ask _).wrapped _
  | error e =>
    refine (warn _).bind fun _ => (ask _).attempt.bind fun reply => ?_
    cases reply with
    | ok _ => exact fail _
    | error _ => exact (warn _).bind fun _ => fail _

end KeepsOwner

theorem keepsOwner_sequenceNumber (sql : String) : KeepsOwner (sequenceNumber sql) := by
  refine (KeepsOwner.fetch _).bind fun rows => ?_
  split
  · exact KeepsOwner.pure _
  · exact KeepsOwner.fail _

theorem keepsOwner_nextNumber (name : String) : KeepsOwner (nextNumber name) :=
  KeepsOwner.configuration.bind fun _ => keepsOwner_sequenceNumber _

theorem keepsOwner_assignKey (i : Insert) : KeepsOwner (assignKey i) := by
  rw [assignKey]
  split
  · exact KeepsOwner.configured fun name => (keepsOwner_nextNumber name).wrapped _
  · exact KeepsOwner.pure _

theorem keepsOwner_insertGetId (i : Insert) : KeepsOwner (insertGetId i) := by
  refine (keepsOwner_assignKey i).bind fun i => KeepsOwner.configured fun statement => ?_
  split
  · exact (KeepsOwner.execute _).wrapped _
  · exact (KeepsOwner.executeReturning _).wrapped _

theorem keepsOwner_writeBlobs (binary : BinaryColumns) (outputs : List OutValue) :
    KeepsOwner (writeBlobs binary outputs) := by
  induction binary generalizing outputs with
  | nil => exact KeepsOwner.pure _
  | cons column rest ih =>
    rw [writeBlobs]
    split
    · exact KeepsOwner.fail _
    · refine (KeepsOwner.ask _).attempt.bind fun result => ?_
      cases result with
      | ok _ => exact ih _
      | error _ => exact KeepsOwner.fail _

theorem keepsOwner_writeThroughLocators (statement : Statement) (binary : BinaryColumns) :
    KeepsOwner (writeThroughLocators statement binary) :=
  KeepsOwner.transaction <| (KeepsOwner.executeReturning _).bind fun _ => (keepsOwner_writeBlobs _ _).wrapped _

theorem keepsOwner_insertBlobs (i : Insert) : KeepsOwner (insertBlobs i) := by
  rw [insertBlobs]
  split
  · exact keepsOwner_insertGetId i
  · exact (keepsOwner_assignKey i).bind fun _ =>
      KeepsOwner.configured fun _ => keepsOwner_writeThroughLocators _ _

theorem keepsOwner_update (u : Update) : KeepsOwner (update u) :=
  KeepsOwner.configured KeepsOwner.execute

theorem keepsOwner_updateBlobs (u : Update) : KeepsOwner (updateBlobs u) := by
  rw [updateBlobs]
  split
  · exact (keepsOwner_update u).wrapped _
  · exact KeepsOwner.configured fun _ => keepsOwner_writeThroughLocators _ _

theorem keepsOwner_select (q : Query) : KeepsOwner (select q) := by
  refine KeepsOwner.configured fun statement => ?_
  split
  · exact KeepsOwner.transaction (KeepsOwner.fetch _)
  · exact KeepsOwner.fetch _

theorem keepsOwner_executeAll (statements : List String) : KeepsOwner (executeAll statements) :=
  KeepsOwner.forM (fun _ => (KeepsOwner.executeSql _).wrapped _) _

theorem keepsOwner_primaryKey (table : String) : KeepsOwner (primaryKey table) :=
  KeepsOwner.configuration.bind fun _ => (KeepsOwner.fetch _).wrapped _

theorem keepsOwner_drop (table : String) (ifExists : Bool) : KeepsOwner (drop table ifExists) :=
  (keepsOwner_primaryKey table).bind fun _ => KeepsOwner.configured fun _ =>
    KeepsOwner.forM (fun _ => (KeepsOwner.execute _).wrapped _) _

theorem keepsOwner_callProcedure (p : ProcedureCall) : KeepsOwner (callProcedure p) :=
  (KeepsOwner.ofCompile _).bind fun _ => KeepsOwner.ask _

theorem keepsOwner_callFunction (p : ProcedureCall) (returns : OutBinding) :
    KeepsOwner (callFunction p returns) :=
  (KeepsOwner.ofCompile _).bind fun _ => (KeepsOwner.ask _).wrapped _

/-! ### Steps that need the owner -/

/-- **What a step can do that needs the owner**, `request` being what it asks about an owner.  It
may know the owner; it may look the owner up and find it; or it may look in vain, and then it ends
there and changes nothing. -/
inductive Resolves (request : String → Option Request) (s : Session) (o : Outcome α) : Prop
  | known (owner : String) (hknown : s.owner? = some owner)
      (hkept : o.session.owner? = some owner)
      (hasked : ∀ e ∈ o.exchanges, request owner = some e.request)
  | found (owner : String) (lookup : Exchange) (rest : List Exchange) (hunknown : s.owner? = none)
      (hlookup : lookup.request = .currentSchema) (hschema : lookup.schema? = some owner)
      (hexchanges : o.exchanges = lookup :: rest) (hkept : o.session.owner? = some owner)
      (hasked : ∀ e ∈ rest, request owner = some e.request)
  | missing (lookup : Exchange) (e : Error) (hunknown : s.owner? = none)
      (hlookup : lookup.request = .currentSchema) (hschema : lookup.schema? = none)
      (hexchanges : o.exchanges = [lookup])
      (hsession : o.session = { s with script := o.session.script })
      (hresult : o.result = .error e)

theorem owner_of_known {s : Session} {name : String} (h : s.owner? = some name) :
    owner s = ⟨.ok name, s, [], []⟩ := by
  have hknown : (knownOwner s).result = .ok (some name) := congrArg Except.ok h
  rw [owner, bind_of_ok hknown]
  rfl

def lookUp : Step (List Row) :=
  fetch (Statement.ofText Dictionary.currentSchemaSql)

def keepSchema (rows : List Row) : Step String :=
  match schemaOfRows rows with
  | some name => keepOwner name >>= fun _ => Pure.pure name
  | none => fail (.execution "current schema is unknown")

theorem owner_of_unknown {s : Session} (h : s.owner? = none) :
    owner s = (lookUp >>= keepSchema) s := by
  have hunknown : (knownOwner s).result = .ok none := congrArg Except.ok h
  rw [owner, bind_of_ok hunknown]
  rfl

/-- The exchange of a lookup reports the schema that the rows do. -/
theorem lookUp_cases (s : Session) :
    ∃ lookup : Exchange, lookup.request = .currentSchema ∧ (lookUp s).exchanges = [lookup] ∧
      (lookUp s).session = { s with script := (lookUp s).session.script } ∧
      ((∃ e, (lookUp s).result = .error e ∧ lookup.schema? = none) ∨
        ∃ rows, (lookUp s).result = .ok rows ∧ lookup.schema? = schemaOfRows rows) := by
  obtain ⟨reply, hexchange, hresult⟩ := ask_cases .currentSchema s
  refine ⟨⟨.currentSchema, reply⟩, rfl, hexchange, rfl, ?_⟩
  cases reply with
  | error f => exact Or.inl ⟨f.error, hresult, rfl⟩
  | ok rows => exact Or.inr ⟨rows, hresult, rfl⟩

/-- **The owner is known, or found, or missing**; in the first two cases it is what the step
yields. -/
theorem owner_cases (s : Session) :
    (∃ name, s.owner? = some name ∧ owner s = ⟨.ok name, s, [], []⟩) ∨
    (∃ name lookup, s.owner? = none ∧ lookup.request = .currentSchema ∧
      lookup.schema? = some name ∧ (owner s).exchanges = [lookup] ∧
      (owner s).result = .ok name ∧ (owner s).session.owner? = some name) ∨
    ∃ lookup e, s.owner? = none ∧ lookup.request = .currentSchema ∧ lookup.schema? = none ∧
      (owner s).exchanges = [lookup] ∧ (owner s).result = .error e ∧
      (owner s).session = { s with script := (owner s).session.script } := by
  cases hknown : s.owner? with
  | some name => exact Or.inl ⟨name, rfl, owner_of_known hknown⟩
  | none =>
    refine Or.inr ?_
    obtain ⟨lookup, hlookup, hexchanges, hsession, hreply⟩ := lookUp_cases s
    rw [hknown] at hsession
    rw [owner_of_unknown hknown]
    rcases hreply with ⟨e, hresult, hschema⟩ | ⟨rows, hresult, hschema⟩
    · rw [bind_of_error hresult]
      exact Or.inr ⟨lookup, e, rfl, hlookup, hschema, hexchanges, rfl, hsession⟩
    · rw [bind_of_ok hresult, hexchanges]
      cases hrows : schemaOfRows rows with
      | some name =>
        rw [keepSchema, hrows]
        exact Or.inl ⟨name, lookup, rfl, hlookup, hschema.trans hrows, rfl, rfl, rfl⟩
      | none =>
        rw [keepSchema, hrows]
        exact Or.inr ⟨lookup, _, rfl, hlookup, hschema.trans hrows, rfl, rfl, hsession⟩

/-- **Resolve the owner and go on** with a step that asks only about it. -/
theorem resolves_owner_bind (request : Config → String → Option Request) {f : String → Step β}
    (hkeeps : ∀ name, KeepsOwner (f name))
    (hasks : ∀ name s, ∀ e ∈ (f name s).exchanges, request s.config name = some e.request)
    (s : Session) : Resolves (request s.config) s ((owner >>= f) s) := by
  have hconfig : (owner s).session.config = s.config := staysOutside_owner.config s
  rcases owner_cases s with ⟨name, hknown, howner⟩ |
    ⟨name, lookup, hunknown, hlookup, hschema, hexchanges, hresult, hkept⟩ |
    ⟨lookup, e, hunknown, hlookup, hschema, hexchanges, hresult, hsession⟩
  · have hresult : (owner s).result = .ok name := by rw [howner]
    refine .known name hknown ?_ ?_
    · rw [session_bind_of_ok hresult, hkeeps, howner, hknown]
    · intro e he
      rw [exchanges_bind_of_ok hresult, howner] at he
      exact hasks name s e he
  · refine .found name lookup (f name (owner s).session).exchanges hunknown hlookup hschema ?_ ?_ ?_
    · rw [exchanges_bind_of_ok hresult, hexchanges, List.singleton_append]
    · rw [session_bind_of_ok hresult, hkeeps, hkept]
    · intro e he
      rw [← hconfig]
      exact hasks name _ e he
  · refine .missing lookup e hunknown hlookup hschema ?_ ?_ ?_
    · rw [exchanges_bind_of_error hresult, hexchanges]
    · rw [bind_of_error hresult]
      exact hsession
    · rw [result_bind_of_error hresult]

theorem resolves_owner (request : Config → String → Option Request) (s : Session) :
    Resolves (request s.config) s (owner s) := by
  have hbind := resolves_owner_bind request (f := Pure.pure) (fun name => .pure name)
    (fun _ _ _ he => absurd he List.not_mem_nil) s
  rwa [bind_pure] at hbind

theorem resolves_owner_ask (request : Config → String → Request) {f : String → Step β}
    (hkeeps : ∀ name, KeepsOwner (f name))
    (hasks : ∀ name s, (f name s).exchanges = (Step.ask (request s.config name) s).exchanges)
    (s : Session) :
    Resolves (fun name => some (request s.config name)) s ((owner >>= f) s) := by
  refine resolves_owner_bind (fun c name => some (request c name)) hkeeps ?_ s
  intro name s e he
  obtain ⟨reply, hexchange, _⟩ := ask_cases (request s.config name) s
  rw [hasks, hexchange, List.mem_singleton] at he
  rw [he]

theorem Resolves.wrapped {request : String → Option Request} {x : Step α} {s : Session}
    (hx : Resolves request s (x s)) (f : α → β) :
    Resolves request s ((x >>= fun a => Pure.pure (f a)) s) := by
  obtain ⟨hexchanges, hsession⟩ := bind_pure_apply x f s
  cases hx with
  | known name hknown hkept hasked =>
    refine .known name hknown (hsession ▸ hkept) (hexchanges ▸ hasked)
  | found name lookup rest hunknown hlookup hschema hes hkept hasked =>
    exact .found name lookup rest hunknown hlookup hschema (hexchanges ▸ hes) (hsession ▸ hkept)
      hasked
  | missing lookup e hunknown hlookup hschema hes hkept hresult =>
    refine .missing lookup e hunknown hlookup hschema (hexchanges ▸ hes) ?_ ?_
    · rw [hsession]
      exact hkept
    · rw [result_bind_of_error hresult]

theorem resolves_fetchOwned (query : Config → String → Statement) (s : Session) :
    Resolves (fun name => some (query s.config name).fetchRequest) s (fetchOwned query s) := by
  have hasks (name : String) (t : Session) :
      ((config >>= fun c => fetch (query c name)) t).exchanges
        = (Step.ask (query t.config name).fetchRequest t).exchanges := by
    rw [config_bind]
    rfl
  exact resolves_owner_ask (fun c name => (query c name).fetchRequest)
    (f := fun name => config >>= fun c => fetch (query c name))
    (fun _ => KeepsOwner.configuration.bind fun _ => KeepsOwner.fetch _) hasks s

theorem resolves_executed (sql : String → String) (s : Session) :
    Resolves (fun name => some (.execute (sql name) [])) s
      ((owner >>= fun name => executeSql (sql name) >>= fun _ => Pure.pure ()) s) :=
  resolves_owner_ask (fun _ name => .execute (sql name) [])
    (fun _ => (KeepsOwner.executeSql _).wrapped _) (fun _ s => (bind_pure_apply _ _ s).1) s

end Step

namespace Command

/-- **A command that does not need the owner leaves it alone.** -/
theorem keepsOwner_step {command : Command} (h : command.needsOwner = false) :
    command.step.KeepsOwner := by
  cases command with
  | configure => exact (Step.KeepsOwner.executed _).wrapped _
  | select q => exact (Step.keepsOwner_select q).wrapped _
  | anyRow q =>
    exact (Step.KeepsOwner.configured fun _ => (Step.KeepsOwner.fetch _).wrapped _).wrapped _
  | insert i => exact (Step.KeepsOwner.configured Step.KeepsOwner.execute).wrapped _
  | insertGetId i => exact (Step.keepsOwner_insertGetId i).wrapped _
  | insertBlobs i => exact (Step.keepsOwner_insertBlobs i).wrapped _
  | update u => exact (Step.keepsOwner_update u).wrapped _
  | updateBlobs u => exact (Step.keepsOwner_updateBlobs u).wrapped _
  | delete d => exact (Step.KeepsOwner.configured Step.KeepsOwner.execute).wrapped _
  | truncate table => exact (Step.KeepsOwner.executed _).wrapped _
  | create b => exact (Step.KeepsOwner.configured Step.keepsOwner_executeAll).wrapped _
  | alter b => exact (Step.KeepsOwner.configured Step.keepsOwner_executeAll).wrapped _
  | drop table => exact (Step.keepsOwner_drop table false).wrapped _
  | dropIfExists table => exact (Step.keepsOwner_drop table true).wrapped _
  | primaryKey table => exact (Step.keepsOwner_primaryKey table).wrapped _
  | dropAllTables => exact (Step.keepsOwner_executeAll _).wrapped _
  | createSequence s => exact (Step.KeepsOwner.executed _).wrapped _
  | dropSequence name => exact (Step.KeepsOwner.executed _).wrapped _
  | sequenceExists name => exact ((Step.KeepsOwner.fetch _).wrapped _).wrapped _
  | nextNumber name => exact (Step.keepsOwner_nextNumber name).wrapped _
  | currentNumber name =>
    exact (Step.KeepsOwner.configuration.bind fun _ => Step.keepsOwner_sequenceNumber _).wrapped _
  | triggerExists name => exact ((Step.KeepsOwner.fetch _).wrapped _).wrapped _
  | dropTrigger name => exact (Step.KeepsOwner.executed _).wrapped _
  | callProcedure p =>
    exact (Step.keepsOwner_callProcedure p).wrapped _
  | callFunction p returns => exact (Step.keepsOwner_callFunction p returns).wrapped _
  | _ => cases h

/-- **A command that needs the owner resolves it first.** -/
theorem resolves_step {command : Command} (h : command.needsOwner = true) (s : Session) :
    Step.Resolves (fun name => command.ownedRequest? s.config name) s (command.step s) := by
  have fetched {α : Type} (query : Config → String → Statement) (f : List Row → α)
      (g : α → Result) :
      Step.Resolves (fun name => some (query s.config name).fetchRequest) s
        (((Step.fetchOwned query >>= fun rows => pure (f rows)) >>= fun a => pure (g a)) s) :=
    ((Step.resolves_fetchOwned query s).wrapped f).wrapped g
  cases command with
  | owner =>
    exact (Step.resolves_owner (fun c name => Command.owner.ownedRequest? c name) s).wrapped _
  | hasTable table => exact fetched (fun c name => Dictionary.tableExists c name table) _ _
  | hasColumn table column => exact fetched (fun c name => Dictionary.columnExists c name table column) _ _
  | columnListing table => exact fetched (fun c name => Dictionary.columnListing c name table) _ _
  | columns table => exact fetched (fun c name => Dictionary.columns c name table) _ _
  | indexes table => exact fetched (fun c name => Dictionary.indexes c name table) _ _
  | foreignKeys table => exact fetched (fun c name => Dictionary.foreignKeys c name table) _ _
  | tables => exact fetched (fun _ name => Dictionary.tables name) _ _
  | toggleForeignKeys enable => exact (Step.resolves_executed (fun name => Dictionary.toggleForeignKeys name enable) s).wrapped _
  | _ => cases h

end Command

/-! ### Runs -/

/-- The exchanges of a run in their order, each with the command that it is made for. -/
def Session.trace (s : Session) (steps : List (Script × Command)) : List (Command × Exchange) :=
  (steps.zip (s.run steps)).flatMap fun (step, o) => o.exchanges.map fun e => (step.2, e)

/-- A command that needs the owner asks for the schema of the connection. -/
def IsLookup (entry : Command × Exchange) : Prop :=
  entry.1.needsOwner = true ∧ entry.2.request = .currentSchema

/-- A command asks about the tables of this owner. -/
def AsksAbout (c : Config) (owner : String) (entry : Command × Exchange) : Prop :=
  entry.1.ownedRequest? c owner = some entry.2.request

/-- An entry of a run in which the owner is known: no lookup, but something about the owner. -/
def Resolved (c : Config) (owner : String) (entry : Command × Exchange) : Prop :=
  entry.1.needsOwner = true → ¬ IsLookup entry ∧ AsksAbout c owner entry

/-- An entry of a run in which the owner is not known: a lookup that reports none, if anything. -/
def Unresolved (entry : Command × Exchange) : Prop :=
  entry.1.needsOwner = true → IsLookup entry ∧ entry.2.schema? = none

theorem AsksAbout.not_isLookup {c : Config} {owner : String} {entry : Command × Exchange}
    (h : AsksAbout c owner entry) : ¬ IsLookup entry := by
  intro hlookup
  rw [AsksAbout, hlookup.2] at h
  exact entry.1.ownedRequest?_ne_currentSchema c owner h

theorem resolved_of_asksAbout {c : Config} {owner : String} {entry : Command × Exchange}
    (h : AsksAbout c owner entry) : Resolved c owner entry :=
  fun _ => ⟨h.not_isLookup, h⟩

namespace Session

theorem trace_cons (s : Session) (replies : Script) (command : Command)
    (rest : List (Script × Command)) :
    s.trace ((replies, command) :: rest)
      = (s.perform replies command).exchanges.map (fun e => (command, e))
        ++ (s.perform replies command).session.trace rest := by
  rw [trace, run, List.zip_cons_cons, List.flatMap_cons]
  rfl

theorem config_perform (s : Session) (replies : Script) (command : Command) :
    (s.perform replies command).session.config = s.config :=
  command.transacts_step.config _

/-- **Once the owner is known, it is asked about and nobody else is.** -/
theorem trace_of_known {s : Session} {owner : String} (hknown : s.owner? = some owner)
    (steps : List (Script × Command)) :
    ∀ entry ∈ s.trace steps, Resolved s.config owner entry := by
  induction steps generalizing s with
  | nil => intro entry hentry; cases hentry
  | cons step rest ih =>
    obtain ⟨replies, command⟩ := step
    let t : Session := { s with script := s.script.append replies }
    have hstep : (s.perform replies command).session.owner? = some owner ∧
        ∀ e ∈ (s.perform replies command).exchanges, Resolved s.config owner (command, e) := by
      cases hneeds : command.needsOwner with
      | false =>
        refine ⟨(Command.keepsOwner_step hneeds t).trans hknown, fun e _ hneeds' => ?_⟩
        rw [hneeds] at hneeds'
        cases hneeds'
      | true =>
        cases Command.resolves_step hneeds t with
        | known name hname hkept hasked =>
          cases hknown.symm.trans hname
          exact ⟨hkept, fun e he => resolved_of_asksAbout (hasked e he)⟩
        | found name lookup more hunknown | missing lookup e hunknown =>
          cases hknown.symm.trans hunknown
    intro entry hentry
    rw [trace_cons] at hentry
    rcases List.mem_append.mp hentry with hentry | hentry
    · obtain ⟨e, he, rfl⟩ := List.mem_map.mp hentry
      exact hstep.2 e he
    · rw [← config_perform s replies command]
      exact ih hstep.1 entry hentry

/-- **As long as the owner is not known, it is looked up in vain.**  If it is ever found, then by
one exchange, and from there on it is known. -/
theorem trace_of_unknown {s : Session} (hunknown : s.owner? = none)
    (steps : List (Script × Command)) :
    (∀ entry ∈ s.trace steps, Unresolved entry) ∨
      ∃ before lookup after owner, s.trace steps = before ++ lookup :: after ∧
        IsLookup lookup ∧ lookup.2.schema? = some owner ∧
        (∀ entry ∈ before, Unresolved entry) ∧ ∀ entry ∈ after, Resolved s.config owner entry := by
  induction steps generalizing s with
  | nil => exact Or.inl fun entry hentry => by cases hentry
  | cons step rest ih =>
    obtain ⟨replies, command⟩ := step
    let t : Session := { s with script := s.script.append replies }
    -- a step that does not find the owner comes before whatever the rest of the run does
    have hcontinue (hkept : (s.perform replies command).session.owner? = none)
        (hstep : ∀ e ∈ (s.perform replies command).exchanges, Unresolved (command, e)) :
        (∀ entry ∈ s.trace ((replies, command) :: rest), Unresolved entry) ∨
          ∃ before lookup after owner,
            s.trace ((replies, command) :: rest) = before ++ lookup :: after ∧
            IsLookup lookup ∧ lookup.2.schema? = some owner ∧
            (∀ entry ∈ before, Unresolved entry) ∧
            ∀ entry ∈ after, Resolved s.config owner entry := by
      have hfirst : ∀ entry ∈ (s.perform replies command).exchanges.map fun e => (command, e),
          Unresolved entry := List.forall_mem_map.mpr hstep
      rw [trace_cons]
      rcases ih hkept with hrest | ⟨before, lookup, after, owner, htrace, hlookup, hschema,
        hbefore, hafter⟩
      · exact Or.inl (List.forall_mem_append.mpr ⟨hfirst, hrest⟩)
      · refine Or.inr ⟨_ ++ before, lookup, after, owner, ?_, hlookup, hschema,
          List.forall_mem_append.mpr ⟨hfirst, hbefore⟩, ?_⟩
        · rw [htrace, List.append_assoc]
        · rw [← config_perform s replies command]
          exact hafter
    cases hneeds : command.needsOwner with
    | false =>
      refine hcontinue ((Command.keepsOwner_step hneeds t).trans hunknown) fun e _ hneeds' => ?_
      rw [hneeds] at hneeds'
      cases hneeds'
    | true =>
      cases Command.resolves_step hneeds t with
      | known name hname => cases hunknown.symm.trans hname
      | missing lookup e _ hlookup hschema hexchanges hsession _ =>
        refine hcontinue ((congrArg Session.owner? hsession).trans hunknown) fun e he _ => ?_
        have he : e ∈ (command.step t).exchanges := he
        rw [hexchanges, List.mem_singleton] at he
        rw [he]
        exact ⟨⟨hneeds, hlookup⟩, hschema⟩
      | found owner lookup more _ hlookup hschema hexchanges hkept hasked =>
        refine Or.inr ⟨[], (command, lookup),
          more.map (fun e => (command, e)) ++ (s.perform replies command).session.trace rest, owner,
          ?_, ⟨hneeds, hlookup⟩, hschema, List.forall_mem_nil _, List.forall_mem_append.mpr ⟨?_, ?_⟩⟩
        · have hfirst : (s.perform replies command).exchanges = lookup :: more := hexchanges
          rw [trace_cons, hfirst]
          rfl
        · exact List.forall_mem_map.mpr fun e he => resolved_of_asksAbout (hasked e he)
        · rw [← config_perform s replies command]
          exact trace_of_known hkept rest

end Session

end OracleSql
