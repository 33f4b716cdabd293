import OracleSql.Procedure.Compile
import OracleSql.Proofs.Text.Reading
import OracleSql.Statement

/-!
# Named binds

A bind is a colon and a word outside quotes, and `bindsFrom` reads the binds of a block as the
database does.  The names of a call are plain words, so in its block there is no colon but those of
its parameters, and of the result of a function (`bindNames_procedureBlock`,
`bindNames_functionBlock`).  The values to pass in and the binds to receive are the parameters again,
split in two (`names_perm_paramNames`).

So the three agree in every call.  What is left to make the binds unambiguous is that no name comes
twice: neither two parameters of one name nor, in a function, a parameter with the name of the
result (`ProcedureCall.unambiguous_iff`), and nothing refuses such a call.
-/

namespace OracleSql

/-! ### The binds of a block -/

/-- A character of the word behind a colon. -/
def isBindChar (c : Char) : Bool :=
  c.isAlphanum || c == '_' || c == '$' || c == '#'

/-- The names of the binds in a text that starts in a given place. -/
def bindsFrom (q : Quoting) (cs : List Char) : List (List Char) :=
  match cs with
  | [] => []
  | c :: cs =>
    if c = ':' ∧ q = .outside then
      -- A colon without a word is that of an assignment.
      if (cs.takeWhile isBindChar).isEmpty then bindsFrom q cs
      else cs.takeWhile isBindChar :: bindsFrom q (cs.dropWhile isBindChar)
    else bindsFrom (q.step c) cs
termination_by cs.length
decreasing_by
  · exact Nat.lt_succ_self _
  · exact Nat.lt_succ_of_le (List.dropWhile_sublist _).length_le
  · exact Nat.lt_succ_self _

namespace CompiledCall

/-- **The names of the binds**, in the order of the text. -/
def bindNames (call : CompiledCall) : List String :=
  (bindsFrom .outside call.sql.toList).map String.ofList

/-- The names of the values passed in, and then those of the binds to receive. -/
def listedNames (call : CompiledCall) : List String :=
  call.inputs.map Prod.fst ++ call.outputs.map Prod.fst

/-- **The binds are unambiguous**: no two of them have one name, they are those that are passed in
and those that are received, and each of these is listed once. -/
structure Unambiguous (call : CompiledCall) : Prop where
  distinct : call.bindNames.Nodup
  listed : ∀ name, name ∈ call.bindNames ↔ name ∈ call.listedNames
  once : call.listedNames.Nodup

theorem unambiguous_iff_of_perm {call : CompiledCall}
    (h : call.listedNames.Perm call.bindNames) : call.Unambiguous ↔ call.bindNames.Nodup :=
  ⟨fun hcall => hcall.distinct,
    fun hnodup => ⟨hnodup, fun _ => h.mem_iff.symm, h.nodup_iff.mpr hnodup⟩⟩

end CompiledCall

theorem map_ofList_map_toList (names : List String) :
    (names.map String.toList).map String.ofList = names := by
  rw [List.map_map]
  exact (List.map_congr_left fun _ _ => String.ofList_toList).trans (List.map_id names)

/-! ### Reading part by part -/

/-- A text without colons and quotes. -/
def BindFree (s : String) : Prop :=
  ∀ c ∈ s.toList, c ≠ ':' ∧ c ≠ '\'' ∧ c ≠ '"'

instance (s : String) : Decidable (BindFree s) :=
  List.decidableBAll (fun c => c ≠ ':' ∧ c ≠ '\'' ∧ c ≠ '"') _

/-- **A text without colons and quotes has no binds.** -/
theorem bindsFrom_bindFree {s : String} (h : BindFree s) (rest : List Char) :
    bindsFrom .outside (s.toList ++ rest) = bindsFrom .outside rest := by
  unfold BindFree at h
  generalize s.toList = cs at h
  induction cs with
  | nil => rfl
  | cons c cs ih =>
    obtain ⟨⟨hcolon, hliteral, hidentifier⟩, hcs⟩ := List.forall_mem_cons.mp h
    have hstep : Quoting.step .outside c = .outside := by
      simp [Quoting.step, hliteral, hidentifier]
    rw [List.cons_append, bindsFrom, if_neg fun hc => hcolon hc.1, hstep, ih hcs]

/-- **A bind is read**, if the text behind it does not go on with its word. -/
theorem bindsFrom_colon {w rest : List Char} (hne : w ≠ []) (hw : ∀ c ∈ w, isBindChar c = true)
    (hrest : ∀ c ∈ rest.head?, isBindChar c = false) :
    bindsFrom .outside (':' :: (w ++ rest)) = w :: bindsFrom .outside rest := by
  obtain ⟨htake, hdrop⟩ := Text.takeWhile_append_eq hw hrest
  rw [bindsFrom, if_pos ⟨rfl, rfl⟩, htake, hdrop, if_neg (by simpa using hne)]

/-- **An assignment is no bind**, although it starts with a colon. -/
theorem bindsFrom_assignment (rest : List Char) :
    bindsFrom .outside (" := ".toList ++ rest) = bindsFrom .outside rest := by
  have hcolon : bindsFrom .outside (':' :: '=' :: ' ' :: rest)
      = bindsFrom .outside ("= ".toList ++ rest) := by
    have hword : ('=' :: ' ' :: rest).takeWhile isBindChar = [] :=
      List.takeWhile_cons_of_neg (by decide)
    rw [bindsFrom, if_pos ⟨rfl, rfl⟩, hword, if_pos List.isEmpty_nil]
    rfl
  exact (bindsFrom_bindFree (by decide : BindFree " ") _).trans
    (hcolon.trans (bindsFrom_bindFree (by decide : BindFree "= ") rest))

/-! ### The names of a call -/

/-- An ASCII letter, and then ASCII letters, digits and underscores. -/
def IsWord (cs : List Char) : Prop :=
  ∃ first rest, cs = first :: rest ∧ first.isAlpha = true ∧
    ∀ c ∈ rest, c.isAlphanum = true ∨ c = '_'

theorem isBindName_iff {cs : List Char} : isBindName cs = true ↔ IsWord cs := by
  cases cs with
  | nil => exact ⟨nofun, nofun⟩
  | cons first rest =>
    rw [isBindName, Bool.and_eq_true, List.all_eq_true]
    simp only [Bool.or_eq_true, beq_iff_eq]
    constructor
    · rintro ⟨hfirst, hrest⟩
      exact ⟨first, rest, rfl, hfirst, hrest⟩
    · rintro ⟨_, _, ⟨⟩, hfirst, hrest⟩
      exact ⟨hfirst, hrest⟩

namespace IsWord

variable {cs : List Char}

theorem ne_nil (h : IsWord cs) : cs ≠ [] := by
  obtain ⟨first, rest, rfl, -⟩ := h
  exact List.cons_ne_nil _ _

theorem isAlphanum_or (h : IsWord cs) : ∀ c ∈ cs, c.isAlphanum = true ∨ c = '_' := by
  obtain ⟨first, rest, rfl, hfirst, hrest⟩ := h
  rw [List.forall_mem_cons]
  exact ⟨.inl (by rw [Char.isAlphanum, hfirst, Bool.true_or]), hrest⟩

theorem isBindChar (h : IsWord cs) : ∀ c ∈ cs, isBindChar c = true := by
  intro c hc
  rcases h.isAlphanum_or c hc with hc | rfl
  · simp [OracleSql.isBindChar, hc]
  · decide

theorem ne_of_mem (h : IsWord cs) : ∀ c ∈ cs, c ≠ ':' ∧ c ≠ '\'' ∧ c ≠ '"' := by
  intro c hc
  have hchar := h.isBindChar c hc
  refine ⟨?_, ?_, ?_⟩ <;> (rintro rfl; exact absurd hchar (by decide))

end IsWord

namespace ProcedureCall

def paramNames (c : ProcedureCall) : List String :=
  c.params.map Prod.fst

/-- **Every segment of the name and every parameter is a plain word.** -/
structure WellNamed (c : ProcedureCall) : Prop where
  segments : ∀ part ∈ c.name.toList.splitOn '.', IsWord part
  params : ∀ name ∈ c.paramNames, IsWord name.toList

theorem invalidName?_eq_none_iff {c : ProcedureCall} : c.invalidName? = none ↔ c.WellNamed := by
  rw [invalidName?]
  split
  · next hsegments =>
    rw [List.all_eq_true] at hsegments
    rw [List.find?_eq_none]
    simp only [Bool.not_eq_true', Bool.not_eq_false, isBindName_iff] at hsegments ⊢
    exact ⟨fun hparams => ⟨hsegments, hparams⟩, fun h => h.params⟩
  · next hsegments =>
    refine ⟨nofun, fun h => absurd ?_ hsegments⟩
    exact List.all_eq_true.mpr fun part hpart => isBindName_iff.mpr (h.segments part hpart)

/-- **A call is accepted when it is well named.** -/
theorem result_checkNames_bind_eq_ok_iff {c : ProcedureCall} {call compiled : CompiledCall} :
    (c.checkNames >>= fun _ => pure call).result = .ok compiled ↔ c.WellNamed ∧ compiled = call := by
  rw [Compile.result_bind_eq_ok, checkNames, ← invalidName?_eq_none_iff]
  cases c.invalidName? with
  | none =>
    constructor
    · rintro ⟨_, _, ⟨⟩⟩
      exact ⟨rfl, rfl⟩
    · rintro ⟨_, rfl⟩
      exact ⟨(), rfl, rfl⟩
  | some name =>
    constructor
    · rintro ⟨_, ⟨⟩, _⟩
    · rintro ⟨⟨⟩, _⟩

/-! ### The binds of a call -/

/-- The dots between the segments are no colons either. -/
theorem WellNamed.bindFree_name {c : ProcedureCall} (h : c.WellNamed) : BindFree c.name := by
  intro ch hch
  have hparts : ch = '.' ∨ ∃ part ∈ c.name.toList.splitOn '.', ch ∈ part :=
    Text.eq_or_exists_mem_splitOn hch
  rcases hparts with rfl | ⟨part, hpart, hmem⟩
  · decide
  · exact (h.segments part hpart).ne_of_mem ch hmem

/-- The binds of a list of parameters, with something behind that does not go on with the last. -/
theorem bindsFrom_params {names : List String} (h : ∀ name ∈ names, IsWord name.toList)
    {rest : List Char} (hrest : ∀ c ∈ rest.head?, isBindChar c = false) :
    bindsFrom .outside ((", ".intercalate (names.map (":" ++ ·))).toList ++ rest)
      = names.map String.toList ++ bindsFrom .outside rest := by
  induction names with
  | nil => rfl
  | cons name names ih =>
    obtain ⟨hname, hnames⟩ := List.forall_mem_cons.mp h
    have hcolon {rest : List Char} (hrest : ∀ c ∈ rest.head?, isBindChar c = false) :
        bindsFrom .outside ((":" ++ name).toList ++ rest)
          = name.toList :: bindsFrom .outside rest := by
      rw [String.toList_append]
      exact bindsFrom_colon hname.ne_nil hname.isBindChar hrest
    cases names with
    | nil => exact hcolon hrest
    | cons next names =>
      rw [List.map_cons, List.map_cons, String.intercalate_cons_cons, String.toList_append,
        String.toList_append, List.append_assoc, List.append_assoc, hcolon,
        bindsFrom_bindFree (by decide : BindFree ", "), ← List.map_cons, ih hnames]
      · rfl
      · rintro _ ⟨⟩
        decide

/-- **The binds of an invocation are its parameters.** -/
theorem WellNamed.bindsFrom_invocation {c : ProcedureCall} (h : c.WellNamed) (rest : List Char) :
    bindsFrom .outside (c.invocation.toList ++ rest)
      = c.paramNames.map String.toList ++ bindsFrom .outside rest := by
  have hparams : (c.params.map fun p => ":" ++ p.1) = c.paramNames.map (":" ++ ·) :=
    List.map_map.symm
  rw [invocation, hparams, String.toList_append, String.toList_append, String.toList_append,
    List.append_assoc, List.append_assoc, List.append_assoc, bindsFrom_bindFree h.bindFree_name,
    bindsFrom_bindFree (by decide : BindFree "("), bindsFrom_params h.params,
    bindsFrom_bindFree (by decide : BindFree ")")]
  rintro _ ⟨⟩
  decide

def procedureBlock (c : ProcedureCall) : CompiledCall :=
  ⟨"begin " ++ c.invocation ++ "; end;", c.inputs, c.outputs⟩

def functionBlock (c : ProcedureCall) (returns : OutBinding) : CompiledCall :=
  ⟨"begin :" ++ resultBind ++ " := " ++ c.invocation ++ "; end;", c.inputs,
    (resultBind, returns) :: c.outputs⟩

theorem result_compile_eq_ok_iff {c : ProcedureCall} {compiled : CompiledCall} :
    c.compile.result = .ok compiled ↔ c.WellNamed ∧ compiled = c.procedureBlock :=
  result_checkNames_bind_eq_ok_iff

theorem result_compileFunction_eq_ok_iff {c : ProcedureCall} {returns : OutBinding}
    {compiled : CompiledCall} :
    (c.compileFunction returns).result = .ok compiled
      ↔ c.WellNamed ∧ compiled = c.functionBlock returns :=
  result_checkNames_bind_eq_ok_iff

theorem WellNamed.bindsFrom_end {c : ProcedureCall} (h : c.WellNamed) :
    bindsFrom .outside (c.invocation ++ "; end;").toList = c.paramNames.map String.toList := by
  have hend : bindsFrom .outside "; end;".toList = [] := by
    rw [← List.append_nil "; end;".toList, bindsFrom_bindFree (by decide : BindFree "; end;"),
      bindsFrom]
  rw [String.toList_append, h.bindsFrom_invocation, hend, List.append_nil]

theorem WellNamed.bindNames_procedureBlock {c : ProcedureCall} (h : c.WellNamed) :
    c.procedureBlock.bindNames = c.paramNames := by
  rw [CompiledCall.bindNames, procedureBlock, String.append_assoc, String.toList_append,
    bindsFrom_bindFree (by decide : BindFree "begin "), h.bindsFrom_end, map_ofList_map_toList]

theorem WellNamed.bindNames_functionBlock {c : ProcedureCall} (h : c.WellNamed)
    (returns : OutBinding) : (c.functionBlock returns).bindNames = resultBind :: c.paramNames := by
  have hsql : (c.functionBlock returns).sql.toList
      = "begin ".toList ++ ':' :: (resultBind.toList ++ (" := ".toList
        ++ (c.invocation ++ "; end;").toList)) := by
    simp [functionBlock]
  have hresult : IsWord resultBind.toList := isBindName_iff.mp (by decide +kernel)
  rw [CompiledCall.bindNames, hsql, bindsFrom_bindFree (by decide : BindFree "begin "),
    bindsFrom_colon hresult.ne_nil hresult.isBindChar, bindsFrom_assignment, h.bindsFrom_end,
    List.map_cons, map_ofList_map_toList, String.ofList_toList]
  rintro _ ⟨⟩
  decide

/-! ### The two lists of a call -/

/-- **Values to pass in and binds to receive are the parameters**, each in one of the two lists. -/
theorem names_perm_paramNames (c : ProcedureCall) :
    (c.inputs.map Prod.fst ++ c.outputs.map Prod.fst).Perm c.paramNames := by
  rw [inputs, outputs, paramNames]
  induction c.params with
  | nil => exact .nil
  | cons p params ih =>
    obtain ⟨name, value | binding⟩ := p
    · exact ih.cons name
    · exact List.perm_middle.trans (ih.cons name)

theorem listedNames_procedureBlock (c : ProcedureCall) :
    c.procedureBlock.listedNames.Perm c.paramNames :=
  c.names_perm_paramNames

theorem listedNames_functionBlock (c : ProcedureCall) (returns : OutBinding) :
    (c.functionBlock returns).listedNames.Perm (resultBind :: c.paramNames) :=
  List.perm_middle.trans (c.names_perm_paramNames.cons resultBind)

/-- **Named binds are unambiguous when no name comes twice.**  A call is accepted if and only if every
segment of its name and every parameter is a plain word.  The binds in its block are then the
parameters in order, for a function behind the bind of its result, and they are, each as often, the
names of the values passed in and of the binds to receive.  So they are unambiguous if and only if
no two parameters have one name and, for a function, none has the name of the result. -/
theorem unambiguous_iff (c : ProcedureCall) (returns : OutBinding) :
    ((∃ compiled, c.compile.result = .ok compiled) ↔ c.WellNamed) ∧
      ((∃ compiled, (c.compileFunction returns).result = .ok compiled) ↔ c.WellNamed) ∧
      (∀ compiled, c.compile.result = .ok compiled →
        compiled.bindNames = c.paramNames ∧ compiled.listedNames.Perm compiled.bindNames ∧
          (compiled.Unambiguous ↔ c.paramNames.Nodup)) ∧
      ∀ compiled, (c.compileFunction returns).result = .ok compiled →
        compiled.bindNames = resultBind :: c.paramNames ∧
          compiled.listedNames.Perm compiled.bindNames ∧
          (compiled.Unambiguous ↔ resultBind ∉ c.paramNames ∧ c.paramNames.Nodup) := by
  simp only [result_compile_eq_ok_iff, result_compileFunction_eq_ok_iff]
  refine ⟨⟨fun ⟨_, h, _⟩ => h, fun h => ⟨_, h, rfl⟩⟩, ⟨fun ⟨_, h, _⟩ => h, fun h => ⟨_, h, rfl⟩⟩,
    ?_, ?_⟩
  · rintro _ ⟨h, rfl⟩
    have hbinds := h.bindNames_procedureBlock
    have hperm := c.listedNames_procedureBlock
    rw [← hbinds] at hperm
    exact ⟨hbinds, hperm, by rw [CompiledCall.unambiguous_iff_of_perm hperm, hbinds]⟩
  · rintro _ ⟨h, rfl⟩
    have hbinds := h.bindNames_functionBlock returns
    have hperm := c.listedNames_functionBlock returns
    rw [← hbinds] at hperm
    refine ⟨hbinds, hperm, ?_⟩
    rw [CompiledCall.unambiguous_iff_of_perm hperm, hbinds, List.nodup_cons]

/-- A function in a package, with a parameter to pass in and one to receive. -/
theorem unambiguous_iff_function :
    let call := ((of "pkg_users.rename_user").output "p_old" (.varchar "p_old" 30)).input "p_id"
      (.int 7)
    let compiled : CompiledCall :=
      ⟨"begin :result := pkg_users.rename_user(:p_old, :p_id); end;", [("p_id", .int 7)],
        [("result", .key "result"), ("p_old", .varchar "p_old" 30)]⟩
    (call.compileFunction (.key "result")).result = .ok compiled ∧
      compiled.bindNames = ["result", "p_old", "p_id"] ∧ compiled.Unambiguous := by
  intro call compiled
  have hcompile : (call.compileFunction (.key "result")).result = .ok compiled :=
    result_compileFunction_eq_ok_iff.mpr
      ⟨invalidName?_eq_none_iff.mp (by decide +kernel), by decide +kernel⟩
  obtain ⟨hbinds, _, hiff⟩ := (unambiguous_iff call (.key "result")).2.2.2 compiled hcompile
  exact ⟨hcompile, hbinds, hiff.mpr ⟨by decide, by decide⟩⟩

/-- **A parameter takes the bind of the result.**  The block has one bind twice, and it is listed as a
value passed in and as a bind to receive. -/
theorem ambiguous_result :
    let call := (of "full_name").input "result" (.int 1)
    let compiled : CompiledCall :=
      ⟨"begin :result := full_name(:result); end;", [("result", .int 1)],
        [("result", .varchar "result" 200)]⟩
    (call.compileFunction (.varchar "result" 200)).result = .ok compiled ∧
      compiled.bindNames = ["result", "result"] ∧ ¬ compiled.Unambiguous := by
  intro call compiled
  have hcompile : (call.compileFunction (.varchar "result" 200)).result = .ok compiled :=
    result_compileFunction_eq_ok_iff.mpr
      ⟨invalidName?_eq_none_iff.mp (by decide +kernel), by decide +kernel⟩
  have hbinds : compiled.bindNames = ["result", "result"] := by decide +kernel
  refine ⟨hcompile, hbinds, fun h => ?_⟩
  have hdistinct := h.distinct
  rw [hbinds] at hdistinct
  exact absurd hdistinct (by decide)

end ProcedureCall

end OracleSql
