import OracleSql.Proofs.Statement.Placeholders

/-!
# Values in the place of their placeholders

A bound value travels beside the text, and only its position says which placeholder is its own.
To say which, write the values into the text: `Sql.inline lit` replaces every bound value but null
by the raw text `lit v`.  In pieces this changes each value where it stands; in the text it has to
fill the placeholders one after another with the parameters.  `Sql.Aligned.text_inline` says that
it does when every piece is self-contained (`Sql.Aligned`) and the outputs come last
(`Sql.OutputsLast`).
-/

namespace OracleSql

/-- A value written into the statement; null stays bound, and what is raw stays as it is. -/
def Value.inline (lit : Value → String) : Value → Value
  | .null => .null
  | .raw sql => .raw sql
  | v => .raw (lit v)

namespace Piece

def inline (lit : Value → String) : Piece → Piece
  | value v => value (v.inline lit)
  | p => p

/-- A piece whose placeholders are exactly those it brings values or outputs for. -/
def Aligned : Piece → Prop
  | text s => SelfContained s
  | value (.raw sql) => SelfContained sql
  | raw sql bindings => SelfContained sql ∧ bindings = []
  | _ => True

/-- What the placeholders of the piece stand for: a value, or an output. -/
def binds : Piece → List (Option Value)
  | value v => if v.isRaw then [] else [some v]
  | out _ => [none]
  | _ => []

end Piece

namespace Sql

def inline (lit : Value → String) (s : Sql) : Sql :=
  s.map (Piece.inline lit)

/-- All pieces bring what their placeholders need. -/
def Aligned (s : Sql) : Prop :=
  ∀ p ∈ s, p.Aligned

/-- What the placeholders stand for, in order. -/
def binds (s : Sql) : List (Option Value) :=
  s.flatMap Piece.binds

/-- The outputs stand behind all values. -/
def OutputsLast (s : Sql) : Prop :=
  s.binds = s.params.map some ++ s.outputs.map fun _ => none

end Sql

/-- What stands in the place of a placeholder once the values are written into the statement. -/
def shown (lit : Value → String) : Option Value → String
  | some v => if v.isNull then "?" else lit v
  | none => "?"

/-- What stands in the place of the placeholder number `k`, the values being the parameters. -/
def shownAt (lit : Value → String) (params : List Value) (k : Nat) : String :=
  shown lit params[k]?

/-! ### Inlining by pieces -/

namespace Sql

variable (lit : Value → String)

theorem inline_cons (p : Piece) (s : Sql) :
    inline lit (p :: s) = p.inline lit :: inline lit s := rfl

@[simp] theorem inline_append (s t : Sql) : inline lit (s ++ t) = inline lit s ++ inline lit t :=
  List.map_append

@[simp] theorem inline_ofText (s : String) : inline lit (ofText s) = ofText s := rfl

theorem inline_joined (separator : String) (parts : List Sql) :
    inline lit (joined separator parts) = joined separator (parts.map (inline lit)) := by
  induction parts with
  | nil => rfl
  | cons s rest ih =>
    cases rest with
    | nil => rfl
    | cons t rest =>
      rw [joined, inline_append, inline_append, ih, inline_ofText]
      · rfl
      · simp

theorem inline_ofValues (values : List Value) :
    inline lit (ofValues values) = ofValues (values.map (Value.inline lit)) := by
  rw [ofValues, inline_joined, ofValues, List.map_map, List.map_map]
  rfl

theorem inline_ofOuts (binds : List OutBinding) : inline lit (ofOuts binds) = ofOuts binds := by
  rw [ofOuts, inline_joined, List.map_map]
  rfl

theorem outputs_inline (s : Sql) : (s.inline lit).outputs = s.outputs := by
  induction s with
  | nil => rfl
  | cons p s ih =>
    have hp : (p.inline lit).outputs = p.outputs := by cases p <;> rfl
    rw [inline, List.map_cons, outputs, List.flatMap_cons, hp, outputs, List.flatMap_cons]
    exact congrArg (p.outputs ++ ·) ih

end Sql

/-! ### Aligned statements -/

namespace Piece

variable {p : Piece}

/-- What a scan does with an aligned piece: it stays outside quotes, passes the placeholders that
the piece has binds for, and fills them with what the piece shows. -/
theorem Aligned.scan (h : p.Aligned) (lit : Value → String) (f : Nat → List Char) (n : Nat)
    (hf : ∀ (k : Nat) (hk : k < p.binds.length), f (n + k) = (shown lit p.binds[k]).toList) :
    Quoting.after .outside p.sql.toList = .outside ∧
      placeholders .outside p.sql.toList = p.binds.length ∧
      fillFrom f .outside n p.sql.toList = (p.inline lit).sql.toList := by
  have hself : ∀ s, SelfContained s → Quoting.after .outside s.toList = .outside ∧
      placeholders .outside s.toList = 0 ∧ fillFrom f .outside n s.toList = s.toList :=
    fun s hs => ⟨hs.1, hs.2, fillFrom_of_placeholders_eq_zero hs.2⟩
  have hmark : Quoting.after .outside "?".toList = .outside ∧
      placeholders .outside "?".toList = 1 ∧ fillFrom f .outside n "?".toList = f n :=
    ⟨by decide, by decide, by simp [fillFrom]⟩
  cases p with
  | text s => exact hself s h
  | raw sql bindings => exact hself sql h.1
  | out b =>
    have h0 := hf 0 Nat.one_pos
    rw [Nat.add_zero] at h0
    rw [h0] at hmark
    exact hmark
  | value v =>
    cases v with
    | raw sql => exact hself sql h
    | null =>
      have h0 := hf 0 Nat.one_pos
      rw [Nat.add_zero] at h0
      rw [h0] at hmark
      exact hmark
    | _ =>
      have h0 := hf 0 Nat.one_pos
      rw [Nat.add_zero] at h0
      rw [h0] at hmark
      exact hmark

end Piece

namespace Sql

variable {s t : Sql}

@[simp] theorem aligned_append : Aligned (s ++ t) ↔ s.Aligned ∧ t.Aligned :=
  List.forall_mem_append

@[simp] theorem aligned_ofText {s : String} : Aligned (ofText s) ↔ SelfContained s :=
  List.forall_mem_singleton

theorem aligned_ofOut (b : OutBinding) : Aligned (ofOut b) := by
  intro p hp
  rw [List.mem_singleton.mp hp]
  trivial

theorem Aligned.joined {separator : String} (hseparator : SelfContained separator)
    {parts : List Sql} (h : ∀ s ∈ parts, Aligned s) : Aligned (joined separator parts) := by
  induction parts with
  | nil =>
    intro p hp
    cases hp
  | cons s rest ih =>
    have hs := h s List.mem_cons_self
    cases rest with
    | nil => exact hs
    | cons t rest =>
      rw [Sql.joined]
      · rw [aligned_append, aligned_append, aligned_ofText]
        exact ⟨hs, hseparator, ih fun u hu => h u (List.mem_cons_of_mem _ hu)⟩
      · simp

theorem aligned_ofOuts (binds : List OutBinding) : Aligned (ofOuts binds) := by
  refine Aligned.joined (by decide) fun s hs => ?_
  obtain ⟨b, _, rfl⟩ := List.mem_map.mp hs
  exact aligned_ofOut b

theorem binds_append (s t : Sql) : binds (s ++ t) = binds s ++ binds t :=
  List.flatMap_append

theorem text_cons (p : Piece) (s : Sql) : text (p :: s) = p.sql ++ text s :=
  text_append [p] s

/-- **The scan of an aligned statement** passes one placeholder for each bind and fills it with
what the bind shows. -/
theorem Aligned.scan (h : s.Aligned) (lit : Value → String) (f : Nat → List Char) (n : Nat)
    (hf : ∀ (k : Nat) (hk : k < s.binds.length), f (n + k) = (shown lit s.binds[k]).toList) :
    Quoting.after .outside s.text.toList = .outside ∧
      placeholders .outside s.text.toList = s.binds.length ∧
      fillFrom f .outside n s.text.toList = (s.inline lit).text.toList := by
  induction s generalizing n with
  | nil => exact ⟨by decide, by decide, rfl⟩
  | cons p s ih =>
    have hlength : binds (p :: s) = p.binds ++ binds s := List.flatMap_cons
    obtain ⟨hpafter, hpcount, hpfill⟩ := (h p List.mem_cons_self).scan lit f n
      fun k hk => by
        have hk' : k < (binds (p :: s)).length := by
          rw [hlength, List.length_append]
          omega
        rw [hf k hk']
        simp only [hlength, List.getElem_append_left hk]
    obtain ⟨hafter, hcount, hfill⟩ := ih (fun q hq => h q (List.mem_cons_of_mem _ hq))
      (n + p.binds.length) fun k hk => by
        have hk' : p.binds.length + k < (binds (p :: s)).length := by
          rw [hlength, List.length_append]
          omega
        rw [Nat.add_assoc, hf (p.binds.length + k) hk']
        simp only [hlength, List.getElem_append_right (Nat.le_add_right _ _),
          Nat.add_sub_cancel_left]
    rw [text_cons, String.toList_append, Quoting.after_append, placeholders_append, fillFrom_append,
      hpafter, hpcount, hpfill, hafter, hcount, hfill, hlength, List.length_append, inline_cons,
      text_cons, String.toList_append]
    exact ⟨rfl, rfl, rfl⟩

/-- Only nulls stay bound when the values are written into the statement. -/
theorem Aligned.params_inline (h : s.Aligned) (lit : Value → String) :
    (s.inline lit).params = s.params.filter Value.isNull := by
  induction s with
  | nil => rfl
  | cons p s ih =>
    have hp : (p.inline lit).params = p.params.filter Value.isNull := by
      cases p with
      | value v => cases v <;> rfl
      | raw sql bindings =>
        have hbindings : bindings = [] := (h _ List.mem_cons_self).2
        rw [hbindings]
        rfl
      | _ => rfl
    rw [inline_cons, params, params, List.flatMap_cons, List.flatMap_cons, List.filter_append, hp]
    exact congrArg (_ ++ ·) (ih fun q hq => h q (List.mem_cons_of_mem _ hq))

/-! ### Outputs behind all values -/

/-- Without outputs, the placeholders stand for the parameters. -/
theorem Aligned.binds_eq_params (h : s.Aligned) (houtputs : s.outputs = []) :
    s.binds = s.params.map some := by
  induction s with
  | nil => rfl
  | cons p s ih =>
    rw [outputs, List.flatMap_cons, List.append_eq_nil_iff] at houtputs
    have hp : p.binds = p.params.map some := by
      cases p with
      | value v => cases v <;> rfl
      | raw sql bindings =>
        have hbindings : bindings = [] := (h _ List.mem_cons_self).2
        rw [hbindings]
        rfl
      | text _ => rfl
      | out b => cases houtputs.1
    rw [binds, params, List.flatMap_cons, List.flatMap_cons, List.map_append, hp]
    exact congrArg (_ ++ ·) (ih (fun q hq => h q (List.mem_cons_of_mem _ hq)) houtputs.2)

theorem binds_ofOuts (bs : List OutBinding) :
    binds (ofOuts bs) = bs.map (fun _ => none) ∧ params (ofOuts bs) = [] ∧
      outputs (ofOuts bs) = bs := by
  rw [binds, params, outputs, ofOuts, flatMap_joined rfl, flatMap_joined rfl, flatMap_joined rfl,
    List.flatMap_map, List.flatMap_map, List.flatMap_map]
  refine ⟨?_, ?_, ?_⟩
  · exact (List.map_eq_flatMap).symm
  · exact List.flatMap_eq_nil_iff.mpr fun _ _ => rfl
  · exact List.flatMap_singleton' bs

theorem outputsLast_of_outputs_eq_nil (h : s.Aligned) (houtputs : s.outputs = []) :
    s.OutputsLast := by
  rw [OutputsLast, h.binds_eq_params houtputs, houtputs, List.map_nil, List.append_nil]

theorem outputsLast_append_ofOuts (h : s.Aligned) (houtputs : s.outputs = [])
    (bs : List OutBinding) : OutputsLast (s ++ ofOuts bs) := by
  obtain ⟨hbinds, hparams, hbs⟩ := binds_ofOuts bs
  rw [OutputsLast, binds_append, params_append, outputs_append, h.binds_eq_params houtputs, hbinds,
    hparams, hbs, houtputs, List.append_nil, List.nil_append]

/-- **Every value stands at its own placeholder.**  The placeholders are as many as parameters and
outputs together, and with the values written into the statement the text is the same text with
each placeholder replaced by its own value; the nulls stay bound, in their order. -/
theorem Aligned.text_inline (h : s.Aligned) (hlast : s.OutputsLast) :
    placeholders .outside s.text.toList = s.params.length + s.outputs.length ∧
      ∀ lit, (s.inline lit).text = fill (shownAt lit s.params) s.text ∧
        (s.inline lit).params = s.params.filter Value.isNull ∧
        (s.inline lit).outputs = s.outputs := by
  have hlength : s.binds.length = s.params.length + s.outputs.length := by
    rw [hlast, List.length_append, List.length_map, List.length_map]
  -- Behind the parameters come the outputs, which show a placeholder as the absent ones do.
  have hshown : ∀ lit (k : Nat) (hk : k < s.binds.length),
      shownAt lit s.params k = shown lit s.binds[k] := by
    intro lit k hk
    have hget : s.binds[k]? = some s.binds[k] := List.getElem?_eq_getElem hk
    generalize s.binds[k] = b at hget
    rw [shownAt]
    by_cases hparams : k < s.params.length
    · rw [hlast, List.getElem?_append_left (by rwa [List.length_map]), List.getElem?_map,
        List.getElem?_eq_getElem hparams] at hget
      rw [List.getElem?_eq_getElem hparams]
      exact congrArg (shown lit) (Option.some.inj hget)
    · rw [hlast, List.getElem?_append_right (by rw [List.length_map]; omega), List.getElem?_map,
        List.length_map, List.getElem?_eq_getElem (by omega)] at hget
      rw [List.getElem?_eq_none (Nat.not_lt.mp hparams)]
      exact congrArg (shown lit) (Option.some.inj hget)
  have hscan := fun lit => h.scan lit (fun k => (shownAt lit s.params k).toList) 0
    fun k hk => by rw [Nat.zero_add, hshown lit k hk]
  refine ⟨by rw [(hscan fun _ => "").2.1, hlength], fun lit => ⟨?_, h.params_inline lit, ?_⟩⟩
  · rw [fill, (hscan lit).2.2, String.ofList_toList]
  · exact outputs_inline lit s

end Sql

end OracleSql
