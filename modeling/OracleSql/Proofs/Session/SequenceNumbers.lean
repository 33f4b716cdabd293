import Mathlib.Algebra.Group.Int.Defs
import Mathlib.Algebra.Group.Nat.Defs
import OracleSql.Proofs.Session.Owner

/-!
# Numbers of sequences

A number of a sequence comes as a field of a row, is read as an unsigned number of 64 bits and
turned into a signed one.  The first of these refuses an integer that does not fit; the second does
not, and neither does the reading of a number with a fraction or an exponent.  So what a sequence
reports is exact or refused only below `2 ^ 63` and in integers (`Command.sequence_number_iff`).
-/

namespace OracleSql

/-! ### The number that a value stands for -/

/-- The integer that a number is, if it is one. -/
def Binary64.integer? (x : Binary64) : Option Int :=
  if x.isNaN || x.isInfinite then none
  else if 0 ≤ x.exponent ∨ x.significand % Nat.pow 2 (-x.exponent).toNat = 0 then
    some (if x.isNegative then -(x.truncatedMagnitude : Int) else x.truncatedMagnitude)
  else none

namespace Json

/-- **The integer that a value gives exactly**: an integer, or a text that writes one with white
space around it. -/
def integer? : Json → Option Int
  | int n => some n
  | text s => Text.intOfDigits? (Text.trim s).toList
  | _ => none

/-- The integer that a value stands for, in whatever form it is written. -/
def whole? : Json → Option Int
  | float x => x.integer?
  | j => j.integer?

/-- A value as an unsigned number. -/
def unsigned? : Json → Option UInt64
  | int n => Row.uint64OfInt? n
  | float x =>
    if x.isNegative ∧ !x.isZero then none
    else some (UInt64.ofNat (x.clampToInt 0 (Int.pow 2 64 - 1)).toNat)
  | text s => Row.uint64OfText? s
  | _ => none

end Json

theorem Row.number?_eq (row : Row) (key : String) :
    row.number? key = (row.field? key).bind Json.unsigned? := by
  rw [number?]
  cases row.field? key with
  | none => rw [Option.bind_none]
  | some j => cases j <;> simp only [Option.bind_some, Json.unsigned?]

theorem Row.uint64OfInt?_eq_some {n : Int} {u : UInt64} :
    uint64OfInt? n = some u ↔ n = u.toNat := by
  rw [uint64OfInt?]
  constructor
  · intro h
    split at h
    · next hn =>
      cases h
      have hlt : n.toNat < 2 ^ 64 := by
        have := hn.2
        change n < 2 ^ 64 at this
        omega
      rw [UInt64.toNat_ofNat_of_lt' hlt]
      omega
    · cases h
  · intro h
    have hlt := u.toNat_lt
    have hn : 0 ≤ n ∧ n < Int.pow 2 64 := by
      change 0 ≤ n ∧ n < 2 ^ 64
      omega
    rw [if_pos hn, h, Int.toNat_natCast, UInt64.ofNat_toNat]

/-- The digits behind a plus sign, or all of them. -/
def Text.unsignedDigits (cs : List Char) : List Char :=
  match cs with
  | '+' :: rest => rest
  | _ => cs

/-- A text without a minus sign writes a natural number. -/
theorem Text.intOfDigits?_cases (cs : List Char) :
    (natOfDigits? (unsignedDigits cs) = none ∧ ∀ k ∈ intOfDigits? cs, k ≤ 0) ∨
      intOfDigits? cs = (natOfDigits? (unsignedDigits cs)).map Int.ofNat := by
  unfold intOfDigits?
  split
  · next rest =>
    refine Or.inl ⟨rfl, fun k hk => ?_⟩
    obtain ⟨n, _, rfl⟩ := Option.map_eq_some_iff.mp hk
    exact Int.neg_nonpos_of_nonneg (Int.natCast_nonneg n)
  · exact Or.inr rfl
  · next hplus =>
    have hdigits : unsignedDigits cs = cs := by
      rw [unsignedDigits]
      exact hplus
    rw [hdigits]
    exact Or.inr rfl

theorem Row.uint64OfText?_eq_some {s : String} {u : UInt64} :
    uint64OfText? s = some u ↔
      Text.natOfDigits? (Text.unsignedDigits (Text.trim s).toList) = some u.toNat := by
  have hread : uint64OfText? s
      = (Text.natOfDigits? (Text.unsignedDigits (Text.trim s).toList)).bind fun n =>
        if n < Nat.pow 2 64 then some (UInt64.ofNat n) else none := by
    rw [uint64OfText?, Option.bind_eq_bind]
    generalize (Text.trim s).toList = cs
    rfl
  rw [hread, Option.bind_eq_some_iff]
  constructor
  · rintro ⟨n, hn, hu⟩
    split at hu
    · next hlt =>
      cases hu
      rw [hn, UInt64.toNat_ofNat_of_lt' hlt]
    · cases hu
  · intro h
    exact ⟨_, h, by rw [if_pos u.toNat_lt, UInt64.ofNat_toNat]⟩

namespace Json

/-- **What is read is the integer**, unless it comes as a number with a fraction or an exponent. -/
theorem integer?_of_unsigned? {j : Json} {u : UInt64} (h : j.unsigned? = some u) :
    (∃ x, j = .float x) ∨ j.integer? = some (u.toNat : Int) := by
  cases j with
  | int n => exact Or.inr (congrArg some (Row.uint64OfInt?_eq_some.mp h))
  | float x => exact Or.inl ⟨x, rfl⟩
  | text s =>
    rw [unsigned?] at h
    have hdigits := Row.uint64OfText?_eq_some.mp h
    rcases Text.intOfDigits?_cases (Text.trim s).toList with ⟨hnone, _⟩ | hint
    · rw [hnone] at hdigits
      cases hdigits
    · rw [integer?, hint, hdigits]
      exact Or.inr rfl
  | _ => cases h

theorem unsigned?_of_integer? {j : Json} {k : Int} (h : j.integer? = some k) (hpos : 0 < k)
    (hlt : k < 2 ^ 64) : ∃ u, j.unsigned? = some u ∧ k = u.toNat := by
  obtain ⟨n, rfl⟩ := Int.eq_ofNat_of_zero_le (Int.le_of_lt hpos)
  have hu : (UInt64.ofNat n).toNat = n :=
    UInt64.toNat_ofNat_of_lt' (by change n < 2 ^ 64; omega)
  refine ⟨UInt64.ofNat n, ?_, by rw [hu]⟩
  cases j with
  | int m =>
    cases h
    exact Row.uint64OfInt?_eq_some.mpr (by rw [hu])
  | text s =>
    rw [unsigned?]
    refine Row.uint64OfText?_eq_some.mpr ?_
    rcases Text.intOfDigits?_cases (Text.trim s).toList with ⟨_, hneg⟩ | hint
    · exact absurd (hneg _ h) (Int.not_le.mpr hpos)
    · obtain ⟨m, hm, heq⟩ := Option.map_eq_some_iff.mp (hint.symm.trans h)
      rw [hm, hu, Int.ofNat.inj heq]
  | _ => cases h

end Json

/-- **An unsigned number turned into a signed one** is the same below `2 ^ 63`, and negative from
there on. -/
theorem toInt_toInt64 (u : UInt64) :
    u.toInt64.toInt = if u.toNat < 2 ^ 63 then (u.toNat : Int) else (u.toNat : Int) - 2 ^ 64 := by
  have hlt := u.toNat_lt
  have hmod : u.toInt64.toInt = (u.toNat : Int).bmod (2 ^ 64) := by
    have hu : u.toInt64 = Int64.ofNat u.toNat := by
      rw [← UInt64.toInt64_ofNat', UInt64.ofNat_toNat]
    rw [hu]
    exact Int64.toInt_ofNat'
  rw [hmod, Int.bmod_eq_emod]
  split <;> split <;> omega

/-- A number with a fraction or an exponent is read unless it is negative. -/
theorem Json.unsigned?_float_eq_none {x : Binary64} :
    (float x).unsigned? = none ↔ x.isNegative = true ∧ x.isZero = false := by
  rw [unsigned?, ite_eq_left_iff]
  simp

theorem Json.whole?_of_integer? {j : Json} {k : Int} (h : j.integer? = some k) :
    j.whole? = some k := by
  cases j with
  | float x => cases h
  | _ => exact h

theorem Binary64.truncatedMagnitude_of_isZero {x : Binary64} (h : x.isZero = true) :
    x.truncatedMagnitude = 0 := by
  have hsignificand : x.significand = 0 := by
    rw [isZero, beq_iff_eq] at h
    rw [significand, h, Nat.zero_div, if_pos rfl]
  rw [truncatedMagnitude, hsignificand, Nat.zero_mul, Nat.zero_div, ite_self]

theorem Binary64.clampToInt_of_integer? {x : Binary64} {k : Int} (h : x.integer? = some k)
    (lo hi : Int) : x.clampToInt lo hi = max lo (min hi k) := by
  rw [integer?] at h
  split at h
  · cases h
  · next hfinite =>
    rw [Bool.or_eq_true, not_or] at hfinite
    split at h
    · cases h
      rw [clampToInt, if_neg hfinite.1, if_neg hfinite.2]
    · cases h

/-- Only a zero is both read and negative. -/
theorem Binary64.integer?_nonneg {x : Binary64} {k : Int} (h : x.integer? = some k)
    (hread : ¬(x.isNegative = true ∧ x.isZero = false)) : 0 ≤ k := by
  rw [integer?] at h
  split at h
  · cases h
  · split at h
    · cases hnegative : x.isNegative with
      | false =>
        rw [hnegative] at h
        cases h
        exact Int.natCast_nonneg _
      | true =>
        have hzero : x.isZero = true := by simpa [hnegative] using hread
        rw [hnegative, if_pos rfl, truncatedMagnitude_of_isZero hzero] at h
        cases h
        exact Int.le_refl 0
    · cases h

/-- **A whole number below `2 ^ 63` is drawn as it is**, in whatever form it is written. -/
theorem Json.toInt_of_whole? {j : Json} {u : UInt64} {k : Int} (hu : j.unsigned? = some u)
    (hk : j.whole? = some k) (hlt : k < 2 ^ 63) : u.toInt64.toInt = k := by
  have hvalue : (u.toNat : Int) = k := by
    rcases integer?_of_unsigned? hu with ⟨x, rfl⟩ | hint
    · have hread : ¬(x.isNegative = true ∧ x.isZero = false) := fun hnone => by
        rw [unsigned?_float_eq_none.mpr hnone] at hu
        cases hu
      have hnonneg := Binary64.integer?_nonneg hk hread
      rw [unsigned?, if_neg (by simpa using hread), Binary64.clampToInt_of_integer? hk,
        Option.some.injEq] at hu
      have hclamp : max 0 (min (Int.pow 2 64 - 1) k) = k := by
        change max 0 (min (2 ^ 64 - 1) k) = k
        omega
      rw [← hu, hclamp, UInt64.toNat_ofNat_of_lt' (by change k.toNat < 2 ^ 64; omega),
        Int.toNat_of_nonneg hnonneg]
    · exact Option.some.inj ((whole?_of_integer? hint).symm.trans hk)
  rw [toInt_toInt64, hvalue, if_pos (by omega)]

/-! ### The commands on a sequence -/

def Command.sequenceSql? (c : Config) : Command → Option String
  | nextNumber name => some (SequenceSpec.nextSql c name)
  | currentNumber name => some (SequenceSpec.currentSql c name)
  | _ => none

def sequenceField? (rows : List Row) : Option Json :=
  rows.head?.bind fun row => row.field? "id"

/-- What a command makes of the field. -/
def sequenceResult (field? : Option Json) : Except Error Result :=
  match field?.bind Json.unsigned? with
  | some u => .ok (.number u.toInt64)
  | none => .error (.execution "sequence returned no value")

/-- **A number is exact or refused**: a number that is yielded is the integer of the field, and an
integer that no signed number of 64 bits is equal to is an error. -/
structure ExactOrRefused (field? : Option Json) (result : Except Error Result) : Prop where
  of_ok : ∀ n, result = .ok (.number n) → ∃ j, field? = some j ∧ j.integer? = some n.toInt
  of_outside : ∀ j k, field? = some j → j.whole? = some k → k < -2 ^ 63 ∨ 2 ^ 63 ≤ k →
    ∃ e, result = .error e

theorem sequenceResult_of_some {j : Json} {u : UInt64} (h : j.unsigned? = some u) :
    sequenceResult (some j) = .ok (.number u.toInt64) := by
  rw [sequenceResult, Option.bind_some, h]

theorem sequenceResult_of_none {j : Json} (h : j.unsigned? = none) :
    sequenceResult (some j) = .error (.execution "sequence returned no value") := by
  rw [sequenceResult, Option.bind_some, h]

/-- A positive integer below `2 ^ 64` is answered, and from `2 ^ 63` on by a negative number. -/
theorem sequenceResult_of_integer? {j : Json} {k : Int} (h : j.integer? = some k) (hpos : 0 < k)
    (hlt : k < 2 ^ 64) :
    ∃ n, sequenceResult (some j) = .ok (.number n) ∧
      n.toInt = if k < 2 ^ 63 then k else k - 2 ^ 64 := by
  obtain ⟨u, hu, rfl⟩ := Json.unsigned?_of_integer? h hpos hlt
  refine ⟨_, sequenceResult_of_some hu, ?_⟩
  rw [toInt_toInt64]
  split <;> split <;> omega

/-- **When a number is exact or refused.** -/
theorem exactOrRefused_iff (field? : Option Json) :
    ExactOrRefused field? (sequenceResult field?) ↔
      (∀ x, field? = some (.float x) → x.isNegative = true ∧ x.isZero = false) ∧
      ∀ j k, field? = some j → j.integer? = some k → ¬ (2 ^ 63 ≤ k ∧ k < 2 ^ 64) := by
  constructor
  · intro h
    refine ⟨?_, ?_⟩
    · rintro x rfl
      rw [← Json.unsigned?_float_eq_none]
      cases hu : (Json.float x).unsigned? with
      | none => rfl
      | some u =>
        obtain ⟨j, hj, hint⟩ := h.of_ok _ (sequenceResult_of_some hu)
        cases hj
        cases hint
    · rintro j k rfl hk ⟨hle, hlt⟩
      obtain ⟨n, hn, hvalue⟩ := sequenceResult_of_integer? hk (by omega) hlt
      rw [if_neg (Int.not_lt.mpr hle)] at hvalue
      obtain ⟨_, hj, hint⟩ := h.of_ok n hn
      cases hj
      have hsame := Option.some.inj (hk.symm.trans hint)
      omega
  · rintro ⟨hfloat, hint⟩
    -- What is read is an integer below `2 ^ 63`.
    have hread {j : Json} {u : UInt64} (hj : field? = some j) (hu : j.unsigned? = some u) :
        j.integer? = some (u.toNat : Int) ∧ u.toNat < 2 ^ 63 := by
      rcases Json.integer?_of_unsigned? hu with ⟨x, rfl⟩ | hj'
      · rw [Json.unsigned?_float_eq_none.mpr (hfloat x hj)] at hu
        cases hu
      · have hlt := u.toNat_lt
        have := hint j _ hj hj'
        exact ⟨hj', by omega⟩
    refine ⟨?_, ?_⟩
    · intro n hn
      cases field? with
      | none => cases hn
      | some j =>
        cases hu : j.unsigned? with
        | none =>
          rw [sequenceResult_of_none hu] at hn
          cases hn
        | some u =>
          rw [sequenceResult_of_some hu] at hn
          cases hn
          obtain ⟨hj, hlt⟩ := hread rfl hu
          exact ⟨j, rfl, by rw [hj, toInt_toInt64, if_pos hlt]⟩
    · rintro j k rfl hk houtside
      cases hu : j.unsigned? with
      | none => exact ⟨_, sequenceResult_of_none hu⟩
      | some u =>
        obtain ⟨hj, hlt⟩ := hread rfl hu
        cases (Json.whole?_of_integer? hj).symm.trans hk
        omega

namespace Step

theorem drawnNumber_eq (rows : List Row) :
    drawnNumber rows = ((sequenceField? rows).bind Json.unsigned?).map UInt64.toInt64 := by
  rw [drawnNumber, sequenceField?]
  cases rows.head? with
  | none => rfl
  | some row => rw [Option.bind_some, Option.bind_some, Row.number?_eq]

/-- **What a query for a number exchanges and yields**: its field is read. -/
theorem sequenceNumber_cases (sql : String) (s : Session) :
    ∃ reply : Reply (List Row),
      (sequenceNumber sql s).exchanges = [⟨(Statement.ofText sql).fetchRequest, reply⟩] ∧
      (∀ failure, reply = .error failure →
        (sequenceNumber sql s).result = .error failure.error) ∧
      ∀ rows, reply = .ok rows → (sequenceNumber sql s).result =
        match drawnNumber rows with
        | some n => .ok n
        | none => .error (.execution "sequence returned no value") := by
  obtain ⟨reply, hexchange, hresult⟩ := ask_cases (Statement.ofText sql).fetchRequest s
  refine ⟨reply, ?_⟩
  cases reply with
  | error failure =>
    refine ⟨(exchanges_bind_of_error hresult).trans hexchange, ?_, nofun⟩
    rintro _ ⟨⟩
    exact result_bind_of_error hresult
  | ok rows =>
    refine ⟨?_, nofun, ?_⟩
    · refine (exchanges_bind_of_ok hresult).trans ?_
      rw [hexchange]
      cases drawnNumber rows <;> rfl
    · rintro _ ⟨⟩
      refine (result_bind_of_ok hresult).trans ?_
      cases drawnNumber rows <;> rfl

end Step

/-- **Numbers of sequences are exact or refused below `2 ^ 63`.**  For every session, every command
on a sequence and every reply, the command runs one query.  A failure is the error of the command.
From rows it yields the field `id` of the first one, found in any case: a positive integer below
`2 ^ 64` is answered, as it is below `2 ^ 63` and otherwise by a negative number.  So the command
is exact or refuses if and only if the field is neither a number with a fraction or an exponent that
is not negative, nor an integer from `2 ^ 63` up to `2 ^ 64`, be it a text or not. -/
theorem Command.sequence_number_iff {command : Command} {sql : String} (s : Session)
    (h : command.sequenceSql? s.config = some sql) :
    ∃ reply : Reply (List Row),
      (command.step s).exchanges = [⟨(Statement.ofText sql).fetchRequest, reply⟩] ∧
      (∀ failure, reply = .error failure → (command.step s).result = .error failure.error) ∧
      ∀ rows, reply = .ok rows →
        (∀ j k, sequenceField? rows = some j → j.integer? = some k → 0 < k → k < 2 ^ 64 →
          ∃ n, (command.step s).result = .ok (.number n) ∧
            n.toInt = if k < 2 ^ 63 then k else k - 2 ^ 64) ∧
        (ExactOrRefused (sequenceField? rows) (command.step s).result ↔
          (∀ x, sequenceField? rows = some (.float x) → x.isNegative = true ∧ x.isZero = false) ∧
          ∀ j k, sequenceField? rows = some j → j.integer? = some k →
            ¬ (2 ^ 63 ≤ k ∧ k < 2 ^ 64)) := by
  have hstep : command.step s
      = (Step.sequenceNumber sql >>= fun n => (pure (.number n) : Step Result)) s := by
    cases command with
    | nextNumber name =>
      cases h
      rw [step, Step.nextNumber, bind_assoc, Step.config_bind]
    | currentNumber name =>
      cases h
      rw [step, Step.currentNumber, bind_assoc, Step.config_bind]
    | _ => cases h
  obtain ⟨reply, hexchange, hfailure, hrows⟩ := Step.sequenceNumber_cases sql s
  refine ⟨reply, ?_, ?_, ?_⟩
  · rw [hstep, (Step.bind_pure_apply _ _ s).1]
    exact hexchange
  · intro failure hreply
    rw [hstep]
    exact Step.result_bind_of_error (hfailure failure hreply)
  · intro rows hreply
    have hresult : (command.step s).result = sequenceResult (sequenceField? rows) := by
      have hnumber := hrows rows hreply
      rw [Step.drawnNumber_eq] at hnumber
      rw [hstep, sequenceResult]
      cases hu : (sequenceField? rows).bind Json.unsigned? with
      | none =>
        rw [hu] at hnumber
        exact Step.result_bind_of_error hnumber
      | some u =>
        rw [hu] at hnumber
        exact Step.result_bind_of_ok hnumber
    rw [hresult]
    refine ⟨fun j k hj hk hpos hlt => ?_, exactOrRefused_iff _⟩
    rw [hj]
    exact sequenceResult_of_integer? hk hpos hlt

/-- A number that is reported as a text, under a name in upper case. -/
theorem Command.sequence_number_text :
    let script : Script :=
      { Script.empty with rows := [.ok [[("ID", .text " +41 ")]]] }
    let s : Session := .start .standard script
    (Command.nextNumber "users_id_seq").sequenceSql? s.config
        = some "select users_id_seq.nextval as \"id\" from dual" ∧
      ExactOrRefused (some (.text " +41 "))
        ((Command.nextNumber "users_id_seq").step s).result := by
  intro script s
  have hsql : (Command.nextNumber "users_id_seq").sequenceSql? s.config
      = some "select users_id_seq.nextval as \"id\" from dual" := by decide +kernel
  obtain ⟨reply, hexchange, _, hrows⟩ := Command.sequence_number_iff s hsql
  have hrun : ((Command.nextNumber "users_id_seq").step s).exchanges
      = [⟨(Statement.ofText "select users_id_seq.nextval as \"id\" from dual").fetchRequest,
        .ok [[("ID", .text " +41 ")]]⟩] := rfl
  rw [hrun] at hexchange
  cases hexchange
  have hfield : sequenceField? [[("ID", .text " +41 ")]] = some (.text " +41 ") := rfl
  obtain ⟨_, hexact⟩ := hrows _ rfl
  rw [hfield] at hexact
  refine ⟨hsql, hexact.mpr ⟨nofun, ?_⟩⟩
  rintro j k ⟨⟩ hk ⟨hle, _⟩
  have hvalue : (Json.text " +41 ").integer? = some 41 := by decide +kernel
  cases hvalue.symm.trans hk
  omega

/-- **A number from `2 ^ 63` on is answered by a negative one.** -/
theorem Command.sequence_number_wraps :
    let script : Script :=
      { Script.empty with rows := [.ok [[("id", .int 9223372036854775808)]]] }
    let result := ((Command.nextNumber "users_id_seq").step (.start .standard script)).result
    result = .ok (.number (-9223372036854775808)) ∧
      ¬ ExactOrRefused (some (.int 9223372036854775808)) result := by
  intro script result
  have hresult : result = .ok (.number (-9223372036854775808)) := rfl
  refine ⟨hresult, fun h => ?_⟩
  obtain ⟨e, he⟩ := h.of_outside _ 9223372036854775808 rfl rfl (Or.inr (by omega))
  rw [hresult] at he
  cases he

end OracleSql
