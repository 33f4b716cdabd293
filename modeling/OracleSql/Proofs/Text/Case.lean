import OracleSql.Proofs.Text.Reading
import OracleSql.Text.Case

/-!
# Letter case within ASCII

On a text of ASCII characters the case mappings of all scripts change one letter at a time, as those
of ASCII do (`toList_upper_of_isAscii`, `toList_lower_of_isAscii`).  So neither matters where case is
ignored.
-/

namespace OracleSql.Text

def IsAscii (s : String) : Prop :=
  ∀ c ∈ s.toList, c.toNat < 128

instance (s : String) : Decidable (IsAscii s) :=
  List.decidableBAll _ _

/-! ### Characters -/

theorem upperChar_of_lt {c : Char} (h : c.toNat < 128) : upperChar c = [c.toUpper] := by
  rw [upperChar, if_pos h]

theorem lowerChar_of_lt {c : Char} (h : c.toNat < 128) : lowerChar c = [c.toLower] := by
  rw [lowerChar, if_pos h]

theorem toNat_toLower_lt {c : Char} (h : c.toNat < 128) : c.toLower.toNat < 128 :=
  ofNat_cases (P := fun c => c.toLower.toNat < 128) (by decide +kernel) h

theorem toNat_toUpper_lt {c : Char} (h : c.toNat < 128) : c.toUpper.toNat < 128 :=
  ofNat_cases (P := fun c => c.toUpper.toNat < 128) (by decide +kernel) h

theorem toUpper_toLower_of_lt {c : Char} (h : c.toNat < 128) : c.toLower.toUpper = c.toUpper :=
  ofNat_cases (P := fun c => c.toLower.toUpper = c.toUpper) (by decide +kernel) h

theorem toLower_toUpper_of_lt {c : Char} (h : c.toNat < 128) : c.toUpper.toLower = c.toLower :=
  ofNat_cases (P := fun c => c.toUpper.toLower = c.toLower) (by decide +kernel) h

theorem toLower_toLower_of_lt {c : Char} (h : c.toNat < 128) : c.toLower.toLower = c.toLower :=
  ofNat_cases (P := fun c => c.toLower.toLower = c.toLower) (by decide +kernel) h

/-! ### Texts -/

theorem toList_upper_of_isAscii {s : String} (h : IsAscii s) :
    (upper s).toList = s.toList.map Char.toUpper := by
  rw [upper, String.toList_ofList]
  unfold IsAscii at h
  generalize s.toList = cs at h
  induction cs with
  | nil => rfl
  | cons c cs ih =>
    obtain ⟨hc, hcs⟩ := List.forall_mem_cons.mp h
    rw [List.flatMap_cons, upperChar_of_lt hc, ih hcs]
    rfl

/-- The only letter whose lower case depends on what stands around it is no ASCII letter. -/
theorem toList_lower_of_isAscii {s : String} (h : IsAscii s) :
    (lower s).toList = s.toList.map Char.toLower := by
  rw [lower, String.toList_ofList]
  unfold IsAscii at h
  suffices key : ∀ before, lowerFrom before s.toList = s.toList.map Char.toLower from key []
  generalize s.toList = cs at h
  induction cs with
  | nil => intro before; rfl
  | cons c cs ih =>
    intro before
    obtain ⟨hc, hcs⟩ := List.forall_mem_cons.mp h
    have hsigma : c ≠ 'Σ' := by
      rintro rfl
      exact absurd hc (by decide)
    rw [lowerFrom, if_neg hsigma, lowerChar_of_lt hc, ih hcs, List.map_cons]
    rfl

theorem isAscii_upper {s : String} (h : IsAscii s) : IsAscii (upper s) := by
  intro c hc
  rw [toList_upper_of_isAscii h] at hc
  obtain ⟨d, hd, rfl⟩ := List.mem_map.mp hc
  exact toNat_toUpper_lt (h d hd)

/-- **Upper case does not matter where case is ignored.** -/
theorem asciiLower_upper_of_isAscii {s : String} (h : IsAscii s) :
    asciiLower (upper s) = asciiLower s := by
  rw [asciiLower, asciiLower, toList_upper_of_isAscii h, List.map_map]
  exact congrArg String.ofList (List.map_congr_left fun c hc => toLower_toUpper_of_lt (h c hc))

theorem asciiLower_lower_of_isAscii {s : String} (h : IsAscii s) :
    asciiLower (lower s) = asciiLower s := by
  rw [asciiLower, asciiLower, toList_lower_of_isAscii h, List.map_map]
  exact congrArg String.ofList (List.map_congr_left fun c hc => toLower_toLower_of_lt (h c hc))

theorem asciiLower_append (s t : String) : asciiLower (s ++ t) = asciiLower s ++ asciiLower t := by
  rw [asciiLower, String.toList_append, List.map_append, String.ofList_append]
  rfl

end OracleSql.Text
