import OracleSql.Identifier.Shorten
import OracleSql.Proofs.Text.Ends
import OracleSql.Proofs.Text.Reading

/-!
# What shortening keeps

Two things are said here of a shortened name.  It is within the limit, whatever the name is
(`utf8ByteSize_shorten_le`).  And where it is cut depends only on where the underscores stand and how
many bytes the characters take, so shortening commutes with every change of letters that keeps
these (`shorten_map`); a change of case within ASCII is one (`asciiLower_shorten`).

The second is followed through the algorithm, one lemma for each of its functions.
-/

namespace OracleSql.Identifier

open Text

/-! ### The size of a shortened name -/

theorem byteLength_takeBytes_le (limit : Nat) (cs : List Char) :
    byteLength (takeBytes limit cs) ≤ limit := by
  induction cs generalizing limit with
  | nil => exact Nat.zero_le _
  | cons c cs ih =>
    rw [takeBytes]
    split
    · have := ih (limit - c.utf8Size)
      rw [byteLength_cons]
      omega
    · exact Nat.zero_le _

theorem byteLength_dropUnderscores_le (cs : List Char) :
    byteLength (dropUnderscores cs) ≤ byteLength cs := by
  have hsplit : cs = dropUnderscores cs ++ (cs.reverse.takeWhile (· = '_')).reverse := by
    rw [dropUnderscores, ← List.reverse_append, List.takeWhile_append_dropWhile,
      List.reverse_reverse]
  have hlength := congrArg byteLength hsplit
  rw [byteLength_append] at hlength
  omega

theorem utf8ByteSize_shorten_le (limit : Nat) (name : String) :
    (shorten limit name).utf8ByteSize ≤ limit := by
  rw [shorten, utf8ByteSize_ofList]
  split
  · assumption
  · have htake := byteLength_takeBytes_le limit (squeeze limit name.toList)
    have hdrop := byteLength_dropUnderscores_le (takeBytes limit (squeeze limit name.toList))
    omega

/-! ### Changes of letters -/

/-- A change of letters that moves no underscore and keeps the size of every character. -/
structure KeepsShape (f : Char → Char) : Prop where
  underscore : ∀ c, f c = '_' ↔ c = '_'
  size : ∀ c, (f c).utf8Size = c.utf8Size

namespace KeepsShape

variable {f : Char → Char}

theorem map_underscore (h : KeepsShape f) : f '_' = '_' := (h.underscore '_').mpr rfl

theorem byteLength_map (h : KeepsShape f) (cs : List Char) :
    byteLength (cs.map f) = byteLength cs := by
  induction cs with
  | nil => rfl
  | cons c cs ih => rw [List.map_cons, byteLength_cons, byteLength_cons, h.size, ih]

theorem splitOn_map (h : KeepsShape f) (cs : List Char) :
    (cs.map f).splitOn '_' = (cs.splitOn '_').map (List.map f) := by
  induction cs with
  | nil => rfl
  | cons c cs ih =>
    rw [List.map_cons, List.splitOn_cons_eq_if_modifyHead, List.splitOn_cons_eq_if_modifyHead, ih]
    by_cases hc : c = '_'
    · rw [if_pos (by simp [hc, h.map_underscore]), if_pos (by simp [hc])]
      rfl
    · rw [if_neg (by simp [h.underscore, hc]), if_neg (by simp [hc])]
      cases hparts : cs.splitOn '_' with
      | nil => rfl
      | cons part rest => simp

theorem joinParts_map (h : KeepsShape f) (parts : List (List Char)) :
    joinParts (parts.map (List.map f)) = (joinParts parts).map f := by
  induction parts with
  | nil => rfl
  | cons part rest ih =>
    cases rest with
    | nil => simp [joinParts]
    | cons second rest =>
      simp only [joinParts, List.map_cons, List.intercalate_cons_cons] at ih ⊢
      rw [ih]
      simp [h.map_underscore]

end KeepsShape

theorem longestLength_map (f : Char → Char) (parts : List (List Char)) :
    longestLength (parts.map (List.map f)) = longestLength parts := by
  rw [longestLength, longestLength, List.map_map]
  congr 1
  exact List.map_congr_left fun part _ => List.length_map f

theorem cutFirst_map (f : Char → Char) (n : Nat) (parts : List (List Char)) :
    cutFirst n (parts.map (List.map f)) = (cutFirst n parts).map (List.map f) := by
  induction parts with
  | nil => rfl
  | cons part rest ih =>
    rw [List.map_cons, cutFirst, cutFirst, List.length_map]
    by_cases hlength : part.length = n
    · rw [if_pos hlength, if_pos hlength, List.map_cons, List.map_dropLast]
    · rw [if_neg hlength, if_neg hlength, List.map_cons, ih]

namespace KeepsShape

variable {f : Char → Char}

/-- **Segments are cut at the same places.**  The induction is on the cuts that are made; one more
is made on either side as long as the lengths ask for it. -/
theorem cutTo_map (h : KeepsShape f) (floor limit : Nat) (parts : List (List Char)) :
    cutTo floor limit (parts.map (List.map f)) = (cutTo floor limit parts).map (List.map f) := by
  induction parts using cutTo.induct floor limit with
  | case1 parts hcut ih =>
    rw [cutTo, if_pos, longestLength_map, cutFirst_map, ih, cutTo.eq_def floor limit parts,
      if_pos hcut]
    rwa [h.joinParts_map, h.byteLength_map, longestLength_map]
  | case2 parts hcut =>
    rw [cutTo, if_neg, cutTo, if_neg hcut]
    rwa [h.joinParts_map, h.byteLength_map, longestLength_map]

theorem squeeze_map (h : KeepsShape f) (limit : Nat) (cs : List Char) :
    squeeze limit (cs.map f) = (squeeze limit cs).map f := by
  rw [squeeze, h.splitOn_map, h.cutTo_map, h.cutTo_map, h.joinParts_map, squeeze]

theorem takeBytes_map (h : KeepsShape f) (limit : Nat) (cs : List Char) :
    takeBytes limit (cs.map f) = (takeBytes limit cs).map f := by
  induction cs generalizing limit with
  | nil => rfl
  | cons c cs ih =>
    rw [List.map_cons, takeBytes, takeBytes, h.size]
    by_cases hfits : c.utf8Size ≤ limit
    · rw [if_pos hfits, if_pos hfits, List.map_cons, ih]
    · rw [if_neg hfits, if_neg hfits, List.map_nil]

theorem dropUnderscores_map (h : KeepsShape f) (cs : List Char) :
    dropUnderscores (cs.map f) = (dropUnderscores cs).map f := by
  have hsame : (fun c => decide (f c = '_')) = fun c => decide (c = '_') := by
    funext c
    simp [h.underscore]
  rw [dropUnderscores, dropUnderscores, ← List.map_reverse, List.dropWhile_map, List.map_reverse]
  change (List.map f (cs.reverse.dropWhile fun c => decide (f c = '_'))).reverse = _
  rw [hsame]

/-- **Shortening commutes with a change of letters.** -/
theorem shorten_map (h : KeepsShape f) (limit : Nat) (name : String) :
    shorten limit (String.ofList (name.toList.map f))
      = String.ofList ((shorten limit name).toList.map f) := by
  rw [shorten, shorten, String.toList_ofList, String.toList_ofList, h.squeeze_map,
    h.byteLength_map]
  by_cases hfits : byteLength (squeeze limit name.toList) ≤ limit
  · rw [if_pos hfits, if_pos hfits]
  · rw [if_neg hfits, if_neg hfits, h.takeBytes_map, h.dropUnderscores_map]

end KeepsShape

theorem keepsShape_toLower : KeepsShape Char.toLower := by
  have hascii : ∀ n < 128, ((Char.ofNat n).toLower = '_' ↔ Char.ofNat n = '_') ∧
      (Char.ofNat n).toLower.utf8Size = (Char.ofNat n).utf8Size := by decide +kernel
  have hall (c : Char) : (c.toLower = '_' ↔ c = '_') ∧ c.toLower.utf8Size = c.utf8Size := by
    by_cases hc : c.toNat < 128
    · exact ofNat_cases
        (P := fun c => (c.toLower = '_' ↔ c = '_') ∧ c.toLower.utf8Size = c.utf8Size) hascii hc
    · rw [toLower_of_not_lt hc]
      exact ⟨Iff.rfl, rfl⟩
  exact ⟨fun c => (hall c).1, fun c => (hall c).2⟩

/-- **Names that differ in case within ASCII are shortened to names that do.** -/
theorem asciiLower_shorten (limit : Nat) (name : String) :
    asciiLower (shorten limit name) = shorten limit (asciiLower name) :=
  (keepsShape_toLower.shorten_map limit name).symm

end OracleSql.Identifier
