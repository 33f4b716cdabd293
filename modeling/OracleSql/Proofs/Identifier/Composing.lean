import OracleSql.Proofs.Identifier.Levels
import OracleSql.Proofs.Schema.FullTextNames

/-!
# Shortening twice

Names are shortened more than once: the base of full-text indexes is brought within the limit and
then within what a preference leaves of it, and a stored name meets the limit again.  It makes no
difference.  To shorten to one limit and then to another is to shorten to the smaller of them
(`shorten_shorten`).

Wherever the first pass stops, the second goes on from there.  The segments it has joined are found
again (`Separable`), so the cuts of both passes are those of a single one (`cutTo_cutTo`).  A name that
has been cut off has no segment of more than one character, so a second pass can only cut it off
again, and the underscores that the first one dropped do not count.
-/

namespace OracleSql.Identifier

open Text

/-! ### Segments that are found again -/

/-- Segments that can be told apart when they are joined. -/
structure Separable (parts : List (List Char)) : Prop where
  ne_nil : parts ≠ []
  not_mem : ∀ p ∈ parts, '_' ∉ p

theorem separable_splitOn (cs : List Char) : Separable (cs.splitOn '_') :=
  ⟨List.splitOn_ne_nil '_' cs, fun _ hp => not_mem_of_mem_splitOn hp⟩

namespace Separable

variable {parts : List (List Char)}

theorem splitOn_joinParts (h : Separable parts) : (joinParts parts).splitOn '_' = parts :=
  List.splitOn_intercalate '_' h.not_mem h.ne_nil

theorem cutFirst (h : Separable parts) (n : Nat) : Separable (cutFirst n parts) := by
  obtain ⟨hne, hnot⟩ := h
  constructor
  · cases parts with
    | nil => exact absurd rfl hne
    | cons p rest =>
      rw [Identifier.cutFirst]
      split <;> exact List.cons_ne_nil _ _
  · clear hne
    induction parts with
    | nil => exact hnot
    | cons p rest ih =>
      obtain ⟨hp, hrest⟩ := List.forall_mem_cons.mp hnot
      rw [Identifier.cutFirst]
      split
      · exact List.forall_mem_cons.mpr ⟨fun hmem => hp (List.dropLast_subset p hmem), hrest⟩
      · exact List.forall_mem_cons.mpr ⟨hp, ih hrest⟩

/-- **Cutting keeps segments apart.** -/
theorem cutTo (h : Separable parts) (floor limit : Nat) :
    Separable (cutTo floor limit parts) := by
  induction parts using cutTo.induct floor limit with
  | case1 parts hcut ih =>
    rw [Identifier.cutTo, if_pos hcut]
    exact ih (h.cutFirst _)
  | case2 parts hcut => rwa [Identifier.cutTo, if_neg hcut]

end Separable

/-! ### When there is nothing to cut -/

theorem cutTo_of_fits {floor limit : Nat} {parts : List (List Char)}
    (h : byteLength (joinParts parts) ≤ limit) : cutTo floor limit parts = parts := by
  rw [cutTo, if_neg (by omega)]

theorem cutTo_of_longestLength_le {floor limit : Nat} {parts : List (List Char)}
    (h : longestLength parts ≤ floor) : cutTo floor limit parts = parts := by
  rw [cutTo, if_neg (by omega)]

/-- Cutting stops short of the limit only where no segment can be cut. -/
theorem longestLength_cutTo_le {floor limit : Nat} {parts : List (List Char)}
    (h : limit < byteLength (joinParts (cutTo floor limit parts))) :
    longestLength (cutTo floor limit parts) ≤ floor := by
  induction parts using cutTo.induct floor limit with
  | case1 parts hcut ih =>
    rw [cutTo, if_pos hcut] at h ⊢
    exact ih h
  | case2 parts hcut =>
    rw [cutTo, if_neg hcut] at h ⊢
    omega

/-- The segments of a beginning are beginnings of the first segments. -/
theorem exists_splitOn_append (as bs : List Char) :
    ∃ p ps q qs, as.splitOn '_' = p :: ps ∧ (as ++ bs).splitOn '_' = q :: qs ∧
      p.length ≤ q.length ∧ longestLength ps ≤ longestLength qs := by
  induction as with
  | nil =>
    obtain ⟨q, qs, hq⟩ := List.exists_cons_of_ne_nil (List.splitOn_ne_nil '_' bs)
    exact ⟨[], [], q, qs, List.splitOn_nil '_', hq, Nat.zero_le _, Nat.zero_le _⟩
  | cons c as ih =>
    obtain ⟨p, ps, q, qs, hp, hq, hfirst, hrest⟩ := ih
    rw [List.cons_append, List.splitOn_cons_eq_if_modifyHead, List.splitOn_cons_eq_if_modifyHead,
      hp, hq]
    split
    · exact ⟨[], p :: ps, [], q :: qs, rfl, rfl, Nat.le_refl _, max_le_max hfirst hrest⟩
    · exact ⟨c :: p, ps, c :: q, qs, rfl, rfl, Nat.succ_le_succ hfirst, hrest⟩

theorem longestLength_splitOn_le_of_isPrefix {as cs : List Char} (h : as <+: cs) :
    longestLength (as.splitOn '_') ≤ longestLength (cs.splitOn '_') := by
  obtain ⟨bs, rfl⟩ := h
  obtain ⟨p, ps, q, qs, hp, hq, hfirst, hrest⟩ := exists_splitOn_append as bs
  rw [hp, hq]
  exact max_le_max hfirst hrest

/-! ### Cutting off twice -/

theorem takeBytes_of_fits {limit : Nat} {cs : List Char} (h : byteLength cs ≤ limit) :
    takeBytes limit cs = cs := by
  have hlongest := (longestWithin_takeBytes limit cs).longest cs (List.prefix_refl cs) h
  exact (longestWithin_takeBytes limit cs).begins.eq_of_length_le hlongest.length_le

theorem takeBytes_takeBytes {a b : Nat} (h : b ≤ a) (cs : List Char) :
    takeBytes b (takeBytes a cs) = takeBytes b cs := by
  induction cs generalizing a b with
  | nil => rfl
  | cons c cs ih =>
    rw [takeBytes.eq_2 a]
    split
    · rw [takeBytes, takeBytes.eq_2 b, ih (by omega)]
    · rw [takeBytes.eq_2 b, if_neg (by omega), takeBytes]

/-- Underscores at the end of a text give only underscores at the end of what fits of it. -/
theorem exists_takeBytes_append_underscores (limit n : Nat) (cs : List Char) :
    ∃ m, takeBytes limit (cs ++ List.replicate n '_') = takeBytes limit cs ++ List.replicate m '_' := by
  induction cs generalizing limit with
  | nil =>
    obtain ⟨-, hm⟩ := List.prefix_replicate_iff.mp
      (longestWithin_takeBytes limit (List.replicate n '_')).begins
    exact ⟨_, hm⟩
  | cons c cs ih =>
    rw [List.cons_append, takeBytes, takeBytes]
    split
    · obtain ⟨m, hm⟩ := ih (limit - c.utf8Size)
      exact ⟨m, by rw [hm, List.cons_append]⟩
    · exact ⟨0, rfl⟩

theorem dropUnderscores_append_replicate (cs : List Char) (n : Nat) :
    dropUnderscores (cs ++ List.replicate n '_') = dropUnderscores cs :=
  rdropWhile_append_of_forall (fun _ hc => decide_eq_true (List.eq_of_mem_replicate hc)) cs

theorem dropUnderscores_dropUnderscores (cs : List Char) :
    dropUnderscores (dropUnderscores cs) = dropUnderscores cs :=
  List.rdropWhile_idempotent _ cs

/-- **To cut off twice is to cut off once**, at the smaller limit. -/
theorem dropUnderscores_takeBytes_twice {a b : Nat} (h : b ≤ a) (cs : List Char) :
    dropUnderscores (takeBytes b (dropUnderscores (takeBytes a cs)))
      = dropUnderscores (takeBytes b cs) := by
  obtain ⟨⟨n, hsplit⟩, -⟩ := exists_append_underscores (takeBytes a cs)
  obtain ⟨m, hm⟩ := exists_takeBytes_append_underscores b n (dropUnderscores (takeBytes a cs))
  rw [← hsplit, takeBytes_takeBytes h] at hm
  rw [hm, dropUnderscores_append_replicate]

/-! ### Shortening -/

theorem byteLength_joinParts_splitOn (name : String) :
    byteLength (joinParts (name.toList.splitOn '_')) = name.utf8ByteSize := by
  rw [joinParts_splitOn, ← utf8ByteSize_ofList, String.ofList_toList]

theorem shorten_of_fits {limit : Nat} {name : String} (h : name.utf8ByteSize ≤ limit) :
    shorten limit name = name := by
  have hfits := (byteLength_joinParts_splitOn name).trans_le h
  rw [shorten_eq, cutTo_of_fits hfits, if_pos hfits, joinParts_splitOn, String.ofList_toList]

/-- A name without a segment of more than one character can only be cut off, and it is its own
result when it ends in no underscore. -/
theorem shorten_of_thin {limit : Nat} {cs : List Char} (h : longestLength (cs.splitOn '_') ≤ 1)
    (hend : dropUnderscores cs = cs) :
    shorten limit (String.ofList cs) = String.ofList (dropUnderscores (takeBytes limit cs)) := by
  rw [shorten_eq, String.toList_ofList, cutTo_of_longestLength_le h, joinParts_splitOn]
  split
  · next hfits => rw [takeBytes_of_fits hfits, hend]
  · rfl

/-- **Shortening composes.** -/
theorem shorten_shorten (a b : Nat) (name : String) :
    shorten b (shorten a name) = shorten (min a b) name := by
  rcases Nat.le_or_ge a b with h | h
  · rw [Nat.min_eq_left h]
    exact shorten_of_fits (Nat.le_trans (utf8ByteSize_shorten_le a name) h)
  · rw [Nat.min_eq_right h]
    have hcuts : cutTo 1 b (cutTo 1 a (name.toList.splitOn '_'))
        = cutTo 1 b (name.toList.splitOn '_') := cutTo_cutTo (Nat.le_refl 1) h _
    have hfound := ((separable_splitOn name.toList).cutTo 1 a).splitOn_joinParts
    rw [shorten_eq a]
    split
    · rw [shorten_eq, String.toList_ofList, hfound, hcuts, ← shorten_eq]
    · next hlarge =>
      -- no cut of the first pass is left to make, so both passes cut off the same name
      have hthin := longestLength_cutTo_le (Nat.lt_of_not_le hlarge)
      have hbegins : dropUnderscores (takeBytes a (joinParts (cutTo 1 a (name.toList.splitOn '_'))))
          <+: joinParts (cutTo 1 a (name.toList.splitOn '_')) :=
        (List.rdropWhile_prefix _ _).trans (longestWithin_takeBytes _ _).begins
      have hsegments := longestLength_splitOn_le_of_isPrefix hbegins
      rw [hfound] at hsegments
      rw [shorten_of_thin (Nat.le_trans hsegments hthin) (dropUnderscores_dropUnderscores _),
        dropUnderscores_takeBytes_twice h, shorten_eq b, ← hcuts,
        cutTo_of_longestLength_le hthin, if_neg (by omega)]

/-- A name within the limit is taken as it is, without a warning. -/
theorem shortened_of_fits {limit : Nat} {name : String} (h : name.utf8ByteSize ≤ limit) :
    shortened limit name = pure name := by
  have hfits := (byteLength_joinParts_splitOn name).trans_le h
  have hsize : byteLength (squeeze limit name.toList) ≤ limit := by
    rwa [squeeze_eq, cutTo_of_fits hfits]
  rw [shortened, decide_eq_false (Nat.not_lt.mpr hsize), shorten_of_fits h]
  rfl

/-- **Shortening composes, wherever names are shortened twice.**  A stored name stays as it is, with
no further warning, and the base of full-text indexes is what one shortening to its own limit
makes of the name. -/
theorem shorten_composes :
    (∀ (name : String) (a b : Nat), shorten b (shorten a name) = shorten (min a b) name) ∧
    (∀ (name : String) (limit : Nat),
      shortened limit (shorten limit name) = pure (shorten limit name)) ∧
    ∀ (c : Config) (table : String) (spec : IndexSpec),
      (spec.fulltextBase c table).result
        = .ok (shorten (if spec.isMultiColumn then c.maxLength - preferenceSuffix.utf8ByteSize
            else c.maxLength) (specStem c table .fulltext spec)) := by
  refine ⟨fun name a b => shorten_shorten a b name, fun name limit => ?_, fun c table spec => ?_⟩
  · exact shortened_of_fits (utf8ByteSize_shorten_le limit name)
  · rw [IndexSpec.result_fulltextBase, IndexSpec.base, IndexSpec.objectName]
    split
    · rw [shorten_shorten, Nat.min_eq_right (Nat.sub_le _ _)]
    · rfl

/-- A pass that stops in the middle of a tie, and one that cuts the name off. -/
example : shorten 5 (shorten 9 "ab_cd_ef_gh") = "a_c_e" := by decide +kernel

end OracleSql.Identifier
