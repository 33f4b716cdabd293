import Mathlib.Data.List.Forall2
import Mathlib.Data.List.TakeWhile
import OracleSql.Proofs.Identifier.Shortening

/-!
# The level at which a name is cut

A name that is too long loses one character at a time, always from its longest segment.  What is
left follows from the lengths alone: as water stands equally high everywhere, every segment is cut
to the same number of characters, but for the first few, which are cut to one less.  A `Level` says
how many characters are kept and how many segments keep one less, and the levels come in the order
in which characters are lost.

`cutTo_levelled` follows the cuts from level to level, and `shorten_closed_form` says what a
shortened name is: the name itself when it fits, else the name at the first level that fits, and
when no level fits, what fits of the name with one character for each segment.
-/

namespace OracleSql.Identifier

open Text

/-! ### Longest segments -/

theorem length_le_longestLength {parts : List (List Char)} {p : List Char} (h : p ∈ parts) :
    p.length ≤ longestLength parts := by
  induction parts with
  | nil => cases h
  | cons q rest ih =>
    rw [longestLength, List.map_cons, List.foldr_cons]
    rcases List.mem_cons.mp h with rfl | h
    · exact Nat.le_max_left _ _
    · exact Nat.le_trans (ih h) (Nat.le_max_right _ _)

theorem exists_length_eq_longestLength {parts : List (List Char)}
    (h : 0 < longestLength parts) : ∃ p ∈ parts, p.length = longestLength parts := by
  induction parts with
  | nil => simp [longestLength] at h
  | cons q rest ih =>
    have hcons : longestLength (q :: rest) = max q.length (longestLength rest) := rfl
    rw [hcons] at h ⊢
    by_cases hq : longestLength rest ≤ q.length
    · exact ⟨q, List.mem_cons_self, by omega⟩
    · obtain ⟨p, hp, hlength⟩ := ih (by omega)
      exact ⟨p, List.mem_cons_of_mem _ hp, by omega⟩

/-- **One rule of cutting.**  To go on cutting, below the floor that a first pass has reached and
to a smaller limit, is to cut down to that floor and limit at once. -/
theorem cutTo_cutTo {low high small large : Nat} (hfloor : low ≤ high) (hlimit : small ≤ large)
    (parts : List (List Char)) :
    cutTo low small (cutTo high large parts) = cutTo low small parts := by
  induction parts using cutTo.induct high large with
  | case1 parts hcut ih =>
    rw [cutTo.eq_def high large parts, if_pos hcut, ih, cutTo.eq_def low small parts,
      if_pos ⟨by omega, by omega⟩]
  | case2 parts hcut => rw [cutTo.eq_def high large parts, if_neg hcut]

/-! ### Levels -/

/-- The segments cut to `t` characters, the first `i` of them to one less. -/
def levelled (t i : Nat) (parts : List (List Char)) : List (List Char) :=
  (parts.take i).map (List.take (t - 1)) ++ (parts.drop i).map (List.take t)

@[simp] theorem levelled_nil (t i : Nat) : levelled t i [] = [] := by
  simp [levelled]

theorem levelled_zero (t : Nat) (parts : List (List Char)) :
    levelled t 0 parts = parts.map (List.take t) := by
  simp [levelled]

@[simp] theorem levelled_zero_cons (t : Nat) (p : List Char) (rest : List (List Char)) :
    levelled t 0 (p :: rest) = p.take t :: levelled t 0 rest := by
  simp [levelled]

@[simp] theorem levelled_succ_cons (t i : Nat) (p : List Char) (rest : List (List Char)) :
    levelled t (i + 1) (p :: rest) = p.take (t - 1) :: levelled t i rest := by
  simp [levelled]

theorem length_le_of_mem_levelled {t i : Nat} {parts : List (List Char)} {p : List Char}
    (h : p ∈ levelled t i parts) : p.length ≤ t := by
  rcases List.mem_append.mp h with h | h
  · obtain ⟨q, _, rfl⟩ := List.mem_map.mp h
    rw [List.length_take]
    omega
  · obtain ⟨q, _, rfl⟩ := List.mem_map.mp h
    rw [List.length_take]
    omega

/-- Segments none of which is as long as the level allows stand at a lower level too. -/
theorem levelled_eq_of_length_le {n t i : Nat} (hlt : n < t) {parts : List (List Char)}
    (h : ∀ p ∈ levelled t i parts, p.length ≤ n) : levelled t i parts = levelled n 0 parts := by
  have htake {m : Nat} {p : List Char} (hm : n ≤ m) (hp : (p.take m).length ≤ n) :
      p.take m = p.take n := by
    rw [List.length_take] at hp
    by_cases hshort : p.length ≤ n
    · rw [List.take_of_length_le hshort, List.take_of_length_le (by omega)]
    · rw [show m = n by omega]
  induction parts generalizing i with
  | nil => rw [levelled_nil, levelled_nil]
  | cons p rest ih =>
    cases i with
    | zero =>
      rw [levelled_zero_cons, List.forall_mem_cons] at h
      rw [levelled_zero_cons, levelled_zero_cons, htake (by omega) h.1, ih h.2]
    | succ i =>
      rw [levelled_succ_cons, List.forall_mem_cons] at h
      rw [levelled_succ_cons, levelled_zero_cons, htake (by omega) h.1, ih h.2]

/-- **One cut leads to the next level.**  The first segment that is as long as the level allows is
the one that is cut; those before it are as short as if they had been cut already. -/
theorem exists_cutFirst_levelled {n i : Nat} (hn : 0 < n) {parts : List (List Char)}
    (h : ∃ p ∈ levelled n i parts, p.length = n) :
    ∃ m < parts.length, levelled n i parts = levelled n m parts ∧
      cutFirst n (levelled n m parts) = levelled n (m + 1) parts := by
  induction parts generalizing i with
  | nil =>
    obtain ⟨p, hp, _⟩ := h
    rw [levelled_nil] at hp
    cases hp
  | cons p rest ih =>
    -- the tail has a segment of full length as soon as the head is shorter
    have htail {i : Nat} {q : List Char} (hq : q.length < n)
        (h : ∃ p ∈ q :: levelled n i rest, p.length = n) :
        ∃ p ∈ levelled n i rest, p.length = n := by
      obtain ⟨r, hr, hlength⟩ := h
      rcases List.mem_cons.mp hr with rfl | hr
      · omega
      · exact ⟨r, hr, hlength⟩
    cases i with
    | zero =>
      rw [levelled_zero_cons] at h
      by_cases hp : n ≤ p.length
      · refine ⟨0, Nat.succ_pos _, rfl, ?_⟩
        have hlength : (p.take n).length = n := by rw [List.length_take]; omega
        have hdrop : (p.take n).dropLast = p.take (n - 1) := by
          rw [List.dropLast_eq_take, hlength, List.take_take]
          congr 1
          omega
        rw [levelled_zero_cons, cutFirst, if_pos hlength, hdrop, levelled_succ_cons]
      · have hwhole {m : Nat} (hm : p.length ≤ m) : p.take m = p := List.take_of_length_le hm
        rw [hwhole (by omega)] at h
        obtain ⟨m, hm, hsame, hcut⟩ := ih (htail (by omega) h)
        refine ⟨m + 1, Nat.succ_lt_succ hm, ?_, ?_⟩
        · rw [levelled_zero_cons, levelled_succ_cons, hwhole (by omega), hwhole (by omega), hsame]
        · rw [levelled_succ_cons, cutFirst, if_neg (by rw [hwhole (by omega)]; omega), hcut,
            levelled_succ_cons]
    | succ i =>
      rw [levelled_succ_cons] at h
      have hshort : (p.take (n - 1)).length < n := by rw [List.length_take]; omega
      obtain ⟨m, hm, hsame, hcut⟩ := ih (htail hshort h)
      refine ⟨m + 1, Nat.succ_lt_succ hm, ?_, ?_⟩
      · rw [levelled_succ_cons, levelled_succ_cons, hsame]
      · rw [levelled_succ_cons, cutFirst, if_neg (by omega), hcut, levelled_succ_cons]

/-- The longest segment tells at which level the segments stand, and to which one they are cut. -/
theorem cutFirst_longest_levelled {t i n : Nat} {parts : List (List Char)}
    (hn : longestLength (levelled t i parts) = n) (hpos : 0 < n) :
    ∃ m < parts.length, levelled t i parts = levelled n m parts ∧
      cutFirst n (levelled t i parts) = levelled n (m + 1) parts := by
  have hlongest : ∃ p ∈ levelled t i parts, p.length = n := by
    obtain ⟨p, hp, hlength⟩ := exists_length_eq_longestLength (hn ▸ hpos)
    exact ⟨p, hp, hlength.trans hn⟩
  have hle : ∀ p ∈ levelled t i parts, p.length ≤ n := fun p hp => hn ▸ length_le_longestLength hp
  obtain ⟨j, hj⟩ : ∃ j, levelled t i parts = levelled n j parts := by
    obtain ⟨p, hp, hlength⟩ := hlongest
    have ht := length_le_of_mem_levelled hp
    by_cases heq : n = t
    · exact ⟨i, by rw [heq]⟩
    · exact ⟨0, levelled_eq_of_length_le (by omega) hle⟩
  rw [hj] at hlongest ⊢
  obtain ⟨m, hm, hsame, hcut⟩ := exists_cutFirst_levelled hpos hlongest
  exact ⟨m, hm, hsame, hsame ▸ hcut⟩

/-- **What the cuts end at.**  Either a level that fits, reached from one that does not, or one
character for each segment. -/
theorem cutTo_levelled {limit t i : Nat} (ht : 2 ≤ t) {parts : List (List Char)}
    (hlarge : limit < byteLength (joinParts (levelled t i parts))) :
    (∃ n m, 2 ≤ n ∧ m < parts.length ∧
        cutTo 1 limit (levelled t i parts) = levelled n (m + 1) parts ∧
        limit < byteLength (joinParts (levelled n m parts)) ∧
        byteLength (joinParts (levelled n (m + 1) parts)) ≤ limit) ∨
      cutTo 1 limit (levelled t i parts) = parts.map (List.take 1) ∧
        limit < byteLength (joinParts (parts.map (List.take 1))) := by
  generalize hparts : levelled t i parts = current at hlarge ⊢
  -- the induction is on the cuts; what is current always stands at some level of at least two
  induction current using cutTo.induct 1 limit generalizing t i with
  | case1 current hcut ih =>
    obtain ⟨m, hm, hsame, hnext⟩ :=
      cutFirst_longest_levelled (congrArg longestLength hparts) (by omega)
    rw [hparts] at hsame hnext
    rw [cutTo, if_pos hcut]
    by_cases hfits : byteLength (joinParts (levelled (longestLength current) (m + 1) parts)) ≤ limit
    · refine .inl ⟨_, m, hcut.2, hm, ?_, hsame ▸ hlarge, hfits⟩
      rw [hnext, cutTo, if_neg (by omega)]
    · exact ih hcut.2 hnext.symm (by rw [hnext]; omega)
  | case2 current hcut =>
    have hshort : ∀ p ∈ levelled t i parts, p.length ≤ 1 := by
      intro p hp
      rw [hparts] at hp
      have := length_le_longestLength hp
      omega
    have hone : current = parts.map (List.take 1) := by
      rw [← hparts, levelled_eq_of_length_le (by omega) hshort, levelled_zero]
    rw [cutTo, if_neg hcut]
    exact .inr ⟨hone, hone ▸ hlarge⟩

/-! ### The order of the levels -/

theorem eq_of_isPrefix_of_byteLength_eq {p q : List Char} (h : p <+: q)
    (hsize : byteLength p = byteLength q) : p = q := by
  obtain ⟨r, rfl⟩ := h
  cases r with
  | nil => rw [List.append_nil]
  | cons c r =>
    have hpos := c.utf8Size_pos
    rw [byteLength_append, byteLength_cons] at hsize
    omega

theorem joinParts_cons_cons (p q : List Char) (rest : List (List Char)) :
    joinParts (p :: q :: rest) = p ++ '_' :: joinParts (q :: rest) := by
  simp [joinParts]

/-- A name of shorter segments is shorter, unless the segments are the same. -/
theorem byteLength_joinParts_le {ps qs : List (List Char)} (h : List.Forall₂ (· <+: ·) ps qs) :
    byteLength (joinParts ps) ≤ byteLength (joinParts qs) ∧
      (byteLength (joinParts ps) = byteLength (joinParts qs) → ps = qs) := by
  induction h with
  | nil => exact ⟨Nat.le_refl _, fun _ => rfl⟩
  | cons hp hrest ih =>
    have hle := byteLength_le_of_isPrefix hp
    cases hrest with
    | nil =>
      simp only [joinParts, List.intercalate_singleton]
      exact ⟨hle, fun hsize => by rw [eq_of_isPrefix_of_byteLength_eq hp hsize]⟩
    | cons hq hrest =>
      rw [joinParts_cons_cons, joinParts_cons_cons, byteLength_append, byteLength_append,
        byteLength_cons, byteLength_cons]
      refine ⟨by omega, fun hsize => ?_⟩
      rw [eq_of_isPrefix_of_byteLength_eq hp (by omega), ih.2 (by omega)]

/-- A later level keeps of every segment a beginning of what an earlier one keeps. -/
theorem forall₂_isPrefix_levelled {t i t' i' : Nat} (h : t < t' ∨ t = t' ∧ i' ≤ i)
    (parts : List (List Char)) :
    List.Forall₂ (· <+: ·) (levelled t i parts) (levelled t' i' parts) := by
  induction parts generalizing i i' with
  | nil => rw [levelled_nil, levelled_nil]; exact .nil
  | cons p rest ih =>
    cases i with
    | zero =>
      cases i' with
      | zero =>
        rw [levelled_zero_cons, levelled_zero_cons]
        exact .cons (List.take_prefix_take_left (by omega)) (ih (by omega))
      | succ i' =>
        rw [levelled_zero_cons, levelled_succ_cons]
        exact .cons (List.take_prefix_take_left (by omega)) (ih (by omega))
    | succ i =>
      cases i' with
      | zero =>
        rw [levelled_succ_cons, levelled_zero_cons]
        exact .cons (List.take_prefix_take_left (by omega)) (ih (by omega))
      | succ i' =>
        rw [levelled_succ_cons, levelled_succ_cons]
        exact .cons (List.take_prefix_take_left (by omega)) (ih (by omega))

/-- How far a name of `count` segments is cut: the first `narrowed` segments keep one character less
than the `width` that the others keep. -/
structure Level (count : Nat) where
  width : Nat
  narrowed : Nat
  two_le_width : 2 ≤ width
  narrowed_le : narrowed ≤ count

namespace Level

variable {count : Nat}

/-- The levels in the order in which characters are lost. -/
def Before (earlier later : Level count) : Prop :=
  later.width < earlier.width ∨
    later.width = earlier.width ∧ earlier.narrowed < later.narrowed

/-- What a level leaves of a name, given by its segments. -/
def cut (parts : List (List Char)) (l : Level count) : List Char :=
  joinParts (levelled l.width l.narrowed parts)

theorem byteLength_cut_le (parts : List (List Char)) {earlier later : Level count}
    (h : ¬later.Before earlier) :
    byteLength (later.cut parts) ≤ byteLength (earlier.cut parts) ∧
      (byteLength (later.cut parts) = byteLength (earlier.cut parts) →
        later.cut parts = earlier.cut parts) := by
  have horder : later.width < earlier.width ∨
      later.width = earlier.width ∧ earlier.narrowed ≤ later.narrowed := by
    rw [Before] at h
    omega
  have hle := byteLength_joinParts_le (forall₂_isPrefix_levelled horder parts)
  exact ⟨hle.1, fun hsize => congrArg joinParts (hle.2 hsize)⟩

/-- The first level within the limit: none before it is, and none within the limit leaves more of the
name. -/
structure FirstWithin (limit : Nat) (parts : List (List Char)) (l : Level count) : Prop where
  fits : byteLength (l.cut parts) ≤ limit
  first : ∀ other : Level count, other.Before l → limit < byteLength (other.cut parts)
  longest : ∀ other : Level count, byteLength (other.cut parts) ≤ limit →
    byteLength (other.cut parts) ≤ byteLength (l.cut parts) ∧
      (byteLength (other.cut parts) = byteLength (l.cut parts) → other.cut parts = l.cut parts)

/-- What comes first is longest. -/
theorem firstWithin_of_first {limit : Nat} {parts : List (List Char)} {l : Level count}
    (hfits : byteLength (l.cut parts) ≤ limit)
    (hfirst : ∀ other : Level count, other.Before l → limit < byteLength (other.cut parts)) :
    l.FirstWithin limit parts where
  fits := hfits
  first := hfirst
  longest other hother :=
    byteLength_cut_le parts fun h => absurd (hfirst other h) (Nat.not_lt.mpr hother)

/-- The last level, with one character for each segment. -/
def last (count : Nat) : Level count :=
  ⟨2, count, Nat.le_refl _, Nat.le_refl _⟩

theorem not_last_before (l : Level count) : ¬(last count).Before l := by
  have := l.two_le_width
  have := l.narrowed_le
  simp only [Before, last]
  omega

theorem cut_last (parts : List (List Char)) :
    (last parts.length).cut parts = joinParts (parts.map (List.take 1)) := by
  simp [cut, last, levelled]

end Level

/-! ### The name cut off -/

/-- The longest beginning of a text that is within the limit. -/
structure LongestWithin (limit : Nat) (cs beginning : List Char) : Prop where
  begins : beginning <+: cs
  fits : byteLength beginning ≤ limit
  longest : ∀ other, other <+: cs → byteLength other ≤ limit → other <+: beginning

theorem longestWithin_takeBytes (limit : Nat) (cs : List Char) :
    LongestWithin limit cs (takeBytes limit cs) := by
  refine ⟨?_, byteLength_takeBytes_le limit cs, ?_⟩
  · induction cs generalizing limit with
    | nil => exact List.nil_prefix
    | cons c cs ih =>
      rw [takeBytes]
      split
      · exact List.cons_prefix_cons.mpr ⟨rfl, ih _⟩
      · exact List.nil_prefix
  · intro other hother hsize
    induction cs generalizing limit other with
    | nil => exact hother
    | cons c cs ih =>
      cases other with
      | nil => exact List.nil_prefix
      | cons d other =>
        obtain ⟨rfl, hrest⟩ := List.cons_prefix_cons.mp hother
        rw [byteLength_cons] at hsize
        rw [takeBytes, if_pos (by omega)]
        exact List.cons_prefix_cons.mpr ⟨rfl, ih _ other hrest (by omega)⟩

/-- Only underscores are dropped, and all at the end are. -/
theorem exists_append_underscores (cs : List Char) :
    (∃ n, cs = dropUnderscores cs ++ List.replicate n '_') ∧
      (dropUnderscores cs).getLast? ≠ some '_' := by
  constructor
  · refine ⟨(cs.reverse.takeWhile (· = '_')).length, ?_⟩
    have hall : cs.reverse.takeWhile (· = '_')
        = List.replicate (cs.reverse.takeWhile (· = '_')).length '_' := by
      refine List.eq_replicate_iff.mpr ⟨rfl, fun c hc => ?_⟩
      simpa using List.mem_takeWhile_imp hc
    have hsplit := List.takeWhile_append_dropWhile (p := fun c => decide (c = '_')) (l := cs.reverse)
    rw [hall] at hsplit
    rw [dropUnderscores, ← List.reverse_replicate, ← List.reverse_append, hsplit,
      List.reverse_reverse]
  · rw [dropUnderscores, List.getLast?_reverse]
    intro hhead
    have hnot := List.head?_dropWhile_not (fun c => decide (c = '_')) cs.reverse
    rw [hhead] at hnot
    simp at hnot

/-! ### The closed form -/

theorem squeeze_eq (limit : Nat) (cs : List Char) :
    squeeze limit cs = joinParts (cutTo 1 limit (cs.splitOn '_')) := by
  rw [squeeze, cutTo_cutTo (by omega) (Nat.le_refl limit)]

theorem joinParts_splitOn (cs : List Char) : joinParts (cs.splitOn '_') = cs :=
  List.intercalate_splitOn '_'

/-- A level that cuts nothing. -/
theorem exists_levelled_eq (parts : List (List Char)) :
    ∃ t, 2 ≤ t ∧ levelled t 0 parts = parts := by
  refine ⟨longestLength parts + 2, by omega, ?_⟩
  rw [levelled_zero]
  refine (List.map_congr_left fun p hp => ?_).trans (List.map_id parts)
  have := length_le_longestLength hp
  exact List.take_of_length_le (by omega)

/-- What is shortened is cut segment by segment, and what is still too long is cut off. -/
theorem shorten_eq (limit : Nat) (name : String) :
    shorten limit name = String.ofList (
      if byteLength (joinParts (cutTo 1 limit (name.toList.splitOn '_'))) ≤ limit then
        joinParts (cutTo 1 limit (name.toList.splitOn '_'))
      else dropUnderscores (takeBytes limit (joinParts (cutTo 1 limit (name.toList.splitOn '_'))))) := by
  rw [shorten, squeeze_eq]

/-- **Where the cuts of a name end**: at the first level within the limit, or at one character for
each segment when no level is within it. -/
theorem cutTo_firstWithin {limit : Nat} {parts : List (List Char)}
    (hlarge : limit < byteLength (joinParts parts)) :
    (∃ l : Level parts.length, l.FirstWithin limit parts ∧
        joinParts (cutTo 1 limit parts) = l.cut parts) ∨
      cutTo 1 limit parts = parts.map (List.take 1) ∧
        limit < byteLength (joinParts (parts.map (List.take 1))) := by
  obtain ⟨t, ht, hwhole⟩ := exists_levelled_eq parts
  have hcases := cutTo_levelled ht (hwhole.symm ▸ hlarge)
  rw [hwhole] at hcases
  obtain ⟨n, m, hn, hm, hcut, hlast, hfits⟩ | hone := hcases
  · -- the level before the one that the cuts end at does not fit, and none before that one does
    let l : Level parts.length := ⟨n, m + 1, hn, hm⟩
    refine .inl ⟨l, Level.firstWithin_of_first hfits fun other h => ?_, by rw [hcut]; rfl⟩
    have horder : ¬(⟨n, m, hn, by omega⟩ : Level parts.length).Before other := by
      simp only [Level.Before, l] at h ⊢
      omega
    exact Nat.lt_of_lt_of_le hlast (Level.byteLength_cut_le parts horder).1
  · exact .inr hone

/-- **What a shortened name is.**  A name within the limit stays as it is.  Otherwise, if some level
fits, the name is cut to the first that does, which is the longest.  Otherwise every segment is cut
to one character, and what fits of the name loses the underscores at its end. -/
theorem shorten_closed_form (limit : Nat) (name : String) :
    let parts := name.toList.splitOn '_'
    (name.utf8ByteSize ≤ limit → shorten limit name = name) ∧
    (limit < name.utf8ByteSize →
      (∃ l : Level parts.length, byteLength (l.cut parts) ≤ limit) →
      ∃ l : Level parts.length, l.FirstWithin limit parts ∧
        shorten limit name = String.ofList (l.cut parts)) ∧
    (limit < name.utf8ByteSize →
      (∀ l : Level parts.length, limit < byteLength (l.cut parts)) →
      ∃ beginning kept n, LongestWithin limit (joinParts (parts.map (List.take 1))) beginning ∧
        beginning = kept ++ List.replicate n '_' ∧ kept.getLast? ≠ some '_' ∧
        shorten limit name = String.ofList kept) := by
  intro parts
  have hjoin : joinParts parts = name.toList := joinParts_splitOn name.toList
  have hsize : name.utf8ByteSize = byteLength (joinParts parts) := by
    rw [hjoin, ← utf8ByteSize_ofList, String.ofList_toList]
  rw [shorten_eq, hsize]
  refine ⟨fun hfits => ?_, fun hlarge hlevel => ?_, fun hlarge hnone => ?_⟩
  · have hstay : cutTo 1 limit parts = parts := by rw [cutTo, if_neg (by omega)]
    rw [hstay, if_pos hfits, hjoin, String.ofList_toList]
  · obtain ⟨l, hfirst, hcut⟩ | ⟨-, hone⟩ := cutTo_firstWithin hlarge
    · exact ⟨l, hfirst, by rw [hcut, if_pos hfirst.fits]⟩
    · obtain ⟨l, hl⟩ := hlevel
      have hle := (Level.byteLength_cut_le parts l.not_last_before).1
      rw [Level.cut_last] at hle
      omega
  · obtain ⟨l, hfirst, -⟩ | ⟨hcut, hone⟩ := cutTo_firstWithin hlarge
    · exact absurd (hnone l) (Nat.not_lt.mpr hfirst.fits)
    · obtain ⟨⟨n, hsplit⟩, hend⟩ :=
        exists_append_underscores (takeBytes limit (joinParts (parts.map (List.take 1))))
      rw [hcut, if_neg (by omega)]
      exact ⟨_, _, n, longestWithin_takeBytes _ _, hsplit, hend, rfl⟩

/-- A name that fits, one that is cut to a level, and one that is cut off. -/
theorem shorten_closed_form_each :
    shorten 11 "ab_cd_ef_gh" = "ab_cd_ef_gh" ∧
      (let parts := "ab_cd_ef_gh".toList.splitOn '_'
      ∃ l : Level parts.length, l.FirstWithin 8 parts ∧
        shorten 8 "ab_cd_ef_gh" = String.ofList (l.cut parts)) ∧
      ∃ beginning kept n, LongestWithin 4 "a_b_c_d_e_f".toList beginning ∧
        beginning = kept ++ List.replicate n '_' ∧ kept.getLast? ≠ some '_' ∧
        shorten 4 "a_b_c_d_e_f" = String.ofList kept := by
  refine ⟨(shorten_closed_form 11 "ab_cd_ef_gh").1 (by decide +kernel), ?_, ?_⟩
  · exact (shorten_closed_form 8 "ab_cd_ef_gh").2.1 (by decide +kernel)
      ⟨⟨2, 3, by decide, by decide +kernel⟩, by decide +kernel⟩
  · refine (shorten_closed_form 4 "a_b_c_d_e_f").2.2 (by decide +kernel) fun l => ?_
    refine Nat.lt_of_lt_of_le ?_ (Level.byteLength_cut_le _ l.not_last_before).1
    decide +kernel

end OracleSql.Identifier
