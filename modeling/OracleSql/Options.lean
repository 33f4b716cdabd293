/-!
# Named values in order

Lists of pairs in increasing order of their names, each name once: `insertSorted` puts a pair into
its place, over an earlier one of the same name.  `Options` is such a list of texts together with
the proof that it is in order, so that two of them are equal as soon as they hold the same pairs.
-/

namespace OracleSql

/-- Put a pair into a list that is in increasing order of its names, in place of one of the same
name. -/
def insertSorted {α : Type} (name : String) (value : α) : List (String × α) → List (String × α)
  | [] => [(name, value)]
  | (n, v) :: rest =>
    if name < n then (name, value) :: (n, v) :: rest
    else if name = n then (name, value) :: rest
    else (n, v) :: insertSorted name value rest

/-- Increasing order of names. -/
def IsSorted {α : Type} (pairs : List (String × α)) : Prop :=
  pairs.Pairwise fun p q => p.1 < q.1

theorem mem_insertSorted {α : Type} {name : String} {value : α} {p : String × α} :
    ∀ {pairs : List (String × α)}, p ∈ insertSorted name value pairs →
      p = (name, value) ∨ p ∈ pairs := by
  intro pairs
  induction pairs with
  | nil => intro h; simpa [insertSorted] using h
  | cons q rest ih =>
    intro h
    simp only [insertSorted] at h
    split at h
    · simpa using h
    · split at h
      · rcases List.mem_cons.1 h with h | h
        · exact .inl h
        · exact .inr (List.mem_cons_of_mem _ h)
      · rcases List.mem_cons.1 h with h | h
        · exact .inr (h ▸ List.mem_cons_self)
        · exact (ih h).imp id (List.mem_cons_of_mem _)

/-- **Insertion keeps the order.** -/
theorem isSorted_insertSorted {α : Type} (name : String) (value : α) :
    ∀ {pairs : List (String × α)}, IsSorted pairs → IsSorted (insertSorted name value pairs) := by
  intro pairs
  induction pairs with
  | nil => intro _; simp [insertSorted, IsSorted]
  | cons q rest ih =>
    intro h
    obtain ⟨hq, hrest⟩ := List.pairwise_cons.1 h
    simp only [insertSorted]
    split
    · rename_i hlt
      refine List.pairwise_cons.2 ⟨?_, h⟩
      intro p hp
      rcases List.mem_cons.1 hp with rfl | hp
      · exact hlt
      · exact String.lt_trans hlt (hq p hp)
    · rename_i hnlt
      split
      · rename_i heq
        subst heq
        exact List.pairwise_cons.2 ⟨fun p hp => hq p hp, hrest⟩
      · rename_i hne
        refine List.pairwise_cons.2 ⟨?_, ih hrest⟩
        intro p hp
        rcases mem_insertSorted hp with rfl | hp
        · exact Std.lt_of_le_of_ne (String.not_lt.1 hnlt) (Ne.symm hne)
        · exact hq p hp

/-- A pair whose name is above the others is put at the end. -/
theorem insertSorted_of_forall_lt {α : Type} {name : String} (value : α) :
    ∀ {pairs : List (String × α)}, (∀ p ∈ pairs, p.1 < name) →
      insertSorted name value pairs = pairs ++ [(name, value)] := by
  intro pairs
  induction pairs with
  | nil => intro _; rfl
  | cons q rest ih =>
    intro h
    obtain ⟨hq, hrest⟩ := List.forall_mem_cons.1 h
    obtain ⟨n, v⟩ := q
    rw [insertSorted, if_neg (String.lt_asymm hq), if_neg (String.ne_of_lt hq).symm, ih hrest]
    rfl

/-- Texts by name, in increasing order of the names. -/
structure Options where
  entries : List (String × String)
  isSorted : IsSorted entries
deriving DecidableEq

namespace Options

def empty : Options := ⟨[], List.Pairwise.nil⟩

def set (o : Options) (name value : String) : Options :=
  ⟨insertSorted name value o.entries, isSorted_insertSorted name value o.isSorted⟩

/-- Set options one after another. -/
def ofList (pairs : List (String × String)) : Options :=
  pairs.foldl (fun o p => o.set p.1 p.2) empty

theorem entries_foldl_set {pairs : List (String × String)} :
    ∀ {o : Options}, IsSorted (o.entries ++ pairs) →
      (pairs.foldl (fun o p => o.set p.1 p.2) o).entries = o.entries ++ pairs := by
  induction pairs with
  | nil => intro o _; simp
  | cons p rest ih =>
    intro o h
    have hlt : ∀ q ∈ o.entries, q.1 < p.1 := fun q hq =>
      (List.pairwise_append.1 h).2.2 q hq p List.mem_cons_self
    have hset : (o.set p.1 p.2).entries = o.entries ++ [p] :=
      insertSorted_of_forall_lt p.2 hlt
    have hsorted : IsSorted ((o.set p.1 p.2).entries ++ rest) := by
      rw [hset, List.append_assoc]
      exact h
    rw [List.foldl_cons, ih hsorted, hset, List.append_assoc]
    rfl

theorem ofList_entries (o : Options) : ofList o.entries = o := by
  have hsorted : IsSorted (empty.entries ++ o.entries) := o.isSorted
  have hentries : (ofList o.entries).entries = o.entries := entries_foldl_set hsorted
  obtain ⟨entries, _⟩ := o
  exact (Options.mk.injEq ..).mpr hentries

end Options

end OracleSql
