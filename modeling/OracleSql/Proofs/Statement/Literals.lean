import Mathlib.Algebra.GroupWithZero.Nat
import OracleSql.Literal
import OracleSql.Proofs.Text.Reading

/-!
# String literals in a statement

How a statement is read: a literal stands in single quotes and runs to the next quote that is not
written twice, and a quoted identifier stands in double quotes in the same way.  `readQuoted` reads
what stands in quotes, and `literals?` cuts a whole statement and keeps the literals.

A text may be put between quotes as it stands only when it holds no quote of its own
(`literals?_enclosed_iff`).  That it is needed is counted: a literal takes two quotes and two more
for each quote in it (`sum_quotes_le`), and a text brings each of its quotes only once.
-/

namespace OracleSql

namespace Text

/-! ### What stands in quotes -/

/-- **What stands in quotes**, read behind the first of them: the text, in which a quote that is
written twice stands for one, and what follows the closing quote. -/
def readQuoted (q : Char) : List Char → Option (List Char × List Char)
  | [] => none
  | [c] => if c = q then some ([], []) else none
  | c :: d :: cs =>
    if c = q then
      if d = q then (readQuoted q cs).map fun (text, rest) => (q :: text, rest)
      else some ([], d :: cs)
    else (readQuoted q (d :: cs)).map fun (text, rest) => (c :: text, rest)

/-- What is read has been written with its quotes doubled, and no further quote follows. -/
theorem eq_of_readQuoted {q : Char} {cs text rest : List Char}
    (h : readQuoted q cs = some (text, rest)) :
    cs = doubled q text ++ q :: rest ∧ rest.head? ≠ some q := by
  fun_induction readQuoted q cs generalizing text with
  | case1 => cases h
  | case2 =>
    cases h
    exact ⟨rfl, nofun⟩
  | case3 => cases h
  | case4 cs ih =>
    obtain ⟨⟨text, rest⟩, hread, heq⟩ := Option.map_eq_some_iff.mp h
    cases heq
    obtain ⟨hcs, hrest⟩ := ih hread
    refine ⟨?_, hrest⟩
    rw [hcs, doubled, if_pos rfl]
    rfl
  | case5 d cs hd =>
    cases h
    refine ⟨rfl, ?_⟩
    rintro ⟨⟩
    exact hd rfl
  | case6 c d cs hc ih =>
    obtain ⟨⟨text, rest⟩, hread, heq⟩ := Option.map_eq_some_iff.mp h
    cases heq
    obtain ⟨hcs, hrest⟩ := ih hread
    refine ⟨?_, hrest⟩
    rw [hcs, doubled, if_neg hc]
    rfl

theorem readQuoted_cons_of_ne {q c : Char} (h : c ≠ q) {cs : List Char} (hcs : cs ≠ []) :
    readQuoted q (c :: cs) = (readQuoted q cs).map fun (text, rest) => (c :: text, rest) := by
  obtain ⟨d, cs, rfl⟩ := List.exists_cons_of_ne_nil hcs
  rw [readQuoted, if_neg h]

/-- **Reading undoes writing**, whatever follows the closing quote but another one. -/
theorem readQuoted_doubled {q : Char} (text : List Char) {rest : List Char}
    (h : rest.head? ≠ some q) : readQuoted q (doubled q text ++ q :: rest) = some (text, rest) := by
  induction text with
  | nil =>
    cases rest with
    | nil => exact if_pos rfl
    | cons d rest =>
      have hd : d ≠ q := fun hd => h (congrArg some hd)
      rw [doubled, List.nil_append, readQuoted, if_pos rfl, if_neg hd]
  | cons c text ih =>
    by_cases hc : c = q
    · rw [doubled, if_pos hc, List.cons_append, List.cons_append, readQuoted, if_pos rfl,
        if_pos rfl, ih, hc]
      rfl
    · rw [doubled, if_neg hc, List.cons_append, readQuoted_cons_of_ne hc (by simp), ih]
      rfl

theorem length_lt_of_readQuoted {q : Char} {cs text rest : List Char}
    (h : readQuoted q cs = some (text, rest)) : rest.length < cs.length := by
  rw [(eq_of_readQuoted h).1, List.length_append, List.length_cons]
  omega

end Text

/-! ### The literals of a statement -/

/-- Whether a character opens a literal or a quoted identifier. -/
def opensQuotes (c : Char) : Bool :=
  c == '\'' || c == '"'

/-- The literals of a text that starts outside quotes. -/
def literalsFrom? (cs : List Char) : Option (List (List Char)) :=
  match cs with
  | [] => some []
  | c :: cs =>
    if opensQuotes c then
      match h : Text.readQuoted c cs with
      | none => none
      | some (text, rest) =>
        have := Text.length_lt_of_readQuoted h
        (literalsFrom? rest).map fun texts => if c = '\'' then text :: texts else texts
    else literalsFrom? cs
termination_by cs.length

/-- Quotes are read up to their end, and what follows is read from there. -/
theorem literalsFrom?_opening {q : Char} (h : opensQuotes q = true) (cs : List Char) :
    literalsFrom? (q :: cs) = (Text.readQuoted q cs).bind fun read =>
      (literalsFrom? read.2).map fun texts => if q = '\'' then read.1 :: texts else texts := by
  rw [literalsFrom?, if_pos h]
  split
  · next hread =>
    conv_rhs => rw [hread]
    rfl
  · next hread =>
    conv_rhs => rw [hread]
    rfl

/-- **The literals of a statement**, in order; none when quotes are left open. -/
def literals? (sql : String) : Option (List String) :=
  (literalsFrom? sql.toList).map fun texts => texts.map String.ofList

example : literals? "begin f('it''s', \"a'b\"); end;" = some ["it's"] := by decide +kernel
example : literals? "begin f('it's'); end;" = none := by decide +kernel

/-! ### Reading part by part -/

/-- A part of a statement that closes its quotes, and the literals in it. -/
def Reads (sql : String) (texts : List String) : Prop :=
  ∀ rest, literalsFrom? (sql.toList ++ rest)
    = (literalsFrom? rest).map (texts.map String.toList ++ ·)

/-- A text without quotes of either kind. -/
def Unquoted (s : String) : Prop :=
  ∀ c ∈ s.toList, opensQuotes c = false

instance (s : String) : Decidable (Unquoted s) :=
  List.decidableBAll _ _

theorem unquoted_append {s t : String} : Unquoted (s ++ t) ↔ Unquoted s ∧ Unquoted t := by
  rw [Unquoted, String.toList_append, List.forall_mem_append]
  rfl

namespace Reads

variable {s t : String} {texts texts' : List String}

theorem literals?_eq (h : Reads s texts) : literals? s = some texts := by
  have hs := h []
  rw [List.append_nil, literalsFrom?, Option.map_some, List.append_nil] at hs
  rw [literals?, hs, Option.map_some, List.map_map]
  simp [Function.comp_def]

theorem of_unquoted (h : Unquoted s) : Reads s [] := by
  intro rest
  unfold Unquoted at h
  generalize s.toList = cs at h
  induction cs with
  | nil => simp
  | cons c cs ih =>
    obtain ⟨hc, hcs⟩ := List.forall_mem_cons.mp h
    rw [List.cons_append, literalsFrom?, if_neg (by rw [hc]; exact Bool.false_ne_true), ih hcs]

theorem append (hs : Reads s texts) (ht : Reads t texts') : Reads (s ++ t) (texts ++ texts') := by
  intro rest
  rw [String.toList_append, List.append_assoc, hs, ht, Option.map_map, List.map_append]
  simp [Function.comp_def]

theorem intercalate {α : Type} {separator : String} {f g : α → String}
    (hseparator : Unquoted separator) {xs : List α} (h : ∀ x ∈ xs, Reads (f x) [g x]) :
    Reads (separator.intercalate (xs.map f)) (xs.map g) := by
  induction xs with
  | nil =>
    rw [List.map_nil, String.intercalate_nil]
    exact of_unquoted (by decide)
  | cons x xs ih =>
    obtain ⟨hx, hxs⟩ := List.forall_mem_cons.mp h
    cases xs with
    | nil => exact hx
    | cons y xs =>
      rw [List.map_cons, List.map_cons, String.intercalate_cons_cons]
      exact (hx.append (of_unquoted hseparator)).append (ih hxs)

/-- **A literal that has been written is read back**, behind one text and before another that goes
on without a quote. -/
theorem enclose {before after : String} (hbefore : Unquoted before) (hafter : Unquoted after)
    (hne : after ≠ "") (text : String) : Reads (before ++ quote text ++ after) [text] := by
  intro rest
  obtain ⟨c, cs, hcs⟩ := List.exists_cons_of_ne_nil (mt String.toList_eq_nil_iff.mp hne)
  have hc : c ≠ '\'' := by
    rintro rfl
    exact absurd (hafter '\'' (hcs ▸ List.mem_cons_self)) (by decide)
  have hopen : (before ++ quote text ++ after).toList ++ rest
      = before.toList ++ '\'' :: (Text.doubled '\'' text.toList
        ++ '\'' :: (after.toList ++ rest)) := by
    simp [quote, Text.double]
  have hread : Text.readQuoted '\''
        (Text.doubled '\'' text.toList ++ '\'' :: (after.toList ++ rest))
      = some (text.toList, after.toList ++ rest) :=
    Text.readQuoted_doubled _ (by rw [hcs]; simpa using hc)
  rw [hopen, of_unquoted hbefore, literalsFrom?_opening (by decide), hread, Option.bind_some,
    of_unquoted hafter]
  cases literalsFrom? rest <;> rfl

theorem literals?_append_quote (h : Reads s texts) (text : String) :
    literals? (s ++ quote text) = some (texts ++ [text]) := by
  have hquote : (quote text).toList = '\'' :: (Text.doubled '\'' text.toList ++ ['\'']) := by
    simp [quote, Text.double]
  have hread : Text.readQuoted '\'' (Text.doubled '\'' text.toList ++ ['\''])
      = some (text.toList, []) := Text.readQuoted_doubled _ nofun
  have hend : literalsFrom? [] = some [] := by rw [literalsFrom?.eq_def]
  have hlast : literalsFrom? (quote text).toList = some [text.toList] := by
    rw [hquote, literalsFrom?_opening (by decide), hread, Option.bind_some, hend]
    rfl
  rw [literals?, String.toList_append, h, hlast, Option.map_some, Option.map_some, List.map_append,
    List.map_map]
  simp [Function.comp_def]

end Reads

/-! ### Counting the quotes -/

def quotes (s : String) : Nat :=
  s.toList.count '\''

theorem quotes_eq_zero {s : String} : quotes s = 0 ↔ QuoteFree s :=
  List.count_eq_zero

@[simp] theorem quotes_append (s t : String) : quotes (s ++ t) = quotes s + quotes t := by
  simp [quotes]

theorem quotes_intercalate {separator : String} (h : quotes separator = 0) (parts : List String) :
    quotes (separator.intercalate parts) = (parts.map quotes).sum := by
  induction parts with
  | nil => rfl
  | cons s parts ih =>
    cases parts with
    | nil => simp
    | cons t parts =>
      rw [String.intercalate_cons_cons, quotes_append, quotes_append, h, ih]
      simp

theorem count_doubled (q : Char) (cs : List Char) :
    (Text.doubled q cs).count q = 2 * cs.count q := by
  induction cs with
  | nil => rfl
  | cons c cs ih =>
    by_cases hc : c = q
    · rw [Text.doubled, if_pos hc, hc]
      simp only [List.count_cons_self, ih]
      omega
    · rw [Text.doubled, if_neg hc, List.count_cons_of_ne hc, List.count_cons_of_ne hc, ih]

/-- **Every literal takes two quotes of the statement, and two more for each quote in it.** -/
theorem sum_quotes_le {sql : String} {texts : List String} (h : literals? sql = some texts) :
    (texts.map fun text => 2 * quotes text + 2).sum ≤ quotes sql := by
  obtain ⟨found, hfound, rfl⟩ := Option.map_eq_some_iff.mp h
  rw [List.map_map, quotes]
  have hquotes (text : List Char) : quotes (String.ofList text) = text.count '\'' := by
    rw [quotes, String.toList_ofList]
  simp only [Function.comp_def, hquotes]
  clear h hquotes
  generalize sql.toList = cs at hfound
  -- Each literal is counted off with its own two quotes; a quoted identifier is only passed over.
  fun_induction literalsFrom? cs generalizing found with
  | case1 =>
    cases hfound
    exact Nat.le_refl 0
  | case2 => cases hfound
  | case3 c cs hc text rest hread _ ih =>
    obtain ⟨others, hothers, rfl⟩ := Option.map_eq_some_iff.mp hfound
    have hrest := ih _ hothers
    rw [(Text.eq_of_readQuoted hread).1, List.count_cons, List.count_append, List.count_cons]
    split
    · next hquote =>
      rw [hquote, count_doubled, List.map_cons, List.sum_cons, if_pos (beq_self_eq_true _)]
      omega
    · exact Nat.le_trans hrest (by omega)
  | case4 c cs hc ih =>
    exact Nat.le_trans (ih _ hfound) (List.count_le_count_cons ..)

/-! ### Texts between quotes -/

theorem doubled_eq_self {q : Char} {cs : List Char} (h : q ∉ cs) : Text.doubled q cs = cs := by
  induction cs with
  | nil => rfl
  | cons c cs ih =>
    rw [List.mem_cons, not_or] at h
    rw [Text.doubled, if_neg (Ne.symm h.1), ih h.2]

theorem quote_of_quoteFree {s : String} (h : QuoteFree s) : quote s = "'" ++ s ++ "'" := by
  rw [quote, Text.double, doubled_eq_self h, String.ofList_toList]

/-- **A text can stand between quotes as it is exactly when it holds none.** -/
theorem literals?_enclosed_iff {before after start rest : String} (hbefore : before = start ++ "'")
    (hafter : after = "'" ++ rest) (hstart : Unquoted start) (hrest : Unquoted rest) (hne : rest ≠ "")
    (text : String) : literals? (before ++ text ++ after) = some [text] ↔ QuoteFree text := by
  constructor
  · intro h
    have hstart : quotes start = 0 := List.count_eq_zero.mpr fun hmem =>
      absurd (hstart _ hmem) (by decide)
    have hrest : quotes rest = 0 := List.count_eq_zero.mpr fun hmem =>
      absurd (hrest _ hmem) (by decide)
    have hmark : quotes "'" = 1 := by decide
    have hsum := sum_quotes_le h
    rw [hbefore, hafter, List.map_singleton, List.sum_singleton] at hsum
    simp only [quotes_append, hstart, hrest, hmark] at hsum
    exact quotes_eq_zero.mp (by omega)
  · intro h
    have hsql : before ++ text ++ after = start ++ quote text ++ rest := by
      rw [quote_of_quoteFree h, hbefore, hafter]
      simp only [String.append_assoc]
    rw [hsql]
    exact (Reads.enclose hstart hrest hne text).literals?_eq

end OracleSql
