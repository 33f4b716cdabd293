import OracleSql.Proofs.Condition.Names
import OracleSql.Proofs.Query.Texts

/-!
# Parentheses in a text

How deep a text goes into parentheses and out of them again can be said character by character
(`Nests`), and so of a text that is put together at any place, also within a word.  A text whose
parentheses are balanced can be read between parentheses, whatever its words are
(`Balanced.exists_inner`).
-/

namespace OracleSql

/-- The place and the number of open parentheses after a text that starts in a given place with
some of them open; `none` when one is closed that is not open. -/
def depthFrom (q : Quoting) (d : Nat) : List Char → Option (Quoting × Nat)
  | [] => some (q, d)
  | c :: cs =>
    if q = .outside ∧ c = '(' then depthFrom q (d + 1) cs
    else if q = .outside ∧ c = ')' then
      if d = 0 then none else depthFrom q (d - 1) cs
    else depthFrom (q.step c) d cs

/-- The text leads from within `k` parentheses to within `l` of them, and closes its quotes. -/
def Nests (k l : Nat) (s : String) : Prop :=
  depthFrom .outside k s.toList = some (.outside, l)

instance (k l : Nat) (s : String) : Decidable (Nests k l s) :=
  inferInstanceAs (Decidable (_ = _))

/-- **Every parenthesis of the text is closed in it.** -/
abbrev Balanced (s : String) : Prop :=
  Nests 0 0 s

/-! ### One text after another -/

theorem depthFrom_append (q : Quoting) (d : Nat) (as bs : List Char) :
    depthFrom q d (as ++ bs) = (depthFrom q d as).bind fun p => depthFrom p.1 p.2 bs := by
  induction as generalizing q d with
  | nil => rfl
  | cons a as ih =>
    rw [List.cons_append, depthFrom, depthFrom]
    split
    · exact ih _ _
    · split
      · split
        · rfl
        · exact ih _ _
      · exact ih _ _

/-- More open parentheses around a text do not matter to it. -/
theorem depthFrom_add {q q' : Quoting} {k l : Nat} {cs : List Char}
    (h : depthFrom q k cs = some (q', l)) (d : Nat) :
    depthFrom q (k + d) cs = some (q', l + d) := by
  induction cs generalizing q k with
  | nil =>
    rw [depthFrom, Option.some.injEq, Prod.mk.injEq] at h
    rw [depthFrom, h.1, h.2]
  | cons c cs ih =>
    rw [depthFrom] at h ⊢
    split at h
    · next hopen =>
      rw [if_pos hopen, Nat.add_right_comm]
      exact ih h
    · next hopen =>
      rw [if_neg hopen]
      split at h
      · next hclose =>
        rw [if_pos hclose]
        split at h
        · cases h
        · next hk =>
          have hsub : k + d - 1 = k - 1 + d := by omega
          rw [if_neg (by omega), hsub]
          exact ih h
      · next hclose =>
        rw [if_neg hclose]
        exact ih h

namespace Nests

variable {k l m : Nat} {s t : String}

theorem append (hs : Nests k l s) (ht : Nests l m t) : Nests k m (s ++ t) := by
  rw [Nests, String.toList_append, depthFrom_append, hs]
  exact ht

/-- A text with balanced parentheses may stand within any number of them. -/
theorem within (h : Balanced s) (k : Nat) : Nests k k s := by
  have hadd := depthFrom_add h k
  rwa [Nat.zero_add] at hadd

end Nests

theorem Balanced.composes : Text.Composes Balanced :=
  ⟨by decide, fun _ _ => Nests.append⟩

/-! ### Names -/

theorem isPlain_of_isNameChar {c : Char} (h : isNameChar c = true) : isPlain c = true :=
  forall_isNameChar (by decide +kernel) h

theorem depthFrom_of_isPlain {cs : List Char} (h : ∀ c ∈ cs, isPlain c = true) (q : Quoting)
    (d : Nat) : depthFrom q d cs = some (q, d) := by
  induction cs with
  | nil => rfl
  | cons c cs ih =>
    obtain ⟨hc, hcs⟩ := List.forall_mem_cons.mp h
    have hne : ∀ e : Char, isPlain e = false → c ≠ e := by
      rintro e he rfl
      rw [hc] at he
      cases he
    have hstep : q.step c = q := by
      cases q <;> simp [Quoting.step, hne '\'' (by decide), hne '"' (by decide)]
    rw [depthFrom, if_neg fun hopen => hne '(' (by decide) hopen.2,
      if_neg fun hclose => hne ')' (by decide) hclose.2, hstep]
    exact ih hcs

theorem Balanced.of_plain {s : String} (h : Plain s) : Balanced s :=
  depthFrom_of_isPlain h .outside 0

theorem Balanced.of_dotted {s : String} (h : Dotted s) : Balanced s :=
  .of_plain fun c hc => isPlain_of_isNameChar (h c hc)

theorem Balanced.quoted {s : String} (h : Dotted s) : Balanced ("\"" ++ s ++ "\"") := by
  rw [Balanced, Nests, String.toList_append, String.toList_append, depthFrom_append,
    depthFrom_append]
  have hopen : depthFrom .outside 0 "\"".toList = some (.identifier, 0) := by decide
  rw [hopen, Option.bind_some, depthFrom_of_isPlain fun c hc => isPlain_of_isNameChar (h c hc)]
  decide

theorem Balanced.parentheses {s : String} (h : Balanced s) : Balanced ("(" ++ s ++ ")") := by
  have hopen : Nests 0 1 "(" := by decide
  have hclose : Nests 1 0 ")" := by decide
  exact (hopen.append (h.within 1)).append hclose

theorem balanced_wrapValue (c : Config) {s : String} (h : Dotted s) :
    Balanced (Identifier.wrapValue c s) := by
  rw [Identifier.wrapValue]
  split
  · exact .of_dotted h
  · split
    · exact .quoted h.upper
    · split
      · exact .of_dotted h
      · exact .of_dotted h.upper

/-- The prefixes of a configuration are dotted words, and the table prefix is one word. -/
structure Config.Worded (c : Config) : Prop where
  tablePrefix : OracleSql.Worded c.tablePrefix
  schemaPrefix : ∀ schema ∈ c.schemaPrefix, Dotted schema

/-- **What is written for references is balanced.** -/
theorem Config.Worded.writes {c : Config} (h : c.Worded) :
    Identifier.Writes c (fun ch => isNameChar ch = true) Balanced where
  composes := Balanced.composes
  dot := by decide
  blank := by decide
  as := by decide
  segment _ := balanced_wrapValue c
  tablePrefix := h.tablePrefix.dotted
  schemaPrefix := h.schemaPrefix

/-! ### Balanced texts can be read -/

/-- The number of open parentheses after some tokens. -/
def depthOf (d : Nat) : List Token → Option Nat
  | [] => some d
  | t :: ts =>
    if t = .opening then depthOf (d + 1) ts
    else if t = .closing then
      if d = 0 then none else depthOf (d - 1) ts
    else depthOf d ts

theorem depthOf_of_not_parenthesis {t : Token} (h : t.isParenthesis = false) (d : Nat)
    (ts : List Token) : depthOf d (t :: ts) = depthOf d ts := by
  have hopen : t ≠ .opening := by
    rintro rfl
    cases h
  have hclose : t ≠ .closing := by
    rintro rfl
    cases h
  rw [depthOf, if_neg hopen, if_neg hclose]

theorem depthOf_ofWord (w : List Char) (d : Nat) (ts : List Token) :
    depthOf d (Token.ofWord w ++ ts) = depthOf d ts := by
  rw [Token.ofWord]
  split
  · rfl
  · exact depthOf_of_not_parenthesis rfl d ts

def Lexing.quoting : Lexing → Quoting
  | outside _ => .outside
  | literal _ => .literal
  | quoted _ => .identifier

theorem Lexing.quoting_step (l : Lexing) (c : Char) :
    (l.step c).2.quoting = l.quoting.step c := by
  cases l with
  | outside w =>
    rw [step]
    split
    · next hword =>
      have hliteral : c ≠ '\'' := by
        rintro rfl
        revert hword
        decide
      have hidentifier : c ≠ '"' := by
        rintro rfl
        revert hword
        decide
      simp [quoting, Quoting.step, hliteral, hidentifier]
    · split
      · next hliteral => rw [hliteral]; rfl
      · next hliteral =>
        split
        · next hidentifier => rw [hidentifier]; rfl
        · next hidentifier => simp [quoting, Quoting.step, hliteral, hidentifier]
  | literal s =>
    rw [step]
    split
    · next hliteral => rw [hliteral]; rfl
    · next hliteral => simp [quoting, Quoting.step, hliteral]
  | quoted s =>
    rw [step]
    split
    · next hidentifier => rw [hidentifier]; rfl
    · next hidentifier => simp [quoting, Quoting.step, hidentifier]

/-- Only a parenthesis outside quotes is a token that is a parenthesis. -/
theorem depthOf_step {l : Lexing} {c : Char} (hopen : ¬ (l.quoting = .outside ∧ c = '('))
    (hclose : ¬ (l.quoting = .outside ∧ c = ')')) (d : Nat) (ts : List Token) :
    depthOf d ((l.step c).1 ++ ts) = depthOf d ts := by
  cases l with
  | outside w =>
    have hc : c ≠ '(' ∧ c ≠ ')' := ⟨fun h => hopen ⟨rfl, h⟩, fun h => hclose ⟨rfl, h⟩⟩
    rw [Lexing.step]
    split
    · rfl
    · split
      · exact depthOf_ofWord w d ts
      · split
        · exact depthOf_ofWord w d ts
        · rw [List.append_assoc, depthOf_ofWord, Token.ofSign, if_neg hc.1, if_neg hc.2]
          split
          · rfl
          · exact depthOf_of_not_parenthesis rfl d ts
  | literal s =>
    rw [Lexing.step]
    split
    · exact depthOf_of_not_parenthesis rfl d ts
    · rfl
  | quoted s =>
    rw [Lexing.step]
    split
    · exact depthOf_of_not_parenthesis rfl d ts
    · rfl

/-- **The two scans see the same quotes and the same parentheses.** -/
theorem depthFrom_eq (l : Lexing) (d : Nat) (cs : List Char) :
    depthFrom l.quoting d cs
      = (depthOf d (lexFrom l cs)).map fun e => ((l.after cs).quoting, e) := by
  induction cs generalizing l d with
  | nil =>
    cases l with
    | outside w =>
      have hword := depthOf_ofWord w d []
      rw [List.append_nil] at hword
      rw [lexFrom, Lexing.finish, hword]
      rfl
    | literal s => rfl
    | quoted s => rfl
  | cons c cs ih =>
    have hparenthesis : ∀ w t, (Lexing.outside w).step c = (Token.ofWord w ++ [t], .outside []) →
        lexFrom (.outside w) (c :: cs) = Token.ofWord w ++ t :: lexFrom (.outside []) cs ∧
          (Lexing.outside w).after (c :: cs) = (Lexing.outside []).after cs := by
      intro w t hstep
      rw [lexFrom, Lexing.after, List.foldl_cons, hstep, List.append_assoc]
      exact ⟨rfl, rfl⟩
    rw [depthFrom]
    split
    · next hopen =>
      obtain ⟨hquoting, rfl⟩ := hopen
      cases l with
      | outside w =>
        obtain ⟨hlex, hafter⟩ := hparenthesis w .opening rfl
        rw [hlex, hafter, depthOf_ofWord, depthOf, if_pos rfl]
        exact ih (.outside []) (d + 1)
      | literal s => cases hquoting
      | quoted s => cases hquoting
    · next hopen =>
      split
      · next hclose =>
        obtain ⟨hquoting, rfl⟩ := hclose
        cases l with
        | outside w =>
          obtain ⟨hlex, hafter⟩ := hparenthesis w .closing rfl
          rw [hlex, hafter, depthOf_ofWord, depthOf,
            if_neg (show Token.closing ≠ Token.opening by decide), if_pos rfl]
          split
          · rfl
          · exact ih (.outside []) (d - 1)
        | literal s => cases hquoting
        | quoted s => cases hquoting
      · next hclose =>
        rw [← Lexing.quoting_step, lexFrom, depthOf_step hopen hclose]
        exact ih (l.step c).2 d

theorem balanced_iff {s : String} : Balanced s ↔ Complete s ∧ depthOf 0 (lex s) = some 0 := by
  have heq := depthFrom_eq (.outside []) 0 s.toList
  rw [Balanced, Nests, Complete, lex]
  rw [Lexing.quoting] at heq
  rw [heq, Option.map_eq_some_iff]
  constructor
  · rintro ⟨e, hdepth, he⟩
    rw [Prod.mk.injEq] at he
    obtain ⟨hquoting, rfl⟩ := he
    refine ⟨?_, hdepth⟩
    cases hafter : (Lexing.outside []).after s.toList with
    | outside w => exact ⟨w, rfl⟩
    | literal content =>
      rw [hafter] at hquoting
      cases hquoting
    | quoted content =>
      rw [hafter] at hquoting
      cases hquoting
  · rintro ⟨⟨w, hafter⟩, hdepth⟩
    refine ⟨0, hdepth, ?_⟩
    rw [hafter]
    rfl

/-- The tokens of the rows that are open, the innermost one first, and of the row within them. -/
def openTokens (top : List Element) : List (List Element) → List Token
  | [] => top.flatMap Element.tokens
  | row :: outer => openTokens row outer ++ .opening :: top.flatMap Element.tokens

theorem openTokens_append (top es : List Element) (outer : List (List Element)) :
    openTokens (top ++ es) outer = openTokens top outer ++ es.flatMap Element.tokens := by
  cases outer with
  | nil => exact List.flatMap_append
  | cons row outer =>
    rw [openTokens, openTokens, List.flatMap_append, List.append_assoc, List.cons_append]

/-- Tokens that close what is open are read without regard to what stands around them. -/
theorem exists_readTokens {ts : List Token} (top : List Element) (inner : List (List Element))
    (h : depthOf inner.length ts = some 0) :
    ∃ es, es.flatMap Element.tokens = openTokens top inner ++ ts ∧
      ∀ outer rest, readTokens top (inner ++ outer) (ts ++ rest) = readTokens es outer rest := by
  induction ts generalizing top inner with
  | nil =>
    rw [depthOf, Option.some.injEq, List.length_eq_zero_iff] at h
    rw [h]
    exact ⟨top, (List.append_nil _).symm, fun outer rest => rfl⟩
  | cons t ts ih =>
    rw [depthOf] at h
    split at h
    · next hopen =>
      obtain ⟨es, htokens, hread⟩ := ih [] (top :: inner) h
      refine ⟨es, ?_, fun outer rest => ?_⟩
      · rw [htokens, hopen, openTokens, List.flatMap_nil, List.append_assoc, List.singleton_append]
      · rw [hopen, List.cons_append, readTokens]
        exact hread outer rest
    · next hopen =>
      split at h
      · next hclose =>
        cases inner with
        | nil => cases h
        | cons row inner =>
          obtain ⟨es, htokens, hread⟩ :=
            ih (row ++ [.group (top.flatMap Element.tokens) (readRow top)]) inner h
          refine ⟨es, ?_, fun outer rest => ?_⟩
          · rw [htokens, openTokens_append, List.flatMap_singleton, Element.tokens, openTokens,
              hclose]
            simp
          · rw [hclose, List.cons_append, List.cons_append, readTokens]
            exact hread outer rest
      · next hclose =>
        have ht : t.isParenthesis = false := by
          cases t with
          | opening => exact absurd rfl hopen
          | closing => exact absurd rfl hclose
          | _ => rfl
        obtain ⟨es, htokens, hread⟩ := ih (top ++ [.token t]) inner h
        refine ⟨es, ?_, fun outer rest => ?_⟩
        · rw [htokens, openTokens_append, List.flatMap_singleton, Element.tokens, List.append_assoc,
            List.singleton_append]
        · rw [List.cons_append, readTokens_of_not_parenthesis ht]
          exact hread outer rest

/-- **A balanced text is read between parentheses**, whatever it says. -/
theorem Balanced.exists_inner {s : String} (h : Balanced s) : ∃ es, Inner s es := by
  obtain ⟨hcomplete, hdepth⟩ := balanced_iff.mp h
  obtain ⟨es, htokens, hread⟩ := exists_readTokens [] [] hdepth
  exact ⟨es, hcomplete, hread, htokens⟩

theorem depthOf_of_readTokens {ts : List Token} {top es : List Element}
    {outer : List (List Element)} (h : readTokens top outer ts = some es) :
    depthOf outer.length ts = some 0 := by
  induction ts generalizing top outer with
  | nil =>
    rw [readTokens] at h
    split at h
    · next hempty =>
      rw [depthOf, List.isEmpty_iff.mp hempty]
      rfl
    · cases h
  | cons t ts ih =>
    by_cases ht : t.isParenthesis = false
    · rw [readTokens_of_not_parenthesis ht] at h
      rw [depthOf_of_not_parenthesis ht]
      exact ih h
    · cases t with
      | opening =>
        rw [readTokens] at h
        rw [depthOf, if_pos rfl]
        exact ih h
      | closing =>
        cases outer with
        | nil =>
          rw [readTokens] at h
          cases h
        | cons row outer =>
          rw [readTokens] at h
          rw [depthOf, if_neg (by decide), if_pos rfl]
          exact ih h
      | _ => exact absurd rfl ht

theorem Parses.balanced {s : String} {es : List Element} (h : Parses s es) : Balanced s := by
  have hread := h.push [] [] []
  rw [List.append_nil] at hread
  exact balanced_iff.mpr ⟨h.complete, depthOf_of_readTokens hread⟩

end OracleSql
