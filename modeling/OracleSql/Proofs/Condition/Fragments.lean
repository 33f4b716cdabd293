import OracleSql.Proofs.Condition.Reader

/-!
# Parts of a condition

What a text adds to what is read does not depend on what stands around it, as long as its
parentheses are balanced.  `Parses s es` says that `s` adds the elements `es`, and a `Fragment`
moreover lies within one operand: no connector in it ends the operand.  Fragments are put together
from fragments (`Fragment.append`), and a row in parentheses is one, whatever its connectors are
(`Inner.group`).

An operand is an atom as soon as something of it stands outside parentheses (`Atomic`).
-/

namespace OracleSql

/-! ### Elements of a text -/

/-- Between parentheses the text is read as some elements. -/
structure Inner (s : String) (es : List Element) : Prop where
  complete : Complete s
  read : ∀ outer rest, readTokens [] outer (lex s ++ rest) = readTokens es outer rest
  tokens : es.flatMap Element.tokens = lex s

/-- The text adds some elements to a row. -/
structure Parses (s : String) (es : List Element) : Prop where
  complete : Complete s
  push : ∀ top outer rest,
    readTokens top outer (lex s ++ rest) = readTokens (top ++ es) outer rest
  tokens : es.flatMap Element.tokens = lex s

/-- No operand ends within the elements. -/
def Solid (es : List Element) : Prop :=
  ∀ current rest, cut false current (es ++ rest) = cut false (current ++ es) rest

/-- The text adds some elements to an operand. -/
structure Fragment (s : String) (es : List Element) : Prop extends Parses s es where
  solid : Solid es

namespace Parses

variable {s t : String} {es fs : List Element}

theorem inner (h : Parses s es) : Inner s es where
  complete := h.complete
  read outer rest := by rw [h.push, List.nil_append]
  tokens := h.tokens

theorem read?_eq (h : Parses s es) : read? s = readRow es := by
  have hread := h.push [] [] []
  rw [List.append_nil] at hread
  rw [read?, hread]
  rfl

theorem append (hs : Parses s es) (ht : Parses t fs) (h : Closed s ∨ Detached t) :
    Parses (s ++ t) (es ++ fs) := by
  have hmeets : Meets s t := ⟨hs.complete, h⟩
  refine ⟨hmeets.complete_append ht.complete, fun top outer rest => ?_, ?_⟩
  · rw [hmeets.lex_append, List.append_assoc, hs.push, ht.push, List.append_assoc]
  · rw [hmeets.lex_append, List.flatMap_append, hs.tokens, ht.tokens]

theorem empty : Parses "" [] where
  complete := by decide
  push top outer rest := by
    rw [List.append_nil]
    rfl
  tokens := rfl

end Parses

theorem Solid.append {es fs : List Element} (hes : Solid es) (hfs : Solid fs) :
    Solid (es ++ fs) := by
  intro current rest
  rw [List.append_assoc, hes, hfs, List.append_assoc]

theorem Fragment.append {s t : String} {es fs : List Element} (hs : Fragment s es)
    (ht : Fragment t fs) (h : Closed s ∨ Detached t) : Fragment (s ++ t) (es ++ fs) :=
  ⟨hs.toParses.append ht.toParses h, hs.solid.append ht.solid⟩

/-- **A row in parentheses** lies within one operand. -/
theorem Inner.group {s : String} {es : List Element} (h : Inner s es) :
    Fragment ("(" ++ s ++ ")") [.group (lex s) (readRow es)] := by
  have hopen : Meets "(" s := .of_closed (by decide)
  have hclose : Meets ("(" ++ s) ")" := .of_detached (hopen.complete_append h.complete) (by decide)
  have hlex : lex ("(" ++ s ++ ")") = .opening :: lex s ++ [.closing] := by
    rw [hclose.lex_append, hopen.lex_append]
    rfl
  refine ⟨⟨hclose.complete_append (by decide), fun top outer rest => ?_, ?_⟩, ?_⟩
  · rw [hlex, List.cons_append, List.cons_append, List.append_assoc, readTokens, h.read,
      List.singleton_append, readTokens, h.tokens]
  · rw [hlex, List.flatMap_singleton]
    rfl
  · intro current rest
    rw [List.singleton_append, cut]

/-! ### Texts without parentheses -/

def Token.isParenthesis : Token → Bool
  | opening | closing => true
  | _ => false

/-- Whether the token is neither a parenthesis nor a keyword that cuts a row. -/
def Token.isQuiet (t : Token) : Bool :=
  !t.isParenthesis && t.connector?.isNone && !t.opensRange

/-- A text without parentheses and without keywords that cut a row. -/
structure Quiet (s : String) : Prop where
  complete : Complete s
  tokens : ∀ t ∈ lex s, t.isQuiet = true

instance (s : String) : Decidable (Quiet s) :=
  decidable_of_iff (Complete s ∧ ∀ t ∈ lex s, t.isQuiet = true)
    ⟨fun h => ⟨h.1, h.2⟩, fun h => ⟨h.1, h.2⟩⟩

theorem readTokens_of_not_parenthesis {t : Token} (h : t.isParenthesis = false)
    (top : List Element) (outer : List (List Element)) (ts : List Token) :
    readTokens top outer (t :: ts) = readTokens (top ++ [.token t]) outer ts := by
  cases t with
  | opening => cases h
  | closing => cases h
  | _ => rw [readTokens]; all_goals simp

theorem Parses.of_tokens {s : String} (hs : Complete s)
    (h : ∀ t ∈ lex s, t.isParenthesis = false) : Parses s ((lex s).map .token) where
  complete := hs
  push top outer rest := by
    generalize lex s = ts at h
    induction ts generalizing top with
    | nil =>
      rw [List.map_nil, List.append_nil]
      rfl
    | cons t ts ih =>
      obtain ⟨ht, hts⟩ := List.forall_mem_cons.mp h
      rw [List.cons_append, readTokens_of_not_parenthesis ht, ih _ hts, List.map_cons,
        List.append_assoc, List.singleton_append]
  tokens := by
    rw [List.flatMap_map]
    exact List.flatMap_singleton' _

theorem cut_of_not_connector {t : Token} (h : t.connector? = none) (awaiting : Bool)
    (current es : List Element) : cut awaiting current (.token t :: es)
      = cut (awaiting || t.opensRange) (current ++ [.token t]) es := by
  rw [cut, h]

theorem Quiet.fragment {s : String} (h : Quiet s) : Fragment s ((lex s).map .token) := by
  refine ⟨.of_tokens h.complete fun t ht => ?_, fun current rest => ?_⟩
  · have hquiet := h.tokens t ht
    rw [Token.isQuiet, Bool.and_eq_true, Bool.and_eq_true, Bool.not_eq_true'] at hquiet
    exact hquiet.1.1
  · have htokens := h.tokens
    generalize lex s = ts at htokens
    induction ts generalizing current with
    | nil =>
      rw [List.map_nil, List.append_nil]
      rfl
    | cons t ts ih =>
      obtain ⟨ht, hts⟩ := List.forall_mem_cons.mp htokens
      rw [Token.isQuiet, Bool.and_eq_true, Bool.and_eq_true, Option.isNone_iff_eq_none,
        Bool.not_eq_true', Bool.not_eq_true'] at ht
      rw [List.map_cons, List.cons_append, cut_of_not_connector ht.1.2, ht.2, Bool.false_or,
        ih _ hts, List.append_assoc, List.singleton_append]

theorem Quiet.append {s t : String} (hs : Quiet s) (ht : Quiet t) (h : Closed s ∨ Detached t) :
    Quiet (s ++ t) := by
  have hmeets : Meets s t := ⟨hs.complete, h⟩
  refine ⟨hmeets.complete_append ht.complete, fun u hu => ?_⟩
  rw [hmeets.lex_append] at hu
  rcases List.mem_append.mp hu with hu | hu
  · exact hs.tokens u hu
  · exact ht.tokens u hu

/-! ### Atoms -/

/-- A part of an operand of which something stands outside parentheses. -/
def Atomic (s : String) : Prop :=
  ∃ es, Fragment s es ∧ ∃ t, Element.token t ∈ es

theorem readOperand_of_mem_token {es : List Element} {t : Token} (h : .token t ∈ es) :
    readOperand es = some (.atom (es.flatMap Element.tokens)) := by
  match es with
  | [] => cases h
  | [.token _] => rfl
  | [.group _ _] => cases List.mem_singleton.mp h
  | .token _ :: _ :: _ => rfl
  | .group _ _ :: _ :: _ => rfl

namespace Atomic

variable {s t : String}

theorem exists_fragment (h : Atomic s) :
    ∃ es, Fragment s es ∧ readOperand es = some (.atom (lex s)) := by
  obtain ⟨es, hfragment, t, ht⟩ := h
  refine ⟨es, hfragment, ?_⟩
  rw [readOperand_of_mem_token ht, hfragment.tokens]

theorem of_quiet (h : Quiet s) (hne : lex s ≠ []) : Atomic s := by
  obtain ⟨t, ht⟩ := List.exists_mem_of_ne_nil _ hne
  exact ⟨_, h.fragment, t, List.mem_map_of_mem ht⟩

theorem append_left (hs : Atomic s) {es : List Element} (ht : Fragment t es)
    (h : Closed s ∨ Detached t) : Atomic (s ++ t) := by
  obtain ⟨fs, hfragment, u, hu⟩ := hs
  exact ⟨_, hfragment.append ht h, u, List.mem_append_left _ hu⟩

theorem append_right {es : List Element} (hs : Fragment s es) (ht : Atomic t)
    (h : Closed s ∨ Detached t) : Atomic (s ++ t) := by
  obtain ⟨fs, hfragment, u, hu⟩ := ht
  exact ⟨_, hs.append hfragment h, u, List.mem_append_right _ hu⟩

end Atomic

end OracleSql
