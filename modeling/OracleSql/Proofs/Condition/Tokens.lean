import OracleSql.Text.Blank

/-!
# The tokens of a condition

A condition is read in two stages, and this file is the first: characters become tokens.  Words,
literals and quoted names go on until they end; any other character is a token of its own, and
white space is none.  What has been begun is the state of the scan (`Lexing`).

The tokens of `s ++ t` are those of `s` and then those of `t`, unless a word goes on from one into
the other (`lex_append`).
-/

namespace OracleSql

inductive Token where
  /-- A keyword, a number, or a name without quotes. -/
  | word (w : String)
  /-- A text between single quotes. -/
  | literal (content : String)
  /-- A name between double quotes. -/
  | quoted (content : String)
  | opening
  | closing
  /-- Any other character: an operator or a part of one, a dot, a comma, a placeholder. -/
  | sign (c : Char)
deriving DecidableEq

def isWordChar (c : Char) : Bool :=
  c.isAlphanum || c == '_'

/-- What has been begun and not yet ended. -/
inductive Lexing where
  /-- A word; the empty one when nothing has been begun. -/
  | outside (word : List Char)
  | literal (content : List Char)
  | quoted (content : List Char)
deriving DecidableEq

def Token.ofWord (w : List Char) : List Token :=
  if w.isEmpty then [] else [.word (String.ofList w)]

/-- The token for a character outside words and quotes. -/
def Token.ofSign (c : Char) : List Token :=
  if c = '(' then [.opening]
  else if c = ')' then [.closing]
  else if Text.isBlank c then []
  else [.sign c]

namespace Lexing

/-- The tokens that a character ends, and what stands after it. -/
def step : Lexing → Char → List Token × Lexing
  | outside w, c =>
    if isWordChar c then ([], outside (w ++ [c]))
    else if c = '\'' then (Token.ofWord w, literal [])
    else if c = '"' then (Token.ofWord w, quoted [])
    else (Token.ofWord w ++ Token.ofSign c, outside [])
  | literal s, c =>
    if c = '\'' then ([.literal (String.ofList s)], outside []) else ([], literal (s ++ [c]))
  | quoted s, c =>
    if c = '"' then ([.quoted (String.ofList s)], outside []) else ([], quoted (s ++ [c]))

/-- The token that the end of the text ends. -/
def finish : Lexing → List Token
  | outside w => Token.ofWord w
  | literal s => [.literal (String.ofList s)]
  | quoted s => [.quoted (String.ofList s)]

/-- What has been begun after some characters. -/
def after (l : Lexing) (cs : List Char) : Lexing :=
  cs.foldl (fun l c => (l.step c).2) l

end Lexing

/-- The tokens that a text ends when something has been begun before it. -/
def lexFrom (l : Lexing) : List Char → List Token
  | [] => l.finish
  | c :: cs => (l.step c).1 ++ lexFrom (l.step c).2 cs

/-- **The tokens of a text.** -/
def lex (s : String) : List Token :=
  lexFrom (.outside []) s.toList

example : lex "u.\"DATE\" between ? and trunc('now')" =
    [.word "u", .sign '.', .quoted "DATE", .word "between", .sign '?', .word "and", .word "trunc",
      .opening, .literal "now", .closing] := by
  decide +kernel

/-! ### One text after another -/

/-- A text that closes its quotes. -/
def Complete (s : String) : Prop :=
  ∃ w, (Lexing.outside []).after s.toList = .outside w

/-- A text that closes its quotes and ends no later than its last word. -/
def Closed (s : String) : Prop :=
  (Lexing.outside []).after s.toList = .outside []

instance (s : String) : Decidable (Complete s) :=
  match h : (Lexing.outside []).after s.toList with
  | .outside w => isTrue ⟨w, h⟩
  | .literal _ => isFalse fun ⟨_, hw⟩ => nomatch h.symm.trans hw
  | .quoted _ => isFalse fun ⟨_, hw⟩ => nomatch h.symm.trans hw

instance (s : String) : Decidable (Closed s) :=
  inferInstanceAs (Decidable (_ = _))

/-- A text that does not go on with a word that has been begun before it. -/
def Detached (s : String) : Prop :=
  ∀ c ∈ s.toList.head?, isWordChar c = false

instance (s : String) : Decidable (Detached s) :=
  match h : s.toList.head? with
  | none => isTrue fun _ hc => nomatch h.symm.trans hc
  | some c =>
    if hc : isWordChar c = false then
      isTrue fun _ hd => Option.some.inj (h.symm.trans hd) ▸ hc
    else isFalse fun hall => hc (hall c h)

/-- No word goes on from the first text into the second. -/
structure Meets (s t : String) : Prop where
  complete : Complete s
  apart : Closed s ∨ Detached t

theorem Lexing.after_append (l : Lexing) (as bs : List Char) :
    l.after (as ++ bs) = (l.after as).after bs :=
  List.foldl_append

/-- A character outside words ends the word before it and is otherwise read without it. -/
theorem Lexing.step_outside {c : Char} (h : isWordChar c = false) (w : List Char) :
    (outside w).step c = (Token.ofWord w ++ ((outside []).step c).1, ((outside []).step c).2) := by
  have hword : ¬ isWordChar c = true := by
    rw [h]
    exact Bool.false_ne_true
  rw [step, step, if_neg hword, if_neg hword]
  split
  · rw [Token.ofWord, Token.ofWord, List.isEmpty_nil, if_pos rfl, List.append_nil]
  · split
    · rw [Token.ofWord, Token.ofWord, List.isEmpty_nil, if_pos rfl, List.append_nil]
    · rfl

/-- A word before a text that does not go on with it is a token of its own. -/
theorem lexFrom_of_detached {w cs : List Char}
    (h : w = [] ∨ ∀ c ∈ cs.head?, isWordChar c = false) :
    lexFrom (.outside w) cs = Token.ofWord w ++ lexFrom (.outside []) cs := by
  rcases h with rfl | h
  · rfl
  · cases cs with
    | nil =>
      rw [lexFrom, lexFrom, Lexing.finish, Lexing.finish]
      exact (List.append_nil _).symm
    | cons c cs =>
      rw [lexFrom, lexFrom, Lexing.step_outside (h c rfl), List.append_assoc]

/-- A word before a text that does not go on with it does not matter after that text. -/
theorem Lexing.after_of_detached {w cs : List Char}
    (h : w = [] ∨ ∀ c ∈ cs.head?, isWordChar c = false) :
    (outside w).after cs = (outside []).after cs ∨ cs = [] := by
  rcases h with rfl | h
  · exact Or.inl rfl
  · cases cs with
    | nil => exact Or.inr rfl
    | cons c cs =>
      left
      rw [after, after, List.foldl_cons, List.foldl_cons, step_outside (h c rfl)]

theorem lexFrom_append {l : Lexing} {as bs w : List Char} (hafter : l.after as = .outside w)
    (h : w = [] ∨ ∀ c ∈ bs.head?, isWordChar c = false) :
    lexFrom l (as ++ bs) = lexFrom l as ++ lexFrom (.outside []) bs := by
  induction as generalizing l with
  | nil =>
    have hl : l = .outside w := hafter
    rw [hl, List.nil_append, lexFrom_of_detached h]
    rfl
  | cons a as ih =>
    rw [List.cons_append, lexFrom, lexFrom, ih hafter, List.append_assoc]

theorem Closed.complete {s : String} (h : Closed s) : Complete s :=
  ⟨[], h⟩

namespace Meets

variable {s t : String}

theorem of_closed (h : Closed s) : Meets s t :=
  ⟨h.complete, Or.inl h⟩

theorem of_detached (hs : Complete s) (ht : Detached t) : Meets s t :=
  ⟨hs, Or.inr ht⟩

/-- The word that is pending where the texts meet is none, or the second text ends it. -/
theorem exists_word (h : Meets s t) : ∃ w, (Lexing.outside []).after s.toList = .outside w ∧
    (w = [] ∨ ∀ c ∈ t.toList.head?, isWordChar c = false) := by
  obtain ⟨⟨w, hw⟩, hclosed | hdetached⟩ := h
  · exact ⟨[], hclosed, Or.inl rfl⟩
  · exact ⟨w, hw, Or.inr hdetached⟩

/-- **The tokens of a text that is put together.** -/
theorem lex_append (h : Meets s t) : lex (s ++ t) = lex s ++ lex t := by
  obtain ⟨w, hafter, hw⟩ := h.exists_word
  rw [lex, String.toList_append, lexFrom_append hafter hw]
  rfl

theorem complete_append (h : Meets s t) (ht : Complete t) : Complete (s ++ t) := by
  obtain ⟨w, hafter, hw⟩ := h.exists_word
  obtain ⟨u, hu⟩ := ht
  rw [Complete, String.toList_append, Lexing.after_append, hafter]
  rcases Lexing.after_of_detached hw with heq | hnil
  · exact ⟨u, heq.trans hu⟩
  · rw [hnil]
    exact ⟨w, rfl⟩

theorem closed_append (h : Meets s t) (hne : t ≠ "") (ht : Closed t) : Closed (s ++ t) := by
  obtain ⟨w, hafter, hw⟩ := h.exists_word
  rw [Closed, String.toList_append, Lexing.after_append, hafter]
  rcases Lexing.after_of_detached hw with heq | hnil
  · exact heq.trans ht
  · exact absurd (String.toList_eq_nil_iff.mp hnil) hne

end Meets

theorem Detached.append {s : String} (hs : Detached s) (hne : s ≠ "") (t : String) :
    Detached (s ++ t) := by
  intro c hc
  rw [String.toList_append] at hc
  refine hs c ?_
  cases hchars : s.toList with
  | nil => exact absurd (String.toList_eq_nil_iff.mp hchars) hne
  | cons d ds =>
    rw [hchars] at hc
    exact hc

end OracleSql
