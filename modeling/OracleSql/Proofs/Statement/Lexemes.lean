import OracleSql.Proofs.Statement.Literals
import OracleSql.Proofs.Statement.Placeholders

/-!
# Positional binds and the lexemes of a statement

The scan that numbers the placeholders keeps one of three places in mind and looks at one character
at a time.  A lexer looks ahead: behind an opening quote it takes everything up to the next quote that
is not written twice, or up to the end.  `lexemes` is that lexer, and `numberLexemes` numbers the
question marks among the characters that it finds outside quotes.

The scan passes a quote that is written twice by leaving the quotes and entering them again
(`scan_doubled`), so it is where the lexer is at both ends of every lexeme, and the two agree on every
text (`numbered_agrees`).  A literal that ends one text and a literal that begins the next are one
literal when the texts are joined; the numbers do not depend on it.
-/

namespace OracleSql

/-! ### Lexemes -/

inductive Lexeme where
  /-- A character outside quotes. -/
  | outside (c : Char)
  /-- A literal or a quoted identifier: its quote, and the text that it stands for. -/
  | quoted (q : Char) (text : List Char)
  /-- Quotes that are left open, and all that follows. -/
  | unclosed (q : Char) (rest : List Char)
deriving DecidableEq

namespace Lexeme

def written : Lexeme → List Char
  | outside c => [c]
  | quoted q text => q :: (Text.doubled q text ++ [q])
  | unclosed q rest => q :: rest

/-- Whether the lexeme ends outside quotes. -/
def isClosed : Lexeme → Bool
  | unclosed _ _ => false
  | _ => true

end Lexeme

/-- **The lexemes of a text.** -/
def lexemes (cs : List Char) : List Lexeme :=
  match cs with
  | [] => []
  | c :: cs =>
    if opensQuotes c then
      match h : Text.readQuoted c cs with
      | none => [.unclosed c cs]
      | some (text, rest) =>
        have := Text.length_lt_of_readQuoted h
        .quoted c text :: lexemes rest
    else .outside c :: lexemes cs
termination_by cs.length

/-- The lexemes with `:1`, `:2`, … for the question marks outside quotes, if `n` come before. -/
def numberLexemes (n : Nat) : List Lexeme → List Char
  | [] => []
  | l :: ls =>
    if l = .outside '?' then ':' :: (toString (n + 1)).toList ++ numberLexemes (n + 1) ls
    else l.written ++ numberLexemes n ls

/-- **Nothing is lost**: the lexemes are the text. -/
theorem flatMap_written_lexemes (cs : List Char) : (lexemes cs).flatMap Lexeme.written = cs := by
  fun_induction lexemes cs with
  | case1 => rfl
  | case2 c cs => exact List.append_nil _
  | case3 c cs _ text rest hread _ ih =>
    rw [List.flatMap_cons, ih, Lexeme.written, (Text.eq_of_readQuoted hread).1]
    simp
  | case4 c cs _ ih => rw [List.flatMap_cons, ih, Lexeme.written, List.singleton_append]

example : lexemes "?'it''s' \"".toList =
    [.outside '?', .quoted '\'' "it's".toList, .outside ' ', .unclosed '"' []] := by
  decide +kernel

/-! ### The scan between quotes -/

namespace Quoting

/-- The place behind an opening quote. -/
def inside (q : Char) : Quoting :=
  if q = '\'' then .literal else .identifier

theorem eq_of_opensQuotes {q : Char} (h : opensQuotes q = true) : q = '\'' ∨ q = '"' := by
  rwa [opensQuotes, Bool.or_eq_true, beq_iff_eq, beq_iff_eq] at h

variable {q : Char} (h : opensQuotes q = true)

include h

theorem step_opening : outside.step q = inside q := by
  rcases eq_of_opensQuotes h with rfl | rfl <;> rfl

theorem step_closing : (inside q).step q = outside := by
  rcases eq_of_opensQuotes h with rfl | rfl <;> rfl

theorem step_inside {c : Char} (hc : c ≠ q) : (inside q).step c = inside q := by
  rcases eq_of_opensQuotes h with rfl | rfl <;> simp [inside, step, hc]

theorem ne_placeholder : q ≠ '?' := by
  rintro rfl
  exact absurd h (by decide)

end Quoting

theorem inside_ne_outside (q : Char) : Quoting.inside q ≠ .outside := by
  rw [Quoting.inside]
  split <;> exact nofun

theorem placeholders_cons_of_ne {q : Quoting} {c : Char} (h : c ≠ '?' ∨ q ≠ .outside)
    (cs : List Char) : placeholders q (c :: cs) = placeholders (q.step c) cs := by
  rw [placeholders, if_neg (by tauto)]

theorem Quoting.after_cons (q : Quoting) (c : Char) (cs : List Char) :
    q.after (c :: cs) = (q.step c).after cs := rfl

section Scan

open Quoting Text

variable {q : Char} (h : opensQuotes q = true)

include h

/-- **What stands in quotes is passed without a placeholder.**  At a quote that is written twice the
scan leaves the quotes and enters them again. -/
theorem scan_doubled (text : List Char) :
    (inside q).after (doubled q text) = inside q ∧
      placeholders (inside q) (doubled q text) = 0 := by
  induction text with
  | nil => exact ⟨rfl, rfl⟩
  | cons c text ih =>
    rw [doubled]
    split
    · rw [after_cons, after_cons, step_closing h, step_opening h,
        placeholders_cons_of_ne (.inr (inside_ne_outside q)), step_closing h,
        placeholders_cons_of_ne (.inl (ne_placeholder h)), step_opening h]
      exact ih
    · next hc =>
      rw [after_cons, placeholders_cons_of_ne (.inr (inside_ne_outside q)), step_inside h hc]
      exact ih

/-- A quoted text brings no placeholder and ends where it has begun. -/
theorem scan_quoted (text : List Char) :
    Quoting.outside.after (Lexeme.quoted q text).written = .outside ∧
      placeholders .outside (Lexeme.quoted q text).written = 0 := by
  obtain ⟨hafter, hnone⟩ := scan_doubled h text
  rw [Lexeme.written, after_cons, after_append, placeholders_cons_of_ne (.inl (ne_placeholder h)),
    placeholders_append, step_opening h, hafter, hnone, after_cons, step_closing h,
    placeholders_cons_of_ne (.inr (inside_ne_outside q)), step_closing h]
  exact ⟨rfl, rfl⟩

/-- Quotes that are left open are never left. -/
theorem scan_unclosed {cs : List Char} (hopen : readQuoted q cs = none) :
    (inside q).after cs = inside q ∧ placeholders (inside q) cs = 0 := by
  fun_induction readQuoted q cs with
  | case1 => exact ⟨rfl, rfl⟩
  | case2 => cases hopen
  | case3 c hc =>
    rw [after_cons, placeholders_cons_of_ne (.inr (inside_ne_outside q)), step_inside h hc]
    exact ⟨rfl, rfl⟩
  | case4 cs ih =>
    rw [after_cons, after_cons, step_closing h, step_opening h,
      placeholders_cons_of_ne (.inr (inside_ne_outside q)), step_closing h,
      placeholders_cons_of_ne (.inl (ne_placeholder h)), step_opening h]
    exact ih (Option.map_eq_none_iff.mp hopen)
  | case5 => cases hopen
  | case6 c d cs hc ih =>
    rw [after_cons, placeholders_cons_of_ne (.inr (inside_ne_outside q)), step_inside h hc]
    exact ih (Option.map_eq_none_iff.mp hopen)

end Scan

/-! ### The scan and the lexer -/

theorem step_of_not_opensQuotes {c : Char} (h : ¬opensQuotes c = true) :
    Quoting.outside.step c = .outside := by
  rw [opensQuotes, Bool.or_eq_true, beq_iff_eq, beq_iff_eq, not_or] at h
  simp [Quoting.step, h.1, h.2]

theorem eq_written_append {q : Char} {cs text rest : List Char}
    (h : Text.readQuoted q cs = some (text, rest)) :
    q :: cs = (Lexeme.quoted q text).written ++ rest := by
  rw [(Text.eq_of_readQuoted h).1, Lexeme.written]
  simp

theorem numberFrom_append (q : Quoting) (n : Nat) (as bs : List Char) :
    numberFrom q n (as ++ bs)
      = numberFrom q n as ++ numberFrom (q.after as) (n + placeholders q as) bs := by
  simp only [numberFrom_eq_fillFrom, fillFrom_append]

theorem numberFrom_of_placeholders_eq_zero {q : Quoting} {cs : List Char}
    (h : placeholders q cs = 0) (n : Nat) : numberFrom q n cs = cs := by
  rw [numberFrom_eq_fillFrom, fillFrom_of_placeholders_eq_zero h]

/-- **The scan numbers what the lexer finds outside quotes.**  The induction is on the lexemes; the
scan is outside quotes before each of them. -/
theorem numberFrom_eq_numberLexemes (n : Nat) (cs : List Char) :
    numberFrom .outside n cs = numberLexemes n (lexemes cs) := by
  fun_induction lexemes cs generalizing n with
  | case1 => rfl
  | case2 c cs hc hopen =>
    obtain ⟨-, hnone⟩ := scan_unclosed hc hopen
    have hzero : placeholders .outside (c :: cs) = 0 := by
      rw [placeholders_cons_of_ne (.inl (Quoting.ne_placeholder hc)), Quoting.step_opening hc, hnone]
    rw [numberFrom_of_placeholders_eq_zero hzero, numberLexemes, if_neg nofun]
    exact (List.append_nil _).symm
  | case3 c cs hc text rest hread _ ih =>
    obtain ⟨hafter, hzero⟩ := scan_quoted hc text
    rw [eq_written_append hread, numberFrom_append, hafter, hzero,
      numberFrom_of_placeholders_eq_zero hzero, Nat.add_zero, ih, numberLexemes, if_neg nofun]
  | case4 c cs hc ih =>
    rw [numberFrom, numberLexemes, step_of_not_opensQuotes hc]
    by_cases hmark : c = '?'
    · rw [if_pos ⟨hmark, rfl⟩, if_pos (by rw [hmark]), ih]
    · rw [if_neg fun h => hmark h.1, if_neg fun h => hmark (Lexeme.outside.inj h), ih]
      rfl

/-- The placeholders are the question marks outside quotes. -/
theorem placeholders_eq_count (cs : List Char) :
    placeholders .outside cs = (lexemes cs).count (.outside '?') := by
  fun_induction lexemes cs with
  | case1 => rfl
  | case2 c cs hc hopen =>
    rw [placeholders_cons_of_ne (.inl (Quoting.ne_placeholder hc)), Quoting.step_opening hc,
      (scan_unclosed hc hopen).2]
    rfl
  | case3 c cs hc text rest hread _ ih =>
    obtain ⟨hafter, hzero⟩ := scan_quoted hc text
    have hne : Lexeme.quoted c text ≠ .outside '?' := nofun
    rw [eq_written_append hread, placeholders_append, hafter, hzero, Nat.zero_add, ih,
      List.count_cons_of_ne hne]
  | case4 c cs hc ih =>
    rw [placeholders, step_of_not_opensQuotes hc]
    by_cases hmark : c = '?'
    · rw [if_pos ⟨hmark, rfl⟩, hmark, List.count_cons_self, ih]
    · rw [if_neg fun h => hmark h.1, ih,
        List.count_cons_of_ne fun h => hmark (Lexeme.outside.inj h)]

/-- A text whose lexemes are closed ends outside quotes. -/
theorem after_of_isClosed {cs : List Char} (h : ∀ l ∈ lexemes cs, l.isClosed = true) :
    Quoting.outside.after cs = .outside := by
  fun_induction lexemes cs with
  | case1 => rfl
  | case2 c cs => exact absurd (h _ (List.mem_singleton_self _)) Bool.false_ne_true
  | case3 c cs hc text rest hread _ ih =>
    rw [eq_written_append hread, Quoting.after_append, (scan_quoted hc text).1]
    exact ih (List.forall_mem_cons.mp h).2
  | case4 c cs hc ih =>
    rw [Quoting.after_cons, step_of_not_opensQuotes hc]
    exact ih (List.forall_mem_cons.mp h).2

/-- **The positional binds agree with a lexer.**  The lexemes are the text, and the binds stand for
the question marks outside quotes, the first of them being `:1`; all else stays as it is and where it
is.  So behind a text that ends outside quotes the numbers go on, whatever follows. -/
theorem numbered_agrees :
    (∀ sql : String, (lexemes sql.toList).flatMap Lexeme.written = sql.toList ∧
      (numbered sql).toList = numberLexemes 0 (lexemes sql.toList)) ∧
    ∀ a b : String, (∀ l ∈ lexemes a.toList, l.isClosed = true) →
      numbered (a ++ b) = numbered a ++ String.ofList
        (numberLexemes ((lexemes a.toList).count (.outside '?')) (lexemes b.toList)) := by
  refine ⟨fun sql => ⟨flatMap_written_lexemes sql.toList, ?_⟩, fun a b h => ?_⟩
  · rw [numbered, String.toList_ofList, numberFrom_eq_numberLexemes]
  · rw [numbered, numbered, String.toList_append, numberFrom_append, after_of_isClosed h,
      placeholders_eq_count, Nat.zero_add, numberFrom_eq_numberLexemes _ b.toList,
      String.ofList_append]

/-- A literal that ends the first text and goes on in the second. -/
theorem numbered_agrees_literal :
    (∀ l ∈ lexemes "a = ? and b = 'it'".toList, l.isClosed = true) ∧
      numbered ("a = ? and b = 'it'" ++ "'s?' and c = ?") =
        numbered "a = ? and b = 'it'" ++ String.ofList (numberLexemes 1
          (lexemes "'s?' and c = ?".toList)) ∧
      numbered ("a = ? and b = 'it'" ++ "'s?' and c = ?") = "a = :1 and b = 'it''s?' and c = :2" := by
  have hclosed : ∀ l ∈ lexemes "a = ? and b = 'it'".toList, l.isClosed = true := by decide +kernel
  have hcount : (lexemes "a = ? and b = 'it'".toList).count (.outside '?') = 1 := by
    decide +kernel
  have hnumbered := numbered_agrees.2 "a = ? and b = 'it'" "'s?' and c = ?" hclosed
  rw [hcount] at hnumbered
  exact ⟨hclosed, hnumbered, by decide +kernel⟩

end OracleSql
