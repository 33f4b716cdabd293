import OracleSql.Proofs.Identifier.LiteralFree
import OracleSql.Schema.Table

/-!
# Texts in their literals

Defaults, allowed values and comments are texts of any kind, and they stand in statements as literals.
Nothing in a text ends its literal: read in front of anything but another quote, a literal gives back
its text and leaves what follows (`readLiteral?_quote_iff`).

So the literals of a column definition are its default, unless that is an expression, and its allowed
values, and the one literal of a comment is the comment.  What stands around them has no quotes but
those of reserved words, as long as the identifiers hold none.
-/

namespace OracleSql

open Identifier

/-! ### One literal -/

/-- The text of a literal at the start of a statement, and what follows it. -/
def readLiteral? (sql : String) : Option (String × String) :=
  match sql.toList with
  | '\'' :: cs =>
    (Text.readQuoted '\'' cs).map fun read => (String.ofList read.1, String.ofList read.2)
  | _ => none

/-- **A literal is read back** exactly when no quote follows that would go on with it. -/
theorem readLiteral?_quote_iff {s rest : String} :
    readLiteral? (quote s ++ rest) = some (s, rest) ↔ rest.toList.head? ≠ some '\'' := by
  have hopen : (quote s ++ rest).toList
      = '\'' :: (Text.doubled '\'' s.toList ++ '\'' :: rest.toList) := by
    simp [quote, Text.double]
  have hread : readLiteral? (quote s ++ rest)
      = (Text.readQuoted '\'' (Text.doubled '\'' s.toList ++ '\'' :: rest.toList)).map
        fun read => (String.ofList read.1, String.ofList read.2) := by
    rw [readLiteral?, hopen]
    rfl
  rw [hread]
  constructor
  · intro h
    obtain ⟨⟨text, others⟩, hread, heq⟩ := Option.map_eq_some_iff.mp h
    cases heq
    rw [String.toList_ofList]
    exact (Text.eq_of_readQuoted hread).2
  · intro h
    rw [Text.readQuoted_doubled _ h, Option.map_some, String.ofList_toList, String.ofList_toList]

/-! ### Column definitions -/

/-- The text of a default that is a literal. -/
def DefaultValue.literal? : DefaultValue → Option String
  | raw _ => none
  | bool b => some (if b then "1" else "0")
  | int n => some (toString n.toInt)
  | float x => some (Value.numberText x)
  | text s => some s

/-- **The texts in a column definition**: the default, unless it is an expression, and the allowed
values. -/
def Column.texts (c : Column) : List String :=
  (c.default.bind DefaultValue.literal?).toList ++ c.allowed

theorem unquoted_toString (n : Nat) : Unquoted (toString n) := by
  intro c hc
  have hdigits : ∀ k < 128, (Char.ofNat k).isDigit = true → opensQuotes (Char.ofNat k) = false := by
    decide +kernel
  have hdigit := Text.isDigit_of_mem_toString hc
  exact Text.ofNat_cases (P := fun c => c.isDigit = true → opensQuotes c = false) hdigits
    (Text.isDigit_lt hdigit) hdigit

namespace Column

theorem unquoted_sized {name : String} (h : Unquoted name) (size : Option UInt32)
    (standard : UInt32) : Unquoted (sized name size standard) := by
  simp only [sized, unquoted_append, unquoted_toString, h, true_and, and_true]
  exact ⟨by decide, by decide⟩

theorem unquoted_integerType (digits : Option UInt32) (standard : UInt32) :
    Unquoted (integerType digits standard) := by
  simp only [integerType, unquoted_append, unquoted_toString, and_true]
  exact ⟨by decide, by decide⟩

theorem unquoted_typeSql (c : Column) : Unquoted c.typeSql := by
  rw [typeSql]
  cases c.type with
  | char | string | nvarchar2 | float | enum => exact unquoted_sized (by decide) _ _
  | integer | bigInteger | mediumInteger | smallInteger | tinyInteger =>
    exact unquoted_integerType _ _
  | decimal =>
    simp only [unquoted_append, unquoted_toString, and_true]
    exact ⟨⟨by decide, by decide⟩, by decide⟩
  | _ =>
    dsimp only
    decide

theorem reads_defaultSql {c : Column} (hraw : ∀ sql, c.default = some (.raw sql) → Unquoted sql)
    {after : String} (hafter : Unquoted after) (hne : after ≠ "") :
    Reads (c.defaultSql ++ after) (c.default.bind DefaultValue.literal?).toList := by
  rw [defaultSql]
  cases hdefault : c.default with
  | none => exact .of_unquoted (unquoted_append.mpr ⟨by decide, hafter⟩)
  | some d =>
    cases d with
    | raw sql =>
      have hsql := hraw sql hdefault
      exact .of_unquoted (unquoted_append.mpr ⟨unquoted_append.mpr ⟨by decide, hsql⟩, hafter⟩)
    | bool _ | int _ | float _ | text _ => exact .enclose (by decide) hafter hne _

theorem reads_quotes {after : String} (hafter : Unquoted after) (hne : after ≠ "")
    (texts : List String) : Reads (", ".intercalate (texts.map quote) ++ after) texts := by
  have hquote {after : String} (hafter : Unquoted after) (hne : after ≠ "") (text : String) :
      Reads (quote text ++ after) [text] := by
    have h : Reads ("" ++ quote text ++ after) [text] := .enclose (by decide) hafter hne text
    rwa [String.empty_append] at h
  induction texts with
  | nil =>
    rw [List.map_nil, String.intercalate_nil, String.empty_append]
    exact .of_unquoted hafter
  | cons text texts ih =>
    cases texts with
    | nil => exact hquote hafter hne text
    | cons second texts =>
      rw [List.map_cons, List.map_cons, String.intercalate_cons_cons, String.append_assoc]
      exact (hquote (by decide) (by decide) text).append ih

theorem reads_checkSql (cfg : Config) {c : Column} (hname : Unquoted c.name) :
    Reads (c.checkSql cfg) c.allowed := by
  rw [checkSql]
  split
  · next hempty =>
    rw [List.isEmpty_iff.mp hempty]
    exact .of_unquoted (by decide)
  · have hopen : Reads (" check (" ++ wrapValue cfg c.name ++ " in (") [] :=
      ((Reads.of_unquoted (by decide)).append (reads_wrapValue cfg hname)).append
        (.of_unquoted (by decide))
    rw [String.append_assoc]
    exact hopen.append (reads_quotes (by decide) (by decide) c.allowed)

/-- **The literals of a column definition** are its texts, in order. -/
theorem reads_definitionSql {cfg : Config} {c : Column}
    (hname : ∀ s ∈ columnSources cfg c.name, Unquoted s)
    (hraw : ∀ sql, c.default = some (.raw sql) → Unquoted sql) :
    Reads (c.definitionSql cfg) c.texts := by
  have hhead : Reads (wrap cfg c.name ++ " " ++ c.typeSql) [] :=
    ((reads_wrap hname).append (.of_unquoted (by decide))).append
      (.of_unquoted c.unquoted_typeSql)
  have hdefault : Reads (c.defaultSql ++ if c.nullable then " null" else " not null")
      (c.default.bind DefaultValue.literal?).toList := by
    refine reads_defaultSql hraw ?_ ?_ <;> cases c.nullable <;> decide
  rw [definitionSql, modifiersSql]
  exact hhead.append (hdefault.append
    (reads_checkSql cfg (hname _ List.mem_cons_self)))

end Column

/-! ### Comments -/

namespace Blueprint

/-- The comments of a blueprint, in the order of their statements. -/
def commentTexts (b : Blueprint) : List String :=
  b.comment.toList ++ b.commentedColumns.map Prod.snd

/-- **The one literal of a comment** is the comment. -/
theorem literals?_commentsSql {c : Config} {b : Blueprint}
    (htable : ∀ s ∈ tableSources c b.name, Unquoted s)
    (hcolumns : ∀ p ∈ b.commentedColumns, Unquoted p.1) :
    (b.commentsSql c).map literals? = b.commentTexts.map fun text => some [text] := by
  have hname : Reads (wrapTable c b.name) [] := reads_wrapTable htable
  have htext {s : String} (hs : Unquoted s) : Reads s [] := .of_unquoted hs
  rw [commentsSql, commentTexts, List.map_append, List.map_append, List.map_map, List.map_map,
    List.map_map]
  refine congrArg₂ (· ++ ·) (List.map_congr_left fun text _ => ?_)
    (List.map_congr_left fun p hp => ?_)
  · exact (((htext (by decide)).append hname).append
      (htext (by decide))).literals?_append_quote text
  · exact (((((htext (by decide)).append hname).append (htext (by decide))).append
      (reads_wrapValue c (hcolumns p hp))).append (htext (by decide))).literals?_append_quote p.2

end Blueprint

/-- **No text leaves its literal.**  A literal is read back in front of anything but a quote; the
literals of a column definition are its texts, and each comment statement has one, the comment.  The
definition may have an expression for a default; that and the identifiers hold no quotes. -/
theorem texts_stay_literal :
    (∀ s rest : String, rest.toList.head? ≠ some '\'' →
      readLiteral? (quote s ++ rest) = some (s, rest)) ∧
    (∀ (cfg : Config) (c : Column), (∀ s ∈ columnSources cfg c.name, Unquoted s) →
      (∀ sql, c.default = some (.raw sql) → Unquoted sql) →
      literals? (c.definitionSql cfg) = some c.texts) ∧
    ∀ (cfg : Config) (b : Blueprint), (∀ s ∈ tableSources cfg b.name, Unquoted s) →
      (∀ p ∈ b.commentedColumns, Unquoted p.1) →
      (b.commentsSql cfg).map literals? = b.commentTexts.map fun text => some [text] := by
  refine ⟨fun s rest h => readLiteral?_quote_iff.mpr h, fun cfg c hname hraw => ?_,
    fun cfg b htable hcolumns => Blueprint.literals?_commentsSql htable hcolumns⟩
  exact (Column.reads_definitionSql hname hraw).literals?_eq

/-- Quotes at the end of a text, next to each other and alone. -/
theorem texts_stay_literal_quotes :
    readLiteral? (quote "O'Brien''" ++ ", 'x'") = some ("O'Brien''", ", 'x'") ∧
    literals? (Column.definitionSql Config.standard
        { Column.of "level" .enum with default := some (.text "'"), allowed := ["'", "it''s"] })
      = some ["'", "'", "it''s"] ∧
    (Blueprint.commentsSql Config.standard
        { Blueprint.of "users" with comment := some "'", columnComments := [("size", "5' 2\"")] }).map
          literals?
      = [some ["'"], some ["5' 2\""]] :=
  ⟨texts_stay_literal.1 _ _ (by decide),
    texts_stay_literal.2.1 _ _ (by decide +kernel) nofun,
    texts_stay_literal.2.2 _ _ (by decide +kernel) (by decide +kernel)⟩

/-- **A quote in the table prefix opens a literal**, and the texts that follow are outside of theirs,
although the column and the table have names without quotes. -/
theorem prefix_quote_opens_literal :
    let cfg := { Config.standard with tablePrefix := "o'" }
    let c := { Column.of "users.kind" .string with default := some (.text "low") }
    let b := { Blueprint.of "users" with comment := some "all" }
    Unquoted c.name ∧ literals? (c.definitionSql cfg) ≠ some c.texts ∧
      Unquoted b.name ∧ (b.commentsSql cfg).map literals? ≠ [some ["all"]] := by
  decide +kernel

end OracleSql
