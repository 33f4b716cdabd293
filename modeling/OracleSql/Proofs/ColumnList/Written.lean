import OracleSql.ColumnList.Parser
import OracleSql.Literal
import Mathlib.Data.List.Forall2

/-!
# Columns as a list writes them

The concrete syntax of column lists, as a relation between columns and texts that no reader is
mentioned in: `name:type(arguments)` and then the modifiers, each after a colon and in any order,
with a comma between two columns and gaps at will on both sides of it.  Keywords stand in any ASCII
case (`Spells`), texts in single quotes.

A text that is to be read back may not have a quote in it, and not every column can be said:
`Expressible` collects what a column list can say, and `exists_writesColumns` writes it.
-/

namespace OracleSql.ColumnList

/-! ### Words, texts and gaps -/

/-- A text is the word, which is in lower case, in some ASCII case. -/
def Spells (word : String) (cs : List Char) : Prop :=
  cs.map Char.toLower = word.toList

/-- White space as it may stand around a comma. -/
def Gap (cs : List Char) : Prop :=
  ∀ c ∈ cs, isGap c = true

theorem gap_nil : Gap [] := nofun

instance (word : String) (cs : List Char) : Decidable (Spells word cs) :=
  inferInstanceAs (Decidable (_ = _))

instance (cs : List Char) : Decidable (Gap cs) :=
  List.decidableBAll (fun c => isGap c = true) cs

def inQuotes (s : String) : List Char :=
  '\'' :: (s.toList ++ ['\''])

def digits (n : Nat) : List Char :=
  (toString n).toList

/-! ### What stands after the type -/

/-- The arguments with which a column is written: none, its length, precision and places, or the
precision alone of a float or a decimal. -/
inductive HasArguments (c : Column) : Option (UInt32 × Option UInt32) → Prop
  | none (hlength : c.length = .none) (hprecision : c.precision = .none)
      (hplaces : c.places = .none) : HasArguments c .none
  | length (n : UInt32) (hlength : c.length = some n) (hprecision : c.precision = .none)
      (hplaces : c.places = .none) : HasArguments c (some (n, .none))
  | places (n places : UInt32) (hlength : c.length = .none) (hprecision : c.precision = some n)
      (hplaces : c.places = some places) : HasArguments c (some (n, some places))
  | precision (n : UInt32) (htype : c.type = .float ∨ c.type = .decimal)
      (hlength : c.length = .none) (hprecision : c.precision = some n)
      (hplaces : c.places = .none) : HasArguments c (some (n, .none))

inductive WritesArguments : Option (UInt32 × Option UInt32) → List Char → Prop
  | none : WritesArguments none []
  | one (n : UInt32) : WritesArguments (some (n, .none)) ('(' :: (digits n.toNat ++ [')']))
  | two (m n : UInt32) {before after : List Char} (hbefore : Gap before) (hafter : Gap after) :
      WritesArguments (some (m, some n))
        ('(' :: (digits m.toNat ++ (before ++ ',' :: (after ++ (digits n.toNat ++ [')'])))))

/-- A default: a text in quotes, or a truth value, a number or an expression as it is. -/
inductive WritesDefault : DefaultValue → List Char → Prop
  | text {s : String} (hs : QuoteFree s) : WritesDefault (.text s) (inQuotes s)
  | bool (b : Bool) {cs : List Char} (hcs : Spells (toString b) cs) : WritesDefault (.bool b) cs
  | int (n : Int64) : WritesDefault (.int n) (toString n.toInt).toList
  | raw {s : String} (hs : Text.asciiLower s ∈ defaultExpressions) : WritesDefault (.raw s) s.toList

/-- The modifiers without a value and their keywords. -/
def flagWords : List (String × Modifier) := [
  ("nullable", .nullable), ("ai", .autoIncrement), ("primary", .primary), ("pk", .primary),
  ("unique", .unique), ("index", .index), ("nocache", .nocache)]

/-- A modifier, without the colon before it. -/
inductive WritesModifier : Modifier → List Char → Prop
  | flag {word : String} {m : Modifier} (hm : (word, m) ∈ flagWords) {cs : List Char}
      (hcs : Spells word cs) : WritesModifier m cs
  | default {key : List Char} (hkey : Spells "default=" key) {d : DefaultValue} {cs : List Char}
      (hcs : WritesDefault d cs) : WritesModifier (.default d) (key ++ cs)
  | comment {key : List Char} (hkey : Spells "comment=" key) {s : String} (hs : QuoteFree s) :
      WritesModifier (.comment s) (key ++ inQuotes s)
  | allowed {key : List Char} (hkey : Spells "in=" key) {s : String} {more : List String}
      (hs : ∀ value ∈ s :: more, QuoteFree value) :
      WritesModifier (.allowed (s :: more))
        (key ++ (inQuotes s ++ more.flatMap fun value => '|' :: inQuotes value))
  | start {key : List Char} (hkey : Spells "start=" key) (n : UInt64) :
      WritesModifier (.start n) (key ++ digits n.toNat)

/-- A modifier that is there when a flag is set. -/
def flagged (b : Bool) (m : Modifier) : List Modifier :=
  if b then [m] else []

/-- The modifiers of a column: all that its name, its type and its arguments do not say. -/
def modifiersOf (c : Column) : List Modifier :=
  flagged c.nullable .nullable ++ flagged c.autoIncrement .autoIncrement ++
    flagged c.primary .primary ++ flagged c.unique .unique ++ flagged c.index .index ++
    flagged c.nocache .nocache ++ (c.default.map Modifier.default).toList ++
    (c.comment.map Modifier.comment).toList ++ flagged (c.allowed ≠ []) (.allowed c.allowed) ++
    (c.startValue.map Modifier.start).toList

/-! ### Columns -/

/-- **A column as it is written**: the name, a colon, one of the names of the type, the arguments,
and the modifiers in some order, each after a colon. -/
inductive WritesColumn (c : Column) : List Char → Prop
  | intro {typeName : String} (htype : (typeName, c.type) ∈ ColumnType.names) {type : List Char}
      (hspells : Spells typeName type) {args : Option (UInt32 × Option UInt32)}
      (hargs : HasArguments c args) {written : List Char} (hwritten : WritesArguments args written)
      {ms : List Modifier} (hms : ms.Perm (modifiersOf c)) {texts : List (List Char)}
      (htexts : List.Forall₂ WritesModifier ms texts) :
      WritesColumn c
        (c.name.toList ++ ':' :: (type ++ (written ++ texts.flatMap fun text => ':' :: text)))

inductive WritesMore : List Column → List Char → Prop
  | nil : WritesMore [] []
  | cons {c : Column} {before after cs : List Char} (hbefore : Gap before) (hafter : Gap after)
      (hc : WritesColumn c cs) {rest : List Column} {more : List Char}
      (hmore : WritesMore rest more) :
      WritesMore (c :: rest) (before ++ ',' :: (after ++ (cs ++ more)))

/-- **A list of columns as it is written**, with commas between the columns. -/
inductive WritesColumns : List Column → List Char → Prop
  | cons {c : Column} {cs : List Char} (hc : WritesColumn c cs) {rest : List Column}
      {more : List Char} (hmore : WritesMore rest more) : WritesColumns (c :: rest) (cs ++ more)

/-! ### What can be written -/

/-- The defaults that a column list can say: no floating-point number, and of the expressions only
those that stand without quotes. -/
def ExpressibleDefault : DefaultValue → Prop
  | .raw sql => Text.asciiLower sql ∈ defaultExpressions
  | .bool _ => True
  | .int _ => True
  | .float _ => False
  | .text s => QuoteFree s

/-- **The columns that a column list can say.**  They have a name of letters, digits and
underscores, they do not change a column that exists, and no text in them has a quote. -/
structure Expressible (c : Column) : Prop where
  name_ne : c.name.toList ≠ []
  name_chars : ∀ ch ∈ c.name.toList, isNameChar ch = true
  change : c.change = false
  arguments : ∃ args, HasArguments c args
  default : ∀ d ∈ c.default, ExpressibleDefault d
  comment : ∀ s ∈ c.comment, QuoteFree s
  allowed : ∀ s ∈ c.allowed, QuoteFree s

theorem exists_writesDefault {d : DefaultValue} (h : ExpressibleDefault d) :
    ∃ cs, WritesDefault d cs := by
  cases d with
  | raw sql => exact ⟨_, .raw h⟩
  | bool b => exact ⟨(toString b).toList, .bool b (by cases b <;> rfl)⟩
  | int n => exact ⟨_, .int n⟩
  | float x => exact h.elim
  | text s => exact ⟨_, .text h⟩

theorem mem_flagged {b : Bool} {m m' : Modifier} : m ∈ flagged b m' ↔ b = true ∧ m = m' := by
  cases b <;> simp [flagged]

theorem exists_writesModifier {c : Column} (h : Expressible c) {m : Modifier}
    (hm : m ∈ modifiersOf c) : ∃ cs, WritesModifier m cs := by
  simp only [modifiersOf, List.mem_append, or_assoc] at hm
  have ofFlag (word : String) {m' : Modifier} (hword : (word, m') ∈ flagWords)
      (hlower : Spells word word.toList) {b : Bool} (hm : m ∈ flagged b m') :
      ∃ cs, WritesModifier m cs := by
    rw [(mem_flagged.mp hm).2]
    exact ⟨_, .flag hword hlower⟩
  rcases hm with hm | hm | hm | hm | hm | hm | hm | hm | hm | hm
  · exact ofFlag "nullable" (by simp [flagWords]) rfl hm
  · exact ofFlag "ai" (by simp [flagWords]) rfl hm
  · exact ofFlag "primary" (by simp [flagWords]) rfl hm
  · exact ofFlag "unique" (by simp [flagWords]) rfl hm
  · exact ofFlag "index" (by simp [flagWords]) rfl hm
  · exact ofFlag "nocache" (by simp [flagWords]) rfl hm
  · obtain ⟨d, hd, rfl⟩ := Option.map_eq_some_iff.mp (Option.mem_toList.mp hm)
    obtain ⟨cs, hcs⟩ := exists_writesDefault (h.default d hd)
    exact ⟨_, .default (show Spells _ "default=".toList from rfl) hcs⟩
  · obtain ⟨s, hs, rfl⟩ := Option.map_eq_some_iff.mp (Option.mem_toList.mp hm)
    exact ⟨_, .comment (show Spells _ "comment=".toList from rfl) (h.comment s hs)⟩
  · obtain ⟨hne, rfl⟩ := mem_flagged.mp hm
    obtain ⟨s, more, hallowed⟩ := List.exists_cons_of_ne_nil (of_decide_eq_true hne)
    rw [hallowed]
    exact ⟨_, .allowed (show Spells _ "in=".toList from rfl) (hallowed ▸ h.allowed)⟩
  · obtain ⟨n, -, rfl⟩ := Option.map_eq_some_iff.mp (Option.mem_toList.mp hm)
    exact ⟨_, .start (show Spells _ "start=".toList from rfl) n⟩

theorem exists_mem_names (type : ColumnType) :
    ∃ name, (name, type) ∈ ColumnType.names ∧ Spells name name.toList := by
  have hnamed : ∀ pair ∈ ColumnType.names, Spells pair.1 pair.1.toList := by decide +kernel
  have htype : ∃ pair ∈ ColumnType.names, pair.2 = type := by
    cases type <;> decide +kernel
  obtain ⟨⟨name, _⟩, hmem, rfl⟩ := htype
  exact ⟨name, hmem, hnamed _ hmem⟩

theorem exists_writesColumn {c : Column} (h : Expressible c) : ∃ cs, WritesColumn c cs := by
  obtain ⟨name, hname, hspells⟩ := exists_mem_names c.type
  obtain ⟨args, hargs⟩ := h.arguments
  have hwritten : ∃ written, WritesArguments args written := by
    rcases args with _ | ⟨m, _ | n⟩
    · exact ⟨_, .none⟩
    · exact ⟨_, .one m⟩
    · exact ⟨_, .two m n gap_nil gap_nil⟩
  obtain ⟨written, hwritten⟩ := hwritten
  have htexts : ∀ ms : List Modifier, (∀ m ∈ ms, m ∈ modifiersOf c) →
      ∃ texts, List.Forall₂ WritesModifier ms texts := by
    intro ms
    induction ms with
    | nil => exact fun _ => ⟨[], .nil⟩
    | cons m ms ih =>
      intro hms
      obtain ⟨text, htext⟩ := exists_writesModifier h (hms m List.mem_cons_self)
      obtain ⟨texts, htexts⟩ := ih fun m' hm' => hms m' (List.mem_cons_of_mem _ hm')
      exact ⟨text :: texts, .cons htext htexts⟩
  obtain ⟨texts, htexts⟩ := htexts (modifiersOf c) fun _ hm => hm
  exact ⟨_, .intro hname hspells hargs hwritten (.refl _) htexts⟩

/-- **What can be said can be written.** -/
theorem exists_writesColumns {columns : List Column} (hne : columns ≠ [])
    (h : ∀ c ∈ columns, Expressible c) : ∃ text, WritesColumns columns text := by
  have hmore : ∀ rest : List Column, (∀ c ∈ rest, Expressible c) → ∃ more, WritesMore rest more := by
    intro rest
    induction rest with
    | nil => exact fun _ => ⟨[], .nil⟩
    | cons c rest ih =>
      intro hrest
      obtain ⟨cs, hcs⟩ := exists_writesColumn (hrest c List.mem_cons_self)
      obtain ⟨more, hmore⟩ := ih fun c' hc' => hrest c' (List.mem_cons_of_mem _ hc')
      exact ⟨_, .cons gap_nil gap_nil hcs hmore⟩
  cases columns with
  | nil => exact absurd rfl hne
  | cons c rest =>
    obtain ⟨cs, hcs⟩ := exists_writesColumn (h c List.mem_cons_self)
    obtain ⟨more, hmore⟩ := hmore rest fun c' hc' => h c' (List.mem_cons_of_mem _ hc')
    exact ⟨_, .cons hcs hmore⟩

end OracleSql.ColumnList
