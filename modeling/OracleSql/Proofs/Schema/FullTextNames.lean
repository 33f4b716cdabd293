import Mathlib.Data.List.Nodup
import Mathlib.Data.Nat.Digits.Defs
import OracleSql.Proofs.Identifier.Qualified
import OracleSql.Proofs.Identifier.Shortening
import OracleSql.Proofs.Schema.Accepted

/-!
# Full-text indexes and their preferences

The indexes of a full-text command on several columns are named after one base, and so is the
preference they read through.  The base is shortened to what the preference leaves of the limit.
The name of a preference is longer than its base by eleven bytes, and that of an index by an
underscore and a number: so the index names fit as long as their numbers have ten digits.

Here the names are given as plain functions of the command (`IndexSpec.base`,
`IndexSpec.preference`, `IndexSpec.fulltextIndexes`), and what the compilations yield is said in
terms of them.  The number of an index holds no underscore, so the base of a preference is what
stands before the last underscore of each of its indexes (`beforeLast_numberedName`).
-/

namespace OracleSql

open Identifier

/-! ### Numbered names -/

def numberedName (base : String) (n : Nat) : String :=
  base ++ "_" ++ toString n

theorem byteLength_of_isDigit {cs : List Char} (h : ∀ c ∈ cs, c.isDigit = true) :
    Text.byteLength cs = cs.length := by
  induction cs with
  | nil => rfl
  | cons c cs ih =>
    obtain ⟨hc, hcs⟩ := List.forall_mem_cons.mp h
    have hsize : c.utf8Size = 1 :=
      Text.ofNat_cases (P := fun c => c.utf8Size = 1) (by decide +kernel) (Text.isDigit_lt hc)
    rw [Text.byteLength_cons, hsize, ih hcs, List.length_cons, Nat.add_comm]

theorem utf8ByteSize_toString_le {n k : Nat} (hpos : 0 < k) (h : n < 10 ^ k) :
    (toString n).utf8ByteSize ≤ k := by
  have hsize := Text.utf8ByteSize_ofList (toString n).toList
  rw [String.ofList_toList,
    byteLength_of_isDigit fun c hc => Text.isDigit_of_mem_toString hc] at hsize
  have hlength : (toString n).toList.length ≤ k := by
    rw [Nat.toString_eq_ofList_toDigits, String.toList_ofList]
    exact Nat.toDigits_length 10 n k hpos h
  omega

theorem numberedName_injective (base : String) : Function.Injective (numberedName base) := by
  intro n m h
  have hlist : (base ++ "_").toList ++ (toString n).toList
      = (base ++ "_").toList ++ (toString m).toList := by
    rw [← String.toList_append, ← String.toList_append]
    exact congrArg String.toList h
  have hread := congrArg Text.natOfDigits? (List.append_cancel_left hlist)
  rw [Text.natOfDigits?_toString, Text.natOfDigits?_toString] at hread
  exact Option.some.inj hread

/-- **The base of a numbered name** stands before its last underscore. -/
theorem beforeLast_numberedName (base : String) (n : Nat) :
    Text.beforeLast '_' (numberedName base n) = base := by
  have hdigits : '_' ∉ (toString n).toList := fun h =>
    absurd (Text.isDigit_of_mem_toString h) (by decide)
  refine (Text.around_last (y := toString n) hdigits ?_).1
  rw [numberedName, String.toList_append, String.toList_append, List.append_assoc]
  rfl

/-! ### What a full-text command yields -/

namespace IndexSpec

def objectName (c : Config) (table : String) (kind : IndexKind) (spec : IndexSpec) : String :=
  shorten c.maxLength (specStem c table kind spec)

theorem utf8ByteSize_objectName_le (c : Config) (table : String) (kind : IndexKind)
    (spec : IndexSpec) : (spec.objectName c table kind).utf8ByteSize ≤ c.maxLength :=
  utf8ByteSize_shorten_le _ _

/-- What the full-text indexes of a command and their preference are named after. -/
def base (c : Config) (table : String) (spec : IndexSpec) : String :=
  if spec.isMultiColumn then
    shorten (c.maxLength - preferenceSuffix.utf8ByteSize) (spec.objectName c table .fulltext)
  else spec.objectName c table .fulltext

@[simp] theorem result_fulltextBase (c : Config) (table : String) (spec : IndexSpec) :
    (spec.fulltextBase c table).result = .ok (spec.base c table) := by
  refine Compile.result_bind_eq_ok.mpr ⟨_, result_specName _ _ _ _, ?_⟩
  rw [base]
  split
  · exact result_shortened _ _
  · rfl

/-- The preference through which the indexes of a command on several columns read. -/
def preference (c : Config) (table : String) (spec : IndexSpec) : Preference :=
  ⟨preferenceName (spec.base c table), spec.columns⟩

end IndexSpec

/-- A full-text index on one column. -/
structure FulltextIndex where
  name : String
  column : String
  /-- The name of the preference through which it reads several columns. -/
  datastore : Option String

def FulltextIndex.sql (c : Config) (table : String) (i : FulltextIndex) : String :=
  "create index " ++ i.name ++ " on " ++ wrapTable c table ++ " (" ++ wrap c i.column
    ++ ") indextype is ctxsys.context parameters (''"
    ++ (match i.datastore with
        | some preference => "datastore " ++ preference ++ " "
        | none => "")
    ++ "sync(on commit)'')"

theorem fulltextStatement_eq (c : Config) (table base : String) (multi : Bool) (n : Nat)
    (column : String) :
    IndexSpec.fulltextStatement c table base multi n column
      = FulltextIndex.sql c table
        (if multi then ⟨numberedName base n, column, some (preferenceName base)⟩
          else ⟨base, column, none⟩) := by
  cases multi <;> rfl

namespace IndexSpec

/-- The index of a full-text command on one of its columns, `n` being the place of the column. -/
def fulltextIndex (c : Config) (table : String) (spec : IndexSpec) (column : String) (n : Nat) :
    FulltextIndex :=
  if spec.isMultiColumn then
    ⟨numberedName (spec.base c table) n, column, some (spec.preference c table).name⟩
  else ⟨spec.base c table, column, none⟩

/-- **The indexes of a full-text command**, one for each column. -/
def fulltextIndexes (c : Config) (table : String) (spec : IndexSpec) : List FulltextIndex :=
  spec.columns.zipIdx.map fun place => spec.fulltextIndex c table place.1 place.2

def fulltextBlock (c : Config) (table : String) (indexes : List FulltextIndex) : String :=
  "begin " ++ " ".intercalate (indexes.map fun i => "execute immediate '" ++ i.sql c table ++ "';")
    ++ " end;"

theorem result_createFulltext (c : Config) (table : String) (spec : IndexSpec) :
    (spec.createFulltext c table).result
      = .ok (fulltextBlock c table (spec.fulltextIndexes c table)) := by
  refine Compile.result_bind_eq_ok.mpr ⟨_, result_fulltextBase _ _ _, ?_⟩
  rw [fulltextBlock, fulltextIndexes, List.map_map]
  refine congrArg (fun texts => Except.ok ("begin " ++ " ".intercalate texts ++ " end;")) ?_
  refine List.map_congr_left fun place _ => ?_
  exact congrArg (fun sql => "execute immediate '" ++ sql ++ "';") (fulltextStatement_eq ..)

end IndexSpec

/-- What a full-text command is about. -/
def SchemaCommand.fulltext? : SchemaCommand → Option IndexSpec
  | fulltext spec => some spec
  | _ => none

/-- The full-text commands on several columns. -/
def multiColumn (commands : List SchemaCommand) : List IndexSpec :=
  (commands.filterMap SchemaCommand.fulltext?).filter IndexSpec.isMultiColumn

theorem fulltext_mem_of_mem_multiColumn {commands : List SchemaCommand} {spec : IndexSpec}
    (h : spec ∈ multiColumn commands) : .fulltext spec ∈ commands := by
  obtain ⟨command, hmem, hspec⟩ := List.mem_filterMap.mp (List.mem_filter.mp h).1
  cases command with
  | fulltext _ =>
    cases hspec
    exact hmem
  | _ => cases hspec

/-- **One preference for each full-text command on several columns**, in order. -/
theorem Preference.result_ofCommands (c : Config) (table : String)
    (commands : List SchemaCommand) :
    (Preference.ofCommands c table commands).result
      = .ok ((multiColumn commands).map (·.preference c table)) := by
  induction commands with
  | nil => rfl
  | cons command rest ih =>
    cases command with
    | fulltext spec =>
      have hcons : multiColumn (.fulltext spec :: rest)
          = if spec.isMultiColumn then spec :: multiColumn rest else multiColumn rest :=
        List.filter_cons
      rw [ofCommands, hcons]
      by_cases hmulti : spec.isMultiColumn = true
      · rw [if_pos hmulti, if_pos hmulti]
        exact Compile.result_bind_eq_ok.mpr ⟨_, IndexSpec.result_fulltextBase _ _ _,
          Compile.result_bind_eq_ok.mpr ⟨_, ih, rfl⟩⟩
      · rw [if_neg hmulti, if_neg hmulti]
        exact ih
    | _ => exact ih

/-! ### The names fit -/

theorem utf8ByteSize_preferenceSuffix : preferenceSuffix.utf8ByteSize = 11 := by decide

/-- **The base of several columns leaves room** for the end of the preference and for the number
of an index. -/
theorem IndexSpec.utf8ByteSize_base_le {c : Config} {spec : IndexSpec} (hlimit : 11 ≤ c.maxLength)
    (hmulti : spec.isMultiColumn = true) (table : String) :
    (spec.base c table).utf8ByteSize + 11 ≤ c.maxLength := by
  have hbase : (spec.base c table).utf8ByteSize ≤ c.maxLength - preferenceSuffix.utf8ByteSize := by
    rw [base, if_pos hmulti]
    exact utf8ByteSize_shorten_le _ _
  rw [utf8ByteSize_preferenceSuffix] at hbase
  omega

theorem IndexSpec.utf8ByteSize_preference_le {c : Config} {spec : IndexSpec}
    (hlimit : 11 ≤ c.maxLength) (hmulti : spec.isMultiColumn = true) (table : String) :
    (spec.preference c table).name.utf8ByteSize ≤ c.maxLength := by
  have hbase := utf8ByteSize_base_le hlimit hmulti table
  have hname : (spec.preference c table).name.utf8ByteSize
      = (spec.base c table).utf8ByteSize + preferenceSuffix.utf8ByteSize :=
    String.utf8ByteSize_append
  rw [utf8ByteSize_preferenceSuffix] at hname
  omega

/-- A number of ten digits and an underscore take as much as the end of a preference. -/
theorem utf8ByteSize_numberedName_le {base : String} {limit n : Nat}
    (hbase : base.utf8ByteSize + 11 ≤ limit) (hn : n < 10 ^ 10) :
    (numberedName base n).utf8ByteSize ≤ limit := by
  have hdigits := utf8ByteSize_toString_le (k := 10) (by omega) hn
  have hunderscore : "_".utf8ByteSize = 1 := by decide
  rw [numberedName, String.utf8ByteSize_append, String.utf8ByteSize_append]
  omega

/-- What a full-text index is, of a command on several columns or on one. -/
theorem IndexSpec.mem_fulltextIndexes {c : Config} {table : String} {spec : IndexSpec}
    {i : FulltextIndex} (h : i ∈ spec.fulltextIndexes c table) :
    (spec.isMultiColumn = true ∧ ∃ n < spec.columns.length,
      i.name = numberedName (spec.base c table) n ∧
        i.datastore = some (spec.preference c table).name) ∨
    (spec.isMultiColumn = false ∧ i.name = spec.objectName c table .fulltext ∧
      i.datastore = none) := by
  obtain ⟨⟨column, n⟩, hmem, rfl⟩ := List.mem_map.mp h
  rw [fulltextIndex]
  by_cases hmulti : spec.isMultiColumn = true
  · rw [if_pos hmulti]
    exact Or.inl ⟨hmulti, n, List.snd_lt_of_mem_zipIdx hmem, rfl, rfl⟩
  · rw [if_neg hmulti]
    exact Or.inr ⟨Bool.eq_false_iff.mpr hmulti, if_neg hmulti, rfl⟩

/-- **The names of full-text indexes fit**, and so do those of the preferences they name. -/
theorem IndexSpec.fulltextIndexes_fit {c : Config} (hlimit : 11 ≤ c.maxLength) {table : String}
    {spec : IndexSpec} (hcolumns : spec.columns.length ≤ 10 ^ 10) {i : FulltextIndex}
    (hi : i ∈ spec.fulltextIndexes c table) :
    i.name.utf8ByteSize ≤ c.maxLength ∧
      ∀ name ∈ i.datastore, name.utf8ByteSize ≤ c.maxLength := by
  rcases mem_fulltextIndexes hi with ⟨hmulti, n, hn, hname, hdatastore⟩ | ⟨_, hname, hdatastore⟩
  · rw [hname, hdatastore]
    refine ⟨utf8ByteSize_numberedName_le (utf8ByteSize_base_le hlimit hmulti table) (by omega), ?_⟩
    rintro name ⟨⟩
    exact utf8ByteSize_preference_le hlimit hmulti table
  · rw [hname, hdatastore]
    exact ⟨utf8ByteSize_objectName_le _ _ _ _, fun name hname => by cases hname⟩

/-! ### The names lead back -/

/-- **The indexes of one command have different names**, when it has several columns. -/
theorem IndexSpec.nodup_fulltextIndexes {spec : IndexSpec} (hmulti : spec.isMultiColumn = true)
    (c : Config) (table : String) :
    ((spec.fulltextIndexes c table).map (·.name)).Nodup := by
  have hnames : (spec.fulltextIndexes c table).map (·.name)
      = (spec.columns.zipIdx.map Prod.snd).map (numberedName (spec.base c table)) := by
    rw [fulltextIndexes, List.map_map, List.map_map]
    refine List.map_congr_left fun place _ => ?_
    exact congrArg FulltextIndex.name (if_pos hmulti)
  rw [hnames, List.zipIdx_map_snd]
  exact List.Nodup.map (numberedName_injective _) List.nodup_range'

theorem IndexSpec.columns_fulltextIndexes (c : Config) (table : String) (spec : IndexSpec) :
    (spec.fulltextIndexes c table).map (·.column) = spec.columns := by
  have hcolumn (place : String × Nat) :
      (spec.fulltextIndex c table place.1 place.2).column = place.1 := by
    rw [fulltextIndex]
    split <;> rfl
  rw [fulltextIndexes, List.map_map]
  conv_rhs => rw [← List.zipIdx_map_fst 0 spec.columns]
  exact List.map_congr_left fun place _ => hcolumn place

/-- **A name leads back to its preference**: what stands before its last underscore, ended as
preferences are, is the preference of the command and the one that the index names. -/
theorem IndexSpec.preference_of_fulltextIndex {c : Config} {table : String} {spec : IndexSpec}
    (hmulti : spec.isMultiColumn = true) {i : FulltextIndex}
    (hi : i ∈ spec.fulltextIndexes c table) :
    preferenceName (Text.beforeLast '_' i.name) = (spec.preference c table).name ∧
      i.datastore = some (spec.preference c table).name := by
  rcases mem_fulltextIndexes hi with ⟨_, n, _, hname, hdatastore⟩ | ⟨hsingle, _, _⟩
  · rw [hname, beforeLast_numberedName]
    exact ⟨rfl, hdatastore⟩
  · rw [hmulti] at hsingle
    cases hsingle

end OracleSql
