import OracleSql.ColumnList.Parser
import OracleSql.Proofs.Text.Ends

/-!
# Positions of faults

Where a column list cannot be read, the error quotes the rest of the text and says how many bytes
stand before it.  Whatever reader gives up, the rest is an end of what it was given
(`restOf_columns?_suffix`), so the position is a place between two characters and the rest stands
there.

But the text that is read is the one without white space around it.  At its end this does no harm, as
the rest is quoted without it; at its start it moves every position.  So a position points into the
text itself if and only if the text does not start with white space
(`parseColumns_points_iff`).
-/

namespace OracleSql

namespace ColumnList

/-! ### What is left is an end of the input -/

/-- What a reader has not read, whether it has read something or not. -/
def restOf {α : Type} : Except (List Char) (α × List Char) → List Char
  | .error rest => rest
  | .ok (_, rest) => rest

theorem name?_suffix {cs rest : List Char} {s : String} (h : name? cs = some (s, rest)) :
    rest <:+ cs := by
  obtain ⟨⟨run, rest'⟩, hrun, heq⟩ := Option.map_eq_some_iff.mp h
  cases heq
  exact run?_suffix hrun

theorem type?_suffix {cs rest : List Char} {type : ColumnType × Bool}
    (h : type? cs = some (type, rest)) : rest <:+ cs := by
  obtain ⟨⟨name, rest'⟩, hname, h⟩ := Option.bind_eq_some_iff.mp h
  obtain ⟨type', -, heq⟩ := Option.bind_eq_some_iff.mp h
  cases heq
  exact name?_suffix hname

theorem size?_suffix {cs rest : List Char} {n : UInt32} (h : size? cs = some (n, rest)) :
    rest <:+ cs := by
  obtain ⟨⟨digits, rest'⟩, hrun, h⟩ := Option.bind_eq_some_iff.mp h
  obtain ⟨n', -, h⟩ := Option.bind_eq_some_iff.mp h
  split at h
  · cases h
    exact run?_suffix hrun
  · cases h

theorem comma?_suffix {cs rest : List Char} (h : comma? cs = some rest) : rest <:+ cs := by
  rw [comma?] at h
  split at h
  · next tail heq =>
    cases h
    have htail : tail <:+ cs := (List.suffix_cons _ _).trans (heq ▸ List.dropWhile_suffix _)
    exact (List.dropWhile_suffix _).trans htail
  · cases h

theorem secondArgument_suffix (cs : List Char) : (secondArgument cs).2 <:+ cs := by
  rw [secondArgument]
  split
  · next n rest heq =>
    obtain ⟨next, hcomma, hsize⟩ := Option.bind_eq_some_iff.mp heq
    exact (size?_suffix hsize).trans (comma?_suffix hcomma)
  · exact List.suffix_rfl

theorem arguments?_suffix {cs rest : List Char} {args : UInt32 × Option UInt32}
    (h : arguments? cs = some (args, rest)) : rest <:+ cs := by
  unfold arguments? at h
  split at h
  · next cs =>
    obtain ⟨⟨first, afterFirst⟩, hfirst, h⟩ := Option.bind_eq_some_iff.mp h
    have hsecond := secondArgument_suffix afterFirst
    dsimp only at h
    split at h
    · next tail heq =>
      cases h
      rw [heq] at hsecond
      exact ((((List.suffix_cons _ _).trans hsecond).trans (size?_suffix hfirst)).trans
        (List.suffix_cons _ _))
    · cases h
  · cases h

/-- **A column leaves an end of its input**, also when it cannot be read. -/
theorem restOf_column?_suffix (cs : List Char) : restOf (column? cs) <:+ cs := by
  rw [column?]
  split
  · exact List.suffix_rfl
  · next name afterName hname =>
    have hafterName := name?_suffix hname
    split
    · next atType =>
      have hatType := (List.suffix_cons ':' atType).trans hafterName
      split
      · exact hatType
      · next type serial afterType htype =>
        have hafterType := (type?_suffix htype).trans hatType
        dsimp only
        split
        · next args rest hargs =>
          exact ((modifiers_suffix rest).trans (arguments?_suffix hargs)).trans hafterType
        · exact (modifiers_suffix afterType).trans hafterType
    · exact hafterName

theorem moreColumns_suffix (fuel : Nat) (cs : List Char) : (moreColumns fuel cs).2 <:+ cs := by
  induction fuel generalizing cs with
  | zero => exact List.suffix_rfl
  | succ fuel ih =>
    rw [moreColumns]
    split
    · exact List.suffix_rfl
    · next next hcomma =>
      split
      · exact List.suffix_rfl
      · next column rest hcolumn =>
        have hrest := restOf_column?_suffix next
        rw [hcolumn] at hrest
        exact ((ih rest).trans hrest).trans (comma?_suffix hcomma)

theorem restOf_columns?_suffix (cs : List Char) : restOf (columns? cs) <:+ cs := by
  have hfirst := restOf_column?_suffix cs
  rw [columns?]
  cases hcolumn : column? cs with
  | error rest =>
    rw [hcolumn] at hfirst
    exact hfirst
  | ok read =>
    rw [hcolumn] at hfirst
    exact (moreColumns_suffix _ _).trans hfirst

/-! ### Where a rest stands -/

/-- **A position, in bytes, points at a rest**: it is a place between two characters of the text, and
behind it stands the rest, with nothing but white space behind. -/
def PointsAt (s : String) (position : Nat) (rest : String) : Prop :=
  ∃ before after : String,
    s = before ++ after ∧ before.utf8ByteSize = position ∧ Text.trimEnd after = rest

theorem pointsAt_ofList_iff {s : String} {position : Nat} {rest : List Char} :
    PointsAt s position (String.ofList rest) ↔
      ∃ before after, s.toList = before ++ after ∧ Text.byteLength before = position ∧
        after.rdropWhile Text.isBlank = rest := by
  constructor
  · rintro ⟨before, after, rfl, rfl, hrest⟩
    refine ⟨before.toList, after.toList, String.toList_append, ?_, String.ofList_injective hrest⟩
    rw [← Text.utf8ByteSize_ofList, String.ofList_toList]
  · rintro ⟨before, after, hs, rfl, hrest⟩
    refine ⟨String.ofList before, String.ofList after, ?_, Text.utf8ByteSize_ofList before, ?_⟩
    · rw [← String.ofList_append, ← hs, String.ofList_toList]
    · rw [Text.trimEnd, String.toList_ofList, hrest]

/-- The white space that a text starts with. -/
def leadingBlank (s : String) : List Char :=
  s.toList.takeWhile Text.isBlank

def trimmed (s : String) : List Char :=
  Text.trimList Text.isBlank s.toList

section Rest

variable {s : String} {rest : List Char}

/-- **The rest stands at its position in the trimmed text**, and so at that behind the white space
before it. -/
theorem pointsAt_of_suffix (h : rest <:+ trimmed s) :
    PointsAt s (Text.byteLength (leadingBlank s)
        + (Text.byteLength (trimmed s) - Text.byteLength rest)) (String.ofList rest) := by
  obtain ⟨w, hs, hw⟩ := Text.exists_eq_append_trimList Text.isBlank s.toList
  have hrest := Text.rdropWhile_of_suffix h (Text.rdropWhile_trimList _ _)
  obtain ⟨front, hfront⟩ := h
  refine pointsAt_ofList_iff.mpr ⟨leadingBlank s ++ front, rest ++ w, ?_, ?_, ?_⟩
  · rw [← List.append_assoc (leadingBlank s ++ front), List.append_assoc (leadingBlank s), hfront,
      List.append_assoc]
    exact hs
  · rw [Text.byteLength_append, ← hfront, Text.byteLength_append, Nat.add_sub_cancel]
  · rw [Text.rdropWhile_append_of_forall hw, hrest]

/-- Without the white space at its end, a text is the white space at its start and the trimmed text. -/
theorem rdropWhile_eq_leadingBlank_append (hne : trimmed s ≠ []) :
    s.toList.rdropWhile Text.isBlank = leadingBlank s ++ trimmed s := by
  obtain ⟨w, hs, hw⟩ := Text.exists_eq_append_trimList Text.isBlank s.toList
  have hlast := List.rdropWhile_eq_self_iff.mp (Text.rdropWhile_trimList Text.isBlank s.toList) hne
  conv_lhs => rw [hs, ← List.append_assoc]
  rw [Text.rdropWhile_append_of_forall hw]
  refine List.rdropWhile_eq_self_iff.mpr fun hne' => ?_
  rw [List.getLast_append_of_ne_nil hne' hne]
  exact hlast

/-- **White space at the start moves the rest away from its position.**  What the text has before its
last white space is no longer than the position and the rest together. -/
theorem leadingBlank_eq_nil_of_pointsAt (h : rest <:+ trimmed s) (hne : trimmed s ≠ [])
    (hpoints : PointsAt s (Text.byteLength (trimmed s) - Text.byteLength rest)
      (String.ofList rest)) : leadingBlank s = [] := by
  obtain ⟨before, after, hsplit, hbefore, hafter⟩ := pointsAt_ofList_iff.mp hpoints
  have hprefix : leadingBlank s ++ trimmed s <+: before ++ rest := by
    have hcut : rest ++ after.rtakeWhile Text.isBlank = after := by
      rw [← hafter]
      exact List.rdropWhile_append_rtakeWhile
    rw [← rdropWhile_eq_leadingBlank_append hne, hsplit, ← hcut, ← List.append_assoc,
      Text.rdropWhile_append_of_forall fun c hc => List.mem_rtakeWhile_imp hc]
    exact List.rdropWhile_prefix _ _
  have hlength := Text.byteLength_le_of_isPrefix hprefix
  obtain ⟨front, hfront⟩ := h
  rw [Text.byteLength_append, Text.byteLength_append, hbefore, ← hfront, Text.byteLength_append]
    at hlength
  exact Text.eq_nil_of_byteLength_eq_zero (by omega)

/-- **The position in the trimmed text is one in the text** if and only if the text does not start with
white space. -/
theorem pointsAt_iff_of_suffix (h : rest <:+ trimmed s) (hne : trimmed s ≠ []) :
    PointsAt s (Text.byteLength (trimmed s) - Text.byteLength rest) (String.ofList rest) ↔
      ∀ c ∈ s.toList.head?, Text.isBlank c = false := by
  have hstart : leadingBlank s = [] ↔ ∀ c ∈ s.toList.head?, Text.isBlank c = false := by
    rw [leadingBlank]
    cases s.toList with
    | nil => exact ⟨nofun, fun _ => rfl⟩
    | cons c cs => simp [List.takeWhile_cons]
  rw [← hstart]
  refine ⟨leadingBlank_eq_nil_of_pointsAt h hne, fun hnil => ?_⟩
  have hpoints := pointsAt_of_suffix h
  rwa [hnil, Text.byteLength_nil, Nat.zero_add] at hpoints

end Rest

/-! ### Faults -/

/-- **The message quotes a rest**: as what follows the last column, or as what no column can be read
from. -/
def Quotes (fault : ParseFault) (rest : String) : Prop :=
  fault.message = "Unexpected trailing content: '" ++ rest ++ "'" ∨
    fault.message = "Invalid column spec near '" ++ rest ++ "'"

theorem trailing_ne_invalidColumn (text rest : String) :
    "Unexpected trailing content: '" ++ text ++ "'" ≠ "Invalid column spec near '" ++ rest ++ "'" := by
  intro h
  have hhead := congrArg (fun message => message.toList.head?) h
  simp at hhead

theorem not_quotes_of_head? {fault : ParseFault} {rest : String}
    (h : fault.message.toList.head? = some 'E') : ¬ Quotes fault rest := by
  rintro (hmessage | hmessage)
  · rw [hmessage] at h
    simp at h
  · rw [hmessage] at h
    simp at h

/-- **A message tells the fault and the rest.** -/
theorem quotes_iff {fault : ParseFault} {rest : String} :
    Quotes fault rest ↔ fault = .trailing rest ∨ fault = .invalidColumn rest := by
  cases fault with
  | trailing text =>
    have hmessage : (ParseFault.trailing text).message
        = "Unexpected trailing content: '" ++ text ++ "'" := rfl
    rw [Quotes, hmessage, or_iff_left (trailing_ne_invalidColumn text rest), String.append_left_inj,
      String.append_right_inj]
    simp
  | invalidColumn text =>
    have hmessage : (ParseFault.invalidColumn text).message
        = "Invalid column spec near '" ++ text ++ "'" := rfl
    rw [Quotes, hmessage, or_iff_right (trailing_ne_invalidColumn rest text).symm,
      String.append_left_inj, String.append_right_inj]
    simp
  | emptyList => exact iff_of_false (not_quotes_of_head? (by decide)) (by simp)
  | severalColumns count =>
    have hhead : ("Expected one column, found " ++ toString count).toList.head? = some 'E' := by
      simp
    exact iff_of_false (not_quotes_of_head? hhead) (by simp)

theorem error_of_parseColumns {s : String} {e : ParseError} (h : parseColumns s = .error e) :
    e = ⟨0, .emptyList⟩ ∨ ∃ rest, rest <:+ trimmed s ∧ trimmed s ≠ [] ∧
      (e = errorAt (trimmed s) rest .trailing ∨ e = errorAt (trimmed s) rest .invalidColumn) := by
  have hsuffix := restOf_columns?_suffix (trimmed s)
  rw [parseColumns] at h
  split at h
  · cases h
    exact .inl rfl
  · next hne =>
    have hne : trimmed s ≠ [] := fun hnil => hne (List.isEmpty_iff.mpr hnil)
    split at h
    · cases h
    · next columns rest _ hread =>
      cases h
      rw [show columns? (trimmed s) = _ from hread] at hsuffix
      exact .inr ⟨rest, hsuffix, hne, .inl rfl⟩
    · next rest hread =>
      cases h
      rw [show columns? (trimmed s) = _ from hread] at hsuffix
      exact .inr ⟨rest, hsuffix, hne, .inr rfl⟩

/-- **Where a fault points to.**  Of every text that cannot be read and whose message quotes a rest,
the rest stands at the reported position behind the white space that the text starts with.  So the
position itself is a place between two characters at which the rest stands, with nothing but white
space behind it, if and only if the text does not start with white space. -/
theorem parseColumns_points_iff {s : String} {e : ParseError} {rest : String}
    (h : parseColumns s = .error e) (hquotes : Quotes e.fault rest) :
    PointsAt s (Text.byteLength (leadingBlank s) + e.position) rest ∧
      (PointsAt s e.position rest ↔ ∀ c ∈ s.toList.head?, Text.isBlank c = false) := by
  rw [quotes_iff] at hquotes
  rcases error_of_parseColumns h with rfl | ⟨left, hsuffix, hne, rfl | rfl⟩
  · rcases hquotes with ⟨⟨⟩⟩ | ⟨⟨⟩⟩
  · rcases hquotes with hfault | ⟨⟨⟩⟩
    cases hfault
    exact ⟨pointsAt_of_suffix hsuffix, pointsAt_iff_of_suffix hsuffix hne⟩
  · rcases hquotes with ⟨⟨⟩⟩ | hfault
    cases hfault
    exact ⟨pointsAt_of_suffix hsuffix, pointsAt_iff_of_suffix hsuffix hne⟩

/-- A fault in the second column, behind a character of two bytes. -/
theorem parseColumns_points_trailing :
    let s := "naïve:int:pk, état:bogus \n"
    let e : ParseError := ⟨13, .trailing ", état:bogus"⟩
    parseColumns s = .error e ∧ Quotes e.fault ", état:bogus" ∧
      PointsAt s 13 ", état:bogus" := by
  intro s e
  have hparse : parseColumns s = .error e := by
    have hfault : (match parseColumns s with
        | .error found => decide (found = e)
        | .ok _ => false) = true := by decide +kernel
    cases hread : parseColumns s with
    | error found =>
      rw [hread] at hfault
      rw [of_decide_eq_true hfault]
    | ok columns =>
      rw [hread] at hfault
      cases hfault
  have hquotes : Quotes e.fault ", état:bogus" := .inl rfl
  have hstart : ∀ c ∈ s.toList.head?, Text.isBlank c = false := by
    rw [show s.toList.head? = some 'n' by decide]
    rintro _ ⟨⟩
    decide
  exact ⟨hparse, hquotes, (parseColumns_points_iff hparse hquotes).2.mpr hstart⟩

/-- **White space at the start moves every position.** -/
theorem parseColumns_points_before :
    parseColumns "  id:nosuchtype" = .error ⟨3, .invalidColumn "nosuchtype"⟩ ∧
      Quotes (.invalidColumn "nosuchtype") "nosuchtype" ∧
      PointsAt "  id:nosuchtype" 5 "nosuchtype" ∧ ¬ PointsAt "  id:nosuchtype" 3 "nosuchtype" := by
  have hsuffix : "nosuchtype".toList <:+ trimmed "  id:nosuchtype" := by decide +kernel
  have hposition : Text.byteLength (trimmed "  id:nosuchtype")
      - Text.byteLength "nosuchtype".toList = 3 := by decide +kernel
  refine ⟨by rfl, .inr rfl, ⟨"  id:", "nosuchtype", by decide, by decide, by decide +kernel⟩, ?_⟩
  intro hpoints
  have hiff := pointsAt_iff_of_suffix hsuffix (by decide +kernel)
  rw [hposition, String.ofList_toList] at hiff
  exact absurd (hiff.mp hpoints ' ' (by decide)) (by decide)

end ColumnList

end OracleSql
