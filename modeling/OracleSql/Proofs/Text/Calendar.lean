import OracleSql.Calendar
import OracleSql.Proofs.Text.Reading

/-!
# Written dates are read back

Dates and timestamps are written in numbers of a fixed width, and a reader takes no more digits
than the width, so nothing has to be known of what stands behind a number (`scanNumber_padded`).
A year outside `0` to `9999` has a sign and as many digits as it needs; there the reader stops at
the separator.
-/

namespace OracleSql

open Text

/-! ### Numbers of a fixed width -/

theorem toList_padded (width n : Nat) :
    (padded width n).toList
      = List.replicate (width - (Nat.toDigits 10 n).length) '0' ++ Nat.toDigits 10 n := by
  rw [padded, String.toList_ofList]

theorem isDigit_of_mem_padded {width n : Nat} {c : Char} (h : c ∈ (padded width n).toList) :
    c.isDigit = true := by
  rw [toList_padded, List.mem_append] at h
  rcases h with h | h
  · rw [List.eq_of_mem_replicate h]
    rfl
  · exact Nat.isDigit_of_mem_toDigits (by decide) (by decide) h

theorem padded_ne_nil (width n : Nat) : (padded width n).toList ≠ [] := by
  rw [toList_padded]
  exact List.append_ne_nil_of_right_ne_nil _ Nat.toDigits_ne_nil

theorem exists_padded_cons (width n : Nat) :
    ∃ c cs, (padded width n).toList = c :: cs ∧ c.isDigit = true := by
  obtain ⟨c, cs, hcs⟩ := List.exists_cons_of_ne_nil (padded_ne_nil width n)
  exact ⟨c, cs, hcs, isDigit_of_mem_padded (hcs ▸ List.mem_cons_self)⟩

theorem length_padded {width n : Nat} (hwidth : 0 < width) (h : n < Nat.pow 10 width) :
    (padded width n).toList.length = width := by
  have hdigits : (Nat.toDigits 10 n).length ≤ width :=
    (Nat.length_toDigits_le_iff (by decide) hwidth).mpr h
  rw [toList_padded, List.length_append, List.length_replicate]
  omega

theorem digitsValue?_replicate_zero (k : Nat) (cs : List Char) :
    digitsValue? (List.replicate k '0' ++ cs) 0 = digitsValue? cs 0 := by
  induction k with
  | zero => rfl
  | succ k ih =>
    rw [List.replicate_succ, List.cons_append]
    exact ih

theorem natOfDigits?_padded (width n : Nat) : natOfDigits? (padded width n).toList = some n := by
  have hread := natOfDigits?_toString n
  rw [natOfDigits?, Nat.toString_eq_ofList_toDigits, String.toList_ofList,
    if_neg (by simp [Nat.toDigits_ne_nil])] at hread
  have hne : ¬(padded width n).toList.isEmpty = true := by
    rw [List.isEmpty_iff]
    exact padded_ne_nil width n
  rw [natOfDigits?, if_neg hne, toList_padded, digitsValue?_replicate_zero, hread]

theorem takeWhile_isDigit_padded (width n : Nat) :
    (padded width n).toList.takeWhile Char.isDigit = (padded width n).toList := by
  have hdigits : ∀ c ∈ (padded width n).toList, c.isDigit = true := fun _ => isDigit_of_mem_padded
  have htake := (takeWhile_append_eq hdigits (show ∀ c ∈ ([] : List Char).head?, _ from nofun)).1
  rwa [List.append_nil] at htake

theorem dropWhile_isBlank_cons {c : Char} (h : isBlank c = false) (rest : List Char) :
    (c :: rest).dropWhile isBlank = c :: rest :=
  List.dropWhile_cons_of_neg (by simp [h])

theorem not_isBlank_of_isDigit {c : Char} (h : c.isDigit = true) : isBlank c = false :=
  ofNat_cases (P := fun c => c.isDigit = true → isBlank c = false) (by decide +kernel)
    (isDigit_lt h) h

/-- No white space stands before a number. -/
theorem dropWhile_isBlank_padded (width n : Nat) (rest : List Char) :
    ((padded width n).toList ++ rest).dropWhile isBlank = (padded width n).toList ++ rest := by
  obtain ⟨c, cs, hcs, hdigit⟩ := exists_padded_cons width n
  rw [hcs, List.cons_append, dropWhile_isBlank_cons (not_isBlank_of_isDigit hdigit)]

/-- **A number of the width is read back**, whatever stands behind it. -/
theorem scanNumber_padded {width n : Nat} (hwidth : 0 < width) (h : n < Nat.pow 10 width)
    (rest : List Char) : scanNumber width ((padded width n).toList ++ rest) = some (n, rest) := by
  have hlength := length_padded hwidth h
  have htake : ((padded width n).toList ++ rest).take width = (padded width n).toList :=
    List.take_left' hlength
  simp only [scanNumber, dropWhile_isBlank_padded, htake, takeWhile_isDigit_padded,
    natOfDigits?_padded, Option.map_some, List.drop_left]

theorem scanSeparator_cons {c : Char} (h : isBlank c = false) (rest : List Char) :
    scanSeparator c (c :: rest) = some rest := by
  simp only [scanSeparator, dropWhile_isBlank_cons h, if_pos]

/-! ### Dates -/

theorem scanYear_plus (rest : List Char) : scanYear ('+' :: rest) = scanYear.signed 1 rest := by
  rw [scanYear, dropWhile_isBlank_cons (by decide)]
  rfl

theorem scanYear_minus (rest : List Char) : scanYear ('-' :: rest) = scanYear.signed (-1) rest := by
  rw [scanYear, dropWhile_isBlank_cons (by decide)]
  rfl

theorem signed_padded (sign : Int) (n : Nat) {rest : List Char}
    (hrest : ∀ c ∈ rest.head?, c.isDigit = false) :
    scanYear.signed sign ((padded 4 n).toList ++ rest) = some (sign * n, rest) := by
  have hdigits := (takeWhile_append_eq (w := (padded 4 n).toList)
    (fun _ => isDigit_of_mem_padded) hrest).1
  simp only [scanYear.signed, hdigits, natOfDigits?_padded, List.drop_left]
  rfl

/-- A year of four digits is read without a sign. -/
theorem scanYear_padded {n : Nat} (hn : n < Nat.pow 10 4) (rest : List Char) :
    scanYear ((padded 4 n).toList ++ rest) = some ((n : Int), rest) := by
  have hdigit : ∀ c cs, (padded 4 n).toList ++ rest = c :: cs → c.isDigit = true := by
    intro c cs heq
    obtain ⟨d, ds, hds, hd⟩ := exists_padded_cons 4 n
    rw [hds] at heq
    cases heq
    exact hd
  unfold scanYear
  rw [dropWhile_isBlank_padded]
  split
  · next heq => exact absurd (hdigit _ _ heq) (by decide)
  · next heq => exact absurd (hdigit _ _ heq) (by decide)
  · rw [scanNumber_padded (by decide) hn]
    rfl

/-- **A year is read back**, if no digit stands behind it. -/
theorem scanYear_yearText (year : Int) {rest : List Char}
    (hrest : ∀ c ∈ rest.head?, c.isDigit = false) :
    scanYear ((yearText year).toList ++ rest) = some (year, rest) := by
  by_cases hyear : 0 ≤ year ∧ year ≤ 9999
  · obtain ⟨n, rfl⟩ := Int.eq_ofNat_of_zero_le hyear.1
    have hn : n < 10 ^ 4 := by omega
    rw [yearText, if_pos hyear, Int.toNat_natCast, scanYear_padded hn]
  · rw [yearText, if_neg hyear, String.toList_append, List.append_assoc]
    by_cases hsign : 0 ≤ year
    · rw [if_pos hsign, show "+".toList = ['+'] from rfl, List.singleton_append, scanYear_plus,
        signed_padded 1 _ hrest, Int.one_mul, Int.natAbs_of_nonneg hsign]
    · rw [if_neg hsign, show "-".toList = ['-'] from rfl, List.singleton_append, scanYear_minus,
        signed_padded (-1) _ hrest]
      congr 2
      omega

/-- **A date is read back**, and white space behind it is passed over. -/
theorem Date.scan_text (d : Date) (rest : List Char) :
    Date.scan (d.text.toList ++ rest) = some (d, rest.dropWhile isBlank) := by
  obtain ⟨year, month, day, hday⟩ := d
  have hmonth : month < 10 ^ 2 := by have := hday.2.1; omega
  have hbound : day < 10 ^ 2 := by
    have hdays : daysInMonth year month ≤ 31 := by
      unfold daysInMonth
      split
      · split <;> decide
      · split <;> decide
    have := hday.2.2
    omega
  have hseparator (rest : List Char) : ∀ c ∈ ('-' :: rest).head?, c.isDigit = false := by
    rintro c ⟨⟩
    decide
  have htext : (Date.text ⟨year, month, day, hday⟩).toList ++ rest
      = (yearText year).toList ++ '-' :: ((padded 2 month).toList
        ++ '-' :: ((padded 2 day).toList ++ rest)) := by
    simp [Date.text]
  rw [htext, Date.scan, scanYear_yearText year (hseparator _)]
  simp only [Option.bind_eq_bind, Option.bind_some, scanSeparator_cons (c := '-') (by decide),
    scanNumber_padded (by decide) hmonth, scanNumber_padded (by decide) hbound, dif_pos hday]

theorem Date.ofText?_text (d : Date) : Date.ofText? d.text = some d := by
  have hscan := d.scan_text []
  rw [List.append_nil] at hscan
  rw [Date.ofText?, hscan]
  rfl

/-! ### Timestamps -/

/-- **A fraction is read back**: the digits that are left out are zeros. -/
theorem scanFraction_fractionText {nanosecond : Nat} (h : nanosecond < 1000000000) :
    scanFraction (fractionText nanosecond).toList = some (nanosecond, []) := by
  have hread {width n scale : Nat} (hpos : 0 < width) (hwidth : width ≤ 9) (hn : n < 10 ^ width)
      (hscale : Nat.pow 10 (9 - width) = scale) :
      scanFraction ("." ++ padded width n).toList = some (n * scale, []) := by
    have hlength := length_padded hpos hn
    have htake : (padded width n).toList.take 9 = (padded width n).toList :=
      List.take_of_length_le (by omega)
    rw [String.toList_append]
    change scanFraction ('.' :: (padded width n).toList) = _
    simp only [scanFraction, takeWhile_isDigit_padded, htake, natOfDigits?_padded, Option.map_some,
      List.drop_length]
    rw [hlength, hscale]
  unfold fractionText
  split
  · next hzero => rw [hzero]; rfl
  · split
    · next hmillis =>
      rw [hread (by decide) (by decide) (by omega) (show _ = 1000000 from rfl)]
      congr 2
      omega
    · split
      · next hmicros =>
        rw [hread (by decide) (by decide) (by omega) (show _ = 1000 from rfl)]
        congr 2
        omega
      · rw [hread (by decide) (by decide) (by omega) (show _ = 1 from rfl)]
        congr 2
        omega

theorem Timestamp.ofText?_text (t : Timestamp) : Timestamp.ofText? t.text = some t := by
  obtain ⟨date, hour, minute, second, nanosecond, htime⟩ := t
  have hhour : hour < 10 ^ 2 := by have := htime.1; omega
  have hminute : minute < 10 ^ 2 := by have := htime.2.1; omega
  have hsecond : second < 10 ^ 2 := by have := htime.2.2.1; omega
  have htext : (Timestamp.text ⟨date, hour, minute, second, nanosecond, htime⟩).toList
      = date.text.toList ++ 'T' :: ((padded 2 hour).toList ++ ':' :: ((padded 2 minute).toList
        ++ ':' :: ((padded 2 second).toList ++ (fractionText nanosecond).toList))) := by
    simp [Timestamp.text, Timestamp.clock]
  rw [Timestamp.ofText?, htext, Date.scan_text, dropWhile_isBlank_cons (by decide)]
  simp only [Option.bind_eq_bind, Option.bind_some, scanSeparator_cons (c := 'T') (by decide),
    scanSeparator_cons (c := ':') (by decide), scanNumber_padded (by decide) hhour,
    scanNumber_padded (by decide) hminute, scanNumber_padded (by decide) hsecond,
    scanFraction_fractionText htime.2.2.2, dif_pos htime]
  rfl

end OracleSql
