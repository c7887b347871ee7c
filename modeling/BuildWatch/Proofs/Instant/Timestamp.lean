import BuildWatch.Instant.Printer
import BuildWatch.Instant.Reader
import Mathlib.Data.Nat.Digits.Lemmas

namespace BuildWatch.Instant

variable {n width most : Nat} {digits rest : List Char} {c : Char}

/-! ## Digits -/

theorem isBlank_of_digit (digit : c.isDigit) : Text.isBlank c = false := by
  have bounds : 48 ≤ c.toNat ∧ c.toNat ≤ 57 := by
    simpa [Char.isDigit, UInt32.le_iff_toNat_le] using digit
  simp only [Text.isBlank, Text.blankRanges, List.any_cons, List.any_nil]
  simp
  omega

theorem digit_padded (width n : Nat) : ∀ c ∈ padded width n, c.isDigit := by
  intro c among
  rcases List.mem_append.mp among with zero | digit
  · rw [List.eq_of_mem_replicate zero]
    rfl
  · exact Nat.isDigit_of_mem_toDigits (by decide) (by decide) digit

theorem number_eq (digits : List Char) : number digits = Nat.ofDigitChars 10 digits 0 :=
  Nat.ofDigitChars_eq_foldl.symm

theorem number_append_zeros (digits : List Char) (n : Nat) :
    number (digits ++ List.replicate n '0') = 10 ^ n * number digits := by
  rw [number_eq, number_eq, Nat.ofDigitChars_append, Nat.ofDigitChars_replicate_zero]

theorem number_padded (width n : Nat) : number (padded width n) = n := by
  rw [number_eq, padded, Nat.ofDigitChars_append, Nat.ofDigitChars_replicate_zero, Nat.mul_zero,
    Nat.ofDigitChars_ten_toDigits]

theorem length_padded (positive : 0 < width) (short : n < 10 ^ width) :
    (padded width n).length = width := by
  have digits : (Nat.toDigits 10 n).length ≤ width :=
    (Nat.length_toDigits_le_iff (by decide) positive).mpr short
  rw [padded, List.length_append, List.length_replicate]
  omega

theorem padded_ne_nil (width n : Nat) : padded width n ≠ [] :=
  List.append_ne_nil_of_right_ne_nil _ Nat.toDigits_ne_nil

def Parted (rest : List Char) : Prop :=
  ∀ c ∈ rest.head?, c.isDigit = false

theorem digits?_of_digits (each : ∀ c ∈ digits, c.isDigit) (nonempty : digits ≠ [])
    (fits : digits.length ≤ most) (ends : digits.length = most ∨ Parted rest) :
    digits? most (digits ++ rest) = some (digits, rest) := by
  have others : (rest.take (most - digits.length)).takeWhile Char.isDigit = [] := by
    rcases ends with exactly | parted
    · rw [exactly, Nat.sub_self]
      rfl
    · cases rest with
      | nil => simp
      | cons c rest =>
        have other := parted c rfl
        cases most - digits.length <;> simp [other]
  have front : ((digits ++ rest).take most).takeWhile Char.isDigit = digits := by
    rw [List.take_append, List.take_of_length_le fits, List.takeWhile_append_of_pos each, others,
      List.append_nil]
  simp only [digits?, front, List.isEmpty_iff, nonempty, if_false, List.drop_left']

theorem digits?_padded (positive : 0 < width) (short : n < 10 ^ width) (rest : List Char) :
    digits? width (padded width n ++ rest) = some (padded width n, rest) := by
  have length := length_padded positive short
  exact digits?_of_digits (digit_padded width n) (padded_ne_nil width n) length.le (.inl length)

theorem trimStart_padded (width n : Nat) (rest : List Char) :
    Text.trimStart (padded width n ++ rest) = padded width n ++ rest := by
  obtain ⟨first, others, whole⟩ := List.exists_cons_of_ne_nil (padded_ne_nil width n)
  have digit := digit_padded width n first (by simp [whole])
  rw [whole, List.cons_append, Text.trimStart_cons_of_not_blank (isBlank_of_digit digit)]

/-! ## Parts -/

theorem number?_padded (short : n < 100) (rest : List Char) :
    number? 2 (padded 2 n ++ rest) = some (n, rest) := by
  rw [number?, trimStart_padded, digits?_padded (by decide) short]
  simp only [Option.map_some, number_padded]

theorem mark?_self (plain : Text.isBlank c = false) (rest : List Char) :
    mark? c (c :: rest) = some rest := by
  simp [mark?, Text.trimStart_cons_of_not_blank plain]

theorem year?_of_digit (digit : c.isDigit) (rest : List Char) : year? (c :: rest) =
    (digits? 4 (c :: rest)).map fun (digits, rest) => (number digits, rest) := by
  rw [year?, Text.trimStart_cons_of_not_blank (isBlank_of_digit digit)]
  split
  · rename_i minus
    cases minus
    cases digit
  · rename_i plus
    cases plus
    cases digit
  · rfl

theorem year?_yearText (year : Int) (rest : List Char) :
    year? (yearText year ++ '-' :: rest) = some (year, '-' :: rest) := by
  have parted : Parted ('-' :: rest) := by
    rintro c ⟨⟩
    rfl
  have signed : digits? (padded 4 year.natAbs ++ '-' :: rest).length
      (padded 4 year.natAbs ++ '-' :: rest) = some (padded 4 year.natAbs, '-' :: rest) :=
    digits?_of_digits (digit_padded _ _) (padded_ne_nil _ _) (by simp) (.inr parted)
  rw [yearText]
  split
  · rename_i common
    obtain ⟨first, others, whole⟩ := List.exists_cons_of_ne_nil (padded_ne_nil 4 year.toNat)
    have digit := digit_padded 4 year.toNat first (by simp [whole])
    have short : year.toNat < 10 ^ 4 := by omega
    have read := digits?_padded (by decide) short ('-' :: rest)
    have value : (year.toNat : Int) = year := by omega
    rw [whole] at read ⊢
    rw [List.cons_append, year?_of_digit digit, ← List.cons_append, read, ← whole]
    simp only [Option.map_some, number_padded, value]
  · rw [List.cons_append]
    split
    · have value : -(year.natAbs : Int) = year := by omega
      change (digits? _ _).map _ = _
      simp only [signed, Option.map_some, number_padded, value]
    · have value : (year.natAbs : Int) = year := by omega
      change (digits? _ _).map _ = _
      simp only [signed, Option.map_some, number_padded, value]

theorem fraction?_padded (places : Nat) (positive : 0 < places) (most : places ≤ 9)
    (short : n < 10 ^ places) (rest : List Char) :
    fraction? ('.' :: (padded places n ++ 'Z' :: rest)) =
      some (10 ^ (9 - places) * n, 'Z' :: rest) := by
  have parted : Parted ('Z' :: rest) := by
    rintro c ⟨⟩
    rfl
  have length := length_padded positive short
  have read := digits?_of_digits (digit_padded places n) (padded_ne_nil places n)
    (length.trans_le most) (.inr parted)
  simp only [fraction?, read, Option.map_some, number_append_zeros, number_padded, length]
  rfl

theorem fraction?_fractionText (small : n < 1000000000) (rest : List Char) :
    fraction? (fractionText n ++ 'Z' :: rest) = some (n, 'Z' :: rest) := by
  rw [fractionText]
  split
  · rename_i none
    rw [none]
    rfl
  · split
    · have whole : 10 ^ (9 - 3) * (n / 1000000) = n := by omega
      rw [List.cons_append, fraction?_padded 3 (by decide) (by decide) (by omega), whole]
    · split
      · have whole : 10 ^ (9 - 6) * (n / 1000) = n := by omega
        rw [List.cons_append, fraction?_padded 6 (by decide) (by decide) (by omega), whole]
      · have whole : 10 ^ (9 - 9) * n = n := by omega
        rw [List.cons_append, fraction?_padded 9 (by decide) (by decide) (by omega), whole]

/-! ## The whole -/

theorem daysInMonth_le (year : Int) (month : Nat) : daysInMonth year month ≤ 31 := by
  unfold daysInMonth
  split_ifs <;> decide

theorem parse?_timestamp (instant : Instant) : parse? instant.timestamp = some instant := by
  have month : instant.date.month < 100 := by
    have := instant.date.month_mem
    omega
  have day : instant.date.day < 100 := by
    have last := instant.date.day_mem.2
    have := daysInMonth_le instant.date.year instant.date.month
    omega
  have hour : instant.hour < 100 := instant.hour_lt.trans (by decide)
  have minute : instant.minute < 100 := instant.minute_lt.trans (by decide)
  have second : instant.second < 100 := instant.second_le.trans_lt (by decide)
  have dash (rest : List Char) : mark? '-' ('-' :: rest) = some rest :=
    mark?_self (by decide) rest
  have colon (rest : List Char) : mark? ':' (':' :: rest) = some rest :=
    mark?_self (by decide) rest
  have zone : zone? (Text.trimStart ['Z']) = some (0, []) := by decide
  -- Each part is taken off the front of the text, and what is left begins with the next.
  simp only [parse?, timestamp, dateText, timeText, String.toList_ofList, List.append_assoc,
    List.cons_append, year?_yearText, dash, colon, number?_padded month, number?_padded day,
    number?_padded hour, number?_padded minute, number?_padded second,
    fraction?_fractionText instant.nanosecond_lt, zone, bind, Option.bind, Text.trimStart_nil,
    ne_eq, not_true_eq_false, if_false, Date.of?_eq_some, of?_eq_some, Int.neg_zero, shift?_zero]

end BuildWatch.Instant
