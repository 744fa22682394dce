import AgentLedger.Proofs.Text.Decimal
import AgentLedger.Timestamp.Reader
/-!
# Points in time are read back

The text of a time is read as that time, in any year of the calendar and in a
leap second too: to the millisecond where three digits of a second are
written, and exactly where as many are as it takes.
-/

namespace AgentLedger.Timestamp

/-! ## Runs of digits -/

theorem digits_append (most : Nat) {ds : List Char} (rest : List Char) (hd : ∀ c ∈ ds, c.isDigit = true) (some_ : ds ≠ [])
    (fits : ds.length ≤ most) (ends : ds.length = most ∨ ∀ c ∈ rest.head?, c.isDigit = false) :
    digits most (ds ++ rest) = some (ds, rest) := by
  have behind : (rest.take (most - ds.length)).takeWhile Char.isDigit = [] := by
    rcases ends with full | stops
    · rw [full, Nat.sub_self]; rfl
    · cases rest with
      | nil => rw [List.take_nil]; rfl
      | cons c rest =>
        cases most - ds.length with
        | zero => rfl
        | succ k => rw [List.take_succ_cons, List.takeWhile_cons, stops c rfl]; rfl
  have front : ((ds ++ rest).take most).takeWhile Char.isDigit = ds := by
    rw [List.take_append, List.take_of_length_le fits, List.takeWhile_append_of_pos hd, behind, List.append_nil]
  unfold digits
  simp only [front, List.isEmpty_iff, some_, if_false, List.drop_left]

theorem skipBlanks_cons {c : Char} (h : Text.isBlank c = false) (cs : List Char) : skipBlanks (c :: cs) = c :: cs := by
  rw [skipBlanks, List.dropWhile_cons_of_neg (by simp [h])]

theorem zeroPadded_eq_cons (width n : Nat) : ∃ d ds, Text.zeroPadded width (Text.decimalDigits n) = d :: ds ∧
    d.isDigit = true := by
  have some_ : Text.zeroPadded width (Text.decimalDigits n) ≠ [] :=
    List.append_ne_nil_of_right_ne_nil _ (Text.decimalDigits_ne_nil n)
  obtain ⟨d, ds, h⟩ := List.exists_cons_of_ne_nil some_
  exact ⟨d, ds, h, Text.zeroPadded_isDigit width n d (by rw [h]; exact List.mem_cons_self)⟩

/-! ## The parts -/

theorem twoDigit_twoDigits {n : Nat} (h : n < 100) (rest : List Char) : twoDigit (twoDigits n ++ rest) = some (n, rest) := by
  have length := Text.length_zeroPadded (Text.length_digits_le (k := 2) (by decide) h)
  have read := digits_append 2 rest (Text.zeroPadded_isDigit 2 n)
    (by intro h; rw [h] at length; cases length) (Nat.le_of_eq length) (.inl length)
  obtain ⟨d, ds, hd, digit⟩ := zeroPadded_eq_cons 2 n
  have value := Text.digitsValue_zeroPadded 2 n
  unfold twoDigit twoDigits
  rw [hd] at read value ⊢
  rw [List.cons_append, skipBlanks_cons (Text.not_isBlank_of_isDigit digit), ← List.cons_append, read]
  simp [value]

theorem separator_cons {c : Char} (h : Text.isBlank c = false) (cs : List Char) : separator c (c :: cs) = some cs := by
  rw [separator, skipBlanks_cons h]
  simp

/-- Any number of digits is read behind a sign. -/
theorem digits_signed (n : Nat) (rest : List Char) :
    digits (Text.zeroPadded 4 (Text.decimalDigits n) ++ '-' :: rest).length
      (Text.zeroPadded 4 (Text.decimalDigits n) ++ '-' :: rest) =
        some (Text.zeroPadded 4 (Text.decimalDigits n), '-' :: rest) := by
  obtain ⟨d, ds, hd, -⟩ := zeroPadded_eq_cons 4 n
  refine digits_append _ _ (Text.zeroPadded_isDigit 4 n) (by rw [hd]; exact List.cons_ne_nil _ _) ?_ (.inr ?_)
  · rw [List.length_append]; omega
  · rintro c ⟨⟩; rfl

theorem year_yearText (y : Int) (rest : List Char) : year (yearText y ++ '-' :: rest) = some (y, '-' :: rest) := by
  unfold yearText
  by_cases plain : 0 ≤ y ∧ y ≤ 9999
  · have length := Text.length_zeroPadded (Text.length_digits_le (n := y.toNat) (k := 4) (by decide) (by
      show y.toNat < 10000
      omega))
    have value := Text.digitsValue_zeroPadded 4 y.toNat
    obtain ⟨d, ds, hd, digit⟩ := zeroPadded_eq_cons 4 y.toNat
    have read := digits_append 4 ('-' :: rest) (Text.zeroPadded_isDigit 4 y.toNat)
      (by rw [hd]; exact List.cons_ne_nil _ _) (Nat.le_of_eq length) (.inl length)
    rw [if_pos plain]
    rw [hd] at read value ⊢
    unfold year
    rw [List.cons_append, skipBlanks_cons (Text.not_isBlank_of_isDigit digit)]
    split
    case h_1 h => cases h; cases digit
    case h_2 h => cases h; cases digit
    have back : (y.toNat : Int) = y := by omega
    rw [← List.cons_append, read]
    simp only [bind, Option.bind, value, back]
    rfl
  · have value := Text.digitsValue_zeroPadded 4 y.natAbs
    rw [if_neg plain]
    by_cases negative : y < 0
    · have back : -(y.natAbs : Int) = y := by omega
      rw [if_pos negative]
      simp only [List.cons_append, year, skipBlanks_cons (c := '-') (by decide), digits_signed, bind, Option.bind, value, back]
      rfl
    · have back : (y.natAbs : Int) = y := by omega
      rw [if_neg negative]
      simp only [List.cons_append, year, skipBlanks_cons (c := '+') (by decide), digits_signed, bind, Option.bind, value, back]
      rfl

def Precision.kept : Precision → Nat → Nat
  | .millis, n => n / 1000000 * 1000000
  | .exact, n => n

theorem fraction_places {k n : Nat} (pos : 0 < k) (le : k ≤ 9) (h : n < Nat.pow 10 k) (rest : List Char) :
    fraction ('.' :: Text.zeroPadded k (Text.decimalDigits n) ++ 'Z' :: rest) =
      some (n * Nat.pow 10 (9 - k), 'Z' :: rest) := by
  have length := Text.length_zeroPadded (Text.length_digits_le pos h)
  have value := Text.digitsValue_zeroPadded k n
  have read := digits_append 9 ('Z' :: rest) (Text.zeroPadded_isDigit k n)
    (by intro h; rw [h] at length; exact absurd length (Nat.ne_of_lt pos)) (by omega) (.inr (by rintro c ⟨⟩; rfl))
  simp only [List.cons_append, fraction, read]
  simp [value, length]

theorem fraction_text (p : Precision) {n : Nat} (h : n < 1000000000) (rest : List Char) :
    fraction (fractionText n p ++ 'Z' :: rest) = some (p.kept n, 'Z' :: rest) := by
  have millis : n / 1000000 < Nat.pow 10 3 := by
    show n / 1000000 < 1000
    omega
  have micros : n / 1000 < Nat.pow 10 6 := by
    show n / 1000 < 1000000
    omega
  cases p with
  | millis => exact fraction_places (by decide) (by decide) millis rest
  | exact =>
    unfold fractionText Precision.kept
    by_cases none_ : n = 0
    · subst none_
      rfl
    by_cases three : n % 1000000 = 0
    · rw [if_neg none_, if_pos three, fraction_places (by decide) (by decide) millis rest]
      have whole : n / 1000000 * Nat.pow 10 (9 - 3) = n := by
        show n / 1000000 * 1000000 = n
        omega
      rw [whole]
    by_cases six : n % 1000 = 0
    · rw [if_neg none_, if_neg three, if_pos six, fraction_places (by decide) (by decide) micros rest]
      have whole : n / 1000 * Nat.pow 10 (9 - 6) = n := by
        show n / 1000 * 1000 = n
        omega
      rw [whole]
    · rw [if_neg none_, if_neg three, if_neg six, fraction_places (by decide) (by decide) h rest]
      exact congrArg (fun m => some (m, 'Z' :: rest)) (Nat.mul_one n)

/-! ## The whole text -/

def kept (p : Precision) (t : Timestamp) : Timestamp :=
  match p with
  | .millis => t.toMillis
  | .exact => t

theorem kept_millis (t : Timestamp) : t.kept .millis = t.toMillis := rfl

theorem of?_kept (p : Precision) (t : Timestamp) :
    of? t.date t.minute (t.nanos / 1000000000 * 1000000000 + p.kept (t.nanos % 1000000000)) = some (t.kept p) := by
  have := t.nanos_lt
  have same : t.nanos / 1000000000 * 1000000000 + p.kept (t.nanos % 1000000000) = (t.kept p).nanos := by
    cases p with
    | millis =>
      show _ + t.nanos % 1000000000 / 1000000 * 1000000 = t.nanos / 1000000 * 1000000
      omega
    | exact =>
      show _ + t.nanos % 1000000000 = t.nanos
      omega
  rw [same, of?, dif_pos ⟨t.date_valid, t.minute_lt, (t.kept p).nanos_lt⟩]
  cases p <;> rfl

theorem read?_text (p : Precision) (t : Timestamp) : read? (t.text p) = some (t.kept p) := by
  obtain ⟨-, ⟨month_pos, month_le⟩, day_pos, day_le⟩ := t.date_valid
  have days : t.date.day < 100 := by
    have : Date.daysIn t.date.year t.date.month ≤ 31 := by
      unfold Date.daysIn
      repeat' split
      all_goals decide
    omega
  have minute := t.minute_lt
  have nanos := t.nanos_lt
  have second : t.nanos / 1000000000 ≤ 60 := by omega
  have clock : t.minute / 60 * 60 + t.minute % 60 = t.minute := by omega
  have zone_ : zone (skipBlanks ['Z']) = some (0, []) := rfl
  unfold read? text readChars
  rw [String.toList_ofList]
  simp only [chars, List.append_assoc, List.cons_append, bind, Option.bind, year_yearText,
    separator_cons (c := '-') (by decide), separator_cons (c := ':') (by decide),
    twoDigit_twoDigits (n := t.date.month) (by omega), twoDigit_twoDigits days, middle,
    twoDigit_twoDigits (n := t.minute / 60) (by omega), twoDigit_twoDigits (n := t.minute % 60) (by omega),
    twoDigit_twoDigits (n := t.nanos / 1000000000) (by omega),
    fraction_text p (n := t.nanos % 1000000000) (by omega), zone_, clock]
  rw [if_pos ⟨rfl, t.date_valid, by omega, by omega, second, by decide⟩]
  unfold ofLocal?
  rw [Int.sub_zero, if_neg (by omega), if_pos (by omega), Int.toNat_natCast]
  exact of?_kept p t

@[simp] theorem toMillis_toMillis (t : Timestamp) : t.toMillis.toMillis = t.toMillis := by
  simp [toMillis]

end AgentLedger.Timestamp
