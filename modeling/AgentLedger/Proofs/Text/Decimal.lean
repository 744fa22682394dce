import AgentLedger.Amount
/-!
# Decimal texts are read back

The decimal digits of a number, and what every reader of numbers makes of
them. No reader meets a blank, a sign or a leading zero in them.
-/

namespace AgentLedger.Text

/-! ## Digits -/

theorem decimalDigits_isDigit (n : Nat) : ∀ c ∈ decimalDigits n, c.isDigit = true :=
  fun _ hc => Nat.isDigit_of_mem_toDigits (by decide) (by decide) hc

theorem decimalDigits_ne_nil (n : Nat) : decimalDigits n ≠ [] := Nat.toDigits_ne_nil

theorem decimalDigits_eq_cons (n : Nat) : ∃ d ds, decimalDigits n = d :: ds ∧ d.isDigit = true := by
  obtain ⟨d, ds, hd⟩ := List.exists_cons_of_ne_nil (decimalDigits_ne_nil n)
  exact ⟨d, ds, hd, decimalDigits_isDigit n d (by rw [hd]; exact List.mem_cons_self)⟩

@[simp] theorem digitsValue_decimalDigits (n : Nat) : digitsValue (decimalDigits n) = n := Nat.ofDigitChars_ten_toDigits

theorem decimalDigits_of_lt {n : Nat} (h : n < 10) : decimalDigits n = [n.digitChar] := Nat.toDigits_of_lt_base h

theorem decimalDigits_of_le {n : Nat} (h : 10 ≤ n) :
    decimalDigits n = decimalDigits (n / 10) ++ [(n % 10).digitChar] := Nat.toDigits_of_base_le (by decide) h

theorem digitChar_ne_zero {n : Nat} (h : n < 10) (pos : 0 < n) : n.digitChar ≠ '0' := by
  have key : ∀ k : Fin 10, 0 < k.val → Nat.digitChar k.val ≠ '0' := by decide
  exact key ⟨n, h⟩ pos

theorem head_decimalDigits {n : Nat} (pos : 0 < n) : (decimalDigits n).head? ≠ some '0' := by
  induction n using Nat.strongRecOn with
  | _ n ih =>
    by_cases h : n < 10
    · rw [decimalDigits_of_lt h, List.head?_cons]
      simpa using digitChar_ne_zero h pos
    · obtain ⟨d, ds, hd⟩ := List.exists_cons_of_ne_nil (decimalDigits_ne_nil (n / 10))
      have front := ih (n / 10) (by omega) (by omega)
      rw [hd] at front
      rw [decimalDigits_of_le (by omega), hd]
      exact front

/-- Only zero is written with a zero in front, and that by itself. -/
theorem no_leading_zero (n : Nat) (d : Char) (ds : List Char) : decimalDigits n ≠ '0' :: d :: ds := by
  intro h
  rcases Nat.eq_zero_or_pos n with rfl | pos
  · cases h
  · exact head_decimalDigits pos (by rw [h]; rfl)

structure IsCanonical (ds : List Char) (n : Nat) : Prop where
  some_ : ds ≠ []
  digits : ∀ c ∈ ds, c.isDigit = true
  value : digitsValue ds = n
  leads : ∀ d rest, ds ≠ '0' :: d :: rest

theorem isCanonical_decimalDigits (n : Nat) : IsCanonical (decimalDigits n) n where
  some_ := decimalDigits_ne_nil n
  digits := decimalDigits_isDigit n
  value := digitsValue_decimalDigits n
  leads := no_leading_zero n

theorem length_digits_le {n k : Nat} (pos : 0 < k) (h : n < Nat.pow 10 k) : (decimalDigits n).length ≤ k :=
  (Nat.length_toDigits_le_iff (by decide) pos).mpr h

theorem digitsValue_zeroPadded (width n : Nat) : digitsValue (zeroPadded width (decimalDigits n)) = n := by
  have key : Nat.ofDigitChars 10 (decimalDigits n) 0 = n := digitsValue_decimalDigits n
  rw [digitsValue, zeroPadded, Nat.ofDigitChars_append, Nat.ofDigitChars_replicate_zero, Nat.mul_zero, key]

theorem zeroPadded_isDigit (width n : Nat) : ∀ c ∈ zeroPadded width (decimalDigits n), c.isDigit = true := by
  intro c hc
  rcases List.mem_append.mp hc with hc | hc
  · rw [List.eq_of_mem_replicate hc]; rfl
  · exact decimalDigits_isDigit n c hc

theorem length_zeroPadded {width : Nat} {ds : List Char} (h : ds.length ≤ width) :
    (zeroPadded width ds).length = width := by
  rw [zeroPadded, List.length_append, List.length_replicate]
  omega

/-! ## Bounded numbers -/

theorem le_ofDigitChars (ds : List Char) (n : Nat) : n ≤ Nat.ofDigitChars 10 ds n := by
  induction ds generalizing n with
  | nil => exact Nat.le_refl _
  | cons c ds ih =>
    have := ih (10 * n + (c.toNat - '0'.toNat))
    rw [Nat.ofDigitChars_cons]
    omega

theorem ofDigitChars_cons (c : Char) (ds : List Char) (n : Nat) :
    Nat.ofDigitChars 10 (c :: ds) n = Nat.ofDigitChars 10 ds (10 * n + digitValue c) := Nat.ofDigitChars_cons

theorem accumulate_eq_ok {limit n : Nat} {ds : List Char} (digits : ∀ c ∈ ds, c.isDigit = true)
    (fits : Nat.ofDigitChars 10 ds n < limit) : accumulate limit n ds = .ok (Nat.ofDigitChars 10 ds n) := by
  induction ds generalizing n with
  | nil => rfl
  | cons c ds ih =>
    rw [List.forall_mem_cons] at digits
    rw [Nat.ofDigitChars_cons] at fits ⊢
    have below := le_ofDigitChars ds (10 * n + digitValue c)
    have next := ih (n := 10 * n + digitValue c) digits.2 fits
    have small : ¬limit ≤ 10 * n + digitValue c := by
      have : Nat.ofDigitChars 10 ds (10 * n + digitValue c) < limit := fits
      omega
    simp only [accumulate, digits.1, small, Bool.not_true, Bool.false_eq_true, if_false]
    exact next

theorem readUnsigned_decimal {limit n : Nat} (h : n < limit) : readUnsigned limit (decimal n) = .ok n := by
  have value : Nat.ofDigitChars 10 (decimalDigits n) 0 = n := digitsValue_decimalDigits n
  have fits : Nat.ofDigitChars 10 (decimalDigits n) 0 < limit := by rwa [value]
  have read := accumulate_eq_ok (decimalDigits_isDigit n) fits
  obtain ⟨d, ds, hd, digit⟩ := decimalDigits_eq_cons n
  rw [value, hd] at read
  unfold readUnsigned decimal
  rw [String.toList_ofList, hd]
  split
  case h_1 h => cases h
  case h_2 h => cases h; cases digit
  case h_3 h => cases h; cases digit
  exact read

theorem readUInt64_decimal (n : UInt64) : readUInt64 (decimal n.toNat) = .ok n := by
  rw [readUInt64, readUnsigned_decimal n.toNat_lt]
  exact congrArg _ UInt64.ofNat_toNat

/-! ## Blanks -/

theorem toNat_of_isDigit {c : Char} (h : c.isDigit = true) : 48 ≤ c.toNat ∧ c.toNat ≤ 57 := by
  simpa [Char.isDigit, UInt32.le_iff_toNat_le] using h

theorem not_isBlank_of_isDigit {c : Char} (h : c.isDigit = true) : isBlank c = false := by
  have key := toNat_of_isDigit h
  unfold isBlank
  simp
  omega

theorem dropWhile_eq_self {p : α → Bool} {as : List α} (h : ∀ a ∈ as, p a = false) : as.dropWhile p = as := by
  cases as with
  | nil => rfl
  | cons a as => rw [List.dropWhile_cons_of_neg (by simp [h a List.mem_cons_self])]

theorem trimmed_eq_self {cs : List Char} (h : ∀ c ∈ cs, isBlank c = false) : trimmed cs = cs := by
  have back : ∀ c ∈ cs.reverse, isBlank c = false := fun c hc => h c (List.mem_reverse.mp hc)
  rw [trimmed, dropWhile_eq_self h, dropTail, dropWhile_eq_self back, List.reverse_reverse]

theorem trimmed_append {front ds back : List Char} (hf : ∀ c ∈ front, isBlank c = true)
    (hb : ∀ c ∈ back, isBlank c = true) (some_ : ds ≠ []) (hd : ∀ c ∈ ds, isBlank c = false) :
    trimmed (front ++ ds ++ back) = ds := by
  obtain ⟨d, rest, rfl⟩ := List.exists_cons_of_ne_nil some_
  have first : (front ++ (d :: rest) ++ back).dropWhile isBlank = d :: rest ++ back := by
    rw [List.append_assoc, List.dropWhile_append_of_pos hf, List.cons_append,
      List.dropWhile_cons_of_neg (by simp [hd d List.mem_cons_self])]
  have last : (d :: rest ++ back).reverse.dropWhile isBlank = (d :: rest).reverse := by
    rw [List.reverse_append, List.dropWhile_append_of_pos fun c hc => hb c (List.mem_reverse.mp hc)]
    exact dropWhile_eq_self fun c hc => hd c (List.mem_reverse.mp hc)
  rw [trimmed, first, dropTail, last, List.reverse_reverse]

theorem exists_blanks_trimmed (cs : List Char) : ∃ front back, cs = front ++ trimmed cs ++ back ∧
    (∀ c ∈ front, isBlank c = true) ∧ ∀ c ∈ back, isBlank c = true := by
  have blank (ds : List Char) : ∀ c ∈ ds.takeWhile isBlank, isBlank c = true := fun c hc =>
    List.all_eq_true.mp List.all_takeWhile c hc
  let rest := cs.dropWhile isBlank
  refine ⟨cs.takeWhile isBlank, (rest.reverse.takeWhile isBlank).reverse, ?_, blank cs, ?_⟩
  · have tail : trimmed cs ++ (rest.reverse.takeWhile isBlank).reverse = rest := by
      rw [trimmed, dropTail, ← List.reverse_append, List.takeWhile_append_dropWhile, List.reverse_reverse]
    rw [List.append_assoc, tail, List.takeWhile_append_dropWhile]
  · intro c hc
    exact blank _ c (List.mem_reverse.mp hc)

theorem mem_trimmed {cs : List Char} {c : Char} (hc : c ∈ cs) (blank : isBlank c = false) : c ∈ trimmed cs := by
  obtain ⟨front, back, whole, hf, hb⟩ := exists_blanks_trimmed cs
  rw [whole, List.mem_append, List.mem_append] at hc
  rcases hc with (hc | hc) | hc
  · rw [hf c hc] at blank
    cases blank
  · exact hc
  · rw [hb c hc] at blank
    cases blank

/-- The text spells the number: digits between blanks, any zeros in front included. -/
def Spells (raw : String) (n : Nat) : Prop :=
  ∃ front digits back, raw.toList = front ++ digits ++ back ∧ (∀ c ∈ front, isBlank c = true) ∧
    (∀ c ∈ back, isBlank c = true) ∧ digits ≠ [] ∧ (∀ c ∈ digits, c.isDigit = true) ∧ digitsValue digits = n

theorem spells_iff {raw : String} {n : Nat} : Spells raw n ↔ trimmed raw.toList ≠ [] ∧
    (∀ c ∈ trimmed raw.toList, c.isDigit = true) ∧ digitsValue (trimmed raw.toList) = n := by
  constructor
  · rintro ⟨front, digits, back, whole, hf, hb, some_, hd, value⟩
    have same : trimmed raw.toList = digits := by
      rw [whole]
      exact trimmed_append hf hb some_ fun c hc => not_isBlank_of_isDigit (hd c hc)
    rw [same]
    exact ⟨some_, hd, value⟩
  · rintro ⟨some_, hd, value⟩
    obtain ⟨front, back, whole, hf, hb⟩ := exists_blanks_trimmed raw.toList
    exact ⟨front, _, back, whole, hf, hb, some_, hd, value⟩

theorem trimmed_decimal (n : Nat) : trimmed (decimal n).toList = decimalDigits n := by
  rw [decimal, String.toList_ofList]
  exact trimmed_eq_self fun c hc => not_isBlank_of_isDigit (decimalDigits_isDigit n c hc)

theorem trim_decimal (n : Nat) : trim (decimal n) = decimal n := by
  rw [trim, trimmed_decimal]
  rfl

end AgentLedger.Text

/-! ## Amounts -/

namespace AgentLedger.Amount

/-- Digits that follow never make less of an amount, so that checking each one is checking the value of them all. -/
theorem foldlM_appendDigit? (ds : List Char) (a : Amount) :
    ds.foldlM appendDigit? a = ofNat? (Nat.ofDigitChars 10 ds a.units) := by
  induction ds generalizing a with
  | nil => exact (ofNat?_eq_some.mpr rfl).symm
  | cons d ds ih =>
    rw [List.foldlM_cons, Text.ofDigitChars_cons]
    have whole := Text.le_ofDigitChars ds (10 * a.units + Text.digitValue d)
    cases h : a.appendDigit? d with
    | some b =>
      rw [← ofNat?_eq_some.mp h]
      exact ih b
    | none =>
      have exceeds := Nat.le_trans (ofNat?_eq_none.mp h) whole
      exact (ofNat?_eq_none.mpr exceeds).symm

/-- Exactly the spelled amounts are read. -/
theorem read_eq_ok {raw : String} {a : Amount} : read raw = .ok a ↔ Text.Spells raw a.units := by
  rw [Text.spells_iff]
  unfold read
  generalize Text.trimmed raw.toList = digits
  by_cases numeral : digits ≠ [] ∧ ∀ c ∈ digits, c.isDigit = true
  · have some_ : (digits.isEmpty || !digits.all Char.isDigit) = false := by simpa using numeral
    have value : digits.foldlM appendDigit? zero = ofNat? (Text.digitsValue digits) := foldlM_appendDigit? digits zero
    rw [and_iff_right numeral.1, and_iff_right numeral.2, @eq_comm _ _ a.units, ← ofNat?_eq_some, ← value]
    simp only [some_, Bool.false_eq_true, if_false]
    cases digits.foldlM appendDigit? zero <;> simp
  · have other : (digits.isEmpty || !digits.all Char.isDigit) = true := by
      by_cases empty : digits = []
      · simp [empty]
      · simpa [empty] using numeral
    simp only [other, if_true]
    constructor
    · intro h
      cases h
    · intro h
      exact absurd ⟨h.1, h.2.1⟩ numeral

/-- One character that is neither a blank nor a digit spoils the text. -/
theorem read_stray {raw : String} {c : Char} (hc : c ∈ raw.toList) (blank : Text.isBlank c = false)
    (digit : c.isDigit = false) : read raw = .error .notDigits := by
  have spoiled : (Text.trimmed raw.toList).all Char.isDigit = false :=
    List.all_eq_false.mpr ⟨c, Text.mem_trimmed hc blank, by simp [digit]⟩
  unfold read
  simp only [spoiled, Bool.not_false, Bool.or_true, if_true]

theorem isCanonical_text (a : Amount) : Text.IsCanonical a.text.toList a.units := by
  rw [text, Text.decimal, String.toList_ofList]
  exact Text.isCanonical_decimalDigits a.units

/-- An amount is read from its own text. -/
theorem read_text (a : Amount) : read a.text = .ok a := by
  refine read_eq_ok.mpr (Text.spells_iff.mpr ?_)
  rw [text, Text.trimmed_decimal]
  exact ⟨Text.decimalDigits_ne_nil a.units, Text.decimalDigits_isDigit a.units, Text.digitsValue_decimalDigits a.units⟩

end AgentLedger.Amount
