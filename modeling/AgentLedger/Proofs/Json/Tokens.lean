import AgentLedger.Proofs.Json.Grammar
/-!
# Tokens are read

A literal is read up to its closing quote as its text, and as a token that may
only be skipped where it has none. A figure is read as its numeral, to the end
only where nothing that belongs to numbers follows.
-/

namespace AgentLedger.Json

open Text (Received)

/-! ## Space -/

theorem skipSpace_cons {c : Char} (h : isSpace (some c) = false) (s : Received) : skipSpace (some c :: s) = some c :: s := by
  rw [skipSpace, List.dropWhile_cons_of_neg (by rw [h]; simp)]

theorem skipSpace_blank (b : Blank) (s : Received) : skipSpace (b.chars.map some ++ s) = skipSpace s := by
  obtain ⟨cs, spaces⟩ := b
  induction cs with
  | nil => rfl
  | cons c cs ih =>
    rw [List.forall_mem_cons] at spaces
    rw [List.map_cons, List.cons_append, skipSpace, List.dropWhile_cons_of_pos spaces.1]
    exact ih spaces.2

/-! ## Strings -/

theorem readString_plain {c : Char} (visible : c ≠ '"' ∧ c ≠ '\\' ∧ 0x20 ≤ c.toNat) (fuel : Nat) (s : Received) :
    readString (fuel + 1) (some c :: s) = (readString fuel s).map fun (cs, rest) => (c :: cs, rest) := by
  simp only [readString]
  rw [if_neg visible.1, if_neg visible.2.1, if_neg (by omega)]

theorem ne_u_of_simpleEscape? {e c : Char} (known : simpleEscape? e = some c) : e ≠ 'u' := by
  rintro rfl
  cases known

theorem readString_short {e c : Char} (known : simpleEscape? e = some c) (fuel : Nat) (s : Received) :
    readString (fuel + 1) (some '\\' :: some e :: s) =
      (readString fuel s).map fun (cs, rest) => (c :: cs, rest) := by
  unfold simpleEscape? at known
  split at known <;> cases known <;> rfl

theorem readString_unit {s rest : Received} {c : Char} (read : readCodePoint s = .ok (c, rest)) (fuel : Nat) :
    readString (fuel + 1) (some '\\' :: some 'u' :: s) =
      (readString fuel rest).map fun (cs, rest) => (c :: cs, rest) := by
  simp only [readString]
  rw [read]
  rfl

theorem readString_unit_error {s : Received} {b : Break} (read : readCodePoint s = .error b) (fuel : Nat) :
    readString (fuel + 1) (some '\\' :: some 'u' :: s) = .error b := by
  simp only [readString]
  rw [read]
  rfl

theorem skipString_plain {c : Char} (visible : c ≠ '"' ∧ c ≠ '\\' ∧ 0x20 ≤ c.toNat) (fuel : Nat) (s : Received) :
    skipString (fuel + 1) (some c :: s) = skipString fuel s := by
  simp only [skipString]
  rw [if_neg visible.1, if_neg visible.2.1, if_neg (by omega)]

theorem skipString_short {e c : Char} (known : simpleEscape? e = some c) (fuel : Nat) (s : Received) :
    skipString (fuel + 1) (some '\\' :: some e :: s) = skipString fuel s := by
  unfold simpleEscape? at known
  split at known <;> cases known <;> rfl

theorem skipString_unit {s rest : Received} {n : Nat} (read : readUnit16 s = .ok (n, rest)) (fuel : Nat) :
    skipString (fuel + 1) (some '\\' :: some 'u' :: s) = skipString fuel rest := by
  simp only [skipString]
  rw [read]
  rfl

theorem isShort_cons4 (a b c d : Char) (s : Received) : isShort (some a :: some b :: some c :: some d :: s) = false := by
  have ha := a.utf8Size_pos
  have hb := b.utf8Size_pos
  have hc := c.utf8Size_pos
  have hd := d.utf8Size_pos
  simp only [isShort, List.take_succ_cons, List.take_zero, List.foldl_cons, List.foldl_nil, Option.elim, Nat.zero_add,
    decide_eq_false_iff_not]
  omega

section
variable {a b c d : Char} {n : Nat} (known : Text.hexNumber? [a, b, c, d] = some n)
include known

theorem readUnit16_unit (s : Received) : readUnit16 (some a :: some b :: some c :: some d :: s) = .ok (n, s) := by
  simp only [readUnit16, isShort_cons4, Bool.false_eq_true, if_false, known]

theorem readCodePoint_low (low : 0xDC00 ≤ n ∧ n ≤ 0xDFFF) (s : Received) :
    readCodePoint (some a :: some b :: some c :: some d :: s) = .error (.malformed .loneSurrogate) := by
  simp only [readCodePoint, readUnit16_unit known, low, and_self, if_true]

theorem readCodePoint_basic (low : ¬(0xDC00 ≤ n ∧ n ≤ 0xDFFF)) (basic : n < 0xD800 ∨ 0xDBFF < n) (s : Received) :
    readCodePoint (some a :: some b :: some c :: some d :: s) = .ok (Char.ofNat n, s) := by
  simp only [readCodePoint, readUnit16_unit known, low, basic, if_true, if_false]

variable (low : ¬(0xDC00 ≤ n ∧ n ≤ 0xDFFF)) (basic : ¬(n < 0xD800 ∨ 0xDBFF < n))
include low basic

theorem readCodePoint_pair {a' b' c' d' : Char} {m : Nat} (known' : Text.hexNumber? [a', b', c', d'] = some m)
    (s : Received) :
    readCodePoint (some a :: some b :: some c :: some d ::
      some '\\' :: some 'u' :: some a' :: some b' :: some c' :: some d' :: s) =
      if 0xDC00 ≤ m ∧ m ≤ 0xDFFF then .ok (Char.ofNat (0x10000 + (n - 0xD800) * 0x400 + (m - 0xDC00)), s)
      else .error (.malformed .loneSurrogate) := by
  simp only [readCodePoint, readUnit16_unit known, readUnit16_unit known', low, basic, if_false]

/-- Behind the first half of a pair something else stands than a unit. -/
theorem readCodePoint_half {gs : Literal}
    (other : ∀ (a b c d : Char) m (known : Text.hexNumber? [a, b, c, d] = some m) gs', gs = .unit a b c d m known :: gs' → False)
    (s : Received) :
    readCodePoint (some a :: some b :: some c :: some d :: (gs.chars.map some ++ some '"' :: s)) =
      .error (.malformed .halfPair) := by
  simp only [readCodePoint, readUnit16_unit known, low, basic, if_false]
  match gs with
  | [] => rfl
  | .plain c visible :: gs =>
    simp only [Literal.chars_cons, Glyph.chars, List.map_cons, List.cons_append, List.nil_append]
    split
    · rename_i ahead
      cases ahead
    · rename_i ahead
      exact absurd (Option.some.inj (List.cons.inj ahead).1) visible.2.1
    · rename_i ahead
      exact absurd (Option.some.inj (List.cons.inj ahead).1) visible.2.1
    · rfl
  | .short e c known :: gs =>
    simp only [Literal.chars_cons, Glyph.chars, List.map_cons, List.cons_append, List.nil_append]
    split
    · rename_i ahead
      cases ahead
    · rename_i ahead
      cases (List.cons.inj ahead).2
    · rename_i ahead
      exact absurd (Option.some.inj (List.cons.inj (List.cons.inj ahead).2).1) (ne_u_of_simpleEscape? known)
    · rfl
  | .unit a b c d m known :: gs => exact (other a b c d m known gs rfl).elim

end

namespace Literal

/-- A string is read as its text, or broken off at the surrogate that has no partner. -/
theorem readString_chars (gs : Literal) (s : Received) {fuel : Nat} (h : gs.length < fuel) :
    readString fuel (gs.chars.map some ++ some '"' :: s) = gs.content.map fun cs => (cs, s) := by
  obtain ⟨fuel, rfl⟩ := Nat.exists_eq_succ_of_ne_zero (n := fuel) (by omega)
  fun_induction content gs generalizing fuel with
  | case1 => rfl
  | case2 c visible gs ih =>
    rw [List.length_cons] at h
    obtain ⟨fuel, rfl⟩ := Nat.exists_eq_succ_of_ne_zero (n := fuel) (by omega)
    rw [chars_cons]
    simp only [Glyph.chars, List.map_cons, List.cons_append, List.nil_append]
    rw [readString_plain visible, ih fuel (by omega)]
    cases content gs <;> rfl
  | case3 e c known gs ih =>
    rw [List.length_cons] at h
    obtain ⟨fuel, rfl⟩ := Nat.exists_eq_succ_of_ne_zero (n := fuel) (by omega)
    rw [chars_cons]
    simp only [Glyph.chars, List.map_cons, List.cons_append, List.nil_append]
    rw [readString_short known, ih fuel (by omega)]
    cases content gs <;> rfl
  | case4 a b c d n known gs low =>
    rw [chars_cons]
    simp only [Glyph.chars, List.map_cons, List.cons_append, List.nil_append]
    rw [readString_unit_error (readCodePoint_low known low _)]
    rfl
  | case5 a b c d n known gs low basic ih =>
    rw [List.length_cons] at h
    obtain ⟨fuel, rfl⟩ := Nat.exists_eq_succ_of_ne_zero (n := fuel) (by omega)
    rw [chars_cons]
    simp only [Glyph.chars, List.map_cons, List.cons_append, List.nil_append]
    rw [readString_unit (readCodePoint_basic known low basic _), ih fuel (by omega)]
    cases content gs <;> rfl
  | case6 a b c d n known low basic a' b' c' d' m known' gs low' ih =>
    rw [List.length_cons, List.length_cons] at h
    obtain ⟨fuel, rfl⟩ := Nat.exists_eq_succ_of_ne_zero (n := fuel) (by omega)
    rw [chars_cons, chars_cons]
    simp only [Glyph.chars, List.map_cons, List.cons_append, List.nil_append]
    have pair := readCodePoint_pair known low basic known' ((chars gs).map some ++ some '"' :: s)
    rw [if_pos low'] at pair
    rw [readString_unit pair, ih fuel (by omega)]
    cases content gs <;> rfl
  | case7 a b c d n known low basic a' b' c' d' m known' gs low' =>
    rw [chars_cons, chars_cons]
    simp only [Glyph.chars, List.map_cons, List.cons_append, List.nil_append]
    have pair := readCodePoint_pair known low basic known' ((chars gs).map some ++ some '"' :: s)
    rw [if_neg low'] at pair
    rw [readString_unit_error pair]
    rfl
  | case8 a b c d n known gs low basic other =>
    rw [chars_cons]
    simp only [Glyph.chars, List.map_cons, List.cons_append, List.nil_append]
    rw [readString_unit_error (readCodePoint_half known low basic other s)]
    rfl

theorem skipString_chars (gs : Literal) (s : Received) {fuel : Nat} (h : gs.length < fuel) :
    skipString fuel (gs.chars.map some ++ some '"' :: s) = .ok s := by
  induction gs generalizing fuel with
  | nil =>
    obtain ⟨fuel, rfl⟩ := Nat.exists_eq_succ_of_ne_zero (n := fuel) (by omega)
    rfl
  | cons g gs ih =>
    rw [List.length_cons] at h
    obtain ⟨fuel, rfl⟩ := Nat.exists_eq_succ_of_ne_zero (n := fuel) (by omega)
    rw [chars_cons]
    cases g with
    | plain c visible => exact (skipString_plain visible fuel _).trans (ih (by omega))
    | short e c known => exact (skipString_short known fuel _).trans (ih (by omega))
    | unit a b c d n known => exact (skipString_unit (readUnit16_unit known _) fuel).trans (ih (by omega))

theorem length_le_chars (gs : Literal) : gs.length ≤ gs.chars.length := by
  induction gs with
  | nil => exact Nat.le_refl _
  | cons g gs ih =>
    rw [chars_cons, List.length_cons, List.length_append]
    cases g <;> simp only [Glyph.chars, List.length_cons, List.length_nil] <;> omega

/-- A string is read to its closing quote, also where it has no text. -/
theorem readStringToken_chars (gs : Literal) (s : Received) :
    readStringToken (gs.chars.map some ++ some '"' :: s) = .ok (gs.text, s) := by
  have enough : gs.length < (gs.chars.map some ++ some '"' :: s).length + 1 := by
    have := gs.length_le_chars
    rw [List.length_append, List.length_map]
    omega
  unfold readStringToken text
  rw [readString_chars gs s enough, skipString_chars gs s enough]
  cases content gs <;> rfl

end Literal

/-! ## Numbers -/

def EndsNumber (s : Received) : Prop :=
  ∀ c ∈ s.head?, isDigit c = false ∧ c ≠ some '.' ∧ c ≠ some 'e' ∧ c ≠ some 'E'

theorem endsNumber_nil : EndsNumber [] := by rintro _ ⟨⟩

theorem endsNumber_cons {c : Char} (h : isDigit (some c) = false ∧ some c ≠ some '.' ∧ some c ≠ some 'e' ∧ some c ≠ some 'E')
    (s : Received) : EndsNumber (some c :: s) := by
  rintro _ ⟨⟩
  exact h

theorem takeDigits_append {ds : List Char} (hd : ∀ c ∈ ds, c.isDigit = true) {s : Received}
    (hs : ∀ c ∈ s.head?, isDigit c = false) : takeDigits (ds.map some ++ s) = (ds, s) := by
  induction ds with
  | nil =>
    cases s with
    | nil => rfl
    | cons c s =>
      cases c with
      | none => rfl
      | some c =>
        have := hs _ rfl
        simp only [isDigit] at this
        simp [takeDigits, this]
  | cons d ds ih =>
    rw [List.forall_mem_cons] at hd
    simp [takeDigits, hd.1, ih hd.2]

theorem endsNumber_blank (b : Blank) {s : Received} (h : EndsNumber s) : EndsNumber (b.chars.map some ++ s) := by
  obtain ⟨cs, spaces⟩ := b
  cases cs with
  | nil => exact h
  | cons c cs =>
    apply endsNumber_cons
    have space := spaces c List.mem_cons_self
    simp only [isSpace, Bool.or_eq_true, beq_iff_eq] at space
    rcases space with ((rfl | rfl) | rfl) | rfl <;> decide

theorem readExponent_of_endsNumber {s : Received} (hs : EndsNumber s) : readExponent s = .ok (none, s) := by
  unfold readExponent
  split
  · rename_i c s
    have h := hs _ rfl
    rw [if_neg]
    rintro (rfl | rfl)
    · exact h.2.2.1 rfl
    · exact h.2.2.2 rfl
  · rfl

theorem Digits.takeDigits (ds : Digits) {s : Received} (h : ∀ c ∈ s.head?, isDigit c = false) :
    Json.takeDigits (ds.chars.map some ++ s) = (ds.chars, s) := takeDigits_append ds.digits h

theorem Digits.eq_cons (ds : Digits) : ∃ c cs, ds.chars = c :: cs ∧ c.isDigit = true := by
  obtain ⟨c, cs, h⟩ := List.exists_cons_of_ne_nil ds.ne_nil
  exact ⟨c, cs, h, ds.digits c (h ▸ List.mem_cons_self)⟩

namespace Figure

theorem readWhole_chars (f : Figure) {s : Received} (h : ∀ c ∈ s.head?, isDigit c = false) :
    readWhole (f.whole.chars.map some ++ s) = .ok (f.whole.chars, s) := by
  unfold readWhole
  rw [f.whole.takeDigits h]
  split
  · rename_i none_
    exact absurd (congrArg Prod.fst none_) f.whole.ne_nil
  · rename_i zero
    exact absurd (congrArg Prod.fst zero) (f.noLeadingZero _ _)
  · rfl

theorem readFraction_chars (o : Option Digits) {s : Received} (h : ∀ c ∈ s.head?, isDigit c = false ∧ c ≠ some '.') :
    readFraction ((fractionChars o).map some ++ s) = .ok ((o.map (·.chars)).getD [], s) := by
  cases o with
  | none =>
    show readFraction s = .ok ([], s)
    unfold readFraction
    split
    · exact absurd rfl (h _ rfl).2
    · rfl
  | some ds =>
    simp only [fractionChars, List.map_cons, List.cons_append, readFraction, ds.takeDigits fun c hc => (h c hc).1]
    split
    · rename_i none_
      exact absurd (congrArg Prod.fst none_) ds.ne_nil
    · rfl

theorem readExponent_chars (o : Option (Mark × Digits)) {s : Received} (h : EndsNumber s) :
    readExponent ((exponentChars o).map some ++ s) =
      .ok (o.map fun (m, ds) => (m.sign.getD false, ds.chars), s) := by
  obtain _ | ⟨⟨upper, sign⟩, ds⟩ := o
  · exact readExponent_of_endsNumber h
  · have digits := ds.takeDigits fun c hc => (h c hc).1
    obtain ⟨c, cs, head, digit⟩ := ds.eq_cons
    have minus : c ≠ '-' := by rintro rfl; cases digit
    have plus : c ≠ '+' := by rintro rfl; cases digit
    obtain _ | negative := sign
    · rw [head, List.map_cons, List.cons_append] at digits
      simp [exponentChars, Mark.chars, readExponent, head, minus, plus, digits]
    · cases negative <;> simp [exponentChars, Mark.chars, readExponent, digits, ds.ne_nil]

theorem head_exponentChars (o : Option (Mark × Digits)) {s : Received} (h : EndsNumber s) :
    ∀ c ∈ ((exponentChars o).map some ++ s).head?, isDigit c = false ∧ c ≠ some '.' := by
  obtain _ | ⟨⟨upper, sign⟩, ds⟩ := o
  · exact fun c hc => ⟨(h c hc).1, (h c hc).2.1⟩
  · rintro _ ⟨⟩
    cases upper <;> exact ⟨rfl, by simp⟩

theorem head_fractionChars (o : Option Digits) {s : Received} (h : ∀ c ∈ s.head?, isDigit c = false) :
    ∀ c ∈ ((fractionChars o).map some ++ s).head?, isDigit c = false := by
  cases o with
  | none => exact h
  | some ds => rintro _ ⟨⟩; decide

theorem readNumeral_chars (f : Figure) {s : Received} (h : EndsNumber s) :
    readNumeral (f.chars.map some ++ s) = .ok (f.numeral, s) := by
  have ends := head_exponentChars f.exponent h
  have whole := f.readWhole_chars (head_fractionChars f.fraction fun c hc => (ends c hc).1)
  have fraction := readFraction_chars f.fraction ends
  have exponent := readExponent_chars f.exponent h
  have unsigned (negative : Bool) : readUnsignedNumeral negative ((f.whole.chars ++ (fractionChars f.fraction ++
      exponentChars f.exponent)).map some ++ s) = .ok ({ f.numeral with negative }, s) := by
    unfold readUnsignedNumeral
    simp only [List.map_append, List.append_assoc, bind, Except.bind, whole, fraction, exponent]
    rfl
  obtain ⟨c, cs, head, digit⟩ := f.whole.eq_cons
  have plus : c ≠ '-' := by rintro rfl; cases digit
  cases negative : f.negative with
  | true =>
    have same : f.chars = '-' :: (f.whole.chars ++ (fractionChars f.fraction ++ exponentChars f.exponent)) := by
      simp [chars, negative]
    rw [same]
    refine (unsigned true).trans ?_
    rw [← negative]
    rfl
  | false =>
    have same : f.chars = f.whole.chars ++ (fractionChars f.fraction ++ exponentChars f.exponent) := by
      simp [chars, negative]
    have back := unsigned false
    rw [← same] at back
    unfold readNumeral
    split
    · rename_i ahead
      rw [same, head] at ahead
      cases ahead
      exact absurd rfl plus
    · rw [back, ← negative]
      rfl

theorem begins_chars (f : Figure) : ∃ c cs, f.chars = c :: cs ∧ (c = '-' ∨ c.isDigit = true) := by
  obtain ⟨c, cs, head, digit⟩ := f.whole.eq_cons
  cases negative : f.negative with
  | true => exact ⟨_, _, by simp [chars, negative]; rfl, .inl rfl⟩
  | false => exact ⟨_, _, by simp [chars, negative, head]; rfl, .inr digit⟩

end Figure

end AgentLedger.Json
