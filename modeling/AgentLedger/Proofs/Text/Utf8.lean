import AgentLedger.Text.Utf8
/-!
# UTF-8 is read back

The bytes of a text are read as that text, with no gap. Each length of a
character is a case of its own: what the first byte makes the decoder owe, and
that the other bytes pay it.
-/

namespace AgentLedger.Text

theorem toNat_byte {n : Nat} (h : n < 256) : (UInt8.ofNat n).toNat = n := by
  rw [UInt8.toNat_ofNat']
  exact Nat.mod_eq_of_lt h

section
variable {low high code : Nat} {b : UInt8} {bs : Bytes}

theorem decodeFrom_first {s : Utf8State} (h : Utf8State.first b.toNat = some (.inr s)) :
    decodeFrom .rest (b :: bs) = decodeFrom s bs := by
  rw [decodeFrom, h]

theorem decodeFrom_last (h : low ≤ b.toNat ∧ b.toNat ≤ high) :
    decodeFrom (.owing 1 low high code) (b :: bs) =
      some (Char.ofNat (code * 64 + b.toNat % 64)) :: decodeFrom .rest bs := by
  rw [decodeFrom, if_pos h]
  rfl

theorem decodeFrom_more (left : Nat) (h : low ≤ b.toNat ∧ b.toNat ≤ high) :
    decodeFrom (.owing (left + 2) low high code) (b :: bs) =
      decodeFrom (.owing (left + 1) 0x80 0xBF (code * 64 + b.toNat % 64)) bs := by
  rw [decodeFrom, if_pos h]
  rfl

end

/-! ## What the first byte owes -/

section
variable {v : Nat}

theorem first_of_two (h : 0x7F < v) (h' : v ≤ 0x7FF) :
    Utf8State.first (v / 64 % 32 + 192) = some (.inr (.owing 1 0x80 0xBF (v / 64))) := by
  have : v / 64 % 32 + 192 < 0xE0 := by omega
  unfold Utf8State.first
  rw [if_neg (by omega), if_neg (by omega), if_pos this, show (v / 64 % 32 + 192) % 32 = v / 64 by omega]

/-- The second byte lies within bounds that keep out long forms and surrogates. -/
theorem first_of_three (h : 0x7FF < v) (h' : v ≤ 0xFFFF) (valid : v < 0xD800 ∨ 0xDFFF < v) :
    ∃ low high, Utf8State.first (v / 4096 % 16 + 224) = some (.inr (.owing 2 low high (v / 4096))) ∧
      low ≤ v / 64 % 64 + 128 ∧ v / 64 % 64 + 128 ≤ high := by
  have code : (v / 4096 % 16 + 224) % 16 = v / 4096 := by omega
  unfold Utf8State.first
  rw [if_neg (by omega), if_neg (by omega), if_neg (by omega), code]
  split
  · exact ⟨_, _, rfl, by omega, by omega⟩
  · split
    · exact ⟨_, _, rfl, by omega, by omega⟩
    · rw [if_pos (by omega)]
      exact ⟨_, _, rfl, by omega, by omega⟩

theorem first_of_four (h : 0xFFFF < v) (h' : v < 0x110000) :
    ∃ low high, Utf8State.first (v / 262144 % 8 + 240) = some (.inr (.owing 3 low high (v / 262144))) ∧
      low ≤ v / 4096 % 64 + 128 ∧ v / 4096 % 64 + 128 ≤ high := by
  have code : (v / 262144 % 8 + 240) % 8 = v / 262144 := by omega
  unfold Utf8State.first
  rw [if_neg (by omega), if_neg (by omega), if_neg (by omega), if_neg (by omega), if_neg (by omega),
    if_neg (by omega), code]
  split
  · exact ⟨_, _, rfl, by omega, by omega⟩
  · split
    · exact ⟨_, _, rfl, by omega, by omega⟩
    · rw [if_pos (by omega)]
      exact ⟨_, _, rfl, by omega, by omega⟩

end

/-! ## A character, a text -/

theorem decodeFrom_char (c : Char) (bs : Bytes) :
    decodeFrom .rest (String.utf8EncodeChar c ++ bs) = some c :: decodeFrom .rest bs := by
  have valid : c.val.toNat < 0xD800 ∨ 0xDFFF < c.val.toNat ∧ c.val.toNat < 0x110000 := c.valid
  have same : Char.ofNat c.val.toNat = c := Char.ofNat_toNat c
  generalize hv : c.val.toNat = v at valid same
  unfold String.utf8EncodeChar
  simp only [hv]
  by_cases one : v ≤ 0x7F
  · rw [if_pos one, List.singleton_append, decodeFrom, toNat_byte (by omega), Utf8State.first, if_pos (by omega), same]
  rw [if_neg one]
  by_cases two : v ≤ 0x7FF
  · rw [if_pos two, List.cons_append, List.singleton_append, decodeFrom_first (s := .owing 1 0x80 0xBF (v / 64))]
    · rw [decodeFrom_last, toNat_byte (by omega)]
      · rw [show v / 64 * 64 + (v % 64 + 128) % 64 = v by omega, same]
      · rw [toNat_byte (by omega)]; omega
    · rw [toNat_byte (by omega)]; exact first_of_two (by omega) two
  rw [if_neg two]
  by_cases three : v ≤ 0xFFFF
  · obtain ⟨low, high, first, second⟩ := first_of_three (by omega) three (by omega)
    rw [if_pos three, List.cons_append, List.cons_append, List.singleton_append, decodeFrom_first, decodeFrom_more 0,
      decodeFrom_last]
    · rw [toNat_byte (by omega), toNat_byte (by omega),
        show (v / 4096 * 64 + (v / 64 % 64 + 128) % 64) * 64 + (v % 64 + 128) % 64 = v by omega, same]
    · rw [toNat_byte (by omega)]; omega
    · rw [toNat_byte (by omega)]; exact second
    · rw [toNat_byte (by omega)]; exact first
  · obtain ⟨low, high, first, second⟩ := first_of_four (v := v) (by omega) (by omega)
    rw [if_neg three, List.cons_append, List.cons_append, List.cons_append, List.singleton_append, decodeFrom_first,
      decodeFrom_more 1, decodeFrom_more 0, decodeFrom_last]
    · rw [toNat_byte (by omega), toNat_byte (by omega), toNat_byte (by omega),
        show ((v / 262144 * 64 + (v / 4096 % 64 + 128) % 64) * 64 + (v / 64 % 64 + 128) % 64) * 64 +
          (v % 64 + 128) % 64 = v by omega, same]
    · rw [toNat_byte (by omega)]; omega
    · rw [toNat_byte (by omega)]; omega
    · rw [toNat_byte (by omega)]; exact second
    · rw [toNat_byte (by omega)]; exact first

theorem decode_utf8 (cs : List Char) : decode (utf8 cs) = cs.map some := by
  unfold decode utf8
  induction cs with
  | nil => rfl
  | cons c cs ih => rw [List.flatMap_cons, decodeFrom_char, ih, List.map_cons]

theorem strict?_some (cs : List Char) : Received.strict? (cs.map some) = some cs := by
  induction cs with
  | nil => rfl
  | cons c cs ih => rw [List.map_cons, Received.strict?, ih]; rfl

theorem utf8_injective {cs ds : List Char} (h : utf8 cs = utf8 ds) : cs = ds := by
  have read := congrArg (fun bs => (decode bs).strict?) h
  simp only [decode_utf8, strict?_some] at read
  exact Option.some.inj read

theorem lenient_some (cs : List Char) : Received.lenient (cs.map some) = cs := by
  rw [Received.lenient, List.map_map]
  exact List.map_id cs

theorem utf8_cons_ascii {c : Char} (h : c.toNat < 0x80) (cs : List Char) :
    utf8 (c :: cs) = UInt8.ofNat c.toNat :: utf8 cs := by
  have : String.utf8EncodeChar c = [UInt8.ofNat c.toNat] := by
    unfold String.utf8EncodeChar
    exact if_pos (Nat.le_of_lt_succ h)
  rw [utf8, List.flatMap_cons, this]
  rfl

end AgentLedger.Text
