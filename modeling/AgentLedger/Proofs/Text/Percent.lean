import AgentLedger.Proofs.Text.Utf8
import AgentLedger.Text.Percent
/-!
# Percent-encoding is undone

A text of which percent signs, at least, are encoded is decoded to its bytes.
What is encoded does not show up, the percent signs and the hexadecimal digits
of the encoding aside.
-/

namespace AgentLedger.Text

theorem hexValue?_upperHexDigit {n : Nat} (h : n < 16) : hexValue? (upperHexDigit n) = some n := by
  have key : ∀ k : Fin 16, hexValue? (upperHexDigit k.val) = some k.val := by decide
  exact key ⟨n, h⟩

theorem percentDecoded_byte (b : UInt8) (cs : List Char) :
    percentDecoded (percentEncodedByte b ++ cs) = b :: percentDecoded cs := by
  have hb := b.toNat_lt
  have high := hexValue?_upperHexDigit (n := b.toNat / 16) (by omega)
  have low := hexValue?_upperHexDigit (n := b.toNat % 16) (by omega)
  simp only [percentEncodedByte, List.cons_append, List.nil_append, percentDecoded, high, low]
  rw [show 16 * (b.toNat / 16) + b.toNat % 16 = b.toNat by omega, UInt8.ofNat_toNat]

theorem percentDecoded_bytes (bs : Bytes) (cs : List Char) :
    percentDecoded (bs.flatMap percentEncodedByte ++ cs) = bs ++ percentDecoded cs := by
  induction bs with
  | nil => rfl
  | cons b bs ih => rw [List.flatMap_cons, List.append_assoc, percentDecoded_byte, ih, List.cons_append]

theorem percentDecoded_cons {c : Char} (h : c ≠ '%') (cs : List Char) :
    percentDecoded (c :: cs) = String.utf8EncodeChar c ++ percentDecoded cs := by
  rw [percentDecoded]
  rintro _ _ _ rfl
  exact absurd rfl h

/-- The decoder gets back the bytes of the text that was encoded. -/
theorem percentDecoded_percentEncoded {encoded : Char → Bool} (h : encoded '%' = true) (cs : List Char) :
    percentDecoded (percentEncoded encoded cs) = utf8 cs := by
  induction cs with
  | nil => rfl
  | cons c cs ih =>
    rw [percentEncoded, List.flatMap_cons, ← percentEncoded, utf8, List.flatMap_cons, ← utf8, ← ih]
    cases hc : encoded c with
    | true => rw [if_pos rfl, percentDecoded_bytes]
    | false =>
      have plain : c ≠ '%' := by rintro rfl; rw [h] at hc; cases hc
      rw [if_neg (by simp), List.singleton_append, percentDecoded_cons plain]

/-- A character that is encoded does not stand in the outcome, unless the encoding is written with it. -/
theorem not_mem_percentEncoded {encoded : Char → Bool} {d : Char} (h : encoded d = true)
    (other : ∀ b : UInt8, d ∉ percentEncodedByte b) (cs : List Char) : d ∉ percentEncoded encoded cs := by
  intro hd
  obtain ⟨c, -, hc⟩ := List.mem_flatMap.mp hd
  split at hc
  · obtain ⟨b, -, hb⟩ := List.mem_flatMap.mp hc
    exact other b hb
  · rename_i plain
    rw [← List.mem_singleton.mp hc] at plain
    exact plain h

theorem upperHexDigit_isAlphanum {n : Nat} (h : n < 16) : (upperHexDigit n).isAlphanum = true := by
  have key : ∀ k : Fin 16, (upperHexDigit k.val).isAlphanum = true := by decide
  exact key ⟨n, h⟩

theorem not_mem_percentEncodedByte {d : Char} (h : d ≠ '%') (h' : d.isAlphanum = false) (b : UInt8) :
    d ∉ percentEncodedByte b := by
  have hb := b.toNat_lt
  intro hd
  simp only [percentEncodedByte, List.mem_cons, List.not_mem_nil, or_false] at hd
  rcases hd with rfl | rfl | rfl
  · exact h rfl
  · rw [upperHexDigit_isAlphanum (by omega)] at h'; cases h'
  · rw [upperHexDigit_isAlphanum (by omega)] at h'; cases h'

theorem percentEncoded_ne_nil {encoded : Char → Bool} {cs : List Char} (h : cs ≠ []) : percentEncoded encoded cs ≠ [] := by
  obtain ⟨c, cs, rfl⟩ := List.exists_cons_of_ne_nil h
  rw [percentEncoded, List.flatMap_cons]
  refine List.append_ne_nil_of_left_ne_nil ?_ _
  split
  · have := c.utf8Size_pos
    cases he : String.utf8EncodeChar c with
    | nil => rw [← String.length_utf8EncodeChar, he] at this; cases this
    | cons b bs => exact List.cons_ne_nil _ _
  · exact List.cons_ne_nil _ _

end AgentLedger.Text
