/-!
# UTF-8

Characters as bytes and back. The decoder never fails: a maximal run of bytes
that begins a character and cannot complete it, or a byte that begins none,
gives one `none`. Readers decide what such a gap means: strict ones refuse it,
lenient ones write U+FFFD.
-/

namespace AgentLedger.Text

abbrev Bytes := List UInt8

/-- Text as received: `none` stands for bytes that encode no character. -/
abbrev Received := List (Option Char)

def utf8 (cs : List Char) : Bytes := cs.flatMap String.utf8EncodeChar

/-- Between bytes: at rest, or owing `left` more bytes of which the next one
lies within `low` and `high`. -/
inductive Utf8State where
  | rest
  | owing (left low high code : Nat)

/-- The first byte of a character: a whole character, a state that owes the
others, or nothing. -/
def Utf8State.first (b : Nat) : Option (Char ⊕ Utf8State) :=
  if b < 0x80 then some (.inl (Char.ofNat b))
  else if b < 0xC2 then none
  else if b < 0xE0 then some (.inr (.owing 1 0x80 0xBF (b % 32)))
  else if b = 0xE0 then some (.inr (.owing 2 0xA0 0xBF (b % 16)))
  else if b = 0xED then some (.inr (.owing 2 0x80 0x9F (b % 16)))
  else if b < 0xF0 then some (.inr (.owing 2 0x80 0xBF (b % 16)))
  else if b = 0xF0 then some (.inr (.owing 3 0x90 0xBF (b % 8)))
  else if b < 0xF4 then some (.inr (.owing 3 0x80 0xBF (b % 8)))
  else if b = 0xF4 then some (.inr (.owing 3 0x80 0x8F (b % 8)))
  else none

def decodeFrom : Utf8State → Bytes → Received
  | .rest, [] => []
  | .owing .., [] => [none]
  | .rest, b :: bs =>
    match Utf8State.first b.toNat with
    | none => none :: decodeFrom .rest bs
    | some (.inl c) => some c :: decodeFrom .rest bs
    | some (.inr s) => decodeFrom s bs
  | .owing left low high code, b :: bs =>
    if low ≤ b.toNat ∧ b.toNat ≤ high then
      let code := code * 64 + b.toNat % 64
      if left ≤ 1 then some (Char.ofNat code) :: decodeFrom .rest bs
      else decodeFrom (.owing (left - 1) 0x80 0xBF code) bs
    else
      match Utf8State.first b.toNat with
      | none => none :: none :: decodeFrom .rest bs
      | some (.inl c) => none :: some c :: decodeFrom .rest bs
      | some (.inr s) => none :: decodeFrom s bs

def decode (bs : Bytes) : Received := decodeFrom .rest bs

/-- All characters, if there is no gap. -/
def Received.strict? : Received → Option (List Char)
  | [] => some []
  | none :: _ => none
  | some c :: cs => (strict? cs).map (c :: ·)

def Received.lenient (r : Received) : List Char := r.map (·.getD '\uFFFD')

def whole (s : String) : Received := s.toList.map some

end AgentLedger.Text
