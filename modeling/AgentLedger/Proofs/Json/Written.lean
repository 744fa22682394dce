import AgentLedger.Json.Reader
/-!
# What a text is read as

A document shows how the text begins that it is read from: an object at its
brace, a number at digits, a string at a quote with at least as much behind it
as the string is long.
-/

namespace AgentLedger.Json

open Text (Received)

theorem map_eq_ok {ε α β : Type} {x : Except ε α} {f : α → β} {b : β} :
    x.map f = .ok b ↔ ∃ a, x = .ok a ∧ f a = b := by
  cases x <;> simp [Except.map]

/-! ## Heads of documents -/

theorem readWord_eq (doc : Doc) (cs : List Char) (s : Received) :
    (readWord doc cs s).1 = doc ∨ ∃ d, (readWord doc cs s).1 = .damaged d := by
  induction cs generalizing s with
  | nil => exact .inl rfl
  | cons c cs ih =>
    cases s with
    | nil => exact .inr ⟨_, rfl⟩
    | cons d s =>
      rw [readWord]
      by_cases same : d = some c
      · rw [if_pos same]
        exact ih s
      · rw [if_neg same]
        exact .inr ⟨_, rfl⟩

inductive Doc.Head (s : Received) : Doc → Prop
  | damaged (x : Damage) : Head s (.damaged x)
  | null : Head s .null
  | bool (b : Bool) : Head s (.bool b)
  | number {n : Numeral} {rest : Received} : readNumeral (skipSpace s) = .ok (n, rest) → Head s (.number n)
  | string {t rest : Received} {u : String} : skipSpace s = some '"' :: t → readStringToken t = .ok (.ok u, rest) →
      Head s (.string u)
  | unreadable (b : Break) : Head s (.unreadable b)
  | array {t : Received} (items : List Doc) (e : Ending) : skipSpace s = some '[' :: t → Head s (.array items e)
  | object {k : Nat} {t : Received} {ms : List (Except Break String × Doc)} {e : Ending} :
      skipSpace s = some '\x7b' :: t → (readMembers k true t).1 = ms → Head s (.object ms e)

theorem head_readWord {doc : Doc} {s : Received} (h : doc.Head s) (cs : List Char) (t : Received) :
    (readWord doc cs t).1.Head s := by
  rcases readWord_eq doc cs t with read | ⟨x, read⟩
  · rw [read]
    exact h
  · rw [read]
    exact .damaged x

theorem head_readDoc (fuel : Nat) (s : Received) : (readDoc fuel s).1.Head s := by
  cases fuel with
  | zero => exact .damaged _
  | succ fuel =>
    unfold readDoc
    split
    · exact .damaged _
    · rename_i ahead
      split
      · rename_i token
        exact .string ahead token
      · exact .unreadable _
      · exact .damaged _
    · rename_i ahead
      exact .array _ _ ahead
    · rename_i ahead
      exact .object ahead rfl
    · exact head_readWord .null _ _
    · exact head_readWord (.bool true) _ _
    · exact head_readWord (.bool false) _ _
    · rename_i ahead
      split
      · unfold readNumber
        split
        · rename_i read
          exact .number (ahead ▸ read)
        · exact .damaged _
      · exact .damaged _

theorem readDoc_object {fuel : Nat} {s : Received} {ms : List (Except Break String × Doc)} {e : Ending}
    (h : (readDoc fuel s).1 = .object ms e) :
    ∃ k t, skipSpace s = some '\x7b' :: t ∧ (readMembers k true t).1 = ms := by
  have head := head_readDoc fuel s
  rw [h] at head
  cases head with
  | object ahead members => exact ⟨_, _, ahead, members⟩

/-! ## Numbers -/

theorem isDigit_takeDigits (s : Received) : ∀ c ∈ (takeDigits s).1, c.isDigit = true := by
  fun_induction takeDigits s with
  | case1 c s digit ds rest h ih =>
    rw [h] at ih
    intro d hd
    rcases List.mem_cons.mp hd with rfl | hd
    · exact digit
    · exact ih d hd
  | case2 => intro d hd; cases hd
  | case3 => intro d hd; cases hd

def Numeral.IsWritten (n : Numeral) : Prop := n.whole ≠ [] ∧ ∀ c ∈ n.whole, c.isDigit = true

theorem readWhole_digits {s rest : Received} {ds : List Char} (h : readWhole s = .ok (ds, rest)) :
    ds ≠ [] ∧ ∀ c ∈ ds, c.isDigit = true := by
  have digits := isDigit_takeDigits s
  unfold readWhole at h
  split at h
  · cases h
  · cases h
  · rename_i some_ _
    rw [Except.ok.inj h] at digits some_
    refine ⟨?_, digits⟩
    rintro rfl
    exact some_ rest rfl

theorem readNumeral_isWritten {s rest : Received} {n : Numeral} (h : readNumeral s = .ok (n, rest)) :
    n.IsWritten := by
  have unsigned (negative : Bool) (t : Received) (h : readUnsignedNumeral negative t = .ok (n, rest)) :
      n.IsWritten := by
    unfold readUnsignedNumeral at h
    cases whole : readWhole t with
    | error d => rw [whole] at h; cases h
    | ok p =>
      obtain ⟨ds, t'⟩ := p
      simp only [whole, bind, Except.bind] at h
      split at h
      · cases h
      · split at h
        · cases h
        · cases h
          exact readWhole_digits whole
  unfold readNumeral at h
  split at h
  · exact unsigned true _ h
  · exact unsigned false _ h

/-! ## Strings -/

theorem length_readUnit16 {s rest : Received} {n : Nat} (h : readUnit16 s = .ok (n, rest)) :
    rest.length + 4 = s.length := by
  unfold readUnit16 at h
  split at h
  · cases h
  · split at h
    · split at h
      · cases h
        rfl
      · cases h
    · cases h

theorem length_readCodePoint {s rest : Received} {c : Char} (h : readCodePoint s = .ok (c, rest)) :
    rest.length + 4 ≤ s.length := by
  unfold readCodePoint at h
  split at h
  · cases h
  · rename_i unit
    have first := length_readUnit16 unit
    split at h
    · cases h
    · split at h
      · cases h
        omega
      · split at h
        · cases h
        · cases h
        · split at h
          · cases h
          · rename_i unit
            have second := length_readUnit16 unit
            split at h
            · obtain ⟨-, rfl⟩ := Prod.mk.inj (Except.ok.inj h)
              simp only [List.length_cons] at first
              omega
            · cases h
        · cases h

theorem readString_cons {fuel : Nat} {s : Received} {d : Char} {cs : List Char} {rest : Received}
    (h : ((readString fuel s).map fun (cs, rest) => (d :: cs, rest)) = .ok (cs, rest)) :
    ∃ ds, cs = d :: ds ∧ readString fuel s = .ok (ds, rest) := by
  obtain ⟨⟨ds, t⟩, read, same⟩ := map_eq_ok.mp h
  cases same
  exact ⟨ds, rfl, read⟩

/-- Each character of a string, and its closing quote, takes up some of the text. -/
theorem length_readString {fuel : Nat} {s rest : Received} {cs : List Char} (h : readString fuel s = .ok (cs, rest)) :
    cs.length + rest.length < s.length := by
  fun_induction readString fuel s generalizing cs rest with
  | case4 fuel s =>
    cases h
    simp
  | case7 fuel s d t read _ ih =>
    obtain ⟨ds, rfl, inner⟩ := readString_cons h
    have tail := ih inner
    have head := length_readCodePoint read
    simp only [List.length_cons]
    omega
  | case9 fuel e s _ d _ _ ih =>
    obtain ⟨ds, rfl, inner⟩ := readString_cons h
    have tail := ih inner
    simp only [List.length_cons]
    omega
  | case12 fuel c s _ _ _ ih =>
    obtain ⟨ds, rfl, inner⟩ := readString_cons h
    have tail := ih inner
    simp only [List.length_cons]
    omega
  | _ => cases h

theorem length_readStringToken {s rest : Received} {t : String} (h : readStringToken s = .ok (.ok t, rest)) :
    t.length + rest.length < s.length := by
  unfold readStringToken at h
  split at h
  · rename_i read
    cases h
    simpa using length_readString read
  · split at h <;> cases h

theorem length_skipSpace (s : Received) : (skipSpace s).length ≤ s.length := (List.dropWhile_suffix _).length_le

theorem readDoc_string {fuel : Nat} {s : Received} {u : String} (h : (readDoc fuel s).1 = .string u) :
    u.length < s.length := by
  have head := head_readDoc fuel s
  rw [h] at head
  cases head with
  | string ahead token =>
    have inside := length_readStringToken token
    have outside := length_skipSpace s
    rw [ahead, List.length_cons] at outside
    omega

/-! ## Members -/

/-- What a text holds, as a whole or as part of something else. -/
def Doc.IsRead (d : Doc) : Prop := ∃ fuel s, (readDoc fuel s).1 = d

theorem Doc.IsRead.isWritten {n : Numeral} (h : (Doc.number n).IsRead) : n.IsWritten := by
  obtain ⟨fuel, s, h⟩ := h
  have head := head_readDoc fuel s
  rw [h] at head
  cases head with
  | number read => exact readNumeral_isWritten read

mutual
/-- The members of an object are read one by one. -/
theorem isRead_readMembers : ∀ (fuel : Nat) (first : Bool) (s : Received), ∀ p ∈ (readMembers fuel first s).1,
    p.2.skip = none → p.2.IsRead
  | 0, _, _ => by
    intro p hp
    cases hp
  | fuel + 1, first, s => by
    unfold readMembers
    split
    · intro p hp; cases hp
    · intro p hp; cases hp
    · by_cases ahead : first = true
      · rw [if_pos ahead]
        intro p hp; cases hp
      · rw [if_neg ahead]
        split
        · intro p hp; cases hp
        · exact isRead_readMember fuel _
        · intro p hp; cases hp
        · intro p hp; cases hp
    · by_cases ahead : first = true
      · rw [if_pos ahead]
        exact isRead_readMember fuel _
      · rw [if_neg ahead]
        intro p hp; cases hp
    · intro p hp; cases hp

theorem isRead_readMember : ∀ (fuel : Nat) (s : Received), ∀ p ∈ (readMember fuel s).1,
    p.2.skip = none → p.2.IsRead
  | 0, _ => by
    intro p hp
    cases hp
  | fuel + 1, s => by
    unfold readMember
    split
    · intro p hp; cases hp
    · split
      · intro p hp complete
        rw [List.mem_singleton.mp hp] at complete
        cases complete
      · rename_i rest _
        have tail := fun rest => isRead_readMembers fuel false rest
        have head : (readDoc fuel rest).1.IsRead := ⟨fuel, rest, rfl⟩
        generalize readDoc fuel rest = r at head
        obtain ⟨d, rest'⟩ := r
        simp only at head ⊢
        by_cases broken : d.isBroken = true
        · rw [if_pos broken]
          intro p hp _
          rw [List.mem_singleton.mp hp]
          exact head
        · rw [if_neg broken]
          intro p hp
          rcases List.mem_cons.mp hp with rfl | hp
          · intro _
            exact head
          · exact tail rest' p hp
      · intro p hp complete
        rw [List.mem_singleton.mp hp] at complete
        cases complete
end


/-- An object's first member, if a string, is shorter than the text. -/
theorem readMembers_string {fuel : Nat} {s : Received} {name u : String} {others : List (Except Break String × Doc)}
    (h : (readMembers fuel true s).1 = (.ok name, .string u) :: others) : u.length < s.length := by
  have inside {fuel : Nat} {s : Received} (h : (readMember fuel s).1 = (.ok name, .string u) :: others) :
      u.length < s.length := by
    cases fuel with
    | zero => cases h
    | succ fuel =>
      unfold readMember at h
      split at h
      · cases h
      · rename_i key rest token
        split at h
        · cases h
        · rename_i rest' ahead
          have value : key = .ok name ∧ (readDoc fuel rest').1 = .string u := by
            revert h
            generalize readDoc fuel rest' = r
            obtain ⟨d, t⟩ := r
            simp only
            split
            · intro h; cases h; exact ⟨rfl, rfl⟩
            · intro h; cases h; exact ⟨rfl, rfl⟩
          obtain ⟨rfl, read⟩ := value
          have first := length_readStringToken token
          have blanks := length_skipSpace rest
          have second := readDoc_string read
          rw [ahead, List.length_cons] at blanks
          omega
        · cases h
  cases fuel with
  | zero => cases h
  | succ fuel =>
    unfold readMembers at h
    split at h
    · cases h
    · cases h
    · cases h
    · rename_i t ahead
      have blanks := length_skipSpace s
      have member := inside h
      rw [ahead, List.length_cons] at blanks
      omega
    · cases h

theorem readDoc_envelope {fuel : Nat} {s : Received} {name u : String} {others : List (Except Break String × Doc)}
    {e : Ending} (h : (readDoc fuel s).1 = .object ((.ok name, .string u) :: others) e) : u.length < s.length := by
  obtain ⟨k, t, ahead, members⟩ := readDoc_object h
  have inner := readMembers_string members
  have blanks := length_skipSpace s
  rw [ahead, List.length_cons] at blanks
  omega

end AgentLedger.Json
