import AgentLedger.Proofs.Json.Tokens
/-!
# Sources are read

Every source is read as its document, and what follows it is left. The fuel of
the reader is bound by the length of the source.
-/

namespace AgentLedger.Json

open Text (Received)

/-! ## What stands around a source -/

/-- A character that a value may begin with: no space, and nothing that parts or ends a list. -/
def Begins (c : Char) : Prop := isSpace (some c) = false ∧ c ≠ ',' ∧ c ≠ ']'

instance (c : Char) : Decidable (Begins c) := by unfold Begins; infer_instance

theorem begins_of_isDigit {c : Char} (h : c.isDigit = true) : Begins c := by
  refine ⟨?_, ?_, ?_⟩
  · unfold isSpace
    simp only [Bool.or_eq_false_iff, beq_eq_false_iff_ne]
    refine ⟨⟨⟨?_, ?_⟩, ?_⟩, ?_⟩ <;> rintro rfl <;> cases h
  · rintro rfl; cases h
  · rintro rfl; cases h

theorem readDoc_figure (f : Figure) (fuel : Nat) {s : Received} (h : EndsNumber s) :
    readDoc (fuel + 1) (f.chars.map some ++ s) = (.number f.numeral, s) := by
  have number : readNumber (f.chars.map some ++ s) = (.number f.numeral, s) := by
    unfold readNumber
    rw [f.readNumeral_chars h]
  obtain ⟨c, cs, head, first⟩ := f.begins_chars
  have visible : isSpace (some c) = false := by
    rcases first with rfl | digit
    · decide
    · exact (begins_of_isDigit digit).1
  rw [← number, head, List.map_cons, List.cons_append, readDoc, skipSpace_cons visible]
  split
  case h_1 h => cases h
  case h_8 h => 
    cases h
    rw [if_pos]
    rcases first with rfl | digit
    · exact .inl rfl
    · exact .inr digit
  all_goals
    rename_i h
    cases h
    rcases first with h | h <;> cases h

theorem Source.begins_chars (v : Source) : ∃ c cs, v.chars = c :: cs ∧ Begins c := by
  cases v with
  | null => exact ⟨_, _, rfl, by decide⟩
  | bool b => cases b <;> exact ⟨_, _, rfl, by decide⟩
  | number f =>
    obtain ⟨c, cs, head, first⟩ := f.begins_chars
    rw [Source.chars]
    refine ⟨c, cs, head, ?_⟩
    rcases first with rfl | digit
    · decide
    · exact begins_of_isDigit digit
  | string l => exact ⟨'"', _, rfl, by decide⟩
  | array items last => exact ⟨'[', _, rfl, by decide⟩
  | object members last => exact ⟨'\x7b', _, rfl, by decide⟩

theorem Source.doc_isBroken (v : Source) : v.doc.isBroken = false := by
  cases v with
  | string l => rw [doc]; cases l.text <;> rfl
  | _ => rfl

theorem readDoc_blank (b : Blank) (fuel : Nat) (s : Received) :
    readDoc (fuel + 1) (b.chars.map some ++ s) = readDoc (fuel + 1) s := by
  rw [readDoc, readDoc, skipSpace_blank]

theorem readItems_blank (b : Blank) (fuel : Nat) (first : Bool) (s : Received) :
    readItems (fuel + 1) first (b.chars.map some ++ s) = readItems (fuel + 1) first s := by
  rw [readItems, readItems, skipSpace_blank]

theorem readMembers_blank (b : Blank) (fuel : Nat) (first : Bool) (s : Received) :
    readMembers (fuel + 1) first (b.chars.map some ++ s) = readMembers (fuel + 1) first s := by
  rw [readMembers, readMembers, skipSpace_blank]

theorem readItems_comma (b : Blank) (fuel : Nat) (s : Received) :
    readItems (fuel + 1) false (some ',' :: (b.chars.map some ++ s)) = readItems (fuel + 1) false (some ',' :: s) := by
  rw [readItems, readItems, skipSpace_cons (by decide), skipSpace_cons (by decide)]
  simp only [Bool.false_eq_true, if_false, skipSpace_blank]

theorem readMembers_comma (b : Blank) (fuel : Nat) (s : Received) :
    readMembers (fuel + 1) false (some ',' :: (b.chars.map some ++ s)) =
      readMembers (fuel + 1) false (some ',' :: s) := by
  rw [readMembers, readMembers, skipSpace_cons (by decide), skipSpace_cons (by decide)]
  simp only [Bool.false_eq_true, if_false, skipSpace_blank]

theorem readItems_first (fuel : Nat) {c : Char} (h : Begins c) (s : Received) :
    readItems (fuel + 1) true (some c :: s) = readItem fuel (some c :: s) := by
  rw [readItems, skipSpace_cons h.1]
  split
  case h_1 t => cases t
  case h_2 t => cases t; exact absurd rfl h.2.2
  case h_3 t => cases t; exact absurd rfl h.2.1
  case h_4 => rfl

theorem readItems_next (fuel : Nat) {c : Char} (h : Begins c) (s : Received) :
    readItems (fuel + 1) false (some ',' :: some c :: s) = readItem fuel (some c :: s) := by
  rw [readItems, skipSpace_cons (by decide)]
  simp only [Bool.false_eq_true, if_false, skipSpace_cons h.1]
  split
  case h_1 t => cases t
  case h_2 t => cases t; exact absurd rfl h.2.2
  case h_3 => rfl

theorem readItem_of {fuel : Nat} {s t u : Received} {d : Doc} {ds : List Doc} {e : Ending} (hd : readDoc fuel s = (d, t))
    (whole : d.isBroken = false) (hds : readItems fuel false t = (ds, e, u)) :
    readItem (fuel + 1) s = (d :: ds, e, u) := by
  rw [readItem, hd]
  simp only [whole, hds, Bool.false_eq_true, if_false]

theorem readItems_gap (g : Gap) (fuel : Nat) (first : Bool) {c : Char} (h : Begins c) (s : Received) :
    readItems (fuel + 1) first ((g.chars first).map some ++ some c :: s) = readItem fuel (some c :: s) := by
  rw [Gap.chars, List.map_append, List.append_assoc, readItems_blank]
  cases first with
  | true =>
    rw [if_pos rfl, List.nil_append, readItems_blank]
    exact readItems_first fuel h s
  | false =>
    rw [if_neg Bool.false_ne_true, List.singleton_append, List.map_cons, List.cons_append, readItems_comma]
    exact readItems_next fuel h s

theorem readMembers_label (l : Label) (fuel : Nat) (first : Bool) (s : Received) :
    readMembers (fuel + 1) first ((l.chars first).map some ++ s) =
      readMember fuel (l.name.chars.map some ++
        some '"' :: (l.beforeColon.chars.map some ++ some ':' :: (l.afterColon.chars.map some ++ s))) := by
  simp only [Label.chars, Gap.chars, List.map_append, List.map_cons, List.append_assoc, List.cons_append]
  rw [readMembers_blank]
  cases first with
  | true =>
    rw [if_pos rfl, List.map_nil, List.nil_append, readMembers_blank]
    rfl
  | false =>
    rw [if_neg Bool.false_ne_true, List.map_cons, List.map_nil, List.cons_append, List.nil_append, readMembers_comma]
    rfl

theorem readMember_label (l : Label) {fuel : Nat} {s t u : Received} {d : Doc} {ms : List (Except Break String × Doc)}
    {e : Ending} (hd : readDoc (fuel + 1) s = (d, t)) (whole : d.isBroken = false)
    (hms : readMembers (fuel + 1) false t = (ms, e, u)) :
    readMember (fuel + 2) (l.name.chars.map some ++
      some '"' :: (l.beforeColon.chars.map some ++ some ':' :: (l.afterColon.chars.map some ++ s))) =
        ((l.name.text, d) :: ms, e, u) := by
  rw [readMember, l.name.readStringToken_chars]
  simp only [skipSpace_blank, skipSpace_cons (c := ':') (by decide), readDoc_blank, hd, whole, hms, Bool.false_eq_true,
    if_false]

theorem endsNumber_itemsChars (items : List (Gap × Source)) (last : Blank) (s : Received) :
    EndsNumber ((Source.itemsChars false items).map some ++ (last.chars.map some ++ some ']' :: s)) := by
  obtain _ | ⟨⟨g, v⟩, items⟩ := items
  · exact endsNumber_blank last (endsNumber_cons (by decide) s)
  · simp only [Source.itemsChars, Gap.chars, List.map_append, List.append_assoc]
    exact endsNumber_blank g.outer (endsNumber_cons (by decide) _)

theorem endsNumber_membersChars (members : List (Label × Source)) (last : Blank) (s : Received) :
    EndsNumber ((Source.membersChars false members).map some ++ (last.chars.map some ++ some '\x7d' :: s)) := by
  obtain _ | ⟨⟨l, v⟩, members⟩ := members
  · exact endsNumber_blank last (endsNumber_cons (by decide) s)
  · simp only [Source.membersChars, Label.chars, Gap.chars, List.map_append, List.append_assoc]
    exact endsNumber_blank l.gap.outer (endsNumber_cons (by decide) _)

/-! ## Sources are read -/

-- The recursion is the source's; three of the fuel for each character pay for `readDoc`, `readItems` and `readItem`.
mutual
theorem readDoc_source : ∀ (v : Source) (fuel : Nat) {s : Received}, EndsNumber s → 3 * v.chars.length ≤ fuel →
    readDoc fuel (v.chars.map some ++ s) = (v.doc, s)
  | .null, fuel + 1, s, _, _ => rfl
  | .bool true, fuel + 1, s, _, _ => rfl
  | .bool false, fuel + 1, s, _, _ => rfl
  | .number f, fuel, s, hs, h => by
    obtain ⟨c, cs, head, -⟩ := f.begins_chars
    rw [Source.chars, head, List.length_cons] at h
    obtain ⟨fuel, rfl⟩ := Nat.exists_eq_succ_of_ne_zero (n := fuel) (by omega)
    exact readDoc_figure f fuel hs
  | .string l, fuel + 1, s, _, _ => by
    have token := l.readStringToken_chars s
    simp only [Source.chars, List.map_cons, List.map_append, List.map_nil, List.cons_append, List.append_assoc,
      List.nil_append, readDoc, skipSpace_cons (c := '"') (by decide), token, Source.doc]
    cases l.text <;> rfl
  | .array items last, fuel + 1, s, _, h => by
    simp only [Source.chars, List.length_append, List.length_cons] at h
    have inside := readItems_source items true last fuel (s := s) (by omega)
    simp only [Source.chars, List.map_cons, List.map_append, List.map_nil, List.cons_append, List.append_assoc,
      List.nil_append, readDoc, skipSpace_cons (c := '[') (by decide), inside, Source.doc]
  | .object members last, fuel + 1, s, _, h => by
    simp only [Source.chars, List.length_append, List.length_cons] at h
    have inside := readMembers_source members true last fuel (s := s) (by omega)
    simp only [Source.chars, List.map_cons, List.map_append, List.map_nil, List.cons_append, List.append_assoc,
      List.nil_append, readDoc, skipSpace_cons (c := '\x7b') (by decide), inside, Source.doc]
theorem readItems_source : ∀ (items : List (Gap × Source)) (first : Bool) (last : Blank) (fuel : Nat) {s : Received},
    3 * (Source.itemsChars first items).length + 2 ≤ fuel →
      readItems fuel first ((Source.itemsChars first items).map some ++ (last.chars.map some ++ some ']' :: s)) =
        (Source.itemDocs items, .closed, s)
  | [], first, last, fuel + 1, s, _ => by
    rw [Source.itemsChars, List.map_nil, List.nil_append, readItems_blank]
    rfl
  | (g, v) :: items, first, last, fuel + 2, s, h => by
    obtain ⟨c, cs, hc, begins⟩ := v.begins_chars
    have some_ : 0 < v.chars.length := by rw [hc]; exact Nat.succ_pos _
    simp only [Source.itemsChars, List.length_append] at h
    have head := readDoc_source v fuel (endsNumber_itemsChars items last s) (by omega)
    have tail := readItems_source items false last fuel (s := s) (by omega)
    have item := readItem_of head v.doc_isBroken tail
    simp only [Source.itemsChars, List.map_append, List.append_assoc, Source.itemDocs]
    rw [hc, List.map_cons, List.cons_append] at item ⊢
    rw [readItems_gap g _ first begins, item]
theorem readMembers_source : ∀ (members : List (Label × Source)) (first : Bool) (last : Blank) (fuel : Nat)
    {s : Received}, 3 * (Source.membersChars first members).length + 2 ≤ fuel →
      readMembers fuel first
        ((Source.membersChars first members).map some ++ (last.chars.map some ++ some '\x7d' :: s)) =
          (Source.memberDocs members, .closed, s)
  | [], first, last, fuel + 1, s, _ => by
    rw [Source.membersChars, List.map_nil, List.nil_append, readMembers_blank]
    rfl
  | (l, v) :: members, first, last, fuel + 2, s, h => by
    obtain ⟨c, cs, hc, -⟩ := v.begins_chars
    have some_ : 0 < v.chars.length := by rw [hc]; exact Nat.succ_pos _
    simp only [Source.membersChars, List.length_append] at h
    obtain ⟨fuel, rfl⟩ := Nat.exists_eq_succ_of_ne_zero (n := fuel) (by omega)
    have head := readDoc_source v (fuel + 1) (endsNumber_membersChars members last s) (by omega)
    have tail := readMembers_source members false last (fuel + 1) (s := s) (by omega)
    have member := readMember_label l head v.doc_isBroken tail
    simp only [Source.membersChars, List.map_append, List.append_assoc, Source.memberDocs]
    rw [readMembers_label, member]
end

end AgentLedger.Json
