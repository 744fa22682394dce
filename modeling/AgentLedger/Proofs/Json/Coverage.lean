import Mathlib.Data.List.TakeWhile
import AgentLedger.Proofs.Json.Sources
import AgentLedger.Proofs.Json.Written
/-!
# Texts that are read have a source

Whatever is read to its end was written in the grammar: a text with no gap in
it that begins with a complete document begins with a source of that document,
space in front of it apart.
-/

namespace AgentLedger.Json

open Text (Received)

/-! ## Tokens -/

theorem exists_blank (s : Received) : ∃ b : Blank, s = b.chars.map some ++ skipSpace s := by
  induction s with
  | nil => exact ⟨⟨[], by simp⟩, rfl⟩
  | cons c s ih =>
    obtain ⟨⟨cs, spaces⟩, same⟩ := ih
    cases space : isSpace c with
    | false => exact ⟨⟨[], by simp⟩, by simp [skipSpace, space]⟩
    | true =>
      cases c with
      | none => cases space
      | some c =>
        refine ⟨⟨c :: cs, List.forall_mem_cons.mpr ⟨space, spaces⟩⟩, ?_⟩
        rw [skipSpace, List.dropWhile_cons_of_pos space, List.map_cons, List.cons_append]
        exact congrArg _ same

/-- The space at the head of a text without a gap, and what is behind it. -/
theorem exists_blank_of_clean {s : Received} (clean : none ∉ s) :
    ∃ (b : Blank) (t : Received), skipSpace s = t ∧ none ∉ t ∧ s = b.chars.map some ++ t := by
  obtain ⟨b, same⟩ := exists_blank s
  exact ⟨b, skipSpace s, rfl, fun h => clean ((List.dropWhile_suffix _).subset h), same⟩

theorem unit_of_readUnit16 {s rest : Received} {n : Nat} (read : readUnit16 s = .ok (n, rest)) :
    ∃ a b c d, Text.hexNumber? [a, b, c, d] = some n ∧ s = some a :: some b :: some c :: some d :: rest := by
  unfold readUnit16 at read
  split at read
  · cases read
  · split at read
    · split at read
      · rename_i known
        cases read
        exact ⟨_, _, _, _, known, rfl⟩
      · cases read
    · cases read

theorem literal_of_readCodePoint {s rest : Received} {c : Char} (read : readCodePoint s = .ok (c, rest)) :
    ∃ gs : Literal, some '\\' :: some 'u' :: s = gs.chars.map some ++ rest := by
  unfold readCodePoint at read
  split at read
  · cases read
  · rename_i first
    obtain ⟨a, b, c, d, known, rfl⟩ := unit_of_readUnit16 first
    split at read
    · cases read
    · split at read
      · cases read
        exact ⟨[.unit a b c d _ known], rfl⟩
      · split at read
        · cases read
        · cases read
        · split at read
          · cases read
          · rename_i second
            obtain ⟨a', b', c', d', known', rfl⟩ := unit_of_readUnit16 second
            split at read
            · obtain ⟨-, rfl⟩ := Prod.mk.inj (Except.ok.inj read)
              exact ⟨[.unit a b c d _ known, .unit a' b' c' d' _ known'], rfl⟩
            · cases read
        · cases read

theorem literal_append (front : Literal) {s t rest : Received} (head : s = front.chars.map some ++ t)
    (tail : ∃ gs : Literal, t = gs.chars.map some ++ some '"' :: rest) :
    ∃ gs : Literal, s = gs.chars.map some ++ some '"' :: rest := by
  obtain ⟨gs, rfl⟩ := tail
  refine ⟨front ++ gs, ?_⟩
  rw [head, Literal.chars, Literal.chars, Literal.chars, List.flatMap_append, List.map_append, List.append_assoc]

theorem literal_of_readString {fuel : Nat} {s rest : Received} {cs : List Char}
    (read : readString fuel s = .ok (cs, rest)) : ∃ gs : Literal, s = gs.chars.map some ++ some '"' :: rest := by
  fun_induction readString fuel s generalizing cs rest with
  | case4 fuel s =>
    cases read
    exact ⟨[], rfl⟩
  | case7 fuel s d t point _ ih =>
    obtain ⟨ds, rfl, inner⟩ := readString_cons read
    obtain ⟨front, head⟩ := literal_of_readCodePoint point
    exact literal_append front head (ih inner)
  | case9 fuel e s _ d known _ ih =>
    obtain ⟨ds, rfl, inner⟩ := readString_cons read
    exact literal_append [.short e d known] rfl (ih inner)
  | case12 fuel c s quote backslash control ih =>
    obtain ⟨ds, rfl, inner⟩ := readString_cons read
    exact literal_append [.plain c ⟨quote, backslash, by omega⟩] rfl (ih inner)
  | _ => cases read

theorem literal_of_skipString {fuel : Nat} {s rest : Received} (clean : none ∉ s)
    (read : skipString fuel s = .ok rest) : ∃ gs : Literal, s = gs.chars.map some ++ some '"' :: rest := by
  fun_induction skipString fuel s generalizing rest with
  | case3 fuel s => exact absurd List.mem_cons_self clean
  | case4 fuel s =>
    cases read
    exact ⟨[], rfl⟩
  | case7 fuel s n t unit _ ih =>
    obtain ⟨a, b, c, d, known, rfl⟩ := unit_of_readUnit16 unit
    simp only [List.mem_cons, not_or] at clean
    exact literal_append [.unit a b c d n known] rfl (ih clean.2.2.2.2.2.2 read)
  | case8 fuel e s _ known _ ih =>
    obtain ⟨d, known⟩ := Option.isSome_iff_exists.mp known
    simp only [List.mem_cons, not_or] at clean
    exact literal_append [.short e d known] rfl (ih clean.2.2 read)
  | case12 fuel c s quote backslash control ih =>
    rw [List.mem_cons, not_or] at clean
    exact literal_append [.plain c ⟨quote, backslash, by omega⟩] rfl (ih clean.2 read)
  | _ => cases read

theorem literal_of_readStringToken {s rest : Received} {t : Except Break String} (clean : none ∉ s)
    (read : readStringToken s = .ok (t, rest)) :
    ∃ l : Literal, s = l.chars.map some ++ some '"' :: rest ∧ t = l.text := by
  have some_ : ∃ (l : Literal) (rest : Received), s = l.chars.map some ++ some '"' :: rest := by
    unfold readStringToken at read
    split at read
    · rename_i inner
      obtain ⟨l, same⟩ := literal_of_readString inner
      exact ⟨l, _, same⟩
    · split at read
      · rename_i inner
        obtain ⟨l, same⟩ := literal_of_skipString clean inner
        exact ⟨l, _, same⟩
      · cases read
  -- What a literal is read as is known, so the reading at hand is that one.
  obtain ⟨l, rest', rfl⟩ := some_
  rw [l.readStringToken_chars] at read
  obtain ⟨rfl, rfl⟩ := Prod.mk.inj (Except.ok.inj read)
  exact ⟨l, rfl, rfl⟩

/-! ## Numbers -/

theorem takeDigits_eq (s : Received) : s = (takeDigits s).1.map some ++ (takeDigits s).2 := by
  fun_induction takeDigits s with
  | case1 c s digit ds rest h ih =>
    rw [h] at ih
    exact congrArg (some c :: ·) ih
  | case2 => rfl
  | case3 => rfl

/-- Some digits ahead were taken. -/
theorem digits_of_takeDigits {s rest : Received} {ds : List Char} (taken : takeDigits s = (ds, rest)) (some_ : ds ≠ []) :
    ∃ n : Digits, n.chars = ds ∧ s = n.chars.map some ++ rest := by
  have same := takeDigits_eq s
  have digits := isDigit_takeDigits s
  rw [taken] at same digits
  exact ⟨⟨ds, some_, digits⟩, rfl, same⟩

theorem digits_of_readFraction {s rest : Received} {ds : List Char} (read : readFraction s = .ok (ds, rest)) :
    ∃ o : Option Digits, (o.map (·.chars)).getD [] = ds ∧ s = (Figure.fractionChars o).map some ++ rest := by
  unfold readFraction at read
  split at read
  · split at read
    · cases read
    · rename_i some_
      have taken := Except.ok.inj read
      obtain ⟨n, rfl, same⟩ := digits_of_takeDigits taken (by rintro rfl; exact some_ _ taken)
      exact ⟨some n, rfl, congrArg (some '.' :: ·) same⟩
  · cases read
    exact ⟨none, rfl, rfl⟩

theorem digits_of_readExponent {s rest : Received} {o : Option (Bool × List Char)}
    (read : readExponent s = .ok (o, rest)) :
    ∃ x : Option (Mark × Digits), x.map (fun (m, ds) => (m.sign.getD false, ds.chars)) = o ∧
      s = (Figure.exponentChars x).map some ++ rest := by
  unfold readExponent at read
  split at read
  · split at read
    · rename_i c s mark
      split at read
      rename_i sign t told
      split at read
      · cases read
      · rename_i ds rest some_ taken
        cases read
        obtain ⟨n, rfl, rfl⟩ := digits_of_takeDigits taken (by rintro rfl; exact some_ rfl)
        split at told
        · cases told
          obtain rfl | rfl := mark
          · exact ⟨some (⟨false, some true⟩, n), rfl, rfl⟩
          · exact ⟨some (⟨true, some true⟩, n), rfl, rfl⟩
        · cases told
          obtain rfl | rfl := mark
          · exact ⟨some (⟨false, some false⟩, n), rfl, rfl⟩
          · exact ⟨some (⟨true, some false⟩, n), rfl, rfl⟩
        · cases told
          obtain rfl | rfl := mark
          · exact ⟨some (⟨false, none⟩, n), rfl, rfl⟩
          · exact ⟨some (⟨true, none⟩, n), rfl, rfl⟩
    · cases read
      exact ⟨none, rfl, rfl⟩
  · cases read
    exact ⟨none, rfl, rfl⟩

theorem digits_of_readWhole {s rest : Received} {ds : List Char} (read : readWhole s = .ok (ds, rest)) :
    ∃ n : Digits, n.chars = ds ∧ (∀ c cs, n.chars ≠ '0' :: c :: cs) ∧ s = n.chars.map some ++ rest := by
  unfold readWhole at read
  split at read
  · cases read
  · cases read
  · rename_i some_ zero
    have taken := Except.ok.inj read
    obtain ⟨n, rfl, same⟩ := digits_of_takeDigits taken (by rintro rfl; exact some_ _ taken)
    refine ⟨n, rfl, fun c cs lead => ?_, same⟩
    rw [lead] at taken
    exact zero _ _ _ taken

theorem figure_of_readNumeral {s rest : Received} {n : Numeral} (read : readNumeral s = .ok (n, rest)) :
    ∃ f : Figure, f.numeral = n ∧ s = f.chars.map some ++ rest := by
  have unsigned (negative : Bool) (t : Received) (read : readUnsignedNumeral negative t = .ok (n, rest)) :
      ∃ f : Figure, f.numeral = n ∧ (if negative then some '-' :: t else t) = f.chars.map some ++ rest := by
    unfold readUnsignedNumeral at read
    cases whole : readWhole t with
    | error d => rw [whole] at read; cases read
    | ok p =>
      obtain ⟨ds, t'⟩ := p
      simp only [whole, bind, Except.bind] at read
      split at read
      · cases read
      · rename_i v fraction
        obtain ⟨ds', t''⟩ := v
        split at read
        · cases read
        · rename_i v exponent
          obtain ⟨x, u⟩ := v
          cases read
          obtain ⟨w, rfl, noLead, rfl⟩ := digits_of_readWhole whole
          obtain ⟨o, rfl, rfl⟩ := digits_of_readFraction fraction
          obtain ⟨x, rfl, rfl⟩ := digits_of_readExponent exponent
          refine ⟨⟨negative, w, noLead, o, x⟩, rfl, ?_⟩
          cases negative <;> simp [Figure.chars]
  unfold readNumeral at read
  split at read
  · exact unsigned true _ read
  · exact unsigned false _ read

theorem figure_of_readNumber {s rest : Received} {d : Doc} (read : readNumber s = (d, rest))
    (whole : d.isBroken = false) : ∃ f : Figure, .number f.numeral = d ∧ s = f.chars.map some ++ rest := by
  unfold readNumber at read
  split at read
  · rename_i numeral
    cases read
    obtain ⟨f, rfl, same⟩ := figure_of_readNumeral numeral
    exact ⟨f, rfl, same⟩
  · cases read
    cases whole

theorem word_of_readWord {doc d : Doc} {cs : List Char} {s rest : Received} (read : readWord doc cs s = (d, rest))
    (whole : d.isBroken = false) : doc = d ∧ s = cs.map some ++ rest := by
  induction cs generalizing s with
  | nil =>
    cases read
    exact ⟨rfl, rfl⟩
  | cons c cs ih =>
    cases s with
    | nil =>
      cases read
      cases whole
    | cons e s =>
      rw [readWord] at read
      by_cases same : e = some c
      · rw [if_pos same] at read
        obtain ⟨kept, rfl⟩ := ih read
        exact ⟨kept, congrArg (· :: _) same⟩
      · rw [if_neg same] at read
        cases read
        cases whole

/-! ## Documents -/

mutual
theorem source_of_readDoc : ∀ (fuel : Nat) {s rest : Received} {d : Doc}, none ∉ s → readDoc fuel s = (d, rest) →
    d.isBroken = false → ∃ (b : Blank) (v : Source), v.doc = d ∧ s = b.chars.map some ++ (v.chars.map some ++ rest)
  | 0, _, _, _, _, read, whole => by
    cases read
    cases whole
  | fuel + 1, s, rest, d, clean, read, whole => by
    obtain ⟨b, t, ahead, behind, rfl⟩ := exists_blank_of_clean clean
    rw [readDoc, ahead] at read
    suffices key : ∃ v : Source, v.doc = d ∧ t = v.chars.map some ++ rest by
      obtain ⟨v, kept, rfl⟩ := key
      exact ⟨b, v, kept, rfl⟩
    split at read
    · cases read
      cases whole
    · rename_i t
      have inside := List.not_mem_of_not_mem_cons behind
      split at read
      · rename_i token
        cases read
        obtain ⟨l, rfl, text⟩ := literal_of_readStringToken inside token
        refine ⟨.string l, by rw [Source.doc, ← text], ?_⟩
        simp [Source.chars]
      · rename_i token
        cases read
        obtain ⟨l, rfl, text⟩ := literal_of_readStringToken inside token
        refine ⟨.string l, by rw [Source.doc, ← text], ?_⟩
        simp [Source.chars]
      · cases read
        cases whole
    · rename_i t
      have inside := List.not_mem_of_not_mem_cons behind
      cases list : readItems fuel true t with
      | mk docs r =>
        obtain ⟨ending, u⟩ := r
        rw [list] at read
        cases read
        cases ending with
        | broken => cases whole
        | closed =>
          obtain ⟨items, last, rfl, rfl⟩ := source_of_readItems fuel true inside list
          refine ⟨.array items last, rfl, ?_⟩
          simp [Source.chars]
    · rename_i t
      have inside := List.not_mem_of_not_mem_cons behind
      cases list : readMembers fuel true t with
      | mk docs r =>
        obtain ⟨ending, u⟩ := r
        rw [list] at read
        cases read
        cases ending with
        | broken => cases whole
        | closed =>
          obtain ⟨members, last, rfl, rfl⟩ := source_of_readMembers fuel true inside list
          refine ⟨.object members last, rfl, ?_⟩
          simp [Source.chars]
    · rename_i t
      obtain ⟨rfl, rfl⟩ := word_of_readWord read whole
      exact ⟨.null, rfl, rfl⟩
    · rename_i t
      obtain ⟨rfl, rfl⟩ := word_of_readWord read whole
      exact ⟨.bool true, rfl, rfl⟩
    · rename_i t
      obtain ⟨rfl, rfl⟩ := word_of_readWord read whole
      exact ⟨.bool false, rfl, rfl⟩
    · split at read
      · obtain ⟨f, rfl, same⟩ := figure_of_readNumber read whole
        exact ⟨.number f, rfl, same⟩
      · cases read
        cases whole

theorem source_of_readItems : ∀ (fuel : Nat) (first : Bool) {s rest : Received} {docs : List Doc}, none ∉ s →
    readItems fuel first s = (docs, .closed, rest) → ∃ (items : List (Gap × Source)) (last : Blank),
      Source.itemDocs items = docs ∧
        s = (Source.itemsChars first items).map some ++ (last.chars.map some ++ some ']' :: rest)
  | 0, _, _, _, _, _, read => by cases read
  | fuel + 1, first, s, rest, docs, clean, read => by
    obtain ⟨b, t, ahead, behind, rfl⟩ := exists_blank_of_clean clean
    rw [readItems, ahead] at read
    split at read
    · cases read
    · cases read
      exact ⟨[], b, rfl, rfl⟩
    · rename_i t
      cases first with
      | true => cases read
      | false =>
        obtain ⟨b', u, ahead', inside, rfl⟩ := exists_blank_of_clean (List.not_mem_of_not_mem_cons behind)
        rw [if_neg Bool.false_ne_true, ahead'] at read
        split at read
        · cases read
        · cases read
        · obtain ⟨b'', v, items, last, rfl, rfl⟩ := source_of_readItem fuel inside read
          refine ⟨(⟨b, b'.append b''⟩, v) :: items, last, rfl, ?_⟩
          simp [Source.itemsChars, Gap.chars, Blank.append]
    · cases first with
      | true =>
        obtain ⟨b', v, items, last, rfl, rfl⟩ := source_of_readItem fuel behind read
        refine ⟨(⟨b, b'⟩, v) :: items, last, rfl, ?_⟩
        simp [Source.itemsChars, Gap.chars]
      | false => cases read

theorem source_of_readItem : ∀ (fuel : Nat) {s rest : Received} {docs : List Doc}, none ∉ s →
    readItem fuel s = (docs, .closed, rest) →
      ∃ (b : Blank) (v : Source) (items : List (Gap × Source)) (last : Blank), v.doc :: Source.itemDocs items = docs ∧
        s = b.chars.map some ++ (v.chars.map some ++
          ((Source.itemsChars false items).map some ++ (last.chars.map some ++ some ']' :: rest)))
  | 0, _, _, _, _, read => by cases read
  | fuel + 1, s, rest, docs, clean, read => by
    cases head : readDoc fuel s with
    | mk d t =>
      rw [readItem, head] at read
      cases broken : d.isBroken with
      | true => simp [broken] at read
      | false =>
        obtain ⟨b, v, rfl, rfl⟩ := source_of_readDoc fuel clean head broken
        have behind : none ∉ t := fun h => clean (List.mem_append_right _ (List.mem_append_right _ h))
        cases tail : readItems fuel false t with
        | mk ds r =>
          obtain ⟨ending, u⟩ := r
          simp only [broken, tail, Bool.false_eq_true, if_false] at read
          cases read
          obtain ⟨items, last, rfl, rfl⟩ := source_of_readItems fuel false behind tail
          exact ⟨b, v, items, last, rfl, rfl⟩

theorem source_of_readMembers : ∀ (fuel : Nat) (first : Bool) {s rest : Received}
    {docs : List (Except Break String × Doc)}, none ∉ s → readMembers fuel first s = (docs, .closed, rest) →
      ∃ (members : List (Label × Source)) (last : Blank), Source.memberDocs members = docs ∧
        s = (Source.membersChars first members).map some ++ (last.chars.map some ++ some '\x7d' :: rest)
  | 0, _, _, _, _, _, read => by cases read
  | fuel + 1, first, s, rest, docs, clean, read => by
    obtain ⟨b, t, ahead, behind, rfl⟩ := exists_blank_of_clean clean
    rw [readMembers, ahead] at read
    split at read
    · cases read
    · cases read
      exact ⟨[], b, rfl, rfl⟩
    · rename_i t
      cases first with
      | true => cases read
      | false =>
        obtain ⟨b', u, ahead', inside, rfl⟩ := exists_blank_of_clean (List.not_mem_of_not_mem_cons behind)
        rw [if_neg Bool.false_ne_true, ahead'] at read
        split at read
        · cases read
        · obtain ⟨name, c, c', v, members, last, rfl, rfl⟩ :=
            source_of_readMember fuel (List.not_mem_of_not_mem_cons inside) read
          refine ⟨(⟨⟨b, b'⟩, name, c, c'⟩, v) :: members, last, rfl, ?_⟩
          simp [Source.membersChars, Label.chars, Gap.chars]
        · cases read
        · cases read
    · cases first with
      | true =>
        obtain ⟨name, c, c', v, members, last, rfl, rfl⟩ :=
          source_of_readMember fuel (List.not_mem_of_not_mem_cons behind) read
        refine ⟨(⟨⟨b, .empty⟩, name, c, c'⟩, v) :: members, last, rfl, ?_⟩
        simp [Source.membersChars, Label.chars, Gap.chars, Blank.empty]
      | false => cases read
    · cases read

theorem source_of_readMember : ∀ (fuel : Nat) {s rest : Received} {docs : List (Except Break String × Doc)}, none ∉ s →
    readMember fuel s = (docs, .closed, rest) →
      ∃ (name : Literal) (b c : Blank) (v : Source) (members : List (Label × Source)) (last : Blank),
        (name.text, v.doc) :: Source.memberDocs members = docs ∧
          s = name.chars.map some ++ some '"' :: (b.chars.map some ++ some ':' :: (c.chars.map some ++
            (v.chars.map some ++ ((Source.membersChars false members).map some ++
              (last.chars.map some ++ some '\x7d' :: rest)))))
  | 0, _, _, _, _, read => by cases read
  | fuel + 1, s, rest, docs, clean, read => by
    rw [readMember] at read
    split at read
    · cases read
    · rename_i token
      rename_i t
      obtain ⟨name, rfl, rfl⟩ := literal_of_readStringToken clean token
      obtain ⟨b, u, ahead, behind, rfl⟩ := exists_blank_of_clean
        (List.not_mem_of_not_mem_cons fun h => clean (List.mem_append_right _ h))
      rw [ahead] at read
      split at read
      · cases read
      · rename_i u
        cases head : readDoc fuel u with
        | mk d w =>
          simp only [head] at read
          cases broken : d.isBroken with
          | true => simp [broken] at read
          | false =>
            obtain ⟨c, v, rfl, rfl⟩ := source_of_readDoc fuel (List.not_mem_of_not_mem_cons behind) head broken
            have inside : none ∉ w := fun h =>
              behind (List.mem_cons_of_mem _ (List.mem_append_right _ (List.mem_append_right _ h)))
            cases tail : readMembers fuel false w with
            | mk ms r =>
              obtain ⟨ending, x⟩ := r
              simp only [broken, tail, Bool.false_eq_true, if_false] at read
              cases read
              obtain ⟨members, last, rfl, rfl⟩ := source_of_readMembers fuel false inside tail
              exact ⟨name, b, c, v, members, last, rfl, rfl⟩
      · cases read
end

/-! ## Texts -/

theorem none_not_mem_whole (t : String) : none ∉ Text.whole t := by
  intro mem
  obtain ⟨c, -, gap⟩ := List.mem_map.mp mem
  cases gap

/-- A text that is a complete document, space apart, is a source of it. -/
theorem source_of_parse {t : String} (complete : (parse (Text.whole t)).1.isBroken = false)
    (behind : (parse (Text.whole t)).2.all isSpace = true) :
    ∃ (before : Blank) (v : Source) (after : Blank), v.doc = (parse (Text.whole t)).1 ∧
      t.toList = before.chars ++ (v.chars ++ after.chars) := by
  obtain ⟨before, v, doc, same⟩ := source_of_readDoc _ (none_not_mem_whole t) rfl complete
  obtain ⟨after, ends⟩ := exists_blank (parse (Text.whole t)).2
  have nothing : skipSpace (parse (Text.whole t)).2 = [] :=
    List.dropWhile_eq_nil_iff.mpr (List.all_eq_true.mp behind)
  refine ⟨before, v, after, doc, ?_⟩
  rw [nothing, List.append_nil] at ends
  rw [show (readDoc _ _).2 = _ from ends, Text.whole, ← List.map_append, ← List.map_append] at same
  exact (List.map_inj_right fun _ _ => Option.some.inj).mp same

end AgentLedger.Json
