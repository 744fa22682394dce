import AgentLedger.Proofs.Amounts.Text
import AgentLedger.Proofs.Json.Members
import AgentLedger.Proofs.Wire
/-!
# Amounts in JSON

An amount stands in a document as a string that spells it or as a number of
nothing but its digits. A sign, a fraction or an exponent makes a number
another one, whatever it is worth. An envelope stands for what it holds. What
is written is the string, in canonical decimal.
-/

namespace AgentLedger.Json

/-! ## What an amount is read from -/

def Numeral.Counts (n : Numeral) (k : Nat) : Prop :=
  n.negative = false ∧ n.fraction = [] ∧ n.exponent = none ∧ Text.digitsValue n.whole = k

/-- A sign, a point and an exponent's letter are neither blanks nor digits. -/
theorem Numeral.exists_stray {n : Numeral} (more : n.negative = true ∨ n.fraction ≠ [] ∨ n.exponent ≠ none) :
    ∃ c ∈ n.text.toList, Text.isBlank c = false ∧ c.isDigit = false := by
  rcases more with minus | point | scaled
  · exact ⟨'-', by simp [text, chars, minus], rfl, rfl⟩
  · exact ⟨'.', by simp [text, chars, point], rfl, rfl⟩
  · obtain ⟨e, scaled⟩ := Option.ne_none_iff_exists'.mp scaled
    exact ⟨'e', by simp [text, chars, scaled], rfl, rfl⟩

theorem spells_numeral {n : Numeral} (written : n.IsWritten) {k : Nat} : Text.Spells n.text k ↔ n.Counts k := by
  have plain (unsigned : n.negative = false) (unbroken : n.fraction = []) (unscaled : n.exponent = none) :
      Text.Spells n.text k ↔ Text.digitsValue n.whole = k := by
    have chars : n.text.toList = n.whole := by
      simp [Numeral.text, Numeral.chars, unsigned, unbroken, unscaled]
    have same := Text.trimmed_eq_self fun c hc => Text.not_isBlank_of_isDigit (written.2 c hc)
    rw [Text.spells_iff, chars, same, and_iff_right written.1, and_iff_right written.2]
  constructor
  · intro spells
    have bare : ¬(n.negative = true ∨ n.fraction ≠ [] ∨ n.exponent ≠ none) := by
      intro more
      obtain ⟨c, hc, blank, digit⟩ := Numeral.exists_stray more
      rw [(Text.spells_iff.mp spells).2.1 c (Text.mem_trimmed hc blank)] at digit
      cases digit
    simp only [not_or, Bool.not_eq_true, not_not] at bare
    obtain ⟨unsigned, unbroken, unscaled⟩ := bare
    exact ⟨unsigned, unbroken, unscaled, (plain unsigned unbroken unscaled).mp spells⟩
  · rintro ⟨unsigned, unbroken, unscaled, value⟩
    exact (plain unsigned unbroken unscaled).mpr value

/-- A string that is read as the amount, a number of nothing but digits that
are worth it, or an envelope of either of them. -/
inductive Doc.Denotes (a : Amount) : Doc → Prop
  | string {s : String} : Amount.parse s = .ok a → Denotes a (.string s)
  | number {n : Numeral} : n.Counts a.units → Denotes a (.number n)
  | numberText {name s : String} {n : Numeral} : Envelope.ofName? name = some .number →
      readNumeral (Text.whole s) = .ok (n, []) → n.Counts a.units → Denotes a (.object [(.ok name, .string s)] .closed)
  | documentText {name s : String} : Envelope.ofName? name = some .document →
      Denotes a (parse (Text.whole s)).1 → (parse (Text.whole s)).2.all isSpace = true →
      Denotes a (.object [(.ok name, .string s)] .closed)

def Value.Spells (a : Amount) : Value → Prop
  | .string s => Text.Spells s a.units
  | .number ds => Text.Spells (String.ofList ds) a.units
  | _ => False

section
variable {a : Amount}

theorem readAmount_eq_ok {room : Nat} {d : Doc} :
    readAmount room d = .ok a ↔ ∃ v, d.toValue room = .ok v ∧ v.Spells a := by
  unfold readAmount
  cases d.toValue room with
  | error f => simp
  | ok v =>
    simp only [Except.ok.injEq, exists_eq_left']
    cases v with
    | string s =>
      rw [Value.Spells, ← Amount.read_eq_ok]
      cases h : Amount.read s <;> simp [h]
    | number ds =>
      rw [Value.Spells, ← Amount.read_eq_ok]
      cases h : Amount.read (String.ofList ds) <;> simp [h]
    | _ => simp [Value.Spells]

/-! ## Envelopes -/

theorem close_eq_ok {others : List (Except Break String × Doc)} {e : Ending} {u : Unit} :
    Envelope.close others e = .ok u ↔ others = [] ∧ e = .closed := by
  unfold Envelope.close
  split
  · simp
  · split <;> simp
  · rename_i other _
    refine iff_of_false (by simp) ?_
    rintro ⟨rfl, rfl⟩
    exact other rfl rfl

theorem numberOf_spells {s : String} :
    (∃ v, Envelope.numberOf s = .ok v ∧ v.Spells a) ↔
      ∃ n, readNumeral (Text.whole s) = .ok (n, []) ∧ n.Counts a.units := by
  unfold Envelope.numberOf Text.whole
  cases read : readNumeral (s.toList.map some) with
  | error d => simp
  | ok p =>
    obtain ⟨n, rest⟩ := p
    cases rest with
    | nil => simp [Value.Spells, ← spells_numeral (readNumeral_isWritten read), Numeral.text]
    | cons c rest => simp

def Envelope.spelled (document : String → Except Fault Value) : Envelope → String → Except Fault Value
  | .number => numberOf
  | .document => document

theorem contents_eq_ok {document : String → Except Fault Value} {kind : Envelope} {d : Doc} {v : Value} :
    kind.contents document d = .ok v ↔ ∃ s, d = .string s ∧ kind.spelled document s = .ok v := by
  have contents : ∃ expected, kind.contents document d = (readText expected d).bind (kind.spelled document) := by
    cases kind with
    | number =>
      refine ⟨.numberText, ?_⟩
      unfold Envelope.contents
      cases readText .numberText d <;> rfl
    | document =>
      refine ⟨.documentText, ?_⟩
      unfold Envelope.contents
      cases readText .documentText d <;> rfl
  obtain ⟨expected, contents⟩ := contents
  rw [contents]
  cases text : readText expected d with
  | ok s => simp [readText_eq_ok.mp text, Except.bind]
  | error f =>
    refine iff_of_false (by simp [Except.bind]) ?_
    rintro ⟨s, rfl, -⟩
    cases text

/-- An envelope is shown as what its only member spells. -/
theorem shown_envelope {document : String → Except Fault Value} {room : Nat} (nested : 0 < room) {name : String}
    {kind : Envelope} (named : Envelope.ofName? name = some kind) {d : Doc} {others : List (Except Break String × Doc)}
    {e : Ending} {v : Value} :
    (Doc.object ((.ok name, d) :: others) e).shown document room = .ok v ↔
      others = [] ∧ e = .closed ∧ ∃ s, d = .string s ∧ kind.spelled document s = .ok v := by
  rw [← contents_eq_ok, ← and_assoc, and_comm]
  unfold Doc.shown
  simp only [Nat.ne_of_gt nested, if_false, named]
  cases kind.contents document d with
  | error f => simp
  | ok w => simp [map_eq_ok, close_eq_ok, and_comm]

theorem not_spells_map {α : Type} {x : Except Fault α} {f : α → Value} (other : ∀ b, ¬(f b).Spells a) :
    ¬∃ v, x.map f = .ok v ∧ v.Spells a := by
  rintro ⟨v, h, spells⟩
  obtain ⟨b, -, rfl⟩ := map_eq_ok.mp h
  exact other b spells

section
variable {document : String → Except Fault Value} {room : Nat}

/-- Opened by `document` the string gives the amount exactly if the document that it spells stands for that. -/
def Unwraps (document : String → Except Fault Value) (a : Amount) (s : String) : Prop :=
  (∃ v, document s = .ok v ∧ v.Spells a) ↔
    (parse (Text.whole s)).1.Denotes a ∧ (parse (Text.whole s)).2.all isSpace = true

theorem envelope_spells (nested : 0 < room) {name : String} {kind : Envelope}
    (named : Envelope.ofName? name = some kind) {d : Doc} {others : List (Except Break String × Doc)} {e : Ending}
    (inner : ∀ s, d = .string s → Unwraps document a s) :
    (∃ v, (Doc.object ((.ok name, d) :: others) e).shown document room = .ok v ∧ v.Spells a) ↔
      (Doc.object ((.ok name, d) :: others) e).Denotes a := by
  simp only [shown_envelope nested named]
  constructor
  · rintro ⟨v, ⟨rfl, rfl, s, rfl, h⟩, spells⟩
    cases kind with
    | number =>
      obtain ⟨n, numeral, counts⟩ := numberOf_spells.mp ⟨v, h, spells⟩
      exact .numberText named numeral counts
    | document =>
      obtain ⟨denotes, behind⟩ := (inner s rfl).mp ⟨v, h, spells⟩
      exact .documentText named denotes behind
  · intro h
    cases h with
    | numberText named' numeral counts =>
      obtain rfl : kind = .number := Option.some.inj (named.symm.trans named')
      obtain ⟨v, h, spells⟩ := numberOf_spells.mpr ⟨_, numeral, counts⟩
      exact ⟨v, ⟨rfl, rfl, _, rfl, h⟩, spells⟩
    | documentText named' denotes behind =>
      obtain rfl : kind = .document := Option.some.inj (named.symm.trans named')
      obtain ⟨v, h, spells⟩ := (inner _ rfl).mpr ⟨denotes, behind⟩
      exact ⟨v, ⟨rfl, rfl, _, rfl, h⟩, spells⟩

/-- An object that is no envelope is no amount, whatever is in it. -/
theorem plain_spells (nested : 0 < room) {ms : List (Except Break String × Doc)} {e : Ending}
    (plain : ∀ name d others, ms = (.ok name, d) :: others → Envelope.ofName? name = none) :
    (∃ v, (Doc.object ms e).shown document room = .ok v ∧ v.Spells a) ↔ (Doc.object ms e).Denotes a := by
  refine iff_of_false ?_ ?_
  · unfold Doc.shown
    rw [if_neg (Nat.ne_of_gt nested)]
    split
    · rename_i name d others
      rw [plain name d others rfl]
      exact not_spells_map fun _ => id
    · exact not_spells_map fun _ => id
  · intro h
    cases h with
    | numberText named => rw [plain _ _ _ rfl] at named; cases named
    | documentText named => rw [plain _ _ _ rfl] at named; cases named

theorem shown_spells (nested : 0 < room) {d : Doc} (read : d.IsRead)
    (inner : ∀ name s others e, d = .object ((.ok name, .string s) :: others) e → Unwraps document a s) :
    (∃ v, d.shown document room = .ok v ∧ v.Spells a) ↔ d.Denotes a := by
  cases d with
  | string s =>
    constructor
    · rintro ⟨v, h, spells⟩
      cases h
      exact .string (Amount.parse_eq_ok.mpr spells)
    · intro h
      cases h with
      | string h => exact ⟨_, rfl, Amount.parse_eq_ok.mp h⟩
  | number n =>
    constructor
    · rintro ⟨v, h, spells⟩
      cases h
      exact .number ((spells_numeral read.isWritten).mp spells)
    · intro h
      cases h with
      | number h => exact ⟨_, rfl, (spells_numeral read.isWritten).mpr h⟩
  | array items e =>
    refine iff_of_false ?_ (by intro h; cases h)
    unfold Doc.shown
    rw [if_neg (Nat.ne_of_gt nested)]
    exact not_spells_map fun _ => id
  | object ms e =>
    by_cases envelope : ∃ name d others kind, ms = (.ok name, d) :: others ∧ Envelope.ofName? name = some kind
    · obtain ⟨name, d, others, kind, rfl, named⟩ := envelope
      exact envelope_spells nested named fun s text => inner name s others e (text ▸ rfl)
    · refine plain_spells nested ?_
      intro name d others members
      by_contra named
      obtain ⟨kind, named⟩ := Option.ne_none_iff_exists'.mp named
      exact envelope ⟨name, d, others, kind, members, named⟩
  | null | bool =>
    refine iff_of_false ?_ (by intro h; cases h)
    rintro ⟨v, h, spells⟩
    cases h
    exact spells
  | unreadable | damaged =>
    refine iff_of_false ?_ (by intro h; cases h)
    rintro ⟨v, h, -⟩
    cases h

end

theorem documentOf_eq_ok {depth : Nat} {s : String} {v : Value} :
    Envelope.documentOf (depth + 1) s = .ok v ↔
      (parse (Text.whole s)).1.shown (Envelope.documentOf depth) 127 = .ok v ∧
        (parse (Text.whole s)).2.all isSpace = true := by
  unfold Text.whole
  rw [Envelope.documentOf]
  generalize parse (s.toList.map some) = r
  obtain ⟨d, rest⟩ := r
  simp only
  cases d.shown (Envelope.documentOf depth) 127 with
  | error f => cases f <;> simp
  | ok w => by_cases behind : rest.all isSpace = true <;> simp [behind]

/-- Envelopes in envelopes are all opened. -/
theorem unwraps_documentOf {depth : Nat} {s : String} (enough : s.length < depth) :
    Unwraps (Envelope.documentOf depth) a s := by
  -- The string in an envelope is shorter than the one that spells the envelope.
  induction depth generalizing s with
  | zero => cases enough
  | succ depth ih =>
    have inner : (∃ v, (parse (Text.whole s)).1.shown (Envelope.documentOf depth) 127 = .ok v ∧ v.Spells a) ↔
        (parse (Text.whole s)).1.Denotes a := by
      refine shown_spells (by decide) ⟨_, _, rfl⟩ ?_
      intro name t others e envelope
      have shorter : t.length < (Text.whole s).length := readDoc_envelope envelope
      rw [Text.whole, List.length_map, String.length_toList] at shorter
      exact ih (by omega)
    rw [Unwraps, ← inner]
    simp only [documentOf_eq_ok]
    constructor
    · rintro ⟨v, ⟨h, behind⟩, spells⟩
      exact ⟨⟨v, h, spells⟩, behind⟩
    · rintro ⟨⟨v, h, spells⟩, behind⟩
      exact ⟨v, ⟨h, behind⟩, spells⟩

/-- Exactly the documents that stand for an amount are read as one. -/
theorem readAmount_iff {room : Nat} (nested : 0 < room) {d : Doc} (read : d.IsRead) :
    readAmount room d = .ok a ↔ d.Denotes a := by
  rw [readAmount_eq_ok, Doc.toValue]
  exact shown_spells nested read fun _ _ _ _ _ => unwraps_documentOf (Nat.lt_succ_self _)

end

/-! ## Both forms of an amount -/

theorem Value.escape_of_isDigit {c : Char} (h : c.isDigit = true) : escape c = [c] := by
  have other (d : Char) (hd : d.isDigit = false) : c ≠ d := by
    rintro rfl
    rw [h] at hd
    cases hd
  have printable : ¬c.toNat < 0x20 := by
    have := (Text.toNat_of_isDigit h).1
    omega
  simp only [escape, other '"' rfl, other '\\' rfl, other '\x08' rfl, other '\x0C' rfl, other '\n' rfl,
    other '\r' rfl, other '\t' rfl, printable, if_false]

theorem Value.quote_amount (a : Amount) : quote a.text = '"' :: a.text.toList ++ ['"'] := by
  have plain : a.text.toList.flatMap escape = a.text.toList := by
    rw [List.flatMap_def, List.map_congr_left fun c hc => escape_of_isDigit (a.isCanonical_text.digits c hc),
      ← List.flatMap_def, List.flatMap_singleton']
  rw [quote, plain]

theorem text_string_amount (a : Amount) :
    (Report.Holder.json ⟨a⟩).text = "\x7b\"amount\":\"" ++ a.text ++ "\"\x7d" := by
  rw [← String.toList_inj]
  simp [Report.Holder.json, Value.text, Value.chars, Value.memberChars, Value.quote_amount]
  simp [Value.quote, Value.escape]

theorem text_number_amount (a : Amount) :
    (Value.object [("amount", .ofNat a.units)]).text = "\x7b\"amount\":" ++ a.text ++ "\x7d" := by
  rw [← String.toList_inj]
  simp [Value.ofNat, Value.text, Value.chars, Value.memberChars, Value.quote, Value.escape, Amount.text, Text.decimal]

/-- A bare number is read as the amount whose text it is. -/
theorem readAmount_ofNat (room : Nat) (a : Amount) : readAmount room (Value.ofNat a.units).doc = .ok a := by
  have whole : String.ofList (Numeral.ofNat (Text.decimalDigits a.units)).chars = a.text := by
    simp [Numeral.ofNat, Numeral.chars, Amount.text, Text.decimal]
  have spells : Text.Spells (String.ofList (Numeral.ofNat (Text.decimalDigits a.units)).chars) a.units := by
    rw [whole]
    exact Amount.read_eq_ok.mp a.read_text
  exact readAmount_eq_ok.mpr ⟨_, rfl, spells⟩

theorem isRead_doc {v : Value} (natural : v.IsNatural) : v.doc.IsRead :=
  ⟨_, _, congrArg Prod.fst (parse_chars natural)⟩

/-- The record with nothing but an amount is read from what the amount is read from. -/
theorem readAll_holder {room : Nat} {v : Value} {a : Amount} (natural : v.IsNatural)
    (h : readAmount room v.doc = .ok a) :
    readAll (Report.Holder.read room) (Text.whole (Value.object [("amount", v)]).text) = .ok ⟨a⟩ := by
  have fits := (fits_required "amount" h).map Report.Holder.mk
  refine readAll_text ⟨natural, trivial⟩ ?_
  exact read_object "Holder" fits (by simp)

/-- In a text that is an object it is the member of this name that counts. -/
theorem readAll_holder_iff {room : Nat} (nested : 0 < room) {s : Text.Received} {ds : List (String × Doc)}
    (object : IsObject s ds) (distinct : (ds.map Prod.fst).Nodup) {d : Doc} (member : ("amount", d) ∈ ds) {a : Amount} :
    readAll (Report.Holder.read room) s = .ok ⟨a⟩ ↔ d.Denotes a := by
  have thorough : (Report.Holder.members room).IsThorough := (isThorough_required "amount" (readAmount room)).map _
  have found : ds.lookup "amount" = some d := lookup_of_mem distinct member
  rw [← readAmount_iff nested (object.isRead _ member)]
  refine (object.readAll_eq_ok thorough "Holder" distinct).trans ?_
  unfold Report.Holder.members
  rw [Members.build_map]
  simp [Members.build_required, found]

/-- Amounts come and go as decimal integers without loss: exactly the
documents that stand for one are read, a string and a bare number as the same,
and the string in canonical decimal is written. -/
theorem readAmount_exact {room : Nat} (nested : 0 < room) :
    (∀ d : Doc, d.IsRead → ∀ a, readAmount room d = .ok a ↔ d.Denotes a) ∧
      (∀ (s : Text.Received) (ds : List (String × Doc)), IsObject s ds → (ds.map Prod.fst).Nodup →
        ∀ d, ("amount", d) ∈ ds → ∀ a, readAll (Report.Holder.read room) s = .ok ⟨a⟩ ↔ d.Denotes a) ∧
      ∀ a : Amount, Text.IsCanonical a.text.toList a.units ∧
        (Report.Holder.json ⟨a⟩).text = "\x7b\"amount\":\"" ++ a.text ++ "\"\x7d" ∧
        readAll (Report.Holder.read room) (Text.whole ("\x7b\"amount\":\"" ++ a.text ++ "\"\x7d")) = .ok ⟨a⟩ ∧
        readAll (Report.Holder.read room) (Text.whole ("\x7b\"amount\":" ++ a.text ++ "\x7d")) = .ok ⟨a⟩ := by
  refine ⟨?_, ?_, ?_⟩
  · intro d read a
    exact readAmount_iff nested read
  · intro s ds object distinct d member a
    exact readAll_holder_iff nested object distinct member
  · intro a
    refine ⟨a.isCanonical_text, text_string_amount a, ?_, ?_⟩
    · rw [← text_string_amount]
      exact readAll_holder trivial (readAmount_text room a)
    · rw [← text_number_amount]
      exact readAll_holder (Value.isNatural_ofNat a.units) (readAmount_ofNat room a)

/-- A number with a sign, a fraction or an exponent is refused as it is written, minus zero too. -/
theorem readAmount_number_refused (room : Nat) {n : Numeral}
    (more : n.negative = true ∨ n.fraction ≠ [] ∨ n.exponent ≠ none) :
    readAmount room (.number n) = .error (.ofMisfit (.invalidAmount n.text .notDigits)) := by
  obtain ⟨c, hc, blank, digit⟩ := Numeral.exists_stray more
  have refused : Amount.read n.text = .error .notDigits := Amount.read_stray hc blank digit
  unfold Numeral.text at refused ⊢
  simp only [readAmount, Doc.toValue, Doc.shown, refused]

example : readAmount 126 (parse (Text.whole "-0")).1 = .error (.ofMisfit (.invalidAmount "-0" .notDigits)) := rfl

/-- An integer past 64 bits keeps its digits, on its own and in a record. -/
theorem readAmount_beyond_uint64 :
    readAmount 126 (parse (Text.whole "18446744073709551616")).1 = .ok ⟨18446744073709551616, by decide⟩ ∧
      readAll (Report.Holder.read 126) (Text.whole "\x7b\"amount\":18446744073709551616\x7d") =
        .ok ⟨⟨18446744073709551616, by decide⟩⟩ := by
  have nested : 0 < 126 := by decide
  obtain ⟨exact_, inRecord, -⟩ := readAmount_exact nested
  have denotes : (parse (Text.whole "18446744073709551616")).1.Denotes ⟨18446744073709551616, by decide⟩ :=
    .number ⟨rfl, rfl, rfl, by decide⟩
  have object := isObject_text [("amount", .ofNat 18446744073709551616)] ⟨Value.isNatural_ofNat _, trivial⟩
  have text : (Value.object [("amount", .ofNat 18446744073709551616)]).text =
      "\x7b\"amount\":18446744073709551616\x7d" := by decide +kernel
  rw [text] at object
  refine ⟨(exact_ _ ⟨_, _, rfl⟩ _).mpr denotes, ?_⟩
  refine (inRecord _ _ object (by simp) _ (List.mem_singleton.mpr rfl) _).mpr ?_
  exact .number ⟨rfl, rfl, rfl, by decide +kernel⟩

/-- An object with the name of a document's envelope, which is no string and no number, is read as five. -/
theorem readAmount_envelope :
    let enveloped : Value := .object [("$serde_json::private::RawValue", .string "5")]
    let text := "\x7b\"amount\":\x7b\"$serde_json::private::RawValue\":\"5\"\x7d\x7d"
    (Value.object [("amount", enveloped)]).text = text ∧
      readAll (Report.Holder.read 126) (Text.whole text) = .ok ⟨⟨5, by decide⟩⟩ ∧
      (∀ s, enveloped.doc ≠ .string s) ∧ ∀ n, enveloped.doc ≠ .number n := by
  intro enveloped text
  have natural : enveloped.IsNatural := ⟨trivial, trivial⟩
  have shown : (Value.object [("amount", enveloped)]).text = text := by decide +kernel
  have denotes : enveloped.doc.Denotes ⟨5, by decide⟩ :=
    .documentText (by decide) (.number ⟨rfl, rfl, rfl, by decide⟩) rfl
  have nested : 0 < 126 := by decide
  have read := (readAmount_iff nested (isRead_doc natural)).mpr denotes
  refine ⟨shown, ?_, ?_, ?_⟩
  · rw [← shown]
    exact readAll_holder natural read
  · intro s h; cases h
  · intro n h; cases h

end AgentLedger.Json
