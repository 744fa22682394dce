import AgentLedger.Json.Value
import AgentLedger.Proofs.Json.Sources
import AgentLedger.Proofs.Text.Decimal
/-!
# JSON texts are read back

The compact text of a value is a source of the value's document, so it is read
as that. The numbers have to be natural ones in decimal.
-/

namespace AgentLedger.Json

/-! ## Strings -/

theorem hexNumber?_control {n : Nat} (h : n < 32) :
    Text.hexNumber? ['0', '0', Text.hexDigit (n / 16), Text.hexDigit (n % 16)] = some n := by
  have key : ∀ k : Fin 32,
      Text.hexNumber? ['0', '0', Text.hexDigit (k.val / 16), Text.hexDigit (k.val % 16)] = some k.val := by decide
  exact key ⟨n, h⟩

theorem glyph_of_escape (c : Char) : ∃ g : Glyph, g.chars = Value.escape c ∧
    ∀ gs, Literal.content (g :: gs) = (Literal.content gs).map (c :: ·) := by
  unfold Value.escape
  by_cases h1 : c = '"'
  · subst h1; exact ⟨.short '"' '"' rfl, rfl, fun _ => rfl⟩
  by_cases h2 : c = '\\'
  · subst h2; exact ⟨.short '\\' '\\' rfl, rfl, fun _ => rfl⟩
  by_cases h3 : c = '\x08'
  · subst h3; exact ⟨.short 'b' '\x08' rfl, rfl, fun _ => rfl⟩
  by_cases h4 : c = '\x0C'
  · subst h4; exact ⟨.short 'f' '\x0C' rfl, rfl, fun _ => rfl⟩
  by_cases h5 : c = '\n'
  · subst h5; exact ⟨.short 'n' '\n' rfl, rfl, fun _ => rfl⟩
  by_cases h6 : c = '\r'
  · subst h6; exact ⟨.short 'r' '\r' rfl, rfl, fun _ => rfl⟩
  by_cases h7 : c = '\t'
  · subst h7; exact ⟨.short 't' '\t' rfl, rfl, fun _ => rfl⟩
  simp only [h1, h2, h3, h4, h5, h6, h7, if_false]
  by_cases h8 : c.toNat < 32
  · rw [if_pos h8]
    refine ⟨.unit '0' '0' _ _ c.toNat (hexNumber?_control h8), rfl, fun gs => ?_⟩
    rw [Literal.content.eq_def]
    simp only
    rw [if_neg (by omega), if_pos (by omega), Char.ofNat_toNat]
  · rw [if_neg h8]
    exact ⟨.plain c ⟨h1, h2, by omega⟩, rfl, fun _ => rfl⟩

theorem literal_of_escaped (cs : List Char) :
    ∃ l : Literal, l.chars = cs.flatMap Value.escape ∧ l.content = .ok cs := by
  induction cs with
  | nil => exact ⟨[], rfl, rfl⟩
  | cons c cs ih =>
    obtain ⟨g, escaped, content⟩ := glyph_of_escape c
    obtain ⟨l, rest, inner⟩ := ih
    refine ⟨g :: l, ?_, ?_⟩
    · rw [Literal.chars_cons, escaped, rest, List.flatMap_cons]
    · rw [content, inner]
      rfl

/-- A text that was quoted is that text. -/
theorem literal_of_quote (s : String) : ∃ l : Literal, '"' :: (l.chars ++ ['"']) = Value.quote s ∧ l.text = .ok s := by
  obtain ⟨l, escaped, content⟩ := literal_of_escaped s.toList
  refine ⟨l, by rw [escaped]; rfl, ?_⟩
  rw [Literal.text, content]
  exact congrArg Except.ok String.ofList_toList

/-! ## Numbers -/

theorem figure_of_decimal (n : Nat) :
    ∃ f : Figure, f.chars = Text.decimalDigits n ∧ f.numeral = .ofNat (Text.decimalDigits n) :=
  ⟨⟨false, ⟨Text.decimalDigits n, Text.decimalDigits_ne_nil n, Text.decimalDigits_isDigit n⟩, Text.no_leading_zero n,
    none, none⟩, by simp [Figure.chars, Figure.fractionChars, Figure.exponentChars], rfl⟩

/-! ## Documents -/

namespace Value

mutual
def doc : Value → Doc
  | .null => .null
  | .bool b => .bool b
  | .number ds => .number (.ofNat ds)
  | .string s => .string s
  | .array vs => .array (itemDocs vs) .closed
  | .object ms => .object (memberDocs ms) .closed
def itemDocs : List Value → List Doc
  | [] => []
  | v :: vs => v.doc :: itemDocs vs
def memberDocs : List (String × Value) → List (Except Break String × Doc)
  | [] => []
  | (k, v) :: ms => (.ok k, v.doc) :: memberDocs ms
end

mutual
def IsNatural : Value → Prop
  | .number ds => ∃ n, ds = Text.decimalDigits n
  | .array vs => AreNatural vs
  | .object ms => MembersAreNatural ms
  | _ => True
def AreNatural : List Value → Prop
  | [] => True
  | v :: vs => v.IsNatural ∧ AreNatural vs
def MembersAreNatural : List (String × Value) → Prop
  | [] => True
  | (_, v) :: ms => v.IsNatural ∧ MembersAreNatural ms
end

end Value

/-! ## A whole value -/

-- The recursion is the writer's.
mutual
theorem exists_source : ∀ v : Value, v.IsNatural → ∃ src : Source, src.chars = v.chars ∧ src.doc = v.doc
  | .null, _ => ⟨.null, rfl, rfl⟩
  | .bool true, _ => ⟨.bool true, rfl, rfl⟩
  | .bool false, _ => ⟨.bool false, rfl, rfl⟩
  | .number ds, hv => by
    obtain ⟨n, rfl⟩ := hv
    obtain ⟨f, chars, numeral⟩ := figure_of_decimal n
    refine ⟨.number f, chars, ?_⟩
    rw [Source.doc, numeral, Value.doc]
  | .string s, _ => by
    obtain ⟨l, quoted, text⟩ := literal_of_quote s
    refine ⟨.string l, quoted, ?_⟩
    rw [Source.doc, text, Value.doc]
  | .array [], _ => ⟨.array [] .empty, rfl, rfl⟩
  | .array (v :: vs), hv => by
    obtain ⟨src, chars, doc⟩ := exists_source v hv.1
    obtain ⟨items, restChars, docs⟩ := exists_items vs hv.2
    refine ⟨.array ((⟨.empty, .empty⟩, src) :: items) .empty, ?_, ?_⟩
    · simp [Source.chars, Source.itemsChars, Gap.chars, Blank.empty, Value.chars, chars, restChars]
    · rw [Source.doc, Source.itemDocs, doc, docs, Value.doc, Value.itemDocs]
  | .object [], _ => ⟨.object [] .empty, rfl, rfl⟩
  | .object ((k, v) :: ms), hv => by
    obtain ⟨src, chars, doc⟩ := exists_source v hv.1
    obtain ⟨members, restChars, docs⟩ := exists_members ms hv.2
    obtain ⟨l, quoted, text⟩ := literal_of_quote k
    refine ⟨.object ((⟨⟨.empty, .empty⟩, l, .empty, .empty⟩, src) :: members) .empty, ?_, ?_⟩
    · simp [Source.chars, Source.membersChars, Label.chars, Gap.chars, Blank.empty, Value.chars, chars, restChars, ← quoted]
    · rw [Source.doc, Source.memberDocs, doc, docs, text, Value.doc, Value.memberDocs]

theorem exists_items : ∀ vs : List Value, Value.AreNatural vs → ∃ items : List (Gap × Source),
    Source.itemsChars false items = Value.itemChars vs ∧ Source.itemDocs items = Value.itemDocs vs
  | [], _ => ⟨[], rfl, rfl⟩
  | v :: vs, hv => by
    obtain ⟨src, chars, doc⟩ := exists_source v hv.1
    obtain ⟨items, restChars, docs⟩ := exists_items vs hv.2
    refine ⟨(⟨.empty, .empty⟩, src) :: items, ?_, ?_⟩
    · simp [Source.itemsChars, Gap.chars, Blank.empty, Value.itemChars, chars, restChars]
    · rw [Source.itemDocs, doc, docs, Value.itemDocs]

theorem exists_members : ∀ ms : List (String × Value), Value.MembersAreNatural ms →
    ∃ members : List (Label × Source), Source.membersChars false members = Value.memberChars ms ∧
      Source.memberDocs members = Value.memberDocs ms
  | [], _ => ⟨[], rfl, rfl⟩
  | (k, v) :: ms, hv => by
    obtain ⟨src, chars, doc⟩ := exists_source v hv.1
    obtain ⟨members, restChars, docs⟩ := exists_members ms hv.2
    obtain ⟨l, quoted, text⟩ := literal_of_quote k
    refine ⟨(⟨⟨.empty, .empty⟩, l, .empty, .empty⟩, src) :: members, ?_, ?_⟩
    · simp [Source.membersChars, Label.chars, Gap.chars, Blank.empty, Value.memberChars, chars, restChars, ← quoted]
    · rw [Source.memberDocs, doc, docs, text, Value.memberDocs]
end

/-- The text of a value is read as its document, to the end. -/
theorem parse_chars {v : Value} (hv : v.IsNatural) : parse (v.chars.map some) = (v.doc, []) := by
  obtain ⟨src, chars, doc⟩ := exists_source v hv
  have read := readDoc_source src (3 * (v.chars.map some).length + 3) endsNumber_nil (by
    rw [chars, List.length_map]
    omega)
  rwa [List.append_nil, chars, doc] at read

end AgentLedger.Json
