import AgentLedger.Json.Record
import AgentLedger.Proofs.Json.RoundTrip
/-!
# Records are read back

A record is read from an object that has its members in the order of their
declaration. What each member reads is said beside the member; `Members.Fits`
puts the parts together the way the record's description does.
-/

namespace AgentLedger.Json

section
variable {α β : Type}

structure Members.Fits (m : Members α) (ds : List (String × Doc)) (a : α) : Prop where
  names : m.list.map (·.name) = ds.map Prod.fst
  checks : ∀ p ∈ m.list.zip ds, p.1.check p.2.2 = .ok ()
  build : ∀ values : String → Option Doc, (∀ p ∈ ds, values p.1 = some p.2) → m.build values = .ok a

theorem fits_required (name : String) {read : Reads α} {d : Doc} {a : α} (h : read d = .ok a) :
    (Members.required name read).Fits [(name, d)] a where
  names := rfl
  checks := by
    intro p hp
    rw [List.mem_singleton.mp hp]
    show (read d).map _ = _
    rw [h]
    rfl
  build values hv := by
    have := hv (name, d) (List.mem_singleton.mpr rfl)
    simp only [Members.required, this, h]

theorem Members.Fits.map {m : Members α} {ds : List (String × Doc)} {a : α} (h : m.Fits ds a) (f : α → β) :
    (f <$> m).Fits ds (f a) where
  names := h.names
  checks := h.checks
  build values hv := by
    show (m.build values).map f = _
    rw [h.build values hv]
    rfl

theorem Members.Fits.seq {m : Members (α → β)} {n : Members α} {ds es : List (String × Doc)} {f : α → β} {a : α}
    (h : m.Fits ds f) (k : n.Fits es a) : (m <*> n).Fits (ds ++ es) (f a) where
  names := by
    show (m.list ++ n.list).map _ = _
    rw [List.map_append, List.map_append, h.names, k.names]
  checks := by
    have same : m.list.length = ds.length := by simpa using congrArg List.length h.names
    intro p hp
    change p ∈ (m.list ++ n.list).zip (ds ++ es) at hp
    rw [List.zip_append same, List.mem_append] at hp
    exact hp.elim (h.checks p) (k.checks p)
  build values hv := by
    have first := h.build values fun p hp => hv p (List.mem_append_left _ hp)
    have second := k.build values fun p hp => hv p (List.mem_append_right _ hp)
    show (m.and n).build values = _
    simp only [Members.and, first, second]
    rfl

/-! ## Objects -/

def Doc.ofMembers (ds : List (String × Doc)) : Doc := .object (ds.map fun p => (.ok p.1, p.2)) .closed

theorem memberValue?_of_mem {ds : List (String × Doc)} (distinct : (ds.map Prod.fst).Nodup) {p : String × Doc}
    (hp : p ∈ ds) : memberValue? (ds.map fun p => (.ok p.1, p.2)) p.1 = some p.2 := by
  induction ds with
  | nil => cases hp
  | cons q ds ih =>
    rw [List.map_cons, List.nodup_cons] at distinct
    rw [memberValue?, List.map_cons, List.findSome?_cons]
    rcases List.mem_cons.mp hp with rfl | hp
    · simp
    · have other : q.1 ≠ p.1 := by
        intro h
        exact distinct.1 (h ▸ List.mem_map_of_mem hp)
      simp only [other, if_false]
      exact ih distinct.2 hp

theorem find?_of_zip {ms : List Member} {ds : List (String × Doc)} (names : ms.map (·.name) = ds.map Prod.fst)
    (distinct : (ds.map Prod.fst).Nodup) (checks : ∀ p ∈ ms.zip ds, p.1.check p.2.2 = .ok ()) :
    ∀ p ∈ ds, ∃ m, ms.find? (·.name == p.1) = some m ∧ m.check p.2 = .ok () := by
  induction ds generalizing ms with
  | nil => exact fun p hp => absurd hp List.not_mem_nil
  | cons q ds ih =>
    obtain _ | ⟨m, ms⟩ := ms
    · cases names
    rw [List.map_cons, List.map_cons, List.cons.injEq] at names
    rw [List.map_cons, List.nodup_cons] at distinct
    rw [List.zip_cons_cons, List.forall_mem_cons] at checks
    rw [List.forall_mem_cons]
    refine ⟨⟨m, by simp [names.1], checks.1⟩, fun p hp => ?_⟩
    have other : (m.name == p.1) = false := by
      rw [names.1, beq_eq_false_iff_ne]
      exact fun h => distinct.1 (h ▸ List.mem_map_of_mem hp)
    rw [List.find?_cons_of_neg (by simp [other])]
    exact ih names.2 distinct.2 checks.2 p hp

/-- What may stand under a name: what the record's member of that name takes, or, where the record has none, what can
be skipped. -/
def Admits (ms : List Member) (p : String × Doc) : Prop :=
  match ms.find? (·.name == p.1) with
  | some m => m.check p.2 = .ok ()
  | none => p.2.skip = none

def ownNames (ms : List Member) (ds : List (String × Doc)) : List String :=
  (ds.map Prod.fst).filter (· ∈ ms.map (·.name))

theorem checkMember_eq_ok {ms : List Member} {seen seen' : List String} {p : String × Doc} :
    checkMember ms seen p.1 p.2 = .ok seen' ↔
      Admits ms p ∧ if p.1 ∈ ms.map (·.name) then p.1 ∉ seen ∧ p.1 :: seen = seen' else seen = seen' := by
  unfold checkMember Admits
  cases found : ms.find? (·.name == p.1) with
  | none =>
    have foreign : p.1 ∉ ms.map (·.name) := by
      intro own
      obtain ⟨m, hm, named⟩ := List.mem_map.mp own
      exact List.find?_eq_none.mp found m hm (beq_iff_eq.mpr named)
    rw [if_neg foreign]
    cases p.2.skip <;> simp
  | some m =>
    have own : p.1 ∈ ms.map (·.name) :=
      List.mem_map.mpr ⟨m, List.mem_of_find?_eq_some found, by simpa using List.find?_some found⟩
    rw [if_pos own]
    by_cases old : p.1 ∈ seen
    · simp [old]
    · simp only [old, if_false]
      cases m.check p.2 <;> simp

theorem checkObject_cons {ms : List Member} {seen : List String} {p : String × Doc}
    {rest : List (Except Break String × Doc)} {e : Ending} :
    checkObject ms seen ((.ok p.1, p.2) :: rest) e = .ok () ↔
      ∃ seen', checkMember ms seen p.1 p.2 = .ok seen' ∧ checkObject ms seen' rest e = .ok () := by
  rw [checkObject]
  cases checkMember ms seen p.1 p.2 <;> simp

/-- An object is taken as soon as each of its members may stand under its name and none of the record's names comes
twice; the other names may. -/
theorem checkObject_eq_ok (ms : List Member) (seen : List String) (ds : List (String × Doc)) :
    checkObject ms seen (ds.map fun p => (.ok p.1, p.2)) .closed = .ok () ↔
      (∀ p ∈ ds, Admits ms p) ∧ (ownNames ms ds).Nodup ∧ ∀ n ∈ ownNames ms ds, n ∉ seen := by
  induction ds generalizing seen with
  | nil => simp [checkObject, ownNames]
  | cons p ds ih =>
    rw [List.map_cons, checkObject_cons, List.forall_mem_cons]
    simp only [checkMember_eq_ok, ih]
    by_cases own : p.1 ∈ ms.map (·.name)
    · have names : ownNames ms (p :: ds) = p.1 :: ownNames ms ds := List.filter_cons_of_pos (decide_eq_true own)
      simp only [own, if_true, names, List.nodup_cons, List.forall_mem_cons]
      constructor
      · rintro ⟨_, ⟨admitted, unseen, rfl⟩, others, distinct, new⟩
        have once : p.1 ∉ ownNames ms ds := fun again => new _ again List.mem_cons_self
        exact ⟨⟨admitted, others⟩, ⟨once, distinct⟩, unseen, fun n hn old => new n hn (List.mem_cons_of_mem _ old)⟩
      · rintro ⟨⟨admitted, others⟩, ⟨once, distinct⟩, unseen, new⟩
        refine ⟨_, ⟨admitted, unseen, rfl⟩, others, distinct, fun n hn old => ?_⟩
        rcases List.mem_cons.mp old with rfl | old
        · exact once hn
        · exact new n hn old
    · have names : ownNames ms (p :: ds) = ownNames ms ds := List.filter_cons_of_neg (by simpa using own)
      simp only [own, if_false, names]
      constructor
      · rintro ⟨_, ⟨admitted, rfl⟩, others, distinct⟩
        exact ⟨⟨admitted, others⟩, distinct⟩
      · rintro ⟨⟨admitted, others⟩, distinct⟩
        exact ⟨_, ⟨admitted, rfl⟩, others, distinct⟩

theorem ownNames_nodup {ms : List Member} {ds : List (String × Doc)} (distinct : (ds.map Prod.fst).Nodup) :
    (ownNames ms ds).Nodup := distinct.filter _

/-- Where every member of an object has its own in the record, the record is built from what they hold. -/
theorem Members.read_ofMembers (m : Members α) (record : String) {ds : List (String × Doc)}
    (distinct : (ds.map Prod.fst).Nodup)
    (found : ∀ p ∈ ds, ∃ x, m.list.find? (·.name == p.1) = some x ∧ x.check p.2 = .ok ()) :
    m.read record (.ofMembers ds) = m.build (memberValue? (ds.map fun p => (.ok p.1, p.2))) := by
  have admitted (p : String × Doc) (hp : p ∈ ds) : Admits m.list p := by
    obtain ⟨x, hx, check⟩ := found p hp
    unfold Admits
    rw [hx]
    exact check
  have checked := (checkObject_eq_ok m.list [] ds).mpr ⟨admitted, ownNames_nodup distinct, fun _ _ => List.not_mem_nil⟩
  simp only [Doc.ofMembers, Members.read, checked]

theorem Members.Fits.read {m : Members α} {ds : List (String × Doc)} {a : α} (h : m.Fits ds a) (record : String)
    (distinct : (ds.map Prod.fst).Nodup) : m.read record (.ofMembers ds) = .ok a := by
  rw [m.read_ofMembers record distinct (find?_of_zip h.names distinct h.checks)]
  exact h.build _ fun p hp => memberValue?_of_mem distinct hp

end

/-! ## Values -/

theorem Value.itemDocs_eq (vs : List Value) : itemDocs vs = vs.map doc := by
  induction vs with
  | nil => rfl
  | cons v vs ih => rw [itemDocs, ih]; rfl

theorem Value.memberDocs_eq (ms : List (String × Value)) :
    memberDocs ms = (ms.map fun p => (p.1, p.2.doc)).map fun p => (.ok p.1, p.2) := by
  induction ms with
  | nil => rfl
  | cons m ms ih => rw [memberDocs, ih]; rfl

theorem Value.areNatural_iff (vs : List Value) : AreNatural vs ↔ ∀ v ∈ vs, v.IsNatural := by
  induction vs with
  | nil => simp [AreNatural]
  | cons v vs ih => rw [AreNatural, ih, List.forall_mem_cons]

theorem Value.doc_object (vs : List (String × Value)) : (Value.object vs).doc = .ofMembers (vs.map fun p => (p.1, p.2.doc)) := by
  rw [doc, memberDocs_eq]
  rfl

/-- An object is read as the record whose members its own are. -/
theorem read_object {α : Type} {m : Members α} {vs : List (String × Value)} {a : α} (record : String)
    (h : m.Fits (vs.map fun p => (p.1, p.2.doc)) a) (distinct : (vs.map Prod.fst).Nodup) :
    m.read record (Value.object vs).doc = .ok a := by
  rw [Value.doc_object]
  refine h.read record ?_
  rw [List.map_map]
  exact distinct

theorem readAnyText_string (s : String) : readAnyText (Value.string s).doc = .ok s := rfl

theorem integer?_ofNat {n : Nat} (h : n < UInt64.size) :
    (Numeral.ofNat (Text.decimalDigits n)).integer? = some (n : Int) := by
  simp [Numeral.integer?, Numeral.ofNat, h]

theorem readNatural_ofNat {limit : Nat} (expected : Expected) {n : Nat} (h : n < limit) (fits : limit ≤ UInt64.size) :
    readNatural limit expected (Value.ofNat n).doc = .ok n := by
  show readNatural limit expected (.number (.ofNat (Text.decimalDigits n))) = _
  rw [readNatural, integer?_ofNat (by omega)]
  simp only [Int.toNat_natCast]
  rw [if_pos (by omega)]

theorem readUInt8_ofNat (n : UInt8) : readUInt8 (Value.ofNat n.toNat).doc = .ok n := by
  rw [readUInt8, readNatural_ofNat .uint8 n.toNat_lt (by decide)]
  exact congrArg _ UInt8.ofNat_toNat

theorem readUInt32_ofNat (n : UInt32) : readUInt32 (Value.ofNat n.toNat).doc = .ok n := by
  rw [readUInt32, readNatural_ofNat .uint32 n.toNat_lt (by decide)]
  exact congrArg _ UInt32.ofNat_toNat

theorem readUInt64_ofNat (n : UInt64) : readUInt64 (Value.ofNat n.toNat).doc = .ok n := by
  rw [readUInt64, readNatural_ofNat .uint64 n.toNat_lt (Nat.le_refl _)]
  exact congrArg _ UInt64.ofNat_toNat

theorem readAmount_text (room : Nat) (a : Amount) : readAmount room (Value.string a.text).doc = .ok a := by
  have value : (Value.string a.text).doc.toValue room = .ok (.string a.text) := rfl
  unfold readAmount
  simp only [value, Amount.read_text]

theorem readItemsAs_map {α β : Type} {read : Reads α} {f : β → Value} {g : β → α} (index : Nat) {bs : List β}
    (h : ∀ b ∈ bs, read (f b).doc = .ok (g b)) :
    readItemsAs read index ((bs.map f).map Value.doc) .closed = .ok (bs.map g) := by
  induction bs generalizing index with
  | nil => rfl
  | cons b bs ih =>
    rw [List.forall_mem_cons] at h
    simp only [List.map_cons, readItemsAs, h.1]
    rw [ih (index + 1) h.2]
    rfl

theorem readList_map {α β : Type} {read : Reads α} {f : β → Value} {g : β → α} {bs : List β}
    (h : ∀ b ∈ bs, read (f b).doc = .ok (g b)) : readList read (Value.array (bs.map f)).doc = .ok (bs.map g) := by
  rw [Value.doc, Value.itemDocs_eq]
  exact readItemsAs_map 0 h

/-! ## Texts -/

theorem readFirst_chars {α : Type} {read : Reads α} {v : Value} {a : α} (hv : v.IsNatural) (h : read v.doc = .ok a) :
    readFirst read (v.chars.map some) = .ok a := by
  rw [readFirst, parse_chars hv, h]

theorem readAll_text {α : Type} {read : Reads α} {v : Value} {a : α} (hv : v.IsNatural) (h : read v.doc = .ok a) :
    readAll read (Text.whole v.text) = .ok a := by
  rw [Text.whole, Value.text, String.toList_ofList, readAll, parse_chars hv]
  simp only [h]
  rfl

end AgentLedger.Json
