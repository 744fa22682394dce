import AgentLedger.Proofs.Json.Records
import AgentLedger.Proofs.Json.Written
/-!
# Members of an object

An object that a text holds as a whole has nothing in it that skipping would
break off at. With no name twice, a record is read from it by looking up each
of its members, and it is refused as soon as one of them does not fit.
-/

namespace AgentLedger.Json

/-! ## Complete documents -/

theorem skip_readWord {doc : Doc} (h : doc.skip = none) (cs : List Char) (s : Text.Received)
    (whole : (readWord doc cs s).1.isBroken = false) : (readWord doc cs s).1.skip = none := by
  rcases readWord_eq doc cs s with read | ⟨d, read⟩
  · rw [read, h]
  · rw [read] at whole
    cases whole

theorem skip_readNumber (s : Text.Received) (whole : (readNumber s).1.isBroken = false) :
    (readNumber s).1.skip = none := by
  unfold readNumber at whole ⊢
  split at whole
  · rfl
  · cases whole

mutual
/-- What is not broken off is complete. -/
theorem skip_readDoc : ∀ (fuel : Nat) (s : Text.Received), (readDoc fuel s).1.isBroken = false →
    (readDoc fuel s).1.skip = none
  | 0, _, whole => by cases whole
  | fuel + 1, s, whole => by
    unfold readDoc at whole ⊢
    split at whole
    · cases whole
    · split at whole
      · rfl
      · rfl
      · cases whole
    · rename_i s _
      have items := skip_readItems fuel true s
      revert whole
      generalize readItems fuel true s = r at items ⊢
      obtain ⟨items', ending, rest⟩ := r
      cases ending with
      | broken => nofun
      | closed => exact fun _ => items rfl
    · rename_i s _
      have members := skip_readMembers fuel true s
      revert whole
      generalize readMembers fuel true s = r at members ⊢
      obtain ⟨members', ending, rest⟩ := r
      cases ending with
      | broken => nofun
      | closed => exact fun _ => members rfl
    · exact skip_readWord rfl _ _ whole
    · exact skip_readWord rfl _ _ whole
    · exact skip_readWord rfl _ _ whole
    · split at whole
      · rename_i h
        rw [if_pos h]
        exact skip_readNumber _ whole
      · cases whole

theorem skip_readItems : ∀ (fuel : Nat) (first : Bool) (s : Text.Received), (readItems fuel first s).2.1 = .closed →
    skipItems (readItems fuel first s).1 .closed = none
  | 0, _, _, closed => by cases closed
  | fuel + 1, first, s, closed => by
    unfold readItems at closed ⊢
    split at closed
    · cases closed
    · rfl
    · by_cases ahead : first = true
      · rw [if_pos ahead] at closed
        cases closed
      · rw [if_neg ahead] at closed ⊢
        split at closed
        · cases closed
        · cases closed
        · exact skip_readItem fuel _ closed
    · by_cases ahead : first = true
      · rw [if_pos ahead] at closed ⊢
        exact skip_readItem fuel _ closed
      · rw [if_neg ahead] at closed
        cases closed

theorem skip_readItem : ∀ (fuel : Nat) (s : Text.Received), (readItem fuel s).2.1 = .closed →
    skipItems (readItem fuel s).1 .closed = none
  | 0, _, closed => by cases closed
  | fuel + 1, s, closed => by
    have head := skip_readDoc fuel s
    unfold readItem at closed ⊢
    generalize readDoc fuel s = r at head closed ⊢
    obtain ⟨d, rest⟩ := r
    simp only at head closed ⊢
    by_cases broken : d.isBroken = true
    · rw [if_pos broken] at closed
      cases closed
    · rw [if_neg broken] at closed ⊢
      have tail := skip_readItems fuel false rest closed
      rw [skipItems, head (by simpa using broken)]
      exact tail

theorem skip_readMembers : ∀ (fuel : Nat) (first : Bool) (s : Text.Received), (readMembers fuel first s).2.1 = .closed →
    skipMembers (readMembers fuel first s).1 .closed = none
  | 0, _, _, closed => by cases closed
  | fuel + 1, first, s, closed => by
    unfold readMembers at closed ⊢
    split at closed
    · cases closed
    · rfl
    · by_cases ahead : first = true
      · rw [if_pos ahead] at closed
        cases closed
      · rw [if_neg ahead] at closed ⊢
        split at closed
        · cases closed
        · exact skip_readMember fuel _ closed
        · cases closed
        · cases closed
    · by_cases ahead : first = true
      · rw [if_pos ahead] at closed ⊢
        exact skip_readMember fuel _ closed
      · rw [if_neg ahead] at closed
        cases closed
    · cases closed

theorem skip_readMember : ∀ (fuel : Nat) (s : Text.Received), (readMember fuel s).2.1 = .closed →
    skipMembers (readMember fuel s).1 .closed = none
  | 0, _, closed => by cases closed
  | fuel + 1, s, closed => by
    unfold readMember at closed ⊢
    split at closed
    · cases closed
    · split at closed
      · cases closed
      · rename_i rest _
        have head := skip_readDoc fuel rest
        generalize readDoc fuel rest = r at head closed ⊢
        obtain ⟨d, rest'⟩ := r
        simp only at head closed ⊢
        by_cases broken : d.isBroken = true
        · rw [if_pos broken] at closed
          cases closed
        · rw [if_neg broken] at closed ⊢
          have tail := skip_readMembers fuel false rest' closed
          rw [skipMembers, head (by simpa using broken)]
          exact tail
      · cases closed
end

/-! ## Looking members up -/

section
variable {α β : Type} {ds : List (String × Doc)}

theorem memberValue?_eq_lookup (ds : List (String × Doc)) (name : String) :
    memberValue? (ds.map fun p => (.ok p.1, p.2)) name = ds.lookup name := by
  induction ds with
  | nil => rfl
  | cons p ds ih =>
    obtain ⟨key, d⟩ := p
    rw [memberValue?, List.map_cons, List.findSome?_cons, List.lookup_cons]
    by_cases same : key = name
    · subst same
      simp
    · have other : (name == key) = false := beq_eq_false_iff_ne.mpr (Ne.symm same)
      simp only [same, if_false, other]
      exact ih

theorem lookup_of_mem (distinct : (ds.map Prod.fst).Nodup) {p : String × Doc} (hp : p ∈ ds) :
    ds.lookup p.1 = some p.2 := by
  rw [← memberValue?_eq_lookup]
  exact memberValue?_of_mem distinct hp

/-! ## Records -/

def Members.IsThorough (m : Members α) : Prop :=
  ∀ (values : String → Option Doc) (a : α), m.build values = .ok a →
    ∀ x ∈ m.list, ∀ d, values x.name = some d → x.check d = .ok ()

theorem Members.build_map {m : Members α} {f : α → β} {values : String → Option Doc} {b : β} :
    (f <$> m).build values = .ok b ↔ ∃ a, m.build values = .ok a ∧ f a = b :=
  map_eq_ok

theorem Members.build_seq {m : Members (α → β)} {n : Members α} {values : String → Option Doc} {b : β} :
    (m <*> n).build values = .ok b ↔ ∃ f a, m.build values = .ok f ∧ n.build values = .ok a ∧ f a = b := by
  show (m.and n).build values = .ok b ↔ _
  cases first : m.build values <;> cases second : n.build values <;> simp [Members.and, first, second, Except.map]

theorem Members.build_required {name : String} {read : Reads α} {values : String → Option Doc} {a : α} :
    (required name read).build values = .ok a ↔ ∃ d, values name = some d ∧ read d = .ok a := by
  simp only [required]
  cases values name <;> simp

theorem isThorough_required (name : String) (read : Reads α) : (Members.required name read).IsThorough := by
  intro values a built x hx d found
  rw [List.mem_singleton.mp hx] at found ⊢
  obtain ⟨e, given, taken⟩ := Members.build_required.mp built
  obtain rfl : e = d := Option.some.inj (given.symm.trans found)
  change (read e).map _ = _
  rw [taken]
  rfl

theorem isThorough_optional (name : String) (read : Reads α) : (Members.optional name read).IsThorough := by
  intro values o built x hx d found
  rw [List.mem_singleton.mp hx] at found ⊢
  change values name = some d at found
  simp only [Members.optional, found] at built ⊢
  rw [built]
  rfl

theorem Members.IsThorough.map {m : Members α} (h : m.IsThorough) (f : α → β) : (f <$> m).IsThorough := by
  intro values b built
  obtain ⟨a, built, -⟩ := build_map.mp built
  exact h values a built

theorem Members.IsThorough.seq {m : Members (α → β)} {n : Members α} (h : m.IsThorough) (k : n.IsThorough) :
    (m <*> n).IsThorough := by
  intro values b built x hx
  obtain ⟨f, a, first, second, -⟩ := build_seq.mp built
  rcases List.mem_append.mp hx with hx | hx
  · exact h values f first x hx
  · exact k values a second x hx

theorem lookup_of_own {ms : List Member} (distinct : (ownNames ms ds).Nodup) {p : String × Doc} (hp : p ∈ ds)
    (own : p.1 ∈ ms.map (·.name)) : ds.lookup p.1 = some p.2 := by
  induction ds with
  | nil => cases hp
  | cons q ds ih =>
    rcases List.mem_cons.mp hp with rfl | hp
    · exact List.lookup_cons_self
    · have mem : p.1 ∈ ownNames ms ds := List.mem_filter.mpr ⟨List.mem_map_of_mem hp, decide_eq_true own⟩
      have other : q.1 ≠ p.1 := by
        intro same
        have names : ownNames ms (q :: ds) = q.1 :: ownNames ms ds :=
          List.filter_cons_of_pos (decide_eq_true (same ▸ own))
        rw [names, List.nodup_cons, same] at distinct
        exact distinct.1 mem
      have tail : (ownNames ms ds).Nodup := distinct.sublist ((List.sublist_cons_self ..).filter _)
      rw [List.lookup_cons, beq_eq_false_iff_ne.mpr (Ne.symm other)]
      exact ih tail hp

/-- A record is read from an object as soon as it can be built from what the object has under its names: each of them
stands there at most once, and what stands under other names is complete. -/
theorem Members.IsThorough.read_ofMembers {m : Members α} (h : m.IsThorough) (record : String) {a : α} :
    m.read record (.ofMembers ds) = .ok a ↔
      (ownNames m.list ds).Nodup ∧ (∀ p ∈ ds, p.1 ∉ m.list.map (·.name) → p.2.skip = none) ∧
        m.build (ds.lookup ·) = .ok a := by
  have same : memberValue? (ds.map fun p => (.ok p.1, p.2)) = (ds.lookup ·) := funext (memberValue?_eq_lookup ds)
  have checked := checkObject_eq_ok m.list [] ds
  simp only [Doc.ofMembers, Members.read, same]
  constructor
  · intro read
    split at read
    · cases read
    · rename_i taken
      obtain ⟨admitted, distinct, -⟩ := checked.mp taken
      refine ⟨distinct, fun p hp foreign => ?_, read⟩
      have complete := admitted p hp
      unfold Admits at complete
      split at complete
      · rename_i x found
        have named : x.name = p.1 := by simpa using List.find?_some found
        exact absurd (List.mem_map.mpr ⟨x, List.mem_of_find?_eq_some found, named⟩) foreign
      · exact complete
  · rintro ⟨distinct, complete, built⟩
    have admitted (p : String × Doc) (hp : p ∈ ds) : Admits m.list p := by
      unfold Admits
      split
      · rename_i x found
        have named : x.name = p.1 := by simpa using List.find?_some found
        have mem := List.mem_of_find?_eq_some found
        have value := lookup_of_own distinct hp (List.mem_map.mpr ⟨x, mem, named⟩)
        exact h _ a built x mem p.2 (named ▸ value)
      · rename_i absent
        refine complete p hp fun own => ?_
        obtain ⟨x, hx, named⟩ := List.mem_map.mp own
        exact List.find?_eq_none.mp absent x hx (beq_iff_eq.mpr named)
    rw [checked.mpr ⟨admitted, distinct, fun _ _ => List.not_mem_nil⟩]
    exact built

/-- What is read from an object, every name in it can be read, and the object is closed. -/
theorem ofMembers_of_checkObject {ms : List Member} {seen : List String} {members : List (Except Break String × Doc)}
    {e : Ending} (h : checkObject ms seen members e = .ok ()) : ∃ ds, Doc.object members e = .ofMembers ds := by
  suffices key : e = .closed ∧ ∃ ds : List (String × Doc), members = ds.map fun p => (.ok p.1, p.2) by
    obtain ⟨rfl, ds, rfl⟩ := key
    exact ⟨ds, rfl⟩
  induction members generalizing seen with
  | nil =>
    cases e with
    | closed => exact ⟨rfl, [], rfl⟩
    | broken => cases h
  | cons p members ih =>
    obtain ⟨_ | name, d⟩ := p
    · cases h
    · obtain ⟨seen', -, tail⟩ := (checkObject_cons (p := (name, d))).mp h
      obtain ⟨closed, ds, rfl⟩ := ih tail
      exact ⟨closed, (name, d) :: ds, rfl⟩

end

/-! ## Members that may be absent -/

def Tells {α : Type} (reads : Doc → α → Prop) (found : Option Doc) : Option α → Prop
  | none => found = none ∨ found = some .null
  | some a => ∃ d, found = some d ∧ reads d a

structure Takes {α : Type} (read : Reads α) (reads : Doc → α → Prop) : Prop where
  exact : ∀ d a, reads d a ↔ read d = .ok a
  not_null : ∀ a, ¬reads .null a

namespace Takes
variable {α : Type} {read : Reads α} {reads : Doc → α → Prop} (h : Takes read reads)
include h

theorem nullable_eq_ok (d : Doc) (o : Option α) : Members.nullable read d = .ok o ↔ Tells reads (some d) o := by
  by_cases null : d = .null
  · subst null
    cases o <;> simp [Tells, Members.nullable, h.not_null]
  · have plain : Members.nullable read d = (read d).map some := by cases d <;> first | rfl | exact absurd rfl null
    rw [plain]
    cases found : read d <;> cases o <;> simp [Tells, h.exact, null, found, Except.map]

theorem build_optional (name : String) (values : String → Option Doc) (o : Option α) :
    (Members.optional name read).build values = .ok o ↔ Tells reads (values name) o := by
  simp only [Members.optional]
  cases values name with
  | none => cases o <;> simp [Tells]
  | some d => exact h.nullable_eq_ok d o

theorem tells_unique {found : Option Doc} {o o' : Option α} (told : Tells reads found o) (told' : Tells reads found o') :
    o = o' := by
  rw [← h.build_optional "" fun _ => found] at told told'
  rw [told] at told'
  exact Except.ok.inj told'

end Takes

def IsText (d : Doc) (s : String) : Prop := d = .string s

def IsCount (d : Doc) (n : UInt64) : Prop := ∃ numeral, d = .number numeral ∧ numeral.integer? = some (n.toNat : Int)

theorem readText_eq_ok {expected : Expected} {d : Doc} {s : String} : readText expected d = .ok s ↔ d = .string s := by
  unfold readText
  split <;> simp_all

theorem takes_text : Takes readAnyText IsText where
  exact _ _ := readText_eq_ok.symm
  not_null := nofun

theorem readNatural_eq_ok {limit : Nat} {expected : Expected} {d : Doc} {n : Nat} :
    readNatural limit expected d = .ok n ↔
      n < limit ∧ ∃ numeral, d = .number numeral ∧ numeral.integer? = some (n : Int) := by
  cases d with
  | number numeral =>
    rw [readNatural]
    cases whole : numeral.integer? with
    | none => cases numeral.doubleText? <;> simp [whole]
    | some i =>
      by_cases fits : 0 ≤ i ∧ i < limit
      · simp only [fits, and_self, if_true, Except.ok.injEq, Doc.number.injEq, exists_eq_left', whole, Option.some.injEq]
        omega
      · simp only [fits, if_false, reduceCtorEq, Doc.number.injEq, exists_eq_left', whole, Option.some.injEq, false_iff]
        omega
  | _ => simp [readNatural]

theorem takes_count : Takes readUInt64 IsCount where
  exact d n := by
    have read : readUInt64 d = .ok n ↔ readNatural UInt64.size .uint64 d = .ok n.toNat := by
      unfold readUInt64
      cases h : readNatural UInt64.size .uint64 d with
      | error f => simp [Except.map]
      | ok k =>
        have fits := (readNatural_eq_ok.mp h).1
        simp only [Except.map, Except.ok.injEq]
        constructor
        · rintro rfl
          exact (UInt64.toNat_ofNat_of_lt' fits).symm
        · rintro rfl
          exact UInt64.ofNat_toNat
    rw [read, readNatural_eq_ok]
    exact ⟨fun h => ⟨n.toNat_lt, h⟩, fun h => h.2⟩
  not_null _ h := by
    obtain ⟨_, same, -⟩ := h
    cases same

/-! ## Texts that are objects -/

def IsObject (s : Text.Received) (ds : List (String × Doc)) : Prop :=
  (parse s).1 = .ofMembers ds ∧ (parse s).2.all isSpace = true

theorem readAll_iff_parse {α : Type} {read : Reads α} {s : Text.Received} {a : α} :
    readAll read s = .ok a ↔ read (parse s).1 = .ok a ∧ (parse s).2.all isSpace = true := by
  unfold readAll
  generalize parse s = r
  obtain ⟨d, rest⟩ := r
  simp only
  cases read d with
  | error f => simp
  | ok b => by_cases behind : rest.all isSpace = true <;> simp [behind]

theorem skipMembers_ofMembers {ds : List (String × Doc)}
    (h : skipMembers (ds.map fun p => (.ok p.1, p.2)) .closed = none) : ∀ p ∈ ds, p.2.skip = none := by
  induction ds with
  | nil => exact fun _ hp => absurd hp List.not_mem_nil
  | cons p ds ih =>
    rw [List.map_cons, skipMembers] at h
    rw [List.forall_mem_cons]
    cases head : p.2.skip with
    | some b => rw [head] at h; cases h
    | none => rw [head] at h; exact ⟨rfl, ih h⟩

namespace IsObject
variable {s : Text.Received} {ds : List (String × Doc)} (h : IsObject s ds)
include h

theorem complete : ∀ p ∈ ds, p.2.skip = none := by
  have unbroken : (parse s).1.isBroken = false := by rw [h.1]; rfl
  have whole := skip_readDoc _ s unbroken
  change (parse s).1.skip = none at whole
  rw [h.1, Doc.ofMembers, Doc.skip] at whole
  exact skipMembers_ofMembers whole

theorem readAll_iff {α : Type} {m : Members α} (thorough : m.IsThorough) (record : String) {a : α} :
    readAll (m.read record) s = .ok a ↔ (ownNames m.list ds).Nodup ∧ m.build (ds.lookup ·) = .ok a := by
  rw [readAll_iff_parse, h.1, thorough.read_ofMembers record]
  simp only [h.2, and_true]
  exact and_congr_right' (and_iff_right fun p hp _ => h.complete p hp)

theorem readAll_eq_ok {α : Type} {m : Members α} (thorough : m.IsThorough) (record : String)
    (distinct : (ds.map Prod.fst).Nodup) {a : α} :
    readAll (m.read record) s = .ok a ↔ m.build (ds.lookup ·) = .ok a :=
  (h.readAll_iff thorough record).trans (and_iff_right (ownNames_nodup distinct))

/-- Each member is read from the text. -/
theorem isRead : ∀ p ∈ ds, p.2.IsRead := by
  obtain ⟨k, t, -, members⟩ := readDoc_object h.1
  intro p hp
  refine isRead_readMembers k true t (.ok p.1, p.2) ?_ (h.complete p hp)
  rw [members]
  exact List.mem_map_of_mem hp

/-- An object's text has a brace in it. -/
theorem brace_mem : some '\x7b' ∈ s := by
  obtain ⟨k, t, ahead, -⟩ := readDoc_object h.1
  have mem : some '\x7b' ∈ skipSpace s := by rw [ahead]; exact List.mem_cons_self
  exact (List.dropWhile_suffix _).subset mem

end IsObject

theorem isObject_of_readAll {α : Type} {m : Members α} {record : String} {s : Text.Received} {a : α}
    {members : List (Except Break String × Doc)} {e : Ending} (read : readAll (m.read record) s = .ok a)
    (object : (parse s).1 = .object members e) : ∃ ds, IsObject s ds := by
  obtain ⟨taken, behind⟩ := readAll_iff_parse.mp read
  rw [object, Members.read] at taken
  split at taken
  · cases taken
  · rename_i checked
    obtain ⟨ds, same⟩ := ofMembers_of_checkObject checked
    exact ⟨ds, object.trans same, behind⟩

theorem isObject_text (vs : List (String × Value)) (h : (Value.object vs).IsNatural) :
    IsObject (Text.whole (Value.object vs).text) (vs.map fun p => (p.1, p.2.doc)) := by
  rw [IsObject, Text.whole, Value.text, String.toList_ofList, parse_chars h, Value.doc_object]
  exact ⟨rfl, rfl⟩

/-! ## Texts that are lists -/

def IsList (s : Text.Received) (items : List Doc) : Prop :=
  (parse s).1 = .array items .closed ∧ (parse s).2.all isSpace = true

/-- A list's text has a bracket in it. -/
theorem IsList.bracket_mem {s : Text.Received} {items : List Doc} (h : IsList s items) : some '[' ∈ s := by
  have head := head_readDoc (3 * s.length + 3) s
  rw [show (readDoc _ s).1 = _ from h.1] at head
  cases head with
  | array _ _ ahead =>
    have mem : some '[' ∈ skipSpace s := by rw [ahead]; exact List.mem_cons_self
    exact (List.dropWhile_suffix _).subset mem

theorem itemValue?_eq_lookup (ms : List Member) (items : List Doc) (name : String) :
    itemValue? ms items name = ((ms.map (·.name)).zip items).lookup name := by
  induction ms generalizing items with
  | nil => rfl
  | cons m ms ih =>
    cases items with
    | nil => rfl
    | cons d items =>
      rw [List.map_cons, List.zip_cons_cons, List.lookup_cons, itemValue?, List.zip_cons_cons, List.findSome?_cons]
      by_cases same : m.name = name
      · simp [same]
      · simp only [same, if_false, beq_eq_false_iff_ne.mpr (Ne.symm same)]
        exact ih items

/-- A list is taken if it has one item for each member, and each takes its own. -/
theorem checkList_eq_ok (record : String) (size : Nat) (ms : List Member) (index : Nat) (items : List Doc) (e : Ending) :
    checkList record size index ms items e = .ok () ↔
      e = .closed ∧ items.length = ms.length ∧ ∀ p ∈ ms.zip items, p.1.check p.2 = .ok () := by
  induction ms generalizing index items with
  | nil =>
    cases items with
    | nil => obtain _ | ⟨_ | _, d⟩ := e <;> simp [checkList]
    | cons d items => simp [checkList]
  | cons m ms ih =>
    cases items with
    | nil => cases e <;> simp [checkList]
    | cons d items =>
      rw [checkList, List.zip_cons_cons, List.forall_mem_cons]
      cases m.check d with
      | error f => simp
      | ok u => simp [ih]

/-- A record is read from a list of its members' values as soon as it can be built from them. -/
theorem IsList.readAll_iff {α : Type} {m : Members α} {s : Text.Received} {items : List Doc} (h : IsList s items)
    (thorough : m.IsThorough) (distinct : (m.list.map (·.name)).Nodup) (record : String) {a : α} :
    readAll (m.read record) s = .ok a ↔
      items.length = m.list.length ∧ m.build (((m.list.map (·.name)).zip items).lookup ·) = .ok a := by
  have same : itemValue? m.list items = (((m.list.map (·.name)).zip items).lookup ·) :=
    funext (itemValue?_eq_lookup m.list items)
  have checked := checkList_eq_ok record m.list.length m.list 0 items .closed
  rw [readAll_iff_parse, h.1, ← same]
  simp only [h.2, and_true, Members.read]
  constructor
  · intro read
    split at read
    · cases read
    · rename_i taken
      exact ⟨(checked.mp taken).2.1, read⟩
  · rintro ⟨length, built⟩
    have taken : ∀ p ∈ m.list.zip items, p.1.check p.2 = .ok () := by
      rintro ⟨x, d⟩ hp
      have keys : ((m.list.map (·.name)).zip items).map Prod.fst = m.list.map (·.name) :=
        List.map_fst_zip (Nat.le_of_eq (by rw [List.length_map, length]))
      have mem : (x.name, d) ∈ (m.list.map (·.name)).zip items := by
        rw [List.zip_map_left]
        exact List.mem_map.mpr ⟨(x, d), hp, rfl⟩
      have value : itemValue? m.list items x.name = some d := by
        rw [same]
        exact lookup_of_mem (by rw [keys]; exact distinct) mem
      exact thorough _ a built x (List.of_mem_zip hp).1 d value
    rw [checked.mpr ⟨rfl, length, taken⟩]
    exact built

/-! ## Texts that are records -/

/-- The text holds members under these names: an object that has none of them twice, or the list of all their values. -/
inductive Presents (names : List String) (s : Text.Received) : List (String × Doc) → Prop
  | object {ds : List (String × Doc)} : IsObject s ds → ((ds.map Prod.fst).filter (· ∈ names)).Nodup → Presents names s ds
  | list {items : List Doc} : IsList s items → items.length = names.length → Presents names s (names.zip items)

/-- A record is read from what presents its members, and from nothing else. -/
theorem readAll_iff_presents {α : Type} {m : Members α} {s : Text.Received} (thorough : m.IsThorough)
    (distinct : (m.list.map (·.name)).Nodup) (record : String) {a : α} :
    readAll (m.read record) s = .ok a ↔
      ∃ ds, Presents (m.list.map (·.name)) s ds ∧ m.build (ds.lookup ·) = .ok a := by
  constructor
  · intro read
    obtain ⟨taken, behind⟩ := readAll_iff_parse.mp read
    cases whole : (parse s).1 with
    | object members e =>
      obtain ⟨ds, object⟩ := isObject_of_readAll read whole
      obtain ⟨once, built⟩ := (object.readAll_iff thorough record).mp read
      exact ⟨ds, .object object once, built⟩
    | array items e =>
      have closed : e = .closed := by
        rw [whole, Members.read] at taken
        split at taken
        · cases taken
        · rename_i checked
          exact ((checkList_eq_ok record _ m.list 0 items e).mp checked).1
      subst closed
      have list : IsList s items := ⟨whole, behind⟩
      obtain ⟨length, built⟩ := (list.readAll_iff thorough distinct record).mp read
      exact ⟨_, .list list (by rw [List.length_map, length]), built⟩
    | _ => rw [whole] at taken; cases taken
  · rintro ⟨ds, presented, built⟩
    cases presented with
    | object object once => exact (object.readAll_iff thorough record).mpr ⟨once, built⟩
    | list list length =>
      exact (list.readAll_iff thorough distinct record).mpr ⟨by rw [length, List.length_map], built⟩

end AgentLedger.Json
