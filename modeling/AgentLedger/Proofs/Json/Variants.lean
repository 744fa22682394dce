import Mathlib.Data.List.Perm.Basic
import AgentLedger.Proofs.Json.Coverage
import AgentLedger.Proofs.Json.Members
/-!
# Other texts of the same object

A record is read from an object no matter in which order its members stand and
what stands among them under other names. Members are told as they are
written, so that the order and the others are an order and others of the text.
-/

namespace AgentLedger.Json

open Text (Received)

def Spells (ms : List (Label × Source)) (t : String) : Prop :=
  ∃ before last after : Blank, t.toList = before.chars ++ ((Source.object ms last).chars ++ after.chars)

def OpensObject (t : String) : Prop := (skipSpace (Text.whole t)).head? = some (some '\x7b')

def Label.isCalled (name : String) (l : Label) : Bool :=
  match l.name.text with
  | .ok n => n == name
  | .error _ => false

def Extends (names : List String) (old new : List (Label × Source)) : Prop :=
  ∃ extra, new.Perm (old ++ extra) ∧ ∀ p ∈ extra, ∃ n, p.1.name.text = .ok n ∧ n ∉ names

def restate (name : String) (v : Source) (p : Label × Source) : Label × Source :=
  if p.1.isCalled name then (p.1, v) else p

/-- What is read from an object stays what it is while members change their order and others come among them. -/
structure Tolerates {α : Type} (read : Reads α) (names : List String) : Prop where
  spelled {t : String} {a : α} : readAll read (Text.whole t) = .ok a → OpensObject t → ∃ ms, Spells ms t
  kept {t t' : String} {a : α} {ms ms' : List (Label × Source)} : readAll read (Text.whole t) = .ok a → Spells ms t →
    Extends names ms ms' → Spells ms' t' → readAll read (Text.whole t') = .ok a

/-- The same with another string under `name`: what is read follows it, and only it. -/
structure Follows {α : Type} (read : Reads α) (names : List String) (name : String) (set : String → α → α) : Prop where
  restated {t t' : String} {a : α} {ms ms' : List (Label × Source)} {l : Literal} {s : String} :
    readAll read (Text.whole t) = .ok a → Spells ms t → l.text = .ok s →
      Extends names (ms.map (restate name (.string l))) ms' → Spells ms' t' →
        readAll read (Text.whole t') = .ok (set s a)

/-! ## Members as written and as read -/

def Denote (ms : List (Label × Source)) (ds : List (String × Doc)) : Prop :=
  List.Forall₂ (fun p q => p.1.name.text = .ok q.1 ∧ p.2.doc = q.2) ms ds

theorem memberDocs_eq_iff {ms : List (Label × Source)} {ds : List (String × Doc)} :
    Source.memberDocs ms = ds.map (fun p => (.ok p.1, p.2)) ↔ Denote ms ds := by
  induction ms generalizing ds with
  | nil => cases ds <;> simp [Source.memberDocs, Denote]
  | cons p ms ih =>
    obtain ⟨l, v⟩ := p
    cases ds with
    | nil => simp [Source.memberDocs, Denote]
    | cons q ds =>
      rw [Source.memberDocs, List.map_cons, List.cons.injEq, Prod.mk.injEq, ih, Denote, Denote, List.forall₂_cons]

namespace Spells
variable {ms : List (Label × Source)} {t : String} (h : Spells ms t)
include h

theorem parse : (Json.parse (Text.whole t)).1 = .object (Source.memberDocs ms) .closed ∧
    (Json.parse (Text.whole t)).2.all isSpace = true := by
  obtain ⟨before, last, after, same⟩ := h
  have ends := endsNumber_blank after endsNumber_nil
  rw [List.append_nil] at ends
  have whole : Text.whole t = before.chars.map some ++
      ((Source.object ms last).chars.map some ++ after.chars.map some) := by
    rw [Text.whole, same, List.map_append, List.map_append]
  have enough : 3 * (Source.object ms last).chars.length ≤ 3 * (Text.whole t).length + 3 := by
    rw [whole]
    simp only [List.length_map, List.length_append]
    omega
  have read := readDoc_source (.object ms last) _ ends enough
  rw [Json.parse]
  rw [whole] at read ⊢
  rw [readDoc_blank, read]
  refine ⟨rfl, List.all_eq_true.mpr ?_⟩
  intro c hc
  obtain ⟨d, hd, rfl⟩ := List.mem_map.mp hc
  exact after.spaces d hd

theorem isObject_iff {ds : List (String × Doc)} : IsObject (Text.whole t) ds ↔ Denote ms ds := by
  rw [IsObject, h.parse.1, ← memberDocs_eq_iff, Doc.ofMembers, Doc.object.injEq]
  simp only [h.parse.2, and_true]

end Spells

/-! ## Accepted texts -/

theorem readDoc_brace {s t : Received} (ahead : skipSpace s = some '\x7b' :: t) (fuel : Nat) :
    (readDoc (fuel + 1) s).1 = .object (readMembers fuel true t).1 (readMembers fuel true t).2.1 := by
  rw [readDoc, ahead]
  rfl

theorem OpensObject.ahead {t : String} (opens : OpensObject t) : ∃ u, skipSpace (Text.whole t) = some '\x7b' :: u := by
  unfold OpensObject at opens
  cases skipped : skipSpace (Text.whole t) with
  | nil => simp [skipped] at opens
  | cons c u =>
    simp only [skipped, List.head?_cons, Option.some.injEq] at opens
    exact ⟨u, by rw [opens]⟩

theorem Source.eq_object {v : Source} {ms : List (Except Break String × Doc)} {e : Ending} (h : v.doc = .object ms e) :
    ∃ members last, v = .object members last := by
  cases v with
  | object members last => exact ⟨members, last, rfl⟩
  | string l => rw [doc] at h; split at h <;> cases h
  | _ => cases h

theorem exists_spelled {α : Type} {m : Members α} {record t : String} {a : α}
    (accepted : readAll (m.read record) (Text.whole t) = .ok a) (opens : OpensObject t) : ∃ ms, Spells ms t := by
  obtain ⟨u, ahead⟩ := opens.ahead
  obtain ⟨ds, object, behind⟩ := isObject_of_readAll accepted (readDoc_brace ahead (3 * (Text.whole t).length + 2))
  obtain ⟨before, v, after, doc, same⟩ := source_of_parse (by rw [object]; rfl) behind
  obtain ⟨members, last, rfl⟩ := Source.eq_object (doc.trans object)
  exact ⟨members, before, last, after, same⟩

/-! ## What a record is built from -/

structure Members.IsPlain {α : Type} (m : Members α) : Prop where
  thorough : m.IsThorough
  local_ {values values' : String → Option Doc} : (∀ x ∈ m.list, values x.name = values' x.name) →
    m.build values = m.build values'

namespace Members.IsPlain
variable {α β : Type}

theorem required (name : String) (read : Reads α) : (Members.required name read).IsPlain where
  thorough := isThorough_required name read
  local_ same := by
    have same := same ⟨name, _⟩ (List.mem_singleton.mpr rfl)
    simp only at same
    simp only [Members.required, same]

theorem map {m : Members α} (h : m.IsPlain) (f : α → β) : (f <$> m).IsPlain where
  thorough := h.thorough.map f
  local_ same := congrArg (Except.map f) (h.local_ same)

theorem seq {m : Members (α → β)} {n : Members α} (h : m.IsPlain) (k : n.IsPlain) : (m <*> n).IsPlain where
  thorough := h.thorough.seq k.thorough
  local_ {values values'} same := by
    have first := h.local_ fun x hx => same x (List.mem_append_left _ hx)
    have second := k.local_ fun x hx => same x (List.mem_append_right _ hx)
    show (m.and n).build values = (m.and n).build values'
    rw [Members.and]
    simp only [first, second]

end Members.IsPlain

section
variable {ms : List Member} {ds ds' es : List (String × Doc)}

theorem lookup_iff_mem (distinct : (ownNames ms ds).Nodup) {name : String} (own : name ∈ ms.map (·.name)) {d : Doc} :
    ds.lookup name = some d ↔ (name, d) ∈ ds := by
  constructor
  · intro found
    obtain ⟨front, back, rfl, -⟩ := List.lookup_eq_some_iff.mp found
    exact List.mem_append_right _ List.mem_cons_self
  · exact fun mem => lookup_of_own distinct mem own

/-- Members under other names are none of the record's, and order does not count. -/
theorem ownNames_of_perm (perm : ds'.Perm (ds ++ es)) (foreign : ∀ p ∈ es, p.1 ∉ ms.map (·.name)) :
    (ownNames ms ds').Perm (ownNames ms ds) := by
  have none_ : ownNames ms es = [] := by
    refine List.filter_eq_nil_iff.mpr fun n hn => ?_
    obtain ⟨p, hp, rfl⟩ := List.mem_map.mp hn
    simpa using foreign p hp
  have both : ownNames ms (ds ++ es) = ownNames ms ds := by
    rw [ownNames, List.map_append, List.filter_append]
    exact (congrArg _ none_).trans (List.append_nil _)
  rw [← both]
  exact (perm.map _).filter _

theorem lookup_of_perm (perm : ds'.Perm (ds ++ es)) (foreign : ∀ p ∈ es, p.1 ∉ ms.map (·.name))
    (distinct : (ownNames ms ds).Nodup) {name : String} (own : name ∈ ms.map (·.name)) :
    ds'.lookup name = ds.lookup name := by
  have distinct' := (ownNames_of_perm perm foreign).nodup_iff.mpr distinct
  apply Option.ext
  intro d
  rw [lookup_iff_mem distinct' own, lookup_iff_mem distinct own, perm.mem_iff, List.mem_append]
  exact or_iff_left fun mem => foreign _ mem own

theorem lookup_map_values (values : String → Doc → Doc) (name : String) :
    (ds.map fun p => (p.1, values p.1 p.2)).lookup name = (ds.lookup name).map (values name) := by
  induction ds with
  | nil => rfl
  | cons p ds ih =>
    rw [List.map_cons, List.lookup_cons, List.lookup_cons]
    by_cases same : name = p.1
    · subst same
      simp
    · simp only [beq_eq_false_iff_ne.mpr same]
      exact ih

end

/-! ## Records in other texts -/

theorem exists_denoted {names : List String} {ms : List (Label × Source)}
    (others : ∀ p ∈ ms, ∃ n, p.1.name.text = .ok n ∧ n ∉ names) : ∃ es, Denote ms es ∧ ∀ p ∈ es, p.1 ∉ names := by
  induction ms with
  | nil => exact ⟨[], .nil, fun _ h => absurd h List.not_mem_nil⟩
  | cons p ms ih =>
    rw [List.forall_mem_cons] at others
    obtain ⟨⟨n, text, foreign⟩, others⟩ := others
    obtain ⟨es, denoted, rest⟩ := ih others
    exact ⟨(n, p.2.doc) :: es, .cons ⟨text, rfl⟩ denoted, List.forall_mem_cons.mpr ⟨foreign, rest⟩⟩

theorem denoted_of_extends {names : List String} {ms ms' : List (Label × Source)} {ds : List (String × Doc)}
    (denoted : Denote ms ds) (h : Extends names ms ms') :
    ∃ ds' es, Denote ms' ds' ∧ ds'.Perm (ds ++ es) ∧ ∀ p ∈ es, p.1 ∉ names := by
  obtain ⟨extra, perm, others⟩ := h
  obtain ⟨es, denoted', foreign⟩ := exists_denoted others
  obtain ⟨ds', new, perm'⟩ := List.perm_comp_forall₂ perm (List.rel_append denoted denoted')
  exact ⟨ds', es, new, perm', foreign⟩

namespace Members.IsPlain
variable {α β : Type}

theorem readAll_of_extends {m : Members α} (plain : m.IsPlain) (record : String) {ms ms' : List (Label × Source)}
    {ds : List (String × Doc)} {a : α} {t : String} (denoted : Denote ms ds) (distinct : (ownNames m.list ds).Nodup)
    (built : m.build (ds.lookup ·) = .ok a) (h : Extends (m.list.map (·.name)) ms ms') (spells : Spells ms' t) :
    readAll (m.read record) (Text.whole t) = .ok a := by
  obtain ⟨ds', es, denoted', perm, foreign⟩ := denoted_of_extends denoted h
  refine ((spells.isObject_iff.mpr denoted').readAll_iff plain.thorough record).mpr ⟨?_, ?_⟩
  · exact (ownNames_of_perm perm foreign).nodup_iff.mpr distinct
  · rw [← built]
    apply plain.local_
    intro x hx
    exact lookup_of_perm perm foreign distinct (List.mem_map_of_mem hx)

theorem tolerates {m : Members α} (plain : m.IsPlain) (record : String) :
    Tolerates (m.read record) (m.list.map (·.name)) where
  spelled := exists_spelled
  kept accepted spells h spells' := by
    obtain ⟨ds, object⟩ := isObject_of_readAll accepted spells.parse.1
    obtain ⟨distinct, built⟩ := (object.readAll_iff plain.thorough record).mp accepted
    exact plain.readAll_of_extends record (spells.isObject_iff.mp object) distinct built h spells'

def restated (name : String) (d : Doc) (ds : List (String × Doc)) : List (String × Doc) :=
  ds.map fun p => (p.1, if p.1 = name then d else p.2)

theorem denote_restate {ms : List (Label × Source)} {ds : List (String × Doc)} (denoted : Denote ms ds) (name : String)
    (v : Source) : Denote (ms.map (restate name v)) (restated name v.doc ds) := by
  refine List.forall₂_map_left_iff.mpr (List.forall₂_map_right_iff.mpr (denoted.imp ?_))
  rintro p q ⟨named, value⟩
  by_cases called : q.1 = name
  · have same : p.1.isCalled name = true := by simp [Label.isCalled, named, called]
    rw [restate, if_pos same, if_pos called]
    exact ⟨named, rfl⟩
  · have other : p.1.isCalled name = false := by simp [Label.isCalled, named, called]
    rw [restate, other, if_neg called]
    exact ⟨named, value⟩

theorem follows {n : Members (β → α)} {set : String → α → α} (plain : n.IsPlain) (name : String) (read : Reads β)
    (record : String) (fresh : name ∉ n.list.map (·.name))
    (taken : ∀ s, ∃ x, read (.string s) = .ok x ∧ ∀ values f, n.build values = .ok f → ∀ y, set s (f y) = f x) :
    Follows ((n <*> Members.required name read).read record)
      ((n <*> Members.required name read).list.map (·.name)) name set := by
  constructor
  intro t t' a ms ms' l s accepted spells text h spells'
  have whole := plain.seq (required name read)
  obtain ⟨ds, object⟩ := isObject_of_readAll accepted spells.parse.1
  obtain ⟨distinct, built⟩ := (object.readAll_iff whole.thorough record).mp accepted
  obtain ⟨f, y, first, last, rfl⟩ := build_seq.mp built
  obtain ⟨d, found, -⟩ := build_required.mp last
  obtain ⟨x, takes, follows⟩ := taken s
  have string : (Source.string l).doc = .string s := by rw [Source.doc, text]
  have denoted := denote_restate (spells.isObject_iff.mp object) name (.string l)
  rw [string] at denoted
  have lookup (k : String) : (restated name (.string s) ds).lookup k =
      (ds.lookup k).map fun d => if k = name then .string s else d :=
    lookup_map_values (fun k d => if k = name then .string s else d) k
  refine whole.readAll_of_extends record denoted ?_ ?_ h spells'
  · have names : (restated name (.string s) ds).map Prod.fst = ds.map Prod.fst := by simp [restated]
    rw [ownNames, names]
    exact distinct
  · have kept : n.build ((restated name (.string s) ds).lookup ·) = .ok f := by
      rw [← first]
      apply plain.local_
      intro m hm
      have other : m.name ≠ name := fun same => fresh (same ▸ List.mem_map_of_mem hm)
      rw [lookup]
      simp [other]
    have new : (Members.required name read).build ((restated name (.string s) ds).lookup ·) = .ok x := by
      refine build_required.mpr ⟨.string s, ?_, takes⟩
      rw [lookup, found]
      simp
    exact build_seq.mpr ⟨f, x, kept, new, (follows _ f first y).symm⟩

end Members.IsPlain

end AgentLedger.Json
