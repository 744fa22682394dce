import Mathlib.Algebra.Order.Ring.Nat
import AgentLedger.Proofs.Amounts
/-!
# Look-up behind a write

A write by key changes the record that a look-up by that key finds, and every
other look-up finds what it found before. Sums over the records change by what
the one record changes.
-/

namespace AgentLedger

/-! ## Lists of records -/

section
variable {α β γ : Type} {p : α → Bool} {f : α → α} {as : List α}

theorem updateFirst_of_find?_none (h : as.find? p = none) : updateFirst p f as = as := by
  induction as with
  | nil => rfl
  | cons a as ih =>
    rw [List.find?_cons] at h
    cases hp : p a with
    | true => rw [hp] at h; cases h
    | false => rw [hp] at h; simp [updateFirst, hp, ih h]

theorem updateFirst_id : updateFirst p id as = as := by
  induction as with
  | nil => rfl
  | cons a as ih => rw [updateFirst, ih]; split <;> rfl

theorem updateFirst_congr {a : α} {g : α → α} (h : as.find? p = some a) (hg : f a = g a) :
    updateFirst p f as = updateFirst p g as := by
  induction as with
  | nil => rfl
  | cons b as ih =>
    rw [List.find?_cons] at h
    cases hp : p b with
    | true => rw [hp] at h; cases h; simp [updateFirst, hp, hg]
    | false => rw [hp] at h; simp [updateFirst, hp, ih h]

theorem find?_append_of_some {a : α} (h : as.find? p = some a) (bs : List α) : (as ++ bs).find? p = some a := by
  rw [List.find?_append, h, Option.some_or]

theorem find?_updateFirst [DecidableEq β] (key : α → β) (hf : ∀ a, key (f a) = key a) (x y : β) :
    (updateFirst (key · == x) f as).find? (key · == y) =
      if y = x then (as.find? (key · == y)).map f else as.find? (key · == y) := by
  induction as with
  | nil => simp [updateFirst]
  | cons a as ih =>
    rw [updateFirst]
    by_cases hx : key a = x
    · subst hx
      simp only [beq_self_eq_true, ite_true, List.find?_cons, hf]
      by_cases hy : y = key a
      · subst hy; simp
      · have hy' : (key a == y) = false := beq_eq_false_iff_ne.mpr (Ne.symm hy)
        simp [hy, hy']
    · by_cases hy : key a = y
      · subst hy; simp [hx]
      · simp only [beq_iff_eq, hx, if_false, List.find?_cons, beq_eq_false_iff_ne.mpr hy, ih]

theorem map_updateFirst {g : α → γ} (hg : ∀ a, p a = true → g (f a) = g a) : (updateFirst p f as).map g = as.map g := by
  induction as with
  | nil => rfl
  | cons a as ih =>
    rw [updateFirst]
    split
    · rename_i h; simp [hg a h]
    · simp [ih]

theorem forall_updateFirst {P : α → Prop} (h : ∀ a ∈ as, P a) (hf : ∀ a, as.find? p = some a → P (f a)) :
    ∀ a ∈ updateFirst p f as, P a := by
  induction as with
  | nil => exact h
  | cons a as ih =>
    rw [List.forall_mem_cons] at h
    rw [updateFirst]
    cases hp : p a with
    | true => exact List.forall_mem_cons.mpr ⟨hf a (List.find?_cons_of_pos hp), h.2⟩
    | false =>
      refine List.forall_mem_cons.mpr ⟨h.1, ih h.2 fun b hb => hf b ?_⟩
      rwa [List.find?_cons_of_neg (by simp [hp])]

theorem filter_updateFirst {q : α → Bool} (h : ∀ a, as.find? p = some a → q a = false ∧ q (f a) = false) :
    (updateFirst p f as).filter q = as.filter q := by
  induction as with
  | nil => rfl
  | cons a as ih =>
    rw [updateFirst]
    cases hp : p a with
    | true =>
      obtain ⟨before, after⟩ := h a (List.find?_cons_of_pos hp)
      simp [before, after]
    | false =>
      have rest := ih fun b hb => h b (by rwa [List.find?_cons_of_neg (by simp [hp])])
      simp only [Bool.false_eq_true, if_false, List.filter_cons, rest]

/-- Two writes commute where they are on different records, or where the changes themselves commute. -/
theorem updateFirst_comm [DecidableEq β] (key : α → β) {g : α → α} (hf : ∀ a, key (f a) = key a)
    (hg : ∀ a, key (g a) = key a) {x y : β} (same : x = y → ∀ a, f (g a) = g (f a)) :
    updateFirst (key · == x) f (updateFirst (key · == y) g as) =
      updateFirst (key · == y) g (updateFirst (key · == x) f as) := by
  induction as with
  | nil => rfl
  | cons a as ih =>
    by_cases hx : key a = x
    · subst hx
      by_cases hy : key a = y
      · subst hy
        simp [updateFirst, hf, hg, same rfl a]
      · simp [updateFirst, hf, hy]
    · by_cases hy : key a = y
      · subst hy
        simp [updateFirst, hg, hx]
      · simp [updateFirst, hx, hy, ih]

/-- Seen through `g`, a write by `f` is one by `f'`. -/
theorem map_updateFirst_hom [DecidableEq β] (g : α → γ) (key : α → β) (key' : γ → β) {f' : γ → γ}
    (hk : ∀ a, key' (g a) = key a) (hf : ∀ a, g (f a) = f' (g a)) (x : β) :
    (updateFirst (key · == x) f as).map g = updateFirst (key' · == x) f' (as.map g) := by
  induction as with
  | nil => rfl
  | cons a as ih =>
    rw [updateFirst, List.map_cons, updateFirst, hk]
    cases key a == x with
    | true => simp [hf]
    | false => simp [ih]

theorem sum_updateFirst (m : α → Nat) {a : α} (h : as.find? p = some a) :
    ((updateFirst p f as).map m).sum + m a = (as.map m).sum + m (f a) := by
  induction as with
  | nil => cases h
  | cons b as ih =>
    rw [List.find?_cons] at h
    rw [updateFirst]
    cases hp : p b with
    | true =>
      rw [hp] at h
      cases h
      simp only [ite_true, List.map_cons, List.sum_cons]; omega
    | false =>
      rw [hp] at h
      have := ih h
      simp only [Bool.false_eq_true, ite_false, List.map_cons, List.sum_cons]; omega

theorem le_sum_of_find? (m : α → Nat) {a : α} (h : as.find? p = some a) : m a ≤ (as.map m).sum := by
  induction as with
  | nil => cases h
  | cons b as ih =>
    rw [List.find?_cons] at h
    rw [List.map_cons, List.sum_cons]
    cases hp : p b with
    | true => rw [hp] at h; cases h; omega
    | false => rw [hp] at h; have := ih h; omega

end

/-! ## Wallets -/

namespace Wallet

theorem holding?_updateHolding (w : Wallet) {f : Holding → Holding} (hf : ∀ h, (f h).asset = h.asset) (a b : Asset) :
    (w.updateHolding a f).holding? b = if b = a then (w.holding? b).map f else w.holding? b :=
  find?_updateFirst Holding.asset hf a b

theorem updateHolding_comm (w : Wallet) {f g : Holding → Holding} (hf : ∀ h, (f h).asset = h.asset)
    (hg : ∀ h, (g h).asset = h.asset) {a b : Asset} (same : a = b → ∀ h, f (g h) = g (f h)) :
    (w.updateHolding b g).updateHolding a f = (w.updateHolding a f).updateHolding b g :=
  congrArg (fun hs => { w with holdings := hs }) (updateFirst_comm Holding.asset hf hg same)

theorem asset_of_holding? {w : Wallet} {a : Asset} {h : Holding} (hh : w.holding? a = some h) : h.asset = a := by
  simpa using List.find?_some hh

@[simp] theorem receive_agent (now : Timestamp) (a : Asset) (x : Amount) (d : UInt8) (w : Wallet) :
    (w.receive now a x d).agent = w.agent := by
  unfold receive; split <;> rfl

/-- Where the asset is held, receiving is a write on its holding. -/
theorem receive_of_holding? {w : Wallet} {a : Asset} {h : Holding} (hh : w.holding? a = some h)
    (now : Timestamp) (x : Amount) (d : UInt8) :
    w.receive now a x d = w.updateHolding a (Holding.receive now x) := by
  simp [receive, hh]

@[simp] theorem countRead_agent (w : Wallet) : w.countRead.agent = w.agent := by
  unfold countRead; split <;> rfl

@[simp] theorem countRead_holdings (w : Wallet) : w.countRead.holdings = w.holdings := by
  unfold countRead; split <;> rfl

end Wallet

/-! ## The ledger -/

namespace Ledger
variable (l : Ledger) (agent id : String)

theorem wallet?_updateWallet (f : Wallet → Wallet) (b : String) :
    (l.updateWallet agent f).wallet? b = if b = agent then (l.wallet? b).map f else l.wallet? b := by
  unfold wallet? updateWallet
  dsimp only
  rw [find?_updateFirst (f := Prod.map id f) Prod.fst fun _ => rfl]
  split
  · rw [Option.map_map, Option.map_map]
    rfl
  · rfl

theorem channel?_updateChannel {f : Channel → Channel} (hf : ∀ c, (f c).id = c.id) (i : String) :
    (l.updateChannel id f).channel? i = if i = id then (l.channel? i).map f else l.channel? i :=
  find?_updateFirst Channel.id hf id i

theorem updateWallet_comm {f g : Wallet → Wallet} {a b : String} (same : a = b → ∀ w, f (g w) = g (f w)) :
    (l.updateWallet b g).updateWallet a f = (l.updateWallet a f).updateWallet b g :=
  congrArg (fun fs => { l with files := fs }) (updateFirst_comm (f := Prod.map id f) (g := Prod.map id g) Prod.fst
    (fun _ => rfl) (fun _ => rfl) fun here p => congrArg (p.1, ·) (same here p.2))

theorem updateChannel_comm {f g : Channel → Channel} (hf : ∀ c, (f c).id = c.id) (hg : ∀ c, (g c).id = c.id)
    {i j : String} (apart : i ≠ j) :
    (l.updateChannel i f).updateChannel j g = (l.updateChannel j g).updateChannel i f :=
  congrArg (fun cs => { l with channels := cs })
    (updateFirst_comm Channel.id hg hf fun same => absurd same.symm apart)

variable {l agent id}

theorem wallet?_eq_none : l.wallet? agent = none ↔ l.files.find? (·.1 == agent) = none := Option.map_eq_none_iff

theorem wallet?_eq_some {w : Wallet} :
    l.wallet? agent = some w ↔ l.files.find? (·.1 == agent) = some (agent, w) := by
  constructor
  · intro h
    obtain ⟨⟨name, v⟩, found, rfl⟩ := Option.map_eq_some_iff.mp h
    have named : name = agent := by simpa using List.find?_some found
    rw [found, named]
  · intro found
    rw [wallet?, found]
    rfl

theorem updateWallet_of_none {f : Wallet → Wallet} (h : l.wallet? agent = none) : l.updateWallet agent f = l := by
  unfold updateWallet; rw [updateFirst_of_find?_none (wallet?_eq_none.mp h)]

theorem updateWallet_congr {f g : Wallet → Wallet} {w : Wallet} (hw : l.wallet? agent = some w) (h : f w = g w) :
    l.updateWallet agent f = l.updateWallet agent g := by
  have key := updateFirst_congr (f := Prod.map id f) (g := Prod.map id g) (wallet?_eq_some.mp hw)
    (congrArg (agent, ·) h)
  unfold updateWallet
  rw [key]

theorem map_updateWallet {β : Type} {f : Wallet → Wallet} {g : Wallet → β} (hf : ∀ w, g (f w) = g w) :
    (l.updateWallet agent f).wallets.map g = l.wallets.map g := by
  unfold wallets updateWallet
  rw [List.map_map, List.map_map]
  exact map_updateFirst fun p _ => hf p.2

theorem sum_updateWallet (m : Wallet → Nat) (f : Wallet → Wallet) {w : Wallet} (hw : l.wallet? agent = some w) :
    ((l.updateWallet agent f).wallets.map m).sum + m w = (l.wallets.map m).sum + m (f w) := by
  have key := sum_updateFirst (f := Prod.map id f) (fun p : String × Wallet => m p.2) (wallet?_eq_some.mp hw)
  unfold wallets updateWallet
  rwa [List.map_map, List.map_map]

theorem le_sum_of_wallet? (m : Wallet → Nat) {w : Wallet} (hw : l.wallet? agent = some w) :
    m w ≤ (l.wallets.map m).sum := by
  have key := le_sum_of_find? (fun p : String × Wallet => m p.2) (wallet?_eq_some.mp hw)
  unfold wallets
  rwa [List.map_map]

theorem id_of_channel? {c : Channel} (h : l.channel? id = some c) : c.id = id := by
  simpa using List.find?_some h

theorem mem_files_of_wallet? {w : Wallet} (h : l.wallet? agent = some w) : (agent, w) ∈ l.files :=
  List.mem_of_find?_eq_some (wallet?_eq_some.mp h)

theorem mem_of_wallet? {w : Wallet} (h : l.wallet? agent = some w) : w ∈ l.wallets :=
  List.mem_map_of_mem (mem_files_of_wallet? h)

theorem mem_of_channel? {c : Channel} (h : l.channel? id = some c) : c ∈ l.channels := List.mem_of_find?_eq_some h

/-! ## The checks of the operations -/

theorem findWallet_eq_ok {w : Wallet} : l.findWallet agent = .ok w ↔ l.wallet? agent = some w := by
  unfold findWallet
  split <;> simp_all

theorem findHolding_eq_ok {a : Asset} {h : Holding} :
    l.findHolding agent a = .ok h ↔ ∃ w, l.wallet? agent = some w ∧ w.holding? a = some h := by
  unfold findHolding
  cases hw : l.wallet? agent with
  | none => simp [findWallet, hw]
  | some w => cases hh : w.holding? a <;> simp [findWallet, hw, hh]

theorem balance_eq_ok {x : Asset} {a : Amount} :
    balance agent x l = .ok a ↔ ∃ w h, l.wallet? agent = some w ∧ w.holding? x = some h ∧ h.amount = a := by
  unfold balance
  constructor
  · intro h
    split at h
    · cases h
    · rename_i hd hh
      obtain ⟨w, found, held⟩ := findHolding_eq_ok.mp hh
      cases h
      exact ⟨w, hd, found, held, rfl⟩
  · rintro ⟨w, h, found, held, rfl⟩
    rw [findHolding_eq_ok.mpr ⟨w, found, held⟩]

theorem findOwned_eq_ok {c : Channel} :
    l.findOwned id agent = .ok c ↔ l.channel? id = some c ∧ c.owner = agent ∧ c.closed = false := by
  unfold findOwned
  cases hc : l.channel? id with
  | none => simp
  | some d =>
    by_cases ho : d.owner = agent
    · cases hd : d.closed
      · simp only [ho, hd, ne_eq, not_true, if_false, Bool.false_eq_true, Except.ok.injEq, Option.some.injEq]
        constructor
        · rintro rfl; exact ⟨rfl, ho, hd⟩
        · rintro ⟨rfl, -, -⟩; rfl
      · simp only [ho, hd, ne_eq, not_true, if_false, if_true, Option.some.injEq]
        constructor
        · intro h; cases h
        · rintro ⟨rfl, -, hc'⟩; rw [hd] at hc'; cases hc'
    · simp only [ne_eq, ho, not_false_iff, if_true, Option.some.injEq]
      constructor
      · intro h; cases h
      · rintro ⟨rfl, ho', -⟩; exact absurd ho' ho

theorem readPositive_eq_ok {raw : String} {a : Amount} :
    readPositive raw = .ok a ↔ readAmount raw = .ok a ∧ 0 < a.units := by
  unfold readPositive
  cases hr : readAmount raw with
  | error e => simp
  | ok b =>
    by_cases hb : b.units = 0
    · simp only [hb, if_true, Except.ok.injEq]
      constructor
      · intro h; cases h
      · rintro ⟨rfl, h⟩; omega
    · simp only [hb, if_false, Except.ok.injEq]
      constructor
      · rintro rfl; exact ⟨rfl, by omega⟩
      · rintro ⟨h, -⟩; exact h

end Ledger

end AgentLedger
