import AgentLedger.Proofs.Url.Segments
import AgentLedger.Service.Route
/-!
# Paths lead to their routes

The segments that a client adds to the common path of the API arrive at the
service one by one, and a parameter is decoded to the text that was added. A
URL has no way to say a segment of single or double dots, or one with tabs or
line breaks.
-/

namespace AgentLedger

/-! ## Segments -/

structure IsSegment (s : String) : Prop where
  ne_empty : s ≠ ""
  ne_dot : s ≠ "."
  ne_dots : s ≠ ".."
  one_line : ∀ c ∈ s.toList, c ≠ '\t' ∧ c ≠ '\n' ∧ c ≠ '\r'

instance (s : String) : Decidable (IsSegment s) :=
  decidable_of_iff (s ≠ "" ∧ s ≠ "." ∧ s ≠ ".." ∧ s.toList.all (fun c => c ≠ '\t' ∧ c ≠ '\n' ∧ c ≠ '\r') = true) <| by
    simp only [List.all_eq_true, decide_eq_true_eq]
    exact ⟨fun ⟨empty, dot, dots, line⟩ => ⟨empty, dot, dots, line⟩,
      fun h => ⟨h.ne_empty, h.ne_dot, h.ne_dots, h.one_line⟩⟩

theorem IsSegment.isCarried {s : String} (h : IsSegment s) : IsCarried s := ⟨h.ne_dot, h.ne_dots, h.one_line⟩

/-! ## Cutting a path up -/

namespace Text

theorem split_append {c : Char} {s t p : List Char} {ps : List (List Char)} (h : c ∉ s) (ht : split c t = p :: ps) :
    split c (s ++ t) = (s ++ p) :: ps := by
  induction s with
  | nil => exact ht
  | cons d s ih =>
    rw [List.mem_cons, not_or] at h
    rw [List.cons_append, split, if_neg (Ne.symm h.1), ih h.2]
    rfl

end Text

namespace Service.Route

theorem split_pathChars {path : List (List Char)} (h : ∀ s ∈ path, '/' ∉ s) :
    Text.split '/' (Url.pathChars path) = [] :: path := by
  induction path with
  | nil => rfl
  | cons s path ih =>
    rw [List.forall_mem_cons] at h
    have rest := Text.split_append h.1 (ih h.2)
    rw [List.append_nil] at rest
    rw [Url.pathChars, List.flatMap_cons, ← Url.pathChars, List.cons_append, Text.split, if_pos rfl, rest]

theorem takeWhile_target {path : List (List Char)} (h : ∀ s ∈ path, '?' ∉ s ∧ '#' ∉ s) (query : Option (List Char)) :
    (Url.pathChars path ++ Url.queryChars query).takeWhile (fun c => c ≠ '?' ∧ c ≠ '#') = Url.pathChars path := by
  have inside : ∀ c ∈ Url.pathChars path, decide (c ≠ '?' ∧ c ≠ '#') = true := by
    intro c hc
    obtain ⟨s, hs, hc⟩ := List.mem_flatMap.mp hc
    rw [decide_eq_true_eq]
    rcases List.mem_cons.mp hc with rfl | hc
    · decide
    · constructor
      · rintro rfl; exact (h s hs).1 hc
      · rintro rfl; exact (h s hs).2 hc
  rw [List.takeWhile_append_of_pos inside]
  cases query <;> simp [Url.queryChars]

def apiPath : List (List Char) := [['a', 'p', 'i'], ['v', '1']]

/-- Segments that are added to the common path arrive as they were sent. -/
theorem ofTarget?_extend {u : Url} (base : Url.openEnd u.path = apiPath) {segments : List String}
    (h : ∀ s ∈ segments, IsSegment s) :
    ofTarget? (u.extend segments).target = ofApiSegments? (segments.map fun s => String.ofList (Url.sent s)) := by
  have path : (u.extend segments).path = apiPath ++ segments.map Url.sent := by
    show segments.foldl Url.addSegment (Url.openEnd u.path) = _
    rw [base, Url.addSegments_eq (fun s hs => (h s hs).isCarried) (by decide) (by decide)]
  have clean {d : Char} (fixed : ∀ s ∈ apiPath, d ∉ s) (encoded : Url.segmentEncoded d = true) (sign : d ≠ '%')
      (mark : d.isAlphanum = false) : ∀ s ∈ apiPath ++ segments.map Url.sent, d ∉ s := by
    intro s hs
    rcases List.mem_append.mp hs with hs | hs
    · exact fixed s hs
    · obtain ⟨t, -, rfl⟩ := List.mem_map.mp hs
      exact Url.not_mem_sent encoded sign mark t
  have slash := clean (d := '/') (by decide) (by decide) (by decide) (by decide)
  have question := clean (d := '?') (by decide) (by decide) (by decide) (by decide)
  have hash := clean (d := '#') (by decide) (by decide) (by decide) (by decide)
  have cut := takeWhile_target (fun s hs => ⟨question s hs, hash s hs⟩) (u.extend segments).query
  have front : ([] :: apiPath).map String.ofList = ["", "api", "v1"] := by decide
  unfold ofTarget? Url.target Url.targetChars
  rw [String.toList_ofList, path, cut]
  dsimp only
  rw [split_pathChars slash, ← List.cons_append, List.map_append, List.map_map, front]
  rfl

def words : List String := ["wallets", "balances", "channels", "payments"]

theorem isSegment_word : ∀ s ∈ words, IsSegment s := by decide

theorem sent_word : ∀ s ∈ words, String.ofList (Url.sent s) = s := by decide

theorem parameter_sent (name s : String) : parameter name (String.ofList (Url.sent s)) = .ok s := by
  unfold parameter
  rw [String.toList_ofList, Url.percentDecoded_sent, Text.decode_utf8, Text.strict?_some]
  exact congrArg _ String.ofList_toList

theorem ofList_sent_ne_empty {s : String} (h : s ≠ "") : String.ofList (Url.sent s) ≠ "" := by
  intro empty
  refine Url.sent_ne_nil h ?_
  rw [← String.toList_ofList (l := Url.sent s), empty]
  rfl

end Service.Route

end AgentLedger
