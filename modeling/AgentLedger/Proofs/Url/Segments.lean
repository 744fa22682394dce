import AgentLedger.Proofs.Text.Percent
import AgentLedger.Url
/-!
# Segments that are added to a path

A text that is added becomes one segment, and decodes to itself, exactly if it
is carried: it is no single or double dots, and has no tabs or line breaks.
Any other text loses something: itself, the segment in front of it, or some of
its characters.
-/

namespace AgentLedger

/-- A text that becomes one segment of a path, be it an empty one. -/
structure IsCarried (s : String) : Prop where
  ne_dot : s ≠ "."
  ne_dots : s ≠ ".."
  one_line : ∀ c ∈ s.toList, c ≠ '\t' ∧ c ≠ '\n' ∧ c ≠ '\r'

instance (s : String) : Decidable (IsCarried s) :=
  decidable_of_iff (s ≠ "." ∧ s ≠ ".." ∧ s.toList.all (fun c => c ≠ '\t' ∧ c ≠ '\n' ∧ c ≠ '\r') = true) <| by
    simp only [List.all_eq_true, decide_eq_true_eq]
    exact ⟨fun ⟨dot, dots, line⟩ => ⟨dot, dots, line⟩, fun h => ⟨h.ne_dot, h.ne_dots, h.one_line⟩⟩

theorem not_isTabOrBreak {c : Char} : (!Url.isTabOrBreak c) = true ↔ c ≠ '\t' ∧ c ≠ '\n' ∧ c ≠ '\r' := by
  simp [Url.isTabOrBreak, and_assoc]

namespace Url

def sent (s : String) : List Char := Text.percentEncoded segmentEncoded s.toList

theorem percentDecoded_sent (s : String) : Text.percentDecoded (sent s) = Text.utf8 s.toList :=
  Text.percentDecoded_percentEncoded (by decide) s.toList

theorem sent_injective {s t : String} (h : sent s = sent t) : s = t := by
  have same := percentDecoded_sent s
  rw [h, percentDecoded_sent t] at same
  exact String.toList_injective (Text.utf8_injective same.symm)

theorem not_mem_sent {d : Char} (encoded : segmentEncoded d = true) (sign : d ≠ '%') (mark : d.isAlphanum = false)
    (s : String) : d ∉ sent s :=
  Text.not_mem_percentEncoded encoded (Text.not_mem_percentEncodedByte sign mark) s.toList

theorem sent_ne_nil {s : String} (h : s ≠ "") : sent s ≠ [] := by
  refine Text.percentEncoded_ne_nil fun empty => h ?_
  rw [← String.ofList_toList (s := s), empty]

/-! ## Carried texts -/

theorem addSegment_eq {s : String} (h : IsCarried s) (path : List (List Char)) : addSegment path s = pushed path (sent s) := by
  have all : s.toList.filter (!isTabOrBreak ·) = s.toList :=
    List.filter_eq_self.mpr fun c hc => not_isTabOrBreak.mpr (h.one_line c hc)
  have dots : s.toList ≠ ['.', '.'] := fun e => h.ne_dots (by rw [← String.ofList_toList (s := s), e])
  have dot : s.toList ≠ ['.'] := fun e => h.ne_dot (by rw [← String.ofList_toList (s := s), e])
  unfold addSegment
  simp only [h.ne_dot, h.ne_dots, or_false, if_false, all, dots, dot]
  rfl

theorem addSegments_eq {segments : List String} (h : ∀ s ∈ segments, IsCarried s) {path : List (List Char)}
    (some_ : path ≠ []) (root : path ≠ [[]]) : segments.foldl addSegment path = path ++ segments.map sent := by
  induction segments generalizing path with
  | nil => simp
  | cons s segments ih =>
    rw [List.forall_mem_cons] at h
    have grown : path ++ [sent s] ≠ [[]] := by
      intro e
      have length := congrArg List.length e
      have := List.length_pos_iff.mpr some_
      simp only [List.length_append, List.length_singleton] at length
      omega
    rw [List.foldl_cons, addSegment_eq h.1, pushed, if_neg root, ih h.2 (by simp) grown, List.append_assoc]
    rfl

/-- The segments that others are added behind: the path without its trailing slash. -/
def stem (path : List (List Char)) : List (List Char) := if openEnd path = [[]] then [] else openEnd path

theorem addSegment_openEnd {word : String} (h : IsCarried word) (path : List (List Char)) :
    addSegment (openEnd path) word = stem path ++ [sent word] := by
  rw [addSegment_eq h, pushed, stem]
  split <;> rfl

/-- Behind a word, carried texts become the segments that follow it. -/
theorem extend_path {u : Url} {word : String} (h : IsCarried word) (named : word ≠ "") {segments : List String}
    (carried : ∀ s ∈ segments, IsCarried s) :
    (u.extend (word :: segments)).path = stem u.path ++ (word :: segments).map sent := by
  have root : stem u.path ++ [sent word] ≠ [[]] := by
    intro e
    have last := congrArg List.getLast? e
    rw [List.getLast?_append, List.getLast?_singleton] at last
    exact sent_ne_nil named (Option.some.inj last)
  show (word :: segments).foldl addSegment (openEnd u.path) = _
  rw [List.foldl_cons, addSegment_openEnd h, addSegments_eq carried (by simp) root, List.append_assoc]
  rfl

/-! ## Texts that lose something -/

theorem isCarried_of_filter {s : String} (dot : s ≠ ".") (dots : s ≠ "..")
    (h : s.toList.filter (!isTabOrBreak ·) = s.toList) : IsCarried s :=
  ⟨dot, dots, fun c hc => not_isTabOrBreak.mp (List.filter_eq_self.mp h c hc)⟩

/-- Adding a text makes a path no longer, or puts one segment behind it that decodes to the text only if the text is
carried. -/
theorem addSegment_cases {path : List (List Char)} (some_ : path ≠ []) (s : String) :
    addSegment path s ≠ [] ∧ ((addSegment path s).length ≤ path.length ∨
      ∃ segment, addSegment path s = path ++ [segment] ∧
        (Text.percentDecoded segment = Text.utf8 s.toList → IsCarried s)) := by
  have length := List.length_pos_iff.mpr some_
  have push (segment : List Char) (h : Text.percentDecoded segment = Text.utf8 s.toList → IsCarried s) :
      pushed path segment ≠ [] ∧ ((pushed path segment).length ≤ path.length ∨
        ∃ x, pushed path segment = path ++ [x] ∧ (Text.percentDecoded x = Text.utf8 s.toList → IsCarried s)) := by
    unfold pushed
    split
    · exact ⟨by simp, .inl length⟩
    · exact ⟨by simp, .inr ⟨segment, rfl, h⟩⟩
  unfold addSegment
  by_cases dots : s = "." ∨ s = ".."
  · rw [if_pos dots]
    exact ⟨some_, .inl (Nat.le_refl _)⟩
  rw [if_neg dots]
  rw [not_or] at dots
  dsimp only
  generalize hc : s.toList.filter (!isTabOrBreak ·) = cs
  split
  · refine ⟨by simp, .inl ?_⟩
    have short : (pushed path []).length ≤ path.length + 1 := by
      unfold pushed
      split <;> simp
    simp only [List.length_append, List.length_dropLast, List.length_singleton]
    omega
  · split
    · -- A single dot that comes about leaves an empty segment.
      rename_i dot
      refine push [] fun e => ?_
      have nothing : Text.utf8 [] = Text.utf8 s.toList := e
      have empty : s.toList = [] := (Text.utf8_injective nothing).symm
      rw [empty, dot] at hc
      cases hc
    · refine push _ fun e => isCarried_of_filter dots.1 dots.2 ?_
      rw [Text.percentDecoded_percentEncoded (by decide)] at e
      rw [hc, Text.utf8_injective e]

theorem length_addSegments_le {path : List (List Char)} (some_ : path ≠ []) (segments : List String) :
    (segments.foldl addSegment path).length ≤ path.length + segments.length := by
  induction segments generalizing path with
  | nil => simp
  | cons s segments ih =>
    obtain ⟨next, step⟩ := addSegment_cases some_ s
    have rest := ih next
    rw [List.foldl_cons, List.length_cons]
    rcases step with step | ⟨segment, step, -⟩
    · omega
    · rw [step, List.length_append, List.length_singleton] at rest
      rw [step]
      omega

/-- A path that grew by as many segments as texts were added was appended to by each of them. -/
theorem addSegments_of_length {path : List (List Char)} (some_ : path ≠ []) {segments : List String}
    (full : path.length + segments.length ≤ (segments.foldl addSegment path).length) :
    ∃ added, segments.foldl addSegment path = path ++ added ∧
      (added.map Text.percentDecoded = segments.map (fun s => Text.utf8 s.toList) → ∀ s ∈ segments, IsCarried s) := by
  induction segments generalizing path with
  | nil => exact ⟨[], by simp, by simp⟩
  | cons s segments ih =>
    obtain ⟨next, step⟩ := addSegment_cases some_ s
    rw [List.foldl_cons, List.length_cons] at full
    have rest := length_addSegments_le next segments
    rcases step with step | ⟨segment, step, carried⟩
    · omega
    · rw [List.foldl_cons]
      rw [step] at full next ⊢
      obtain ⟨added, all, spelled⟩ := ih next (by rw [List.length_append, List.length_singleton]; omega)
      refine ⟨segment :: added, by rw [all, List.append_assoc]; rfl, fun e => ?_⟩
      rw [List.map_cons, List.map_cons, List.cons.injEq] at e
      exact List.forall_mem_cons.mpr ⟨carried e.1, spelled e.2⟩

/-- The path grows by one segment for each text, which decodes to it, exactly if all of them are carried. -/
theorem extend_spells_iff {u : Url} {word : String} (h : IsCarried word) (named : word ≠ "") (segments : List String) :
    (∃ added, (u.extend (word :: segments)).path = stem u.path ++ added ∧
      added.map Text.percentDecoded = (word :: segments).map fun s => Text.utf8 s.toList) ↔
      ∀ s ∈ segments, IsCarried s := by
  constructor
  · rintro ⟨added, path, spelled⟩
    have start : (u.extend (word :: segments)).path = segments.foldl addSegment (stem u.path ++ [sent word]) := by
      rw [← addSegment_openEnd h]
      rfl
    have length := congrArg List.length spelled
    rw [List.length_map, List.length_map, List.length_cons] at length
    rw [start] at path
    have some_ : stem u.path ++ [sent word] ≠ [] := by simp
    have full : (stem u.path ++ [sent word]).length + segments.length ≤
        (segments.foldl addSegment (stem u.path ++ [sent word])).length := by
      rw [path]
      simp only [List.length_append, List.length_singleton]
      omega
    obtain ⟨rest, all, carried⟩ := addSegments_of_length some_ full
    rw [path, List.append_assoc, List.append_cancel_left_eq] at all
    subst all
    exact carried (List.cons.inj spelled).2
  · intro carried
    refine ⟨_, extend_path h named carried, ?_⟩
    rw [List.map_map]
    exact List.map_congr_left fun s _ => percentDecoded_sent s

end Url

end AgentLedger
