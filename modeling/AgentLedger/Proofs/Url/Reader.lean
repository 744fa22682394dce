import AgentLedger.Proofs.Url.Segments
import AgentLedger.Url.Reader
/-!
# Paths of URLs that are read

A path that is read has a segment at least, and no segment has a slash in it.
So the text of a path says its segments, and to leave out the slash at its end
is to leave out the empty segment behind it.
-/

namespace AgentLedger

namespace Text

theorem split_ne_nil (c : Char) (cs : List Char) : split c cs ≠ [] := by
  cases cs with
  | nil => simp [split]
  | cons d cs =>
    rw [split]
    split
    · simp
    · split <;> simp

theorem not_mem_split {c : Char} {cs : List Char} : ∀ piece ∈ split c cs, c ∉ piece := by
  induction cs with
  | nil => simp [split]
  | cons d cs ih =>
    rw [split]
    by_cases h : d = c
    · rw [if_pos h]
      exact List.forall_mem_cons.mpr ⟨by simp, ih⟩
    · rw [if_neg h]
      cases pieces : split c cs with
      | nil => exact absurd pieces (split_ne_nil c cs)
      | cons piece pieces' =>
        rw [pieces, List.forall_mem_cons] at ih
        refine List.forall_mem_cons.mpr ⟨?_, ih.2⟩
        rw [List.mem_cons, not_or]
        exact ⟨Ne.symm h, ih.1⟩

/-- What is not encoded does not come about by encoding. -/
theorem not_mem_percentEncoded_of_not_mem {encoded : Char → Bool} {d : Char} {cs : List Char} (h : d ∉ cs)
    (other : ∀ b : UInt8, d ∉ percentEncodedByte b) : d ∉ percentEncoded encoded cs := by
  intro hd
  obtain ⟨c, hc, hd⟩ := List.mem_flatMap.mp hd
  split at hd
  · obtain ⟨b, -, hb⟩ := List.mem_flatMap.mp hd
    exact other b hb
  · exact h (List.mem_singleton.mp hd ▸ hc)

end Text

namespace Url

structure IsPath (path : List (List Char)) : Prop where
  ne_nil : path ≠ []
  no_slash : ∀ s ∈ path, '/' ∉ s

theorem readSegments_no_slash (cs : List Char) : ∀ s ∈ readSegments cs, '/' ∉ s := by
  intro s hs
  obtain ⟨piece, hp, rfl⟩ := List.mem_map.mp hs
  exact Text.not_mem_percentEncoded_of_not_mem (Text.not_mem_split piece hp)
    (Text.not_mem_percentEncodedByte (by decide) (by decide))

theorem walk_isPath {path segments : List (List Char)} (h : ∀ s ∈ path, '/' ∉ s) (h' : ∀ s ∈ segments, '/' ∉ s)
    (some_ : segments ≠ []) : IsPath (walk path segments) := by
  have dropped {path : List (List Char)} (h : ∀ s ∈ path, '/' ∉ s) : ∀ s ∈ path.dropLast, '/' ∉ s :=
    fun s hs => h s (List.dropLast_subset path hs)
  have ended {path : List (List Char)} {s : List Char} (h : ∀ s ∈ path, '/' ∉ s) (hs : '/' ∉ s) : IsPath (path ++ [s]) :=
    ⟨by simp, List.forall_mem_append.mpr ⟨h, by simpa using hs⟩⟩
  fun_induction walk path segments with
  | case1 => exact absurd rfl some_
  | case2 path s _ => exact ended (dropped h) (by simp)
  | case3 path s _ _ => exact ended h (by simp)
  | case4 path s _ _ => exact ended h (h' s (by simp))
  | case5 path s rest more _ ih => exact ih (dropped h) (List.forall_mem_cons.mp h').2 more
  | case6 path s rest more _ _ ih => exact ih h (List.forall_mem_cons.mp h').2 more
  | case7 path s rest more _ _ ih =>
    rw [List.forall_mem_cons] at h'
    exact ih (ended h h'.1).no_slash h'.2 more

theorem ofAuthority_isPath {secure : Bool} {cs : List Char} {u : Url} (h : ofAuthority secure cs = .ok u) :
    IsPath u.path := by
  simp only [ofAuthority, bind, Except.bind, pure, Except.pure] at h
  repeat' split at h
  all_goals cases h
  all_goals exact walk_isPath (by simp) (readSegments_no_slash _) (by simp [readSegments, Text.split_ne_nil])

theorem read_isPath {s : String} {u : Url} (h : read s = .ok (some u)) : IsPath u.path := by
  unfold read at h
  split at h
  · cases h
  · split at h
    all_goals simp only [Except.map] at h
    all_goals repeat' split at h
    all_goals cases h
    all_goals exact ofAuthority_isPath (by assumption)

/-! ## Texts of paths -/

theorem pathChars_append (path added : List (List Char)) : pathChars (path ++ added) = pathChars path ++ pathChars added :=
  List.flatMap_append

def withoutSlash (cs : List Char) : List Char := if cs.getLast? = some '/' then cs.dropLast else cs

theorem openEnd_append_nil {path : List (List Char)} (some_ : path ≠ []) : openEnd (path ++ [[]]) = path := by
  obtain ⟨s, rest, reversed⟩ := List.exists_cons_of_ne_nil (List.reverse_ne_nil_iff.mpr some_)
  unfold openEnd
  rw [List.reverse_append, List.reverse_singleton, List.singleton_append, reversed]
  dsimp only
  rw [← reversed, List.reverse_reverse]

/-- Two slashes alone are the exception: both of them give way. -/
theorem pathChars_stem {path : List (List Char)} (h : IsPath path) (slashes : path ≠ [[], []]) :
    pathChars (stem path) = withoutSlash (pathChars path) := by
  obtain ⟨front, last, rfl⟩ : ∃ front last, path = front ++ [last] :=
    ⟨_, _, (List.dropLast_concat_getLast h.ne_nil).symm⟩
  have shown : pathChars (front ++ [last]) = pathChars front ++ '/' :: last := by simp [pathChars]
  unfold stem withoutSlash
  rw [shown]
  cases last with
  | nil =>
    -- The path ends in a slash, and that is what gives way.
    have ends : (pathChars front ++ ['/']).getLast? = some '/' := by simp
    rw [if_pos ends, List.dropLast_concat]
    cases front with
    | nil => rfl
    | cons s front =>
      have opened : openEnd (s :: front ++ [[]]) = s :: front := openEnd_append_nil (by simp)
      have proper : s :: front ≠ [[]] := fun e => slashes (by rw [e]; rfl)
      rw [opened, if_neg proper]
  | cons c cs =>
    have clean : '/' ∉ c :: cs := h.no_slash (c :: cs) (by simp)
    have ends : (pathChars front ++ '/' :: c :: cs).getLast? ≠ some '/' := by
      intro e
      rw [List.getLast?_append, List.getLast?_cons_cons] at e
      exact clean (List.mem_of_getLast? (by simpa using e))
    have opened : openEnd (front ++ [c :: cs]) = front ++ [c :: cs] := by simp [openEnd]
    have proper : front ++ [c :: cs] ≠ [[]] := by
      intro e
      have last := congrArg List.getLast? e
      rw [List.getLast?_append, List.getLast?_singleton] at last
      cases last
    rw [if_neg ends, opened, if_neg proper, shown]

end Url

end AgentLedger
