import Mathlib.Data.List.DropRight

/-!
# Repeated separators

A text falls into parts at a separator. Replacing pairs of separators by one until nothing changes,
and trimming both ends, leaves the parts that are not empty with one separator between them.
-/

namespace SeparatedText

variable {α : Type*} [DecidableEq α]

def parts (d : α) (s : List α) : List (List α) := (s.splitOn d).filter (fun part => part ≠ [])

/-- The parts with one separator between them. -/
def joined (d : α) (s : List α) : List α := [d].intercalate (parts d s)

/-- Replaces every pair of separators by one, from left to right. -/
def replacePairs (d : α) : List α → List α
  | [] => []
  | [c] => [c]
  | c :: c' :: s =>
      if c = d ∧ c' = d then d :: replacePairs d s else c :: replacePairs d (c' :: s)

variable {d : α}

theorem replacePairs_eq_or_shorter (s : List α) :
    replacePairs d s = s ∨ (replacePairs d s).length < s.length := by
  induction s using replacePairs.induct d with
  | case1 => exact Or.inl rfl
  | case2 c => exact Or.inl rfl
  | case3 c c' s h ih =>
      right
      rw [replacePairs, if_pos h]
      have hle : (replacePairs d s).length ≤ s.length := by
        rcases ih with ih | ih
        · rw [ih]
        · omega
      simp only [List.length_cons]
      omega
  | case4 c c' s h ih =>
      rw [replacePairs, if_neg h]
      rcases ih with ih | ih
      · exact Or.inl (congrArg (c :: ·) ih)
      · right
        simp only [List.length_cons] at ih ⊢
        omega

/-- Replaces pairs until nothing changes. -/
def settle (d : α) (s : List α) : List α :=
  if replacePairs d s = s then s else settle d (replacePairs d s)
termination_by s.length
decreasing_by
  next h => exact (replacePairs_eq_or_shorter s).resolve_left h

def trim (d : α) (s : List α) : List α := (s.dropWhile (· = d)).rdropWhile (· = d)

/-! ## The parts stay -/

variable {s : List α} {c : α}

theorem parts_nil : parts d ([] : List α) = [] := by
  simp [parts]

theorem parts_append_cons (front back : List α) :
    parts d (front ++ d :: back) = parts d front ++ parts d back := by
  simp [parts, List.splitOn_append_cons_self]

theorem parts_cons_self (s : List α) : parts d (d :: s) = parts d s := by
  have h := parts_append_cons (d := d) [] s
  rwa [parts_nil, List.nil_append, List.nil_append] at h

theorem parts_of_not_mem (h : d ∉ s) (hne : s ≠ []) : parts d s = [s] := by
  simp [parts, List.splitOn_eq_singleton h, hne]

theorem parts_intercalate {l : List (List α)} (h : ∀ part ∈ l, part ≠ [] ∧ d ∉ part) :
    parts d ([d].intercalate l) = l := by
  by_cases hl : l = []
  · rw [hl]
    exact parts_nil
  · rw [parts, List.splitOn_intercalate d (fun part hp => (h part hp).2) hl, List.filter_eq_self]
    intro part hp
    simpa using (h part hp).1

omit [DecidableEq α] in
theorem intercalate_concat {l : List (List α)} (hl : l ≠ []) (part : List α) :
    [d].intercalate (l ++ [part]) = [d].intercalate l ++ d :: part := by
  induction l with
  | nil => exact absurd rfl hl
  | cons first l ih =>
      by_cases hrest : l = []
      · subst hrest
        simp
      · have happend : l ++ [part] ≠ [] := List.append_ne_nil_of_left_ne_nil hrest _
        rw [List.cons_append, List.intercalate_cons_of_ne_nil happend, ih hrest,
          List.intercalate_cons_of_ne_nil hrest]
        simp only [List.append_assoc]

/-- Whatever stands before, a text and its replacement have the same parts. -/
theorem parts_append_replacePairs (front s : List α) :
    parts d (front ++ replacePairs d s) = parts d (front ++ s) := by
  induction s using replacePairs.induct d generalizing front with
  | case1 => rfl
  | case2 c => rfl
  | case3 c c' s h ih =>
      obtain ⟨rfl, rfl⟩ := h
      have hrest : parts c' (replacePairs c' s) = parts c' s := ih []
      rw [replacePairs, if_pos ⟨rfl, rfl⟩, parts_append_cons, parts_append_cons, hrest,
        parts_cons_self]
  | case4 c c' s h ih =>
      have hfront := ih (front ++ [c])
      rw [List.append_assoc, List.append_assoc] at hfront
      rw [replacePairs, if_neg h]
      exact hfront

theorem parts_settle (s : List α) : parts d (settle d s) = parts d s := by
  induction s using settle.induct d with
  | case1 s h => rw [settle, if_pos h]
  | case2 s h ih =>
      rw [settle, if_neg h, ih]
      exact parts_append_replacePairs [] s

/-! ## What is left -/

theorem settled_settle (s : List α) : replacePairs d (settle d s) = settle d s := by
  induction s using settle.induct d with
  | case1 s h =>
      rw [settle, if_pos h]
      exact h
  | case2 s h ih =>
      rw [settle, if_neg h]
      exact ih

theorem not_pair_of_settled {c' : α} (h : replacePairs d (c :: c' :: s) = c :: c' :: s) :
    ¬ (c = d ∧ c' = d) ∧ replacePairs d (c' :: s) = c' :: s := by
  rw [replacePairs] at h
  by_cases hpair : c = d ∧ c' = d
  · rw [if_pos hpair] at h
    have hlength := congrArg List.length h
    simp only [List.length_cons] at hlength
    rcases replacePairs_eq_or_shorter (d := d) s with hs | hs
    · rw [hs] at hlength
      omega
    · omega
  · rw [if_neg hpair] at h
    exact ⟨hpair, (List.cons.inj h).2⟩

omit [DecidableEq α] in
theorem rdropWhile_cons (p : α → Bool) (c : α) (s : List α) :
    (c :: s).rdropWhile p = if s.rdropWhile p = [] ∧ p c then [] else c :: s.rdropWhile p := by
  simp only [List.rdropWhile, List.reverse_cons, List.dropWhile_append, List.isEmpty_iff,
    List.reverse_eq_nil_iff]
  by_cases hs : List.dropWhile p s.reverse = []
  · by_cases hc : p c = true
    · simp [hs, hc]
    · simp [hs, hc]
  · simp [hs]

theorem rdropWhile_cons_of_ne (h : c ≠ d) (s : List α) :
    (c :: s).rdropWhile (· = d) = c :: s.rdropWhile (· = d) := by
  rw [rdropWhile_cons, if_neg]
  simp [h]

theorem joined_cons_cons {c' : α} (hc : c ≠ d) (hc' : c' ≠ d) (s : List α) :
    joined d (c :: c' :: s) = c :: joined d (c' :: s) := by
  obtain ⟨first, rest, hs⟩ := List.exists_cons_of_ne_nil (List.splitOn_ne_nil d s)
  have hshort : parts d (c' :: s) = (c' :: first) :: rest.filter (fun part => part ≠ []) := by
    simp [parts, List.splitOn_cons_eq_if_modifyHead, hc', hs]
  have hlong : parts d (c :: c' :: s) =
      (c :: c' :: first) :: rest.filter (fun part => part ≠ []) := by
    simp [parts, List.splitOn_cons_eq_if_modifyHead, hc, hc', hs]
  rw [joined, joined, hshort, hlong, List.intercalate_cons_cons_left]

/-- A settled text that begins with no separator is joined, up to a separator at its end. -/
theorem rdropWhile_eq_joined : ∀ s : List α, replacePairs d s = s → s.head? ≠ some d →
    s.rdropWhile (· = d) = joined d s
  | [], _, _ => by simp [joined, parts_nil]
  | [c], _, hhead => by
      have hc : c ≠ d := fun he => hhead (congrArg some he)
      have hparts : parts d [c] = [[c]] :=
        parts_of_not_mem (by simpa using hc.symm) (List.cons_ne_nil _ _)
      rw [rdropWhile_cons_of_ne hc, joined, hparts, List.intercalate_singleton, List.rdropWhile_nil]
  | c :: c' :: s, h, hhead => by
      have hc : c ≠ d := fun he => hhead (congrArg some he)
      obtain ⟨_, hrest⟩ := not_pair_of_settled h
      rw [rdropWhile_cons_of_ne hc]
      by_cases hc' : c' = d
      · obtain rfl : d = c' := hc'.symm
        have hparts : parts d (c :: d :: s) = [c] :: parts d s := by
          have hfirst : parts d [c] = [[c]] :=
            parts_of_not_mem (by simpa using hc.symm) (List.cons_ne_nil _ _)
          have hcut := parts_append_cons (d := d) [c] s
          rw [hfirst] at hcut
          exact hcut
        cases s with
        | nil => simp [rdropWhile_cons, joined, hparts, parts_nil]
        | cons b s =>
            obtain ⟨hpair, hlast⟩ := not_pair_of_settled hrest
            have hb : b ≠ d := fun he => hpair ⟨rfl, he⟩
            have ih := rdropWhile_eq_joined (b :: s) hlast (by simpa using hb)
            rw [rdropWhile_cons_of_ne hb] at ih
            have hne : parts d (b :: s) ≠ [] := by
              intro hnil
              rw [joined, hnil] at ih
              cases ih
            rw [rdropWhile_cons, if_neg (by simp [rdropWhile_cons, hb]), joined, hparts,
              List.intercalate_cons_of_ne_nil hne, rdropWhile_cons_of_ne hb, ih]
            rfl
      · rw [joined_cons_cons hc hc', rdropWhile_eq_joined (c' :: s) hrest (by simpa using hc')]

theorem parts_trim_front (s : List α) : parts d (s.dropWhile (· = d)) = parts d s := by
  induction s with
  | nil => rfl
  | cons c s ih =>
      by_cases hc : c = d
      · subst hc
        rw [List.dropWhile_cons_of_pos (by simp), ih, parts_cons_self]
      · rw [List.dropWhile_cons_of_neg (by simpa using hc)]

theorem settled_trim_front (h : replacePairs d s = s) :
    replacePairs d (s.dropWhile (· = d)) = s.dropWhile (· = d) := by
  induction s with
  | nil => rfl
  | cons c s ih =>
      by_cases hc : c = d
      · rw [List.dropWhile_cons_of_pos (by simpa using hc)]
        cases s with
        | nil => rfl
        | cons c' s => exact ih (not_pair_of_settled h).2
      · rw [List.dropWhile_cons_of_neg (by simpa using hc)]
        exact h

/-- Compressing and trimming joins the parts. -/
theorem trim_settle (s : List α) : trim d (settle d s) = joined d s := by
  have hhead : ((settle d s).dropWhile (· = d)).head? ≠ some d := by
    intro he
    have hnot := List.head?_dropWhile_not (fun c => decide (c = d)) (settle d s)
    rw [he] at hnot
    simp at hnot
  rw [trim, rdropWhile_eq_joined _ (settled_trim_front (settled_settle s)) hhead, joined,
    parts_trim_front, parts_settle]
  rfl

end SeparatedText
