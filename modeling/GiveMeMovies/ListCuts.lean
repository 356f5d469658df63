import Mathlib.Data.List.DropRight
import Mathlib.Data.List.TakeWhile

/-!
# Cutting a list at a symbol

A list is cut at the first or at the last place where a symbol stands in it. A list of blocks is cut
at a block as the list of what is in the blocks is cut at a symbol that stands there alone.
-/

namespace ListCuts

variable {α : Type*} [DecidableEq α] {d : α} {s : List α}

def before (d : α) (s : List α) : List α := s.takeWhile (· ≠ d)

def after (d : α) (s : List α) : List α := (s.dropWhile (· ≠ d)).drop 1

def beforeLast (d : α) (s : List α) : List α := (s.rdropWhile (· ≠ d)).dropLast

def afterLast (d : α) (s : List α) : List α := s.rtakeWhile (· ≠ d)

theorem forall_ne (h : d ∉ s) : ∀ c ∈ s, decide (c ≠ d) = true := by
  intro c hc
  apply decide_eq_true
  rintro rfl
  exact h hc

/-! ## The first place -/

theorem before_cut (h : d ∉ s) (r : List α) : before d (s ++ d :: r) = s := by
  rw [before, List.takeWhile_append_of_pos (forall_ne h)]
  simp

theorem after_cut (h : d ∉ s) (r : List α) : after d (s ++ d :: r) = r := by
  rw [after, List.dropWhile_append_of_pos (forall_ne h)]
  simp

theorem before_whole (h : d ∉ s) : before d s = s :=
  List.takeWhile_eq_self_iff.mpr (forall_ne h)

theorem after_whole (h : d ∉ s) : after d s = [] := by
  rw [after, List.dropWhile_eq_nil_iff.mpr (forall_ne h)]
  rfl

theorem before_subset : before d s ⊆ s := (List.takeWhile_prefix _).subset

theorem cut_of_mem (h : d ∈ s) : before d s ++ d :: after d s = s := by
  induction s with
  | nil => cases h
  | cons c s ih =>
      by_cases hc : c = d
      · subst hc
        simp [before, after]
      · have hmem : d ∈ s := by
          rcases List.mem_cons.mp h with heq | hmem
          · exact absurd heq.symm hc
          · exact hmem
        have hbefore : before d (c :: s) = c :: before d s := by simp [before, hc]
        have hafter : after d (c :: s) = after d s := by simp [after, hc]
        rw [hbefore, hafter, List.cons_append, ih hmem]

/-! ## The last place -/

theorem afterLast_eq_reverse : afterLast d s = (before d s.reverse).reverse := by
  rw [afterLast, before, ← List.rtakeWhile_reverse, List.reverse_reverse]

theorem beforeLast_eq_reverse : beforeLast d s = (after d s.reverse).reverse := by
  rw [beforeLast, after, List.rdropWhile, List.drop_one, List.dropLast_reverse]

theorem afterLast_cut {r : List α} (h : d ∉ r) (s : List α) : afterLast d (s ++ d :: r) = r := by
  have hreverse : (s ++ d :: r).reverse = r.reverse ++ d :: s.reverse := by simp
  rw [afterLast_eq_reverse, hreverse, before_cut (by simpa using h), List.reverse_reverse]

theorem beforeLast_cut {r : List α} (h : d ∉ r) (s : List α) :
    beforeLast d (s ++ d :: r) = s := by
  have hreverse : (s ++ d :: r).reverse = r.reverse ++ d :: s.reverse := by simp
  rw [beforeLast_eq_reverse, hreverse, after_cut (by simpa using h), List.reverse_reverse]

theorem cutLast_of_mem (h : d ∈ s) : beforeLast d s ++ d :: afterLast d s = s := by
  have hcut := cut_of_mem (List.mem_reverse.mpr h)
  have hreverse := congrArg List.reverse hcut
  rw [List.reverse_reverse, List.reverse_append, List.reverse_cons, List.append_assoc] at hreverse
  rw [beforeLast_eq_reverse, afterLast_eq_reverse]
  exact hreverse

/-! ## Lists of blocks -/

/-- The symbol stands in no block with anything else. -/
def Alone (d : α) (l : List (List α)) : Prop := ∀ block ∈ l, d ∈ block → block = [d]

variable {l : List (List α)}

omit [DecidableEq α] in
theorem flatten_eq_nil_iff (hnil : [] ∉ l) : l.flatten = [] ↔ l = [] := by
  constructor
  · intro hflat
    refine List.eq_nil_iff_forall_not_mem.mpr fun block hblock => ?_
    rw [List.flatten_eq_nil_iff.mp hflat block hblock] at hblock
    exact hnil hblock
  · rintro rfl
    rfl

omit [DecidableEq α] in
theorem Alone.singleton_mem_iff (h : Alone d l) : [d] ∈ l ↔ d ∈ l.flatten := by
  rw [List.mem_flatten]
  constructor
  · intro hmem
    exact ⟨[d], hmem, List.mem_singleton_self d⟩
  · rintro ⟨block, hblock, hd⟩
    rwa [h block hblock hd] at hblock

theorem Alone.before_flatten (h : Alone d l) : (before [d] l).flatten = before d l.flatten := by
  induction l with
  | nil => rfl
  | cons block l ih =>
      obtain ⟨hblock, hl⟩ := List.forall_mem_cons.mp h
      by_cases hd : block = [d]
      · simp [before, hd]
      · have hnot : d ∉ block := fun hmem => hd (hblock hmem)
        have hcut : before [d] (block :: l) = block :: before [d] l := by simp [before, hd]
        have hrest : before d (block ++ l.flatten) = block ++ before d l.flatten :=
          List.takeWhile_append_of_pos (forall_ne hnot)
        rw [hcut, List.flatten_cons, List.flatten_cons, ih hl, hrest]

theorem Alone.after_flatten (h : Alone d l) : (after [d] l).flatten = after d l.flatten := by
  induction l with
  | nil => rfl
  | cons block l ih =>
      obtain ⟨hblock, hl⟩ := List.forall_mem_cons.mp h
      by_cases hd : block = [d]
      · simp [after, hd]
      · have hnot : d ∉ block := fun hmem => hd (hblock hmem)
        have hcut : after [d] (block :: l) = after [d] l := by simp [after, hd]
        have hrest : after d (block ++ l.flatten) = after d l.flatten := by
          rw [after, List.dropWhile_append_of_pos (forall_ne hnot)]
          rfl
        rw [hcut, List.flatten_cons, ih hl, hrest]

theorem Alone.dropWhile_flatten (h : Alone d l) (hne : [] ∉ l) :
    (l.dropWhile (· = [d])).flatten = l.flatten.dropWhile (· = d) := by
  induction l with
  | nil => rfl
  | cons block l ih =>
      obtain ⟨hblock, hl⟩ := List.forall_mem_cons.mp h
      by_cases hd : block = [d]
      · rw [List.dropWhile_cons_of_pos (by simpa using hd), hd,
          ih hl (fun hmem => hne (List.mem_cons_of_mem _ hmem))]
        simp
      · rw [List.dropWhile_cons_of_neg (by simpa using hd), List.flatten_cons]
        cases block with
        | nil => exact absurd List.mem_cons_self hne
        | cons c block =>
            have hc : c ≠ d := by
              rintro rfl
              exact hd (hblock List.mem_cons_self)
            rw [List.cons_append, List.dropWhile_cons_of_neg (by simpa using hc)]

end ListCuts
