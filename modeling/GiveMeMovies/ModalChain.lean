import Mathlib.Data.List.Basic

/-!
# Chains of presented controllers

A chain lists controllers from the top, each presented by the next one, down to a root that nobody
presents. Presenting takes effect from the top only. Dismissing removes what the receiver presents,
with everything over it, or the receiver itself when it presents nothing.
-/

namespace ModalChain

variable {α : Type*} [DecidableEq α]

def present (self new : α) (chain : List α) : List α :=
  if chain.head? = some self then new :: chain else chain

/-- The part of the chain from `self` down. -/
def under (self : α) (chain : List α) : List α := chain.dropWhile (fun c => c ≠ self)

def presenting (self : α) (chain : List α) : Option α := (under self chain).tail.head?

def dismiss (self : α) (chain : List α) : List α :=
  if chain.head? = some self then
    if chain.tail = [] then chain else chain.tail
  else if self ∈ chain then under self chain
  else chain

variable {self new : α} {above below chain : List α}

theorem under_append (h : self ∉ above) : under self (above ++ self :: below) = self :: below := by
  induction above with
  | nil => simp [under]
  | cons c above ih =>
      obtain ⟨hc, habove⟩ := not_or.mp (mt List.mem_cons.mpr h)
      have hne : c ≠ self := fun he => hc he.symm
      rw [under, List.cons_append, List.dropWhile_cons_of_pos (by simpa using hne)]
      exact ih habove

theorem presenting_append (h : self ∉ above) :
    presenting self (above ++ self :: below) = below.head? := by
  rw [presenting, under_append h, List.tail_cons]

theorem present_top : present self new (self :: below) = new :: self :: below := if_pos rfl

theorem dismiss_top (h : below ≠ []) : dismiss self (self :: below) = below := by
  rw [dismiss, List.head?_cons, if_pos rfl, List.tail_cons, if_neg h]

theorem dismiss_under (h : self ∉ above) (hne : above ≠ []) :
    dismiss self (above ++ self :: below) = self :: below := by
  have hhead : (above ++ self :: below).head? ≠ some self := by
    cases above with
    | nil => exact absurd rfl hne
    | cons c above =>
        intro he
        exact h (by simp [Option.some.inj he])
  rw [dismiss, if_neg hhead, if_pos (List.mem_append_right _ List.mem_cons_self), under_append h]

end ModalChain
