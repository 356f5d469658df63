import GiveMeMovies.CallbackProgram

/-!
# What programs add to a log

The process keeps a log, with the latest entry first. Where what a program adds is explained by what
has been received before, and what a handler adds also by the response that it handles, every entry
of the log is explained by the journal.
-/

namespace Callback

variable {σ V ω β : Type*} {ι : Type*} {α : ι → Type*} {log : σ → List β} {R : β → Prop}

namespace Prog

/-- Run in the state `s`, the program itself, without the handlers that it leaves, adds to the log
only what `R` holds of. -/
def AddsAt (log : σ → List β) (R : β → Prop) (p : Prog σ ι α) (s : σ) : Prop :=
  ∃ new, log (p.run s).1 = new ++ log s ∧ ∀ x ∈ new, R x

def Adds (log : σ → List β) (R : β → Prop) (p : Prog σ ι α) : Prop := ∀ s, p.AddsAt log R s

variable {p q : Prog σ ι α}

theorem adds_done : (done : Prog σ ι α).Adds log R := fun _ => ⟨[], rfl, nofun⟩

theorem adds_read {k : σ → Prog σ ι α} (h : ∀ s, (k s).Adds log R) : (read k).Adds log R :=
  fun s => h s s

theorem adds_write {f : σ → σ} (hf : ∀ s, log (f s) = log s) (hp : p.Adds log R) :
    (write f p).Adds log R := by
  intro s
  obtain ⟨new, hnew, hR⟩ := hp (f s)
  exact ⟨new, hnew.trans (congrArg _ (hf s)), hR⟩

theorem adds_modify {f : σ → σ} (hf : ∀ s, log (f s) = log s) :
    (modify f : Prog σ ι α).Adds log R := adds_write hf adds_done

theorem adds_request {i : ι} {k : α i → Prog σ ι α} : (request i k).Adds log R :=
  fun _ => ⟨[], rfl, nofun⟩

theorem Adds.append (hp : p.Adds log R) (hq : q.Adds log R) : (p ++ q).Adds log R := by
  intro s
  obtain ⟨new, hnew, hR⟩ := hp s
  obtain ⟨later, hlater, hR'⟩ := hq (p.run s).1
  refine ⟨later ++ new, ?_, fun x hx => ?_⟩
  · rw [run_append, hlater, hnew, List.append_assoc]
  · rcases List.mem_append.mp hx with hx | hx
    · exact hR' x hx
    · exact hR x hx

end Prog

namespace World

/-- Every entry of the log is explained by what has been received. -/
def Explained (log : σ → List β) (E : List (Entry ι α) → β → Prop) (w : World V σ ι α) : Prop :=
  ∀ x ∈ log w.client, E w.journal x

variable {E : List (Entry ι α) → β → Prop} {w : World V σ ι α}

theorem Explained.exec {p : Prog σ ι α} (h : w.Explained log E)
    (hp : p.AddsAt log (E w.journal) w.client) : (w.exec p).Explained log E := by
  intro x hx
  obtain ⟨new, hnew, hE⟩ := hp
  rw [exec_client, hnew] at hx
  rcases List.mem_append.mp hx with hx | hx
  · exact hE x hx
  · exact h x hx

theorem Explained.respond (svc : Service V σ ι α ω) {n : ℕ} {p : Pending σ ι α} {a : α p.call}
    (hmono : ∀ journal entry x, E journal x → E (journal ++ [entry]) x)
    (hreceive : log (svc.receive p.call a w.client) = log w.client) (h : w.Explained log E)
    (hp : (p.handler a).AddsAt log (E (w.journal ++ [⟨p.call, a⟩]))
      (svc.receive p.call a w.client)) :
    (w.respond svc n p a).Explained log E := by
  unfold World.respond
  refine Explained.exec (fun x hx => ?_) hp
  apply hmono
  apply h
  rw [← hreceive]
  exact hx

end World

end Callback
