import GiveMeMovies.CallbackProgram

/-!
# Request budgets

A program costs at most `n` when it and the handlers of its responses, whatever the responses and
the states they meet, send at most `n` requests in all. The requests in flight are covered by a
budget that pays for them and for what their handlers cost, and every response leaves a smaller
one. So the requests of a run are bounded by what its events cost.
-/

namespace Callback

variable {σ V ω ε : Type*} {ι : Type*} {α : ι → Type*}

namespace Prog

/-- The program sends at most `n` requests, those of its handlers included. -/
def Costs : Prog σ ι α → ℕ → Prop
  | .done, _ => True
  | .read k, n => ∀ s, (k s).Costs n
  | .write _ next, n => next.Costs n
  | .send _ k next, n =>
      ∃ later rest, later + rest + 1 ≤ n ∧ (∀ a, (k a).Costs later) ∧ next.Costs rest

variable {p q : Prog σ ι α} {m n : ℕ}

theorem Costs.mono (hle : m ≤ n) (h : p.Costs m) : p.Costs n := by
  induction p generalizing m n with
  | done => trivial
  | read k ih => exact fun s => ih s hle (h s)
  | write f next ih => exact ih hle h
  | send i k next _ _ =>
      obtain ⟨later, rest, hsum, hlater, hrest⟩ := h
      exact ⟨later, rest, by omega, hlater, hrest⟩

theorem Costs.append (hp : p.Costs m) (hq : q.Costs n) : (p ++ q).Costs (m + n) := by
  change (p.andThen q).Costs (m + n)
  induction p generalizing m with
  | done => exact hq.mono (Nat.le_add_left n m)
  | read k ih => exact fun s => ih s (hp s)
  | write f next ih => exact ih hp
  | send i k next _ ih =>
      obtain ⟨later, rest, hsum, hlater, hrest⟩ := hp
      exact ⟨later, rest + n, by omega, hlater, ih hrest⟩

theorem Costs.append_free (hp : p.Costs n) (hq : q.Costs 0) : (p ++ q).Costs n := hp.append hq

theorem Costs.free_append (hp : p.Costs 0) (hq : q.Costs n) : (p ++ q).Costs n :=
  (hp.append hq).mono (Nat.le_of_eq (Nat.zero_add n))

theorem costs_done : (done : Prog σ ι α).Costs n := trivial

theorem costs_modify {f : σ → σ} : (modify f : Prog σ ι α).Costs n := trivial

theorem costs_request {i : ι} {k : α i → Prog σ ι α} (h : ∀ a, (k a).Costs n) :
    (request i k).Costs (n + 1) :=
  ⟨n, 0, Nat.le_refl _, h, trivial⟩

end Prog

/-- `n` pays for the requests and for what their handlers cost. -/
def Covers : List (Pending σ ι α) → ℕ → Prop
  | [], _ => True
  | p :: ps, n => ∃ later rest, later + rest + 1 ≤ n ∧ (∀ a, (p.handler a).Costs later) ∧
      Covers ps rest

variable {ps qs : List (Pending σ ι α)} {p : Pending σ ι α} {m n : ℕ}

theorem Covers.mono (hle : m ≤ n) (h : Covers ps m) : Covers ps n := by
  cases ps with
  | nil => trivial
  | cons p ps =>
      obtain ⟨later, rest, hsum, hlater, hrest⟩ := h
      exact ⟨later, rest, by omega, hlater, hrest⟩

theorem Covers.append (hp : Covers ps m) (hq : Covers qs n) : Covers (ps ++ qs) (m + n) := by
  induction ps generalizing m with
  | nil => exact hq.mono (Nat.le_add_left n m)
  | cons p ps ih =>
      obtain ⟨later, rest, hsum, hlater, hrest⟩ := hp
      exact ⟨later, rest + n, by omega, hlater, ih hrest⟩

theorem Covers.length_le (h : Covers ps n) : ps.length ≤ n := by
  induction ps generalizing n with
  | nil => exact Nat.zero_le n
  | cons p ps ih =>
      obtain ⟨later, rest, hsum, _, hrest⟩ := h
      have hlength := ih hrest
      rw [List.length_cons]
      omega

theorem Prog.Costs.covers {p : Prog σ ι α} (h : p.Costs n) (s : σ) : Covers (p.run s).2 n := by
  induction p generalizing n s with
  | done => trivial
  | read k ih => exact ih s (h s) s
  | write f next ih => exact ih h (f s)
  | send i k next _ ih =>
      obtain ⟨later, rest, hsum, hlater, hrest⟩ := h
      exact ⟨later, rest, hsum, hlater, ih hrest s⟩

/-- A request that is taken out leaves the rest of the budget and what its handler costs. -/
theorem Covers.eraseIdx {k : ℕ} (h : Covers ps n) (hp : ps[k]? = some p) :
    ∃ later rest, later + rest + 1 ≤ n ∧ (∀ a, (p.handler a).Costs later) ∧
      Covers (ps.eraseIdx k) rest := by
  induction ps generalizing k n with
  | nil => cases hp
  | cons q ps ih =>
      obtain ⟨later, rest, hsum, hlater, hrest⟩ := h
      cases k with
      | zero =>
          cases hp
          exact ⟨later, rest, hsum, hlater, hrest⟩
      | succ k =>
          obtain ⟨later', rest', hsum', hlater', hrest'⟩ := ih hrest hp
          exact ⟨later', rest' + later + 1, by omega, hlater', later, rest', by omega, hlater,
            hrest'⟩

namespace World

/-- What has been received and what can still come of the requests in flight is at most `n`. -/
def Spends (w : World V σ ι α) (n : ℕ) : Prop :=
  ∃ left, Covers w.inFlight left ∧ w.journal.length + left ≤ n

variable {w : World V σ ι α}

theorem Spends.calls_length (h : w.Spends n) : w.calls.length ≤ n := by
  obtain ⟨left, hcovers, hsum⟩ := h
  have hlength := hcovers.length_le
  rw [calls, List.length_append, List.length_map, List.length_map]
  omega

theorem spends_start (server : V) (client : σ) :
    (start server client : World V σ ι α).Spends 0 :=
  ⟨0, trivial, Nat.le_refl 0⟩

theorem Spends.exec {p : Prog σ ι α} (h : w.Spends n) (hp : p.Costs m) :
    (w.exec p).Spends (n + m) := by
  obtain ⟨left, hcovers, hsum⟩ := h
  refine ⟨left + m, hcovers.append (hp.covers w.client), ?_⟩
  rw [exec_journal]
  omega

theorem Spends.respond (svc : Service V σ ι α ω) {k : ℕ} (h : w.Spends n)
    (hp : w.inFlight[k]? = some p) (a : α p.call) : (w.respond svc k p a).Spends n := by
  obtain ⟨left, hcovers, hsum⟩ := h
  obtain ⟨later, rest, hle, hlater, hrest⟩ := hcovers.eraseIdx hp
  refine ⟨rest + later, hrest.append ((hlater a).covers _), ?_⟩
  have hjournal : (w.respond svc k p a).journal.length = w.journal.length + 1 := by
    simp [World.respond]
  omega

end World

/-- What arrives costs nothing. -/
def Event.cost (cost : ε → ℕ) : Event ε ω → ℕ
  | .act e => cost e
  | .complete _ _ => 0

theorem spends_of_step (svc : Service V σ ι α ω) {act : ε → σ → Option (Prog σ ι α)}
    {cost : ε → ℕ} (hact : ∀ e s p, act e s = some p → p.Costs (cost e)) {w w' : World V σ ι α}
    {e : Event ε ω} (h : w.Spends n) (hstep : step svc act w e = some w') :
    w'.Spends (n + e.cost cost) := by
  cases e with
  | act e =>
      obtain ⟨p, hp, rfl⟩ := (step_act svc act).mp hstep
      exact h.exec (hact e w.client p hp)
  | complete k o =>
      obtain ⟨p, hp, rfl⟩ := (step_complete svc act).mp hstep
      exact h.respond svc hp _

end Callback
