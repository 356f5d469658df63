import GiveMeMovies.CallbackProgram

/-!
# Observed runs

An observer follows a run. He sees what is done to the process and the responses that arrive, and
nothing of its state. An observed world remembers with each request which event set off the chain
of handlers that sent it, and what had been seen by then, and keeps this when the response is
entered into the journal. Forgetting it gives the world that takes the same steps.
-/

namespace Callback

variable {σ V ω ε τ : Type*} {ι : Type*} {α : ι → Type*}

structure Observer (τ ε ι : Type*) (α : ι → Type*) where
  act : ε → τ → τ
  response : (i : ι) → α i → τ → τ

/-- Where a request comes from. Events are counted from 1, and the request whose response has set
off a handler passes its event on. -/
structure Origin (τ : Type*) where
  event : ℕ
  seen : τ

structure Observed (V σ τ ι : Type*) (α : ι → Type*) where
  server : V
  client : σ
  seen : τ
  events : ℕ
  inFlight : List (Origin τ × Pending σ ι α)
  journal : List (Origin τ × Entry ι α)

namespace Observed

/-- The world without what has been observed. -/
def world (o : Observed V σ τ ι α) : World V σ ι α :=
  ⟨o.server, o.client, o.inFlight.map Prod.snd, o.journal.map Prod.snd⟩

def start (server : V) (client : σ) (seen : τ) : Observed V σ τ ι α :=
  ⟨server, client, seen, 0, [], []⟩

/-- The program runs as a part of what `event` has set off. -/
def exec (o : Observed V σ τ ι α) (event : ℕ) (p : Prog σ ι α) : Observed V σ τ ι α :=
  { o with
    client := (p.run o.client).1
    inFlight := o.inFlight ++ (p.run o.client).2.map (fun q => (⟨event, o.seen⟩, q)) }

variable (obs : Observer τ ε ι α) (svc : Service V σ ι α ω) (act : ε → σ → Option (Prog σ ι α))

def respond (o : Observed V σ τ ι α) (n : ℕ) (origin : Origin τ) (p : Pending σ ι α)
    (a : α p.call) : Observed V σ τ ι α :=
  exec
    { server := svc.commit p.call a o.server
      client := svc.receive p.call a o.client
      seen := obs.response p.call a o.seen
      events := o.events + 1
      inFlight := o.inFlight.eraseIdx n
      journal := o.journal ++ [(origin, ⟨p.call, a⟩)] }
    origin.event (p.handler a)

def step (o : Observed V σ τ ι α) : Event ε ω → Option (Observed V σ τ ι α)
  | .act e => (act e o.client).map fun p =>
      exec { o with seen := obs.act e o.seen, events := o.events + 1 } (o.events + 1) p
  | .complete n outcome => o.inFlight[n]?.map fun p =>
      o.respond obs svc n p.1 p.2 (svc.reply p.2.call outcome o.server)

@[simp] theorem world_exec (o : Observed V σ τ ι α) (event : ℕ) (p : Prog σ ι α) :
    (o.exec event p).world = o.world.exec p := by
  simp [world, exec, World.exec, Function.comp_def]

theorem world_respond (o : Observed V σ τ ι α) (n : ℕ) (origin : Origin τ) (p : Pending σ ι α)
    (a : α p.call) :
    (o.respond obs svc n origin p a).world = o.world.respond svc n p a := by
  rw [respond, world_exec, World.respond]
  simp [world, List.eraseIdx_map]

theorem world_step (o : Observed V σ τ ι α) (e : Event ε ω) :
    (o.step obs svc act e).map world = Callback.step svc act o.world e := by
  cases e with
  | act e =>
      simp only [step, Callback.step, Option.map_map]
      change (act e o.client).map _ = (act e o.client).map _
      congr 1
      funext p
      exact world_exec _ _ p
  | complete n outcome =>
      simp only [step, Callback.step, World.complete, Option.map_map]
      change _ = (o.inFlight.map Prod.snd)[n]?.map _
      rw [List.getElem?_map, Option.map_map]
      congr 1
      funext p
      exact world_respond obs svc o n p.1 p.2 _

/-- A run is observed in one way, and forgetting what was seen gives it back. -/
theorem world_run (o : Observed V σ τ ι α) (es : List (Event ε ω)) :
    (EventRun.run (step obs svc act) o es).map world =
      EventRun.run (Callback.step svc act) o.world es := by
  induction es generalizing o with
  | nil => rfl
  | cons e es ih =>
      rw [EventRun.run_cons, EventRun.run_cons, ← world_step obs]
      cases o.step obs svc act e with
      | none => rfl
      | some o' => exact ih o'

variable {obs svc act}

theorem run_world {o o' : Observed V σ τ ι α} {es : List (Event ε ω)}
    (hrun : EventRun.run (step obs svc act) o es = some o') :
    EventRun.run (Callback.step svc act) o.world es = some o'.world := by
  rw [← world_run obs, hrun]
  rfl

end Observed

/-- Run in the state `s`, the program leaves a state that stands in `F` to `x`, and sends requests
that stand in `R` to it. -/
def Prog.Leaves (F : τ → σ → Prop) (R : τ → Pending σ ι α → Prop) (x : τ) (p : Prog σ ι α)
    (s : σ) : Prop :=
  F x (p.run s).1 ∧ ∀ q ∈ (p.run s).2, R x q

variable {F : τ → σ → Prop} {R : τ → Pending σ ι α → Prop} {x : τ} {s : σ} {p q : Prog σ ι α}

theorem Prog.leaves_done (h : F x s) : (done : Prog σ ι α).Leaves F R x s :=
  ⟨h, fun _ hq => absurd hq List.not_mem_nil⟩

theorem Prog.leaves_modify {f : σ → σ} (h : F x (f s)) :
    (modify f : Prog σ ι α).Leaves F R x s :=
  ⟨h, fun _ hq => absurd hq List.not_mem_nil⟩

theorem Prog.leaves_request {i : ι} {k : α i → Prog σ ι α} (h : F x s) (hR : R x ⟨i, k⟩) :
    (request i k).Leaves F R x s := by
  refine ⟨h, fun q hq => ?_⟩
  rw [List.mem_singleton.mp hq]
  exact hR

/-- What the first part leaves in between does not matter. -/
theorem Prog.leaves_append (hp : ∀ r ∈ (p.run s).2, R x r) (hq : q.Leaves F R x (p.run s).1) :
    (p ++ q).Leaves F R x s := by
  rw [Leaves, run_append]
  refine ⟨hq.1, fun r hr => ?_⟩
  rcases List.mem_append.mp hr with hr | hr
  · exact hp r hr
  · exact hq.2 r hr

namespace Observed

/-- The observer knows the process: its state stands in `F` to what he has seen, and each request
stands in `R` to what he had seen when it was sent. -/
structure Follows (F : τ → σ → Prop) (R : τ → Pending σ ι α → Prop) (o : Observed V σ τ ι α) :
    Prop where
  client : F o.seen o.client
  inFlight : ∀ q ∈ o.inFlight, R q.1.seen q.2
  journal : ∀ e ∈ o.journal, ∃ handler, R e.1.seen ⟨e.2.call, handler⟩

variable {obs : Observer τ ε ι α} {svc : Service V σ ι α ω} {act : ε → σ → Option (Prog σ ι α)}
  {o o' : Observed V σ τ ι α}

theorem follows_exec {event : ℕ}
    (hflight : ∀ q ∈ o.inFlight, R q.1.seen q.2)
    (hjournal : ∀ e ∈ o.journal, ∃ handler, R e.1.seen ⟨e.2.call, handler⟩)
    (hp : p.Leaves F R o.seen o.client) : (o.exec event p).Follows F R := by
  refine ⟨hp.1, fun q hq => ?_, hjournal⟩
  rcases List.mem_append.mp hq with hq | hq
  · exact hflight q hq
  · obtain ⟨q', hq', rfl⟩ := List.mem_map.mp hq
    exact hp.2 q' hq'

theorem journal_of_step {e : Event ε ω} (hstep : o.step obs svc act e = some o')
    {entry : Origin τ × Entry ι α} (h : entry ∈ o.journal) : entry ∈ o'.journal := by
  cases e with
  | act e =>
      obtain ⟨p, _, rfl⟩ := Option.map_eq_some_iff.mp hstep
      exact h
  | complete n outcome =>
      obtain ⟨q, _, rfl⟩ := Option.map_eq_some_iff.mp hstep
      exact List.mem_append_left _ h

section Run

variable {A : (i : ι) → α i → Prop}
  (hresponse : ∀ origin q (a : α q.call) x s, F x s → R origin q → A q.call a →
    (q.handler a).Leaves F R (obs.response q.call a x) (svc.receive q.call a s))

include hresponse

/-- What is done and what the handlers do keeps the observer informed. -/
theorem Follows.step (h : o.Follows F R) {e : Event ε ω}
    (hact : ∀ d, e = .act d → ∀ x s p, F x s → act d s = some p → p.Leaves F R (obs.act d x) s)
    (hstep : o.step obs svc act e = some o')
    (hjournal : ∀ entry ∈ o'.journal, A entry.2.call entry.2.response) : o'.Follows F R := by
  cases e with
  | act e =>
      obtain ⟨p, hp, rfl⟩ := Option.map_eq_some_iff.mp hstep
      exact follows_exec h.inFlight h.journal (hact e rfl o.seen o.client p h.client hp)
  | complete n outcome =>
      obtain ⟨⟨origin, q⟩, hq, rfl⟩ := Option.map_eq_some_iff.mp hstep
      have horigin : R origin.seen q := h.inFlight _ (List.mem_of_getElem? hq)
      have hentry : A q.call (svc.reply q.call outcome o.server) :=
        hjournal (origin, ⟨q.call, svc.reply q.call outcome o.server⟩)
          (List.mem_append_right _ (List.mem_singleton_self _))
      apply follows_exec
      · exact fun r hr => h.inFlight r (List.mem_of_mem_eraseIdx hr)
      · intro entry hmem
        rcases List.mem_append.mp hmem with hmem | hmem
        · exact h.journal entry hmem
        · rw [List.mem_singleton.mp hmem]
          exact ⟨q.handler, horigin⟩
      · exact hresponse origin.seen q _ o.seen o.client h.client horigin hentry

theorem Follows.run (h : o.Follows F R) {es : List (Event ε ω)}
    (hact : ∀ d, .act d ∈ es → ∀ x s p, F x s → act d s = some p →
      p.Leaves F R (obs.act d x) s)
    (hrun : EventRun.run (Observed.step obs svc act) o es = some o')
    (hjournal : ∀ entry ∈ o'.journal, A entry.2.call entry.2.response) : o'.Follows F R := by
  induction es generalizing o with
  | nil =>
      cases hrun
      exact h
  | cons e es ih =>
      obtain ⟨u, hstep, hrest⟩ := Option.bind_eq_some_iff.mp hrun
      have hnow : ∀ entry ∈ u.journal, A entry.2.call entry.2.response :=
        fun entry hentry => hjournal entry (EventRun.run_invariant
          (I := fun v => entry ∈ v.journal) (fun _ _ _ hv hs => journal_of_step hs hv) hentry hrest)
      refine ih (h.step hresponse (fun d hd => hact d ?_) hstep hnow)
        (fun d hd => hact d (List.mem_cons_of_mem e hd)) hrest
      rw [hd]
      exact List.mem_cons_self

end Run

/-- What holds of everything seen holds of what had been seen when a request was sent. -/
theorem seen_of_run {P : τ → Prop} (hseen : P o.seen)
    (hflight : ∀ q ∈ o.inFlight, P q.1.seen) (hjournal : ∀ e ∈ o.journal, P e.1.seen)
    {es : List (Event ε ω)} (hact : ∀ d, .act d ∈ es → ∀ x, P x → P (obs.act d x))
    (hresponse : ∀ i (a : α i) x, P x → P (obs.response i a x))
    (hrun : EventRun.run (Observed.step obs svc act) o es = some o') :
    ∀ e ∈ o'.journal, P e.1.seen := by
  have hfollows : o.Follows (fun x _ => P x) (fun x _ => P x) :=
    ⟨hseen, hflight, fun e he => ⟨fun _ => .done, hjournal e he⟩⟩
  have hrun' := hfollows.run (A := fun _ _ => True)
    (fun _ q a x _ hx _ _ => ⟨hresponse q.call a x hx, fun _ _ => hresponse q.call a x hx⟩)
    (fun d hd x _ _ hx _ => ⟨hact d hd x hx, fun _ _ => hact d hd x hx⟩) hrun
    (fun _ _ => trivial)
  intro e he
  obtain ⟨_, h⟩ := hrun'.journal e he
  exact h

end Observed

end Callback
