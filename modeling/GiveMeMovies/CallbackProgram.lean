import Mathlib.Data.List.Perm.Basic
import GiveMeMovies.EventRun

/-!
# Callback programs

Code that runs to completion on one event loop: it reads and writes the state of its process and
sends requests, each with the handler to run on the response. `Prog.run` runs a program and
collects the requests it sends. A `World` is the server, the process, the requests in flight and
the journal of the responses received so far; one step completes a request in flight, in any
order. A response reaches the server's state, the process's own library state and the handler,
in this sequence, so that the server's state is a function of the journal.
-/

namespace Callback

variable {σ V ω : Type*} {ι : Type*} {α : ι → Type*}

inductive Prog (σ : Type*) (ι : Type*) (α : ι → Type*) where
  | done
  | read (k : σ → Prog σ ι α)
  | write (f : σ → σ) (next : Prog σ ι α)
  | send (i : ι) (k : α i → Prog σ ι α) (next : Prog σ ι α)

structure Pending (σ : Type*) (ι : Type*) (α : ι → Type*) where
  call : ι
  handler : α call → Prog σ ι α

namespace Prog

def run : Prog σ ι α → σ → σ × List (Pending σ ι α)
  | .done, s => (s, [])
  | .read k, s => (k s).run s
  | .write f next, s => next.run (f s)
  | .send i k next, s => ((next.run s).1, ⟨i, k⟩ :: (next.run s).2)

def andThen : Prog σ ι α → Prog σ ι α → Prog σ ι α
  | .done, q => q
  | .read k, q => .read (fun s => (k s).andThen q)
  | .write f next, q => .write f (next.andThen q)
  | .send i k next, q => .send i k (next.andThen q)

/-- `p ++ q` runs `p` and then `q`. -/
instance : Append (Prog σ ι α) := ⟨andThen⟩

@[simp] theorem run_done (s : σ) : (done : Prog σ ι α).run s = (s, []) := rfl

@[simp] theorem run_read (k : σ → Prog σ ι α) (s : σ) : (read k).run s = (k s).run s := rfl

@[simp] theorem run_write (f : σ → σ) (next : Prog σ ι α) (s : σ) :
    (write f next).run s = next.run (f s) := rfl

@[simp] theorem run_send (i : ι) (k : α i → Prog σ ι α) (next : Prog σ ι α) (s : σ) :
    (send i k next).run s = ((next.run s).1, ⟨i, k⟩ :: (next.run s).2) := rfl

@[simp] theorem run_append (p q : Prog σ ι α) (s : σ) :
    (p ++ q).run s = ((q.run (p.run s).1).1, (p.run s).2 ++ (q.run (p.run s).1).2) := by
  change (p.andThen q).run s = _
  induction p generalizing s with
  | done => rfl
  | read k ih => exact ih s s
  | write f next ih => exact ih (f s)
  | send i k next _ ih => simp [andThen, ih]

@[simp] theorem append_done (p : Prog σ ι α) : p ++ done = p := by
  change p.andThen .done = p
  induction p with
  | done => rfl
  | read k ih => exact congrArg _ (funext ih)
  | write f next ih => exact congrArg _ ih
  | send i k next _ ih => exact congrArg _ ih

def modify (f : σ → σ) : Prog σ ι α := .write f .done

def request (i : ι) (k : α i → Prog σ ι α) : Prog σ ι α := .send i k .done

@[simp] theorem run_modify (f : σ → σ) (s : σ) :
    (modify f : Prog σ ι α).run s = (f s, []) := rfl

@[simp] theorem run_request (i : ι) (k : α i → Prog σ ι α) (s : σ) :
    (request i k).run s = (s, [⟨i, k⟩]) := rfl

end Prog

/-- What a part of a program keeps to: the states it meets and leaves, how far it may change them,
the requests it sends, the handlers it leaves for their responses, and the responses it has to
reckon with. -/
structure Contract (σ : Type*) (ι : Type*) (α : ι → Type*) where
  state : σ → Prop := fun _ => True
  frame : σ → σ → Prop := fun _ _ => True
  call : ι → Prop
  pending : Pending σ ι α → Prop := fun _ => True
  response : (i : ι) → α i → Prop := fun _ _ => True

namespace Prog

/-- The program and the handlers it leaves behind keep to the contract. What they do in other
states, or on other responses, does not matter. -/
def Within (C : Contract σ ι α) : Prog σ ι α → Prop
  | .done => True
  | .read k => ∀ s, C.state s → (k s).Within C
  | .write f next => (∀ s, C.state s → C.state (f s) ∧ C.frame s (f s)) ∧ next.Within C
  | .send i k next =>
      C.call i ∧ C.pending ⟨i, k⟩ ∧ (∀ a, C.response i a → (k a).Within C) ∧ next.Within C

variable {C : Contract σ ι α}

@[simp] theorem within_done : (done : Prog σ ι α).Within C := trivial

@[simp] theorem within_modify {f : σ → σ} :
    (modify f : Prog σ ι α).Within C ↔ ∀ s, C.state s → C.state (f s) ∧ C.frame s (f s) := by
  simp [modify, Within]

@[simp] theorem within_request {i : ι} {k : α i → Prog σ ι α} :
    (request i k).Within C ↔
      C.call i ∧ C.pending ⟨i, k⟩ ∧ ∀ a, C.response i a → (k a).Within C := by
  simp [request, Within]

theorem Within.append {p q : Prog σ ι α} (hp : p.Within C) (hq : q.Within C) :
    (p ++ q).Within C := by
  change (p.andThen q).Within C
  induction p with
  | done => exact hq
  | read k ih => exact fun s hs => ih s (hp s hs)
  | write f next ih => exact ⟨hp.1, ih hp.2⟩
  | send i k next _ ih => exact ⟨hp.1, hp.2.1, hp.2.2.1, ih hp.2.2.2⟩

theorem Within.preserves {p : Prog σ ι α} (h : p.Within C) {s : σ} (hs : C.state s) :
    C.state (p.run s).1 := by
  induction p generalizing s with
  | done => exact hs
  | read k ih => exact ih s (h s hs) hs
  | write f next ih => exact ih h.2 (h.1 s hs).1
  | send i k next _ ih => exact ih h.2.2.2 hs

theorem Within.frames (hrefl : ∀ s, C.frame s s)
    (htrans : ∀ s t u, C.frame s t → C.frame t u → C.frame s u) {p : Prog σ ι α}
    (h : p.Within C) {s : σ} (hs : C.state s) : C.frame s (p.run s).1 := by
  induction p generalizing s with
  | done => exact hrefl s
  | read k ih => exact ih s (h s hs) hs
  | write f next ih =>
      obtain ⟨hstate, hframe⟩ := h.1 s hs
      exact htrans s (f s) _ hframe (ih h.2 hstate)
  | send i k next _ ih => exact ih h.2.2.2 hs

end Prog

/-- The request and its handler keep to the contract. -/
def Pending.Within (C : Contract σ ι α) (p : Pending σ ι α) : Prop :=
  C.call p.call ∧ C.pending p ∧ ∀ a, C.response p.call a → (p.handler a).Within C

theorem Prog.Within.pending {C : Contract σ ι α} {p : Prog σ ι α} (h : p.Within C) {s : σ}
    (hs : C.state s) {q : Pending σ ι α} (hq : q ∈ (p.run s).2) : q.Within C := by
  induction p generalizing s with
  | done => exact absurd hq List.not_mem_nil
  | read k ih => exact ih s (h s hs) hs hq
  | write f next ih => exact ih h.2 (h.1 s hs).1 hq
  | send i k next _ ih =>
      rcases List.mem_cons.mp hq with rfl | hq
      · exact ⟨h.1, h.2.1, h.2.2.1⟩
      · exact ih h.2.2.2 hs hq

/-- The requests that the program sends, whatever the state, keep to the contract. -/
def Prog.Sends (C : Contract σ ι α) (p : Prog σ ι α) : Prop := ∀ s, ∀ q ∈ (p.run s).2, q.Within C

namespace Prog

variable {C : Contract σ ι α}

theorem sends_done : (done : Prog σ ι α).Sends C := fun _ _ hq => absurd hq List.not_mem_nil

theorem sends_modify {f : σ → σ} : (modify f : Prog σ ι α).Sends C :=
  fun _ _ hq => absurd hq List.not_mem_nil

theorem sends_read {k : σ → Prog σ ι α} (h : ∀ s, (k s).Sends C) : (read k).Sends C :=
  fun s => h s s

theorem sends_request {i : ι} {k : α i → Prog σ ι α} (h : (⟨i, k⟩ : Pending σ ι α).Within C) :
    (request i k).Sends C := by
  intro s q hq
  rw [List.mem_singleton.mp hq]
  exact h

theorem Sends.append {p q : Prog σ ι α} (hp : p.Sends C) (hq : q.Sends C) : (p ++ q).Sends C := by
  intro s r hr
  rw [run_append] at hr
  rcases List.mem_append.mp hr with hr | hr
  · exact hp s r hr
  · exact hq _ r hr

end Prog

structure Entry (ι : Type*) (α : ι → Type*) where
  call : ι
  response : α call

structure World (V σ ι : Type*) (α : ι → Type*) where
  server : V
  client : σ
  inFlight : List (Pending σ ι α)
  journal : List (Entry ι α)

/-- How a request is answered: the reply to it under a given outcome, what the reply commits to
the server, and what the process's library does with it before the handler runs. -/
structure Service (V σ ι : Type*) (α : ι → Type*) (ω : Type*) where
  reply : (i : ι) → ω → V → α i
  commit : (i : ι) → α i → V → V
  receive : (i : ι) → α i → σ → σ

namespace World

def start (server : V) (client : σ) : World V σ ι α := ⟨server, client, [], []⟩

def exec (w : World V σ ι α) (p : Prog σ ι α) : World V σ ι α :=
  { w with client := (p.run w.client).1, inFlight := w.inFlight ++ (p.run w.client).2 }

@[simp] theorem exec_server (w : World V σ ι α) (p : Prog σ ι α) :
    (w.exec p).server = w.server := rfl

@[simp] theorem exec_client (w : World V σ ι α) (p : Prog σ ι α) :
    (w.exec p).client = (p.run w.client).1 := rfl

@[simp] theorem exec_inFlight (w : World V σ ι α) (p : Prog σ ι α) :
    (w.exec p).inFlight = w.inFlight ++ (p.run w.client).2 := rfl

@[simp] theorem exec_journal (w : World V σ ι α) (p : Prog σ ι α) :
    (w.exec p).journal = w.journal := rfl

variable (svc : Service V σ ι α ω)

/-- The world in which the response `a` to the pending request `p` has just arrived. -/
def respond (w : World V σ ι α) (n : ℕ) (p : Pending σ ι α) (a : α p.call) : World V σ ι α :=
  World.exec
    { server := svc.commit p.call a w.server
      client := svc.receive p.call a w.client
      inFlight := w.inFlight.eraseIdx n
      journal := w.journal ++ [⟨p.call, a⟩] }
    (p.handler a)

@[simp] theorem respond_server (w : World V σ ι α) (n : ℕ) (p : Pending σ ι α) (a : α p.call) :
    (w.respond svc n p a).server = svc.commit p.call a w.server := rfl

@[simp] theorem respond_client (w : World V σ ι α) (n : ℕ) (p : Pending σ ι α) (a : α p.call) :
    (w.respond svc n p a).client =
      ((p.handler a).run (svc.receive p.call a w.client)).1 := rfl

@[simp] theorem respond_inFlight (w : World V σ ι α) (n : ℕ) (p : Pending σ ι α)
    (a : α p.call) : (w.respond svc n p a).inFlight =
      w.inFlight.eraseIdx n ++ ((p.handler a).run (svc.receive p.call a w.client)).2 := rfl

/-- The only request in flight has been answered. -/
theorem respond_single {w : World V σ ι α} {p q : Pending σ ι α} {n : ℕ}
    (hw : w.inFlight = [p]) (hq : w.inFlight[n]? = some q) (a : α q.call) :
    n = 0 ∧ q = p ∧ (w.respond svc n q a).inFlight =
      ((q.handler a).run (svc.receive q.call a w.client)).2 := by
  rw [hw] at hq
  cases n with
  | zero => exact ⟨rfl, (Option.some.inj hq).symm, by rw [respond_inFlight, hw]; rfl⟩
  | succ n => cases hq

def complete (w : World V σ ι α) (n : ℕ) (o : ω) : Option (World V σ ι α) :=
  w.inFlight[n]?.map (fun p => w.respond svc n p (svc.reply p.call o w.server))

theorem complete_eq_some {w w' : World V σ ι α} {n : ℕ} {o : ω} :
    w.complete svc n o = some w' ↔
      ∃ p, w.inFlight[n]? = some p ∧ w' = w.respond svc n p (svc.reply p.call o w.server) := by
  simp only [complete, Option.map_eq_some_iff, @eq_comm _ w']

/-- The calls sent so far, answered or not. -/
def calls (w : World V σ ι α) : List ι :=
  w.inFlight.map Pending.call ++ w.journal.map Entry.call

theorem mem_calls_exec {w : World V σ ι α} {p : Prog σ ι α} {i : ι} :
    i ∈ (w.exec p).calls ↔ i ∈ w.calls ∨ ∃ q ∈ (p.run w.client).2, q.call = i := by
  simp only [calls, exec_inFlight, exec_journal, List.map_append, List.mem_append,
    ← List.mem_map]
  tauto

theorem perm_eraseIdx {w : World V σ ι α} {n : ℕ} {p : Pending σ ι α}
    (hp : w.inFlight[n]? = some p) : w.inFlight.Perm (p :: w.inFlight.eraseIdx n) := by
  obtain ⟨hn, rfl⟩ := List.getElem?_eq_some_iff.mp hp
  exact (List.getElem_cons_eraseIdx_perm hn).symm

theorem mem_calls_respond {w : World V σ ι α} {n : ℕ} {p : Pending σ ι α} {a : α p.call}
    {i : ι} (hp : w.inFlight[n]? = some p) :
    i ∈ (w.respond svc n p a).calls ↔
      i ∈ w.calls ∨ ∃ q ∈ ((p.handler a).run (svc.receive p.call a w.client)).2, q.call = i := by
  rw [respond, mem_calls_exec]
  refine or_congr_left ?_
  have hmem : i ∈ w.inFlight.map Pending.call ↔
      i = p.call ∨ i ∈ (w.inFlight.eraseIdx n).map Pending.call := by
    rw [((perm_eraseIdx hp).map Pending.call).mem_iff, List.map_cons, List.mem_cons]
  simp only [calls, List.map_append, List.mem_append, List.map_cons, List.map_nil,
    List.mem_singleton, hmem]
  tauto

theorem mem_inFlight_respond {w : World V σ ι α} {n : ℕ} {p q : Pending σ ι α} {a : α p.call}
    (h : q ∈ (w.respond svc n p a).inFlight) :
    q ∈ w.inFlight ∨ q ∈ ((p.handler a).run (svc.receive p.call a w.client)).2 := by
  rcases List.mem_append.mp h with h | h
  · exact Or.inl (List.mem_of_mem_eraseIdx h)
  · exact Or.inr h

theorem mem_journal_respond {w : World V σ ι α} {n : ℕ} {p : Pending σ ι α} {a : α p.call} :
    (⟨p.call, a⟩ : Entry ι α) ∈ (w.respond svc n p a).journal :=
  List.mem_append_right w.journal (List.mem_singleton_self _)

end World

/-- An event is something done to the process, or the arrival of a response. -/
inductive Event (ε ω : Type*) where
  | act (e : ε)
  | complete (n : ℕ) (o : ω)

section Step

variable {ε : Type*} (svc : Service V σ ι α ω) (act : ε → σ → Option (Prog σ ι α))

def step (w : World V σ ι α) : Event ε ω → Option (World V σ ι α)
  | .act e => (act e w.client).map w.exec
  | .complete n o => w.complete svc n o

theorem step_act {w w' : World V σ ι α} {e : ε} :
    step svc act w (.act e) = some w' ↔ ∃ p, act e w.client = some p ∧ w' = w.exec p := by
  simp only [step, Option.map_eq_some_iff, @eq_comm _ w']

theorem step_complete {w w' : World V σ ι α} {n : ℕ} {o : ω} :
    step svc act w (.complete n o) = some w' ↔
      ∃ p, w.inFlight[n]? = some p ∧ w' = w.respond svc n p (svc.reply p.call o w.server) :=
  World.complete_eq_some svc

/-- Where the request at place `n` in flight is after an event that does not answer it. -/
def Event.follow (n : ℕ) : Event ε ω → Option ℕ
  | .act _ => some n
  | .complete m _ => if m = n then none else if m < n then some (n - 1) else some n

/-- The process with another request at place `n` in flight. -/
def World.replace (n : ℕ) (q : Pending σ ι α) (w : World V σ ι α) : World V σ ι α :=
  { w with inFlight := w.inFlight.set n q }

theorem set_eraseIdx_follow {β : Type*} {l : List β} {m n n' : ℕ} {o : ω} (q : β)
    (hm : m < l.length) (hn : n < l.length)
    (hfollow : (Event.complete m o : Event ε ω).follow n = some n') :
    m ≠ n ∧ (l.set n q).eraseIdx m = (l.eraseIdx m).set n' q ∧ n' < (l.eraseIdx m).length := by
  have hlength := List.length_eraseIdx_of_lt hm
  by_cases hmn : m = n
  · simp [Event.follow, hmn] at hfollow
  · by_cases hlt : m < n
    · have hn' : n' = n - 1 := by simpa [Event.follow, hmn, hlt, eq_comm] using hfollow
      subst hn'
      exact ⟨hmn, List.eraseIdx_set_lt hlt, by omega⟩
    · have hn' : n' = n := by simpa [Event.follow, hmn, hlt, eq_comm] using hfollow
      subst hn'
      have hgt : n' < m := by omega
      exact ⟨hmn, List.eraseIdx_set_gt hgt, by omega⟩

/-- A step that does not answer the request at place `n` is the same whatever that request is. -/
theorem step_replace {w w' : World V σ ι α} {e : Event ε ω} {n n' : ℕ} (q : Pending σ ι α)
    (hn : n < w.inFlight.length) (hstep : step svc act w e = some w')
    (hfollow : e.follow n = some n') :
    step svc act (w.replace n q) e = some (w'.replace n' q) ∧ n' < w'.inFlight.length := by
  cases e with
  | act e =>
      cases hfollow
      obtain ⟨p, hp, rfl⟩ := (step_act svc act).mp hstep
      constructor
      · rw [step_act]
        refine ⟨p, hp, ?_⟩
        simp only [World.replace, World.exec, List.set_append_left _ _ hn]
      · rw [World.exec_inFlight, List.length_append]
        omega
  | complete m o =>
      obtain ⟨p, hp, rfl⟩ := (step_complete svc act).mp hstep
      obtain ⟨hm, _⟩ := List.getElem?_eq_some_iff.mp hp
      obtain ⟨hmn, herase, hbound⟩ := set_eraseIdx_follow q hm hn hfollow
      constructor
      · rw [step_complete]
        refine ⟨p, ?_, ?_⟩
        · rw [World.replace, List.getElem?_set_ne (Ne.symm hmn), hp]
        · simp only [World.replace, World.respond, World.exec, herase,
            List.set_append_left _ _ hbound]
      · rw [World.respond_inFlight, List.length_append]
        omega

/-- The server's state is the journal replayed over the server's first state. -/
theorem server_eq_replay {w w' : World V σ ι α} {es : List (Event ε ω)}
    (h0 : w.journal = []) (hrun : EventRun.run (step svc act) w es = some w') :
    w'.server = w'.journal.foldl (fun v e => svc.commit e.call e.response v) w.server := by
  refine EventRun.run_invariant
    (I := fun u => u.server = u.journal.foldl (fun v e => svc.commit e.call e.response v) w.server)
    ?_ (by simp [h0]) hrun
  intro u e u' hu hstep
  cases e with
  | act e =>
      obtain ⟨p, _, rfl⟩ := (step_act svc act).mp hstep
      exact hu
  | complete n o =>
      obtain ⟨p, _, rfl⟩ := (step_complete svc act).mp hstep
      simp [World.respond, hu]

/-- What the handler of the response `e` sent, in a state of the contract, has been sent. -/
def World.Handled (C : Contract σ ι α) (w : World V σ ι α) (e : Entry ι α) : Prop :=
  ∃ k s, C.pending ⟨e.call, k⟩ ∧ C.state s ∧ ∀ q ∈ ((k e.response).run s).2, q.call ∈ w.calls

theorem World.Handled.mono {C : Contract σ ι α} {w w' : World V σ ι α} {e : Entry ι α}
    (hcalls : ∀ i ∈ w.calls, i ∈ w'.calls) (h : w.Handled C e) : w'.Handled C e := by
  obtain ⟨k, s, hk, hs, hq⟩ := h
  exact ⟨k, s, hk, hs, fun q hm => hcalls _ (hq q hm)⟩

/-- The process, the calls sent so far and what is in flight keep to the contract, and every
response has been handled. -/
structure World.Within (C : Contract σ ι α) (w : World V σ ι α) : Prop where
  client : C.state w.client
  calls : ∀ i ∈ w.calls, C.call i
  pending : ∀ p ∈ w.inFlight, p.Within C
  handled : ∀ e ∈ w.journal, w.Handled C e

theorem World.within_start {C : Contract σ ι α} {server : V} {client : σ}
    (h : C.state client) : (World.start server client : World V σ ι α).Within C :=
  ⟨h, fun _ hi => absurd hi List.not_mem_nil, fun _ hp => absurd hp List.not_mem_nil,
    fun _ he => absurd he List.not_mem_nil⟩

theorem World.Within.exec {C : Contract σ ι α} {w : World V σ ι α} (h : w.Within C)
    {p : Prog σ ι α} (hI : C.state (p.run w.client).1)
    (hp : ∀ q ∈ (p.run w.client).2, q.Within C) : (w.exec p).Within C := by
  refine ⟨hI, ?_, ?_, ?_⟩
  · intro i hi
    rcases World.mem_calls_exec.mp hi with hi | ⟨q, hq, rfl⟩
    · exact h.calls i hi
    · exact (hp q hq).1
  · intro q hq
    rcases List.mem_append.mp hq with hq | hq
    · exact h.pending q hq
    · exact hp q hq
  · intro e he
    exact (h.handled e he).mono fun i hi => World.mem_calls_exec.mpr (Or.inl hi)

theorem World.Within.respond {C : Contract σ ι α}
    (hreceive : ∀ i a s, C.call i → C.response i a → C.state s → C.state (svc.receive i a s))
    {w : World V σ ι α} (h : w.Within C) {n : ℕ} {p : Pending σ ι α}
    (hp : w.inFlight[n]? = some p) {a : α p.call} (ha : C.response p.call a) :
    (w.respond svc n p a).Within C := by
  have hmem := h.pending p (List.mem_of_getElem? hp)
  have hclient : C.state (svc.receive p.call a w.client) :=
    hreceive p.call a _ hmem.1 ha h.client
  refine ⟨(hmem.2.2 a ha).preserves hclient, ?_, ?_, ?_⟩
  · intro i hi
    rcases (World.mem_calls_respond svc hp).mp hi with hi | ⟨q, hq, rfl⟩
    · exact h.calls i hi
    · exact ((hmem.2.2 a ha).pending hclient hq).1
  · intro q hq
    rcases World.mem_inFlight_respond svc hq with hq | hq
    · exact h.pending q hq
    · exact (hmem.2.2 a ha).pending hclient hq
  · intro e he
    rcases List.mem_append.mp he with he | he
    · exact (h.handled e he).mono fun i hi => (World.mem_calls_respond svc hp).mpr (Or.inl hi)
    · rw [List.mem_singleton] at he
      subst he
      exact ⟨p.handler, _, hmem.2.1, hclient, fun q hq =>
        (World.mem_calls_respond svc hp).mpr (Or.inr ⟨q, hq, rfl⟩)⟩

theorem World.Within.step {C : Contract σ ι α}
    (hreceive : ∀ i a s, C.call i → C.response i a → C.state s → C.state (svc.receive i a s))
    (hact : ∀ e s p, act e s = some p → p.Within C) {w w' : World V σ ι α}
    (hreply : ∀ i o, C.response i (svc.reply i o w.server)) {e : Event ε ω} (h : w.Within C)
    (hstep : step svc act w e = some w') : w'.Within C := by
  cases e with
  | act e =>
      obtain ⟨p, hp, rfl⟩ := (step_act svc act).mp hstep
      have hpw := hact e w.client p hp
      exact h.exec (hpw.preserves h.client) (fun q hq => hpw.pending h.client hq)
  | complete n o =>
      obtain ⟨p, hp, rfl⟩ := (step_complete svc act).mp hstep
      exact h.respond svc hreceive hp (hreply p.call o)

theorem mem_journal_of_step {w w' : World V σ ι α} {e : Event ε ω} {a : Entry ι α}
    (ha : a ∈ w.journal) (hstep : step svc act w e = some w') : a ∈ w'.journal := by
  cases e with
  | act e =>
      obtain ⟨p, _, rfl⟩ := (step_act svc act).mp hstep
      exact ha
  | complete n o =>
      obtain ⟨p, _, rfl⟩ := (step_complete svc act).mp hstep
      exact List.mem_append_left _ ha

/-- A run keeps to a contract that its events keep to and that reckons with the responses it
received. -/
theorem World.Within.run {C : Contract σ ι α}
    (hreceive : ∀ i a s, C.call i → C.response i a → C.state s → C.state (svc.receive i a s))
    {es : List (Event ε ω)} (hact : ∀ e, .act e ∈ es → ∀ s p, act e s = some p → p.Within C)
    {w w' : World V σ ι α} (h : w.Within C)
    (hjournal : ∀ a ∈ w'.journal, C.response a.call a.response)
    (hrun : EventRun.run (Callback.step svc act) w es = some w') : w'.Within C := by
  induction es generalizing w with
  | nil => cases hrun; exact h
  | cons e es ih =>
      obtain ⟨w₁, hstep, hrun⟩ := Option.bind_eq_some_iff.mp hrun
      refine ih (fun e he => hact e (List.mem_cons_of_mem _ he)) ?_ hrun
      cases e with
      | act e =>
          obtain ⟨p, hp, rfl⟩ := (step_act svc act).mp hstep
          have hpw := hact e List.mem_cons_self w.client p hp
          exact h.exec (hpw.preserves h.client) (fun q hq => hpw.pending h.client hq)
      | complete n o =>
          obtain ⟨p, hp, rfl⟩ := (step_complete svc act).mp hstep
          have hmem := EventRun.run_invariant (I := fun u => _ ∈ u.journal)
            (fun _ _ _ ha hs => mem_journal_of_step svc act ha hs)
            (List.mem_append_right _ (List.mem_singleton_self _)) hrun
          exact h.respond svc hreceive hp (hjournal _ hmem)

/-- A call that was sent stays sent. -/
theorem mem_calls_of_step {w w' : World V σ ι α} {e : Event ε ω} {i : ι} (hi : i ∈ w.calls)
    (hstep : step svc act w e = some w') : i ∈ w'.calls := by
  cases e with
  | act e =>
      obtain ⟨p, _, rfl⟩ := (step_act svc act).mp hstep
      exact World.mem_calls_exec.mpr (Or.inl hi)
  | complete n o =>
      obtain ⟨p, hp, rfl⟩ := (step_complete svc act).mp hstep
      exact (World.mem_calls_respond svc hp).mpr (Or.inl hi)

end Step

end Callback
