import Mathlib.Algebra.Order.Group.Multiset
import Mathlib.Tactic.Abel
import GiveMeMovies.CallbackProgram

/-!
# Tasks

A task is a callback program that answers its caller. Passing it the handlers of the caller
makes it a callback program. A `Round` is one task at work: the requests in flight are answered
in any order and with any response, and in between the state of the process may become any other.
What a task has answered and received when nothing is in flight any more is one of the results
that `Yields` describes, without regard to the order.
-/

namespace Callback

variable {σ β : Type*} {ι : Type*} {α : ι → Type*}

inductive Task (σ : Type*) (ι : Type*) (α : ι → Type*) (β : Type*) where
  | done
  | read (k : σ → Task σ ι α β)
  | write (f : σ → σ) (next : Task σ ι α β)
  | send (i : ι) (k : α i → Task σ ι α β) (next : Task σ ι α β)
  | answer (b : β) (next : Task σ ι α β)

/-- A request in flight, with the rest of the task that waits for the response. -/
structure Waiting (σ : Type*) (ι : Type*) (α : ι → Type*) (β : Type*) where
  call : ι
  handler : α call → Task σ ι α β

namespace Task

/-- The program that calls the handlers `h` of the caller. -/
def handle (h : β → Prog σ ι α) : Task σ ι α β → Prog σ ι α
  | .done => .done
  | .read k => .read (fun s => (k s).handle h)
  | .write f next => .write f (next.handle h)
  | .send i k next => .send i (fun a => (k a).handle h) (next.handle h)
  | .answer b next => h b ++ next.handle h

/-- Answers, and does nothing more. -/
def reply (b : β) : Task σ ι α β := .answer b .done

/-- Sends a request, and what follows is up to the response. -/
def request (i : ι) (k : α i → Task σ ι α β) : Task σ ι α β := .send i k .done

@[simp] theorem handle_reply (h : β → Prog σ ι α) (b : β) :
    (reply b : Task σ ι α β).handle h = h b :=
  Prog.append_done (h b)

def run : Task σ ι α β → σ → σ × List β × List (Waiting σ ι α β)
  | .done, s => (s, [], [])
  | .read k, s => (k s).run s
  | .write f next, s => next.run (f s)
  | .send i k next, s => ((next.run s).1, (next.run s).2.1, ⟨i, k⟩ :: (next.run s).2.2)
  | .answer b next, s => ((next.run s).1, b :: (next.run s).2.1, (next.run s).2.2)

/-- The task, begun in the state `s`, can answer `bs` and receive the responses `es`. -/
def Yields : Task σ ι α β → σ → Multiset β → Multiset (Entry ι α) → Prop
  | .done, _, bs, es => bs = 0 ∧ es = 0
  | .read k, s, bs, es => (k s).Yields s bs es
  | .write f next, s, bs, es => next.Yields (f s) bs es
  | .send i k next, s, bs, es => ∃ bs₁ es₁ s' a bs₂ es₂, next.Yields s bs₁ es₁ ∧
      (k a).Yields s' bs₂ es₂ ∧ bs = bs₁ + bs₂ ∧ es = es₁ + ((⟨i, a⟩ : Entry ι α) ::ₘ es₂)
  | .answer b next, s, bs, es => ∃ bs', next.Yields s bs' es ∧ bs = b ::ₘ bs'

variable {t : Task σ ι α β} {s : σ} {bs : Multiset β} {es : Multiset (Entry ι α)}

theorem yields_reply {b : β} : (reply b : Task σ ι α β).Yields s bs es ↔ bs = {b} ∧ es = 0 := by
  constructor
  · rintro ⟨bs', ⟨rfl, rfl⟩, rfl⟩
    exact ⟨rfl, rfl⟩
  · rintro ⟨rfl, rfl⟩
    exact ⟨0, ⟨rfl, rfl⟩, rfl⟩

theorem yields_request {i : ι} {k : α i → Task σ ι α β} : (request i k).Yields s bs es ↔
    ∃ s' a es', (k a).Yields s' bs es' ∧ es = (⟨i, a⟩ : Entry ι α) ::ₘ es' := by
  constructor
  · rintro ⟨bs₁, es₁, s', a, bs₂, es₂, ⟨rfl, rfl⟩, h, rfl, rfl⟩
    exact ⟨s', a, es₂, by simpa using h, by simp⟩
  · rintro ⟨s', a, es', h, rfl⟩
    exact ⟨0, 0, s', a, bs, es', ⟨rfl, rfl⟩, h, by simp, by simp⟩

/-- A request whose response is answered in every case. -/
theorem yields_request_reply {i : ι} {f : α i → β} :
    (request i (fun a => reply (f a)) : Task σ ι α β).Yields s bs es ↔
      ∃ a, bs = {f a} ∧ es = {(⟨i, a⟩ : Entry ι α)} := by
  rw [yields_request]
  constructor
  · rintro ⟨s', a, es', h, rfl⟩
    obtain ⟨rfl, rfl⟩ := yields_reply.mp h
    exact ⟨a, rfl, rfl⟩
  · rintro ⟨a, rfl, rfl⟩
    exact ⟨s, a, 0, yields_reply.mpr ⟨rfl, rfl⟩, rfl⟩

end Task

/-! ## Rounds -/

structure Round (σ : Type*) (ι : Type*) (α : ι → Type*) (β : Type*) where
  client : σ
  answers : List β
  inFlight : List (Waiting σ ι α β)
  journal : List (Entry ι α)

namespace Round

def exec (w : Round σ ι α β) (t : Task σ ι α β) : Round σ ι α β :=
  { w with
    client := (t.run w.client).1
    answers := w.answers ++ (t.run w.client).2.1
    inFlight := w.inFlight ++ (t.run w.client).2.2 }

/-- The task has just been called. -/
def start (s : σ) (t : Task σ ι α β) : Round σ ι α β := exec ⟨s, [], [], []⟩ t

/-- An event changes the state of the process, or completes a request with the response that a
responder gives. -/
def step (w : Round σ ι α β) : Event (σ → σ) ((i : ι) → α i) → Option (Round σ ι α β)
  | .act f => some { w with client := f w.client }
  | .complete n respond => w.inFlight[n]?.map fun p =>
      exec
        { w with
          inFlight := w.inFlight.eraseIdx n
          journal := w.journal ++ [⟨p.call, respond p.call⟩] }
        (p.handler (respond p.call))

/-- The requests in flight can still lead to the answers `bs` and the responses `es`. -/
def Owes : List (Waiting σ ι α β) → Multiset β → Multiset (Entry ι α) → Prop
  | [], bs, es => bs = 0 ∧ es = 0
  | p :: ps, bs, es => ∃ s a bs₁ es₁ bs₂ es₂, (p.handler a).Yields s bs₁ es₁ ∧ Owes ps bs₂ es₂ ∧
      bs = bs₁ + bs₂ ∧ es = ((⟨p.call, a⟩ : Entry ι α) ::ₘ es₁) + es₂

theorem owes_append {ps qs : List (Waiting σ ι α β)} {bs : Multiset β}
    {es : Multiset (Entry ι α)} (h : Owes (ps ++ qs) bs es) :
    ∃ bs₁ es₁ bs₂ es₂, Owes ps bs₁ es₁ ∧ Owes qs bs₂ es₂ ∧ bs = bs₁ + bs₂ ∧ es = es₁ + es₂ := by
  induction ps generalizing bs es with
  | nil => exact ⟨0, 0, bs, es, ⟨rfl, rfl⟩, h, by simp, by simp⟩
  | cons p ps ih =>
      obtain ⟨s, a, bs₁, es₁, bs₂, es₂, hp, hps, rfl, rfl⟩ := h
      obtain ⟨bs₃, es₃, bs₄, es₄, hrest, hqs, rfl, rfl⟩ := ih hps
      refine ⟨bs₁ + bs₃, ((⟨p.call, a⟩ : Entry ι α) ::ₘ es₁) + es₃, bs₄, es₄, ?_, hqs, ?_, ?_⟩
      · exact ⟨s, a, bs₁, es₁, bs₃, es₃, hp, hrest, rfl, rfl⟩
      · rw [add_assoc]
      · rw [add_assoc]

/-- What a request leads to comes to what the others owe. -/
theorem owes_insert {ps : List (Waiting σ ι α β)} {n : ℕ} {p : Waiting σ ι α β}
    (hp : ps[n]? = some p) {s : σ} {a : α p.call} {bs₁ bs₂ : Multiset β}
    {es₁ es₂ : Multiset (Entry ι α)} (h : (p.handler a).Yields s bs₁ es₁)
    (hrest : Owes (ps.eraseIdx n) bs₂ es₂) :
    Owes ps (bs₁ + bs₂) (((⟨p.call, a⟩ : Entry ι α) ::ₘ es₁) + es₂) := by
  induction ps generalizing n bs₂ es₂ with
  | nil => cases hp
  | cons q ps ih =>
      cases n with
      | zero =>
          cases hp
          exact ⟨s, a, bs₁, es₁, bs₂, es₂, h, hrest, rfl, rfl⟩
      | succ n =>
          obtain ⟨s', a', bs₃, es₃, bs₄, es₄, hq, hps, rfl, rfl⟩ := hrest
          refine ⟨s', a', bs₃, es₃, bs₁ + bs₄, _, hq, ih hp hps, ?_, ?_⟩
          · rw [add_left_comm]
          · rw [add_left_comm]

/-- What a task has answered, together with what its requests lead to, is what it yields. -/
theorem yields_of_owes {t : Task σ ι α β} {s : σ} {bs : Multiset β} {es : Multiset (Entry ι α)}
    (h : Owes (t.run s).2.2 bs es) : t.Yields s (↑(t.run s).2.1 + bs) es := by
  induction t generalizing s bs es with
  | done =>
      obtain ⟨rfl, rfl⟩ := h
      exact ⟨rfl, rfl⟩
  | read k ih => exact ih s h
  | write f next ih => exact ih h
  | answer b next ih => exact ⟨_, ih h, Multiset.cons_add b ↑(next.run s).2.1 bs⟩
  | send i k next _ ih =>
      obtain ⟨s', a, bs₁, es₁, bs₂, es₂, hk, hnext, rfl, rfl⟩ := h
      refine ⟨_, es₂, s', a, bs₁, es₁, ih hnext, hk, ?_, ?_⟩
      · rw [add_comm bs₁, ← add_assoc]
        rfl
      · exact add_comm _ _

/-- When nothing is in flight any more, what was answered and received since is what the requests
owed. -/
theorem owes_of_run {w w' : Round σ ι α β} {es : List (Event (σ → σ) ((i : ι) → α i))}
    (hrun : EventRun.run step w es = some w') (hsettled : w'.inFlight = []) :
    ∃ bs rs, Owes w.inFlight bs rs ∧ (w'.answers : Multiset β) = ↑w.answers + bs ∧
      (w'.journal : Multiset (Entry ι α)) = ↑w.journal + rs := by
  induction es generalizing w with
  | nil =>
      cases hrun
      rw [hsettled]
      exact ⟨0, 0, ⟨rfl, rfl⟩, by simp, by simp⟩
  | cons e es ih =>
      obtain ⟨w₁, hstep, hrest⟩ := Option.bind_eq_some_iff.mp hrun
      obtain ⟨bs, rs, howes, hanswers, hjournal⟩ := ih hrest
      cases e with
      | act f =>
          cases hstep
          exact ⟨bs, rs, howes, hanswers, hjournal⟩
      | complete n respond =>
          obtain ⟨p, hp, rfl⟩ := Option.map_eq_some_iff.mp hstep
          obtain ⟨bs₁, rs₁, bs₂, rs₂, hothers, hsent, rfl, rfl⟩ := owes_append howes
          have hyields := yields_of_owes hsent
          refine ⟨_, _, owes_insert hp hyields hothers, ?_, ?_⟩
          · rw [hanswers]
            simp only [exec, ← Multiset.coe_add]
            abel
          · rw [hjournal]
            simp only [exec, ← Multiset.coe_add, ← Multiset.singleton_add, Multiset.coe_singleton]
            abel

/-- What a task has answered and received in the end is what it yields. -/
theorem yields_of_run {t : Task σ ι α β} {s : σ} {w : Round σ ι α β}
    {es : List (Event (σ → σ) ((i : ι) → α i))}
    (hrun : EventRun.run step (start s t) es = some w) (hsettled : w.inFlight = []) :
    t.Yields s ↑w.answers ↑w.journal := by
  obtain ⟨bs, rs, howes, hanswers, hjournal⟩ := owes_of_run hrun hsettled
  have hyields : t.Yields s (↑(t.run s).2.1 + bs) rs := yields_of_owes howes
  have hfirst : (w.answers : Multiset β) = ↑(t.run s).2.1 + bs := hanswers
  have hreceived : (w.journal : Multiset (Entry ι α)) = rs := by
    rw [hjournal]
    exact zero_add rs
  rw [hfirst, hreceived]
  exact hyields

end Round

end Callback
