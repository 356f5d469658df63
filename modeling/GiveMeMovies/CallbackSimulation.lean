import Mathlib.Data.List.Forall2
import GiveMeMovies.CallbackProgram

/-!
# Runs that go alongside each other

Two processes with their services are compared through relations of their servers, of their states
and of the requests in flight. Programs match when they keep to these in all states that are alike,
and then every run of the one process is accompanied by a run of the other.
-/

namespace Callback

variable {σ V ω ε : Type*} {ι : Type*} {α : ι → Type*} {S : σ → σ → Prop}
  {Q : Pending σ ι α → Pending σ ι α → Prop}

namespace Prog

/-- The programs, run in states that are alike, leave such states and requests that match. -/
def Matches (S : σ → σ → Prop) (Q : Pending σ ι α → Pending σ ι α → Prop) (p q : Prog σ ι α) :
    Prop :=
  ∀ s t, S s t → S (p.run s).1 (q.run t).1 ∧ List.Forall₂ Q (p.run s).2 (q.run t).2

variable {p q p' q' : Prog σ ι α}

theorem matches_done : (done : Prog σ ι α).Matches S Q done := fun _ _ h => ⟨h, .nil⟩

theorem matches_read {k l : σ → Prog σ ι α} (h : ∀ s t, S s t → (k s).Matches S Q (l t)) :
    (read k).Matches S Q (read l) := fun s t hst => h s t hst s t hst

theorem matches_write {f g : σ → σ} (hf : ∀ s t, S s t → S (f s) (g t)) (h : p.Matches S Q q) :
    (write f p).Matches S Q (write g q) := fun s t hst => h (f s) (g t) (hf s t hst)

theorem matches_modify {f g : σ → σ} (hf : ∀ s t, S s t → S (f s) (g t)) :
    (modify f : Prog σ ι α).Matches S Q (modify g) := matches_write hf matches_done

theorem matches_request {i j : ι} {k : α i → Prog σ ι α} {l : α j → Prog σ ι α}
    (h : Q ⟨i, k⟩ ⟨j, l⟩) : (request i k).Matches S Q (request j l) :=
  fun _ _ hst => ⟨hst, .cons h .nil⟩

theorem Matches.append (h : p.Matches S Q q) (h' : p'.Matches S Q q') :
    (p ++ p').Matches S Q (q ++ q') := by
  intro s t hst
  obtain ⟨hfirst, hsent⟩ := h s t hst
  obtain ⟨hlast, hsent'⟩ := h' _ _ hfirst
  rw [run_append, run_append]
  exact ⟨hlast, List.rel_append hsent hsent'⟩

end Prog

theorem exists_of_forall₂ {β : Type*} {R : β → β → Prop} {l l' : List β} {n : ℕ} {b : β}
    (h : List.Forall₂ R l l') (hb : l[n]? = some b) :
    ∃ b', l'[n]? = some b' ∧ R b b' ∧ List.Forall₂ R (l.eraseIdx n) (l'.eraseIdx n) := by
  induction h generalizing n with
  | nil => cases hb
  | cons hhead htail ih =>
      cases n with
      | zero =>
          cases hb
          exact ⟨_, rfl, hhead, htail⟩
      | succ n =>
          obtain ⟨b', hb', hR, herase⟩ := ih hb
          exact ⟨b', hb', hR, .cons hhead herase⟩

/-- The worlds are alike in every part. -/
structure World.Matches (T : V → V → Prop) (S : σ → σ → Prop)
    (Q : Pending σ ι α → Pending σ ι α → Prop) (E : Entry ι α → Entry ι α → Prop)
    (w w' : World V σ ι α) : Prop where
  server : T w.server w'.server
  client : S w.client w'.client
  inFlight : List.Forall₂ Q w.inFlight w'.inFlight
  journal : List.Forall₂ E w.journal w'.journal

namespace World.Matches

variable {T : V → V → Prop} {E : Entry ι α → Entry ι α → Prop} {w w' : World V σ ι α}

theorem start {server server' : V} {client client' : σ} (hserver : T server server')
    (hclient : S client client') :
    (World.start server client : World V σ ι α).Matches T S Q E (World.start server' client') :=
  ⟨hserver, hclient, .nil, .nil⟩

theorem exec {p q : Prog σ ι α} (h : w.Matches T S Q E w') (hp : p.Matches S Q q) :
    (w.exec p).Matches T S Q E (w'.exec q) := by
  obtain ⟨hclient, hsent⟩ := hp _ _ h.client
  exact ⟨h.server, hclient, List.rel_append h.inFlight hsent, h.journal⟩

/-- The answers to two requests that match are alike in all that they do. -/
structure Answers (svc : Service V σ ι α ω) (T : V → V → Prop) (S : σ → σ → Prop)
    (Q : Pending σ ι α → Pending σ ι α → Prop) (E : Entry ι α → Entry ι α → Prop)
    (v v' : V) (p q : Pending σ ι α) (a : α p.call) (b : α q.call) : Prop where
  commit : T (svc.commit p.call a v) (svc.commit q.call b v')
  receive : ∀ s t, S s t → S (svc.receive p.call a s) (svc.receive q.call b t)
  handler : (p.handler a).Matches S Q (q.handler b)
  entry : E ⟨p.call, a⟩ ⟨q.call, b⟩

theorem complete (svc : Service V σ ι α ω) {n : ℕ} {p : Pending σ ι α} {o : ω}
    (h : w.Matches T S Q E w') (hp : w.inFlight[n]? = some p)
    (hanswers : ∀ q, Q p q → Answers svc T S Q E w.server w'.server p q
      (svc.reply p.call o w.server) (svc.reply q.call o w'.server)) :
    ∃ q, w'.inFlight[n]? = some q ∧
      (w.respond svc n p (svc.reply p.call o w.server)).Matches T S Q E
        (w'.respond svc n q (svc.reply q.call o w'.server)) := by
  obtain ⟨q, hq, hpq, herase⟩ := exists_of_forall₂ h.inFlight hp
  have ha := hanswers q hpq
  refine ⟨q, hq, ?_⟩
  unfold World.respond
  refine exec ⟨ha.commit, ha.receive _ _ h.client, herase, ?_⟩ ha.handler
  exact List.rel_append h.journal (.cons ha.entry .nil)

end World.Matches

end Callback
