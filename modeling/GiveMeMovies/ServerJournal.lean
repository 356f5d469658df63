import Mathlib.Data.List.Induction
import GiveMeMovies.App

/-!
# What a journal leaves on the server

While no request deletes or replaces, a field of a document holds the value of the last
successful write to it in the journal, and an object the bytes of the last successful upload, or
else what was there before.
-/

namespace GiveMeMovies

variable {Image Data : Type}

abbrev Entry (Image Data : Type) := Callback.Entry (Call Data) (Call.Response Image)

def Server.field (server : Server Data) (uid : Uid) (key : String) : Option Value :=
  (server.docs uid).bind (fun doc => doc key)

/-- The requests that neither delete a document or an object nor replace a document. -/
def Request.Keeps : Request Data → Prop
  | .setData _ _ merge => merge = true
  | .deleteDocument _ | .deleteObject _ => False
  | _ => True

/-- What a successful write makes of the document `users/uid`. -/
def Request.rewritten (uid : Uid) : Request Data → Option Fields → Option Fields
  | .setData uid' fields merge, doc =>
      if uid' = uid then some (if merge then (doc.getD Fields.empty).merge fields else fields)
      else doc
  | .updateData uid' fields, doc =>
      if uid' = uid then some ((doc.getD Fields.empty).merge fields) else doc
  | .deleteDocument uid', doc => if uid' = uid then none else doc
  | _, doc => doc

theorem Request.docs_commit (request : Request Data) (a : request.Response Image)
    (server : Server Data) (uid : Uid) :
    (request.commit a server).docs uid =
      if request.Succeeded a then request.rewritten uid (server.docs uid) else server.docs uid := by
  have hwrite (uid' : Uid) (doc : Option Fields) :
      (server.setDoc uid' doc).docs uid = if uid' = uid then doc else server.docs uid := by
    by_cases hu : uid' = uid
    · simp [Server.setDoc, hu]
    · simp [Server.setDoc, hu, Ne.symm hu]
  cases request with
  | setData uid' fields merge =>
      cases a with
      | some error => rfl
      | none =>
          refine (hwrite uid' _).trans ?_
          change _ = if uid' = uid then _ else _
          by_cases hu : uid' = uid
          · rw [if_pos hu, if_pos hu, ← hu, Server.writtenDoc]
          · rw [if_neg hu, if_neg hu]
  | updateData uid' fields =>
      cases a with
      | some error => rfl
      | none =>
          refine (hwrite uid' _).trans ?_
          change _ = if uid' = uid then _ else _
          by_cases hu : uid' = uid
          · rw [if_pos hu, if_pos hu, ← hu, Server.writtenDoc, if_pos rfl]
          · rw [if_neg hu, if_neg hu]
  | deleteDocument uid' =>
      cases a with
      | some error => rfl
      | none => exact hwrite uid' none
  | createUser email password =>
      cases a with
      | ok user => rfl
      | error failure =>
          rw [commit_createUser_error]
          cases failure.made <;> rfl
  | _ =>
      cases a <;> simp [commit, rewritten, Server.removeAccount, Server.setObject]

namespace Journal

/-- The value of `f` at the last entry that has one. -/
def latest {β δ : Type} (f : δ → Option β) (journal : List δ) : Option β :=
  journal.reverse.findSome? f

/-- The value that an answered request left in a field of `users/uid`. -/
def written (uid : Uid) (key : String) : Entry Image Data → Option Value
  | ⟨⟨_, _, .setData uid' fields _⟩, none⟩ => if uid' = uid then fields key else none
  | ⟨⟨_, _, .updateData uid' fields⟩, none⟩ => if uid' = uid then fields key else none
  | _ => none

/-- The bytes that an answered request left in the object `ref`. -/
def uploaded (ref : StorageReference) : Entry Image Data → Option Data
  | ⟨⟨_, _, .putData ref' data⟩, none⟩ => if ref' = ref then some data else none
  | _ => none

/-- The picture that an answered request brought. -/
def downloaded : Entry Image Data → Option Image
  | ⟨⟨_, _, .loadImage _ _⟩, image⟩ => image
  | _ => none

def replay (server : Server Data) (journal : Journal Image Data) : Server Data :=
  journal.foldl (fun server e => e.call.request.commit e.response server) server

section Latest

variable {β γ δ : Type} {f : δ → Option β} {journal : List δ}

theorem latest_concat (e : δ) :
    latest f (journal ++ [e]) = (f e).or (latest f journal) := by
  rw [latest, List.reverse_append, List.reverse_singleton, List.singleton_append,
    List.findSome?_cons]
  cases f e with
  | none => rfl
  | some b => rfl

theorem latest_eq_none : latest f journal = none ↔ ∀ e ∈ journal, f e = none := by
  simp [latest]

theorem exists_of_latest {b : β} (h : latest f journal = some b) :
    ∃ e ∈ journal, f e = some b := by
  obtain ⟨e, he, hf⟩ := List.exists_of_findSome?_eq_some h
  exact ⟨e, List.mem_reverse.mp he, hf⟩

theorem latest_comp {g : γ → δ} {journal : List γ} :
    latest f (journal.map g) = latest (fun e => f (g e)) journal := by
  rw [latest, latest, ← List.map_reverse, List.findSome?_map]
  rfl

theorem latest_bind {g : δ → Option γ} {h : β → Option γ}
    (hg : ∀ e ∈ journal, g e = (f e).bind h)
    (hsome : ∀ e ∈ journal, ∀ b, f e = some b → (h b).isSome) :
    latest g journal = (latest f journal).bind h := by
  induction journal using List.reverseRecOn with
  | nil => rfl
  | append_singleton journal e ih =>
      have hrest : latest g journal = (latest f journal).bind h :=
        ih (fun e he => hg e (List.mem_append_left _ he))
          fun e he => hsome e (List.mem_append_left _ he)
      have hlast : e ∈ journal ++ [e] := List.mem_append_right _ (List.mem_singleton_self _)
      rw [latest_concat, latest_concat, hrest, hg e hlast]
      cases hb : f e with
      | none => rfl
      | some b =>
          obtain ⟨c, hc⟩ := Option.isSome_iff_exists.mp (hsome e hlast b hb)
          simp [hc]

theorem latest_map {g : δ → Option γ} {h : β → γ}
    (hg : ∀ e ∈ journal, g e = (f e).map h) : latest g journal = (latest f journal).map h := by
  induction journal using List.reverseRecOn with
  | nil => rfl
  | append_singleton journal e ih =>
      have hrest : latest g journal = (latest f journal).map h :=
        ih fun e he => hg e (List.mem_append_left _ he)
      have he : g e = (f e).map h := hg e (List.mem_append_right _ (List.mem_singleton_self _))
      rw [latest_concat, latest_concat, hrest, he]
      cases f e with
      | none => rfl
      | some b => rfl

end Latest

theorem replay_concat (server : Server Data) (journal : Journal Image Data)
    (e : Entry Image Data) :
    replay server (journal ++ [e]) = e.call.request.commit e.response (replay server journal) :=
  by simp [replay]

@[simp] theorem urlOf_replay (server : Server Data) (journal : Journal Image Data) :
    (replay server journal).urlOf = server.urlOf := by
  induction journal using List.reverseRecOn with
  | nil => rfl
  | append_singleton journal e ih => rw [replay_concat, Request.urlOf_commit, ih]

theorem field_setDoc_merge (server : Server Data) (uid uid' : Uid) (fields : Fields)
    (key : String) :
    (server.setDoc uid' (some (server.writtenDoc uid' fields true))).field uid key =
      (if uid' = uid then fields key else none).or (server.field uid key) := by
  by_cases hu : uid' = uid
  · subst hu
    cases hd : server.docs uid' with
    | none => simp [Server.field, Server.setDoc, Server.writtenDoc, Fields.merge, hd]
    | some doc => simp [Server.field, Server.setDoc, Server.writtenDoc, Fields.merge, hd]
  · have hne : uid ≠ uid' := fun h => hu h.symm
    simp [Server.field, Server.setDoc, hu, hne]

theorem field_commit {e : Entry Image Data} (h : e.call.request.Keeps) (server : Server Data)
    (uid : Uid) (key : String) :
    (e.call.request.commit e.response server).field uid key =
      (written uid key e).or (server.field uid key) := by
  obtain ⟨⟨place, self, request⟩, a⟩ := e
  cases request with
  | setData uid' fields merge =>
      cases h
      cases a with
      | some error => rfl
      | none => exact field_setDoc_merge server uid uid' fields key
  | updateData uid' fields =>
      cases a with
      | some error => rfl
      | none => exact field_setDoc_merge server uid uid' fields key
  | deleteDocument uid' => exact absurd h id
  | deleteObject ref => exact absurd h id
  | putData ref data => cases a <;> rfl
  | signIn email password => cases a <;> rfl
  | createUser email password =>
      cases a with
      | ok user => rfl
      | error failure =>
          rw [Request.commit_createUser_error]
          cases failure.made <;> rfl
  | reload user uid' => cases a <;> rfl
  | delete user uid' => cases a <;> rfl
  | sendEmailVerification user uid' => rfl
  | updateCurrentUser user => rfl
  | getDocument uid' => rfl
  | downloadURL ref => rfl
  | loadImage photoUrl photoReference => rfl
  | timer => rfl

theorem objects_commit {e : Entry Image Data} (h : e.call.request.Keeps) (server : Server Data)
    (ref : StorageReference) :
    (e.call.request.commit e.response server).objects ref =
      (uploaded ref e).or (server.objects ref) := by
  obtain ⟨⟨place, self, request⟩, a⟩ := e
  cases request with
  | putData ref' data =>
      cases a with
      | some error => rfl
      | none =>
          by_cases hr : ref' = ref
          · simp [Request.commit, Server.setObject, uploaded, hr]
          · have hne : ref ≠ ref' := fun he => hr he.symm
            simp [Request.commit, Server.setObject, uploaded, hr, hne]
  | setData uid' fields merge => cases a <;> rfl
  | updateData uid' fields => cases a <;> rfl
  | deleteDocument uid' => exact absurd h id
  | deleteObject ref => exact absurd h id
  | signIn email password => cases a <;> rfl
  | createUser email password =>
      cases a with
      | ok user => rfl
      | error failure =>
          rw [Request.commit_createUser_error]
          cases failure.made <;> rfl
  | reload user uid' => cases a <;> rfl
  | delete user uid' => cases a <;> rfl
  | sendEmailVerification user uid' => rfl
  | updateCurrentUser user => rfl
  | getDocument uid' => rfl
  | downloadURL ref => rfl
  | loadImage photoUrl photoReference => rfl
  | timer => rfl

theorem field_replay {journal : Journal Image Data} (server : Server Data) (uid : Uid)
    (key : String) (h : ∀ e ∈ journal, e.call.request.Keeps) :
    (replay server journal).field uid key =
      (latest (written uid key) journal).or (server.field uid key) := by
  induction journal using List.reverseRecOn with
  | nil => rfl
  | append_singleton journal e ih =>
      have he : e.call.request.Keeps := h e (List.mem_append_right _ (List.mem_singleton_self _))
      rw [replay_concat, field_commit he, ih fun e he => h e (List.mem_append_left _ he),
        latest_concat, Option.or_assoc]

theorem objects_replay {journal : Journal Image Data} (server : Server Data)
    (ref : StorageReference) (h : ∀ e ∈ journal, e.call.request.Keeps) :
    (replay server journal).objects ref =
      (latest (uploaded ref) journal).or (server.objects ref) := by
  induction journal using List.reverseRecOn with
  | nil => rfl
  | append_singleton journal e ih =>
      have he : e.call.request.Keeps := h e (List.mem_append_right _ (List.mem_singleton_self _))
      rw [replay_concat, objects_commit he, ih fun e he => h e (List.mem_append_left _ he),
        latest_concat, Option.or_assoc]

/-- A download address is the one of the object it was asked for. -/
def Genuine (urlOf : StorageReference → String) : Entry Image Data → Prop
  | ⟨⟨_, _, .downloadURL ref⟩, .ok url⟩ => url = urlOf ref
  | _ => True

theorem genuine_reply (call : Call Data) (outcome : Outcome Image) (server : Server Data) :
    Genuine server.urlOf ⟨call, call.request.reply outcome server⟩ := by
  obtain ⟨place, self, request⟩ := call
  cases request with
  | downloadURL ref =>
      dsimp only
      cases hr : (Request.downloadURL ref : Request Data).reply outcome server with
      | error error => trivial
      | ok url => exact Request.url_of_downloadURL_ok hr
  | _ => trivial

section Run

variable {ε : Type} {act : ε → App Image → Option (Program Image Data)}
  {w w' : World Image Data} {es : List (Callback.Event ε (Outcome Image))}

theorem server_of_run (h0 : w.journal = [])
    (hrun : EventRun.run (Callback.step (service Image Data) act) w es = some w') :
    w'.server = replay w.server w'.journal :=
  Callback.server_eq_replay _ _ h0 hrun

theorem genuine_of_run (h0 : w.journal = [])
    (hrun : EventRun.run (Callback.step (service Image Data) act) w es = some w') :
    ∀ e ∈ w'.journal, Genuine w.server.urlOf e := by
  have hinv : w'.server.urlOf = w.server.urlOf ∧ ∀ e ∈ w'.journal, Genuine w.server.urlOf e := by
    refine EventRun.run_invariant (I := fun u => u.server.urlOf = w.server.urlOf ∧
      ∀ e ∈ u.journal, Genuine w.server.urlOf e) ?_ ⟨rfl, by simp [h0]⟩ hrun
    intro u e u' hu hstep
    cases e with
    | act e =>
        obtain ⟨p, _, rfl⟩ := (Callback.step_act _ _).mp hstep
        exact hu
    | complete n outcome =>
        obtain ⟨p, _, rfl⟩ := (Callback.step_complete _ _).mp hstep
        refine ⟨(Request.urlOf_commit _ _ _).trans hu.1, fun e he => ?_⟩
        rcases List.mem_append.mp he with he | he
        · exact hu.2 e he
        · rw [List.mem_singleton] at he
          subst he
          rw [← hu.1]
          exact genuine_reply p.call outcome u.server
  exact hinv.2

end Run

end Journal

end GiveMeMovies
