import GiveMeMovies.DocumentWrites
import GiveMeMovies.Registration

/-!
# Deleted profiles

An update of a missing document fails, but the library merges the photo pointers into the
document of whoever is signed in when the address of the photo arrives, and a merge creates a
missing document. Writes are answered in the order in which they were sent, so a merge brings a
deleted profile back only if its address arrived after the deletion had been sent.
-/

namespace GiveMeMovies.DeletedProfile

open AppRuns AppRequests Journal

variable {Image Data : Type}

/-- Whether an answered request deleted `users/uid`, or registered it. -/
def deletion (uid : Uid) : Entry Image Data → Option Bool
  | ⟨⟨_, _, .deleteDocument uid'⟩, none⟩ => if uid' = uid then some true else none
  | ⟨⟨_, _, .setData uid' _ false⟩, none⟩ => if uid' = uid then some false else none
  | _ => none

/-- A deletion of `users/uid` has taken effect, and no registration of it has since. -/
def Deleted (uid : Uid) (journal : Journal Image Data) : Prop :=
  latest (deletion uid) journal = some true

def StaysDeleted (uid : Uid) (w : World Image Data) : Prop :=
  Deleted uid w.journal → w.server.docs uid = none

/-- The request merges photo pointers into `users/uid`. -/
def merges (uid : Uid) : Request Data → Bool
  | .setData uid' _ true => uid' = uid
  | _ => false

def deletes (uid : Uid) : Request Data → Bool
  | .deleteDocument uid' => uid' = uid
  | _ => false

/-- The request asks for the address of a photo that the library has stored. -/
def asksForPhoto : Request Data → Bool
  | .downloadURL ref => ref.photoOwner.isSome
  | _ => false

/-- The event answers a merge into `users/uid` with success, and the document had been deleted. -/
def MergesDeleted (uid : Uid) (w : World Image Data) (e : OwnEvent Image) : Prop :=
  ∃ n outcome p fields, e = .app (.complete n outcome) ∧ w.inFlight[n]? = some p ∧
    p.call.request = .setData uid fields true ∧
    p.call.request.SucceedsUnder outcome w.server ∧ Deleted uid w.journal

/-- A write of `users/uid` is answered only when those sent before it have been. The writes of a
user wait in one pipeline, from which the library sends them in order. -/
def InOrder (uid : Uid) (w : World Image Data) : OwnEvent Image → Prop
  | .app (.complete n _) =>
      (w.inFlight[n]?.bind fun p => target p.call.request) = some uid →
        ∀ q ∈ w.inFlight.take n, target q.call.request ≠ some uid
  | _ => True

/-- The event brings the address of a photo that the library has stored. -/
def bringsAddress (w : World Image Data) : OwnEvent Image → Bool
  | .app (.complete n outcome) => w.inFlight[n]?.any fun p =>
      asksForPhoto p.call.request && p.call.request.SucceedsUnder outcome w.server
  | _ => false

/-- The address arrives while `uid` is signed in, and a deletion of `users/uid` has taken effect or
is under way. -/
structure LateAddress (uid : Uid) (w : World Image Data) (e : OwnEvent Image) : Prop where
  brings : bringsAddress w e = true
  signedIn : w.client.currentUid = some uid
  deletion : Deleted uid w.journal ∨ ∃ q ∈ w.inFlight, deletes uid q.call.request = true

variable {ios : Platform Image Data} {uid : Uid} {w : World Image Data}

theorem deleted_concat (journal : Journal Image Data) (e : Entry Image Data) :
    Deleted uid (journal ++ [e]) ↔
      (deletion uid e).or (latest (deletion uid) journal) = some true := by
  rw [Deleted, latest_concat]

theorem mergesDeleted_complete {n : ℕ} {outcome : Outcome Image} {p : Pending Image Data}
    (hp : w.inFlight[n]? = some p) : MergesDeleted uid w (.app (.complete n outcome)) ↔
      ∃ fields, p.call.request = .setData uid fields true ∧
        p.call.request.SucceedsUnder outcome w.server ∧ Deleted uid w.journal := by
  constructor
  · rintro ⟨m, outcome', q, fields, he, hq, h⟩
    cases he
    cases hp.symm.trans hq
    exact ⟨fields, h⟩
  · rintro ⟨fields, h⟩
    exact ⟨n, outcome, p, fields, rfl, hp, h⟩

theorem deletion_of_target_ne {call : Call Data} (h : target call.request ≠ some uid)
    (a : call.Response Image) : deletion uid ⟨call, a⟩ = none := by
  obtain ⟨place, self, request⟩ := call
  cases request with
  | setData uid' fields merge =>
      cases a with
      | some error => cases merge <;> rfl
      | none =>
          cases merge with
          | true => rfl
          | false => exact if_neg fun hu => h (congrArg some hu)
  | deleteDocument uid' =>
      cases a with
      | some error => rfl
      | none => exact if_neg fun hu => h (congrArg some hu)
  | _ => rfl

/-- A failed request neither deletes nor registers. -/
theorem deletion_of_failed {call : Call Data} {a : call.Response Image}
    (h : ¬ call.request.Succeeded a) : deletion uid ⟨call, a⟩ = none := by
  obtain ⟨place, self, request⟩ := call
  cases request with
  | setData uid' fields merge =>
      cases a with
      | some error => cases merge <;> rfl
      | none => exact absurd rfl h
  | deleteDocument uid' =>
      cases a with
      | some error => rfl
      | none => exact absurd rfl h
  | _ => rfl

/-- An answer that neither deletes nor registers nor writes keeps a deleted profile deleted. -/
theorem staysDeleted_unchanged {n : ℕ} {outcome : Outcome Image} {p : Pending Image Data}
    (h : StaysDeleted uid w)
    (hdocs : (answer w n p outcome).server.docs uid = w.server.docs uid)
    (hdeletion : deletion uid ⟨p.call, p.call.request.reply outcome w.server⟩ = none) :
    StaysDeleted uid (answer w n p outcome) := by
  intro hdeleted
  rw [hdocs]
  apply h
  change Deleted uid (w.journal ++ [_]) at hdeleted
  rw [deleted_concat, hdeletion] at hdeleted
  exact hdeleted

/-- A successful write leaves a document, so the profile stays deleted only if it is not, or is no
longer, a deleted one. -/
theorem staysDeleted_written {n : ℕ} {outcome : Outcome Image} {p : Pending Image Data}
    {doc : Fields} (hdoc : (answer w n p outcome).server.docs uid = some doc) :
    StaysDeleted uid (answer w n p outcome) ↔
      ¬ (deletion uid ⟨p.call, p.call.request.reply outcome w.server⟩).or
        (latest (deletion uid) w.journal) = some true := by
  have hdeleted : Deleted uid (answer w n p outcome).journal ↔
      (deletion uid ⟨p.call, p.call.request.reply outcome w.server⟩).or
        (latest (deletion uid) w.journal) = some true := deleted_concat _ _
  rw [StaysDeleted, hdeleted, hdoc]
  constructor
  · intro h hlast
    cases h hlast
  · intro h hlast
    exact absurd hlast h

theorem staysDeleted_succeeded {n : ℕ} {outcome : Outcome Image} {p : Pending Image Data}
    (h : StaysDeleted uid w) (hsucceeded : p.call.request.SucceedsUnder outcome w.server) :
    StaysDeleted uid (answer w n p outcome) ↔
      ¬ ∃ fields, p.call.request = .setData uid fields true ∧ Deleted uid w.journal := by
  have hdocs : (answer w n p outcome).server.docs uid =
      p.call.request.rewritten uid (w.server.docs uid) := by
    change (p.call.request.commit _ w.server).docs uid = _
    rw [Request.docs_commit]
    exact if_pos hsucceeded
  by_cases ht : target p.call.request = some uid
  · obtain ⟨⟨place, self, request⟩, handler⟩ := p
    cases request with
    | setData uid' fields merge =>
        cases ht
        have hreply : (Request.setData uid fields merge).reply outcome w.server = none := hsucceeded
        rw [staysDeleted_written (hdocs.trans (if_pos rfl))]
        dsimp only
        rw [hreply]
        cases merge with
        | true =>
            have hmerge : (∃ fields', (Request.setData uid fields true : Request Data) =
                .setData uid fields' true ∧ Deleted uid w.journal) ↔ Deleted uid w.journal :=
              ⟨fun ⟨_, _, hdeleted⟩ => hdeleted, fun hdeleted => ⟨fields, rfl, hdeleted⟩⟩
            rw [hmerge]
            exact Iff.rfl
        | false =>
            have hregistered : deletion uid (⟨⟨place, self, .setData uid fields false⟩, none⟩ :
                Entry Image Data) = some false := if_pos rfl
            rw [hregistered]
            exact iff_of_true nofun (by rintro ⟨fields', hrequest, _⟩; cases hrequest)
    | updateData uid' fields =>
        cases ht
        have hreply : (Request.updateData uid fields).reply outcome w.server = none := hsucceeded
        have hfound := Request.docs_of_updated hreply
        rw [staysDeleted_written (hdocs.trans (if_pos rfl))]
        dsimp only
        rw [hreply]
        exact iff_of_true (fun hdeleted => hfound (h hdeleted))
          (by rintro ⟨fields', hrequest, _⟩; cases hrequest)
    | deleteDocument uid' =>
        cases ht
        have hnone : (answer w n _ outcome).server.docs uid = none := hdocs.trans (if_pos rfl)
        exact iff_of_true (fun _ => hnone) (by rintro ⟨fields, hrequest, _⟩; cases hrequest)
    | _ => cases ht
  · have hnot : ¬ ∃ fields, p.call.request = .setData uid fields true ∧ Deleted uid w.journal := by
      rintro ⟨fields, hrequest, _⟩
      rw [hrequest] at ht
      exact ht rfl
    refine iff_of_true (staysDeleted_unchanged h ?_ (deletion_of_target_ne ht _)) hnot
    exact docs_commit_of_target_ne ht _ w.server

theorem staysDeleted_answer {n : ℕ} {outcome : Outcome Image} {p : Pending Image Data}
    (h : StaysDeleted uid w) (hp : w.inFlight[n]? = some p) :
    StaysDeleted uid (answer w n p outcome) ↔
      ¬ MergesDeleted uid w (.app (.complete n outcome)) := by
  rw [mergesDeleted_complete hp]
  by_cases hsucceeded : p.call.request.SucceedsUnder outcome w.server
  · rw [staysDeleted_succeeded h hsucceeded]
    simp only [hsucceeded, true_and]
  · refine iff_of_true (staysDeleted_unchanged h ?_ (deletion_of_failed hsucceeded)) ?_
    · change (p.call.request.commit _ w.server).docs uid = _
      rw [Request.docs_commit]
      exact if_neg hsucceeded
    · rintro ⟨fields, _, hs, _⟩
      exact hsucceeded hs

/-! ## The order of the writes -/

/-- No merge waits behind a deletion, and none waits for a document that has been deleted. -/
structure Ordered (uid : Uid) (w : World Image Data) : Prop where
  inFlight : w.inFlight.Pairwise fun p q =>
    deletes uid p.call.request = true → merges uid q.call.request = false
  notDeleted : ∀ q ∈ w.inFlight, merges uid q.call.request = true → ¬ Deleted uid w.journal

theorem target_of_merges {request : Request Data} (h : merges uid request = true) :
    target request = some uid := by
  cases request with
  | setData uid' fields merge =>
      cases merge with
      | true => exact congrArg some (of_decide_eq_true h)
      | false => cases h
  | _ => cases h

theorem deletes_of_deletion {e : Entry Image Data} (h : deletion uid e = some true) :
    deletes uid e.call.request = true := by
  obtain ⟨⟨place, self, request⟩, a⟩ := e
  cases request with
  | setData uid' fields merge =>
      cases a with
      | some error => cases merge <;> cases h
      | none =>
          cases merge with
          | true => cases h
          | false =>
              by_cases hu : uid' = uid
              · simp [deletion, hu] at h
              · simp [deletion, hu] at h
  | deleteDocument uid' =>
      cases a with
      | some error => cases h
      | none =>
          by_cases hu : uid' = uid
          · exact decide_eq_true hu
          · simp [deletion, hu] at h
  | _ => cases h

/-- The requests that merge photo pointers are those of one place. -/
theorem merges_eq_false_of_known {urlOf : StorageReference → String} {q : Pending Image Data}
    (h : Known ios urlOf (fun call => merges uid call.request = false) q) :
    merges uid q.call.request = false := by
  cases h with
  | photoReference self uid' owner hallowed => exact hallowed
  | _ => rfl

variable (uid) in
theorem allowsReload_merges :
    AllowsReload fun call : Call Data => merges uid call.request = false := by
  intro call user uid' hrequest
  rw [hrequest]
  rfl

/-- A merge is sent when the address of a photo arrives, into the document of whoever is signed in
then. -/
theorem sent_of_response {urlOf : StorageReference → String} {p : Pending Image Data}
    (h : Known ios urlOf everyCall p) {a : p.call.Response Image}
    (ha : Genuine urlOf ⟨p.call, a⟩) {app : App Image} (happ : Unset app) {q : Pending Image Data}
    (hq : q ∈ ((p.handler a).run (receive p.call.request a app)).2)
    (hmerges : merges uid q.call.request = true) :
    asksForPhoto p.call.request = true ∧ p.call.request.Succeeded a ∧ app.currentUid = some uid ∧
      ∀ q' ∈ ((p.handler a).run (receive p.call.request a app)).2,
        deletes uid q'.call.request = false := by
  have hother (hnot : ∀ owner, p.call.request ≠ .downloadURL (.photo owner)) : False := by
    obtain ⟨_, hknown⟩ : _ ∧ ∀ q ∈ _, Known ios urlOf
        (fun call => merges uid call.request = false) q :=
      known_response h (fun owner ho => absurd ho (hnot owner)) ha (happ.receive _ _)
    rw [merges_eq_false_of_known (hknown q hq)] at hmerges
    cases hmerges
  cases h with
  | photoAddress place self owner =>
      cases a with
      | error error => exact absurd hq List.not_mem_nil
      | ok url =>
          have hrun : ((StorageManager.downloadURLHandler self (.photo owner) .done (fun _ => .done)
              (.ok url) : Program Image Data).run app).2 = app.currentUid.elim [] fun uid' =>
                [⟨⟨.savePhotoReference, self, .setData uid' (UserManager.photoFields
                  (StorageReference.photo owner).description url) true⟩, fun _ => .done⟩] := by
            rw [StorageManager.downloadURLHandler, Callback.Prog.run_append,
              StorageManager.run_savePhotoReferenceForUser]
            cases app.currentUid with
            | none => rfl
            | some uid' => rfl
          change q ∈ ((StorageManager.downloadURLHandler self (.photo owner) .done (fun _ => .done)
            (.ok url) : Program Image Data).run app).2 at hq
          change _ ∧ _ ∧ _ ∧ ∀ q' ∈ ((StorageManager.downloadURLHandler self (.photo owner) .done
            (fun _ => .done) (.ok url) : Program Image Data).run app).2, _
          rw [hrun] at hq ⊢
          cases hu : app.currentUid with
          | none =>
              rw [hu] at hq
              exact absurd hq List.not_mem_nil
          | some uid' =>
              rw [hu] at hq
              rw [List.mem_singleton.mp hq] at hmerges
              have huid : uid' = uid := of_decide_eq_true hmerges
              refine ⟨?_, ⟨url, rfl⟩, congrArg some huid, fun q' hq' => ?_⟩
              · exact Option.isSome_iff_exists.mpr
                  ⟨owner, StorageReference.photoOwner_eq_some.mpr rfl⟩
              · rw [List.mem_singleton.mp hq']
                rfl
  | jpgAddress self owner now =>
      exact (hother fun other ho =>
        StorageReference.photo_ne_photoJpg other owner (Request.downloadURL.inj ho).symm).elim
  | _ => exact (hother fun _ => nofun).elim

theorem Ordered.of_calm {w' : World Image Data} (h : Ordered uid w)
    {sent : List (Pending Image Data)}
    (hflight : w'.inFlight = w.inFlight ++ sent) (hjournal : w'.journal = w.journal)
    (hsent : ∀ q ∈ sent, merges uid q.call.request = false) : Ordered uid w' := by
  constructor
  · rw [hflight, List.pairwise_append]
    refine ⟨h.inFlight, ?_, fun p _ q hq _ => hsent q hq⟩
    exact List.pairwise_of_forall_mem_list fun p _ q hq _ => hsent q hq
  · intro q hq hmerges
    rw [hjournal]
    rw [hflight] at hq
    rcases List.mem_append.mp hq with hq | hq
    · exact h.notDeleted q hq hmerges
    · rw [hsent q hq] at hmerges
      cases hmerges

/-- When a deletion is answered, no merge is in flight. -/
theorem Ordered.not_merges (h : Ordered uid w) {n : ℕ} {outcome : Outcome Image}
    {p : Pending Image Data} (hp : w.inFlight[n]? = some p)
    (horder : InOrder uid w (.app (.complete n outcome)))
    (hdeletes : deletes uid p.call.request = true) {q : Pending Image Data}
    (hq : q ∈ w.inFlight.eraseIdx n) : merges uid q.call.request = false := by
  by_contra hmerges
  rw [Bool.not_eq_false] at hmerges
  have htarget : target p.call.request = some uid := by
    cases hr : p.call.request with
    | deleteDocument uid' =>
        rw [hr] at hdeletes
        exact congrArg some (of_decide_eq_true hdeletes)
    | _ =>
        rw [hr] at hdeletes
        cases hdeletes
  obtain ⟨i, hin, hi⟩ := List.mem_eraseIdx_iff_getElem?.mp hq
  rcases Nat.lt_or_gt_of_ne hin with hlt | hgt
  · have hearlier : q ∈ w.inFlight.take n := by
      apply List.mem_of_getElem? (i := i)
      rw [List.getElem?_take_of_lt hlt, hi]
    exact horder (by rw [hp]; exact htarget) q hearlier (target_of_merges hmerges)
  · obtain ⟨hn, hpn⟩ := List.getElem?_eq_some_iff.mp hp
    obtain ⟨hi, hqi⟩ := List.getElem?_eq_some_iff.mp hi
    have hlater := List.pairwise_iff_getElem.mp h.inFlight n i hn hi hgt
    rw [hpn, hqi] at hlater
    rw [hlater hdeletes] at hmerges
    cases hmerges

theorem Ordered.answer (h : Ordered uid w) (hsound : Sound ios w) {n : ℕ}
    {outcome : Outcome Image} {p : Pending Image Data} (hp : w.inFlight[n]? = some p)
    (horder : InOrder uid w (.app (.complete n outcome)))
    (hlate : ¬ LateAddress uid w (.app (.complete n outcome))) :
    Ordered uid (answer w n p outcome) := by
  have hsent : ∀ q ∈ ((p.handler (p.call.request.reply outcome w.server)).run
      (receive p.call.request (p.call.request.reply outcome w.server) w.client)).2,
      merges uid q.call.request = true → asksForPhoto p.call.request = true ∧
        ¬ Deleted uid w.journal ∧ (∀ r ∈ w.inFlight, deletes uid r.call.request = false) ∧
        ∀ r ∈ ((p.handler (p.call.request.reply outcome w.server)).run
          (receive p.call.request (p.call.request.reply outcome w.server) w.client)).2,
          deletes uid r.call.request = false := by
    intro q hq hmerges
    obtain ⟨hasks, hsucceeded, hu, hothers⟩ := sent_of_response
      (hsound.known p (List.mem_of_getElem? hp)) (genuine_reply p.call outcome w.server)
      hsound.unset hq hmerges
    have hbrings : bringsAddress w (.app (.complete n outcome)) = true := by
      have hunder : p.call.request.SucceedsUnder outcome w.server := hsucceeded
      simp [bringsAddress, hp, hasks, hunder]
    have hnot : ¬ (Deleted uid w.journal ∨ ∃ r ∈ w.inFlight, deletes uid r.call.request = true) :=
      fun hdeletion => hlate ⟨hbrings, hu, hdeletion⟩
    refine ⟨hasks, fun hd => hnot (Or.inl hd), fun r hr => ?_, hothers⟩
    rw [Bool.eq_false_iff]
    exact fun hd => hnot (Or.inr ⟨r, hr, hd⟩)
  constructor
  · rw [Callback.World.respond_inFlight, List.pairwise_append]
    refine ⟨h.inFlight.sublist (List.eraseIdx_sublist _ n), ?_, fun r hr q hq hdeletes => ?_⟩
    · refine List.pairwise_of_forall_mem_list fun r hr q hq hdeletes => ?_
      rw [Bool.eq_false_iff]
      intro hmerges
      rw [(hsent q hq hmerges).2.2.2 r hr] at hdeletes
      cases hdeletes
    · rw [Bool.eq_false_iff]
      intro hmerges
      rw [(hsent q hq hmerges).2.2.1 r (List.mem_of_mem_eraseIdx hr)] at hdeletes
      cases hdeletes
  · intro q hq hmerges hdeleted
    change Deleted uid (w.journal ++ [_]) at hdeleted
    rw [deleted_concat] at hdeleted
    rw [Callback.World.respond_inFlight] at hq
    rcases List.mem_append.mp hq with hq | hq
    · cases hd : deletion uid ⟨p.call, p.call.request.reply outcome w.server⟩ with
      | none =>
          rw [hd] at hdeleted
          exact h.notDeleted q (List.mem_of_mem_eraseIdx hq) hmerges hdeleted
      | some deleted =>
          rw [hd] at hdeleted
          cases deleted with
          | false => cases hdeleted
          | true =>
              rw [h.not_merges hp horder (deletes_of_deletion hd) hq] at hmerges
              cases hmerges
    · obtain ⟨hasks, hnot, _⟩ := hsent q hq hmerges
      have hnone : deletion uid ⟨p.call, p.call.request.reply outcome w.server⟩ = none := by
        apply deletion_of_target_ne
        cases hr : p.call.request with
        | downloadURL ref => exact nofun
        | _ =>
            rw [hr] at hasks
            cases hasks
      rw [hnone] at hdeleted
      exact hnot hdeleted

/-! ## Runs -/

theorem Ordered.step (h : Ordered uid w) (hsound : Sound ios w) {w' : World Image Data}
    {e : OwnEvent Image} (hstep : ownStep ios w e = some w') (horder : InOrder uid w e)
    (hlate : ¬ LateAddress uid w e) : Ordered uid w' := by
  cases stepped_of_ownStep hstep with
  | act e p hp =>
      obtain ⟨_, hknown⟩ : _ ∧ ∀ q ∈ _, Known ios w.server.urlOf
          (fun call => merges uid call.request = false) q :=
        known_act (fun _ => allowsReload_merges uid) hp hsound.unset
      exact h.of_calm rfl rfl fun q hq => merges_eq_false_of_known (hknown q hq)
  | complete n outcome p hp => exact h.answer hsound hp horder hlate
  | accounts list => exact ⟨h.inFlight, h.notDeleted⟩

theorem ordered_launched (ios : Platform Image Data) (server : Server Data)
    (keptUser : Option AuthUser) (clock : Clock) :
    Ordered uid (launched server keptUser clock : World Image Data) := by
  have hunset : Unset (App.launch keptUser clock : App Image) := fun _ => ⟨rfl, rfl⟩
  have hsplash : (SplashViewController.viewDidLoad splash : Program Image Data).Within
      (contract ios server.urlOf (fun call => merges uid call.request = false)
        fun _ _ => True) := within_splash
  have hstart : Ordered uid (.start server (App.launch keptUser clock) : World Image Data) :=
    ⟨.nil, fun q hq => absurd hq List.not_mem_nil⟩
  exact hstart.of_calm rfl rfl fun q hq =>
    merges_eq_false_of_known ((run_within hsplash hunset).2 q hq)

theorem staysDeleted_step (h : StaysDeleted uid w) (hordered : Ordered uid w)
    {w' : World Image Data} {e : OwnEvent Image} (hstep : ownStep ios w e = some w') :
    StaysDeleted uid w' := by
  cases stepped_of_ownStep hstep with
  | act e p hp => exact h
  | complete n outcome p hp =>
      rw [staysDeleted_answer h hp, mergesDeleted_complete hp]
      rintro ⟨fields, hrequest, _, hdeleted⟩
      refine hordered.notDeleted p (List.mem_of_getElem? hp) ?_ hdeleted
      rw [hrequest]
      exact decide_eq_true rfl
  | accounts list => exact h

/-- A deleted profile stays deleted in every state of a run in which the writes are answered in
order and no address of a photo comes after a deletion has been sent. -/
theorem staysDeleted_of_noLateAddress (ios : Platform Image Data) (server : Server Data)
    (keptUser : Option AuthUser) (clock : Clock) (uid : Uid) (es : List (OwnEvent Image))
    (h : EventRun.AllSteps (ownStep ios) (fun w e => InOrder uid w e ∧ ¬ LateAddress uid w e)
      (launched server keptUser clock) es) :
    EventRun.AllStates (ownStep ios) (StaysDeleted uid) (launched server keptUser clock) es := by
  have hstart : StaysDeleted uid (launched server keptUser clock : World Image Data) := nofun
  have hboth := EventRun.allStates_of_allSteps (I := Sound ios)
    (P := fun w => StaysDeleted uid w ∧ Ordered uid w) (fun _ _ _ hs hstep => hs.step hstep)
    (fun _ _ _ hs hw hstep hc => ⟨staysDeleted_step hw.1 hw.2 hstep,
      hw.2.step hs hstep hc.1 hc.2⟩)
    (sound_launched server keptUser clock)
    ⟨hstart, ordered_launched ios server keptUser clock⟩ h
  exact hboth.imp fun _ hw => hw.1

/-! ## Back during the upload of the photo -/

def register : Controller := ⟨2, .register⟩

def verification : Controller := ⟨3, .emailVerification⟩

/-- Ana registers with a photo, which is stored. -/
def photoStored : List (OwnEvent ℕ) :=
  [.app (.complete 0 .success), .app (.act (.createAccount ⟨1, .welcome⟩)),
    .app (.act (.register register { Registration.anaFields with userImage := some 1 })),
    .app (.complete 0 (.created Account.ana.uid)), .app (.complete 0 .success),
    .app (.complete 0 .success)]

/-- The address of the photo arrives before she goes Back, so the merge is answered before the
deletion. -/
def addressFirst : List (OwnEvent ℕ) :=
  photoStored ++ [.app (.complete 1 .success), .app (.act (.back verification)),
    .app (.complete 2 .success), .app (.complete 1 .success), .app (.complete 2 .success)]

/-- She goes Back, her document is deleted, and the address arrives before her account goes. -/
def addressLate : List (OwnEvent ℕ) :=
  photoStored ++ [.app (.act (.back verification)), .app (.complete 2 .success),
    .app (.complete 3 .success), .app (.complete 1 .success), .app (.complete 2 .success),
    .app (.complete 1 .success), .app (.complete 0 .success)]

instance InOrder.decidable (uid : Uid) (w : World Image Data) :
    (e : OwnEvent Image) → Decidable (InOrder uid w e)
  | .app (.complete _ _) => inferInstanceAs (Decidable (_ → _))
  | .app (.act _) | .accounts _ => isTrue trivial

instance Deleted.decidable (uid : Uid) (journal : Journal Image Data) :
    Decidable (Deleted uid journal) := inferInstanceAs (Decidable (_ = _))

instance LateAddress.decidable (uid : Uid) (w : World Image Data) (e : OwnEvent Image) :
    Decidable (LateAddress uid w e) :=
  decidable_of_iff (bringsAddress w e = true ∧ w.client.currentUid = some uid ∧
      (Deleted uid w.journal ∨ ∃ q ∈ w.inFlight, deletes uid q.call.request = true))
    ⟨fun h => ⟨h.1, h.2.1, h.2.2⟩, fun h => ⟨h.1, h.2, h.3⟩⟩

theorem staysDeleted_of_noLateAddress_addressFirst :
    EventRun.AllStates (ownStep Platform.transparent) (StaysDeleted Account.ana.uid)
      (launched Server.empty none) addressFirst :=
  staysDeleted_of_noLateAddress Platform.transparent Server.empty none .stopped Account.ana.uid
    addressFirst (by decide +kernel)

theorem addressLate_run : ∃ w, EventRun.run (ownStep Platform.transparent)
      (launched Server.empty none) addressLate = some w ∧ w.inFlight = [] ∧
    Deleted Account.ana.uid w.journal ∧ w.server.docs Account.ana.uid ≠ none := by
  refine ⟨_, rfl, ?_, ?_, ?_⟩
  · rfl
  · rfl
  · nofun

theorem addressLate_revives :
    EventRun.AllSteps (ownStep Platform.transparent) (InOrder Account.ana.uid)
      (launched Server.empty none) addressLate ∧
    ¬ EventRun.AllStates (ownStep Platform.transparent) (StaysDeleted Account.ana.uid)
      (launched Server.empty none) addressLate := by
  refine ⟨by decide +kernel, fun h => ?_⟩
  obtain ⟨w, hrun, _, hdeleted, hdoc⟩ := addressLate_run
  exact hdoc (h.last hrun hdeleted)

end GiveMeMovies.DeletedProfile
