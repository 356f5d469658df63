import GiveMeMovies.VerificationControllers

/-!
# Cancelling a registration

Back on the email verification screen reloads the user and, unless the user object then says
that the address is verified, deletes the account and the document side by side. The object
keeps its old flag when the reload fails, and neither deletion waits for the other.
-/

namespace GiveMeMovies.CancelRegistration

open Program EmailVerificationViewController

variable {Image Data : Type}

/-- The request at position `n` is answered, each request under its own outcome. -/
def step (outcome : Request Data → Outcome Image) (w : World Image Data) (n : ℕ) :
    Option (World Image Data) :=
  w.inFlight[n]?.bind (fun p => w.complete (service Image Data) n (outcome p.call.request))

/-- The user has just tapped Back on the verification screen `self`. -/
def cancelled (server : Server Data) (app : App Image) (self : Controller) : World Image Data :=
  (Callback.World.start server app).exec (onBack self)

section Law

variable (outcome : Request Data → Outcome Image) (server : Server Data) (app : App Image)
  (user : ℕ) (uid : Uid)

def reloadReply : Except AuthFailure Bool :=
  (Request.reload user uid).reply (outcome (.reload user uid)) server

def ReloadSucceeds : Prop :=
  (Request.reload user uid).SucceedsUnder (outcome (.reload user uid)) server

/-- The law: a verified account, or one that could not be looked at, is left alone, and account
and document go together. -/
def Atomic (after : Server Data) : Prop :=
  (((server.account uid).any Account.isEmailVerified ∨ ¬ ReloadSucceeds outcome server user uid) →
    after.account uid = server.account uid ∧ after.docs uid = server.docs uid) ∧
  ((after.account uid).isSome ↔ (after.docs uid).isSome)

/-- The app when the handler of the reload runs. -/
def reloaded : App Image :=
  receive (Request.reload user uid : Request Data) (reloadReply outcome server user uid) app

/-- The flag of the user object once the reload has been answered. -/
def SeenVerified : Prop :=
  match reloadReply outcome server user uid with
  | .ok verified => verified
  | .error _ => app.isEmailVerified user

/-- The answer to the reload leaves the user signed in. -/
def StaysSignedIn : Prop :=
  match reloadReply outcome server user uid with
  | .ok _ => True
  | .error failure => failure.error.tokenIsInvalid = false

def AccountDeletionSucceeds : Prop :=
  (Request.delete user uid).SucceedsUnder (outcome (.delete user uid)) server

def DocDeletionSucceeds : Prop := (outcome (.deleteDocument uid)).error = none

/-- The cases in which a cancellation keeps the law. -/
structure Agree : Prop where
  seenVerified : SeenVerified outcome server app user uid →
    ((server.account uid).isSome ↔ (server.docs uid).isSome)
  reloaded : ¬ SeenVerified outcome server app user uid → ReloadSucceeds outcome server user uid →
    (AccountDeletionSucceeds outcome server user uid ↔
      DocDeletionSucceeds outcome uid ∨ server.docs uid = none)
  reloadFailed : ¬ SeenVerified outcome server app user uid →
    ¬ ReloadSucceeds outcome server user uid →
    ¬ AccountDeletionSucceeds outcome server user uid ∧
      (StaysSignedIn outcome server user uid → DocDeletionSucceeds outcome uid →
        server.docs uid = none) ∧
      ((server.account uid).isSome ↔ (server.docs uid).isSome)

end Law

/-! ## Settling what is in flight -/

section Settle

variable {outcome : Request Data → Outcome Image} {w w' : World Image Data} {es : List ℕ}
  {p q : Pending Image Data}

/-- The handler of the request sends nothing. -/
def Leaf (p : Pending Image Data) : Prop := ∀ a app, ((p.handler a).run app).2 = []

/-- The server after the answer to `p`. -/
def answered (outcome : Request Data → Outcome Image) (p : Pending Image Data)
    (server : Server Data) : Server Data :=
  p.call.request.commit (p.call.request.reply (outcome p.call.request) server) server

theorem step_eq_some {n : ℕ} : step outcome w n = some w' ↔
    ∃ p, w.inFlight[n]? = some p ∧ w' = w.respond (service Image Data) n p
      (p.call.request.reply (outcome p.call.request) w.server) := by
  unfold step
  constructor
  · intro h
    obtain ⟨p, hp, h⟩ := Option.bind_eq_some_iff.mp h
    obtain ⟨p', hp', rfl⟩ := (Callback.World.complete_eq_some _).mp h
    rw [hp] at hp'
    cases hp'
    exact ⟨p, hp, rfl⟩
  · rintro ⟨p, hp, rfl⟩
    rw [hp]
    exact (Callback.World.complete_eq_some _).mpr ⟨p, hp, rfl⟩

theorem settle_nil (hw : w.inFlight = []) (hrun : EventRun.run (step outcome) w es = some w') :
    w' = w := by
  cases es with
  | nil => cases hrun; rfl
  | cons n es =>
      obtain ⟨w₁, h, _⟩ := Option.bind_eq_some_iff.mp hrun
      obtain ⟨p, hp, _⟩ := step_eq_some.mp h
      simp [hw] at hp

theorem settle_one (hw : w.inFlight = [p]) (hp : Leaf p)
    (hrun : EventRun.run (step outcome) w es = some w') (hsettled : w'.inFlight = []) :
    w'.server = answered outcome p w.server := by
  cases es with
  | nil =>
      cases hrun
      simp [hw] at hsettled
  | cons n es =>
      obtain ⟨w₁, h, hrun⟩ := Option.bind_eq_some_iff.mp hrun
      obtain ⟨p', hp', rfl⟩ := step_eq_some.mp h
      have hn : n = 0 ∧ p' = p := by
        cases n with
        | zero => simpa [hw, eq_comm] using hp'
        | succ n => simp [hw] at hp'
      obtain ⟨rfl, rfl⟩ := hn
      rw [settle_nil (by simp [Callback.World.respond, hw, hp _ _]) hrun]
      rfl

theorem settle_two (hw : w.inFlight = [p, q]) (hp : Leaf p) (hq : Leaf q)
    (hrun : EventRun.run (step outcome) w es = some w') (hsettled : w'.inFlight = []) :
    w'.server = answered outcome q (answered outcome p w.server) ∨
      w'.server = answered outcome p (answered outcome q w.server) := by
  cases es with
  | nil =>
      cases hrun
      simp [hw] at hsettled
  | cons n es =>
      obtain ⟨w₁, h, hrun⟩ := Option.bind_eq_some_iff.mp hrun
      obtain ⟨p', hp', rfl⟩ := step_eq_some.mp h
      rcases n with _ | _ | n
      · have he : p = p' := by simpa [hw] using hp'
        subst he
        exact Or.inl (settle_one (by simp [Callback.World.respond, hw, hp _ _]) hq hrun hsettled)
      · have he : q = p' := by simpa [hw] using hp'
        subst he
        exact Or.inr (settle_one (by simp [Callback.World.respond, hw, hq _ _]) hp hrun hsettled)
      · simp [hw] at hp'

end Settle

/-! ## What the reload leads to -/

def deletePending (self : Controller) (user : ℕ) (uid : Uid) : Pending Image Data :=
  ⟨⟨.verificationBackDelete, self, .delete user uid⟩, userDeleted self⟩

def docPending (self : Controller) (uid : Uid) : Pending Image Data :=
  ⟨⟨.verificationBackDeleteDocument, self, .deleteDocument uid⟩,
    UserManager.deleteAccountHandler (deleteAccountCompletion self)⟩

variable {app : App Image} {self : Controller} {user : ℕ} {authUser : AuthUser}

theorem leaf_deletePending {uid : Uid} :
    Leaf (deletePending self user uid : Pending Image Data) := by
  intro a app
  cases a with
  | error failure =>
      simp only [deletePending, userDeleted, run_weakly]
      split <;> rfl
  | ok _ => rfl

theorem leaf_docPending {uid : Uid} : Leaf (docPending self uid : Pending Image Data) := by
  intro a app
  cases a with
  | none => rfl
  | some error =>
      simp only [docPending, UserManager.deleteAccountHandler, deleteAccountCompletion,
        run_weakly]
      split <;> rfl

theorem inFlight_verified (h : app.isEmailVerified user = true) :
    ((onBackReloaded self user authUser : Program Image Data).run app).2 = [] := by
  simp only [onBackReloaded, Callback.Prog.run_read, if_pos h, run_weakly]
  split <;> rfl

theorem inFlight_unverified (hself : app.released self = false)
    (h : app.isEmailVerified user = false) :
    ((onBackReloaded self user authUser : Program Image Data).run app).2 =
      deletePending self user authUser.uid ::
        (app.currentUid.map (docPending self)).toList := by
  have hne : ¬ app.isEmailVerified user = true := by rw [h]; exact nofun
  rw [onBackReloaded, Callback.Prog.run_read, if_neg hne, Callback.Prog.run_append, run_send]
  refine congrArg (List.cons _) ?_
  cases hu : app.currentUid with
  | none =>
      rw [run_guardUid_none _ hu]
      rfl
  | some uid =>
      have hauth : app.authUser.isSome := by
        obtain ⟨authUser, ha, _⟩ := Option.map_eq_some_iff.mp hu
        simp [ha]
      have hsent : ((deleteAccount self uid : Program Image Data).run app) =
          (app, [docPending self uid]) := by
        rw [deleteAccount, Callback.Prog.run_read, if_pos hauth]
        rfl
      rw [run_guardUid_some _ hu, Callback.Prog.run_append, run_weakly_alive _ hself, hsent,
        run_weakly_alive _ hself]
      rfl

variable {outcome : Request Data → Outcome Image} {server : Server Data} {uid : Uid}

theorem isEmailVerified_reloaded (hau : app.authUsers[user]? = some authUser) :
    (reloaded outcome server app user uid).isEmailVerified user = true ↔
      SeenVerified outcome server app user uid := by
  unfold SeenVerified reloaded
  cases reloadReply outcome server user uid with
  | ok verified => simp [receive, App.setEmailVerified, App.isEmailVerified, hau]
  | error failure =>
      simp only [receive, App.isEmailVerified, App.signOutByForce]
      split
      · split <;> rfl
      · rfl

theorem currentUid_reloaded (hc : app.currentUser = some user)
    (hau : app.authUsers[user]? = some authUser) :
    (StaysSignedIn outcome server user uid →
      (reloaded outcome server app user uid).currentUid = some authUser.uid) ∧
    (¬ StaysSignedIn outcome server user uid →
      (reloaded outcome server app user uid).currentUid = none) := by
  unfold StaysSignedIn reloaded
  cases reloadReply outcome server user uid with
  | ok verified =>
      simp [receive, App.setEmailVerified, App.currentUid, App.authUser, hc, hau]
  | error failure =>
      by_cases ht : failure.error.tokenIsInvalid = true
      · simp [receive, ht, App.signOutByForce, hc, App.currentUid, App.authUser]
      · simp [receive, ht, App.currentUid, App.authUser, hc, hau]

theorem account_answered_delete :
    (AccountDeletionSucceeds outcome server user uid →
      (answered outcome (deletePending self user uid) server).account uid = none) ∧
    (¬ AccountDeletionSucceeds outcome server user uid →
      (answered outcome (deletePending self user uid) server).account uid =
        server.account uid) := by
  unfold AccountDeletionSucceeds Request.SucceedsUnder Request.Succeeded answered deletePending
  dsimp only
  cases (Request.delete user uid).reply (outcome (.delete user uid)) server with
  | ok _ => exact ⟨fun _ => server.account_removeAccount_self uid, fun h => absurd rfl h⟩
  | error failure => exact ⟨nofun, fun _ => rfl⟩

theorem docs_answered_delete :
    (answered outcome (deletePending self user uid) server).docs = server.docs := by
  unfold answered deletePending
  dsimp only
  cases (Request.delete user uid).reply (outcome (.delete user uid)) server <;> rfl

theorem docs_answered_doc :
    (DocDeletionSucceeds outcome uid →
      (answered outcome (docPending self uid) server).docs uid = none) ∧
    (¬ DocDeletionSucceeds outcome uid →
      (answered outcome (docPending self uid) server).docs uid = server.docs uid) := by
  unfold DocDeletionSucceeds answered docPending
  dsimp only [Request.reply]
  cases (outcome (.deleteDocument uid)).error with
  | none => exact ⟨fun _ => by simp [Request.commit, Server.setDoc], fun h => absurd rfl h⟩
  | some error => exact ⟨nofun, fun _ => rfl⟩

theorem account_answered_doc :
    (answered outcome (docPending self uid) server).account = server.account := by
  unfold answered docPending
  dsimp only
  cases (Request.deleteDocument uid).reply (outcome (.deleteDocument uid)) server <;> rfl

/-- The two deletions do not look at each other's half of the server. -/
theorem deletion_answered_doc : AccountDeletionSucceeds outcome
      (answered outcome (docPending self uid) server) user uid ↔
    AccountDeletionSucceeds outcome server user uid := by
  unfold AccountDeletionSucceeds
  rw [Request.succeedsUnder_delete, Request.succeedsUnder_delete, account_answered_doc]

theorem of_reloadSucceeds (h : ReloadSucceeds outcome server user uid) :
    ∃ account, server.account uid = some account ∧
      (SeenVerified outcome server app user uid ↔ account.isEmailVerified = true) ∧
      StaysSignedIn outcome server user uid := by
  obtain ⟨verified, hr⟩ := h
  obtain ⟨account, ha, hv⟩ := Request.of_reload_ok hr
  refine ⟨account, ha, ?_⟩
  unfold SeenVerified StaysSignedIn reloadReply
  rw [hr, hv]
  exact ⟨Iff.rfl, trivial⟩

/-- The reload is answered first, and the server is as it was when its handler runs. -/
theorem exists_reloaded {es : List ℕ} {w : World Image Data}
    (hc : app.currentUser = some user) (hau : app.authUsers[user]? = some authUser)
    (hrun : EventRun.run (step outcome) (cancelled server app self) es = some w)
    (hsettled : w.inFlight = []) :
    ∃ w₁ es', EventRun.run (step outcome) w₁ es' = some w ∧ w₁.server = server ∧
      w₁.inFlight = ((onBackReloaded self user authUser).run
        (reloaded outcome server app user authUser.uid)).2 := by
  have hstart : (cancelled server app self).inFlight =
      [⟨⟨.verificationBackReload, self, .reload user authUser.uid⟩,
        fun _ => onBackReloaded self user authUser⟩] := by
    simp [cancelled, onBack, run_guardUser_some _ hc hau, Callback.World.start]
  have hclient : (cancelled server app self).client = app := by
    simp [cancelled, onBack, run_guardUser_some _ hc hau, Callback.World.start]
  cases es with
  | nil =>
      cases hrun
      rw [hstart] at hsettled
      cases hsettled
  | cons n es =>
      obtain ⟨w₁, h, hrun⟩ := Option.bind_eq_some_iff.mp hrun
      obtain ⟨p, hp, rfl⟩ := step_eq_some.mp h
      rw [hstart] at hp
      cases n with
      | succ n => simp at hp
      | zero =>
          cases hp
          refine ⟨_, es, hrun, ?_, ?_⟩
          · exact Request.commit_reload Image user authUser.uid
              (reloadReply outcome server user authUser.uid) server
          · simp only [Callback.World.respond, Callback.World.exec_inFlight, hstart, hclient]
            rfl

/-- What the deletions of an unverified account have done to the server. -/
structure Deleted (outcome : Request Data → Outcome Image) (server : Server Data) (user : ℕ)
    (uid : Uid) (after : Server Data) : Prop where
  accountGone : AccountDeletionSucceeds outcome server user uid → after.account uid = none
  accountKept : ¬ AccountDeletionSucceeds outcome server user uid →
    after.account uid = server.account uid
  docGone : StaysSignedIn outcome server user uid → DocDeletionSucceeds outcome uid →
    after.docs uid = none
  docKept : ¬ (StaysSignedIn outcome server user uid ∧ DocDeletionSucceeds outcome uid) →
    after.docs uid = server.docs uid

/-- What a settled cancellation has done to the account and the document. -/
theorem settled {es : List ℕ} {w : World Image Data} (hself : app.released self = false)
    (hc : app.currentUser = some user) (hau : app.authUsers[user]? = some authUser)
    (hrun : EventRun.run (step outcome) (cancelled server app self) es = some w)
    (hsettled : w.inFlight = []) :
    (SeenVerified outcome server app user authUser.uid → w.server = server) ∧
    (¬ SeenVerified outcome server app user authUser.uid →
      Deleted outcome server user authUser.uid w.server) := by
  obtain ⟨w₁, es', hrun', hserver, hflight⟩ := exists_reloaded hc hau hrun hsettled
  have hreleased : (reloaded outcome server app user authUser.uid).released self = false := by
    rw [reloaded, (receive_sameScreen _ _ _).released, hself]
  have hverified : (reloaded outcome server app user authUser.uid).isEmailVerified user = true ↔
      SeenVerified outcome server app user authUser.uid := isEmailVerified_reloaded hau
  constructor
  · intro hv
    rw [inFlight_verified (hverified.mpr hv)] at hflight
    rw [settle_nil hflight hrun', hserver]
  · intro hv
    rw [inFlight_unverified hreleased (by simpa using mt hverified.mp hv)] at hflight
    by_cases hs : StaysSignedIn outcome server user authUser.uid
    · rw [(currentUid_reloaded hc hau).1 hs] at hflight
      rcases settle_two hflight leaf_deletePending leaf_docPending hrun' hsettled with h | h
      · rw [h, hserver]
        refine ⟨?_, ?_, fun _ => docs_answered_doc.1, fun hd => ?_⟩
        · rw [account_answered_doc]
          exact account_answered_delete.1
        · rw [account_answered_doc]
          exact account_answered_delete.2
        · rw [docs_answered_doc.2 (fun h => hd ⟨hs, h⟩), docs_answered_delete]
      · rw [h, hserver]
        refine ⟨fun hd => ?_, fun hd => ?_, fun _ hd => ?_, fun hd => ?_⟩
        · exact account_answered_delete.1 (deletion_answered_doc.mpr hd)
        · rw [account_answered_delete.2 (mt deletion_answered_doc.mp hd), account_answered_doc]
        · rw [docs_answered_delete]
          exact docs_answered_doc.1 hd
        · rw [docs_answered_delete]
          exact docs_answered_doc.2 (fun h => hd ⟨hs, h⟩)
    · rw [(currentUid_reloaded hc hau).2 hs] at hflight
      rw [settle_one hflight leaf_deletePending hrun' hsettled, hserver]
      refine ⟨account_answered_delete.1, account_answered_delete.2, fun h => absurd h hs, ?_⟩
      exact fun _ => congrFun docs_answered_delete _

section Deleted

variable {after : Server Data}

/-- The reload has shown an unverified account, and so it was there. -/
theorem atomic_reloaded (h : Deleted outcome server user uid after)
    (hv : ¬ SeenVerified outcome server app user uid)
    (hr : ReloadSucceeds outcome server user uid) : Atomic outcome server user uid after ↔
      (AccountDeletionSucceeds outcome server user uid ↔
        DocDeletionSucceeds outcome uid ∨ server.docs uid = none) := by
  obtain ⟨account, ha, hflag, hs⟩ := of_reloadSucceeds hr
  have hfront : ¬ ((server.account uid).any Account.isEmailVerified = true ∨
      ¬ ReloadSucceeds outcome server user uid) := by
    rw [ha, not_or, not_not]
    exact ⟨mt hflag.mpr hv, hr⟩
  have haccount : (after.account uid).isSome ↔
      ¬ AccountDeletionSucceeds outcome server user uid := by
    by_cases hd : AccountDeletionSucceeds outcome server user uid
    · simp [h.accountGone hd, hd]
    · simp [h.accountKept hd, hd, ha]
  have hdocs : (after.docs uid).isSome ↔
      ¬ (DocDeletionSucceeds outcome uid ∨ server.docs uid = none) := by
    by_cases hd : DocDeletionSucceeds outcome uid
    · simp [h.docGone hs hd, hd]
    · simp [h.docKept (fun h => hd h.2), hd, Option.isSome_iff_ne_none]
  constructor
  · intro hatomic
    exact not_iff_not.mp (haccount.symm.trans (hatomic.2.trans hdocs))
  · intro hagree
    refine ⟨fun hn => absurd hn hfront, ?_⟩
    exact haccount.trans ((not_congr hagree).trans hdocs.symm)

/-- Nothing may be deleted after a reload that failed. -/
theorem atomic_reloadFailed (h : Deleted outcome server user uid after)
    (hr : ¬ ReloadSucceeds outcome server user uid) :
    Atomic outcome server user uid after ↔
      ¬ AccountDeletionSucceeds outcome server user uid ∧
        (StaysSignedIn outcome server user uid → DocDeletionSucceeds outcome uid →
          server.docs uid = none) ∧
        ((server.account uid).isSome ↔ (server.docs uid).isSome) := by
  constructor
  · intro hatomic
    obtain ⟨hsame, hsameDocs⟩ := hatomic.1 (Or.inr hr)
    have hpresent := hatomic.2
    rw [hsame, hsameDocs] at hpresent
    refine ⟨?_, ?_, hpresent⟩
    · intro hd
      have hnone := hsame.symm.trans (h.accountGone hd)
      have hsome := (Request.succeedsUnder_delete.mp hd).2
      simp [hnone] at hsome
    · intro hs hd
      exact hsameDocs.symm.trans (h.docGone hs hd)
  · rintro ⟨hdel, hdocNone, hpresent⟩
    have hsameDocs : after.docs uid = server.docs uid := by
      by_cases hd : StaysSignedIn outcome server user uid ∧ DocDeletionSucceeds outcome uid
      · rw [h.docGone hd.1 hd.2, hdocNone hd.1 hd.2]
      · exact h.docKept hd
    refine ⟨fun _ => ⟨h.accountKept hdel, hsameDocs⟩, ?_⟩
    rw [h.accountKept hdel, hsameDocs]
    exact hpresent

end Deleted

/-- Ana's address is verified, but her user object does not know it yet. -/
def staleAna : AuthUser := { Account.ana.user with isEmailVerified := false }

def anaServer : Server ℕ :=
  (Server.empty.addAccount Account.ana).setDoc Account.ana.uid (some Fields.empty)

def verification : Controller := ⟨1, .emailVerification⟩

/-- The reload fails and both deletions succeed. -/
def reloadFails : Request ℕ → Outcome ℕ
  | .reload _ _ => .failure ⟨17020, "Network error"⟩
  | _ => .success

theorem settledRun : ∃ w, EventRun.run (step reloadFails)
    (cancelled anaServer (App.launch (some staleAna)) verification) [0, 0, 0] = some w ∧
    w.inFlight = [] ∧ w.server.docs Account.ana.uid = none :=
  ⟨_, rfl, rfl, rfl⟩

end GiveMeMovies.CancelRegistration
