import GiveMeMovies.LenientContracts

/-!
# Deleting an account

The user confirms "Delete your account" on the profile screen, and the responses arrive in any
order. The account is signed out before the document and the photo are deleted, and both of
these steps then find nobody signed in. Only when the sign-out itself throws do they run, and
even then the photo that `uploadProfileImage` stores is not among what they delete.
-/

namespace GiveMeMovies.AccountDeletion

open Program ProfileViewController

variable {Image Data : Type}

abbrev Event (Image : Type) := Callback.Event Empty (Outcome Image)

abbrev step : World Image Data → Event Image → Option (World Image Data) :=
  Callback.step (service Image Data) (fun e _ => nomatch e)

/-- The user has just confirmed the deletion on the profile screen `self`. -/
def confirmed (server : Server Data) (app : App Image) (self : Controller) : World Image Data :=
  (Callback.World.start server app).exec (confirmDelete self)

def AllSucceeded (w : World Image Data) : Prop :=
  ∀ e ∈ w.journal, e.call.request.Succeeded e.response

/-- Nothing is outstanding but delays. -/
def Settled (w : World Image Data) : Prop := ∀ p ∈ w.inFlight, p.call.request = .timer

/-- Everything of `uid` is gone, and everything else is as before. -/
structure Complete (before after : Server Data) (uid : Uid) : Prop where
  account : after.account uid = none
  doc : after.docs uid = none
  photo : after.objects (.photo uid) = none
  photoJpg : after.objects (.photoJpg uid) = none
  otherAccounts : ∀ uid', uid' ≠ uid → after.account uid' = before.account uid'
  otherDocs : ∀ uid', uid' ≠ uid → after.docs uid' = before.docs uid'
  otherObjects : ∀ ref, ref ≠ .photo uid → ref ≠ .photoJpg uid →
    after.objects ref = before.objects ref

/-- `signOut` throws and leaves the user signed in. -/
def StaysSignedIn (app : App Image) : Prop := app.keychainError.isSome

/-- The deletion has nothing to delete that it does not reach. -/
def NothingLeft (server : Server Data) (app : App Image) (uid : Uid) : Prop :=
  server.objects (.photo uid) = none ∧
    (¬ StaysSignedIn app → server.docs uid = none ∧ server.objects (.photoJpg uid) = none)

/-! ## The requests -/

/-- The requests of a deletion, where `kept` says whether the user stays signed in. -/
def Issued (kept : Prop) (uid : Uid) : Request Data → Prop
  | .delete _ uid' => uid' = uid
  | .deleteDocument uid' => kept ∧ uid' = uid
  | .deleteObject ref => kept ∧ ref = .photoJpg uid
  | .getDocument _ | .timer => True
  | _ => False

def contract (kept : Prop) (uid : Uid) : Contract Image Data where
  call call := Issued kept uid call.request

/-- What a request of a deletion leaves on the server once it has succeeded. -/
def Gone (server : Server Data) : Request Data → Prop
  | .delete _ uid => server.account uid = none
  | .deleteDocument uid => server.docs uid = none
  | .deleteObject ref => server.objects ref = none
  | _ => True

variable {kept : Prop} {uid : Uid} {server : Server Data}

theorem gone_commit {r r' : Request Data} (hr' : Issued kept uid r')
    (a : r'.Response Image) (h : Gone server r) : Gone (r'.commit a server) r := by
  cases r' with
  | delete user u =>
      cases a with
      | error failure => exact h
      | ok _ =>
          cases r with
          | delete user' u' =>
              by_cases hu : u' = u
              · subst hu
                exact server.account_removeAccount_self u'
              · exact (server.account_removeAccount_of_ne hu).trans h
          | _ => exact h
  | deleteDocument u =>
      cases a with
      | some error => exact h
      | none =>
          cases r with
          | deleteDocument u' =>
              by_cases hu : u' = u
              · simp [Gone, Request.commit, Server.setDoc, hu]
              · simpa [Gone, Request.commit, Server.setDoc, hu] using h
          | _ => exact h
  | deleteObject ref =>
      cases a with
      | some error => exact h
      | none =>
          cases r with
          | deleteObject ref' =>
              by_cases hu : ref' = ref
              · simp [Gone, Request.commit, Server.setObject, hu]
              · simpa [Gone, Request.commit, Server.setObject, hu] using h
          | _ => exact h
  | getDocument u => exact h
  | timer => exact h
  | _ => exact absurd hr' id

theorem gone_of_succeeded {r : Request Data} {a : r.Response Image}
    (h : r.Succeeded a) : Gone (r.commit a server) r := by
  cases r with
  | delete user u =>
      cases h
      exact server.account_removeAccount_self u
  | deleteDocument u =>
      cases h
      simp [Gone, Request.commit, Server.setDoc]
  | deleteObject ref =>
      cases h
      simp [Gone, Request.commit, Server.setObject]
  | _ => trivial

/-- What a deletion does not touch. -/
structure Frame (kept : Prop) (uid : Uid) (before after : Server Data) : Prop where
  accounts : ∀ uid', uid' ≠ uid → after.account uid' = before.account uid'
  docs : ∀ uid', ¬ (kept ∧ uid' = uid) → after.docs uid' = before.docs uid'
  objects : ∀ ref, ¬ (kept ∧ ref = .photoJpg uid) → after.objects ref = before.objects ref

theorem Frame.commit {before : Server Data} {r : Request Data} (hr : Issued kept uid r)
    (a : r.Response Image) (h : Frame kept uid before server) :
    Frame kept uid before (r.commit a server) := by
  cases r with
  | delete user u =>
      cases a with
      | error failure => exact h
      | ok _ =>
          refine ⟨fun uid' hu => ?_, h.docs, h.objects⟩
          have hne : uid' ≠ u := fun he => hu (he.trans hr)
          exact (server.account_removeAccount_of_ne hne).trans (h.accounts uid' hu)
  | deleteDocument u =>
      cases a with
      | some error => exact h
      | none =>
          refine ⟨h.accounts, fun uid' hu => ?_, h.objects⟩
          have hne : uid' ≠ u := fun he => hu ⟨hr.1, he.trans hr.2⟩
          simpa [Request.commit, Server.setDoc, hne] using h.docs uid' hu
  | deleteObject ref =>
      cases a with
      | some error => exact h
      | none =>
          refine ⟨h.accounts, h.docs, fun ref' hu => ?_⟩
          have hne : ref' ≠ ref := fun he => hu ⟨hr.1, he.trans hr.2⟩
          simpa [Request.commit, Server.setObject, hne] using h.objects ref' hu
  | getDocument u => exact h
  | timer => exact h
  | _ => exact absurd hr id

/-! ## The requests that the confirmation sends -/

theorem splash_within (controller : Controller) :
    (SplashViewController.viewDidLoad controller : Program Image Data).Within
      (contract kept uid) := by
  intro app _
  dsimp only
  split
  · refine within_send.mpr ⟨trivial, trivial, fun _ _ => Callback.Prog.Within.append ?_ ?_⟩
    · refine within_guardUid fun _ _ _ _ => within_send.mpr ⟨trivial, trivial, fun a _ => ?_⟩
      unfold UserManager.getDocumentHandler
      split
      · exact (Callback.Prog.within_modify.mpr fun _ _ => ⟨trivial, trivial⟩).append
          (within_weakly (Callback.Prog.within_modify.mpr fun _ _ => ⟨trivial, trivial⟩))
      · trivial
      · trivial
    · refine within_guardUser fun _ user => ?_
      split <;> exact Callback.Prog.within_modify.mpr fun _ _ => ⟨trivial, trivial⟩
  · exact within_send.mpr
      ⟨trivial, trivial, fun _ _ => Callback.Prog.within_modify.mpr fun _ _ => ⟨trivial, trivial⟩⟩

theorem mobile : Mobile (contract kept uid : Contract Image Data) where
  error _ _ _ _ _ := ⟨trivial, trivial⟩
  tick _ _ := ⟨trivial, trivial⟩
  pop _ _ _ := ⟨trivial, trivial⟩
  push _ _ _ _ := ⟨trivial, trivial⟩
  home _ _ _ := ⟨trivial, trivial⟩
  signOut _ _ := ⟨trivial, trivial⟩

/-- The sign-out of the first step decides what the later steps find. -/
theorem mem_run_confirmDelete {app : App Image} {self : Controller} {user : ℕ}
    {authUser : AuthUser} (hself : app.released self = false)
    (hc : app.currentUser = some user) (hu : app.authUsers[user]? = some authUser)
    {q : Pending Image Data} :
    q ∈ ((confirmDelete self).run app).2 ↔
      q ∈ ((deleteAccountFromAuth self).run app).2 ∨
        q ∈ ((deleteAccountFromDatabase self).run app.signOut).2 ∨
        q ∈ ((deleteUserPhoto self).run app.signOut).2 ∨
        q ∈ ((backToLoginScreen self).run app.signOut).2 := by
  have h₁ : ((deleteAccountFromAuth self : Program Image Data).run app).1 = app.signOut := by
    rw [deleteAccountFromAuth, run_guardUser_some _ hc hu]
    rfl
  have h₂ : ((deleteAccountFromDatabase self : Program Image Data).run app.signOut).1 =
      app.signOut := by
    cases hs : app.signOut.currentUid with
    | none => rw [deleteAccountFromDatabase, run_guardUid_none _ hs]
    | some uid => rw [deleteAccountFromDatabase, run_guardUid_some _ hs]; rfl
  have h₃ : ((deleteUserPhoto self : Program Image Data).run app.signOut).1 = app.signOut := by
    cases hs : app.signOut.currentUid with
    | none => rw [deleteUserPhoto, run_guardUid_none _ hs]
    | some uid => rw [deleteUserPhoto, run_guardUid_some _ hs]; rfl
  rw [confirmDelete, run_weakly_alive _ hself]
  simp only [Callback.Prog.run_append, h₁, h₂, h₃, List.mem_append, or_assoc]

theorem pending_confirmDelete {app : App Image} {self : Controller} {uid : Uid}
    (hself : app.released self = false) (hu : app.currentUid = some uid)
    {q : Pending Image Data} (hq : q ∈ ((confirmDelete self).run app).2) :
    q.Within (contract (StaysSignedIn app) uid) := by
  obtain ⟨user, authUser, hc, hau, rfl⟩ := App.exists_of_currentUid hu
  have hkept : ∀ u, app.signOut.currentUid = some u → StaysSignedIn app ∧ u = authUser.uid := by
    intro u h
    rw [App.currentUid_signOut, hu] at h
    split at h
    · next hk => exact ⟨hk, by simpa using h.symm⟩
    · cases h
  rcases (mem_run_confirmDelete hself hc hau).mp hq with hq | hq | hq | hq
  · rw [deleteAccountFromAuth, run_guardUser_some _ hc hau] at hq
    refine Callback.Prog.Within.pending (mobile.within_signOut.append ?_) trivial hq
    exact within_send.mpr ⟨rfl, trivial, fun a _ => mobile.within_authDeleted a⟩
  · refine pending_guardUid trivial (fun u h => ?_) hq
    exact within_send.mpr ⟨hkept u h, trivial, fun a _ => mobile.within_documentDeleted a⟩
  · refine pending_guardUid trivial (fun u h => ?_) hq
    refine within_send.mpr ⟨⟨(hkept u h).1, ?_⟩, trivial, fun a _ => mobile.within_deleted a⟩
    rw [(hkept u h).2]
  · exact (mobile.within_backToLoginScreen splash_within).pending trivial hq

theorem issued_confirmDelete {app : App Image} {self : Controller} {uid : Uid}
    (hself : app.released self = false) (hu : app.currentUid = some uid) :
    (∃ user, ∃ q ∈ ((confirmDelete self : Program Image Data).run app).2,
        q.call.request = .delete user uid) ∧
      (StaysSignedIn app →
        (∃ q ∈ ((confirmDelete self : Program Image Data).run app).2,
          q.call.request = .deleteDocument uid) ∧
        ∃ q ∈ ((confirmDelete self : Program Image Data).run app).2,
          q.call.request = .deleteObject (.photoJpg uid)) := by
  obtain ⟨user, authUser, hc, hau, rfl⟩ := App.exists_of_currentUid hu
  simp only [mem_run_confirmDelete hself hc hau]
  constructor
  · have hsent : ∃ q ∈ ((deleteAccountFromAuth self : Program Image Data).run app).2,
        q.call.request = .delete user authUser.uid := by
      rw [deleteAccountFromAuth, run_guardUser_some _ hc hau]
      exact ⟨_, List.mem_singleton_self _, rfl⟩
    obtain ⟨q, hq, hr⟩ := hsent
    exact ⟨user, q, Or.inl hq, hr⟩
  · intro hk
    have hs : app.signOut.currentUid = some authUser.uid := by
      rw [App.currentUid_signOut, if_pos (show app.keychainError.isSome from hk), hu]
    constructor
    · have hsent : ∃ q ∈ ((deleteAccountFromDatabase self : Program Image Data).run
          app.signOut).2, q.call.request = .deleteDocument authUser.uid := by
        rw [deleteAccountFromDatabase, run_guardUid_some _ hs]
        exact ⟨_, List.mem_singleton_self _, rfl⟩
      obtain ⟨q, hq, hr⟩ := hsent
      exact ⟨q, Or.inr (Or.inl hq), hr⟩
    · have hsent : ∃ q ∈ ((deleteUserPhoto self : Program Image Data).run app.signOut).2,
          q.call.request = .deleteObject (.photoJpg authUser.uid) := by
        rw [deleteUserPhoto, run_guardUid_some _ hs]
        exact ⟨_, List.mem_singleton_self _, rfl⟩
      obtain ⟨q, hq, hr⟩ := hsent
      exact ⟨q, Or.inr (Or.inr (Or.inl hq)), hr⟩

/-! ## The run of a deletion -/

structure Deleting (kept : Prop) (uid : Uid) (before : Server Data) (w : World Image Data) :
    Prop where
  within : w.Within (contract kept uid)
  gone : ∀ e ∈ w.journal, e.call.request.Succeeded e.response → Gone w.server e.call.request
  frame : Frame kept uid before w.server

theorem Deleting.step {before : Server Data} {w w' : World Image Data} {e : Event Image}
    (h : Deleting kept uid before w) (hstep : step w e = some w') :
    Deleting kept uid before w' := by
  have hwithin := h.within.step _ _ (fun _ _ _ _ _ _ => trivial) (fun e => nomatch e)
    (fun _ _ => trivial) hstep
  cases e with
  | act e => exact nomatch e
  | complete n outcome =>
      obtain ⟨p, hp, rfl⟩ := (Callback.step_complete _ _).mp hstep
      have hissued : Issued kept uid p.call.request :=
        (h.within.pending p (List.mem_of_getElem? hp)).1
      refine ⟨hwithin, ?_, h.frame.commit hissued _⟩
      intro e he hs
      rcases List.mem_append.mp he with he | he
      · exact gone_commit hissued _ (h.gone e he hs)
      · rw [List.mem_singleton] at he
        subst he
        exact gone_of_succeeded hs

theorem deleting_run {app : App Image} {self : Controller} (hself : app.released self = false)
    (hu : app.currentUid = some uid) {es : List (Event Image)} {w : World Image Data}
    (hrun : EventRun.run step (confirmed server app self) es = some w) :
    Deleting (StaysSignedIn app) uid server w := by
  refine EventRun.run_invariant (fun _ _ _ h hstep => h.step hstep) ?_ hrun
  refine ⟨?_, fun e he => absurd he List.not_mem_nil, ⟨?_, ?_, ?_⟩⟩
  · exact (Callback.World.within_start trivial).exec trivial
      (fun q hq => pending_confirmDelete hself hu hq)
  · exact fun _ _ => rfl
  · exact fun _ _ => rfl
  · exact fun _ _ => rfl

/-- A request that was sent has reached the server once nothing is outstanding. -/
theorem gone_of_settled {w : World Image Data} {before : Server Data} {call : Call Data}
    (h : Deleting kept uid before w) (hok : AllSucceeded w) (hsettled : Settled w)
    (hcall : call ∈ w.calls) (htimer : call.request ≠ .timer) : Gone w.server call.request := by
  rcases List.mem_append.mp hcall with hc | hc
  · obtain ⟨p, hp, rfl⟩ := List.mem_map.mp hc
    exact absurd (hsettled p hp) htimer
  · obtain ⟨e, he, rfl⟩ := List.mem_map.mp hc
    exact h.gone e he (hok e he)

/-- When every remote request has succeeded and none is outstanding, the deletion is complete if
and only if it had nothing to delete that it does not reach. -/
theorem complete_iff_nothingLeft {server : Server Data} {app : App Image} {self : Controller}
    {uid : Uid} {es : List (Event Image)} {w : World Image Data}
    (hself : app.released self = false) (hu : app.currentUid = some uid)
    (hrun : EventRun.run step (confirmed server app self) es = some w)
    (hok : AllSucceeded w) (hsettled : Settled w) :
    Complete server w.server uid ↔ NothingLeft server app uid := by
  have h := deleting_run hself hu hrun
  have hcalls : ∀ q ∈ ((confirmDelete self : Program Image Data).run app).2, q.call ∈ w.calls := by
    intro q hq
    refine EventRun.run_invariant (I := fun w => q.call ∈ w.calls)
      (fun _ _ _ hi hstep => Callback.mem_calls_of_step _ _ hi hstep) ?_ hrun
    exact Callback.World.mem_calls_exec.mpr (Or.inr ⟨q, hq, rfl⟩)
  have hissued : (∃ user, ∃ q ∈ ((confirmDelete self : Program Image Data).run app).2,
      q.call.request = .delete user uid) ∧ _ := issued_confirmDelete hself hu
  obtain ⟨⟨user, q, hq, hdelete⟩, hkept⟩ := hissued
  have haccount : w.server.account uid = none := by
    have hg := gone_of_settled h hok hsettled (hcalls q hq) (by rw [hdelete]; exact nofun)
    rwa [hdelete] at hg
  have hphoto : w.server.objects (.photo uid) = server.objects (.photo uid) :=
    h.frame.objects _ (fun hk => StorageReference.photo_ne_photoJpg _ _ hk.2)
  have hothers : (∀ uid', uid' ≠ uid → w.server.docs uid' = server.docs uid') ∧
      ∀ ref, ref ≠ .photo uid → ref ≠ .photoJpg uid →
        w.server.objects ref = server.objects ref :=
    ⟨fun uid' hne => h.frame.docs uid' (fun hk => hne hk.2),
      fun ref _ hne => h.frame.objects ref (fun hk => hne hk.2)⟩
  by_cases hk : StaysSignedIn app
  · obtain ⟨⟨q₁, hq₁, hdoc⟩, q₂, hq₂, hobject⟩ := hkept hk
    have hd : w.server.docs uid = none := by
      have hg := gone_of_settled h hok hsettled (hcalls q₁ hq₁) (by rw [hdoc]; exact nofun)
      rwa [hdoc] at hg
    have ho : w.server.objects (.photoJpg uid) = none := by
      have hg := gone_of_settled h hok hsettled (hcalls q₂ hq₂) (by rw [hobject]; exact nofun)
      rwa [hobject] at hg
    constructor
    · exact fun hc => ⟨hphoto.symm.trans hc.photo, fun hn => absurd hk hn⟩
    · exact fun hn => ⟨haccount, hd, hphoto.trans hn.1, ho, h.frame.accounts, hothers.1,
        hothers.2⟩
  · have hd : w.server.docs uid = server.docs uid := h.frame.docs uid (fun hn => hk hn.1)
    have ho : w.server.objects (.photoJpg uid) = server.objects (.photoJpg uid) :=
      h.frame.objects _ (fun hn => hk hn.1)
    constructor
    · exact fun hc => ⟨hphoto.symm.trans hc.photo,
        fun _ => ⟨hd.symm.trans hc.doc, ho.symm.trans hc.photoJpg⟩⟩
    · exact fun hn => ⟨haccount, hd.trans (hn.2 hk).1, hphoto.trans hn.1, ho.trans (hn.2 hk).2,
        h.frame.accounts, hothers.1, hothers.2⟩

/-- Ana is on her profile screen; only her account and her document exist. -/
def anaServer : Server ℕ :=
  (Server.empty.addAccount Account.ana).setDoc Account.ana.uid (some Fields.empty)

def profile : Controller := ⟨1, .profile⟩

def anaApp : App ℕ :=
  { App.launch (some Account.ana.user) with
    levels := [.tabBar .profile [profile], .single ⟨0, .splash⟩]
    nextController := 2 }

theorem anaRun : ∃ w, EventRun.run step (confirmed anaServer anaApp profile)
    [.complete 0 .success] = some w ∧ AllSucceeded w ∧ Settled w ∧
    w.server.docs Account.ana.uid = some Fields.empty := by
  refine ⟨_, rfl, ?_, ?_, rfl⟩
  · intro e he
    cases List.mem_singleton.mp he
    rfl
  · intro p hp
    cases List.mem_singleton.mp hp
    rfl

theorem complete_iff_nothingLeft_ana :
    ∃ w, EventRun.run step (confirmed anaServer anaApp profile) [.complete 0 .success] = some w ∧
      (Complete anaServer w.server Account.ana.uid ↔
        NothingLeft anaServer anaApp Account.ana.uid) := by
  obtain ⟨w, hrun, hok, hsettled, _⟩ := anaRun
  exact ⟨w, hrun, complete_iff_nothingLeft rfl rfl hrun hok hsettled⟩

theorem deletion_leaves_document :
    ∃ w, EventRun.run step (confirmed anaServer anaApp profile) [.complete 0 .success] = some w ∧
      AllSucceeded w ∧ Settled w ∧ ¬ Complete anaServer w.server Account.ana.uid := by
  obtain ⟨w, hrun, hok, hsettled, hdoc⟩ := anaRun
  refine ⟨w, hrun, hok, hsettled, fun h => ?_⟩
  have hgone := hdoc.symm.trans h.doc
  cases hgone

end GiveMeMovies.AccountDeletion
