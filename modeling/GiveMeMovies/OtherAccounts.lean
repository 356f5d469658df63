import GiveMeMovies.SignedInAccounts

/-!
# The accounts that the app leaves alone

Since no request names the account of anybody who has not signed in here, the app neither changes
what the services hold of him nor depends on what his document and his photos contain.
-/

namespace GiveMeMovies.OtherAccounts

open AppRuns SignedInAccounts

variable {Image Data : Type} {ios : Platform Image Data} {S : Uid → Prop}
  {w w' : World Image Data} {es : List (AppRuns.Event Image Data)}

/-! ## What the app changes -/

theorem photoJpg_inj {u v : Uid} (h : StorageReference.photoJpg u = .photoJpg v) : u = v := by
  have hp := congrArg StorageReference.path h
  rw [StorageReference.photoJpg_path, StorageReference.photoJpg_path] at hp
  have hname : u.name ++ ".jpg".toList = v.name ++ ".jpg".toList := by
    simpa only [List.cons.injEq, true_and, and_true] using hp
  have hsame := List.append_cancel_right hname
  cases u
  cases v
  cases hsame
  rfl

/-- What the services hold of `uid`: his account, his document and his two photos. -/
def holdings (server : Server Data) (uid : Uid) :
    Option Account × Option Fields × Option Data × Option Data :=
  (server.account uid, server.docs uid, server.objects (.photo uid),
    server.objects (.photoJpg uid))

theorem holdings_addAccount {server : Server Data} (account : Account) {uid : Uid}
    (h : uid ≠ account.uid) : holdings (server.addAccount account) uid = holdings server uid := by
  change (Server.account (server.addAccount _) uid, _) = _
  rw [Server.account_addAccount_of_ne server h]
  rfl

theorem holdings_setDoc {server : Server Data} {uid other : Uid} {doc : Option Fields}
    (h : uid ≠ other) : holdings (server.setDoc other doc) uid = holdings server uid := by
  simp only [holdings, Server.setDoc, Server.account, Function.update_of_ne h]

theorem holdings_setObject {server : Server Data} {uid : Uid} {ref : StorageReference}
    {data : Option Data} (href : ∃ other, S other ∧ (ref = .photo other ∨ ref = .photoJpg other))
    (h : ¬ S uid) : holdings (server.setObject ref data) uid = holdings server uid := by
  obtain ⟨other, hother, hcase⟩ := href
  have hne : uid ≠ other := fun he => h (he ▸ hother)
  rcases hcase with rfl | rfl
  · have hphoto : StorageReference.photo uid ≠ .photo other :=
      fun he => hne (StorageReference.photo_inj.mp he)
    have hjpg : StorageReference.photoJpg uid ≠ .photo other :=
      (StorageReference.photo_ne_photoJpg other uid).symm
    simp only [holdings, Server.setObject, Server.account, Function.update_of_ne hphoto,
      Function.update_of_ne hjpg]
  · have hphoto : StorageReference.photo uid ≠ .photoJpg other :=
      StorageReference.photo_ne_photoJpg uid other
    have hjpg : StorageReference.photoJpg uid ≠ .photoJpg other := fun he => hne (photoJpg_inj he)
    simp only [holdings, Server.setObject, Server.account, Function.update_of_ne hphoto,
      Function.update_of_ne hjpg]

theorem holdings_commit {request : Request Data} {a : request.Response Image}
    {server : Server Data} {uid : Uid} (hrequest : request.Concerns S)
    (hmakes : request.makes a ≠ some uid) (huid : ¬ S uid) :
    holdings (request.commit a server) uid = holdings server uid := by
  have hne {other : Uid} (hother : S other) : uid ≠ other := fun he => huid (he ▸ hother)
  cases request with
  | createUser email password =>
      cases a with
      | error failure =>
          rw [Request.commit_createUser_error]
          cases hmade : failure.made with
          | none => rfl
          | some made =>
              have hother : uid ≠ made := fun he => hmakes (by rw [he]; exact hmade)
              exact holdings_addAccount ⟨made, email, password, false⟩ hother
      | ok user =>
          have hother : uid ≠ user.uid := fun he => hmakes (congrArg some he.symm)
          exact holdings_addAccount ⟨user.uid, email, password, user.isEmailVerified⟩ hother
  | delete user other =>
      cases a with
      | error failure => rfl
      | ok _ =>
          change (Server.account (server.removeAccount other) uid, _) = _
          rw [Server.account_removeAccount_of_ne server (hne hrequest)]
          rfl
  | setData other fields merge =>
      cases a with
      | some error => rfl
      | none => exact holdings_setDoc (hne hrequest)
  | updateData other fields =>
      cases a with
      | some error => rfl
      | none => exact holdings_setDoc (hne hrequest)
  | deleteDocument other =>
      cases a with
      | some error => rfl
      | none => exact holdings_setDoc (hne hrequest)
  | putData ref data =>
      cases a with
      | some error => rfl
      | none => exact holdings_setObject hrequest huid
  | deleteObject ref =>
      cases a with
      | some error => rfl
      | none => exact holdings_setObject hrequest huid
  | _ => cases a <;> rfl

/-- The account was made by a request of the app, which may have been told of an error. -/
def MadeHere (journal : Journal Image Data) (uid : Uid) : Prop :=
  ∃ e ∈ journal, e.call.request.makes e.response = some uid

/-- In every run, whatever else changes on the server, a step of the app leaves the account, the
document and the photos of everybody who has neither signed in nor registered here as they are. -/
theorem others_untouched {server : Server Data} {keptUser : Option AuthUser} {clock : Clock}
    {e : Callback.Event (Act Image) (Outcome Image)} {uid : Uid}
    (hrun : EventRun.run (AppRuns.step ios) (launched server keptUser clock) es = some w)
    (hstep : AppRuns.step ios w (.app e) = some w')
    (huid : ¬ Admitted keptUser w'.journal uid) (hmade : ¬ MadeHere w'.journal uid) :
    holdings w'.server uid = holdings w.server uid := by
  have hwithin := within_of_run ((EventRun.run_concat _).mpr ⟨w, hrun, hstep⟩)
  cases e with
  | act e =>
      obtain ⟨p, _, rfl⟩ := (Callback.step_act (service Image Data) (act ios)).mp hstep
      rfl
  | complete n o =>
      obtain ⟨p, _, rfl⟩ := (Callback.step_complete (service Image Data) (act ios)).mp hstep
      have hjournal : (⟨p.call, p.call.request.reply o w.server⟩ : Entry Image Data) ∈
          (w.respond (service Image Data) n p (p.call.request.reply o w.server)).journal :=
        Callback.World.mem_journal_respond _
      refine holdings_commit (hwithin.calls p.call ?_) (fun hmakes => ?_) huid
      · exact List.mem_append_right _ (List.mem_map_of_mem (f := Callback.Entry.call) hjournal)
      · exact hmade ⟨_, hjournal, hmakes⟩

theorem others_untouched_kept : ∃ w w', EventRun.run (AppRuns.step Platform.transparent)
      (launched Server.empty (some Account.ana.user)) [.app (.complete 0 .success)] = some w ∧
    AppRuns.step Platform.transparent w (.app (.complete 0 .success)) = some w' ∧
    holdings w'.server Account.ben.uid = holdings w.server Account.ben.uid := by
  obtain ⟨w, w', hrun, hstep, hjournal, hmakes⟩ := keptRun
  refine ⟨w, w', hrun, hstep, others_untouched hrun hstep ?_ ?_⟩
  · rintro ⟨user, huser, hu⟩
    have hana : user = Account.ana.user := by simpa [signedIn, hjournal] using huser
    subst hana
    exact absurd hu (by decide)
  · rintro ⟨entry, hentry, hmade⟩
    have hmem : Account.ben.uid ∈
        w'.journal.filterMap (fun e => e.call.request.makes e.response) :=
      List.mem_filterMap.mpr ⟨entry, hentry, hmade⟩
    rw [hmakes] at hmem
    cases hmem

/-! ## What the app can learn -/

/-- The two states of the services differ at most in the contents of the documents and the photos
of those outside `S`. -/
structure Agree (S : Uid → Prop) (server server' : Server Data) : Prop where
  accounts : server'.accounts = server.accounts
  issued : server'.issued = server.issued
  urlOf : server'.urlOf = server.urlOf
  exist : ∀ uid, (server'.docs uid).isSome = (server.docs uid).isSome
  docs : ∀ uid, S uid → server'.docs uid = server.docs uid
  photo : ∀ uid, S uid → server'.objects (.photo uid) = server.objects (.photo uid)
  photoJpg : ∀ uid, S uid → server'.objects (.photoJpg uid) = server.objects (.photoJpg uid)

variable {server server' : Server Data}

theorem Agree.object (h : Agree S server server') {ref : StorageReference}
    (href : ∃ uid, S uid ∧ (ref = .photo uid ∨ ref = .photoJpg uid)) :
    server'.objects ref = server.objects ref := by
  obtain ⟨uid, huid, rfl | rfl⟩ := href
  · exact h.photo uid huid
  · exact h.photoJpg uid huid

/-- The services give the same answer to a request about `S`. -/
theorem Agree.reply (h : Agree S server server') {request : Request Data}
    (hrequest : request.Concerns S) (o : Outcome Image) :
    request.reply o server' = request.reply o server := by
  have haccount (uid : Uid) : server'.account uid = server.account uid := by
    simp only [Server.account, h.accounts]
  have hemail (email : String) :
      server'.accountWithEmail email = server.accountWithEmail email := by
    simp only [Server.accountWithEmail, h.accounts]
  have hunused (uid : Uid) : Request.Unused server' uid ↔ Request.Unused server uid := by
    have hdoc : server'.docs uid = none ↔ server.docs uid = none := by
      rw [← Option.isNone_iff_eq_none, ← Option.isNone_iff_eq_none, ← Option.not_isSome,
        ← Option.not_isSome, h.exist]
    rw [Request.Unused, Request.Unused, h.issued, haccount, hdoc]
  cases request with
  | signIn email password => simp only [Request.reply, hemail]
  | createUser email password => simp only [Request.reply, hemail, hunused]
  | reload user uid => simp only [Request.reply, haccount]
  | delete user uid => simp only [Request.reply, haccount]
  | sendEmailVerification user uid => simp only [Request.reply, haccount]
  | getDocument uid => simp only [Request.reply, h.docs uid hrequest]
  | updateData uid fields => simp only [Request.reply, h.docs uid hrequest]
  | downloadURL ref => simp only [Request.reply, h.object hrequest, h.urlOf]
  | deleteObject ref => simp only [Request.reply, h.object hrequest]
  | _ => rfl

theorem Agree.setDoc (h : Agree S server server') (uid : Uid) (doc : Option Fields) :
    Agree S (server.setDoc uid doc) (server'.setDoc uid doc) := by
  refine ⟨h.accounts, h.issued, h.urlOf, fun other => ?_, fun other hother => ?_, h.photo,
    h.photoJpg⟩
  · by_cases ho : other = uid
    · simp [Server.setDoc, ho]
    · simpa [Server.setDoc, ho] using h.exist other
  · by_cases ho : other = uid
    · simp [Server.setDoc, ho]
    · simpa [Server.setDoc, ho] using h.docs other hother

theorem Agree.setObject (h : Agree S server server') (ref : StorageReference)
    (data : Option Data) : Agree S (server.setObject ref data) (server'.setObject ref data) := by
  have hupdate {other : StorageReference} (ho : server'.objects other = server.objects other) :
      (server'.setObject ref data).objects other = (server.setObject ref data).objects other := by
    by_cases hr : other = ref
    · simp [Server.setObject, hr]
    · simpa [Server.setObject, hr] using ho
  exact ⟨h.accounts, h.issued, h.urlOf, h.exist, h.docs, fun uid huid => hupdate (h.photo uid huid),
    fun uid huid => hupdate (h.photoJpg uid huid)⟩

theorem Agree.withAccounts (h : Agree S server server') (accounts : List Account)
    (issued : List Uid) : Agree S { server with accounts := accounts, issued := issued }
      { server' with accounts := accounts, issued := issued } :=
  ⟨rfl, rfl, h.urlOf, h.exist, h.docs, h.photo, h.photoJpg⟩

theorem Agree.commit (h : Agree S server server') {request : Request Data}
    (hrequest : request.Concerns S) (a : request.Response Image) :
    Agree S (request.commit a server) (request.commit a server') := by
  have hadded (account : Account) :
      Agree S (server.addAccount account) (server'.addAccount account) := by
    simp only [Server.addAccount, h.accounts, h.issued]
    exact h.withAccounts _ _
  have hwritten (uid : Uid) (fields : Fields) (merge : Bool) (huid : S uid) :
      server'.writtenDoc uid fields merge = server.writtenDoc uid fields merge := by
    simp only [Server.writtenDoc, h.docs uid huid]
  cases request with
  | createUser email password =>
      cases a with
      | error failure =>
          rw [Request.commit_createUser_error, Request.commit_createUser_error]
          cases failure.made with
          | none => exact h
          | some made => exact hadded _
      | ok user => exact hadded _
  | delete user uid =>
      cases a with
      | error failure => exact h
      | ok _ =>
          simp only [Request.commit, Server.removeAccount, h.accounts]
          exact ⟨rfl, h.issued, h.urlOf, h.exist, h.docs, h.photo, h.photoJpg⟩
  | setData uid fields merge =>
      cases a with
      | some error => exact h
      | none =>
          simp only [Request.commit, hwritten uid fields merge hrequest]
          exact h.setDoc uid _
  | updateData uid fields =>
      cases a with
      | some error => exact h
      | none =>
          simp only [Request.commit, hwritten uid fields true hrequest]
          exact h.setDoc uid _
  | deleteDocument uid =>
      cases a with
      | some error => exact h
      | none => exact h.setDoc uid none
  | putData ref data =>
      cases a with
      | some error => exact h
      | none => exact h.setObject ref (some data)
  | deleteObject ref =>
      cases a with
      | some error => exact h
      | none => exact h.setObject ref none
  | _ => cases a <;> exact h

theorem agree_step (h : w.Within (contract S)) (hagree : Agree S w.server server')
    {e : AppRequests.OwnEvent Image} (hstep : AppRequests.ownStep ios w e = some w') :
    ∃ v', AppRequests.ownStep ios { w with server := server' } e = some { w' with server := v' } ∧
      Agree S w'.server v' := by
  cases AppRequests.stepped_of_ownStep hstep with
  | act e p hp =>
      exact ⟨server', (Callback.step_act (service Image Data) (act ios)).mpr ⟨p, hp, rfl⟩, hagree⟩
  | complete n o p hp =>
      have hrequest := (h.pending p (List.mem_of_getElem? hp)).1
      have hreply : p.call.request.reply o server' = p.call.request.reply o w.server :=
        hagree.reply hrequest o
      refine ⟨p.call.request.commit (p.call.request.reply o w.server) server', ?_,
        hagree.commit hrequest _⟩
      refine (Callback.step_complete (service Image Data) (act ios)).mpr ⟨p, hp, ?_⟩
      change _ = Callback.World.respond (service Image Data) _ n p (p.call.request.reply o server')
      rw [hreply]
      rfl
  | accounts list =>
      exact ⟨{ server' with accounts := list }, rfl,
        ⟨rfl, hagree.issued, hagree.urlOf, hagree.exist, hagree.docs, hagree.photo,
          hagree.photoJpg⟩⟩

theorem own_journal {e : AppRequests.OwnEvent Image} {a : Entry Image Data}
    (ha : a ∈ w.journal) (hstep : AppRequests.ownStep ios w e = some w') : a ∈ w'.journal :=
  journal_of_step ha hstep

theorem agree_run (h : w.Within (contract S)) (hagree : Agree S w.server server')
    {es : List (AppRequests.OwnEvent Image)}
    (hjournal : ∀ a ∈ w'.journal, ∀ user, a.call.request.signsIn a.response = some user →
      S user.uid)
    (hrun : EventRun.run (AppRequests.ownStep ios) w es = some w') :
    ∃ v', EventRun.run (AppRequests.ownStep ios) { w with server := server' } es =
      some { w' with server := v' } ∧ Agree S w'.server v' := by
  induction es generalizing w server' with
  | nil =>
      cases hrun
      exact ⟨server', rfl, hagree⟩
  | cons e es ih =>
      obtain ⟨v, hstep, hrest⟩ := Option.bind_eq_some_iff.mp hrun
      have hnow : ∀ a ∈ v.journal, ∀ user, a.call.request.signsIn a.response = some user →
          S user.uid := fun a ha => hjournal a (EventRun.run_invariant
            (I := fun u => a ∈ u.journal) (fun _ _ _ ha hs => own_journal ha hs) ha hrest)
      obtain ⟨v', hstep', hagree'⟩ := agree_step h hagree hstep
      obtain ⟨v'', hrun', hagree''⟩ := ih (within_step h hnow hstep) hagree' hrest
      refine ⟨v'', ?_, hagree''⟩
      rw [EventRun.run_cons, hstep']
      exact hrun'

/-- The app would have gone the same way, with the same memory, screens, requests and answers, had
the documents and the photos of those who never signed in here been any others. -/
theorem others_unseen {keptUser : Option AuthUser} {clock : Clock}
    {es : List (AppRequests.OwnEvent Image)}
    (hrun : EventRun.run (AppRequests.ownStep ios) (launched server keptUser clock) es = some w)
    (hagree : Agree (Admitted keptUser w.journal) server server') :
    ∃ v', EventRun.run (AppRequests.ownStep ios) (launched server' keptUser clock) es =
      some { w with server := v' } ∧ Agree (Admitted keptUser w.journal) w.server v' := by
  have hkept : ∀ user, keptUser = some user → Admitted keptUser w.journal user.uid :=
    fun user hu => ⟨user, List.mem_append_left _ (Option.mem_toList.mpr hu), rfl⟩
  refine agree_run (w := launched server keptUser clock) (within_launched hkept) hagree ?_ hrun
  intro a ha user hu
  exact ⟨user, List.mem_append_right _ (List.mem_filterMap.mpr ⟨a, ha, hu⟩), rfl⟩

theorem others_unseen_kept : ∃ w v',
    EventRun.run (AppRequests.ownStep Platform.transparent)
      (launched Server.empty (some Account.ana.user)) [.app (.complete 0 .success)] = some w ∧
    EventRun.run (AppRequests.ownStep Platform.transparent)
      (launched (Server.empty.setObject (.photo Account.ben.uid) (some (0, 1)))
        (some Account.ana.user)) [.app (.complete 0 .success)] = some { w with server := v' } ∧
    Agree (Admitted (some Account.ana.user) w.journal) w.server v' := by
  obtain ⟨w, hrun, hjournal⟩ : ∃ w, EventRun.run (AppRequests.ownStep Platform.transparent)
      (launched Server.empty (some Account.ana.user)) [.app (.complete 0 .success)] = some w ∧
      w.journal.filterMap (fun e => e.call.request.signsIn e.response) = [] := ⟨_, rfl, rfl⟩
  have hben {uid : Uid} (h : Admitted (some Account.ana.user) w.journal uid) :
      uid ≠ Account.ben.uid := by
    obtain ⟨user, huser, rfl⟩ := h
    have hana : user = Account.ana.user := by simpa [signedIn, hjournal] using huser
    subst hana
    decide
  have hagree : Agree (Admitted (some Account.ana.user) w.journal) Server.empty
      (Server.empty.setObject (.photo Account.ben.uid) (some (0, (1 : ℚ)))) := by
    refine ⟨rfl, rfl, rfl, fun _ => rfl, fun _ _ => rfl, fun uid huid => ?_, fun uid huid => ?_⟩
    · exact Function.update_of_ne (fun h => hben huid (StorageReference.photo_inj.mp h)) _ _
    · exact Function.update_of_ne (StorageReference.photo_ne_photoJpg _ uid).symm _ _
  obtain ⟨v', hrun', hagree'⟩ := others_unseen hrun hagree
  exact ⟨w, v', hrun, hrun', hagree'⟩

end GiveMeMovies.OtherAccounts
