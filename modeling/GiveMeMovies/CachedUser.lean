import GiveMeMovies.PhotoPointers

/-!
# The shared user

Every load of a document sets the shared user, whoever is signed in by then. A registration sets
it to the user it saved, a save of the texts to one without a photo, and a save of the photo
clears it. Signing out leaves it alone.
-/

namespace GiveMeMovies.CachedUser

open Program AppRuns AppRequests Journal UserManager

variable {Image Data : Type}

/-- Nobody's profile is cached while nobody is signed in, and otherwise only the one that the
stored document of the signed-in user decodes to. -/
def Fresh (w : World Image Data) : Prop :=
  match w.client.currentUid with
  | none => w.client.sharedUser = none
  | some uid => w.client.sharedUser = none ∨
      ∃ user, w.client.sharedUser = some user ∧
        (w.server.docs uid).bind (User.ofSnapshot uid) = some user

/-- Where the shared user comes from: the fields that were loaded or saved of `users/uid`, a
registration, or a save of the photo, which clears it. -/
inductive Source where
  | filled (uid : Uid) (fields : Fields)
  | registered (uid : Uid) (fields : Fields)
  | cleared

def Source.user : Source → Option User
  | filled uid fields => User.ofSnapshot uid fields
  | registered uid fields => (User.ofSnapshot uid fields).map fun user =>
      { user with email := (fields User.KEY_USER_EMAIL).bind Value.asString }
  | cleared => none

/-- What an answered request sets the shared user from. -/
def source : Entry Image Data → Option Source
  | ⟨⟨_, _, .getDocument uid⟩, .ok (some fields)⟩ => some (.filled uid fields)
  | ⟨⟨.registerSaveUser, _, .setData uid fields _⟩, none⟩ => some (.registered uid fields)
  | ⟨⟨.informationSaveUser, _, .updateData uid fields⟩, none⟩ => some (.filled uid fields)
  | ⟨⟨.informationSavePhoto, _, .updateData _ _⟩, none⟩ => some .cleared
  | _ => none

/-- The user whose fields were loaded or saved is the one who is signed in, and his document still
decodes like them. -/
def Source.Current (w : World Image Data) : Source → Prop
  | filled uid fields => w.client.currentUid = some uid ∧
      (w.server.docs uid).bind (User.ofSnapshot uid) = User.ofSnapshot uid fields
  | registered _ _ => False
  | cleared => True

variable {ios : Platform Image Data} {urlOf : StorageReference → String} {w : World Image Data}

/-! ## What a response sets the shared user to -/

theorem source_of_not_shares {call : Call Data} (h : sharesAfter call = false)
    (a : call.Response Image) : source ⟨call, a⟩ = none := by
  obtain ⟨place, self, request⟩ := call
  cases request with
  | getDocument uid => cases h
  | setData uid fields merge =>
      cases place with
      | registerSaveUser => cases h
      | _ => cases a <;> rfl
  | updateData uid fields =>
      cases place with
      | informationSaveUser => cases h
      | informationSavePhoto => cases h
      | _ => cases a <;> rfl
  | _ => rfl

theorem user_filled {uid : Uid} {user : User} (huid : user.userId = some uid)
    (hemail : user.email = none) : (Source.filled uid user.parameters).user = some user := by
  rw [Source.user, User.ofSnapshot_parameters, ← huid, ← hemail]

theorem user_registered {uid : Uid} {user : User} (huid : user.userId = some uid) :
    (Source.registered uid user.parameters).user = some user := by
  have hemail : (user.parameters User.KEY_USER_EMAIL).bind Value.asString = user.email := by
    rw [User.parameters_email]
    cases user.email <;> rfl
  rw [Source.user, User.ofSnapshot_parameters, Option.map_some, hemail, ← huid]

theorem sharedUser_append {p q : Program Image Data}
    (hp : p.Within (contract ios urlOf everyCall fun _ _ => True))
    (hq : q.Within (contract ios urlOf everyCall SameShared)) {app : App Image} (happ : Unset app) :
    ((p ++ q).run app).1.sharedUser = (p.run app).1.sharedUser := by
  rw [Callback.Prog.run_append]
  exact sameShared_within hq (run_within hp happ).1

theorem sharedUser_set {user : User} {p : Program Image Data}
    (hp : p.Within (contract ios urlOf everyCall SameShared)) {app : App Image} (happ : Unset app) :
    ((setSharedUser user ++ p).run app).1.sharedUser = some user :=
  sharedUser_append (within_setSharedUser (fun _ _ _ _ => trivial) user) hp happ

variable (ios) in
/-- The user that was registered becomes the shared one. -/
theorem sharedUser_userSaved (self : Controller) (user : User) {app : App Image}
    (happ : Unset app) :
    ((RegisterViewController.userSaved ios self user true).run app).1.sharedUser = some user := by
  have hquiet : Quiet (SameShared : App Image → App Image → Prop) := quiet_sameShared.quiet
  have hset : (setSharedUser user : Program Image Data).Within
      (AppRequests.contract ios StorageReference.description everyCall fun _ _ => True) :=
    within_setSharedUser (fun _ _ _ _ => trivial) user
  have hupload (K : App Image → App Image → Prop) :
      (weakly self (RegisterViewController.uploadImage ios self)).Within
        (AppRequests.contract ios StorageReference.description everyCall K) := within_registerUpload
  have hmail (K : App Image → App Image → Prop) :
      (guardUser (fun user authUser => send .registerSendMail self
        (.sendEmailVerification user authUser.uid) (RegisterViewController.mailSent self)) :
          Program Image Data).Within
            (AppRequests.contract ios StorageReference.description everyCall K) :=
    within_registerSendMail
  have hpush : (weakly self (pushViewController self .emailVerification fun _ => .done) :
      Program Image Data).Within
        (AppRequests.contract ios StorageReference.description everyCall SameShared) :=
    within_weakly ((mobile hquiet).within_push fun _ => trivial)
  rw [RegisterViewController.userSaved,
    sharedUser_append ((hset.append (hupload _)).append (hmail _)) hpush happ,
    sharedUser_append (hset.append (hupload _)) (hmail _) happ]
  exact sharedUser_set (hupload _) happ

theorem sharedUser_homeLoaded (ios : Platform Image Data) (self : Controller) (user : User)
    {app : App Image} (happ : Unset app) :
    ((WelcomeViewController.userLoaded self user : Program Image Data).run app).1.sharedUser =
      some user := by
  have hquiet : Quiet (SameShared : App Image → App Image → Prop) := quiet_sameShared.quiet
  have hpresent : (weakly self (goToHomeScreen self) : Program Image Data).Within
      (AppRequests.contract ios StorageReference.description everyCall SameShared) :=
    within_weakly ((mobile hquiet).within_goToHomeScreen)
  exact sharedUser_set hpresent happ

theorem sharedUser_showUser (self : Controller) (placeholder : String) (user : User)
    {app : App Image} (happ : Unset app) :
    ((showUser ios self placeholder user).run app).1.sharedUser = some user := by
  have hquiet : Quiet (SameShared : App Image → App Image → Prop) := quiet_sameShared.quiet
  have hphoto : (weakly self (UIImageView.loadPhoto ios self placeholder user)).Within
      (AppRequests.contract ios StorageReference.description everyCall SameShared) :=
    within_weakly (AppRequests.within_loadPhoto hquiet placeholder user)
  exact sharedUser_set hphoto happ

theorem sharedUser_informationLoaded (self : Controller) (user : User) {app : App Image}
    (happ : Unset app) :
    ((ProfileInformationViewController.userLoaded ios self user).run app).1.sharedUser =
      some user := by
  have hquiet : Quiet (SameShared : App Image → App Image → Prop) := quiet_sameShared.quiet
  have hform : (weakly self (UIImageView.loadPhoto ios self "placeholder-person" user ++
      ProfileInformationViewController.setForm self fun form =>
        { form with
          firstName := user.firstName.getD ""
          lastName := user.lastName.getD ""
          about := user.aboutMe.getD "" })).Within
        (AppRequests.contract ios StorageReference.description everyCall SameShared) :=
    within_weakly ((AppRequests.within_loadPhoto hquiet _ user).append
      (within_setForm hquiet fun _ => rfl))
  exact sharedUser_set hform happ

/-- A document that was loaded sets the shared user, and a failure to load it does not. -/
theorem sharedUser_getDocument {place : Place} {self : Controller} {uid : Uid}
    {completion : User → Program Image Data} {completionError : Option NSError → Program Image Data}
    (hc : ∀ user app, Unset app → ((completion user).run app).1.sharedUser = some user)
    (he : ∀ error, (completionError error).Within (contract ios urlOf everyCall SameShared))
    (a : Except NSError (Option Fields)) {app : App Image} (happ : Unset app) :
    ((getDocumentHandler uid completion completionError a).run app).1.sharedUser =
      match source (⟨⟨place, self, .getDocument uid⟩, a⟩ : Entry Image Data) with
        | some source => source.user
        | none => app.sharedUser := by
  cases a with
  | error error => exact sameShared_within (he _) happ
  | ok doc =>
      cases doc with
      | none => exact sameShared_within (he _) happ
      | some fields => exact hc _ app happ

/-- The handlers that stamp dates leave the shared user alone. -/
theorem sharedUser_stamps {p : Pending Image Data} (h : Known ios urlOf everyCall p)
    (hstamp : stamps p.call = true) {a : p.call.Response Image} {app : App Image}
    (happ : Unset app) : ((p.handler a).run app).1.sharedUser = app.sharedUser := by
  have hquiet : Quiet (SameShared : App Image → App Image → Prop) := quiet_sameShared.quiet
  have herror (self : Controller) (msg : Option String) :
      (weakly self (showErrorWith self (some "Error") msg) : Program Image Data).Within
        (contract ios urlOf everyCall SameShared) := (lenient hquiet).within_weakError _ _
  cases h with
  | createAccount self email password =>
      cases a with
      | error error => exact sameShared_within (herror self _) happ
      | ok user =>
          change ((weakly self _).run app).1.sharedUser = _
          rw [run_weakly]
          split
          · rfl
          · rw [RegisterViewController.run_saveUser]
            rfl
  | updateCurrentUser self user uid =>
      cases a with
      | some error => exact sameShared_within (herror self _) happ
      | none =>
          dsimp only
          by_cases hself : app.released self = false
          · rw [run_currentUserUpdated hself]
            rfl
          · rw [run_currentUserUpdated_released (by simpa using hself)]
  | _ => cases hstamp

/-- What the handler sets the shared user to. -/
theorem sharedUser_response {p : Pending Image Data} (h : Known ios urlOf everyCall p)
    {a : p.call.Response Image} (ha : Genuine urlOf ⟨p.call, a⟩) {app : App Image}
    (happ : Unset app) : ((p.handler a).run app).1.sharedUser =
      match source ⟨p.call, a⟩ with
        | some source => source.user
        | none => app.sharedUser := by
  have hloading : AllowsLoading (SameShared : App Image → App Image → Prop) := quiet_sameShared
  have hquiet := hloading.quiet
  by_cases hshares : sharesAfter p.call = false
  · rw [source_of_not_shares hshares]
    by_cases hstamp : stamps p.call = false
    · refine sameShared_within (within_handler hquiet h (fun _ => hloading) ?_ hstamp
        (fun _ _ => allowsReference_everyCall) ha) happ
      intro hshare
      rw [hshares] at hshare
      cases hshare
    · exact sharedUser_stamps h (by simpa using hstamp) happ
  have herror (self : Controller) (error : Option NSError) :
      (loadError self error : Program Image Data).Within
        (contract ios urlOf everyCall SameShared) :=
    within_loadError hquiet error
  cases h with
  | splashLoad self uid =>
      have hnothing (error : Option NSError) : (Callback.Prog.done : Program Image Data).Within
          (contract ios urlOf everyCall SameShared) := Callback.Prog.within_done
      exact sharedUser_getDocument (fun user _ => sharedUser_homeLoaded ios self user) hnothing a
        happ
  | load place self uid => exact sharedUser_getDocument (fun _ _ _ => rfl) (herror self) a happ
  | loadSignedIn self uid =>
      have hnoUser (error : Option NSError) : (WelcomeViewController.noUser self error :
          Program Image Data).Within (contract ios urlOf everyCall SameShared) :=
        (lenient hquiet).within_noUser error
      exact sharedUser_getDocument (fun user _ => sharedUser_homeLoaded ios self user) hnoUser a
        happ
  | loadShown place self placeholder uid =>
      exact sharedUser_getDocument (fun user _ => sharedUser_showUser self placeholder user)
        (herror self) a happ
  | informationLoad self uid =>
      exact sharedUser_getDocument (fun user _ => sharedUser_informationLoaded self user)
        (herror self) a happ
  | registerUser self uid form clock =>
      cases a with
      | some error => rfl
      | none => exact (sharedUser_userSaved ios self _ happ).trans (user_registered rfl).symm
  | savePhoto self uid now =>
      have hfailed (error : Option NSError) :
          (ProfileInformationViewController.photoNotSaved self error : Program Image Data).Within
            (contract ios urlOf everyCall SameShared) := (lenient hquiet).within_photoNotSaved error
      cases a with
      | some error => exact sameShared_within (hfailed (some error)) happ
      | none => exact (happ self).2
  | saveTexts self uid form clock =>
      cases a with
      | some error => rfl
      | none => exact (user_filled rfl rfl).symm
  | _ => exact absurd rfl hshares

/-! ## Runs -/

/-- The shared user comes from the last answer that set or cleared it, and a registration gave it
an email. -/
structure Sourced (w : World Image Data) : Prop where
  user : w.client.sharedUser = (latest source w.journal).bind Source.user
  email : ∀ uid fields, latest source w.journal = some (.registered uid fields) →
    ∃ email, fields User.KEY_USER_EMAIL = some (.string email)

theorem email_registered {p : Pending Image Data} (h : Known ios urlOf everyCall p)
    {a : p.call.Response Image} {uid : Uid} {fields : Fields}
    (hsource : source ⟨p.call, a⟩ = some (.registered uid fields)) :
    ∃ email, fields User.KEY_USER_EMAIL = some (.string email) := by
  by_cases hshares : sharesAfter p.call = false
  · rw [source_of_not_shares hshares] at hsource
    cases hsource
  have hloaded (place : Place) (self : Controller) (uid' : Uid) (a : Except NSError (Option Fields))
      (hload : source (⟨⟨place, self, .getDocument uid'⟩, a⟩ : Entry Image Data) =
        some (.registered uid fields)) : False := by
    cases a with
    | error error => cases hload
    | ok doc => cases doc <;> cases hload
  cases h with
  | registerUser self uid' form clock =>
      cases a with
      | some error => cases hsource
      | none =>
          cases hsource
          exact ⟨form.emailTxt, User.parameters_email _⟩
  | splashLoad self uid' => exact (hloaded _ _ _ _ hsource).elim
  | load place self uid' => exact (hloaded _ _ _ _ hsource).elim
  | loadShown place self placeholder uid' => exact (hloaded _ _ _ _ hsource).elim
  | loadSignedIn self uid' => exact (hloaded _ _ _ _ hsource).elim
  | informationLoad self uid' => exact (hloaded _ _ _ _ hsource).elim
  | savePhoto self uid' now => cases a <;> cases hsource
  | saveTexts self uid' form clock => cases a <;> cases hsource
  | _ => exact absurd rfl hshares

theorem sourced_answer {n : ℕ} {p : Pending Image Data} {outcome : Outcome Image}
    (hsound : Sound ios w) (hp : w.inFlight[n]? = some p) (h : Sourced w) :
    Sourced (answer w n p outcome) := by
  have hknown := hsound.known p (List.mem_of_getElem? hp)
  have hgenuine : Genuine w.server.urlOf ⟨p.call, p.call.request.reply outcome w.server⟩ :=
    genuine_reply p.call outcome w.server
  have hlatest : latest source (answer w n p outcome).journal =
      (source ⟨p.call, p.call.request.reply outcome w.server⟩).or (latest source w.journal) :=
    latest_concat _
  constructor
  · have hshared := sharedUser_response hknown hgenuine
      (hsound.unset.receive p.call.request (p.call.request.reply outcome w.server))
    change ((p.handler _).run (receive p.call.request _ w.client)).1.sharedUser = _
    rw [hshared, hlatest, (receive_sameScreen p.call.request _ w.client).sharedUser, h.user]
    cases source ⟨p.call, p.call.request.reply outcome w.server⟩ with
    | none => rfl
    | some kind => rfl
  · intro uid fields hlast
    rw [hlatest] at hlast
    cases hsource : source ⟨p.call, p.call.request.reply outcome w.server⟩ with
    | none =>
        rw [hsource] at hlast
        exact h.email uid fields hlast
    | some kind =>
        rw [hsource] at hlast
        cases hlast
        exact email_registered hknown hsource

theorem sourced_act {e : Act Image} {p : Program Image Data} (hsound : Sound ios w)
    (hp : act ios e w.client = some p) (h : Sourced w) : Sourced (w.exec p) := by
  have hloading : AllowsLoading (SameShared : App Image → App Image → Prop) := quiet_sameShared
  have hwithin : p.Within (AppRequests.contract ios w.server.urlOf everyCall SameShared) :=
    within_act hloading.quiet (fun _ => hloading) (fun _ _ _ h _ => h)
      (fun _ => allowsReload_everyCall) hp
  refine ⟨?_, h.email⟩
  rw [Callback.World.exec_client, sameShared_within hwithin hsound.unset]
  exact h.user

theorem sourced_launched (ios : Platform Image Data) (server : Server Data)
    (keptUser : Option AuthUser) (clock : Clock) :
    Sourced (launched server keptUser clock : World Image Data) := by
  have hunset : Unset (App.launch keptUser clock : App Image) := fun _ => ⟨rfl, rfl⟩
  have hsplash : (SplashViewController.viewDidLoad splash : Program Image Data).Within
      (AppRequests.contract ios server.urlOf everyCall SameShared) := within_splash
  exact ⟨sameShared_within hsplash hunset, nofun⟩

theorem sourced_run {server : Server Data} {keptUser : Option AuthUser} {clock : Clock}
    {es : List (OwnEvent Image)}
    (hrun : EventRun.run (ownStep ios) (launched server keptUser clock) es = some w) :
    Sourced w := by
  have hinv : Sound ios w ∧ Sourced w := by
    refine EventRun.run_invariant (I := fun w => Sound ios w ∧ Sourced w) ?_
      ⟨sound_launched server keptUser clock, sourced_launched ios server keptUser clock⟩ hrun
    rintro w e w' ⟨hsound, hsourced⟩ hstep
    refine ⟨hsound.step hstep, ?_⟩
    cases stepped_of_ownStep hstep with
    | act e p hp => exact sourced_act hsound hp hsourced
    | accounts list => exact ⟨hsourced.user, hsourced.email⟩
    | complete n outcome p hp => exact sourced_answer hsound hp hsourced
  exact hinv.2

/-- A decoded user has the id of the document and no email. -/
theorem decoded_user {uid : Uid} {doc : Option Fields} {user : User}
    (h : doc.bind (User.ofSnapshot uid) = some user) :
    user.userId = some uid ∧ user.email = none := by
  obtain ⟨fields, _, hfields⟩ := Option.bind_eq_some_iff.mp h
  cases hfields
  exact ⟨rfl, rfl⟩

theorem fresh_of_none (h : w.client.sharedUser = none) : Fresh w := by
  unfold Fresh
  split
  · exact h
  · exact Or.inl h

theorem fresh_iff_of_some {user : User} (h : w.client.sharedUser = some user) :
    Fresh w ↔ ∃ uid, w.client.currentUid = some uid ∧
      (w.server.docs uid).bind (User.ofSnapshot uid) = some user := by
  unfold Fresh
  rw [h]
  split
  next hnone =>
    rw [hnone]
    constructor
    · intro hn
      cases hn
    · rintro ⟨uid, hu, _⟩
      cases hu
  next uid hu =>
    rw [hu]
    constructor
    · rintro (hn | ⟨user', hsome, hdoc⟩)
      · cases hn
      · cases hsome
        exact ⟨uid, rfl, hdoc⟩
    · rintro ⟨uid', hu', hdoc⟩
      cases hu'
      exact Or.inr ⟨user, rfl, hdoc⟩

/-- In every state that the app reaches, settled or not, the shared user is fresh exactly if
nothing has set it since a save of the photo cleared it, or it was last set from fields that the
document of the signed-in user still decodes like. -/
theorem fresh_iff_current {server : Server Data} {keptUser : Option AuthUser} {clock : Clock}
    {es : List (OwnEvent Image)}
    (hrun : EventRun.run (ownStep ios) (launched server keptUser clock) es = some w) :
    Fresh w ↔ ∀ kind, latest source w.journal = some kind → kind.Current w := by
  have hsourced := sourced_run hrun
  have hshared := hsourced.user
  cases hlast : latest source w.journal with
  | none =>
      rw [hlast] at hshared
      exact iff_of_true (fresh_of_none hshared) nofun
  | some kind =>
      rw [hlast] at hshared
      have hall : (∀ kind', some kind = some kind' → kind'.Current w) ↔ kind.Current w :=
        ⟨fun h => h kind rfl, fun h kind' hkind => Option.some.inj hkind ▸ h⟩
      rw [hall]
      cases kind with
      | cleared => exact iff_of_true (fresh_of_none hshared) trivial
      | filled uid fields =>
          rw [fresh_iff_of_some hshared]
          constructor
          · rintro ⟨uid', hu, hdoc⟩
            have huid : uid = uid' := Option.some.inj (decoded_user hdoc).1
            rw [← huid] at hu hdoc
            exact ⟨hu, hdoc⟩
          · rintro ⟨hu, hdoc⟩
            exact ⟨uid, hu, hdoc⟩
      | registered uid fields =>
          obtain ⟨email, hemail⟩ := hsourced.email uid fields hlast
          refine iff_of_false ?_ id
          rw [fresh_iff_of_some hshared]
          rintro ⟨uid', _, hdoc⟩
          have hnone := (decoded_user hdoc).2
          simp [hemail, Value.asString] at hnone

open PhotoPointers (anaServer profile)

/-- Ana, who was kept signed in, logs out on the profile screen. -/
def logOutAna : List (OwnEvent ℕ) :=
  [.app (.complete 0 .success), .app (.complete 0 .success), .app (.act (.selectTab .profile)),
    .app (.complete 0 .success), .app (.complete 0 .success), .app (.act (.logOut profile)),
    .app (.act .confirm), .app (.complete 0 .success)]

theorem logOutAna_run : ∃ w, EventRun.run (ownStep Platform.transparent)
      (launched anaServer (some Account.ana.user)) logOutAna = some w ∧ w.inFlight = [] ∧
    w.client.currentUid = none ∧ w.client.sharedUser ≠ none := by
  refine ⟨_, rfl, ?_, ?_, ?_⟩
  · rfl
  · rfl
  · nofun

theorem fresh_iff_current_ana : ∃ w, EventRun.run (ownStep Platform.transparent)
      (launched anaServer (some Account.ana.user)) logOutAna = some w ∧
    (Fresh w ↔ ∀ kind, latest source w.journal = some kind → kind.Current w) := by
  obtain ⟨w, hrun, _⟩ := logOutAna_run
  exact ⟨w, hrun, fresh_iff_current hrun⟩

theorem logOutAna_keeps_user : ∃ w, EventRun.run (ownStep Platform.transparent)
      (launched anaServer (some Account.ana.user)) logOutAna = some w ∧ w.inFlight = [] ∧
    ¬ Fresh w := by
  obtain ⟨w, hrun, hsettled, hnobody, hshared⟩ := logOutAna_run
  refine ⟨w, hrun, hsettled, fun h => hshared ?_⟩
  rw [Fresh, hnobody] at h
  exact h

end GiveMeMovies.CachedUser
