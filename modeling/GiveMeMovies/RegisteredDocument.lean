import GiveMeMovies.DocumentWrites
import GiveMeMovies.Registration

/-!
# The document of a new account

A tap on Create Account sends the email and the password of the form. The document is filled when
the account has been created, from the fields as they then are, and its photo and the
verification mail go to whoever is signed in when the document has been written. Anything may
happen in between, other taps and other registrations included.
-/

namespace GiveMeMovies.RegisteredDocument

open Program AppRuns AppRequests RegisterViewController Registration

variable {Image Data : Type}

/-- The app reaches `w`. -/
def Reached (ios : Platform Image Data) (w : World Image Data) : Prop :=
  ∃ server keptUser clock es,
    EventRun.run (AppRuns.step ios) (launched server keptUser clock) es = some w

/-- A tap on Create Account with `fields` has led to the account of `user`: in `before`, while
the screen is there, its request is answered. -/
def CreatedBy (ios : Platform Image Data) (self : Controller) (fields : RegisterFields Image)
    (user : AuthUser) (before created : World Image Data) : Prop :=
  ∃ w tapped es n outcome, Reached ios w ∧
    AppRuns.step ios w (.app (.act (.register self fields))) = some tapped ∧
    validationError ios fields = none ∧ EventRun.run (AppRuns.step ios) tapped es = some before ∧
    follow w.inFlight.length es = some n ∧ before.client.released self = false ∧
    (Request.createUser fields.emailTxt fields.confirmPassTxt).reply outcome before.server =
      .ok user ∧
    AppRuns.step ios before (.app (.complete n outcome)) = some created

/-- The document that was requested last in `created` is written in `saving`. -/
def WrittenAfter (ios : Platform Image Data) (created saving written : World Image Data) : Prop :=
  ∃ es n outcome, EventRun.run (AppRuns.step ios) created es = some saving ∧
    follow (created.inFlight.length - 1) es = some n ∧ outcome.error = none ∧
    AppRuns.step ios saving (.app (.complete n outcome)) = some written

/-- The requests that the answer sent. -/
def sent (saving written : World Image Data) : List (Pending Image Data) :=
  written.inFlight.drop (saving.inFlight.length - 1)

/-- The document carries the email of the account and the texts of the tap, and the photo and the
mail that its writing triggered are for the account. -/
structure Carries (fields : RegisterFields Image) (user : AuthUser)
    (saving written : World Image Data) : Prop where
  email : written.server.field user.uid User.KEY_USER_EMAIL = some (.string user.email)
  username : written.server.field user.uid User.KEY_USER_NAME =
    some (.string (fields.firstNameTxt ++ " " ++ fields.lastNameTxt))
  firstName : written.server.field user.uid User.KEY_FISRT_NAME =
    some (.string fields.firstNameTxt)
  lastName : written.server.field user.uid User.KEY_LAST_NAME = some (.string fields.lastNameTxt)
  aboutMe : written.server.field user.uid User.KEY_ABOUT_ME = some (.string fields.aboutMeTxt)
  photo : ∀ q ∈ sent saving written, ∀ ref data, q.call.request = .putData ref data →
    ref = .photo user.uid
  mail : ∀ q ∈ sent saving written, ∀ u uid, q.call.request = .sendEmailVerification u uid →
    uid = user.uid

/-- The texts that go into the document are those of the tap. -/
structure SameTexts (form fields : RegisterFields Image) : Prop where
  emailTxt : form.emailTxt = fields.emailTxt
  firstNameTxt : form.firstNameTxt = fields.firstNameTxt
  lastNameTxt : form.lastNameTxt = fields.lastNameTxt
  aboutMeTxt : form.aboutMeTxt = fields.aboutMeTxt

variable {ios : Platform Image Data} {self : Controller} {fields : RegisterFields Image}
  {user : AuthUser} {before created saving written w : World Image Data}

/-! ## The requests of a registration -/

theorem inFlight_tapped {tapped : World Image Data} (hvalid : validationError ios fields = none)
    (htap : AppRuns.step ios w (.app (.act (.register self fields))) = some tapped) :
    tapped.inFlight =
      w.inFlight ++ [createPending ios self fields.emailTxt fields.confirmPassTxt] := by
  obtain ⟨p, hp, rfl⟩ := (Callback.step_act (service Image Data) (act ios)).mp htap
  obtain ⟨rfl, _⟩ := of_whenInFront hp
  have hrun :
      (registerAction ios self : Program Image Data).run (filled w.client self fields) = _ :=
    run_registerAction hvalid
  rw [Callback.World.exec_inFlight, Callback.Prog.run_append, Callback.Prog.run_modify]
  exact congrArg (fun r => w.inFlight ++ ([] ++ r.2)) hrun

/-- The document is filled from the fields as they are when the account has been created. -/
theorem inFlight_created (h : CreatedBy ios self fields user before created) :
    ∃ clock, created.inFlight[created.inFlight.length - 1]? = some (savePending ios self user.uid
      (savedUser user.uid (before.client.register self).toRegisterFields clock)) := by
  obtain ⟨w, tapped, es, n, outcome, _, htap, hvalid, hrun, hfollow, hthere, hreply, hstep⟩ := h
  have hsent : tapped.inFlight[w.inFlight.length]? =
      some (createPending ios self fields.emailTxt fields.confirmPassTxt) := by
    rw [inFlight_tapped hvalid htap, List.getElem?_concat_length]
  have hp := getElem?_follow ios hsent hrun hfollow
  obtain ⟨p, hp', hcreated⟩ := (Callback.step_complete (service Image Data) (act ios)).mp hstep
  cases hp.symm.trans hp'
  have hsaving (a : Except CreationFailure AuthUser) (ha : a = .ok user) :
      ((userCreated ios self a : Program Image Data).run (receive (Request.createUser
        fields.emailTxt fields.confirmPassTxt : Request Data) a before.client)).2 =
      [savePending ios self user.uid (savedUser user.uid
        (before.client.register self).toRegisterFields before.client.clock)] := by
    subst ha
    have halive : (before.client.signedIn user).released self = false := hthere
    exact congrArg Prod.snd (run_userCreated halive)
  have hflight : created.inFlight = before.inFlight.eraseIdx n ++ [savePending ios self user.uid
      (savedUser user.uid (before.client.register self).toRegisterFields before.client.clock)] := by
    rw [hcreated]
    exact congrArg (before.inFlight.eraseIdx n ++ ·) (hsaving _ hreply)
  refine ⟨before.client.clock, ?_⟩
  rw [hflight, List.length_append, List.length_singleton, Nat.add_sub_cancel,
    List.getElem?_concat_length]

theorem email_of_created (h : CreatedBy ios self fields user before created) :
    user.email = fields.emailTxt := by
  obtain ⟨_, _, _, _, outcome, _, _, _, _, _, _, hreply, _⟩ := h
  exact (Request.of_createUser_ok hreply).1

theorem sent_written {n : ℕ} {uid : Uid} {user' : User} {outcome : Outcome Image}
    (hp : saving.inFlight[n]? = some (savePending ios self uid user'))
    (hsuccess : outcome.error = none)
    (hstep : AppRuns.step ios saving (.app (.complete n outcome)) = some written) :
    written.server = @Request.commit Data Image (.setData uid user'.parameters false) none
        saving.server ∧
      sent saving written =
        ((userSaved ios self user' true : Program Image Data).run saving.client).2 := by
  obtain ⟨hn, _⟩ := List.getElem?_eq_some_iff.mp hp
  obtain ⟨p, hp', hwritten⟩ := (Callback.step_complete (service Image Data) (act ios)).mp hstep
  cases hp.symm.trans hp'
  have hsaved (a : Option NSError) (ha : a = none) :
      @Request.commit Data Image (.setData uid user'.parameters false) a saving.server =
          @Request.commit Data Image (.setData uid user'.parameters false) none saving.server ∧
        ((UserManager.createUserHandler user' (userSaved ios self) a : Program Image Data).run
          (receive (Request.setData uid user'.parameters false : Request Data) a
            saving.client)).2 = ((userSaved ios self user' true).run saving.client).2 := by
    subst ha
    exact ⟨rfl, rfl⟩
  obtain ⟨hserver, hflight⟩ := hsaved _ hsuccess
  refine ⟨?_, ?_⟩
  · rw [hwritten]
    exact hserver
  · have hlength := List.length_eraseIdx_of_lt hn
    rw [sent, hwritten, Callback.World.respond_inFlight, ← hlength, List.drop_left]
    exact hflight

/-! ## The texts of the document -/

section Texts

variable (uid : Uid) (form : RegisterFields Image) (clock : Clock)

theorem savedUser_email : (savedUser uid form clock).parameters User.KEY_USER_EMAIL =
    some (.string form.emailTxt) := by
  rw [User.parameters_apply]
  rfl

theorem savedUser_username : (savedUser uid form clock).parameters User.KEY_USER_NAME =
    some (.string (form.firstNameTxt ++ " " ++ form.lastNameTxt)) := by
  rw [User.parameters_apply]
  rfl

theorem savedUser_firstName : (savedUser uid form clock).parameters User.KEY_FISRT_NAME =
    some (.string form.firstNameTxt) := by
  rw [User.parameters_apply]
  rfl

theorem savedUser_lastName : (savedUser uid form clock).parameters User.KEY_LAST_NAME =
    some (.string form.lastNameTxt) := by
  rw [User.parameters_apply]
  rfl

theorem savedUser_aboutMe : (savedUser uid form clock).parameters User.KEY_ABOUT_ME =
    some (.string form.aboutMeTxt) := by
  rw [User.parameters_apply]
  rfl

end Texts

/-! ## What the writing of the document triggers -/

theorem run_uploadImage (app : App Image) :
    ∃ uploads, (uploadImage ios self : Program Image Data).run app = (app, uploads) ∧
      ∀ q ∈ uploads, ∃ uid data, app.currentUid = some uid ∧
        q.call.request = .putData (.photo uid) data := by
  have hnone : ∀ q ∈ ([] : List (Pending Image Data)), ∃ uid data,
      app.currentUid = some uid ∧ q.call.request = .putData (.photo uid) data :=
    fun q hq => absurd hq List.not_mem_nil
  rw [uploadImage, Callback.Prog.run_read]
  cases (app.register self).userImage with
  | none => exact ⟨[], rfl, hnone⟩
  | some image =>
      dsimp only
      rw [StorageManager.run_uploadProfileImage]
      refine ⟨_, rfl, ?_⟩
      cases hu : app.currentUid with
      | none => exact fun q hq => absurd hq List.not_mem_nil
      | some uid =>
          cases ios.jpegData image (1 / 2) with
          | none => exact fun q hq => absurd hq List.not_mem_nil
          | some data =>
              intro q hq
              rw [List.mem_singleton.mp hq]
              exact ⟨uid, data, rfl, rfl⟩

/-- The request that sends the verification mail. -/
def mailPending (self : Controller) (u : ℕ) (uid : Uid) : Pending Image Data :=
  ⟨⟨.registerSendMail, self, .sendEmailVerification u uid⟩, mailSent self⟩

theorem run_sendMail (self : Controller) (app : App Image) :
    ∃ mails, (guardUser (fun u authUser => send .registerSendMail self
        (.sendEmailVerification u authUser.uid) (mailSent self)) : Program Image Data).run app =
          (app, mails) ∧
      (∀ q ∈ mails, ∃ u uid, app.currentUid = some uid ∧ q = mailPending self u uid) ∧
      (∀ uid, app.currentUid = some uid → ∃ u, mailPending self u uid ∈ mails) := by
  cases hu : app.currentUid with
  | none =>
      refine ⟨[], ?_, fun q hq => absurd hq List.not_mem_nil, nofun⟩
      have hauth : app.authUser = none := Option.map_eq_none_iff.mp hu
      simp [guardUser, hauth]
  | some uid =>
      obtain ⟨u, authUser, hc, ha, rfl⟩ := App.exists_of_currentUid hu
      refine ⟨_, run_guardUser_some _ hc ha, ?_, ?_⟩
      · intro q hq
        exact ⟨u, authUser.uid, rfl, List.mem_singleton.mp hq⟩
      · intro uid huid
        cases huid
        exact ⟨u, List.mem_singleton_self _⟩

variable (ios self) in
/-- The photo is uploaded for the signed-in user, and the mail is sent to him. -/
theorem run_userSaved (user' : User) (app : App Image) :
    ∃ uploads mails, ((userSaved ios self user' true : Program Image Data).run app).2 =
        uploads ++ mails ∧
      (∀ q ∈ uploads, ∃ uid data, app.currentUid = some uid ∧
        q.call.request = .putData (.photo uid) data) ∧
      (∀ q ∈ mails, ∃ u uid, app.currentUid = some uid ∧ q = mailPending self u uid) ∧
      (∀ uid, app.currentUid = some uid → ∃ u, mailPending self u uid ∈ mails) := by
  let shared : App Image := { app with sharedUser := some user' }
  obtain ⟨uploads, hupload, huploads⟩ : ∃ uploads, (weakly self (uploadImage ios self) :
      Program Image Data).run shared = (shared, uploads) ∧ ∀ q ∈ uploads, ∃ uid data,
        app.currentUid = some uid ∧ q.call.request = .putData (.photo uid) data := by
    rw [run_weakly]
    split
    · exact ⟨[], rfl, fun q hq => absurd hq List.not_mem_nil⟩
    · exact run_uploadImage shared
  obtain ⟨mails, hmail, hmails⟩ := @run_sendMail Image Data self shared
  refine ⟨uploads, mails, ?_, huploads, hmails⟩
  have hpush : ((weakly self (pushViewController self .emailVerification fun _ => .done) :
      Program Image Data).run shared).2 = [] := by
    rw [run_weakly]
    split
    · rfl
    · rw [pushViewController, Callback.Prog.run_read]
      split <;> rfl
  have hshared : (setSharedUser user' : Program Image Data).run app = (shared, []) := rfl
  simp only [userSaved, Callback.Prog.run_append, hshared, hupload, hmail, hpush, List.nil_append,
    List.append_nil]

variable (ios self) in
/-- They are for `uid` exactly if nobody else is signed in. -/
theorem triggered_iff_onlySignedIn (user' : User) (uid : Uid) (app : App Image) :
    ((∀ q ∈ ((userSaved ios self user' true : Program Image Data).run app).2, ∀ ref data,
        q.call.request = .putData ref data → ref = .photo uid) ∧
      ∀ q ∈ ((userSaved ios self user' true : Program Image Data).run app).2, ∀ u uid',
        q.call.request = .sendEmailVerification u uid' → uid' = uid) ↔ OnlySignedIn uid app := by
  obtain ⟨uploads, mails, hsends, huploads, hmails, hmailed⟩ :=
    run_userSaved ios self user' app
  rw [hsends]
  constructor
  · rintro ⟨_, hmail⟩
    cases hu : app.currentUid with
    | none => exact Or.inl hu
    | some uid' =>
        obtain ⟨u, hmem⟩ := hmailed uid' hu
        have howner : uid' = uid := hmail _ (List.mem_append_right _ hmem) u uid' rfl
        rw [← howner]
        exact Or.inr hu
  · intro hsigned
    have howner (uid' : Uid) (hu : app.currentUid = some uid') : uid' = uid := by
      rcases hsigned with hnone | hsome
      · cases hnone.symm.trans hu
      · exact Option.some.inj (hu.symm.trans hsome)
    constructor
    · intro q hq ref data hrequest
      rcases List.mem_append.mp hq with hq | hq
      · obtain ⟨uid', data', hu, hput⟩ := huploads q hq
        cases hrequest.symm.trans hput
        rw [howner uid' hu]
      · obtain ⟨u, uid', _, rfl⟩ := hmails q hq
        cases hrequest
    · intro q hq u uid' hrequest
      rcases List.mem_append.mp hq with hq | hq
      · obtain ⟨uid', data', _, hput⟩ := huploads q hq
        cases hrequest.symm.trans hput
      · obtain ⟨u', uid', hu, rfl⟩ := hmails q hq
        cases hrequest
        exact howner uid' hu

/-- The document carries what was submitted, for the account it was submitted for, exactly if the
texts were those of the tap when the account had been created, and nobody else was signed in when
the document had been written. -/
theorem carries_iff_sameTexts (hcreated : CreatedBy ios self fields user before created)
    (hwritten : WrittenAfter ios created saving written) :
    Carries fields user saving written ↔
      SameTexts (before.client.register self).toRegisterFields fields ∧
        OnlySignedIn user.uid saving.client := by
  obtain ⟨clock, hp⟩ := inFlight_created hcreated
  obtain ⟨es, n, outcome, hrun, hfollow, hsuccess, hstep⟩ := hwritten
  obtain ⟨hserver, hsent⟩ := sent_written (getElem?_follow ios hp hrun hfollow) hsuccess hstep
  have htriggered := triggered_iff_onlySignedIn ios self
    (savedUser user.uid (before.client.register self).toRegisterFields clock) user.uid saving.client
  rw [← hsent] at htriggered
  have hfield (key : String) : written.server.field user.uid key =
      (savedUser user.uid (before.client.register self).toRegisterFields clock).parameters key := by
    rw [hserver, field_replaced]
  have hemail := email_of_created hcreated
  have htext {key text text' : String} (h : (savedUser user.uid
      (before.client.register self).toRegisterFields clock).parameters key = some (.string text)) :
      written.server.field user.uid key = some (.string text') ↔ text = text' := by
    rw [hfield, h]
    simp
  constructor
  · intro h
    refine ⟨?_, htriggered.mp ⟨h.photo, h.mail⟩⟩
    constructor
    · rw [← hemail]
      exact (htext (savedUser_email _ _ _)).mp h.email
    · exact (htext (savedUser_firstName _ _ _)).mp h.firstName
    · exact (htext (savedUser_lastName _ _ _)).mp h.lastName
    · exact (htext (savedUser_aboutMe _ _ _)).mp h.aboutMe
  · rintro ⟨hsame, hsigned⟩
    obtain ⟨hphoto, hmail⟩ := htriggered.mpr hsigned
    refine ⟨?_, ?_, ?_, ?_, ?_, hphoto, hmail⟩
    · exact (htext (savedUser_email _ _ _)).mpr (hsame.emailTxt.trans hemail.symm)
    · apply (htext (savedUser_username _ _ _)).mpr
      rw [hsame.firstNameTxt, hsame.lastNameTxt]
    · exact (htext (savedUser_firstName _ _ _)).mpr hsame.firstNameTxt
    · exact (htext (savedUser_lastName _ _ _)).mpr hsame.lastNameTxt
    · exact (htext (savedUser_aboutMe _ _ _)).mpr hsame.aboutMeTxt

/-- Ana corrects her email to one of Ben's while her account is being created. -/
def correctedFields : RegisterFields ℕ := { anaFields with emailTxt := "ben@mail.com" }

theorem correctedForm_run : ∃ before created saving written,
    CreatedBy Platform.transparent register anaFields ⟨Account.ana.uid, "ana@mail.com", false⟩
      before created ∧ WrittenAfter Platform.transparent created saving written ∧
    written.server.field Account.ana.uid User.KEY_USER_EMAIL = some (.string "ben@mail.com") := by
  refine ⟨_, _, _, _, ⟨_, _, [.app (.act (.fill register correctedFields))], 0,
    .created Account.ana.uid, ⟨Server.empty, none, .stopped,
      [.app (.complete 0 .success), .app (.act (.createAccount ⟨1, .welcome⟩))], rfl⟩, rfl,
    anaFields_valid, rfl, rfl, rfl, rfl, rfl⟩, ⟨[], 0, .success, rfl, rfl, rfl, rfl⟩, ?_⟩
  rfl

theorem carries_iff_sameTexts_ana : ∃ before created saving written,
    CreatedBy Platform.transparent register anaFields ⟨Account.ana.uid, "ana@mail.com", false⟩
      before created ∧ WrittenAfter Platform.transparent created saving written ∧
    (Carries anaFields ⟨Account.ana.uid, "ana@mail.com", false⟩ saving written ↔
      SameTexts (before.client.register register).toRegisterFields anaFields ∧
        OnlySignedIn Account.ana.uid saving.client) := by
  obtain ⟨before, created, saving, written, hcreated, hwritten, _⟩ := correctedForm_run
  exact ⟨before, created, saving, written, hcreated, hwritten,
    carries_iff_sameTexts hcreated hwritten⟩

theorem correctedForm_parts_emails : ∃ before created saving written,
    CreatedBy Platform.transparent register anaFields ⟨Account.ana.uid, "ana@mail.com", false⟩
      before created ∧ WrittenAfter Platform.transparent created saving written ∧
    ¬ Carries anaFields ⟨Account.ana.uid, "ana@mail.com", false⟩ saving written := by
  obtain ⟨before, created, saving, written, hcreated, hwritten, hdoc⟩ := correctedForm_run
  refine ⟨before, created, saving, written, hcreated, hwritten, fun h => ?_⟩
  have hemail := hdoc.symm.trans h.email
  simp at hemail

end GiveMeMovies.RegisteredDocument
