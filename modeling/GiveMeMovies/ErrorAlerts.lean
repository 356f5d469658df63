import GiveMeMovies.CallbackLog
import GiveMeMovies.SignedInAccounts

/-!
# The error alerts

Every error alert that a run of the app has shown is one of the app's own messages about what was
typed, or was shown by the screen whose request was answered with the error that the alert tells of.
-/

namespace GiveMeMovies.ErrorAlerts

open Program UserManager StorageManager AppRuns AppRequests

variable {Image Data : Type} {ios : Platform Image Data}

/-- The screen that shows the alert, its title and its message. -/
abbrev Shown : Type := Controller × Option String × Option String

/-- The error that a response reports. -/
def failure : (request : Request Data) → request.Response Image → Option NSError
  | .signIn _ _, .error error => some error
  | .createUser _ _, .error failure => some failure.error
  | .reload _ _, .error failure | .delete _ _, .error failure
  | .sendEmailVerification _ _, .error failure => some failure.error
  | .getDocument _, .error error | .downloadURL _, .error error => some error
  | .updateCurrentUser _, error | .setData _ _ _, error | .updateData _ _, error
  | .deleteDocument _, error | .putData _ _, error | .deleteObject _, error => error
  | _, _ => none

/-- The alerts about what was typed, and the one for a user who is gone. -/
inductive Said (ios : Platform Image Data) : Shown → Prop
  | logIn (self : Controller) (email password msg : String)
      (h : WelcomeViewController.validationError ios email password = some msg) :
      Said ios (self, some "Error", some msg)
  | register (self : Controller) (form : RegisterFields Image) (msg : String)
      (h : RegisterViewController.validationError ios form = some msg) :
      Said ios (self, some "Error", some msg)
  | signedOut (self : Controller) :
      Said ios (self, some "Error", some ("Your account was successfuly deleted, " ++
        "but couldn't get you back to the Login Screen."))

/-- The alerts about a response. -/
inductive Tells : Callback.Entry (Call Data) (Call.Response Image) → Shown → Prop
  | failed (call : Call Data) (a : call.Response Image) (error : NSError)
      (h : failure call.request a = some error) :
      Tells ⟨call, a⟩ (call.self, some "Error", some error.localizedDescription)
  | disabled (self : Controller) (email password : String) (error : NSError)
      (h : error.code = AuthErrorCode.userDisabled) :
      Tells ⟨⟨.welcomeSignIn, self, .signIn email password⟩, Except.error error⟩
        (self, some "Error", some "Your account was disabled")
  | emailInUse (self : Controller) (email password : String) (failure : CreationFailure)
      (h : failure.error.code = AuthErrorCode.emailAlreadyInUse) :
      Tells ⟨⟨.registerCreateUser, self, .createUser email password⟩, Except.error failure⟩
        (self, some "Error", some "Email already in use!")
  | weakPassword (self : Controller) (email password : String) (failure : CreationFailure)
      (h : failure.error.code = AuthErrorCode.weakPassword) :
      Tells ⟨⟨.registerCreateUser, self, .createUser email password⟩, Except.error failure⟩
        (self, some "Error", some "Your password is too weak")
  | noDocument (place : Place) (self : Controller) (uid : Uid) :
      Tells ⟨⟨place, self, .getDocument uid⟩, Except.ok none⟩ (self, some "Error", none)
  | noAccount (self : Controller) (uid : Uid) :
      Tells ⟨⟨.welcomeLoadSignedIn, self, .getDocument uid⟩, Except.ok none⟩
        (self, some "No account found", some "Please create an account.")
  | verified (self : Controller) (user : ℕ) (uid : Uid) (a : Except AuthFailure Bool)
      (h : a ≠ .ok false) :
      Tells ⟨⟨.verificationBackReload, self, .reload user uid⟩, a⟩
        (self, some "Error", some ("This email address is already " ++
          "verified. \n Please continue with the setup process."))
  | unverified (self : Controller) (user : ℕ) (uid : Uid) (a : Except AuthFailure Bool)
      (h : a ≠ .ok true) :
      Tells ⟨⟨.verificationContinue, self, .reload user uid⟩, a⟩
        (self, some "Error", some ("Please verify your email address " ++
          "to continue. \n(In case you didn't receive a verification link, please tap on " ++
          "Resend link."))

/-- The alert is explained by the screen's own checks or by a response that has arrived. -/
def Explained (ios : Platform Image Data) (journal : Journal Image Data) (shown : Shown) : Prop :=
  Said ios shown ∨ ∃ entry ∈ journal, Tells entry shown

theorem Explained.mono {journal : Journal Image Data}
    {entry : Callback.Entry (Call Data) (Call.Response Image)} {shown : Shown}
    (h : Explained ios journal shown) : Explained ios (journal ++ [entry]) shown := by
  rcases h with hsaid | ⟨e, he, htells⟩
  · exact .inl hsaid
  · exact .inr ⟨e, List.mem_append_left _ he, htells⟩

/-! ## The users of the reloads -/

section Reloads

variable {self : Controller} {place : Place} {app : App Image}

/-- A reload is about a user object that is there. -/
def Held (app : App Image) (call : Call Data) : Prop :=
  ∀ user uid, call.request = .reload user uid → user < app.authUsers.length

theorem Held.of_length {app' : App Image} {call : Call Data} (h : Held app call)
    (hlength : app.authUsers.length ≤ app'.authUsers.length) : Held app' call :=
  fun user uid hcall => (h user uid hcall).trans_le hlength

theorem held_guardUser {handler : ℕ → AuthUser → Except AuthFailure Bool → Program Image Data}
    {q : Pending Image Data}
    (hq : q ∈ ((guardUser fun user authUser => send place self (.reload user authUser.uid)
      (handler user authUser)).run app).2) : Held app q.call := by
  intro user uid hcall
  unfold guardUser at hq
  rw [Callback.Prog.run_read] at hq
  split at hq
  next current authUser hcurrent hauth =>
    rw [List.mem_singleton.mp hq] at hcall
    cases hcall
    rw [App.authUser, hcurrent] at hauth
    exact (List.getElem?_eq_some_iff.mp hauth).1
  next => cases hq

/-- The calls that are not reloads. -/
def NoReload (call : Call Data) : Prop := ∀ user uid, call.request ≠ .reload user uid

theorem NoReload.held {call : Call Data} (h : NoReload call) : Held app call :=
  fun user uid hcall => absurd hcall (h user uid)

theorem allowsReference_noReload : AllowsReference (NoReload : Call Data → Prop) := by
  intro self uid reference url user other hcall
  cases hcall

theorem noReload_of_known {urlOf : StorageReference → String} {p : Pending Image Data}
    (h : Known ios urlOf NoReload p) : NoReload p.call := by
  cases h with
  | backReload self user authUser hallowed => exact hallowed
  | checkReload self user uid hallowed => exact hallowed
  | _ => exact nofun

/-- What an event asks for is the user signed in then. -/
theorem held_act {e : Act Image} {q : Pending Image Data} {body : Program Image Data}
    (hp : act ios e app = some body) (happ : Unset app) (hq : q ∈ (body.run app).2) :
    Held app q.call := by
  by_cases hreloads : reloads e = true
  · cases e with
    | back self =>
        simp only [act] at hp
        split at hp
        · cases hp
          unfold back at hq
          split at hq
          · cases hq
          · cases hq
          · exact held_guardUser hq
          · cases hq
          · cases hq
          · cases hq
        · cases hp
    | checkVerification self =>
        obtain ⟨rfl, _⟩ := of_whenInFront hp
        have hheld : Held (app.showLoadingSpinner self) q.call := held_guardUser hq
        exact hheld
    | _ => cases hreloads
  · have hknown : ∀ q ∈ (body.run app).2, Known ios (fun _ => "") NoReload q :=
      (known_act (fun h => absurd h hreloads) hp happ).2
    exact (noReload_of_known (hknown q hq)).held

end Reloads

/-! ## Parts of programs -/

section Programs

variable {R : Shown → Prop} {self : Controller} {place : Place}

/-- The program shows only alerts that `R` holds of. -/
abbrev Says (R : Shown → Prop) (p : Program Image Data) : Prop := p.Adds App.alerts R

theorem says_send {request : Request Data} {handler : request.Response Image → Program Image Data} :
    Says R (send place self request handler) := Callback.Prog.adds_request

theorem says_weakly {body : Program Image Data} (h : Says R body) : Says R (weakly self body) := by
  apply Callback.Prog.adds_read
  intro app
  split
  · exact Callback.Prog.adds_done
  · exact h

theorem says_guardUid {body : Uid → Program Image Data} (h : ∀ uid, Says R (body uid)) :
    Says R (guardUid body) := by
  apply Callback.Prog.adds_read
  intro app
  split
  · exact h _
  · exact Callback.Prog.adds_done

theorem says_guardUser {body : ℕ → AuthUser → Program Image Data}
    (h : ∀ user authUser, Says R (body user authUser)) : Says R (guardUser body) := by
  apply Callback.Prog.adds_read
  intro app
  split
  · exact h _ _
  · exact Callback.Prog.adds_done

theorem says_date {k : Date → Program Image Data} (h : ∀ now, Says R (k now)) :
    Says R (date k) := by
  apply Callback.Prog.adds_read
  intro app
  exact Callback.Prog.adds_write (fun _ => rfl) (h _)

theorem says_quiet {f : App Image → App Image} (hf : ∀ app, (f app).alerts = app.alerts) :
    Says R (Callback.Prog.modify f : Program Image Data) := Callback.Prog.adds_modify hf

theorem says_push {screen : Screen} {viewDidLoad : Controller → Program Image Data}
    (h : ∀ controller, Says R (viewDidLoad controller)) :
    Says R (pushViewController self screen viewDidLoad) := by
  apply Callback.Prog.adds_read
  intro app
  split
  · have hpush : Says R (Callback.Prog.modify (App.push self screen) : Program Image Data) :=
      says_quiet fun _ => rfl
    exact hpush.append (h _)
  · exact Callback.Prog.adds_done

theorem says_error {title msg : Option String} (h : R (self, title, msg)) :
    Says R (showErrorWith self title msg : Program Image Data) := by
  intro app
  by_cases hpresent : app.levels.canPresent self = true
  · refine ⟨[(self, title, msg)], ?_, fun x hx => ?_⟩
    · rw [run_showErrorWith, App.showErrorWith, if_pos hpresent]
      rfl
    · rw [List.mem_singleton.mp hx]
      exact h
  · refine ⟨[], ?_, nofun⟩
    rw [run_showErrorWith, App.showErrorWith, if_neg hpresent]
    rfl

theorem says_spinner : Says R (showLoadingSpinner self : Program Image Data) :=
  says_quiet fun _ => rfl

theorem says_noSpinner : Says R (removeLoadingSpinner : Program Image Data) :=
  says_quiet fun _ => rfl

/-- The handler of a document, which is missing or readable. -/
theorem says_document {uid : Uid} {completion : User → Program Image Data}
    {completionError : Option NSError → Program Image Data} {a : Except NSError (Option Fields)}
    (h : ∀ user, Says R (completion user)) (hnone : a = .ok none → Says R (completionError none))
    (herror : ∀ error, a = .error error → Says R (completionError (some error))) :
    Says R (getDocumentHandler uid completion completionError a) := by
  match a with
  | .error error => exact herror error rfl
  | .ok none => exact hnone rfl
  | .ok (some document) => exact h _

/-! ## What the screens do without alerts -/

theorem says_goToHomeScreen : Says R (goToHomeScreen self : Program Image Data) :=
  says_quiet fun _ => rfl

theorem says_setSharedUser {user : User} : Says R (setSharedUser user : Program Image Data) :=
  says_quiet fun _ => rfl

theorem says_setForm {f : ProfileForm Image → ProfileForm Image} :
    Says R (ProfileInformationViewController.setForm self f : Program Image Data) :=
  says_quiet fun _ => rfl

theorem says_pop : Says R (popViewController self : Program Image Data) :=
  says_quiet fun _ => rfl

theorem says_uploadProfileImage {image : Image} {completion : Program Image Data}
    {completionError : Option NSError → Program Image Data} :
    Says R (uploadProfileImage ios place self image completion completionError) := by
  apply says_guardUid
  intro uid
  dsimp only
  split
  · exact Callback.Prog.adds_done
  · exact says_send

theorem says_splash : Says R (SplashViewController.viewDidLoad self : Program Image Data) := by
  apply Callback.Prog.adds_read
  intro app
  split
  · exact says_send
  · exact says_send

theorem says_deadlineSignedIn :
    Says R (SplashViewController.deadlineSignedIn self : Program Image Data) := by
  have hload : Says R (SplashViewController.loadUser self : Program Image Data) :=
    says_guardUid fun _ => says_send
  refine hload.append (says_guardUser fun user authUser => ?_)
  split
  · exact says_goToHomeScreen
  · exact says_quiet fun _ => rfl

theorem says_userLoaded {user : User} :
    Says R (WelcomeViewController.userLoaded self user : Program Image Data) :=
  says_setSharedUser.append (says_weakly says_goToHomeScreen)

theorem says_userSaved {user : User} :
    Says R (RegisterViewController.userSaved ios self user true) := by
  have hupload : Says R (RegisterViewController.uploadImage ios self) := by
    apply Callback.Prog.adds_read
    intro app
    split
    · exact says_uploadProfileImage
    · exact Callback.Prog.adds_done
  have hmail : Says R (guardUser (fun user authUser => send .registerSendMail self
      (.sendEmailVerification user authUser.uid) (RegisterViewController.mailSent self)) :
      Program Image Data) := says_guardUser fun _ _ => says_send
  exact ((says_setSharedUser.append (says_weakly hupload)).append hmail).append
    (says_weakly (says_push fun _ => Callback.Prog.adds_done))

theorem says_saveUser {uid : Uid} : Says R (RegisterViewController.saveUser ios self uid) :=
  says_date fun _ => says_date fun _ => Callback.Prog.adds_read fun _ => says_date fun _ =>
    says_send

theorem says_createUser {email password : String} :
    Says R (RegisterViewController.createUser ios self email password) := by
  apply says_send.append
  apply Callback.Prog.adds_read
  intro app
  split
  · exact says_guardUid fun _ => says_date fun _ => says_send
  · exact Callback.Prog.adds_done

theorem says_welcomeInfo : Says R (WelcomeInfoViewController.loadUserData ios self) :=
  (says_spinner.append (says_guardUid fun _ => says_send)).append says_noSpinner

theorem says_loadUserData : Says R (ProfileViewController.loadUserData ios self) :=
  says_guardUid fun _ => says_send

theorem says_signOut : Says R (Callback.Prog.modify App.signOut : Program Image Data) := by
  apply says_quiet
  intro app
  unfold App.signOut
  split
  · rfl
  · rfl

theorem says_confirmLogOut :
    Says R (ProfileViewController.confirmLogOut self : Program Image Data) := by
  apply says_weakly
  apply says_spinner.append
  apply Callback.Prog.adds_read
  intro app
  split
  · exact (says_signOut.append says_noSpinner).append (says_push fun _ => says_splash)
  · exact Callback.Prog.adds_done

theorem says_confirmDelete :
    Says R (ProfileViewController.confirmDelete self : Program Image Data) := by
  have hauth : Says R (ProfileViewController.deleteAccountFromAuth self : Program Image Data) :=
    says_guardUser fun _ _ => says_signOut.append says_send
  have hdocument : Says R (ProfileViewController.deleteAccountFromDatabase self :
      Program Image Data) := says_guardUid fun _ => says_send
  have hphoto : Says R (ProfileViewController.deleteUserPhoto self : Program Image Data) :=
    says_guardUid fun _ => says_send
  exact says_weakly (((hauth.append hdocument).append hphoto).append
    (says_push fun _ => says_splash))

theorem says_setImage {image : Option Image} :
    Says R (UIImageView.setImage self image : Program Image Data) := says_quiet fun _ => rfl

theorem says_loadPhoto {placeholder : String} {user : User} :
    Says R (UIImageView.loadPhoto ios self placeholder user) := by
  unfold UIImageView.loadPhoto
  split
  · apply says_setImage.append
    split
    · exact says_send
    · exact says_send
    · exact Callback.Prog.adds_done
  · exact says_setImage

theorem says_downloadedHandler (image : Option Image) :
    Says R (UIImageView.downloadedHandler self image : Program Image Data) := by
  cases image with
  | some image => exact says_weakly says_setImage
  | none => exact Callback.Prog.adds_done

theorem says_showUser {placeholder : String} {user : User} :
    Says R (showUser ios self placeholder user) :=
  says_setSharedUser.append (says_weakly says_loadPhoto)

theorem says_updateUser_information :
    Says R (ProfileInformationViewController.updateUser ios self) :=
  says_guardUser fun _ _ => says_send

theorem says_updateUser {user : User} {completion : Program Image Data}
    {completionError : Option NSError → Program Image Data}
    (h : Says R (completionError none)) :
    Says R (UserManager.updateUser place self user completion completionError) := by
  unfold UserManager.updateUser
  split
  · exact says_send
  · exact h

theorem says_uploadImage {image : Image} {uid : Uid}
    {completion : Option String → Option NSError → Program Image Data}
    (h : Says R (completion none none)) :
    Says R (uploadImage ios place self image uid completion) := by
  dsimp only [uploadImage]
  split
  · exact h
  · exact says_send

theorem says_saveUserPhoto {uid : Uid} :
    Says R (ProfileInformationViewController.saveUserPhoto ios self uid) :=
  says_date fun _ => Callback.Prog.adds_read fun _ => says_uploadImage Callback.Prog.adds_done

theorem says_saveUser_information {uid : Uid} :
    Says R (ProfileInformationViewController.saveUser self uid : Program Image Data) :=
  says_spinner.append (says_date fun _ => says_date fun _ => Callback.Prog.adds_read fun _ =>
    says_updateUser Callback.Prog.adds_done)

/-! ## Responses -/

/-- The reload has told whether the address is verified, and the screen has looked. -/
theorem not_verified_of_reload {user : ℕ} {app : App Image} {uid : Uid} :
    (receive (.reload user uid : Request Data) (.ok false : Except AuthFailure Bool)
      app).isEmailVerified user = false := by
  cases hu : app.authUsers[user]? with
  | none => simp [receive, App.setEmailVerified, App.isEmailVerified, hu]
  | some authUser => simp [receive, App.setEmailVerified, App.isEmailVerified, hu]

theorem verified_of_reload {user : ℕ} {app : App Image} {uid : Uid}
    (huser : user < app.authUsers.length) :
    (receive (.reload user uid : Request Data) (.ok true : Except AuthFailure Bool)
      app).isEmailVerified user = true := by
  simp [receive, App.setEmailVerified, App.isEmailVerified, huser]

theorem says_loadError {uid : Uid} {a : Except NSError (Option Fields)}
    {completion : User → Program Image Data}
    (h : ∀ shown, Tells (⟨⟨place, self, .getDocument uid⟩, a⟩ :
      Callback.Entry (Call Data) (Call.Response Image)) shown → R shown)
    (hc : ∀ user, Says R (completion user)) :
    Says R (getDocumentHandler uid completion (loadError self) a) := by
  apply says_document hc
  · rintro rfl
    exact says_weakly (says_error (h _ (.noDocument place self uid)))
  · rintro error rfl
    exact says_weakly (says_error (h _ (.failed _ _ error rfl)))

theorem says_backReloaded {user : ℕ} {authUser : AuthUser} {a : Except AuthFailure Bool}
    (h : ∀ shown, Tells (⟨⟨.verificationBackReload, self, .reload user authUser.uid⟩, a⟩ :
      Callback.Entry (Call Data) (Call.Response Image)) shown → R shown)
    (app : App Image) :
    (EmailVerificationViewController.onBackReloaded self user authUser :
      Program Image Data).AddsAt App.alerts R
        (receive (.reload user authUser.uid : Request Data) a app) := by
  have hsent : Says R (send .verificationBackDelete self (.delete user authUser.uid)
      (EmailVerificationViewController.userDeleted self) ++ guardUid (fun uid =>
        weakly self (EmailVerificationViewController.deleteAccount self uid) ++
          weakly self (popViewController self)) : Program Image Data) := by
    apply says_send.append
    apply says_guardUid
    intro uid
    apply Callback.Prog.Adds.append _ (says_weakly says_pop)
    apply says_weakly
    apply Callback.Prog.adds_read
    intro app
    split
    · exact says_send
    · exact Callback.Prog.adds_done
  change Callback.Prog.AddsAt App.alerts R (if _ then _ else _) _
  split
  next hverified =>
    refine says_weakly (says_error (h _ (.verified self user authUser.uid a ?_))) _
    rintro rfl
    rw [not_verified_of_reload] at hverified
    cases hverified
  next => exact hsent _

theorem says_checked {user : ℕ} {uid : Uid} {a : Except AuthFailure Bool}
    (h : ∀ shown, Tells (⟨⟨.verificationContinue, self, .reload user uid⟩, a⟩ :
      Callback.Entry (Call Data) (Call.Response Image)) shown → R shown)
    {app : App Image} (huser : user < app.authUsers.length) :
    (EmailVerificationViewController.checkedEmailVerification ios self user).AddsAt App.alerts R
      (receive (.reload user uid : Request Data) a app) := by
  have hnext : Says R (weakly self (removeLoadingSpinner ++
      pushViewController self .welcomeInfo (WelcomeInfoViewController.viewWillAppear ios))) :=
    says_weakly (says_noSpinner.append (says_push fun _ => says_send))
  change Callback.Prog.AddsAt App.alerts R (if _ then _ else _) _
  split
  next => exact hnext _
  next hunverified =>
    refine says_weakly ((says_error (h _ (.unverified self user uid a ?_))).append
      says_noSpinner) _
    rintro rfl
    exact hunverified (verified_of_reload huser)

theorem says_handler {urlOf : StorageReference → String} {p : Pending Image Data}
    (h : Known ios urlOf everyCall p) (a : p.call.Response Image)
    (hR : ∀ shown, Tells ⟨p.call, a⟩ shown → R shown) {app : App Image}
    (hheld : Held app p.call) : (p.handler a).AddsAt App.alerts R
      (receive p.call.request a app) := by
  cases h with
  | deadlineSignedIn self => exact says_deadlineSignedIn _
  | deadlineSignedOut self => exact says_quiet (fun _ => rfl) _
  | splashLoad self uid =>
      have hload : Says R (getDocumentHandler uid (WelcomeViewController.userLoaded self)
          (fun _ => .done) a : Program Image Data) :=
        says_document (fun _ => says_userLoaded) (fun _ => Callback.Prog.adds_done)
          fun _ _ => Callback.Prog.adds_done
      exact hload _
  | load place self uid =>
      have hload : Says R (getDocumentHandler uid setSharedUser (loadError self) a :
          Program Image Data) := says_loadError hR fun _ => says_setSharedUser
      exact hload _
  | loadShown place self placeholder uid =>
      have hload : Says R
          (getDocumentHandler uid (showUser ios self placeholder) (loadError self) a) :=
        says_loadError hR fun _ => says_showUser
      exact hload _
  | signIn self email password =>
      cases a with
      | error error =>
          apply says_weakly
          unfold WelcomeViewController.signInFailed
          split
          next hcode =>
            have hne : AuthErrorCode.invalidEmail ≠ AuthErrorCode.wrongPassword := by decide
            exact absurd (hcode.1.symm.trans hcode.2) hne
          next =>
            split
            next hcode => exact says_error (hR _ (.disabled self email password error hcode))
            next => exact (says_error (hR _ (.failed _ _ error rfl))).append says_noSpinner
      | ok user =>
          have hload : Says R (WelcomeViewController.getUser self user.uid : Program Image Data) :=
            says_send
          exact says_weakly ((hload.append says_noSpinner).append says_goToHomeScreen) _
  | loadSignedIn self uid =>
      have hload : Says R (getDocumentHandler uid (WelcomeViewController.userLoaded self)
          (WelcomeViewController.noUser self) a : Program Image Data) := by
        apply says_document fun _ => says_userLoaded
        · rintro rfl
          exact says_weakly (says_error (hR _ (.noAccount self uid)))
        · rintro error rfl
          exact says_weakly (says_error (hR _ (.failed _ _ error rfl)))
      exact hload _
  | createAccount self email password =>
      cases a with
      | error failure =>
          apply says_weakly
          apply says_error
          split
          next hcode => exact hR _ (.emailInUse self email password failure hcode)
          next =>
            split
            next hcode => exact hR _ (.weakPassword self email password failure hcode)
            next => exact hR _ (.failed _ _ failure.error rfl)
      | ok user => exact says_weakly says_saveUser _
  | registerUser self uid form clock =>
      have hsaved : Says R (createUserHandler (RegisterViewController.savedUser uid form clock)
          (RegisterViewController.userSaved ios self) a) := by
        cases a with
        | some error => exact Callback.Prog.adds_done
        | none => exact says_userSaved
      exact hsaved _
  | registerMail self user uid =>
      cases a with
      | error failure =>
          exact says_weakly (says_error (hR _ (.failed _ _ failure.error rfl))) _
      | ok _ => exact Callback.Prog.adds_done _
  | putPhoto place self uid data =>
      cases a with
      | some error => exact Callback.Prog.adds_done _
      | none => exact says_send _
  | photoAddress place self uid =>
      cases a with
      | error error => exact Callback.Prog.adds_done _
      | ok url =>
          have hsave : Says R (savePhotoReferenceForUser self
              (StorageReference.photo uid).description url : Program Image Data) :=
            says_guardUid fun _ => says_send
          exact hsave.append Callback.Prog.adds_done _
  | photoReference self uid owner => exact Callback.Prog.adds_done _
  | backReload self user authUser => exact says_backReloaded hR app
  | backDelete self user uid =>
      cases a with
      | error failure =>
          exact says_weakly (says_error (hR _ (.failed _ _ failure.error rfl))) _
      | ok _ => exact Callback.Prog.adds_done _
  | backDeleteDocument self uid =>
      cases a with
      | some error => exact says_weakly (says_error (hR _ (.failed _ _ error rfl))) _
      | none => exact Callback.Prog.adds_done _
  | resendMail self user uid =>
      cases a with
      | error failure =>
          exact says_weakly ((says_noSpinner.append
            (says_error (hR _ (.failed _ _ failure.error rfl)))).append says_noSpinner) _
      | ok _ => exact says_weakly says_noSpinner _
  | checkReload self user uid => exact says_checked hR (hheld user uid rfl)
  | infoDeadline self => exact says_welcomeInfo _
  | deleteAuth self user uid =>
      cases a with
      | error failure =>
          exact says_weakly (says_error (hR _ (.failed _ _ failure.error rfl))) _
      | ok _ => exact Callback.Prog.adds_done _
  | deleteDocument self uid =>
      cases a with
      | some error => exact says_error (hR _ (.failed _ _ error rfl)) _
      | none => exact Callback.Prog.adds_done _
  | deletePhoto self uid =>
      cases a with
      | some error => exact says_error (hR _ (.failed _ _ error rfl)) _
      | none => exact Callback.Prog.adds_done _
  | informationLoad self uid =>
      refine says_loadError hR (fun user => ?_) _
      exact says_setSharedUser.append (says_weakly (says_loadPhoto.append says_setForm))
  | loadCached self photoUrl photoReference =>
      exact (says_downloadedHandler a).append says_send _
  | loadImage self photoUrl photoReference => exact says_downloadedHandler a _
  | updateCurrentUser self user uid =>
      cases a with
      | some error => exact says_weakly (says_error (hR _ (.failed _ _ error rfl))) _
      | none =>
          exact (says_weakly says_saveUserPhoto).append (says_weakly says_saveUser_information) _
  | putJpg self uid data now =>
      have huploaded : Says R (uploadImagePutHandler .informationSavePhoto self (.photoJpg uid)
          (ProfileInformationViewController.photoUploaded self uid now) a :
          Program Image Data) := by
        cases a with
        | some error => exact Callback.Prog.adds_done
        | none => exact says_send
      exact huploaded _
  | jpgAddress self uid now =>
      have huploaded : Says R (uploadImageURLHandler
          (ProfileInformationViewController.photoUploaded self uid now) a :
          Program Image Data) := by
        cases a with
        | error error => exact Callback.Prog.adds_done
        | ok url => exact says_send
      exact huploaded _
  | savePhoto self uid now =>
      cases a with
      | some error => exact says_error (hR _ (.failed _ _ error rfl)) _
      | none => exact says_quiet (fun _ => rfl) _
  | saveTexts self uid form clock =>
      cases a with
      | some error => exact Callback.Prog.adds_done _
      | none => exact says_setSharedUser.append says_noSpinner _

/-! ## Events -/

theorem says_loginAction {email password : String} (hR : ∀ shown, Said ios shown → R shown) :
    Says R (WelcomeViewController.loginAction ios self email password) := by
  unfold WelcomeViewController.loginAction WelcomeViewController.validateFields
  split
  next msg hmsg => exact says_error (hR _ (.logIn self email password msg hmsg))
  next =>
    apply Callback.Prog.adds_read
    intro app
    split
    · exact says_spinner.append says_send
    · exact says_guardUid fun _ => says_send.append says_send

theorem says_registerAction (hR : ∀ shown, Said ios shown → R shown) :
    Says R (RegisterViewController.registerAction ios self) := by
  apply Callback.Prog.adds_read
  intro app
  split
  next msg hmsg => exact says_error (hR _ (.register self _ msg hmsg))
  next => exact (says_spinner.append says_createUser).append says_noSpinner

theorem says_back : Says R (back self : Program Image Data) := by
  unfold back
  split
  · exact says_pop
  · exact says_pop
  · exact says_guardUser fun _ _ => says_send
  · exact says_pop
  · exact says_pop
  · exact Callback.Prog.adds_done

theorem says_whenInFront {app : App Image} {screen : Screen} {p q : Program Image Data}
    (h : whenInFront app self screen p = some q) (hp : Says R p) : Says R q := by
  unfold whenInFront at h
  split at h
  · cases h
    exact hp
  · cases h

theorem says_act {e : Act Image} {app : App Image} {p : Program Image Data}
    (h : act ios e app = some p) (hR : ∀ shown, Said ios shown → R shown) : Says R p := by
  cases e with
  | logIn self email password => exact says_whenInFront h (says_loginAction hR)
  | createAccount self =>
      exact says_whenInFront h (says_push fun _ => says_quiet fun _ => rfl)
  | fill self fields => exact says_whenInFront h (says_quiet fun _ => rfl)
  | register self fields =>
      have hset : Says R (.modify (App.setRegister self { toRegisterFields := fields }) :
          Program Image Data) := says_quiet fun _ => rfl
      exact says_whenInFront h (hset.append (says_registerAction hR))
  | resend self =>
      exact says_whenInFront h (says_spinner.append (says_guardUser fun _ _ => says_send))
  | checkVerification self =>
      exact says_whenInFront h (says_spinner.append (says_guardUser fun _ _ => says_send))
  | start self => exact says_whenInFront h says_goToHomeScreen
  | back self =>
      simp only [act] at h
      split at h
      · cases h
        exact says_back
      · cases h
  | swipeBack =>
      cases h
      exact says_quiet fun _ => rfl
  | selectTab tab =>
      simp only [act, AppRuns.selectTab] at h
      split at h
      · split at h
        · split at h
          · cases h
            have hshow : Says R (.modify App.showProfile : Program Image Data) :=
              says_quiet fun _ => rfl
            exact (hshow.append says_loadUserData).append says_loadUserData
          · cases h
            exact says_quiet fun _ => rfl
        · cases h
      · cases h
  | profileInfo self =>
      apply says_whenInFront h
      apply says_push
      intro controller
      apply says_setForm.append
      have hawake : Says R (.modify (ProfileInformationViewController.awakeFromNib ios controller) :
          Program Image Data) := says_quiet fun _ => rfl
      exact hawake.append (says_guardUid fun _ => says_send)
  | logOut self => exact says_whenInFront h (says_quiet fun _ => rfl)
  | deleteAccount self =>
      apply says_whenInFront h
      apply Callback.Prog.adds_read
      intro app
      split
      · exact says_quiet fun _ => rfl
      · exact says_error (hR _ (.signedOut self))
  | dismiss =>
      cases h
      exact says_quiet fun _ => rfl
  | confirm =>
      have hdismiss : Says R (.modify App.dismissAlert : Program Image Data) :=
        says_quiet fun _ => rfl
      simp only [act, AppRuns.confirm] at h
      split at h
      · cases h
        exact hdismiss.append says_confirmLogOut
      · cases h
        exact hdismiss.append says_confirmDelete
      · cases h
  | edit self firstName lastName about => exact says_whenInFront h says_setForm
  | library self =>
      apply says_whenInFront h
      apply Callback.Prog.adds_read
      intro app
      split
      · exact says_uploadProfileImage
      · exact Callback.Prog.adds_done
  | pick self image =>
      exact says_whenInFront h (((says_setForm.append says_spinner).append
        says_updateUser_information).append says_noSpinner)
  | update self =>
      have hmessage : Says R (ProfileInformationViewController.showMessage self :
          Program Image Data) := says_quiet fun _ => rfl
      exact says_whenInFront h (((says_updateUser_information.append says_setForm).append
        hmessage).append says_pop)
  | appear self =>
      simp only [act] at h
      split at h
      · cases h
        unfold viewWillAppear
        split
        · exact says_loadUserData
        · exact says_send
        · exact Callback.Prog.adds_done
      · cases h
  | release self =>
      simp only [act] at h
      split at h
      · cases h
      · cases h
        exact says_quiet fun _ => rfl
  | keychain error =>
      cases h
      exact says_quiet fun _ => rfl

end Programs

/-! ## Runs -/

variable {w w' : World Image Data} {server : Server Data} {keptUser : Option AuthUser}
  {clock : Clock} {es : List (AppRuns.Event Image Data)}

/-- What is known of the requests in flight. -/
structure Attended (ios : Platform Image Data) (w : World Image Data) : Prop where
  steady : Steady ios w
  within : w.Within (SignedInAccounts.contract fun _ => True)
  held : ∀ q ∈ w.inFlight, Held w.client q.call

/-- The user objects stay, and no handler asks for a reload. -/
theorem held_respond (h : Attended ios w) {n : ℕ} {p : Pending Image Data}
    (hp : w.inFlight[n]? = some p) (outcome : Outcome Image) :
    ∀ q ∈ (answer w n p outcome).inFlight, Held (answer w n p outcome).client q.call := by
  have hmem := List.mem_of_getElem? hp
  have hkept : (answer w n p outcome).client.authUsers = _ :=
    SignedInAccounts.authUsers_of_within ((h.within.pending p hmem).2.2 _ fun _ _ => trivial)
      fun _ _ => trivial
  have hlength : w.client.authUsers.length ≤ (answer w n p outcome).client.authUsers.length := by
    have hreceive := congrArg List.length (SignedInAccounts.identities_receive p.call.request
      (p.call.request.reply outcome w.server) w.client)
    simp only [List.length_map, List.length_append] at hreceive
    rw [hkept]
    exact hreceive ▸ Nat.le_add_right _ _
  obtain ⟨_, hknown⟩ := h.steady.known p hmem
  obtain ⟨urlOf, hknown, ha⟩ :=
    known_genuine hknown (Journal.genuine_reply p.call outcome w.server)
  have hunset := h.steady.unset.receive p.call.request (p.call.request.reply outcome w.server)
  intro q hq
  rcases Callback.World.mem_inFlight_respond _ hq with hq | hq
  · exact (h.held q hq).of_length hlength
  · have hsent := (known_response hknown (fun _ _ => allowsReference_noReload) ha hunset).2 q hq
    exact (noReload_of_known hsent).held

theorem Attended.step {e : AppRuns.Event Image Data} (h : Attended ios w)
    (hstep : AppRuns.step ios w e = some w') : Attended ios w' := by
  refine ⟨h.steady.step hstep,
    SignedInAccounts.within_step h.within (fun _ _ _ _ => trivial) hstep, ?_⟩
  cases e with
  | outside server =>
      cases hstep
      exact h.held
  | app e =>
      cases e with
      | act e =>
          obtain ⟨p, hp, rfl⟩ := (Callback.step_act (service Image Data) (act ios)).mp hstep
          have hwithin : p.Within (SignedInAccounts.contract fun _ => True) :=
            SignedInAccounts.within_act hp
          have hkept : (w.exec p).client.authUsers = w.client.authUsers :=
            SignedInAccounts.authUsers_of_within hwithin fun _ _ => trivial
          have hlength := (congrArg List.length hkept).ge
          intro q hq
          rcases List.mem_append.mp hq with hq | hq
          · exact (h.held q hq).of_length hlength
          · exact (held_act hp h.steady.unset hq).of_length hlength
      | complete n outcome =>
          obtain ⟨p, hp, rfl⟩ :=
            (Callback.step_complete (service Image Data) (act ios)).mp hstep
          exact held_respond h hp outcome

theorem attended_launched (server : Server Data) (keptUser : Option AuthUser) (clock : Clock) :
    Attended ios (launched server keptUser clock : World Image Data) := by
  refine ⟨steady_launched server keptUser clock,
    SignedInAccounts.within_launched fun _ _ => trivial, fun q hq => ?_⟩
  have hunset : Unset (App.launch keptUser clock : App Image) := fun _ => ⟨rfl, rfl⟩
  have hsplash : (SplashViewController.viewDidLoad splash : Program Image Data).Within
      (contract ios server.urlOf NoReload fun _ _ => True) := within_splash
  exact (noReload_of_known ((run_within hsplash hunset).2 q hq)).held

theorem explained_step {e : AppRuns.Event Image Data} (hattended : Attended ios w)
    (h : w.Explained App.alerts (Explained ios)) (hstep : AppRuns.step ios w e = some w') :
    w'.Explained App.alerts (Explained ios) := by
  cases e with
  | outside server =>
      cases hstep
      exact h
  | app e =>
      cases e with
      | act e =>
          obtain ⟨p, hp, rfl⟩ := (Callback.step_act (service Image Data) (act ios)).mp hstep
          exact h.exec (says_act hp (fun _ => .inl) _)
      | complete n outcome =>
          obtain ⟨p, hp, rfl⟩ :=
            (Callback.step_complete (service Image Data) (act ios)).mp hstep
          have hmem := List.mem_of_getElem? hp
          obtain ⟨_, hknown⟩ := hattended.steady.known p hmem
          refine h.respond (service Image Data) (fun _ _ _ => Explained.mono)
            (receive_sameScreen _ _ _).alerts ?_
          exact says_handler hknown _
            (fun _ htells => .inr ⟨_, List.mem_append_right _ List.mem_cons_self, htells⟩)
            (hattended.held p hmem)

/-- In every run, every error alert that has been shown is explained. -/
theorem explained_of_run
    (hrun : EventRun.run (AppRuns.step ios) (launched server keptUser clock) es = some w) :
    ∀ shown ∈ w.client.alerts, Said ios shown ∨ ∃ entry ∈ w.journal, Tells entry shown := by
  have hlaunched : (launched server keptUser clock : World Image Data).client.alerts = [] := by
    cases keptUser with
    | none => rfl
    | some user => rfl
  apply (EventRun.run_invariant (I := fun v => Attended ios v ∧
    v.Explained App.alerts (Explained ios)) _ _ hrun).2
  · exact fun v e v' hv hstep => ⟨hv.1.step hstep, explained_step hv.1 hv.2 hstep⟩
  · refine ⟨attended_launched server keptUser clock, fun shown hshown => ?_⟩
    rw [hlaunched] at hshown
    cases hshown

theorem explained_of_run_empty : ∃ w, EventRun.run (AppRuns.step Platform.transparent)
      (launched Server.empty none) [.app (.complete 0 .success),
        .app (.act (.logIn ⟨1, .welcome⟩ "" ""))] = some w ∧
    w.client.alerts = [(⟨1, .welcome⟩, some "Error", some "Please enter your email")] ∧
    ∀ shown ∈ w.client.alerts, Said Platform.transparent shown ∨
      ∃ entry ∈ w.journal, Tells entry shown := by
  obtain ⟨w, hrun, halerts⟩ : ∃ w, EventRun.run (AppRuns.step Platform.transparent)
        (launched Server.empty none) [.app (.complete 0 .success),
          .app (.act (.logIn ⟨1, .welcome⟩ "" ""))] = some w ∧
      w.client.alerts = [(⟨1, .welcome⟩, some "Error", some "Please enter your email")] :=
    ⟨_, rfl, rfl⟩
  exact ⟨w, hrun, halerts, explained_of_run hrun⟩

end GiveMeMovies.ErrorAlerts
