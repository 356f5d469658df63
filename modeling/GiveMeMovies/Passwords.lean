import GiveMeMovies.AppResponses
import GiveMeMovies.CallbackSimulation

/-!
# Passwords

With other passwords, typed and kept on the server, every run goes on as it did. A password goes
into sign-ins and new accounts, and no document, photo, alert, screen or other request depends on
it.
-/

namespace GiveMeMovies

variable {Image Data : Type}

def RegisterFields.withPasswords (f : String → String) (fields : RegisterFields Image) :
    RegisterFields Image :=
  { fields with passTxt := f fields.passTxt, confirmPassTxt := f fields.confirmPassTxt }

def App.withPasswords (f : String → String) (app : App Image) : App Image :=
  { app with
    register := fun controller =>
      { app.register controller with
        toRegisterFields := (app.register controller).toRegisterFields.withPasswords f } }

def Account.withPassword (f : String → String) (account : Account) : Account :=
  { account with password := f account.password }

def Server.withPasswords (f : String → String) (server : Server Data) : Server Data :=
  { server with accounts := server.accounts.map (Account.withPassword f) }

def Request.hasPassword : Request Data → Bool
  | signIn _ _ | createUser _ _ => true
  | _ => false

namespace Passwords

open Program UserManager StorageManager AppRuns AppRequests

def act (f : String → String) : Act Image → Act Image
  | .logIn self email password => .logIn self email (f password)
  | .fill self fields => .fill self (fields.withPasswords f)
  | .register self fields => .register self (fields.withPasswords f)
  | e => e

/-- The event with other passwords. -/
def event (f : String → String) : AppRuns.Event Image Data → AppRuns.Event Image Data
  | .app (.act e) => .app (.act (act f e))
  | .app (.complete n outcome) => .app (.complete n outcome)
  | .outside server => .outside (server.withPasswords f)

/-- The requests in flight are the same but for a password, and the same handler waits. -/
inductive Renamed (f : String → String) : Pending Image Data → Pending Image Data → Prop
  | same (p : Pending Image Data) (h : p.call.request.hasPassword = false) : Renamed f p p
  | signIn (place : Place) (self : Controller) (email password : String)
      (handler : Except NSError AuthUser → Program Image Data) :
      Renamed f ⟨⟨place, self, .signIn email password⟩, handler⟩
        ⟨⟨place, self, .signIn email (f password)⟩, handler⟩
  | createUser (place : Place) (self : Controller) (email password : String)
      (handler : Except CreationFailure AuthUser → Program Image Data) :
      Renamed f ⟨⟨place, self, .createUser email password⟩, handler⟩
        ⟨⟨place, self, .createUser email (f password)⟩, handler⟩

/-- The same for what has been received. -/
inductive RenamedEntry (f : String → String) : Callback.Entry (Call Data) (Call.Response Image) →
    Callback.Entry (Call Data) (Call.Response Image) → Prop
  | same (entry : Callback.Entry (Call Data) (Call.Response Image))
      (h : entry.call.request.hasPassword = false) : RenamedEntry f entry entry
  | signIn (place : Place) (self : Controller) (email password : String)
      (a : Except NSError AuthUser) :
      RenamedEntry f ⟨⟨place, self, .signIn email password⟩, a⟩
        ⟨⟨place, self, .signIn email (f password)⟩, a⟩
  | createUser (place : Place) (self : Controller) (email password : String)
      (a : Except CreationFailure AuthUser) :
      RenamedEntry f ⟨⟨place, self, .createUser email password⟩, a⟩
        ⟨⟨place, self, .createUser email (f password)⟩, a⟩

/-- Other passwords that pass the same checks. -/
structure Opaque (ios : Platform Image Data) (f : String → String) : Prop where
  injective : Function.Injective f
  empty : ∀ s, f s = "" ↔ s = ""
  count : ∀ s, ios.count (f s) < 6 ↔ ios.count s < 6
  contains : ∀ s t, ios.contains (f s) (f t) = ios.contains s t
  equal : ∀ s t, ios.equal (f s) (f t) = ios.equal s t

variable {ios : Platform Image Data} {f : String → String} {self : Controller} {place : Place}

/-! ## Answers -/

section Answers

variable {server : Server Data} {email password : String} {outcome : Outcome Image}

theorem account_withPasswords (uid : Uid) : (server.withPasswords f).account uid =
    (server.account uid).map (Account.withPassword f) := by
  unfold Server.account Server.withPasswords
  rw [List.find?_map]
  rfl

theorem accountWithEmail_withPasswords (email : String) :
    (server.withPasswords f).accountWithEmail email =
      (server.accountWithEmail email).map (Account.withPassword f) := by
  unfold Server.accountWithEmail Server.withPasswords
  rw [List.find?_map]
  rfl

theorem reply_signIn (hf : Function.Injective f) :
    (Request.signIn email (f password) : Request Data).reply outcome (server.withPasswords f) =
      (Request.signIn email password).reply outcome server := by
  simp only [Request.reply, accountWithEmail_withPasswords]
  cases outcome.error with
  | some error => rfl
  | none =>
      cases server.accountWithEmail email with
      | none => rfl
      | some account => simp [Account.withPassword, Account.user, hf.eq_iff]

theorem unused_withPasswords (uid : Uid) :
    Request.Unused (server.withPasswords f) uid ↔ Request.Unused server uid := by
  simp only [Request.Unused, account_withPasswords, Option.map_eq_none_iff]
  rfl

theorem reply_createUser :
    (Request.createUser email (f password) : Request Data).reply outcome
        (server.withPasswords f) =
      (Request.createUser email password).reply outcome server := by
  simp only [Request.reply, accountWithEmail_withPasswords, unused_withPasswords]
  cases server.accountWithEmail email with
  | none => rfl
  | some account => cases outcome <;> rfl

theorem reply_same {request : Request Data} (h : request.hasPassword = false) :
    request.reply outcome (server.withPasswords f) = request.reply outcome server := by
  cases request with
  | signIn email password => cases h
  | createUser email password => cases h
  | reload user uid =>
      simp only [Request.reply, account_withPasswords]
      cases server.account uid <;> rfl
  | delete user uid =>
      simp only [Request.reply, account_withPasswords]
      cases server.account uid <;> rfl
  | sendEmailVerification user uid =>
      simp only [Request.reply, account_withPasswords]
      cases server.account uid <;> rfl
  | _ => rfl

theorem commit_createUser (a : Except CreationFailure AuthUser) :
    (service Image Data).commit ⟨place, self, .createUser email (f password)⟩ a
        (server.withPasswords f) =
      ((service Image Data).commit ⟨place, self, .createUser email password⟩ a
        server).withPasswords f := by
  cases a with
  | error failure =>
      obtain ⟨error, made⟩ := failure
      cases made <;> rfl
  | ok user => rfl

theorem commit_same {request : Request Data} (h : request.hasPassword = false)
    (a : request.Response Image) : request.commit a (server.withPasswords f) =
      (request.commit a server).withPasswords f := by
  cases request with
  | signIn email password => cases h
  | createUser email password => cases h
  | delete user uid =>
      cases a with
      | error failure => rfl
      | ok _ =>
          simp only [Request.commit, Server.removeAccount, Server.withPasswords, List.filter_map]
          rfl
  | setData uid fields merge => cases a <;> rfl
  | updateData uid fields => cases a <;> rfl
  | deleteDocument uid => cases a <;> rfl
  | putData ref data => cases a <;> rfl
  | deleteObject ref => cases a <;> rfl
  | _ => rfl

theorem receive_same (request : Request Data) (a : request.Response Image) (app : App Image) :
    receive request a (app.withPasswords f) = (receive request a app).withPasswords f := by
  have hforce (user : ℕ) : (app.withPasswords f).signOutByForce user =
      (app.signOutByForce user).withPasswords f := by
    unfold App.signOutByForce
    change (if app.currentUser = some user then _ else _) = _
    split
    · rfl
    · rfl
  have hinvalid (error : NSError) : (app.withPasswords f).signOutIfTokenIsInvalid error =
      (app.signOutIfTokenIsInvalid error).withPasswords f := by
    unfold App.signOutIfTokenIsInvalid
    split
    · rfl
    · rfl
  cases request with
  | signIn email password => cases a <;> rfl
  | createUser email password => cases a <;> rfl
  | reload user uid =>
      cases a with
      | ok verified => rfl
      | error failure =>
          simp only [receive]
          split
          · exact hforce user
          · rfl
  | delete user uid =>
      cases a with
      | ok _ => exact hforce user
      | error failure =>
          simp only [receive]
          split
          · exact hforce user
          · rfl
  | sendEmailVerification user uid =>
      cases a with
      | ok _ => rfl
      | error failure =>
          simp only [receive]
          split
          · exact hforce user
          · rfl
  | updateCurrentUser user => rfl
  | loadImage photoUrl photoReference => rfl
  | timer => rfl
  | getDocument uid | downloadURL ref =>
      cases a with
      | ok _ => rfl
      | error error => exact hinvalid error
  | setData uid fields merge | updateData uid fields | deleteDocument uid | putData ref data
  | deleteObject ref =>
      cases a with
      | none => rfl
      | some error => exact hinvalid error

end Answers

/-! ## Parts of programs -/

section Programs

/-- The state with the other passwords. -/
abbrev Alike (f : String → String) (app app' : App Image) : Prop := app' = app.withPasswords f

/-- The program does the same with other passwords. -/
abbrev Blind (f : String → String) (p : Program Image Data) : Prop :=
  p.Matches (Alike f) (Renamed f) p

theorem blind_done : Blind f (.done : Program Image Data) := Callback.Prog.matches_done

theorem blind_read {k : App Image → Program Image Data}
    (hk : ∀ app, k (app.withPasswords f) = k app) (h : ∀ app, Blind f (k app)) :
    Blind f (.read k) := by
  apply Callback.Prog.matches_read
  rintro app _ rfl
  rw [hk]
  exact h app

theorem blind_modify {g : App Image → App Image}
    (hg : ∀ app, g (app.withPasswords f) = (g app).withPasswords f) :
    Blind f (Callback.Prog.modify g : Program Image Data) := by
  apply Callback.Prog.matches_modify
  rintro app _ rfl
  exact hg app

theorem blind_send {request : Request Data} {handler : request.Response Image → Program Image Data}
    (h : request.hasPassword = false) : Blind f (send place self request handler) :=
  Callback.Prog.matches_request (.same _ h)

theorem blind_weakly {body : Program Image Data} (h : Blind f body) :
    Blind f (weakly self body) := by
  apply blind_read fun _ => rfl
  intro app
  split
  · exact blind_done
  · exact h

theorem blind_guardUid {body : Uid → Program Image Data} (h : ∀ uid, Blind f (body uid)) :
    Blind f (guardUid body) := by
  apply blind_read fun _ => rfl
  intro app
  split
  · exact h _
  · exact blind_done

theorem blind_guardUser {body : ℕ → AuthUser → Program Image Data}
    (h : ∀ user authUser, Blind f (body user authUser)) : Blind f (guardUser body) := by
  apply blind_read fun _ => rfl
  intro app
  split
  · exact h _ _
  · exact blind_done

theorem blind_date {k : Date → Program Image Data} (h : ∀ now, Blind f (k now)) :
    Blind f (date k) := by
  apply blind_read fun _ => rfl
  intro app
  apply Callback.Prog.matches_write _ (h _)
  rintro app _ rfl
  rfl

theorem blind_push {screen : Screen} {viewDidLoad : Controller → Program Image Data}
    (h : ∀ controller, Blind f (viewDidLoad controller)) :
    Blind f (pushViewController self screen viewDidLoad) := by
  apply blind_read fun _ => rfl
  intro app
  split
  · have hpush : Blind f (.modify (App.push self screen) : Program Image Data) :=
      blind_modify fun _ => rfl
    exact hpush.append (h _)
  · exact blind_done

theorem blind_error {title msg : Option String} :
    Blind f (showErrorWith self title msg : Program Image Data) := by
  apply blind_modify
  intro app
  unfold App.showErrorWith
  change (if app.levels.canPresent self then _ else _) = _
  split
  · rfl
  · rfl

theorem blind_spinner : Blind f (showLoadingSpinner self : Program Image Data) :=
  blind_modify fun _ => rfl

theorem blind_noSpinner : Blind f (removeLoadingSpinner : Program Image Data) :=
  blind_modify fun _ => rfl

theorem blind_document {uid : Uid} {completion : User → Program Image Data}
    {completionError : Option NSError → Program Image Data} {a : Except NSError (Option Fields)}
    (h : ∀ user, Blind f (completion user)) (herror : ∀ error, Blind f (completionError error)) :
    Blind f (getDocumentHandler uid completion completionError a) := by
  match a with
  | .error error => exact herror _
  | .ok none => exact herror _
  | .ok (some document) => exact h _

/-! ## Screens -/

theorem blind_goToHomeScreen : Blind f (goToHomeScreen self : Program Image Data) :=
  blind_modify fun _ => rfl

theorem blind_setSharedUser {user : User} : Blind f (setSharedUser user : Program Image Data) :=
  blind_modify fun _ => rfl

theorem blind_setForm {g : ProfileForm Image → ProfileForm Image} :
    Blind f (ProfileInformationViewController.setForm self g : Program Image Data) :=
  blind_modify fun _ => rfl

theorem blind_pop : Blind f (popViewController self : Program Image Data) :=
  blind_modify fun _ => rfl

theorem blind_signOut : Blind f (.modify App.signOut : Program Image Data) := by
  apply blind_modify
  intro app
  unfold App.signOut
  change (if app.keychainError.isSome then _ else _) = _
  split
  · rfl
  · rfl

theorem blind_uploadProfileImage {image : Image} {completion : Program Image Data}
    {completionError : Option NSError → Program Image Data} :
    Blind f (uploadProfileImage ios place self image completion completionError) := by
  apply blind_guardUid
  intro uid
  dsimp only
  split
  · exact blind_done
  · exact blind_send rfl

theorem blind_splash : Blind f (SplashViewController.viewDidLoad self : Program Image Data) := by
  apply blind_read fun _ => rfl
  intro app
  split
  · exact blind_send rfl
  · exact blind_send rfl

theorem blind_deadlineSignedIn :
    Blind f (SplashViewController.deadlineSignedIn self : Program Image Data) := by
  have hload : Blind f (SplashViewController.loadUser self : Program Image Data) :=
    blind_guardUid fun _ => blind_send rfl
  refine hload.append (blind_guardUser fun user authUser => ?_)
  split
  · exact blind_goToHomeScreen
  · exact blind_modify fun _ => rfl

theorem blind_userLoaded {user : User} :
    Blind f (WelcomeViewController.userLoaded self user : Program Image Data) :=
  blind_setSharedUser.append (blind_weakly blind_goToHomeScreen)

theorem blind_signedIn (a : Except NSError AuthUser) :
    Blind f (WelcomeViewController.signedIn self a : Program Image Data) := by
  cases a with
  | error error =>
      apply blind_weakly
      unfold WelcomeViewController.signInFailed
      split
      · exact blind_error
      · split
        · exact blind_error
        · exact blind_error.append blind_noSpinner
  | ok user =>
      have hload : Blind f (WelcomeViewController.getUser self user.uid : Program Image Data) :=
        blind_send rfl
      exact blind_weakly ((hload.append blind_noSpinner).append blind_goToHomeScreen)

theorem blind_userSaved {user : User} :
    Blind f (RegisterViewController.userSaved ios self user true) := by
  have hupload : Blind f (RegisterViewController.uploadImage ios self) := by
    apply blind_read fun _ => rfl
    intro app
    split
    · exact blind_uploadProfileImage
    · exact blind_done
  have hmail : Blind f (guardUser (fun user authUser => send .registerSendMail self
      (.sendEmailVerification user authUser.uid) (RegisterViewController.mailSent self)) :
      Program Image Data) := blind_guardUser fun _ _ => blind_send rfl
  exact ((blind_setSharedUser.append (blind_weakly hupload)).append hmail).append
    (blind_weakly (blind_push fun _ => blind_done))

/-- The document is made from the fields of the form, but not from the passwords. -/
theorem blind_saveUser {uid : Uid} : Blind f (RegisterViewController.saveUser ios self uid) :=
  blind_date fun _ => blind_date fun _ => blind_read (fun _ => rfl) fun _ => blind_date fun _ =>
    blind_send rfl

theorem blind_userCreated (a : Except CreationFailure AuthUser) :
    Blind f (RegisterViewController.userCreated ios self a) := by
  cases a with
  | error failure => exact blind_weakly blind_error
  | ok user => exact blind_weakly blind_saveUser

theorem blind_confirmLogOut :
    Blind f (ProfileViewController.confirmLogOut self : Program Image Data) := by
  apply blind_weakly
  apply blind_spinner.append
  apply blind_read fun _ => rfl
  intro app
  split
  · exact (blind_signOut.append blind_noSpinner).append (blind_push fun _ => blind_splash)
  · exact blind_done

theorem blind_confirmDelete :
    Blind f (ProfileViewController.confirmDelete self : Program Image Data) := by
  have hauth : Blind f (ProfileViewController.deleteAccountFromAuth self : Program Image Data) :=
    blind_guardUser fun _ _ => blind_signOut.append (blind_send rfl)
  have hdocument : Blind f (ProfileViewController.deleteAccountFromDatabase self :
      Program Image Data) := blind_guardUid fun _ => blind_send rfl
  have hphoto : Blind f (ProfileViewController.deleteUserPhoto self : Program Image Data) :=
    blind_guardUid fun _ => blind_send rfl
  exact blind_weakly (((hauth.append hdocument).append hphoto).append
    (blind_push fun _ => blind_splash))

theorem blind_setImage {image : Option Image} :
    Blind f (UIImageView.setImage self image : Program Image Data) := blind_modify fun _ => rfl

theorem blind_loadPhoto {placeholder : String} {user : User} :
    Blind f (UIImageView.loadPhoto ios self placeholder user) := by
  unfold UIImageView.loadPhoto
  split
  · apply blind_setImage.append
    split
    · exact blind_send rfl
    · exact blind_send rfl
    · exact blind_done
  · exact blind_setImage

theorem blind_downloadedHandler (image : Option Image) :
    Blind f (UIImageView.downloadedHandler self image : Program Image Data) := by
  cases image with
  | some image => exact blind_weakly blind_setImage
  | none => exact blind_done

theorem blind_showUser {placeholder : String} {user : User} :
    Blind f (showUser ios self placeholder user) :=
  blind_setSharedUser.append (blind_weakly blind_loadPhoto)

theorem blind_updateUser_information :
    Blind f (ProfileInformationViewController.updateUser ios self) :=
  blind_guardUser fun _ _ => blind_send rfl

theorem blind_saveUserPhoto {uid : Uid} :
    Blind f (ProfileInformationViewController.saveUserPhoto ios self uid) := by
  apply blind_date
  intro now
  apply blind_read fun _ => rfl
  intro app
  dsimp only [uploadImage]
  split
  · exact blind_done
  · exact blind_send rfl

theorem blind_saveUser_information {uid : Uid} :
    Blind f (ProfileInformationViewController.saveUser self uid : Program Image Data) :=
  blind_spinner.append (blind_date fun _ => blind_date fun _ => blind_read (fun _ => rfl) fun _ =>
    blind_send rfl)

/-! ## Responses -/

theorem blind_backReloaded {user : ℕ} {authUser : AuthUser} :
    Blind f (EmailVerificationViewController.onBackReloaded self user authUser :
      Program Image Data) := by
  apply blind_read fun _ => rfl
  intro app
  split
  · exact blind_weakly blind_error
  · apply (blind_send rfl).append
    apply blind_guardUid
    intro uid
    apply Callback.Prog.Matches.append _ (blind_weakly blind_pop)
    apply blind_weakly
    apply blind_read fun _ => rfl
    intro app
    split
    · exact blind_send rfl
    · exact blind_done

theorem blind_handler {urlOf : StorageReference → String} {p : Pending Image Data}
    (h : Known ios urlOf everyCall p) (a : p.call.Response Image) : Blind f (p.handler a) := by
  cases h with
  | deadlineSignedIn self => exact blind_deadlineSignedIn
  | deadlineSignedOut self => exact blind_modify fun _ => rfl
  | splashLoad self uid =>
      have hload : Blind f (getDocumentHandler uid (WelcomeViewController.userLoaded self)
          (fun _ => .done) a : Program Image Data) :=
        blind_document (fun _ => blind_userLoaded) fun _ => blind_done
      exact hload
  | load place self uid =>
      have hload : Blind f (getDocumentHandler uid setSharedUser (loadError self) a :
          Program Image Data) :=
        blind_document (fun _ => blind_setSharedUser) fun _ => blind_weakly blind_error
      exact hload
  | loadShown place self placeholder uid =>
      have hload : Blind f (getDocumentHandler uid (showUser ios self placeholder)
          (loadError self) a) :=
        blind_document (fun _ => blind_showUser) fun _ => blind_weakly blind_error
      exact hload
  | signIn self email password => exact blind_signedIn a
  | loadSignedIn self uid =>
      have hload : Blind f (getDocumentHandler uid (WelcomeViewController.userLoaded self)
          (WelcomeViewController.noUser self) a : Program Image Data) := by
        apply blind_document fun _ => blind_userLoaded
        intro error
        cases error with
        | some error => exact blind_weakly blind_error
        | none => exact blind_weakly blind_error
      exact hload
  | createAccount self email password => exact blind_userCreated a
  | registerUser self uid form clock =>
      have hsaved : Blind f (createUserHandler (RegisterViewController.savedUser uid form clock)
          (RegisterViewController.userSaved ios self) a) := by
        cases a with
        | some error => exact blind_done
        | none => exact blind_userSaved
      exact hsaved
  | registerMail self user uid =>
      cases a with
      | error failure => exact blind_weakly blind_error
      | ok _ => exact blind_done
  | putPhoto place self uid data =>
      cases a with
      | some error => exact blind_done
      | none => exact blind_send rfl
  | photoAddress place self uid =>
      cases a with
      | error error => exact blind_done
      | ok url =>
          have hsave : Blind f (savePhotoReferenceForUser self
              (StorageReference.photo uid).description url : Program Image Data) :=
            blind_guardUid fun _ => blind_send rfl
          exact hsave.append blind_done
  | photoReference self uid owner => exact blind_done
  | backReload self user authUser => exact blind_backReloaded
  | backDelete self user uid =>
      cases a with
      | error failure => exact blind_weakly blind_error
      | ok _ => exact blind_done
  | backDeleteDocument self uid =>
      cases a with
      | some error => exact blind_weakly blind_error
      | none => exact blind_done
  | resendMail self user uid =>
      cases a with
      | error failure =>
          exact blind_weakly ((blind_noSpinner.append blind_error).append blind_noSpinner)
      | ok _ => exact blind_weakly blind_noSpinner
  | checkReload self user uid =>
      apply blind_read fun _ => rfl
      intro app
      split
      · exact blind_weakly (blind_noSpinner.append (blind_push fun _ => blind_send rfl))
      · exact blind_weakly (blind_error.append blind_noSpinner)
  | infoDeadline self =>
      exact (blind_spinner.append (blind_guardUid fun _ => blind_send rfl)).append blind_noSpinner
  | deleteAuth self user uid =>
      cases a with
      | error failure => exact blind_weakly blind_error
      | ok _ => exact blind_done
  | deleteDocument self uid =>
      cases a with
      | some error => exact blind_error
      | none => exact blind_done
  | deletePhoto self uid =>
      cases a with
      | some error => exact blind_error
      | none => exact blind_done
  | informationLoad self uid =>
      have hload : Blind f (getDocumentHandler uid
          (ProfileInformationViewController.userLoaded ios self) (loadError self) a) := by
        apply blind_document
        · intro user
          exact blind_setSharedUser.append (blind_weakly (blind_loadPhoto.append blind_setForm))
        · exact fun _ => blind_weakly blind_error
      exact hload
  | loadCached self photoUrl photoReference =>
      exact (blind_downloadedHandler a).append (blind_send rfl)
  | loadImage self photoUrl photoReference => exact blind_downloadedHandler a
  | updateCurrentUser self user uid =>
      cases a with
      | some error => exact blind_weakly blind_error
      | none =>
          exact (blind_weakly blind_saveUserPhoto).append (blind_weakly blind_saveUser_information)
  | putJpg self uid data now =>
      cases a with
      | some error => exact blind_done
      | none => exact blind_send rfl
  | jpgAddress self uid now =>
      cases a with
      | error error => exact blind_done
      | ok url => exact blind_send rfl
  | savePhoto self uid now =>
      cases a with
      | some error => exact blind_error
      | none => exact blind_modify fun _ => rfl
  | saveTexts self uid form clock =>
      cases a with
      | some error => exact blind_done
      | none => exact blind_setSharedUser.append blind_noSpinner

/-! ## Events -/

theorem validationError_login (hf : Opaque ios f) (email password : String) :
    WelcomeViewController.validationError ios email (f password) =
      WelcomeViewController.validationError ios email password := by
  simp only [WelcomeViewController.validationError, hf.empty, hf.count]

theorem validationError_register (hf : Opaque ios f) (form : RegisterFields Image) :
    RegisterViewController.validationError ios (form.withPasswords f) =
      RegisterViewController.validationError ios form := by
  simp only [RegisterViewController.validationError, RegisterFields.withPasswords, hf.empty,
    hf.count, hf.contains, hf.equal]

theorem matches_loginAction (hf : Opaque ios f) {email password : String} :
    (WelcomeViewController.loginAction ios self email password).Matches (Alike f) (Renamed f)
      (WelcomeViewController.loginAction ios self email (f password)) := by
  unfold WelcomeViewController.loginAction WelcomeViewController.validateFields
  rw [validationError_login hf]
  split
  · exact blind_error
  · apply Callback.Prog.matches_read
    rintro app _ rfl
    change Callback.Prog.Matches _ _ _ (if app.authUser.isNone then _ else _)
    split
    · exact blind_spinner.append (Callback.Prog.matches_request (.signIn _ _ _ _ _))
    · exact blind_guardUid fun _ => (blind_send rfl).append (blind_send rfl)

theorem matches_createUser {email password : String} :
    (RegisterViewController.createUser ios self email password).Matches (Alike f) (Renamed f)
      (RegisterViewController.createUser ios self email (f password)) := by
  apply Callback.Prog.Matches.append
  · exact Callback.Prog.matches_request (.createUser _ _ _ _ _)
  · apply blind_read fun _ => rfl
    intro app
    split
    · exact blind_guardUid fun _ => blind_date fun _ => blind_send rfl
    · exact blind_done

theorem blind_registerAction (hf : Opaque ios f) :
    Blind f (RegisterViewController.registerAction ios self) := by
  apply Callback.Prog.matches_read
  rintro app _ rfl
  have hvalid : RegisterViewController.validationError ios
      ((app.withPasswords f).register self).toRegisterFields =
        RegisterViewController.validationError ios (app.register self).toRegisterFields :=
    validationError_register hf _
  rw [hvalid]
  split
  · exact blind_error
  · exact (blind_spinner.append matches_createUser).append blind_noSpinner

theorem blind_back : Blind f (back self : Program Image Data) := by
  unfold back
  split
  · exact blind_pop
  · exact blind_pop
  · exact blind_guardUser fun _ _ => blind_send rfl
  · exact blind_pop
  · exact blind_pop
  · exact blind_done

theorem matches_whenInFront {app : App Image} {screen : Screen} {p p' q : Program Image Data}
    (h : whenInFront app self screen p = some q) (hp : p.Matches (Alike f) (Renamed f) p') :
    ∃ q', whenInFront (app.withPasswords f) self screen p' = some q' ∧
      q.Matches (Alike f) (Renamed f) q' := by
  unfold whenInFront at h
  split at h
  next hfront =>
    cases h
    exact ⟨p', if_pos hfront, hp⟩
  next => cases h

theorem matches_setRegister {fields fields' : RegisterFields Image}
    (h : fields' = fields.withPasswords f) : Callback.Prog.Matches (Alike f) (Renamed f)
      (.modify (App.setRegister self { toRegisterFields := fields }) : Program Image Data)
      (.modify (App.setRegister self { toRegisterFields := fields' })) := by
  subst h
  apply Callback.Prog.matches_modify
  rintro app _ rfl
  have hregister : Function.update (app.withPasswords f).register self
        { toRegisterFields := fields.withPasswords f } =
      ((app.setRegister self { toRegisterFields := fields }).withPasswords f).register := by
    funext controller
    by_cases hc : controller = self
    · subst hc
      simp [App.withPasswords, App.setRegister]
    · simp [App.withPasswords, App.setRegister, hc]
  exact congrArg (fun register => { app with register := register }) hregister

theorem blind_loadUserData :
    Blind f (ProfileViewController.loadUserData ios self : Program Image Data) :=
  blind_guardUid fun _ => blind_send rfl

theorem matches_selectTab {tab : Tab} {app : App Image} {p : Program Image Data}
    (h : AppRuns.selectTab ios tab app = some p) :
    AppRuns.selectTab ios tab (app.withPasswords f) = some p ∧ Blind f p := by
  refine ⟨h, ?_⟩
  simp only [AppRuns.selectTab] at h
  split at h
  · split at h
    · split at h
      · cases h
        have hshow : Blind f (.modify App.showProfile : Program Image Data) :=
          blind_modify fun _ => rfl
        exact (hshow.append blind_loadUserData).append blind_loadUserData
      · cases h
        exact blind_modify fun _ => rfl
    · cases h
  · cases h

theorem matches_confirm {app : App Image} {p : Program Image Data}
    (h : AppRuns.confirm app = some p) :
    AppRuns.confirm (app.withPasswords f) = some p ∧ Blind f p := by
  have hdismiss : Blind f (.modify App.dismissAlert : Program Image Data) :=
    blind_modify fun _ => rfl
  refine ⟨h, ?_⟩
  simp only [AppRuns.confirm] at h
  split at h
  · cases h
    exact hdismiss.append blind_confirmLogOut
  · cases h
    exact hdismiss.append blind_confirmDelete
  · cases h

theorem blind_viewWillAppear : Blind f (viewWillAppear ios self) := by
  unfold viewWillAppear
  split
  · exact blind_loadUserData
  · exact blind_send rfl
  · exact blind_done

/-- What the user does leads to the same program, with the other passwords in it. -/
theorem matches_act (hf : Opaque ios f) {e : Act Image} {app : App Image}
    {p : Program Image Data} (h : AppRuns.act ios e app = some p) :
    ∃ p', AppRuns.act ios (act f e) (app.withPasswords f) = some p' ∧
      p.Matches (Alike f) (Renamed f) p' := by
  cases e with
  | logIn self email password => exact matches_whenInFront h (matches_loginAction hf)
  | createAccount self =>
      have hempty : ({ userImage := some ios.placeholderPerson } : RegisterFields Image) =
          RegisterFields.withPasswords f { userImage := some ios.placeholderPerson } := by
        simp [RegisterFields.withPasswords, (hf.empty "").mpr rfl]
      exact matches_whenInFront h (blind_push fun _ => matches_setRegister hempty)
  | fill self fields => exact matches_whenInFront h (matches_setRegister rfl)
  | register self fields =>
      exact matches_whenInFront h ((matches_setRegister rfl).append (blind_registerAction hf))
  | resend self =>
      exact matches_whenInFront h
        (blind_spinner.append (blind_guardUser fun _ _ => blind_send rfl))
  | checkVerification self =>
      exact matches_whenInFront h
        (blind_spinner.append (blind_guardUser fun _ _ => blind_send rfl))
  | start self => exact matches_whenInFront h blind_goToHomeScreen
  | back self =>
      simp only [AppRuns.act] at h
      split at h
      next hfront =>
        cases h
        exact ⟨_, if_pos hfront, blind_back⟩
      next => cases h
  | swipeBack =>
      cases h
      exact ⟨_, rfl, blind_modify fun _ => rfl⟩
  | selectTab tab => exact ⟨p, matches_selectTab h⟩
  | profileInfo self =>
      apply matches_whenInFront h
      apply blind_push
      intro controller
      apply blind_setForm.append
      have hawake : Blind f (.modify (ProfileInformationViewController.awakeFromNib ios
          controller) : Program Image Data) := blind_modify fun _ => rfl
      exact hawake.append (blind_guardUid fun _ => blind_send rfl)
  | logOut self => exact matches_whenInFront h (blind_modify fun _ => rfl)
  | deleteAccount self =>
      apply matches_whenInFront h
      apply blind_read fun _ => rfl
      intro app
      split
      · exact blind_modify fun _ => rfl
      · exact blind_error
  | dismiss =>
      cases h
      exact ⟨_, rfl, blind_modify fun _ => rfl⟩
  | confirm => exact ⟨p, matches_confirm h⟩
  | edit self firstName lastName about => exact matches_whenInFront h blind_setForm
  | library self =>
      apply matches_whenInFront h
      apply blind_read fun _ => rfl
      intro app
      split
      · exact blind_uploadProfileImage
      · exact blind_done
  | pick self image =>
      exact matches_whenInFront h (((blind_setForm.append blind_spinner).append
        blind_updateUser_information).append blind_noSpinner)
  | update self =>
      have hmessage : Blind f (ProfileInformationViewController.showMessage self :
          Program Image Data) := blind_modify fun _ => rfl
      exact matches_whenInFront h (((blind_updateUser_information.append blind_setForm).append
        hmessage).append blind_pop)
  | appear self =>
      simp only [AppRuns.act] at h
      split at h
      next hfront =>
        cases h
        exact ⟨_, if_pos hfront, blind_viewWillAppear⟩
      next => cases h
  | release self =>
      simp only [AppRuns.act] at h
      split at h
      next => cases h
      next hheld =>
        cases h
        exact ⟨_, if_neg hheld, blind_modify fun _ => rfl⟩
  | keychain error =>
      cases h
      exact ⟨_, rfl, blind_modify fun _ => rfl⟩

end Programs

/-! ## Runs -/

section Runs

variable {w w' v : World Image Data} {server : Server Data} {keptUser : Option AuthUser}
  {clock : Clock} {es : List (AppRuns.Event Image Data)}

/-- The server with the other passwords. -/
abbrev SameServer (f : String → String) (server server' : Server Data) : Prop :=
  server' = server.withPasswords f

/-- The worlds are the same but for the passwords. -/
abbrev Beside (f : String → String) (w w' : World Image Data) : Prop :=
  w.Matches (SameServer f) (Alike f) (Renamed f) (RenamedEntry f) w'

abbrev Answers (f : String → String) (server server' : Server Data) (p q : Pending Image Data)
    (a : p.call.Response Image) (b : q.call.Response Image) : Prop :=
  Callback.World.Matches.Answers (service Image Data) (SameServer f) (Alike f) (Renamed f)
    (RenamedEntry f) server server' p q a b

theorem answers (hf : Opaque ios f) {urlOf : StorageReference → String} {p q : Pending Image Data}
    (hknown : Known ios urlOf everyCall p) (h : Renamed f p q) (outcome : Outcome Image)
    {server server' : Server Data} (hserver : SameServer f server server') :
    Answers f server server' p q ((service Image Data).reply p.call outcome server)
      ((service Image Data).reply q.call outcome server') := by
  subst hserver
  cases h with
  | same p hpassword =>
      have hsame (a b : p.call.Response Image) (hb : b = a) :
          Answers f server (server.withPasswords f) p p a b := by
        subst hb
        refine ⟨commit_same hpassword b, ?_, blind_handler hknown b, .same _ hpassword⟩
        rintro app _ rfl
        exact receive_same p.call.request b app
      exact hsame _ _ (reply_same hpassword)
  | signIn place self email password handler =>
      have hsame (a b : Except NSError AuthUser) (hb : b = a) :
          Answers f server (server.withPasswords f)
            ⟨⟨place, self, .signIn email password⟩, handler⟩
            ⟨⟨place, self, .signIn email (f password)⟩, handler⟩ a b := by
        subst hb
        refine ⟨rfl, ?_, blind_handler hknown b, .signIn place self email password b⟩
        rintro app _ rfl
        cases b <;> rfl
      exact hsame _ _ (reply_signIn hf.injective)
  | createUser place self email password handler =>
      have hsame (a b : Except CreationFailure AuthUser) (hb : b = a) :
          Answers f server (server.withPasswords f)
            ⟨⟨place, self, .createUser email password⟩, handler⟩
            ⟨⟨place, self, .createUser email (f password)⟩, handler⟩ a b := by
        subst hb
        refine ⟨commit_createUser b, ?_, blind_handler hknown b,
          .createUser place self email password b⟩
        rintro app _ rfl
        cases b <;> rfl
      exact hsame _ _ reply_createUser

theorem beside_step (hf : Opaque ios f) {e : AppRuns.Event Image Data} (hsteady : Steady ios w)
    (h : Beside f w v) (hstep : AppRuns.step ios w e = some w') :
    ∃ v', AppRuns.step ios v (event f e) = some v' ∧ Beside f w' v' := by
  cases e with
  | outside server =>
      cases hstep
      exact ⟨_, rfl, rfl, h.client, h.inFlight, h.journal⟩
  | app e =>
      cases e with
      | act e =>
          obtain ⟨p, hp, rfl⟩ := (Callback.step_act (service Image Data) (AppRuns.act ios)).mp hstep
          obtain ⟨p', hp', hmatches⟩ := matches_act hf hp
          rw [← h.client] at hp'
          exact ⟨_, (Callback.step_act (service Image Data) (AppRuns.act ios)).mpr ⟨p', hp', rfl⟩,
            h.exec hmatches⟩
      | complete n outcome =>
          obtain ⟨p, hp, rfl⟩ :=
            (Callback.step_complete (service Image Data) (AppRuns.act ios)).mp hstep
          obtain ⟨_, hknown⟩ := hsteady.known p (List.mem_of_getElem? hp)
          obtain ⟨q, hq, hbeside⟩ := h.complete (service Image Data) hp
            (fun q hpq => answers hf hknown hpq outcome h.server)
          exact ⟨_, (Callback.step_complete (service Image Data) (AppRuns.act ios)).mpr
            ⟨q, hq, rfl⟩, hbeside⟩

theorem beside_run (hf : Opaque ios f) (hsteady : Steady ios w) (h : Beside f w v)
    (hrun : EventRun.run (AppRuns.step ios) w es = some w') :
    ∃ v', EventRun.run (AppRuns.step ios) v (es.map (event f)) = some v' ∧ Beside f w' v' := by
  induction es generalizing w v with
  | nil =>
      cases hrun
      exact ⟨v, rfl, h⟩
  | cons e es ih =>
      obtain ⟨u, hstep, hrest⟩ := Option.bind_eq_some_iff.mp hrun
      obtain ⟨u', hstep', hbeside⟩ := beside_step hf hsteady h hstep
      obtain ⟨v', hrun', hlast⟩ := ih (hsteady.step hstep) hbeside hrest
      refine ⟨v', ?_, hlast⟩
      rw [List.map_cons, EventRun.run_cons, hstep']
      exact hrun'

theorem beside_launched (hf : Opaque ios f) :
    Beside f (launched server keptUser clock : World Image Data)
      (launched (server.withPasswords f) keptUser clock) := by
  have hform : ({} : RegisterFields Image) = RegisterFields.withPasswords f {} := by
    simp [RegisterFields.withPasswords, (hf.empty "").mpr rfl]
  have hlaunch : Alike f (App.launch keptUser clock : App Image) (App.launch keptUser clock) :=
    congrArg (fun fields : RegisterFields Image =>
      { App.launch keptUser clock with register := fun _ => { toRegisterFields := fields } }) hform
  have hserver : SameServer f server (server.withPasswords f) := rfl
  exact (Callback.World.Matches.start hserver hlaunch).exec blind_splash

/-- With other passwords that pass the same checks, every run is the same but for the passwords in
sign-ins, new accounts and the form of the Register screen. -/
theorem passwords_of_run (hf : Opaque ios f)
    (hrun : EventRun.run (AppRuns.step ios) (launched server keptUser clock) es = some w) :
    ∃ w', EventRun.run (AppRuns.step ios) (launched (server.withPasswords f) keptUser clock)
        (es.map (event f)) = some w' ∧
      w'.server = w.server.withPasswords f ∧ w'.client = w.client.withPasswords f ∧
      List.Forall₂ (Renamed f) w.inFlight w'.inFlight ∧
      List.Forall₂ (RenamedEntry f) w.journal w'.journal := by
  obtain ⟨w', hrun', hbeside⟩ :=
    beside_run hf (steady_launched server keptUser clock) (beside_launched hf) hrun
  exact ⟨w', hrun', hbeside.server, hbeside.client, hbeside.inFlight, hbeside.journal⟩

theorem opaque_map {g : Char → Char} (hg : Function.Involutive g) :
    Opaque Platform.transparent (String.map g) := by
  have hback (s : String) : String.map g (String.map g s) = s := by
    rw [← String.toList_inj, String.toList_map, String.toList_map, List.map_map, hg.comp_self,
      List.map_id]
  have hempty : String.map g "" = "" := by
    rw [← String.toList_inj, String.toList_map]
    rfl
  have hinjective : Function.Injective (String.map g) := Function.LeftInverse.injective hback
  have hinfix (s t : List Char) : t.map g <:+: s.map g ↔ t <:+: s := by
    refine ⟨fun h => ?_, fun h => h.map g⟩
    simpa [hg.comp_self] using h.map g
  refine ⟨hinjective, fun s => ?_, fun s => ?_, fun s t => ?_, fun s t => ?_⟩
  · refine ⟨fun h => hinjective (h.trans hempty.symm), ?_⟩
    rintro rfl
    exact hempty
  · simp only [Platform.transparent, String.length_map]
  · simp only [Platform.transparent, String.toList_map, hinfix]
  · simp only [Platform.transparent, hinjective.eq_iff]

/-- Ana logs in, and the letters `a` and `e` of her password are swapped. -/
theorem passwords_of_run_swap : ∃ w, EventRun.run (AppRuns.step Platform.transparent)
      (launched (Server.empty.addAccount Account.ana) none) [.app (.complete 0 .success),
        .app (.act (.logIn ⟨1, .welcome⟩ Account.ana.email Account.ana.password)),
        .app (.complete 0 .success)] = some w ∧
    w.client.currentUid = some Account.ana.uid ∧
    ∃ w', EventRun.run (AppRuns.step Platform.transparent)
        (launched ((Server.empty.addAccount Account.ana).withPasswords
          (String.map (Equiv.swap 'a' 'e'))) none)
        (List.map (event (String.map (Equiv.swap 'a' 'e'))) [.app (.complete 0 .success),
          .app (.act (.logIn ⟨1, .welcome⟩ Account.ana.email Account.ana.password)),
          .app (.complete 0 .success)]) = some w' ∧
      w'.server = w.server.withPasswords (String.map (Equiv.swap 'a' 'e')) ∧
      w'.client = w.client.withPasswords (String.map (Equiv.swap 'a' 'e')) ∧
      List.Forall₂ (Renamed (String.map (Equiv.swap 'a' 'e'))) w.inFlight w'.inFlight ∧
      List.Forall₂ (RenamedEntry (String.map (Equiv.swap 'a' 'e'))) w.journal w'.journal := by
  obtain ⟨w, hrun, hsignedIn⟩ : ∃ w, EventRun.run (AppRuns.step Platform.transparent)
        (launched (Server.empty.addAccount Account.ana) none) [.app (.complete 0 .success),
          .app (.act (.logIn ⟨1, .welcome⟩ Account.ana.email Account.ana.password)),
          .app (.complete 0 .success)] = some w ∧
      w.client.currentUid = some Account.ana.uid := ⟨_, rfl, rfl⟩
  exact ⟨w, hrun, hsignedIn, passwords_of_run (opaque_map (Equiv.swap_apply_self 'a' 'e')) hrun⟩

end Runs

end Passwords

end GiveMeMovies
