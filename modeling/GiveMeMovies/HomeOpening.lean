import GiveMeMovies.AppRuns
import GiveMeMovies.LenientContracts

/-!
# Which responses open the home screen

Four places of the source wait for a response after which they may present the home screen. All
other handlers of the app leave the sign-in state and the visibility of the member area alone,
which is the frame of the contract of this module.
-/

namespace GiveMeMovies.AppRuns

open Program

variable {Image Data : Type} {ios : Platform Image Data}

def opensHome : Place → Bool
  | .splashDeadline | .splashLoadUser | .welcomeSignIn | .welcomeLoadSignedIn => true
  | _ => false

/-- The requests of these places, with their handlers. The credentials of a sign-in are among
those entered. -/
inductive Opening (Entered : String → String → Prop) : Pending Image Data → Prop
  | deadlineSignedIn (self : Controller) :
      Opening Entered ⟨⟨.splashDeadline, self, .timer⟩,
        fun _ => SplashViewController.deadlineSignedIn self⟩
  | deadlineSignedOut (self : Controller) :
      Opening Entered ⟨⟨.splashDeadline, self, .timer⟩,
        fun _ => SplashViewController.deadlineSignedOut self⟩
  | splashLoad (self : Controller) (uid : Uid) :
      Opening Entered ⟨⟨.splashLoadUser, self, .getDocument uid⟩,
        UserManager.getDocumentHandler uid
          (fun user => setSharedUser user ++ weakly self (goToHomeScreen self)) (fun _ => .done)⟩
  | signIn (self : Controller) (email password : String) (entered : Entered email password) :
      Opening Entered ⟨⟨.welcomeSignIn, self, .signIn email password⟩,
        WelcomeViewController.signedIn self⟩
  | loadSignedIn (self : Controller) (uid : Uid) :
      Opening Entered ⟨⟨.welcomeLoadSignedIn, self, .getDocument uid⟩,
        UserManager.getDocumentHandler uid (WelcomeViewController.userLoaded self)
          (WelcomeViewController.noUser self)⟩

/-- The member area is shown as before, and the signed-in user is verified as before. -/
structure SameView (app app' : App Image) : Prop where
  area : app'.levels.memberAreaVisible = app.levels.memberAreaVisible
  verified : app'.verified = app.verified

theorem SameView.refl (app : App Image) : SameView app app := ⟨rfl, rfl⟩

theorem SameView.trans {app app' app'' : App Image} (h : SameView app app')
    (h' : SameView app' app'') : SameView app app'' :=
  ⟨h'.area.trans h.area, h'.verified.trans h.verified⟩

theorem verified_congr {app app' : App Image} (hc : app'.currentUser = app.currentUser)
    (hu : app'.authUsers = app.authUsers) : app'.verified = app.verified := by
  simp only [App.verified, App.authUser, hc, hu]

/-- What the handlers of the four places do is left open. -/
def contract (Entered : String → String → Prop) : Contract Image Data where
  state app := app.levels.Orderly
  frame := SameView
  call _ := True
  pending p := opensHome p.call.place = true → Opening Entered p
  response call _ := opensHome call.place = false

variable {Entered : String → String → Prop} {self : Controller}

theorem within_opening {p : Pending Image Data} (h : Opening Entered p) :
    p.Within (contract Entered) := by
  have hplace : opensHome p.call.place = true := by cases h <;> rfl
  refine ⟨trivial, fun _ => h, fun a hn => ?_⟩
  rw [show opensHome p.call.place = false from hn] at hplace
  cases hplace

/-- A request of another place. -/
theorem pending_other {place : Place} {request : Request Data}
    {handler : request.Response Image → Program Image Data} (hplace : opensHome place = false)
    (h : ∀ a, (handler a).Within (contract Entered)) :
    (⟨⟨place, self, request⟩, handler⟩ : Pending Image Data).Within (contract Entered) := by
  refine ⟨trivial, fun hn => ?_, fun a _ => h a⟩
  rw [show opensHome place = true from hn] at hplace
  cases hplace

theorem within_of_pending {place : Place} {request : Request Data}
    {handler : request.Response Image → Program Image Data}
    (h : (⟨⟨place, self, request⟩, handler⟩ : Pending Image Data).Within (contract Entered)) :
    (send place self request handler).Within (contract Entered) :=
  within_send.mpr h

theorem within_other {place : Place} {request : Request Data}
    {handler : request.Response Image → Program Image Data} (hplace : opensHome place = false)
    (h : ∀ a, (handler a).Within (contract Entered)) :
    (send place self request handler).Within (contract Entered) :=
  within_of_pending (pending_other hplace h)

theorem within_upload {place : Place} {image : Image} (hplace : opensHome place = false) :
    (StorageManager.uploadProfileImage ios place self image .done (fun _ => .done)).Within
      (contract Entered) := by
  have hother {call : Call Data} {handler : call.Response Image → Program Image Data}
      (h : opensHome call.place = false) : (contract Entered).pending ⟨call, handler⟩ := by
    intro hn
    rw [h] at hn
    cases hn
  exact StorageManager.within_uploadProfileImage
    (fun _ _ _ _ _ _ => ⟨trivial, hother hplace⟩) (fun _ _ _ _ _ _ => ⟨trivial, hother hplace⟩)
    (fun _ _ _ _ _ _ _ _ _ _ _ _ => ⟨trivial, hother rfl⟩)

/-- The screen goes home once the document has been loaded. -/
theorem sends_homeAfterLoading {C : Contract Image Data} {uid : Uid}
    {completionError : Option NSError → Program Image Data}
    (he : ∀ error, (completionError error).Sends C) (a : Except NSError (Option Fields)) :
    (UserManager.getDocumentHandler uid
      (fun user => setSharedUser user ++ weakly self (goToHomeScreen self))
      completionError a).Sends C := by
  apply UserManager.of_getDocumentHandler (P := fun p => p.Sends C)
  · intro user
    exact .append Callback.Prog.sends_modify (sends_weakly Callback.Prog.sends_modify)
  · exact he

theorem allows_same {f : App Image → App Image} (hl : ∀ app, (f app).levels = app.levels)
    (hc : ∀ app, (f app).currentUser = app.currentUser)
    (hu : ∀ app, (f app).authUsers = app.authUsers) :
    Allows (contract Entered : Contract Image Data) f := by
  refine fun app happ => ⟨?_, ?_, verified_congr (hc app) (hu app)⟩
  · change (f app).levels.Orderly
    rwa [hl]
  · rw [hl]

theorem within_same {f : App Image → App Image} (hl : ∀ app, (f app).levels = app.levels)
    (hc : ∀ app, (f app).currentUser = app.currentUser)
    (hu : ∀ app, (f app).authUsers = app.authUsers) :
    (Callback.Prog.modify f : Program Image Data).Within (contract Entered) :=
  (allows_same hl hc hu).within

/-- A change of the levels that keeps them in order and the member area as it is. -/
theorem within_levels {f : App Image → App Image}
    (hl : ∀ app, app.levels.Orderly → (f app).levels.Orderly ∧
      (f app).levels.memberAreaVisible = app.levels.memberAreaVisible)
    (hc : ∀ app, (f app).currentUser = app.currentUser)
    (hu : ∀ app, (f app).authUsers = app.authUsers) :
    (Callback.Prog.modify f : Program Image Data).Within (contract Entered) := by
  apply Callback.Prog.within_modify.mpr
  intro app happ
  obtain ⟨horderly, harea⟩ := hl app happ
  exact ⟨horderly, harea, verified_congr (hc app) (hu app)⟩

theorem within_setSharedUser (user : User) :
    (setSharedUser user : Program Image Data).Within (contract Entered) :=
  within_same (fun _ => rfl) (fun _ => rfl) (fun _ => rfl)

theorem allows_spinner :
    Allows (contract Entered : Contract Image Data) (App.showLoadingSpinner self) :=
  allows_same (fun _ => rfl) (fun _ => rfl) (fun _ => rfl)

theorem allows_noSpinner :
    Allows (contract Entered : Contract Image Data) App.removeLoadingSpinner :=
  allows_same (fun _ => rfl) (fun _ => rfl) (fun _ => rfl)

theorem within_spinner :
    (showLoadingSpinner self : Program Image Data).Within (contract Entered) :=
  allows_spinner.within

theorem within_noSpinner :
    (removeLoadingSpinner : Program Image Data).Within (contract Entered) := allows_noSpinner.within

/-- A screen that lies in a tab may not move on its own, since its navigation is the member area. -/
theorem lenient : Lenient (contract Entered : Contract Image Data) where
  error self title msg app happ := by
    unfold App.showErrorWith
    split
    · refine ⟨happ.present trivial fun _ _ heq => by cases heq; rfl, ?_, rfl⟩
      exact Levels.memberAreaVisible_present_alert _ _ _ _
    · exact ⟨happ, .refl app⟩
  tick _ happ := ⟨happ, rfl, rfl⟩

theorem within_pop (hself : self.screen.inTab = false) :
    (popViewController self : Program Image Data).Within (contract Entered) :=
  within_levels (fun _ happ => happ.pop_outside hself) (fun _ => rfl) (fun _ => rfl)

theorem within_push {screen : Screen} {viewDidLoad : Controller → Program Image Data}
    (hself : self.screen.inTab = false) (hscreen : screen.isMember = false)
    (h : ∀ controller, (viewDidLoad controller).Within (contract Entered)) :
    (pushViewController self screen viewDidLoad).Within (contract Entered) := by
  refine within_pushViewController (fun app happ => ?_) h
  obtain ⟨horderly, harea⟩ : (app.push self screen).levels.Orderly ∧
      (app.push self screen).levels.memberAreaVisible = app.levels.memberAreaVisible :=
    Levels.Orderly.push_outside happ hself hscreen
  exact ⟨horderly, harea, rfl⟩

theorem within_setImage (image : Option Image) :
    (UIImageView.setImage self image : Program Image Data).Within (contract Entered) :=
  within_same (fun _ => rfl) (fun _ => rfl) (fun _ => rfl)

theorem within_loadPhoto (placeholder : String) (user : User) :
    (UIImageView.loadPhoto ios self placeholder user).Within (contract Entered) := by
  have hdownloaded (image : Option Image) : (UIImageView.downloadedHandler self image :
      Program Image Data).Within (contract Entered) :=
    UIImageView.within_downloadedHandler fun i _ => within_setImage (some i)
  have hloaded (photoUrl photoReference : String) : (send .imageView self
      (.loadImage photoUrl photoReference) (UIImageView.downloadedHandler self) :
        Program Image Data).Within (contract Entered) := within_other rfl hdownloaded
  refine UIImageView.within_loadPhoto (fun _ => within_setImage _) ?_ hloaded
  exact fun photoUrl photoReference =>
    within_other rfl fun image => (hdownloaded image).append (hloaded photoUrl photoReference)

theorem within_showUser (placeholder : String) (user : User) :
    (showUser ios self placeholder user).Within (contract Entered) :=
  (within_setSharedUser user).append (within_weakly (within_loadPhoto placeholder user))

/-- Loading a document for its own sake. -/
theorem pending_getUser {place : Place} {uid : Uid} {completion : User → Program Image Data}
    {msg : Option NSError → Option String} (hplace : opensHome place = false)
    (hc : ∀ user, (completion user).Within (contract Entered)) :
    (⟨⟨place, self, .getDocument uid⟩, UserManager.getDocumentHandler uid completion
      (fun error => weakly self (showErrorWith self (some "Error") (msg error)))⟩ :
        Pending Image Data).Within (contract Entered) :=
  pending_other hplace (UserManager.of_getDocumentHandler hc
    (fun _ => lenient.within_weakError _ _))

/-! ## The welcome screen -/

theorem within_logIn {email password : String} (hentered : Entered email password) :
    (WelcomeViewController.logIn self email password : Program Image Data).Within
      (contract Entered) := by
  intro app _
  dsimp only
  split
  · exact within_spinner.append (within_of_pending (within_opening
      (.signIn self email password hentered)))
  · refine within_guardUid fun _ uid _ _ => Callback.Prog.Within.append ?_ ?_
    · exact within_of_pending (pending_getUser rfl within_setSharedUser)
    · exact within_of_pending (within_opening (.loadSignedIn self uid))

theorem within_loginAction {email password : String}
    (hentered : WelcomeViewController.validationError ios email password = none →
      Entered email password) :
    (WelcomeViewController.loginAction ios self email password).Within (contract Entered) := by
  unfold WelcomeViewController.loginAction WelcomeViewController.validateFields
  split
  · exact lenient.within_error _ _
  next h => exact within_logIn (hentered h)

theorem within_createAccountAction (hself : self.screen.inTab = false) :
    (WelcomeViewController.createAccountAction ios self : Program Image Data).Within
      (contract Entered) :=
  within_push hself rfl fun _ => within_same (fun _ => rfl) (fun _ => rfl) (fun _ => rfl)

/-! ## The register screen -/

theorem within_userSaved (hself : self.screen.inTab = false) (user : User) (success : Bool) :
    (RegisterViewController.userSaved ios self user success).Within (contract Entered) := by
  cases success with
  | false => trivial
  | true =>
      refine Callback.Prog.Within.append (.append (.append ?_ ?_) ?_) ?_
      · exact within_setSharedUser user
      · refine within_weakly fun app _ => ?_
        dsimp only
        split
        · exact within_upload rfl
        · trivial
      · refine within_guardUser fun user authUser => within_other rfl lenient.within_mailSent
      · exact within_weakly (within_push hself rfl fun _ => trivial)

theorem within_userCreated (hself : self.screen.inTab = false)
    (a : Except CreationFailure AuthUser) :
    (RegisterViewController.userCreated ios self a).Within (contract Entered) := by
  cases a with
  | error failure => exact lenient.within_weakError _ _
  | ok user =>
      refine within_weakly
        (lenient.within_anyDate fun _ => lenient.within_anyDate fun _ => fun app _ => ?_)
      exact lenient.within_anyDate fun _ => within_other rfl
        (UserManager.of_createUserHandler (within_userSaved hself _))

theorem within_registerAction (hself : self.screen.inTab = false) :
    (RegisterViewController.registerAction ios self).Within (contract Entered) := by
  intro app _
  dsimp only
  split
  · exact lenient.within_error _ _
  · refine Callback.Prog.Within.append (.append within_spinner (.append ?_ ?_))
      within_noSpinner
    · exact within_other rfl (within_userCreated hself)
    · intro app' _
      dsimp only
      split
      next user _ =>
        refine within_guardUid fun _ _ _ _ => lenient.within_anyDate fun _ => within_other rfl ?_
        apply UserManager.of_createUserHandler
        intro success
        cases success with
        | false => trivial
        | true =>
            exact (within_setSharedUser _).append
              (within_weakly (within_push hself rfl fun _ => trivial))
      next => trivial

/-! ## The verification screens -/

theorem within_onBackReloaded (hself : self.screen.inTab = false) (user : ℕ)
    (authUser : AuthUser) :
    (EmailVerificationViewController.onBackReloaded self user authUser :
      Program Image Data).Within (contract Entered) := by
  intro app _
  dsimp only
  split
  · exact lenient.within_weakError _ _
  · refine Callback.Prog.Within.append (within_other rfl lenient.within_userDeleted)
      (within_guardUid fun _ uid _ _ => Callback.Prog.Within.append (within_weakly ?_) ?_)
    · intro app' _
      dsimp only
      split
      · exact within_other rfl lenient.within_deleteAccountCompletion
      · trivial
    · exact within_weakly (within_pop hself)

theorem within_verificationBack (hself : self.screen.inTab = false) :
    (EmailVerificationViewController.onBack self : Program Image Data).Within
      (contract Entered) :=
  within_guardUser fun user authUser => within_other rfl fun _ =>
    within_onBackReloaded hself user authUser

theorem within_sendEmailVerification :
    (EmailVerificationViewController.sendEmailVerification self : Program Image Data).Within
      (contract Entered) := by
  exact within_spinner.append (within_guardUser fun user authUser =>
    within_other rfl (lenient.within_resent allows_noSpinner))

theorem within_welcomeInfoLoad :
    (WelcomeInfoViewController.loadUserData ios self).Within (contract Entered) := by
  refine Callback.Prog.Within.append (.append within_spinner ?_) within_noSpinner
  exact within_guardUid fun _ _ _ _ => within_of_pending (pending_getUser rfl (within_showUser _))

theorem within_welcomeInfoAppear :
    (WelcomeInfoViewController.viewWillAppear ios self).Within (contract Entered) :=
  within_other rfl fun _ => within_welcomeInfoLoad

theorem within_checkEmailVerification (hself : self.screen.inTab = false) :
    (EmailVerificationViewController.checkEmailVerification ios self).Within
      (contract Entered) := by
  refine within_spinner.append (within_guardUser fun user authUser =>
    within_other rfl fun _ => fun app _ => ?_)
  dsimp only
  split
  · exact within_weakly (within_noSpinner.append
      (within_push hself rfl fun _ => within_welcomeInfoAppear))
  · exact within_weakly ((lenient.within_error _ _).append within_noSpinner)

/-! ## The profile screens -/

theorem within_profileLoad :
    (ProfileViewController.loadUserData ios self).Within (contract Entered) :=
  within_guardUid fun _ _ _ _ => within_of_pending (pending_getUser rfl (within_showUser _))

theorem within_setForm (f : ProfileForm Image → ProfileForm Image) :
    (ProfileInformationViewController.setForm self f : Program Image Data).Within
      (contract Entered) :=
  within_same (fun _ => rfl) (fun _ => rfl) (fun _ => rfl)

theorem pending_informationLoad {uid : Uid} :
    (⟨⟨.informationLoad, self, .getDocument uid⟩, UserManager.getDocumentHandler uid
      (ProfileInformationViewController.userLoaded ios self)
      (fun error => weakly self
        (showErrorWith self (some "Error") (error.map NSError.localizedDescription)))⟩ :
        Pending Image Data).Within (contract Entered) := by
  refine pending_other rfl (UserManager.of_getDocumentHandler (fun user => ?_) fun error => ?_)
  · exact (within_setSharedUser user).append
      (within_weakly ((within_loadPhoto _ user).append (within_setForm _)))
  · exact lenient.within_weakError _ _

theorem within_saveUserPhoto (uid : Uid) :
    (ProfileInformationViewController.saveUserPhoto ios self uid).Within
      (contract Entered) := by
  refine lenient.within_anyDate fun now app _ => ?_
  dsimp only [UserManager.uploadImage]
  split
  · trivial
  · refine within_other rfl fun error => ?_
    cases error with
    | some error => trivial
    | none =>
        refine within_other rfl fun response => ?_
        cases response with
        | error error => trivial
        | ok url =>
            refine within_other rfl fun error => ?_
            cases error with
            | some error => exact lenient.within_error _ _
            | none => exact within_same (fun _ => rfl) (fun _ => rfl) (fun _ => rfl)

theorem within_saveUser (uid : Uid) :
    (ProfileInformationViewController.saveUser self uid : Program Image Data).Within
      (contract Entered) := by
  refine within_spinner.append
    (lenient.within_anyDate fun _ => lenient.within_anyDate fun _ => fun app _ => ?_)
  refine within_other rfl fun error => ?_
  cases error with
  | some error => trivial
  | none => exact (within_setSharedUser _).append within_noSpinner

theorem pending_updateUser {user : ℕ} {uid : Uid} :
    (⟨⟨.informationUpdateUser, self, .updateCurrentUser user⟩,
      ProfileInformationViewController.currentUserUpdated ios self uid⟩ :
        Pending Image Data).Within (contract Entered) := by
  apply pending_other rfl
  intro error
  cases error with
  | some error => exact lenient.within_weakError _ _
  | none =>
      exact (within_weakly (within_saveUserPhoto uid)).append
        (within_weakly (within_saveUser uid))

theorem within_didFinishPicking (image : Image) :
    (ProfileInformationViewController.didFinishPicking ios self image).Within
      (contract Entered) := by
  refine Callback.Prog.Within.append (.append (.append (within_setForm _)
    within_spinner) ?_) within_noSpinner
  exact within_guardUser fun user authUser => within_of_pending pending_updateUser

theorem within_photoLibrary :
    (ProfileInformationViewController.photoLibrary ios self).Within (contract Entered) := by
  intro app _
  dsimp only
  split
  · exact within_upload rfl
  · trivial

/-! ## What is sent at once -/

theorem sends_profileLoad :
    (ProfileViewController.loadUserData ios self).Sends (contract Entered) :=
  sends_guardUid fun _ => Callback.Prog.sends_request (pending_getUser rfl (within_showUser _))

theorem sends_informationLoad :
    (ProfileInformationViewController.loadUserData ios self).Sends (contract Entered) :=
  sends_guardUid fun _ => Callback.Prog.sends_request pending_informationLoad

theorem sends_profileInfoClick :
    (ProfileViewController.profileInfoClick ios self).Sends (contract Entered) :=
  sends_pushViewController fun _ => .append Callback.Prog.sends_modify
    (.append Callback.Prog.sends_modify sends_informationLoad)

theorem sends_updateAccount :
    (ProfileInformationViewController.updateAccount ios self).Sends (contract Entered) :=
  .append (.append (.append
    (sends_guardUser fun _ _ => Callback.Prog.sends_request pending_updateUser)
    Callback.Prog.sends_modify) Callback.Prog.sends_modify) Callback.Prog.sends_modify

theorem sends_splash :
    (SplashViewController.viewDidLoad self : Program Image Data).Sends (contract Entered) := by
  apply Callback.Prog.sends_read
  intro app
  split
  · exact Callback.Prog.sends_request (within_opening (.deadlineSignedIn self))
  · exact Callback.Prog.sends_request (within_opening (.deadlineSignedOut self))

theorem sends_backToLoginScreen :
    (ProfileViewController.backToLoginScreen self : Program Image Data).Sends
      (contract Entered) :=
  sends_pushViewController fun _ => sends_splash

theorem sends_confirmLogOut :
    (ProfileViewController.confirmLogOut self : Program Image Data).Sends
      (contract Entered) := by
  apply sends_weakly
  apply Callback.Prog.Sends.append Callback.Prog.sends_modify
  apply Callback.Prog.sends_read
  intro app
  split
  · exact .append (.append Callback.Prog.sends_modify Callback.Prog.sends_modify)
      sends_backToLoginScreen
  · exact Callback.Prog.sends_done

theorem sends_confirmDelete :
    (ProfileViewController.confirmDelete self : Program Image Data).Sends
      (contract Entered) := by
  apply sends_weakly
  refine .append (.append (.append ?_ ?_) ?_) sends_backToLoginScreen
  · exact sends_guardUser fun user authUser => .append Callback.Prog.sends_modify
      (Callback.Prog.sends_request (pending_other rfl lenient.within_authDeleted))
  · exact sends_guardUid fun uid =>
      Callback.Prog.sends_request (pending_other rfl lenient.within_documentDeleted)
  · exact sends_guardUid fun uid =>
      Callback.Prog.sends_request (pending_other rfl lenient.within_deleted)

/-- The requests that the four places send when they open the home screen. -/
theorem sends_opening {p : Pending Image Data} (h : Opening Entered p)
    (a : p.call.Response Image) : (p.handler a).Sends (contract Entered) := by
  cases h with
  | deadlineSignedIn self =>
      apply Callback.Prog.Sends.append
      · exact sends_guardUid fun uid =>
          Callback.Prog.sends_request (within_opening (.splashLoad self uid))
      · refine sends_guardUser fun _ user => ?_
        split
        · exact Callback.Prog.sends_modify
        · exact Callback.Prog.sends_modify
  | deadlineSignedOut self => exact Callback.Prog.sends_modify
  | splashLoad self uid =>
      exact sends_homeAfterLoading (fun _ => Callback.Prog.sends_done) a
  | signIn self email password entered =>
      cases a with
      | error error =>
          apply sends_weakly
          unfold WelcomeViewController.signInFailed
          split
          · exact Callback.Prog.sends_modify
          · split
            · exact Callback.Prog.sends_modify
            · exact .append Callback.Prog.sends_modify Callback.Prog.sends_modify
      | ok user =>
          exact sends_weakly (.append (.append (Callback.Prog.sends_request
            (pending_getUser rfl within_setSharedUser)) Callback.Prog.sends_modify)
            Callback.Prog.sends_modify)
  | loadSignedIn self uid =>
      have herror : ∀ error, (WelcomeViewController.noUser self error :
          Program Image Data).Sends (contract Entered) := by
        intro error
        cases error with
        | some error => exact sends_weakly Callback.Prog.sends_modify
        | none => exact sends_weakly Callback.Prog.sends_modify
      exact sends_homeAfterLoading herror a

/-! ## Events -/

/-- The events whose programs leave the sign-in state and the member area alone. -/
def Act.isPlain : Act Image → Bool
  | .start _ | .swipeBack | .selectTab _ | .profileInfo _ | .logOut _ | .deleteAccount _
  | .confirm | .update _ => false
  | .back self => self.screen ≠ .profileInformation
  | _ => true

theorem of_whenInFront {app : App Image} {screen : Screen} {program p : Program Image Data}
    (h : whenInFront app self screen program = some p) :
    program = p ∧ self.screen = screen ∧ app.levels.isFront self = true := by
  unfold whenInFront at h
  split at h
  next hfront =>
    obtain ⟨hfront, hs, _⟩ := inFront_iff.mp hfront
    exact ⟨Option.some.inj h, hs, hfront⟩
  next => cases h

/-- The credentials that an event enters and that pass the checks have been entered. -/
def EnteredBy (ios : Platform Image Data) (Entered : String → String → Prop) (e : Act Image) :
    Prop :=
  ∀ self email password, e = .logIn self email password →
    WelcomeViewController.validationError ios email password = none → Entered email password

theorem within_back (hself : self.screen ≠ .profileInformation) :
    (back self : Program Image Data).Within (contract Entered) := by
  unfold back
  split
  next h => exact within_pop (by rw [h]; rfl)
  next h => exact within_pop (by rw [h]; rfl)
  next h => exact within_verificationBack (by rw [h]; rfl)
  next h => exact within_pop (by rw [h]; rfl)
  next h => exact absurd h hself
  next => trivial

theorem within_act {e : Act Image} (hentered : EnteredBy ios Entered e)
    (hplain : e.isPlain = true) {app : App Image} {p : Program Image Data}
    (hp : act ios e app = some p) : p.Within (contract Entered) := by
  cases e with
  | logIn self email password =>
      obtain ⟨rfl, _⟩ := of_whenInFront hp
      exact within_loginAction (hentered self email password rfl)
  | createAccount self =>
      obtain ⟨rfl, hs, _⟩ := of_whenInFront hp
      exact within_createAccountAction (by rw [hs]; rfl)
  | fill self fields =>
      obtain ⟨rfl, _⟩ := of_whenInFront hp
      exact within_same (fun _ => rfl) (fun _ => rfl) (fun _ => rfl)
  | register self fields =>
      obtain ⟨rfl, hs, _⟩ := of_whenInFront hp
      apply Callback.Prog.Within.append
      · exact within_same (fun _ => rfl) (fun _ => rfl) (fun _ => rfl)
      · exact within_registerAction (by rw [hs]; rfl)
  | resend self =>
      obtain ⟨rfl, _⟩ := of_whenInFront hp
      exact within_sendEmailVerification
  | checkVerification self =>
      obtain ⟨rfl, hs, _⟩ := of_whenInFront hp
      exact within_checkEmailVerification (by rw [hs]; rfl)
  | back self =>
      simp only [act] at hp
      split at hp
      · cases hp
        exact within_back (by simpa [Act.isPlain] using hplain)
      · cases hp
  | dismiss =>
      cases hp
      exact within_levels (fun _ happ => happ.dismissAlert) (fun _ => rfl) (fun _ => rfl)
  | edit self firstName lastName about =>
      obtain ⟨rfl, _⟩ := of_whenInFront hp
      exact within_setForm _
  | library self =>
      obtain ⟨rfl, _⟩ := of_whenInFront hp
      exact within_photoLibrary
  | pick self image =>
      obtain ⟨rfl, _⟩ := of_whenInFront hp
      exact within_didFinishPicking image
  | appear self =>
      simp only [act] at hp
      split at hp
      · cases hp
        unfold viewWillAppear
        split
        · exact within_profileLoad
        · exact within_welcomeInfoAppear
        · trivial
      · cases hp
  | release self =>
      simp only [act] at hp
      split at hp
      · cases hp
      · cases hp
        exact within_same (fun _ => rfl) (fun _ => rfl) (fun _ => rfl)
  | keychain error =>
      cases hp
      exact within_same (fun _ => rfl) (fun _ => rfl) (fun _ => rfl)
  | start self => cases hplain
  | swipeBack => cases hplain
  | selectTab tab => cases hplain
  | profileInfo self => cases hplain
  | logOut self => cases hplain
  | deleteAccount self => cases hplain
  | confirm => cases hplain
  | update self => cases hplain

theorem sends_selectTab {tab : Tab} {app : App Image} {p : Program Image Data}
    (hp : selectTab ios tab app = some p) : p.Sends (contract Entered) := by
  unfold selectTab at hp
  split at hp
  · split at hp
    · split at hp
      · cases hp
        exact .append (.append Callback.Prog.sends_modify sends_profileLoad)
          sends_profileLoad
      · cases hp
        exact Callback.Prog.sends_modify
    · cases hp
  · cases hp

theorem sends_confirm {app : App Image} {p : Program Image Data}
    (hp : confirm app = some p) : p.Sends (contract Entered) := by
  unfold confirm at hp
  split at hp
  · cases hp
    exact .append Callback.Prog.sends_modify sends_confirmLogOut
  · cases hp
    exact .append Callback.Prog.sends_modify sends_confirmDelete
  · cases hp

/-- What an event sends keeps to the contract. -/
theorem pending_act {e : Act Image} (hentered : EnteredBy ios Entered e)
    {app : App Image} (happ : app.levels.Orderly) {p : Program Image Data}
    (hp : act ios e app = some p) {q : Pending Image Data} (hq : q ∈ (p.run app).2) :
    q.Within (contract Entered) := by
  by_cases hplain : e.isPlain = true
  · exact (within_act hentered hplain hp).pending happ hq
  have hsends : p.Sends (contract Entered) := by
    cases e with
    | start self =>
        obtain ⟨rfl, _⟩ := of_whenInFront hp
        exact Callback.Prog.sends_modify
    | swipeBack =>
        cases hp
        exact Callback.Prog.sends_modify
    | selectTab tab => exact sends_selectTab hp
    | profileInfo self =>
        obtain ⟨rfl, _⟩ := of_whenInFront hp
        exact sends_profileInfoClick
    | logOut self =>
        obtain ⟨rfl, _⟩ := of_whenInFront hp
        exact Callback.Prog.sends_modify
    | deleteAccount self =>
        obtain ⟨rfl, _⟩ := of_whenInFront hp
        apply Callback.Prog.sends_read
        intro app'
        split
        · exact Callback.Prog.sends_modify
        · exact Callback.Prog.sends_modify
    | confirm => exact sends_confirm hp
    | update self =>
        obtain ⟨rfl, _⟩ := of_whenInFront hp
        exact sends_updateAccount
    | back self =>
        have hs : self.screen = .profileInformation := by simpa [Act.isPlain] using hplain
        simp only [act] at hp
        split at hp
        · cases hp
          unfold back
          rw [hs]
          exact Callback.Prog.sends_modify
        · cases hp
    | _ => exact absurd rfl hplain
  exact hsends app q hq

end GiveMeMovies.AppRuns
