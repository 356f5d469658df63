import GiveMeMovies.AppRuns
import GiveMeMovies.LenientContracts
import GiveMeMovies.ScreenMoves

/-!
# The requests of the app

`Known` lists every request that the app has in flight, with the handler that waits for the
response. A program of the app sends only known requests, and most programs change neither the
shared user nor the loading overlays. Both are read off one contract, whose frame is left open:
a program that shows or removes an overlay keeps to every frame that allows a change of the
overlays, and likewise for the shared user.
-/

namespace GiveMeMovies.AppRequests

open Program UserManager StorageManager AppRuns

variable {Image Data : Type} (ios : Platform Image Data) (urlOf : StorageReference → String)

def loadError (self : Controller) (error : Option NSError) : Program Image Data :=
  weakly self (showErrorWith self (some "Error") (error.map NSError.localizedDescription))

/-- Of the writes of photo pointers and of the reloads only those that are `allowed`. -/
inductive Known (allowed : Call Data → Prop) : Pending Image Data → Prop
  | deadlineSignedIn (self : Controller) :
      Known allowed ⟨⟨.splashDeadline, self, .timer⟩,
        fun _ => SplashViewController.deadlineSignedIn self⟩
  | deadlineSignedOut (self : Controller) :
      Known allowed ⟨⟨.splashDeadline, self, .timer⟩,
        fun _ => SplashViewController.deadlineSignedOut self⟩
  | splashLoad (self : Controller) (uid : Uid) :
      Known allowed ⟨⟨.splashLoadUser, self, .getDocument uid⟩,
        getDocumentHandler uid (WelcomeViewController.userLoaded self) (fun _ => .done)⟩
  | load (place : Place) (self : Controller) (uid : Uid) :
      Known allowed ⟨⟨place, self, .getDocument uid⟩,
        getDocumentHandler uid setSharedUser (loadError self)⟩
  | loadShown (place : Place) (self : Controller) (placeholder : String) (uid : Uid) :
      Known allowed ⟨⟨place, self, .getDocument uid⟩,
        getDocumentHandler uid (showUser ios self placeholder) (loadError self)⟩
  | signIn (self : Controller) (email password : String) :
      Known allowed ⟨⟨.welcomeSignIn, self, .signIn email password⟩,
        WelcomeViewController.signedIn self⟩
  | loadSignedIn (self : Controller) (uid : Uid) :
      Known allowed ⟨⟨.welcomeLoadSignedIn, self, .getDocument uid⟩,
        getDocumentHandler uid (WelcomeViewController.userLoaded self)
          (WelcomeViewController.noUser self)⟩
  | createAccount (self : Controller) (email password : String) :
      Known allowed ⟨⟨.registerCreateUser, self, .createUser email password⟩,
        RegisterViewController.userCreated ios self⟩
  | registerUser (self : Controller) (uid : Uid) (form : RegisterFields Image) (clock : Clock) :
      Known allowed ⟨⟨.registerSaveUser, self, .setData uid
          (RegisterViewController.savedUser uid form clock).parameters false⟩,
        createUserHandler (RegisterViewController.savedUser uid form clock)
          (RegisterViewController.userSaved ios self)⟩
  | registerMail (self : Controller) (user : ℕ) (uid : Uid) :
      Known allowed ⟨⟨.registerSendMail, self, .sendEmailVerification user uid⟩,
        RegisterViewController.mailSent self⟩
  | putPhoto (place : Place) (self : Controller) (uid : Uid) (data : Data) :
      Known allowed ⟨⟨place, self, .putData (.photo uid) data⟩,
        putDataHandler place self (.photo uid) .done (fun _ => .done)⟩
  | photoAddress (place : Place) (self : Controller) (uid : Uid) :
      Known allowed ⟨⟨place, self, .downloadURL (.photo uid)⟩,
        downloadURLHandler self (.photo uid) .done (fun _ => .done)⟩
  | photoReference (self : Controller) (uid owner : Uid)
      (hallowed : allowed (savePhotoReferenceCall self uid
        (StorageReference.photo owner).description (urlOf (.photo owner)))) :
      Known allowed ⟨savePhotoReferenceCall self uid (StorageReference.photo owner).description
        (urlOf (.photo owner)), fun _ => .done⟩
  | backReload (self : Controller) (user : ℕ) (authUser : AuthUser)
      (hallowed : allowed ⟨.verificationBackReload, self, .reload user authUser.uid⟩) :
      Known allowed ⟨⟨.verificationBackReload, self, .reload user authUser.uid⟩,
        fun _ => EmailVerificationViewController.onBackReloaded self user authUser⟩
  | backDelete (self : Controller) (user : ℕ) (uid : Uid) :
      Known allowed ⟨⟨.verificationBackDelete, self, .delete user uid⟩,
        EmailVerificationViewController.userDeleted self⟩
  | backDeleteDocument (self : Controller) (uid : Uid) :
      Known allowed ⟨⟨.verificationBackDeleteDocument, self, .deleteDocument uid⟩,
        deleteAccountHandler (EmailVerificationViewController.deleteAccountCompletion self)⟩
  | resendMail (self : Controller) (user : ℕ) (uid : Uid) :
      Known allowed ⟨⟨.verificationSendMail, self, .sendEmailVerification user uid⟩,
        EmailVerificationViewController.mailSent self⟩
  | checkReload (self : Controller) (user : ℕ) (uid : Uid)
      (hallowed : allowed ⟨.verificationContinue, self, .reload user uid⟩) :
      Known allowed ⟨⟨.verificationContinue, self, .reload user uid⟩,
        fun _ => EmailVerificationViewController.checkedEmailVerification ios self user⟩
  | infoDeadline (self : Controller) :
      Known allowed ⟨⟨.welcomeInfoDeadline, self, .timer⟩,
        fun _ => WelcomeInfoViewController.loadUserData ios self⟩
  | deleteAuth (self : Controller) (user : ℕ) (uid : Uid) :
      Known allowed ⟨⟨.profileDeleteAuth, self, .delete user uid⟩,
        ProfileViewController.authDeleted self⟩
  | deleteDocument (self : Controller) (uid : Uid) :
      Known allowed ⟨⟨.profileDeleteDocument, self, .deleteDocument uid⟩,
        deleteAccountHandler (ProfileViewController.deleted self)⟩
  | deletePhoto (self : Controller) (uid : Uid) :
      Known allowed ⟨⟨.profileDeletePhoto, self, .deleteObject (.photoJpg uid)⟩,
        ProfileViewController.deleted self⟩
  | informationLoad (self : Controller) (uid : Uid) :
      Known allowed ⟨⟨.informationLoad, self, .getDocument uid⟩,
        getDocumentHandler uid (ProfileInformationViewController.userLoaded ios self)
          (loadError self)⟩
  | loadCached (self : Controller) (photoUrl photoReference : String) :
      Known allowed ⟨⟨.imageView, self, .loadImage photoUrl photoReference⟩,
        UIImageView.cachedHandler self photoUrl photoReference⟩
  | loadImage (self : Controller) (photoUrl photoReference : String) :
      Known allowed ⟨⟨.imageView, self, .loadImage photoUrl photoReference⟩,
        UIImageView.downloadedHandler self⟩
  | updateCurrentUser (self : Controller) (user : ℕ) (uid : Uid) :
      Known allowed ⟨⟨.informationUpdateUser, self, .updateCurrentUser user⟩,
        ProfileInformationViewController.currentUserUpdated ios self uid⟩
  | putJpg (self : Controller) (uid : Uid) (data : Data) (now : Date) :
      Known allowed ⟨⟨.informationSavePhoto, self, .putData (.photoJpg uid) data⟩,
        uploadImagePutHandler .informationSavePhoto self (.photoJpg uid)
          (ProfileInformationViewController.photoUploaded self uid now)⟩
  | jpgAddress (self : Controller) (uid : Uid) (now : Date) :
      Known allowed ⟨⟨.informationSavePhoto, self, .downloadURL (.photoJpg uid)⟩,
        uploadImageURLHandler (ProfileInformationViewController.photoUploaded self uid now)⟩
  | savePhoto (self : Controller) (uid : Uid) (now : Date) :
      Known allowed ⟨⟨.informationSavePhoto, self, .updateData uid
          (ProfileInformationViewController.photoUser uid now (urlOf (.photoJpg uid))).parameters⟩,
        updateUserHandler (ProfileInformationViewController.photoSaved self)
          (ProfileInformationViewController.photoNotSaved self)⟩
  | saveTexts (self : Controller) (uid : Uid) (form : ProfileForm Image) (clock : Clock) :
      Known allowed ⟨⟨.informationSaveUser, self, .updateData uid
          (ProfileInformationViewController.formUser uid form (clock.date 0)
            (clock.date 1)).parameters⟩,
        updateUserHandler (ProfileInformationViewController.textsSaved
          (ProfileInformationViewController.formUser uid form (clock.date 0) (clock.date 1)))
          (fun _ => .done)⟩

/-- No screen has a user of its own. -/
def Unset (app : App Image) : Prop :=
  ∀ self, (app.register self).user = none ∧ (app.profileForm self).user = none

/-- The file-level variable of the loading overlays, the overlays in the views, and the controllers
that are gone. -/
def loading (app : App Image) : Option ℕ × List (ℕ × Controller) × ℕ × (Controller → Bool) :=
  (app.activityView, app.overlays, app.nextOverlay, app.released)

def SameShared (app app' : App Image) : Prop := app'.sharedUser = app.sharedUser

def SameLoading (app app' : App Image) : Prop := loading app' = loading app

/-- The screens move, and the shared user and the overlays may change. -/
def Moved (app app' : App Image) : Prop :=
  Levels.Moves (app.levels, app.nextController) (app'.levels, app'.nextController)

def contract (allowed : Call Data → Prop) (K : App Image → App Image → Prop) :
    Contract Image Data where
  state := Unset
  frame := K
  call _ := True
  pending := Known ios urlOf allowed
  response _ _ := False

variable {ios urlOf} {allowed : Call Data → Prop} {K : App Image → App Image → Prop}
  {self : Controller}

/-- Every reload is allowed. -/
def AllowsReload (allowed : Call Data → Prop) : Prop :=
  ∀ call user uid, call.request = .reload user uid → allowed call

/-- Every write of photo pointers is allowed. -/
def AllowsReference (allowed : Call Data → Prop) : Prop :=
  ∀ self uid reference url, allowed (savePhotoReferenceCall self uid reference url)

abbrev everyCall : Call Data → Prop := fun _ => True

theorem allowsReload_everyCall : AllowsReload (everyCall : Call Data → Prop) :=
  fun _ _ _ _ => trivial

theorem allowsReference_everyCall : AllowsReference (everyCall : Call Data → Prop) :=
  fun _ _ _ _ => trivial

theorem within_known {place : Place} {request : Request Data}
    {handler : request.Response Image → Program Image Data}
    (h : Known ios urlOf allowed ⟨⟨place, self, request⟩, handler⟩) :
    (send place self request handler).Within (contract ios urlOf allowed K) :=
  within_send.mpr ⟨trivial, h, fun _ hn => hn.elim⟩

/-- A change that leaves the users of the screens alone. -/
theorem allows_change {f : App Image → App Image} (hr : ∀ app, (f app).register = app.register)
    (hp : ∀ app, (f app).profileForm = app.profileForm) (hf : ∀ app, K app (f app)) :
    Allows (contract ios urlOf allowed K : Contract Image Data) f := by
  refine fun app happ => ⟨fun controller => ?_, hf app⟩
  rw [hr, hp]
  exact happ controller

theorem within_change {f : App Image → App Image} (hr : ∀ app, (f app).register = app.register)
    (hp : ∀ app, (f app).profileForm = app.profileForm) (hf : ∀ app, K app (f app)) :
    (Callback.Prog.modify f : Program Image Data).Within (contract ios urlOf allowed K) :=
  (allows_change hr hp hf).within

theorem run_within {p : Program Image Data} (h : p.Within (contract ios urlOf allowed K))
    {app : App Image} (happ : Unset app) :
    Unset (p.run app).1 ∧ ∀ q ∈ (p.run app).2, Known ios urlOf allowed q :=
  ⟨h.preserves happ, fun _ hq => (h.pending happ hq).2.1⟩

theorem sameShared_within {p : Program Image Data}
    (h : p.Within (contract ios urlOf allowed SameShared))
    {app : App Image} (happ : Unset app) : (p.run app).1.sharedUser = app.sharedUser :=
  h.frames (fun _ => rfl) (fun _ _ _ h h' => Eq.trans h' h) happ

theorem sameLoading_within {p : Program Image Data}
    (h : p.Within (contract ios urlOf allowed SameLoading)) {app : App Image} (happ : Unset app) :
    loading (p.run app).1 = loading app :=
  h.frames (fun _ => rfl) (fun _ _ _ h h' => Eq.trans h' h) happ

/-- The frame allows every change but those of the shared user and of the overlays, while the
screens only move. -/
def Quiet (K : App Image → App Image → Prop) : Prop :=
  ∀ app app', SameShared app app' → SameLoading app app' → Moved app app' → K app app'

/-- The frame also allows changes of the overlays. -/
def AllowsLoading (K : App Image → App Image → Prop) : Prop :=
  ∀ app app', SameShared app app' → Moved app app' → K app app'

/-- The frame also allows changes of the shared user. -/
def AllowsShared (K : App Image → App Image → Prop) : Prop :=
  ∀ app app', SameLoading app app' → Moved app app' → K app app'

theorem AllowsLoading.quiet (h : AllowsLoading K) : Quiet K :=
  fun app app' hs _ hm => h app app' hs hm

theorem AllowsShared.quiet (h : AllowsShared K) : Quiet K :=
  fun app app' _ hl hm => h app app' hl hm

theorem quiet_sameShared : AllowsLoading (SameShared : App Image → App Image → Prop) :=
  fun _ _ h _ => h

theorem quiet_sameLoading : AllowsShared (SameLoading : App Image → App Image → Prop) :=
  fun _ _ h _ => h

theorem moved_rfl {app : App Image} : Moved app app := Relation.ReflTransGen.refl

/-- The frame of the moves themselves. -/
theorem allowsLoading_moved : AllowsLoading (Moved : App Image → App Image → Prop) :=
  fun _ _ _ h => h

theorem allowsShared_moved : AllowsShared (Moved : App Image → App Image → Prop) :=
  fun _ _ _ h => h

theorem moved_within {p : Program Image Data} (h : p.Within (contract ios urlOf allowed Moved))
    {app : App Image} (happ : Unset app) : Moved app (p.run app).1 :=
  h.frames (fun _ => moved_rfl) (fun _ _ _ h h' => Relation.ReflTransGen.trans h h') happ

/-! ## Programs that change neither the shared user nor the overlays -/

section Quiet

variable (hK : Quiet K)

include hK

theorem allows_quiet {f : App Image → App Image} (hr : ∀ app, (f app).register = app.register)
    (hp : ∀ app, (f app).profileForm = app.profileForm)
    (hs : ∀ app, (f app).sharedUser = app.sharedUser)
    (hl : ∀ app, loading (f app) = loading app) (hm : ∀ app, Moved app (f app)) :
    Allows (contract ios urlOf allowed K : Contract Image Data) f :=
  allows_change hr hp fun app => hK app (f app) (hs app) (hl app) (hm app)

theorem within_quiet {f : App Image → App Image} (hr : ∀ app, (f app).register = app.register)
    (hp : ∀ app, (f app).profileForm = app.profileForm)
    (hs : ∀ app, (f app).sharedUser = app.sharedUser)
    (hl : ∀ app, loading (f app) = loading app) (hm : ∀ app, Moved app (f app)) :
    (Callback.Prog.modify f : Program Image Data).Within (contract ios urlOf allowed K) :=
  (allows_quiet hK hr hp hs hl hm).within

/-- What is presented has no controller of its own. -/
theorem allows_present {level : Level} (hlevel : level.controllers = []) (hrooted : level.Rooted) :
    Allows (contract ios urlOf allowed K : Contract Image Data) (App.present self level) :=
  allows_quiet hK (fun _ => rfl) (fun _ => rfl) (fun _ => rfl) (fun _ => rfl)
    fun _ => .single (.cover _ _ _ _ hlevel hrooted)

theorem within_present {level : Level} (hlevel : level.controllers = []) (hrooted : level.Rooted) :
    (present self level : Program Image Data).Within (contract ios urlOf allowed K) :=
  (allows_present hK hlevel hrooted).within

theorem lenient : Lenient (contract ios urlOf allowed K : Contract Image Data) where
  error self title msg := by
    apply allows_quiet hK
    case hm =>
      intro app
      unfold App.showErrorWith
      split
      · exact .single (.cover app.levels _ self (.alert self (.error title msg)) rfl trivial)
      · exact moved_rfl
    all_goals
      intro app
      unfold App.showErrorWith
      split <;> rfl
  tick app happ := ⟨happ, hK app app.tick rfl rfl moved_rfl⟩

theorem mobile : Mobile (contract ios urlOf allowed K : Contract Image Data) where
  toLenient := lenient hK
  pop _ := allows_quiet hK (fun _ => rfl) (fun _ => rfl) (fun _ => rfl) (fun _ => rfl)
    fun _ => .single (.pop _ _ _)
  push _ _ app happ := ⟨happ, hK app _ rfl rfl (.single (.push _ _ _ _))⟩
  home _ := allows_present hK rfl nofun
  signOut := by
    apply allows_quiet hK
    case hm =>
      intro app
      unfold App.signOut
      split <;> exact moved_rfl
    all_goals
      intro app
      unfold App.signOut
      split <;> rfl

theorem within_loadError (error : Option NSError) :
    (loadError self error : Program Image Data).Within (contract ios urlOf allowed K) :=
  (lenient hK).within_weakError _ _

theorem within_setForm {f : ProfileForm Image → ProfileForm Image}
    (hf : ∀ form, (f form).user = form.user) :
    (ProfileInformationViewController.setForm self f : Program Image Data).Within
      (contract ios urlOf allowed K) := by
  refine Callback.Prog.within_modify.mpr fun app happ =>
    ⟨fun controller => ?_, hK app _ rfl rfl moved_rfl⟩
  refine ⟨(happ controller).1, ?_⟩
  by_cases hc : controller = self
  · subst hc
    simpa [App.setProfileForm, hf] using (happ controller).2
  · simpa [App.setProfileForm, hc] using (happ controller).2

theorem within_setRegister {form : RegisterForm Image} (hform : form.user = none) :
    (Callback.Prog.modify (App.setRegister self form) : Program Image Data).Within
      (contract ios urlOf allowed K) := by
  refine Callback.Prog.within_modify.mpr fun app happ =>
    ⟨fun controller => ?_, hK app _ rfl rfl moved_rfl⟩
  refine ⟨?_, (happ controller).2⟩
  by_cases hc : controller = self
  · subst hc
    simpa [App.setRegister] using hform
  · simpa [App.setRegister, hc] using (happ controller).1

omit hK in
theorem within_uploadProfileImage {place : Place} {image : Image} :
    (uploadProfileImage ios place self image .done (fun _ => .done)).Within
      (contract ios urlOf allowed K) := by
  refine within_guardUid fun app uid _ _ => ?_
  dsimp only
  split
  · trivial
  · exact within_known (.putPhoto place self uid _)

/-! ### The splash screen and the member area -/

omit hK in
theorem within_splash :
    (SplashViewController.viewDidLoad self : Program Image Data).Within
      (contract ios urlOf allowed K) := by
  intro app _
  dsimp only
  split
  · exact within_known (.deadlineSignedIn self)
  · exact within_known (.deadlineSignedOut self)

theorem within_deadlineSignedIn :
    (SplashViewController.deadlineSignedIn self : Program Image Data).Within
      (contract ios urlOf allowed K) := by
  apply Callback.Prog.Within.append
  · exact within_guardUid fun _ uid _ _ => within_known (.splashLoad self uid)
  · refine within_guardUser fun _ user => ?_
    split
    · exact (mobile hK).within_goToHomeScreen
    · exact within_quiet hK (fun _ => rfl) (fun _ => rfl) (fun _ => rfl) (fun _ => rfl)
        fun _ => .single (.single _ _ _ _)

theorem within_deadlineSignedOut :
    (SplashViewController.deadlineSignedOut self : Program Image Data).Within
      (contract ios urlOf allowed K) :=
  within_quiet hK (fun _ => rfl) (fun _ => rfl) (fun _ => rfl) (fun _ => rfl)
    fun _ => .single (.navigation _ _ _)

omit hK in
theorem within_profileLoad :
    (ProfileViewController.loadUserData ios self).Within (contract ios urlOf allowed K) :=
  within_guardUid fun _ uid _ _ => within_known (.loadShown .profileLoad self _ uid)

theorem within_confirmDelete :
    (ProfileViewController.confirmDelete self : Program Image Data).Within
      (contract ios urlOf allowed K) := by
  apply within_weakly
  refine Callback.Prog.Within.append (.append (.append ?_ ?_) ?_)
    ((mobile hK).within_backToLoginScreen fun _ => within_splash)
  · refine within_guardUser fun user authUser => ((mobile hK).within_signOut).append ?_
    exact within_known (.deleteAuth self user authUser.uid)
  · exact within_guardUid fun _ uid _ _ => within_known (.deleteDocument self uid)
  · exact within_guardUid fun _ uid _ _ => within_known (.deletePhoto self uid)

/-! ### The verification screen -/

omit hK in
theorem within_registerUpload :
    (weakly self (RegisterViewController.uploadImage ios self)).Within
      (contract ios urlOf allowed K) := by
  refine within_weakly fun app _ => ?_
  dsimp only
  split
  · exact within_uploadProfileImage
  · trivial

omit hK in
theorem within_registerSendMail :
    (guardUser (fun user authUser => send .registerSendMail self
      (.sendEmailVerification user authUser.uid) (RegisterViewController.mailSent self)) :
        Program Image Data).Within (contract ios urlOf allowed K) :=
  within_guardUser fun user authUser => within_known (.registerMail self user authUser.uid)

theorem within_onBackReloaded (user : ℕ) (authUser : AuthUser) :
    (EmailVerificationViewController.onBackReloaded self user authUser :
      Program Image Data).Within (contract ios urlOf allowed K) := by
  intro app _
  dsimp only
  split
  · exact (lenient hK).within_weakError _ _
  · apply Callback.Prog.Within.append
    · exact within_known (.backDelete self user authUser.uid)
    · refine within_guardUid fun _ uid _ _ => Callback.Prog.Within.append (within_weakly ?_) ?_
      · intro app' _
        dsimp only
        split
        · exact within_known (.backDeleteDocument self uid)
        · trivial
      · exact within_weakly ((mobile hK).within_pop)

omit hK in
theorem within_welcomeInfoAppear :
    (WelcomeInfoViewController.viewWillAppear ios self).Within (contract ios urlOf allowed K) :=
  within_known (.infoDeadline self)

/-! ### The photo library -/

omit hK in
theorem within_putDataHandler {place : Place} {uid : Uid} (error : Option NSError) :
    (putDataHandler place self (.photo uid) .done (fun _ => .done) error :
      Program Image Data).Within (contract ios urlOf allowed K) := by
  cases error with
  | some error => trivial
  | none => exact within_known (.photoAddress place self uid)

omit hK in
theorem within_downloadURLHandler {uid : Uid} {a : Except NSError String}
    (hreference : AllowsReference allowed) (ha : ∀ url, a = .ok url → url = urlOf (.photo uid)) :
    (downloadURLHandler self (.photo uid) .done (fun _ => .done) a : Program Image Data).Within
      (contract ios urlOf allowed K) := by
  cases a with
  | error error => trivial
  | ok url =>
      cases ha url rfl
      refine Callback.Prog.Within.append (within_guardUid fun _ uid' _ _ => ?_) trivial
      exact within_known (.photoReference self uid' uid (hreference _ _ _ _))

/-! ### The profile information screen -/

theorem within_setImage (image : Option Image) :
    (UIImageView.setImage self image : Program Image Data).Within (contract ios urlOf allowed K) :=
  within_setForm hK (f := fun form => { form with userPhoto := image }) fun _ => rfl

theorem within_downloadedHandler (image : Option Image) :
    (UIImageView.downloadedHandler self image : Program Image Data).Within
      (contract ios urlOf allowed K) :=
  UIImageView.within_downloadedHandler fun i _ => within_setImage hK (some i)

theorem within_cachedHandler {photoUrl photoReference : String} (image : Option Image) :
    (UIImageView.cachedHandler self photoUrl photoReference image : Program Image Data).Within
      (contract ios urlOf allowed K) :=
  (within_downloadedHandler hK image).append
    (within_known (.loadImage self photoUrl photoReference))

theorem within_loadPhoto (placeholder : String) (user : User) :
    (UIImageView.loadPhoto ios self placeholder user).Within (contract ios urlOf allowed K) :=
  UIImageView.within_loadPhoto (fun _ => within_setImage hK _)
    (fun photoUrl photoReference => within_known (.loadCached self photoUrl photoReference))
    (fun photoUrl photoReference => within_known (.loadImage self photoUrl photoReference))

omit hK in
theorem within_informationLoad :
    (ProfileInformationViewController.loadUserData ios self).Within
      (contract ios urlOf allowed K) :=
  within_guardUid fun _ uid _ _ => within_known (.informationLoad self uid)

theorem within_profileInfoClick :
    (ProfileViewController.profileInfoClick ios self).Within (contract ios urlOf allowed K) := by
  refine (mobile hK).within_push fun controller => ?_
  apply Callback.Prog.Within.append
  · exact within_setForm hK fun _ => rfl
  apply Callback.Prog.Within.append _ within_informationLoad
  refine Callback.Prog.within_modify.mpr fun app happ =>
    ⟨fun other => ?_, hK app _ rfl rfl moved_rfl⟩
  refine ⟨(happ other).1, ?_⟩
  by_cases ho : other = controller
  · subst ho
    simp [ProfileInformationViewController.awakeFromNib, App.setProfileForm]
  · simpa [ProfileInformationViewController.awakeFromNib, App.setProfileForm, ho] using
      (happ other).2

omit hK in
theorem within_updateUser :
    (ProfileInformationViewController.updateUser ios self).Within (contract ios urlOf allowed K) :=
  within_guardUser fun user authUser => within_known (.updateCurrentUser self user authUser.uid)

theorem within_updateAccount :
    (ProfileInformationViewController.updateAccount ios self).Within
      (contract ios urlOf allowed K) := by
  refine Callback.Prog.Within.append (.append (.append within_updateUser ?_) ?_)
    ((mobile hK).within_pop)
  · apply within_setForm hK
    intro form
    split <;> rfl
  · exact within_quiet hK (fun _ => rfl) (fun _ => rfl) (fun _ => rfl) (fun _ => rfl)
      fun _ => moved_rfl

omit hK in
theorem within_photoLibrary :
    (ProfileInformationViewController.photoLibrary ios self).Within
      (contract ios urlOf allowed K) := by
  intro app _
  dsimp only
  split
  · exact within_uploadProfileImage
  · trivial

omit hK in
theorem within_putJpgHandler {uid : Uid} {now : Date} (error : Option NSError) :
    (uploadImagePutHandler .informationSavePhoto self (.photoJpg uid)
      (ProfileInformationViewController.photoUploaded self uid now) error :
        Program Image Data).Within (contract ios urlOf allowed K) := by
  cases error with
  | some error => trivial
  | none => exact within_known (.jpgAddress self uid now)

omit hK in
theorem within_jpgAddressHandler {uid : Uid} {now : Date} {a : Except NSError String}
    (ha : ∀ url, a = .ok url → url = urlOf (.photoJpg uid)) :
    (uploadImageURLHandler (ProfileInformationViewController.photoUploaded self uid now) a :
      Program Image Data).Within (contract ios urlOf allowed K) := by
  cases a with
  | error error => trivial
  | ok url =>
      cases ha url rfl
      exact within_known (.savePhoto self uid now)

end Quiet

/-! ## Programs that show or remove an overlay -/

section Loading

variable (hK : AllowsLoading K)

include hK

theorem allows_spinner :
    Allows (contract ios urlOf allowed K : Contract Image Data) (App.showLoadingSpinner self) :=
  allows_change (fun _ => rfl) (fun _ => rfl) (fun app => hK app _ rfl moved_rfl)

theorem allows_noSpinner :
    Allows (contract ios urlOf allowed K : Contract Image Data) App.removeLoadingSpinner :=
  allows_change (fun _ => rfl) (fun _ => rfl) (fun app => hK app _ rfl moved_rfl)

theorem within_spinner :
    (showLoadingSpinner self : Program Image Data).Within (contract ios urlOf allowed K) :=
  (allows_spinner hK).within

theorem within_noSpinner :
    (removeLoadingSpinner : Program Image Data).Within (contract ios urlOf allowed K) :=
  (allows_noSpinner hK).within

theorem within_signedIn (a : Except NSError AuthUser) :
    (WelcomeViewController.signedIn self a : Program Image Data).Within
      (contract ios urlOf allowed K) := by
  cases a with
  | error error =>
      exact within_weakly ((lenient hK.quiet).within_signInFailed (allows_noSpinner hK) error)
  | ok user =>
      refine within_weakly
        (.append (.append ?_ (within_noSpinner hK)) ((mobile hK.quiet).within_goToHomeScreen))
      exact within_known (.load .welcomeGetUser self user.uid)

theorem within_loginAction {email password : String} :
    (WelcomeViewController.loginAction ios self email password).Within
      (contract ios urlOf allowed K) := by
  unfold WelcomeViewController.loginAction WelcomeViewController.validateFields
  split
  · exact (lenient hK.quiet).within_error _ _
  · intro app _
    dsimp only
    split
    · exact (within_spinner hK).append (within_known (.signIn self email password))
    · refine within_guardUid fun _ uid _ _ => Callback.Prog.Within.append ?_ ?_
      · exact within_known (.load .welcomeLogInSignedIn self uid)
      · exact within_known (.loadSignedIn self uid)

theorem within_registerAction :
    (RegisterViewController.registerAction ios self).Within (contract ios urlOf allowed K) := by
  intro app _
  dsimp only
  split
  · exact (lenient hK.quiet).within_error _ _
  · refine Callback.Prog.Within.append (.append (within_spinner hK) (.append ?_ ?_))
      (within_noSpinner hK)
    · exact within_known (.createAccount self _ _)
    · intro app' happ
      dsimp only
      rw [(happ self).1]
      trivial

theorem within_sendEmailVerification :
    (EmailVerificationViewController.sendEmailVerification self : Program Image Data).Within
      (contract ios urlOf allowed K) := by
  apply (within_spinner hK).append
  exact within_guardUser fun user authUser => within_known (.resendMail self user authUser.uid)

theorem within_checkedEmailVerification (user : ℕ) :
    (EmailVerificationViewController.checkedEmailVerification ios self user).Within
      (contract ios urlOf allowed K) := by
  intro app _
  dsimp only
  split
  · apply within_weakly
    exact (within_noSpinner hK).append
      ((mobile hK.quiet).within_push fun _ => within_welcomeInfoAppear)
  · exact within_weakly (((lenient hK.quiet).within_error _ _).append (within_noSpinner hK))

theorem within_checkEmailVerification (hreload : AllowsReload allowed) :
    (EmailVerificationViewController.checkEmailVerification ios self).Within
      (contract ios urlOf allowed K) := by
  apply (within_spinner hK).append
  exact within_guardUser fun user authUser => within_known
    (.checkReload self user authUser.uid (hreload _ user authUser.uid rfl))

theorem within_welcomeInfoLoad :
    (WelcomeInfoViewController.loadUserData ios self).Within (contract ios urlOf allowed K) := by
  apply Callback.Prog.Within.append _ (within_noSpinner hK)
  apply (within_spinner hK).append
  exact within_guardUid fun _ uid _ _ => within_known (.loadShown .welcomeInfoLoad self _ uid)

theorem within_confirmLogOut :
    (ProfileViewController.confirmLogOut self : Program Image Data).Within
      (contract ios urlOf allowed K) :=
  (mobile hK.quiet).within_confirmLogOut (fun _ => within_splash) (allows_spinner hK)
    (allows_noSpinner hK)

theorem within_didFinishPicking (image : Image) :
    (ProfileInformationViewController.didFinishPicking ios self image).Within
      (contract ios urlOf allowed K) := by
  refine Callback.Prog.Within.append (.append (.append ?_ (within_spinner hK)) within_updateUser)
    (within_noSpinner hK)
  exact within_setForm hK.quiet fun _ => rfl

end Loading

/-! ## Programs that set the shared user -/

section Shared

variable (hK : AllowsShared K)

include hK

theorem within_setSharedUser (user : User) :
    (setSharedUser user : Program Image Data).Within (contract ios urlOf allowed K) :=
  within_change (fun _ => rfl) (fun _ => rfl) (fun app => hK app _ rfl moved_rfl)

theorem within_homeLoaded (user : User) :
    (WelcomeViewController.userLoaded self user : Program Image Data).Within
      (contract ios urlOf allowed K) :=
  (within_setSharedUser hK user).append (within_weakly ((mobile hK.quiet).within_goToHomeScreen))

theorem within_showUser (placeholder : String) (user : User) :
    (showUser ios self placeholder user).Within (contract ios urlOf allowed K) :=
  (within_setSharedUser hK user).append (within_weakly (within_loadPhoto hK.quiet _ user))

theorem within_informationLoaded (user : User) :
    (ProfileInformationViewController.userLoaded ios self user : Program Image Data).Within
      (contract ios urlOf allowed K) := by
  apply (within_setSharedUser hK user).append
  exact within_weakly
    ((within_loadPhoto hK.quiet _ user).append (within_setForm hK.quiet fun _ => rfl))

theorem within_userSaved (user : User) (success : Bool) :
    (RegisterViewController.userSaved ios self user success).Within
      (contract ios urlOf allowed K) := by
  cases success with
  | false => trivial
  | true =>
      refine Callback.Prog.Within.append (.append (.append ?_ ?_) ?_) ?_
      · exact within_setSharedUser hK user
      · exact within_registerUpload
      · exact within_registerSendMail
      · exact within_weakly ((mobile hK.quiet).within_push fun _ => trivial)

theorem within_photoSaved :
    (ProfileInformationViewController.photoSaved self : Program Image Data).Within
      (contract ios urlOf allowed K) :=
  within_change (fun _ => rfl) (fun _ => rfl) (fun app => hK app _ rfl moved_rfl)

end Shared

end GiveMeMovies.AppRequests
