import GiveMeMovies.AppRequests
import GiveMeMovies.HomeOpening
import GiveMeMovies.ServerJournal

/-!
# What the events and the responses of the app do

Every event and every handler sends known requests only. Which of them touch the shared user or
the loading overlays is a matter of the event, and of the place that sent the request. The runs
here are those in which only the app writes documents and photos. The accounts may also change
from elsewhere, as when a verification link is followed.
-/

namespace GiveMeMovies.AppRequests

open Program UserManager StorageManager AppRuns

variable {Image Data : Type} {ios : Platform Image Data} {urlOf : StorageReference → String}
  {allowed : Call Data → Prop} {K : App Image → App Image → Prop} {self : Controller}

/-- The events whose programs show or remove an overlay or release a controller. -/
def loads : Act Image → Bool
  | .logIn _ _ _ | .register _ _ | .resend _ | .checkVerification _ | .confirm | .pick _ _
  | .release _ => true
  | _ => false

/-- The event that changes the tab. -/
def selects : Act Image → Bool
  | .selectTab _ => true
  | _ => false

/-- The events that may ask for a reload of the signed-in user. -/
def reloads : Act Image → Bool
  | .back _ | .checkVerification _ => true
  | _ => false

/-- The frame does not look at the screens. -/
def AllowsScreens (K : App Image → App Image → Prop) : Prop :=
  ∀ app app', SameShared app app' → SameLoading app app' → K app app'

/-- The requests whose handlers may show or remove an overlay. -/
def loadsAfter (call : Call Data) : Bool :=
  match call.request, call.place with
  | .signIn _ _, .welcomeSignIn | .sendEmailVerification _ _, .verificationSendMail
  | .reload _ _, .verificationContinue | .timer, .welcomeInfoDeadline
  | .updateCurrentUser _, .informationUpdateUser | .updateData _ _, .informationSaveUser => true
  | _, _ => false

/-- The requests whose handlers may set the shared user. -/
def sharesAfter (call : Call Data) : Bool :=
  match call.request, call.place with
  | .getDocument _, _ | .setData _ _ _, .registerSaveUser | .updateData _ _, .informationSavePhoto
  | .updateData _ _, .informationSaveUser => true
  | _, _ => false

/-- The two requests whose handlers stamp dates on what they send. -/
def stamps (call : Call Data) : Bool :=
  match call.request, call.place with
  | .createUser _ _, .registerCreateUser | .updateCurrentUser _, .informationUpdateUser => true
  | _, _ => false

theorem within_back (hK : Quiet K) (hreload : AllowsReload allowed) :
    (back self : Program Image Data).Within (contract ios urlOf allowed K) := by
  unfold back
  split
  · exact (mobile hK).within_pop
  · exact (mobile hK).within_pop
  · exact within_guardUser fun user authUser => within_known
      (.backReload self user authUser (hreload _ user authUser.uid rfl))
  · exact (mobile hK).within_pop
  · exact (mobile hK).within_pop
  · trivial

theorem within_selectTab (hK : AllowsScreens K) {tab : Tab} {app : App Image}
    {p : Program Image Data} (hp : selectTab ios tab app = some p) :
    p.Within (contract ios urlOf allowed K) := by
  have hchange {f : App Image → App Image} (hf : ∀ app, ∃ stack next,
      f app = { app.selectTab tab stack with nextController := next }) :
      (Callback.Prog.modify f : Program Image Data).Within (contract ios urlOf allowed K) := by
    refine Callback.Prog.within_modify.mpr fun app happ => ?_
    obtain ⟨stack, next, heq⟩ := hf app
    rw [heq]
    exact ⟨happ, hK app _ rfl rfl⟩
  unfold selectTab at hp
  split at hp
  · split at hp
    · split at hp
      next htab =>
        cases hp
        obtain ⟨rfl, _⟩ := htab
        refine Callback.Prog.Within.append (.append (hchange fun app => ?_) within_profileLoad)
          within_profileLoad
        exact ⟨_, _, rfl⟩
      next =>
        cases hp
        exact hchange fun app => ⟨_, app.nextController, rfl⟩
    · cases hp
  · cases hp

theorem within_act (hK : Quiet K) {e : Act Image} (hload : loads e = true → AllowsLoading K)
    (hselect : selects e = true → AllowsScreens K)
    (hreload : reloads e = true → AllowsReload allowed) {app : App Image} {p : Program Image Data}
    (hp : act ios e app = some p) : p.Within (contract ios urlOf allowed K) := by
  have hscreen : (Callback.Prog.modify App.dismissAlert : Program Image Data).Within
      (contract ios urlOf allowed K) :=
    within_quiet hK (fun _ => rfl) (fun _ => rfl) (fun _ => rfl) (fun _ => rfl)
      fun _ => .single (.dismissAlert _ _)
  cases e with
  | logIn self email password =>
      obtain ⟨rfl, _⟩ := of_whenInFront hp
      exact within_loginAction (hload rfl)
  | createAccount self =>
      obtain ⟨rfl, _⟩ := of_whenInFront hp
      exact (mobile hK).within_push fun _ => within_setRegister hK rfl
  | fill self fields =>
      obtain ⟨rfl, _⟩ := of_whenInFront hp
      exact within_setRegister hK rfl
  | register self fields =>
      obtain ⟨rfl, _⟩ := of_whenInFront hp
      exact (within_setRegister hK rfl).append (within_registerAction (hload rfl))
  | resend self =>
      obtain ⟨rfl, _⟩ := of_whenInFront hp
      exact within_sendEmailVerification (hload rfl)
  | checkVerification self =>
      obtain ⟨rfl, _⟩ := of_whenInFront hp
      exact within_checkEmailVerification (hload rfl) (hreload rfl)
  | start self =>
      obtain ⟨rfl, _⟩ := of_whenInFront hp
      exact (mobile hK).within_goToHomeScreen
  | back self =>
      simp only [act] at hp
      split at hp
      · cases hp
        exact within_back hK (hreload rfl)
      · cases hp
  | swipeBack =>
      cases hp
      exact within_quiet hK (fun _ => rfl) (fun _ => rfl) (fun _ => rfl) (fun _ => rfl)
        fun _ => .single (.swipeBack _ _)
  | selectTab tab => exact within_selectTab (hselect rfl) hp
  | profileInfo self =>
      obtain ⟨rfl, _⟩ := of_whenInFront hp
      exact within_profileInfoClick hK
  | logOut self =>
      obtain ⟨rfl, _⟩ := of_whenInFront hp
      exact within_present hK rfl trivial
  | deleteAccount self =>
      obtain ⟨rfl, _⟩ := of_whenInFront hp
      intro app' _
      dsimp only
      split
      · exact within_present hK rfl trivial
      · exact (lenient hK).within_error _ _
  | dismiss =>
      cases hp
      exact hscreen
  | confirm =>
      simp only [act, confirm] at hp
      split at hp
      · cases hp
        exact hscreen.append (within_confirmLogOut (hload rfl))
      · cases hp
        exact hscreen.append (within_confirmDelete hK)
      · cases hp
  | edit self firstName lastName about =>
      obtain ⟨rfl, _⟩ := of_whenInFront hp
      exact within_setForm hK fun _ => rfl
  | library self =>
      obtain ⟨rfl, _⟩ := of_whenInFront hp
      exact within_photoLibrary
  | pick self image =>
      obtain ⟨rfl, _⟩ := of_whenInFront hp
      exact within_didFinishPicking (hload rfl) image
  | update self =>
      obtain ⟨rfl, _⟩ := of_whenInFront hp
      exact within_updateAccount hK
  | appear self =>
      simp only [act] at hp
      split at hp
      · cases hp
        unfold viewWillAppear
        split
        · exact within_profileLoad
        · exact within_welcomeInfoAppear
        · trivial
      · cases hp
  | release self =>
      simp only [act] at hp
      split at hp
      · cases hp
      · cases hp
        exact within_change (fun _ => rfl) (fun _ => rfl) (fun app => hload rfl app _ rfl moved_rfl)
  | keychain error =>
      cases hp
      exact within_quiet hK (fun _ => rfl) (fun _ => rfl) (fun _ => rfl) (fun _ => rfl)
        fun _ => moved_rfl

/-- An event leaves known requests and screens without a user of their own. -/
theorem known_act {e : Act Image} {app : App Image} {p : Program Image Data}
    (hreload : reloads e = true → AllowsReload allowed) (hp : act ios e app = some p)
    (happ : Unset app) :
    Unset (p.run app).1 ∧ ∀ q ∈ (p.run app).2, Known ios urlOf allowed q := by
  have hK : AllowsLoading (fun _ _ : App Image => True) := fun _ _ _ _ => trivial
  exact run_within (within_act hK.quiet (fun _ => hK) (fun _ _ _ _ _ => trivial) hreload hp) happ

/-- The handlers that do not stamp dates. -/
theorem within_handler (hK : Quiet K) {p : Pending Image Data} (h : Known ios urlOf everyCall p)
    (hload : loadsAfter p.call = true → AllowsLoading K)
    (hshare : sharesAfter p.call = true → AllowsShared K) (hstamp : stamps p.call = false)
    (hreference : ∀ owner, p.call.request = .downloadURL (.photo owner) → AllowsReference allowed)
    {a : p.call.Response Image} (ha : Journal.Genuine urlOf ⟨p.call, a⟩) :
    (p.handler a).Within (contract ios urlOf allowed K) := by
  cases h with
  | deadlineSignedIn self => exact within_deadlineSignedIn hK
  | deadlineSignedOut self => exact within_deadlineSignedOut hK
  | splashLoad self uid =>
      exact of_getDocumentHandler (within_homeLoaded (hshare rfl))
        (fun _ => Callback.Prog.within_done) a
  | load place self uid =>
      exact of_getDocumentHandler (within_setSharedUser (hshare rfl)) (within_loadError hK) a
  | loadShown place self placeholder uid =>
      exact of_getDocumentHandler (within_showUser (hshare rfl) placeholder)
        (within_loadError hK) a
  | signIn self email password => exact within_signedIn (hload rfl) a
  | loadSignedIn self uid =>
      exact of_getDocumentHandler (within_homeLoaded (hshare rfl)) ((lenient hK).within_noUser) a
  | createAccount self email password => cases hstamp
  | registerUser self uid form clock =>
      exact of_createUserHandler (within_userSaved (hshare rfl) _) a
  | registerMail self user uid => exact (lenient hK).within_mailSent a
  | putPhoto place self uid data => exact within_putDataHandler a
  | photoAddress place self uid =>
      apply within_downloadURLHandler (hreference uid rfl)
      rintro url rfl
      exact ha
  | photoReference self uid owner => trivial
  | backReload self user authUser => exact within_onBackReloaded hK user authUser
  | backDelete self user uid => exact (lenient hK).within_userDeleted a
  | backDeleteDocument self uid => exact (lenient hK).within_deleteAccountCompletion a
  | resendMail self user uid => exact (lenient hK).within_resent (allows_noSpinner (hload rfl)) a
  | checkReload self user uid => exact within_checkedEmailVerification (hload rfl) user
  | infoDeadline self => exact within_welcomeInfoLoad (hload rfl)
  | deleteAuth self user uid => exact (lenient hK).within_authDeleted a
  | deleteDocument self uid =>
      cases a with
      | some error => exact (lenient hK).within_deleted (some error)
      | none => trivial
  | deletePhoto self uid => exact (lenient hK).within_deleted a
  | informationLoad self uid =>
      exact of_getDocumentHandler (within_informationLoaded (hshare rfl))
        (within_loadError hK) a
  | loadCached self photoUrl photoReference => exact within_cachedHandler hK a
  | loadImage self photoUrl photoReference => exact within_downloadedHandler hK a
  | updateCurrentUser self user uid => cases hstamp
  | putJpg self uid data now => exact within_putJpgHandler a
  | jpgAddress self uid now =>
      apply within_jpgAddressHandler
      rintro url rfl
      exact ha
  | savePhoto self uid now =>
      cases a with
      | some error => exact (lenient hK).within_photoNotSaved (some error)
      | none => exact within_photoSaved (hshare rfl)
  | saveTexts self uid form clock =>
      cases a with
      | some error => trivial
      | none => exact (within_setSharedUser (hshare rfl) _).append (within_noSpinner (hload rfl))

/-! ## What the stamping handlers do -/

theorem run_saveUserPhoto (uid : Uid) (app : App Image) :
    (ProfileInformationViewController.saveUserPhoto ios self uid).run app = (app.tick,
      match ios.jpegData ((app.profileForm self).pickedImage.getD ios.placeholderPerson)
        (1 / 10) with
      | none => []
      | some data =>
          [⟨⟨.informationSavePhoto, self, .putData (.photoJpg uid) data⟩,
            uploadImagePutHandler .informationSavePhoto self (.photoJpg uid)
              (ProfileInformationViewController.photoUploaded self uid (app.clock.date 0))⟩]) := by
  change (match ios.jpegData _ (1 / 10) with
    | none => ProfileInformationViewController.photoUploaded self uid (app.clock.date 0) none none
    | some data => _ : Program Image Data).run app.tick = _
  dsimp only [App.tick]
  cases ios.jpegData ((app.profileForm self).pickedImage.getD ios.placeholderPerson) (1 / 10) with
  | none => rfl
  | some data => rfl

theorem run_saveUser (uid : Uid) (app : App Image) :
    (ProfileInformationViewController.saveUser self uid : Program Image Data).run app =
      ((app.showLoadingSpinner self).tick.tick,
        [⟨⟨.informationSaveUser, self, .updateData uid
            (ProfileInformationViewController.formUser uid (app.profileForm self)
              (app.clock.date 0) (app.clock.date 1)).parameters⟩,
          updateUserHandler (ProfileInformationViewController.textsSaved
            (ProfileInformationViewController.formUser uid (app.profileForm self)
              (app.clock.date 0) (app.clock.date 1))) (fun _ => .done)⟩]) := rfl

theorem known_saveUserPhoto {uid : Uid} {app : App Image} {q : Pending Image Data}
    (hq : q ∈ ((ProfileInformationViewController.saveUserPhoto ios self uid).run app).2) :
    Known ios urlOf allowed q := by
  rw [run_saveUserPhoto] at hq
  dsimp only at hq
  split at hq
  · cases hq
  · rw [List.mem_singleton.mp hq]
    exact .putJpg self uid _ _

theorem known_saveUser {uid : Uid} {app : App Image} {q : Pending Image Data}
    (hq : q ∈ ((ProfileInformationViewController.saveUser self uid).run app).2) :
    Known ios urlOf allowed q := by
  rw [run_saveUser] at hq
  rw [List.mem_singleton.mp hq]
  exact .saveTexts self uid (app.profileForm self) app.clock

/-- The photo and the texts are saved by the handler of `updateCurrentUser`. -/
theorem run_currentUserUpdated {uid : Uid} {app : App Image} (hself : app.released self = false) :
    (ProfileInformationViewController.currentUserUpdated ios self uid none).run app =
      ((app.tick.showLoadingSpinner self).tick.tick,
        ((ProfileInformationViewController.saveUserPhoto ios self uid).run app).2 ++
          ((ProfileInformationViewController.saveUser self uid).run app.tick).2) := by
  have hphoto : ((ProfileInformationViewController.saveUserPhoto ios self uid).run app).1 =
      app.tick := by rw [run_saveUserPhoto]
  have htick : app.tick.released self = false := hself
  rw [ProfileInformationViewController.currentUserUpdated, Callback.Prog.run_append,
    run_weakly_alive _ hself, hphoto, run_weakly_alive _ htick, run_saveUser]

theorem run_currentUserUpdated_released {uid : Uid} {app : App Image}
    (hself : app.released self = true) :
    (ProfileInformationViewController.currentUserUpdated ios self uid none).run app =
      (app, []) := by
  rw [ProfileInformationViewController.currentUserUpdated, Callback.Prog.run_append,
    run_weakly_released _ hself, run_weakly_released _ hself]
  rfl

/-- A handler leaves known requests and screens without a user of their own. -/
theorem known_response {p : Pending Image Data} (h : Known ios urlOf everyCall p)
    (hreference : ∀ owner, p.call.request = .downloadURL (.photo owner) → AllowsReference allowed)
    {a : p.call.Response Image} (ha : Journal.Genuine urlOf ⟨p.call, a⟩) {app : App Image}
    (happ : Unset app) :
    Unset ((p.handler a).run app).1 ∧
      ∀ q ∈ ((p.handler a).run app).2, Known ios urlOf allowed q := by
  have hK : AllowsLoading (fun _ _ : App Image => True) := fun _ _ _ _ => trivial
  have hquiet := hK.quiet
  by_cases hstamp : stamps p.call = false
  · exact run_within
      (within_handler hquiet h (fun _ => hK) (fun _ _ _ _ _ => trivial) hstamp hreference ha) happ
  cases h with
  | createAccount self email password =>
      have herror (msg : Option String) : (weakly self (showErrorWith self (some "Error") msg) :
          Program Image Data).Within (contract ios urlOf allowed fun _ _ => True) :=
        (lenient hquiet).within_weakError _ _
      cases a with
      | error error => exact run_within (herror _) happ
      | ok user =>
          change Unset ((weakly self _).run app).1 ∧ ∀ q ∈ ((weakly self _).run app).2, _
          rw [run_weakly]
          split
          · exact ⟨happ, fun q hq => absurd hq List.not_mem_nil⟩
          · refine ⟨happ, fun q hq => ?_⟩
            rw [RegisterViewController.run_saveUser] at hq
            rw [List.mem_singleton.mp hq]
            exact .registerUser self user.uid _ app.clock
  | updateCurrentUser self user uid =>
      have herror (msg : Option String) : (weakly self (showErrorWith self (some "Error") msg) :
          Program Image Data).Within (contract ios urlOf allowed fun _ _ => True) :=
        (lenient hquiet).within_weakError _ _
      cases a with
      | some error => exact run_within (herror _) happ
      | none =>
          by_cases hself : app.released self = false
          · dsimp only
            rw [run_currentUserUpdated hself]
            refine ⟨happ, fun q hq => ?_⟩
            rcases List.mem_append.mp hq with hq | hq
            · exact known_saveUserPhoto hq
            · exact known_saveUser hq
          · dsimp only
            rw [run_currentUserUpdated_released (by simpa using hself)]
            exact ⟨happ, fun q hq => absurd hq List.not_mem_nil⟩
  | _ => exact absurd rfl hstamp

/-- The events of the app, and changes of the accounts that come from elsewhere. -/
inductive OwnEvent (Image : Type) where
  | app (e : Callback.Event (Act Image) (Outcome Image))
  | accounts (accounts : List Account)

def OwnEvent.event (server : Server Data) : OwnEvent Image → AppRuns.Event Image Data
  | .app e => .app e
  | .accounts list => .outside { server with accounts := list }

variable (ios) in
/-- A step of the app while nobody else writes documents or photos. -/
def ownStep (w : World Image Data) (e : OwnEvent Image) : Option (World Image Data) :=
  AppRuns.step ios w (e.event w.server)

/-- The request in flight is answered. -/
abbrev answer (w : World Image Data) (n : ℕ) (p : Pending Image Data) (outcome : Outcome Image) :
    World Image Data :=
  w.respond (service Image Data) n p (p.call.request.reply outcome w.server)

inductive Stepped (ios : Platform Image Data) (w : World Image Data) :
    OwnEvent Image → World Image Data → Prop
  | act (e : Act Image) (p : Program Image Data) (hp : act ios e w.client = some p) :
      Stepped ios w (.app (.act e)) (w.exec p)
  | complete (n : ℕ) (outcome : Outcome Image) (p : Pending Image Data)
      (hp : w.inFlight[n]? = some p) :
      Stepped ios w (.app (.complete n outcome)) (answer w n p outcome)
  | accounts (accounts : List Account) :
      Stepped ios w (.accounts accounts)
        { w with server := { w.server with accounts := accounts } }

theorem stepped_of_ownStep {w w' : World Image Data} {e : OwnEvent Image}
    (h : ownStep ios w e = some w') : Stepped ios w e w' := by
  cases e with
  | app e =>
      cases e with
      | act e =>
          obtain ⟨p, hp, rfl⟩ := (Callback.step_act (service Image Data) (act ios)).mp h
          exact .act e p hp
      | complete n outcome =>
          obtain ⟨p, hp, rfl⟩ := (Callback.step_complete (service Image Data) (act ios)).mp h
          exact .complete n outcome p hp
  | accounts list =>
      cases h
      exact .accounts list

/-- What holds in every world that the app reaches while nobody else writes. -/
structure Sound (ios : Platform Image Data) (w : World Image Data) : Prop where
  unset : Unset w.client
  known : ∀ p ∈ w.inFlight, Known ios w.server.urlOf everyCall p

theorem Unset.receive {app : App Image} (h : Unset app) (request : Request Data)
    (a : request.Response Image) : Unset (receive request a app) := by
  have hsame := receive_sameScreen request a app
  intro controller
  rw [hsame.register, hsame.profileForm]
  exact h controller

theorem Sound.step {w w' : World Image Data} {e : OwnEvent Image} (h : Sound ios w)
    (hstep : ownStep ios w e = some w') : Sound ios w' := by
  cases stepped_of_ownStep hstep with
  | act e p hp =>
      obtain ⟨hunset, hknown⟩ := known_act (fun _ => allowsReload_everyCall) hp h.unset
      refine ⟨hunset, fun q hq => ?_⟩
      rcases List.mem_append.mp hq with hq | hq
      · exact h.known q hq
      · exact hknown q hq
  | complete n outcome p hp =>
      have hmem := h.known p (List.mem_of_getElem? hp)
      obtain ⟨hunset, hknown⟩ := known_response hmem
        (fun _ _ => allowsReference_everyCall) (Journal.genuine_reply p.call outcome w.server)
        (h.unset.receive _ _)
      refine ⟨hunset, fun q hq => ?_⟩
      rw [Callback.World.respond_server]
      change Known ios (Request.commit _ _ w.server).urlOf everyCall q
      rw [Request.urlOf_commit]
      rcases Callback.World.mem_inFlight_respond _ hq with hq | hq
      · exact h.known q hq
      · exact hknown q hq
  | accounts list => exact ⟨h.unset, h.known⟩

theorem sound_launched (server : Server Data) (keptUser : Option AuthUser) (clock : Clock) :
    Sound ios (launched server keptUser clock : World Image Data) := by
  have hunset : Unset (App.launch keptUser clock : App Image) := fun _ => ⟨rfl, rfl⟩
  have hwithin : (SplashViewController.viewDidLoad splash : Program Image Data).Within
      (contract ios server.urlOf everyCall fun _ _ => True) := within_splash
  obtain ⟨h, hknown⟩ := run_within hwithin hunset
  exact ⟨h, hknown⟩

/-- Some server had the addresses that the request in flight mentions. -/
structure Steady (ios : Platform Image Data) (w : World Image Data) : Prop where
  unset : Unset w.client
  known : ∀ p ∈ w.inFlight, ∃ urlOf, Known ios urlOf everyCall p

/-- The only requests that mention an address are not those that are answered with one. -/
theorem known_genuine {urlOf urlOf' : StorageReference → String} {p : Pending Image Data}
    (h : Known ios urlOf everyCall p) {a : p.call.Response Image}
    (ha : Journal.Genuine urlOf' ⟨p.call, a⟩) :
    ∃ urlOf, Known ios urlOf everyCall p ∧ Journal.Genuine urlOf ⟨p.call, a⟩ := by
  cases h with
  | photoReference self uid owner => exact ⟨urlOf, .photoReference self uid owner trivial, trivial⟩
  | savePhoto self uid now => exact ⟨urlOf, .savePhoto self uid now, trivial⟩
  | _ => exact ⟨urlOf', by constructor <;> trivial, ha⟩

theorem Steady.step {w w' : World Image Data} {e : AppRuns.Event Image Data} (h : Steady ios w)
    (hstep : AppRuns.step ios w e = some w') : Steady ios w' := by
  cases e with
  | outside server =>
      cases hstep
      exact ⟨h.unset, h.known⟩
  | app e =>
      cases e with
      | act e =>
          obtain ⟨p, hp, rfl⟩ := (Callback.step_act (service Image Data) (act ios)).mp hstep
          obtain ⟨hunset, hknown⟩ : _ ∧ ∀ q ∈ _, Known ios w.server.urlOf everyCall q :=
            known_act (fun _ => allowsReload_everyCall) hp h.unset
          refine ⟨hunset, fun q hq => ?_⟩
          rcases List.mem_append.mp hq with hq | hq
          · exact h.known q hq
          · exact ⟨_, hknown q hq⟩
      | complete n outcome =>
          obtain ⟨p, hp, rfl⟩ := (Callback.step_complete (service Image Data) (act ios)).mp hstep
          obtain ⟨_, hmem⟩ := h.known p (List.mem_of_getElem? hp)
          obtain ⟨urlOf, hmem, ha⟩ :=
            known_genuine hmem (Journal.genuine_reply p.call outcome w.server)
          obtain ⟨hunset, hknown⟩ := known_response hmem
            (fun _ _ => allowsReference_everyCall) ha (h.unset.receive _ _)
          refine ⟨hunset, fun q hq => ?_⟩
          rcases Callback.World.mem_inFlight_respond _ hq with hq | hq
          · exact h.known q hq
          · exact ⟨urlOf, hknown q hq⟩

theorem steady_launched (server : Server Data) (keptUser : Option AuthUser) (clock : Clock) :
    Steady ios (launched server keptUser clock : World Image Data) := by
  have hsound : Sound ios (launched server keptUser clock : World Image Data) :=
    sound_launched server keptUser clock
  exact ⟨hsound.unset, fun p hp => ⟨_, hsound.known p hp⟩⟩

end GiveMeMovies.AppRequests
