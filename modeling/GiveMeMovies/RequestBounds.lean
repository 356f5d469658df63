import Mathlib.Algebra.Ring.Nat
import GiveMeMovies.AppRuns
import GiveMeMovies.RequestBudget

/-!
# How many requests a tap costs

Whatever is answered and whenever, a tap leads to no more requests than its table entry says. So the
app never goes on asking by itself, and comes to rest when it is left alone.
-/

namespace GiveMeMovies.RequestBounds

open AppRuns Program UserManager StorageManager

variable {Image Data : Type} {ios : Platform Image Data} {self : Controller} {place : Place}
  {n : ℕ}

/-! ## Parts of programs -/

theorem costs_send {request : Request Data} {handler : request.Response Image → Program Image Data}
    (h : ∀ a, (handler a).Costs n) : (send place self request handler).Costs (n + 1) :=
  Callback.Prog.costs_request h

theorem costs_weakly {body : Program Image Data} (h : body.Costs n) :
    (weakly self body).Costs n := by
  intro app
  dsimp only
  split
  · trivial
  · exact h

theorem costs_guardUid {body : Uid → Program Image Data} (h : ∀ uid, (body uid).Costs n) :
    (guardUid body).Costs n := by
  intro app
  dsimp only
  split
  · exact h _
  · trivial

theorem costs_guardUser {body : ℕ → AuthUser → Program Image Data}
    (h : ∀ user authUser, (body user authUser).Costs n) : (guardUser body).Costs n := by
  intro app
  dsimp only
  split
  · exact h _ _
  · trivial

theorem costs_pushViewController {screen : Screen} {viewDidLoad : Controller → Program Image Data}
    (h : ∀ controller, (viewDidLoad controller).Costs n) :
    (pushViewController self screen viewDidLoad).Costs n := by
  intro app
  dsimp only
  split
  · exact h _
  · trivial

theorem costs_getUser {uid : Uid} {completion : User → Program Image Data}
    {completionError : Option NSError → Program Image Data}
    (h : ∀ user, (completion user).Costs n) (herror : ∀ error, (completionError error).Costs n) :
    (getUser place self uid completion completionError).Costs (n + 1) := by
  apply costs_send
  intro a
  match a with
  | .error error => exact herror _
  | .ok none => exact herror _
  | .ok (some document) =>
      dsimp only [getDocumentHandler, User.ofSnapshot]
      split
      · exact h _
      · exact herror _

/-- A load that keeps the user and reports an error. -/
theorem costs_load {uid : Uid} {completionError : Option NSError → Program Image Data}
    (herror : ∀ error, (completionError error).Costs 0) :
    (getUser place self uid setSharedUser completionError).Costs 1 :=
  costs_getUser (fun _ => trivial) herror

theorem costs_error {title msg : Option String} :
    (weakly self (showErrorWith self title msg) : Program Image Data).Costs n :=
  costs_weakly trivial

theorem costs_updateUser {user : User} {completion : Program Image Data}
    {completionError : Option NSError → Program Image Data} (h : completion.Costs n)
    (herror : ∀ error, (completionError error).Costs n) :
    (UserManager.updateUser place self user completion completionError).Costs (n + 1) := by
  unfold UserManager.updateUser
  split
  · apply costs_send
    intro error
    cases error with
    | some error => exact herror _
    | none => exact h
  · exact (herror none).mono (Nat.le_succ n)

theorem costs_uploadProfileImage {image : Image} :
    (uploadProfileImage ios place self image .done (fun _ => .done)).Costs 3 := by
  apply costs_guardUid
  intro uid
  dsimp only
  split
  · trivial
  · apply costs_send
    intro error
    cases error with
    | some error => trivial
    | none =>
        apply costs_send
        intro response
        cases response with
        | error error => trivial
        | ok url =>
            have hsave : (savePhotoReferenceForUser self (StorageReference.photo uid).description
                url : Program Image Data).Costs 1 :=
              costs_guardUid fun _ => costs_send fun _ => Callback.Prog.costs_done
            exact hsave.append_free Callback.Prog.costs_done

theorem costs_uploadImage {image : Image} {uid : Uid}
    {completion : Option String → Option NSError → Program Image Data}
    (h : ∀ url error, (completion url error).Costs n) :
    (uploadImage ios place self image uid completion).Costs (n + 2) := by
  dsimp only [uploadImage]
  split
  · exact (h none none).mono (by omega)
  · apply costs_send
    intro error
    cases error with
    | some error => exact (h none none).mono (Nat.le_succ n)
    | none =>
        apply costs_send
        intro response
        cases response with
        | error error => exact h _ _
        | ok url => exact h _ _

/-! ## Screens -/

theorem costs_deadlineSignedIn :
    (SplashViewController.deadlineSignedIn self : Program Image Data).Costs 1 := by
  have hload : (SplashViewController.loadUser self : Program Image Data).Costs 1 :=
    costs_guardUid fun _ => costs_getUser (fun _ => costs_weakly trivial) fun _ => trivial
  refine hload.append_free (costs_guardUser fun user authUser => ?_)
  split
  · trivial
  · trivial

theorem costs_splash : (SplashViewController.viewDidLoad self : Program Image Data).Costs 2 := by
  intro app
  dsimp only
  split
  · exact costs_send fun _ => costs_deadlineSignedIn
  · exact costs_send fun _ => Callback.Prog.costs_modify

theorem costs_signedIn (response : Except NSError AuthUser) :
    (WelcomeViewController.signedIn self response : Program Image Data).Costs 1 := by
  cases response with
  | error error =>
      apply costs_weakly
      unfold WelcomeViewController.signInFailed
      split
      · trivial
      · split
        · trivial
        · trivial
  | ok user =>
      have hload : (WelcomeViewController.getUser self user.uid : Program Image Data).Costs 1 :=
        costs_load fun _ => costs_error
      apply costs_weakly
      apply Callback.Prog.Costs.append_free
      · exact hload.append_free Callback.Prog.costs_modify
      · trivial

theorem costs_loginAction {email password : String} :
    (WelcomeViewController.loginAction ios self email password).Costs 2 := by
  unfold WelcomeViewController.loginAction WelcomeViewController.validateFields
  split
  · trivial
  · intro app
    dsimp only
    split
    · have hsignIn : (send .welcomeSignIn self (.signIn email password)
          (WelcomeViewController.signedIn self) : Program Image Data).Costs 2 :=
        costs_send (n := 1) fun a => costs_signedIn a
      exact Callback.Prog.Costs.free_append Callback.Prog.costs_modify hsignIn
    · apply costs_guardUid
      intro uid
      apply Callback.Prog.Costs.append (m := 1) (n := 1)
      · exact costs_load fun _ => costs_error
      · apply costs_getUser
        · exact fun _ => costs_weakly trivial
        · intro error
          cases error with
          | some error => exact costs_error
          | none => exact costs_error

theorem costs_uploadImage_register :
    (RegisterViewController.uploadImage ios self : Program Image Data).Costs 3 := by
  intro app
  dsimp only
  split
  · exact costs_uploadProfileImage
  · trivial

theorem costs_userSaved (user : User) (saved : Bool) :
    (RegisterViewController.userSaved ios self user saved).Costs 4 := by
  cases saved with
  | false => trivial
  | true =>
      have hphoto : (setSharedUser user ++
          weakly self (RegisterViewController.uploadImage ios self)).Costs 3 :=
        Callback.Prog.Costs.free_append Callback.Prog.costs_modify
          (costs_weakly costs_uploadImage_register)
      have hmail : (guardUser (fun user authUser => send .registerSendMail self
          (.sendEmailVerification user authUser.uid) (RegisterViewController.mailSent self)) :
          Program Image Data).Costs 1 :=
        costs_guardUser fun _ _ => costs_send fun response => by
          cases response with
          | error failure => exact costs_error
          | ok _ => trivial
      apply (hphoto.append hmail).append_free
      exact costs_weakly (costs_pushViewController fun _ => trivial)

theorem costs_createUser {uid : Uid} {user : User} {completion : User → Bool → Program Image Data}
    (h : ∀ user saved, (completion user saved).Costs n) :
    (UserManager.createUser place self uid user completion).Costs (n + 1) := by
  intro app
  apply costs_send
  intro error
  cases error with
  | some error => exact h _ false
  | none => exact h _ true

theorem costs_saveUser {uid : Uid} : (RegisterViewController.saveUser ios self uid).Costs 5 := by
  intro _ _ app
  exact costs_createUser costs_userSaved

theorem costs_userCreated (response : Except CreationFailure AuthUser) :
    (RegisterViewController.userCreated ios self response).Costs 5 := by
  cases response with
  | error failure => exact costs_error
  | ok user => exact costs_weakly costs_saveUser

theorem costs_createUser_register {email password : String} :
    (RegisterViewController.createUser ios self email password).Costs 7 := by
  have hcreate : (send .registerCreateUser self (.createUser email password)
      (RegisterViewController.userCreated ios self) : Program Image Data).Costs 6 :=
    costs_send (n := 5) fun response => costs_userCreated response
  apply hcreate.append (n := 1)
  intro app
  dsimp only
  split
  · apply costs_guardUid
    intro uid
    apply costs_createUser
    intro user saved
    cases saved with
    | true => exact costs_weakly (costs_pushViewController fun _ => trivial)
    | false => trivial
  · trivial

theorem costs_registerAction : (RegisterViewController.registerAction ios self).Costs 7 := by
  intro app
  dsimp only
  split
  · trivial
  · apply Callback.Prog.Costs.append_free
    · exact Callback.Prog.Costs.free_append Callback.Prog.costs_modify costs_createUser_register
    · trivial

theorem costs_sendEmailVerification :
    (EmailVerificationViewController.sendEmailVerification self : Program Image Data).Costs 1 := by
  apply Callback.Prog.Costs.free_append Callback.Prog.costs_modify
  apply costs_guardUser
  intro user authUser
  apply costs_send
  intro response
  cases response with
  | error failure => exact costs_weakly trivial
  | ok _ => exact costs_weakly trivial

theorem costs_downloadedHandler (image : Option Image) :
    (UIImageView.downloadedHandler self image : Program Image Data).Costs n := by
  cases image with
  | some image => exact costs_weakly trivial
  | none => trivial

theorem costs_loadPhoto {placeholder : String} {user : User} :
    (UIImageView.loadPhoto ios self placeholder user).Costs 2 := by
  unfold UIImageView.loadPhoto
  split
  · apply Callback.Prog.Costs.free_append Callback.Prog.costs_modify
    split
    · apply costs_send
      intro image
      apply (costs_downloadedHandler (n := 0) image).free_append
      exact costs_send fun image => costs_downloadedHandler image
    · apply costs_send
      exact fun image => costs_downloadedHandler image
    · trivial
  · trivial

theorem costs_showUser {placeholder : String} {user : User} :
    (showUser ios self placeholder user).Costs 2 :=
  Callback.Prog.Costs.free_append Callback.Prog.costs_modify (costs_weakly costs_loadPhoto)

theorem costs_welcomeInfo :
    (WelcomeInfoViewController.viewWillAppear ios self).Costs 4 := by
  apply costs_send
  intro _
  apply Callback.Prog.Costs.append_free
  · apply Callback.Prog.Costs.free_append Callback.Prog.costs_modify
    exact costs_guardUid fun _ => costs_getUser (fun _ => costs_showUser) fun _ => costs_error
  · trivial

theorem costs_checkEmailVerification :
    (EmailVerificationViewController.checkEmailVerification ios self).Costs 5 := by
  apply Callback.Prog.Costs.free_append Callback.Prog.costs_modify
  apply costs_guardUser
  intro user authUser
  apply costs_send
  intro _ app
  dsimp only
  split
  · apply costs_weakly
    apply Callback.Prog.Costs.free_append Callback.Prog.costs_modify
    exact costs_pushViewController fun _ => costs_welcomeInfo
  · exact costs_weakly trivial

theorem costs_onBack :
    (EmailVerificationViewController.onBack self : Program Image Data).Costs 3 := by
  apply costs_guardUser
  intro user authUser
  apply costs_send
  intro _ app
  dsimp only
  split
  · exact costs_weakly trivial
  · have hdelete : (send .verificationBackDelete self (.delete user authUser.uid)
        (EmailVerificationViewController.userDeleted self) : Program Image Data).Costs 1 :=
      costs_send fun response => by
        cases response with
        | error failure => exact costs_error
        | ok _ => trivial
    apply hdelete.append (n := 1)
    apply costs_guardUid
    intro uid
    apply Callback.Prog.Costs.append_free
    · apply costs_weakly
      intro app
      dsimp only
      split
      · apply costs_send
        intro error
        cases error with
        | some error => exact costs_error
        | none => trivial
      · trivial
    · exact costs_weakly trivial

/-! ## The member area -/

theorem costs_loadUserData :
    (ProfileViewController.loadUserData ios self).Costs 3 :=
  costs_guardUid fun _ => costs_getUser (fun _ => costs_showUser) fun _ => costs_error

theorem costs_backToLoginScreen :
    (ProfileViewController.backToLoginScreen self : Program Image Data).Costs 2 :=
  costs_pushViewController fun _ => costs_splash

theorem costs_confirmLogOut :
    (ProfileViewController.confirmLogOut self : Program Image Data).Costs 2 := by
  apply costs_weakly
  apply Callback.Prog.Costs.free_append Callback.Prog.costs_modify
  intro app
  dsimp only
  split
  · exact Callback.Prog.Costs.free_append trivial costs_backToLoginScreen
  · trivial

theorem costs_deleted (error : Option NSError) :
    (ProfileViewController.deleted self error : Program Image Data).Costs n := by
  cases error with
  | some error => trivial
  | none => trivial

theorem costs_confirmDelete :
    (ProfileViewController.confirmDelete self : Program Image Data).Costs 5 := by
  have hauth : (ProfileViewController.deleteAccountFromAuth self : Program Image Data).Costs 1 :=
    costs_guardUser fun _ _ => Callback.Prog.Costs.free_append Callback.Prog.costs_modify
      (costs_send fun response => by
        cases response with
        | error failure => exact costs_error
        | ok _ => trivial)
  have hdocument : (ProfileViewController.deleteAccountFromDatabase self :
      Program Image Data).Costs 1 :=
    costs_guardUid fun _ => costs_send fun error => by
      cases error with
      | some error =>
          dsimp only [deleteAccountHandler]
          exact costs_deleted _
      | none => trivial
  have hphoto : (ProfileViewController.deleteUserPhoto self : Program Image Data).Costs 1 :=
    costs_guardUid fun _ => costs_send fun error => costs_deleted error
  exact costs_weakly (((hauth.append hdocument).append hphoto).append costs_backToLoginScreen)

theorem costs_profileInfoClick :
    (ProfileViewController.profileInfoClick ios self).Costs 3 := by
  apply costs_pushViewController
  intro controller
  apply Callback.Prog.Costs.free_append Callback.Prog.costs_modify
  apply Callback.Prog.Costs.free_append Callback.Prog.costs_modify
  apply costs_guardUid
  intro uid
  apply costs_getUser
  · intro user
    apply Callback.Prog.Costs.free_append Callback.Prog.costs_modify
    exact costs_weakly (costs_loadPhoto.append_free Callback.Prog.costs_modify)
  · exact fun _ => costs_error

theorem costs_saveUserPhoto {uid : Uid} :
    (ProfileInformationViewController.saveUserPhoto ios self uid).Costs 3 := by
  intro now app
  apply costs_uploadImage
  intro url error
  cases error with
  | some error => trivial
  | none =>
      cases url with
      | none => trivial
      | some url =>
          dsimp only [ProfileInformationViewController.photoUploaded]
          apply costs_updateUser
          · trivial
          · intro error
            cases error with
            | some error => trivial
            | none => trivial

theorem costs_saveUser_information {uid : Uid} :
    (ProfileInformationViewController.saveUser self uid : Program Image Data).Costs 1 := by
  apply Callback.Prog.Costs.free_append Callback.Prog.costs_modify
  intro _ _ app
  exact costs_updateUser trivial fun _ => trivial

theorem costs_updateUser_information :
    (ProfileInformationViewController.updateUser ios self).Costs 5 := by
  apply costs_guardUser
  intro user authUser
  apply costs_send
  intro error
  cases error with
  | some error => exact costs_error
  | none =>
      exact (costs_weakly costs_saveUserPhoto).append (costs_weakly costs_saveUser_information)

theorem costs_updateAccount :
    (ProfileInformationViewController.updateAccount ios self).Costs 5 := by
  apply Callback.Prog.Costs.append_free
  · apply Callback.Prog.Costs.append_free
    · exact costs_updateUser_information.append_free Callback.Prog.costs_modify
    · trivial
  · trivial

theorem costs_photoLibrary :
    (ProfileInformationViewController.photoLibrary ios self).Costs 3 := by
  intro app
  dsimp only
  split
  · exact costs_uploadProfileImage
  · trivial

theorem costs_didFinishPicking {image : Image} :
    (ProfileInformationViewController.didFinishPicking ios self image).Costs 5 := by
  apply Callback.Prog.Costs.append_free
  · exact Callback.Prog.Costs.free_append (Callback.Prog.Costs.append_free trivial trivial)
      costs_updateUser_information
  · trivial

/-! ## Events and runs -/

/-- The most requests that an act can lead to. -/
def requests : Act Image → ℕ
  | .logIn _ _ _ => 2
  | .register _ _ => 7
  | .resend _ => 1
  | .checkVerification _ => 5
  | .back _ => 3
  | .selectTab _ => 6
  | .profileInfo _ => 3
  | .confirm => 5
  | .library _ => 3
  | .pick _ _ => 5
  | .update _ => 5
  | .appear _ => 4
  | _ => 0

theorem costs_back : (back self : Program Image Data).Costs 3 := by
  unfold back
  split
  · trivial
  · trivial
  · exact costs_onBack
  · trivial
  · trivial
  · trivial

theorem costs_viewWillAppear : (viewWillAppear ios self).Costs 4 := by
  unfold viewWillAppear
  split
  · exact costs_loadUserData.mono (Nat.le_succ 3)
  · exact costs_welcomeInfo
  · trivial

theorem costs_whenInFront {app : App Image} {screen : Screen} {p q : Program Image Data}
    (h : whenInFront app self screen p = some q) (hp : p.Costs n) : q.Costs n := by
  unfold whenInFront at h
  split at h
  · cases h
    exact hp
  · cases h

theorem costs_act {e : Act Image} {app : App Image} {p : Program Image Data}
    (h : act ios e app = some p) : p.Costs (requests e) := by
  cases e with
  | logIn self email password => exact costs_whenInFront h costs_loginAction
  | createAccount self =>
      exact costs_whenInFront h (costs_pushViewController fun _ => Callback.Prog.costs_modify)
  | fill self fields => exact costs_whenInFront h trivial
  | register self fields =>
      exact costs_whenInFront h
        (Callback.Prog.Costs.free_append Callback.Prog.costs_modify costs_registerAction)
  | resend self => exact costs_whenInFront h costs_sendEmailVerification
  | checkVerification self => exact costs_whenInFront h costs_checkEmailVerification
  | start self => exact costs_whenInFront h trivial
  | back self =>
      simp only [act] at h
      split at h
      · cases h
        exact costs_back
      · cases h
  | swipeBack =>
      cases h
      trivial
  | selectTab tab =>
      simp only [act, AppRuns.selectTab] at h
      split at h
      · split at h
        · split at h
          · cases h
            apply Callback.Prog.Costs.append (m := 3) (n := 3)
            · exact Callback.Prog.Costs.free_append Callback.Prog.costs_modify costs_loadUserData
            · exact costs_loadUserData
          · cases h
            trivial
        · cases h
      · cases h
  | profileInfo self => exact costs_whenInFront h costs_profileInfoClick
  | logOut self => exact costs_whenInFront h trivial
  | deleteAccount self =>
      apply costs_whenInFront h
      intro app
      dsimp only
      split
      · trivial
      · trivial
  | dismiss =>
      cases h
      trivial
  | confirm =>
      simp only [act, AppRuns.confirm] at h
      split at h
      · cases h
        apply Callback.Prog.Costs.free_append Callback.Prog.costs_modify
        have hle : 2 ≤ 5 := by omega
        exact costs_confirmLogOut.mono hle
      · cases h
        exact Callback.Prog.Costs.free_append Callback.Prog.costs_modify costs_confirmDelete
      · cases h
  | edit self firstName lastName about => exact costs_whenInFront h trivial
  | library self => exact costs_whenInFront h costs_photoLibrary
  | pick self image => exact costs_whenInFront h costs_didFinishPicking
  | update self => exact costs_whenInFront h costs_updateAccount
  | appear self =>
      simp only [act] at h
      split at h
      · cases h
        exact costs_viewWillAppear
      · cases h
  | release self =>
      simp only [act] at h
      split at h
      · cases h
      · cases h
        trivial
  | keychain error =>
      cases h
      trivial

def cost : AppRuns.Event Image Data → ℕ
  | .app e => e.cost requests
  | .outside _ => 0

variable {w w' : World Image Data} {es : List (AppRuns.Event Image Data)}
  {server : Server Data} {keptUser : Option AuthUser} {clock : Clock}

theorem spends_step {e : AppRuns.Event Image Data} (h : w.Spends n)
    (hstep : AppRuns.step ios w e = some w') : w'.Spends (n + cost e) := by
  cases e with
  | outside server =>
      cases hstep
      exact h
  | app e =>
      have hact (e : Act Image) (app : App Image) (p : Program Image Data)
          (hp : act ios e app = some p) : p.Costs (requests e) := costs_act hp
      exact Callback.spends_of_step (service Image Data) hact h hstep

theorem spends_run (hrun : EventRun.run (AppRuns.step ios) w es = some w') (h : w.Spends n) :
    w'.Spends (n + (es.map cost).sum) := by
  induction es generalizing w n with
  | nil =>
      cases hrun
      exact h
  | cons e es ih =>
      obtain ⟨v, hstep, hrest⟩ := Option.bind_eq_some_iff.mp hrun
      have hspends := ih hrest (spends_step h hstep)
      rw [List.map_cons, List.sum_cons, ← Nat.add_assoc]
      exact hspends

theorem spends_launched : (launched server keptUser clock : World Image Data).Spends 2 :=
  (Callback.World.spends_start server (App.launch keptUser clock)).exec costs_splash

/-- The responses with the places of the requests that they answer. -/
def arrivals (answers : List (ℕ × Outcome Image)) : List (AppRuns.Event Image Data) :=
  answers.map (fun answer => .app (.complete answer.1 answer.2))

theorem journal_length_of_arrivals {answers : List (ℕ × Outcome Image)}
    (hrun : EventRun.run (AppRuns.step ios) w (arrivals answers) = some w') :
    w'.journal.length = w.journal.length + answers.length := by
  induction answers generalizing w with
  | nil =>
      cases hrun
      rfl
  | cons answer answers ih =>
      obtain ⟨v, hstep, hrest⟩ := Option.bind_eq_some_iff.mp hrun
      obtain ⟨p, _, rfl⟩ := (Callback.step_complete (service Image Data) (act ios)).mp hstep
      rw [ih hrest, Callback.World.respond, Callback.World.exec_journal, List.length_append,
        List.length_singleton, List.length_cons]
      omega

/-- The requests of a run are bounded by its taps, and so are the responses that can still arrive
when nothing more is tapped. -/
theorem requests_of_run
    (hrun : EventRun.run (AppRuns.step ios) (launched server keptUser clock) es = some w) :
    w.calls.length ≤ 2 + (es.map cost).sum ∧
      ∀ answers w', EventRun.run (AppRuns.step ios) w (arrivals answers) = some w' →
        w.journal.length + answers.length ≤ 2 + (es.map cost).sum := by
  have hspends := spends_run hrun spends_launched
  refine ⟨hspends.calls_length, fun answers w' hanswers => ?_⟩
  have hfree : ((arrivals answers : List (AppRuns.Event Image Data)).map cost).sum = 0 := by
    simp [arrivals, cost, Callback.Event.cost, Function.comp_def]
  have hlater := spends_run hanswers hspends
  rw [hfree] at hlater
  obtain ⟨left, _, hsum⟩ := hlater
  have hlength := journal_length_of_arrivals hanswers
  omega

theorem requests_of_run_kept : ∃ w, EventRun.run (AppRuns.step Platform.transparent)
      (launched Server.empty (some Account.ana.user)) [.app (.complete 0 .success)] = some w ∧
    w.calls.length ≤ 2 ∧
    ∀ answers w', EventRun.run (AppRuns.step Platform.transparent) w (arrivals answers) =
      some w' → w.journal.length + answers.length ≤ 2 := by
  obtain ⟨w, hrun⟩ : ∃ w, EventRun.run (AppRuns.step Platform.transparent)
      (launched Server.empty (some Account.ana.user)) [.app (.complete 0 .success)] = some w :=
    ⟨_, rfl⟩
  exact ⟨w, hrun, requests_of_run hrun⟩

end GiveMeMovies.RequestBounds
