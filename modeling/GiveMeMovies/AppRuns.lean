import GiveMeMovies.MemberArea
import GiveMeMovies.ProfileController
import GiveMeMovies.WelcomeController

/-!
# Runs of the app

The app is launched on the splash screen with the user that the keychain kept. An event is
something the user does on the screen in front, something the system does, the arrival of a
response, or a change on the server that comes from elsewhere, such as a verification link that
is followed.
-/

namespace GiveMeMovies

namespace App

variable {Image : Type}

/-- `isEmailVerified` of the signed-in user, if there is one. -/
def verified (app : App Image) : Bool := app.authUser.any AuthUser.isEmailVerified

def swipeBack (app : App Image) : App Image := { app with levels := app.levels.swipeBack }

def dismissAlert (app : App Image) : App Image := { app with levels := app.levels.dismissAlert }

/-- The tab bar on top selects `tab`, with the stack `stack` in the Profile tab. -/
def selectTab (tab : Tab) (stack : List Controller) (app : App Image) : App Image :=
  { app with levels := .tabBar tab stack :: app.levels.tail }

/-- A new Profile screen becomes the root of its tab. -/
def showProfile (app : App Image) : App Image :=
  { app.selectTab .profile [⟨app.nextController, .profile⟩] with
    nextController := app.nextController + 1 }

end App

namespace AppRuns

open Program

variable {Image Data : Type} (ios : Platform Image Data)

inductive Act (Image : Type) where
  | logIn (self : Controller) (email password : String)
  | createAccount (self : Controller)
  | fill (self : Controller) (fields : RegisterFields Image)
  | register (self : Controller) (fields : RegisterFields Image)
  | resend (self : Controller)
  | checkVerification (self : Controller)
  | start (self : Controller)
  | back (self : Controller)
  | swipeBack
  | selectTab (tab : Tab)
  | profileInfo (self : Controller)
  | logOut (self : Controller)
  | deleteAccount (self : Controller)
  | dismiss
  | confirm
  | edit (self : Controller) (firstName lastName about : String)
  | library (self : Controller)
  | pick (self : Controller) (image : Image)
  | update (self : Controller)
  | appear (self : Controller)
  | release (self : Controller)
  | keychain (error : Option NSError)

/-- The screen `self`, of class `screen`, is in front, and so is still in memory. -/
def inFront (app : App Image) (self : Controller) (screen : Screen) : Bool :=
  app.levels.isFront self && self.screen = screen && !app.released self

theorem inFront_iff {app : App Image} {self : Controller} {screen : Screen} :
    inFront app self screen = true ↔
      app.levels.isFront self = true ∧ self.screen = screen ∧ app.released self = false := by
  simp [inFront, and_assoc]

/-- The back button of a screen. -/
def back (self : Controller) : Program Image Data :=
  match self.screen with
  | .welcome => WelcomeViewController.onBack self
  | .register => RegisterViewController.onBack self
  | .emailVerification => EmailVerificationViewController.onBack self
  | .welcomeInfo => WelcomeInfoViewController.onBack self
  | .profileInformation => ProfileInformationViewController.onBack self
  | _ => .done

def viewWillAppear (self : Controller) : Program Image Data :=
  match self.screen with
  | .profile => ProfileViewController.viewWillAppear ios self
  | .welcomeInfo => WelcomeInfoViewController.viewWillAppear ios self
  | _ => .done

/-- A tab of the member area is selected. The view of the Profile screen is loaded when it is
first shown. -/
def selectTab (tab : Tab) (app : App Image) : Option (Program Image Data) :=
  match app.levels with
  | .tabBar selected stack :: _ =>
      if (Level.tabBar selected stack).isMemberArea then
        if tab = .profile ∧ stack = [] then
          let profile : Controller := ⟨app.nextController, .profile⟩
          some (.modify App.showProfile ++ ProfileViewController.viewDidLoad ios profile ++
            ProfileViewController.viewWillAppear ios profile)
        else some (.modify (App.selectTab tab stack))
      else none
  | _ => none

/-- The action of the dialog on top, which is dismissed first. -/
def confirm (app : App Image) : Option (Program Image Data) :=
  match app.levels with
  | .alert owner .logOut :: _ =>
      some (.modify App.dismissAlert ++ ProfileViewController.confirmLogOut owner)
  | .alert owner .deleteAccount :: _ =>
      some (.modify App.dismissAlert ++ ProfileViewController.confirmDelete owner)
  | _ => none

/-- `f` of the screen `self`, when it is in front. -/
def whenInFront (app : App Image) (self : Controller) (screen : Screen)
    (program : Program Image Data) : Option (Program Image Data) :=
  if inFront app self screen then some program else none

def act : Act Image → App Image → Option (Program Image Data)
  | .logIn self email password, app => whenInFront app self .welcome
      (WelcomeViewController.loginAction ios self email password)
  | .createAccount self, app => whenInFront app self .welcome
      (WelcomeViewController.createAccountAction ios self)
  | .fill self fields, app => whenInFront app self .register
      (.modify (App.setRegister self { toRegisterFields := fields }))
  | .register self fields, app => whenInFront app self .register
      (.modify (App.setRegister self { toRegisterFields := fields }) ++
        RegisterViewController.registerAction ios self)
  | .resend self, app => whenInFront app self .emailVerification
      (EmailVerificationViewController.sendEmailVerification self)
  | .checkVerification self, app => whenInFront app self .emailVerification
      (EmailVerificationViewController.checkEmailVerification ios self)
  | .start self, app => whenInFront app self .welcomeInfo
      (WelcomeInfoViewController.startButtonAction self)
  | .back self, app => if app.levels.isFront self then some (back self) else none
  | .swipeBack, _ => some (.modify App.swipeBack)
  | .selectTab tab, app => selectTab ios tab app
  | .profileInfo self, app => whenInFront app self .profile
      (ProfileViewController.profileInfoClick ios self)
  | .logOut self, app => whenInFront app self .profile (ProfileViewController.logoutAlert self)
  | .deleteAccount self, app => whenInFront app self .profile
      (ProfileViewController.deleteAccount self)
  | .dismiss, _ => some (.modify App.dismissAlert)
  | .confirm, app => confirm app
  | .edit self firstName lastName about, app => whenInFront app self .profileInformation
      (ProfileInformationViewController.setForm self (fun form =>
        { form with firstName := firstName, lastName := lastName, about := about }))
  | .library self, app => whenInFront app self .profileInformation
      (ProfileInformationViewController.photoLibrary ios self)
  | .pick self image, app => whenInFront app self .profileInformation
      (ProfileInformationViewController.didFinishPicking ios self image)
  | .update self, app => whenInFront app self .profileInformation
      (ProfileInformationViewController.updateAccount ios self)
  | .appear self, app => if app.levels.isFront self then some (viewWillAppear ios self) else none
  | .release self, app => if app.levels.holds self then none else some (.modify (App.release self))
  | .keychain error, _ => some (.modify (fun app => { app with keychainError := error }))

inductive Event (Image Data : Type) where
  | app (e : Callback.Event (Act Image) (Outcome Image))
  | outside (server : Server Data)

def step (w : World Image Data) : Event Image Data → Option (World Image Data)
  | .app e => Callback.step (service Image Data) (act ios) w e
  | .outside server => some { w with server := server }

/-- Where the request at place `n` in flight is after events that do not answer it. -/
def follow (n : ℕ) : List (Event Image Data) → Option ℕ
  | [] => some n
  | .app e :: es => (e.follow n).bind (fun n => follow n es)
  | .outside _ :: es => follow n es

/-- A run that does not answer the request at place `n` is the same whatever that request is. -/
theorem run_replace {w w' : World Image Data} {es : List (Event Image Data)} {n n' : ℕ}
    (q : Pending Image Data) (hn : n < w.inFlight.length)
    (hrun : EventRun.run (step ios) w es = some w') (hfollow : follow n es = some n') :
    EventRun.run (step ios) (w.replace n q) es = some (w'.replace n' q) ∧
      n' < w'.inFlight.length := by
  induction es generalizing w n with
  | nil =>
      cases hrun
      cases hfollow
      exact ⟨rfl, hn⟩
  | cons e es ih =>
      obtain ⟨v, hstep, hrest⟩ := Option.bind_eq_some_iff.mp hrun
      rw [EventRun.run_cons]
      cases e with
      | outside server =>
          cases hstep
          obtain ⟨hreplaced, hbound⟩ := ih (w := { w with server := server }) hn hrest hfollow
          exact ⟨hreplaced, hbound⟩
      | app e =>
          obtain ⟨m, hm, hrestFollow⟩ := Option.bind_eq_some_iff.mp hfollow
          obtain ⟨hfirst, hbound⟩ :=
            Callback.step_replace (service Image Data) (act ios) q hn hstep hm
          obtain ⟨hreplaced, hlast⟩ := ih hbound hrest hrestFollow
          rw [step, hfirst]
          exact ⟨hreplaced, hlast⟩

/-- The request is still the one that was sent. -/
theorem getElem?_follow {w w' : World Image Data} {es : List (Event Image Data)} {n n' : ℕ}
    {p : Pending Image Data} (hp : w.inFlight[n]? = some p)
    (hrun : EventRun.run (step ios) w es = some w') (hfollow : follow n es = some n') :
    w'.inFlight[n']? = some p := by
  obtain ⟨hn, hget⟩ := List.getElem?_eq_some_iff.mp hp
  have hsame : w.replace n p = w := by
    rw [Callback.World.replace, ← hget, List.set_getElem_self]
  obtain ⟨hreplaced, hbound⟩ := run_replace ios p hn hrun hfollow
  rw [hsame, hrun] at hreplaced
  rw [Option.some.inj hreplaced, Callback.World.replace, List.getElem?_set_self hbound]

def splash : Controller := ⟨0, .splash⟩

/-- The app has just been launched. -/
def launched (server : Server Data) (keptUser : Option AuthUser) (clock : Clock := .stopped) :
    World Image Data :=
  (Callback.World.start server (App.launch keptUser clock)).exec
    (SplashViewController.viewDidLoad splash)

end AppRuns

end GiveMeMovies
