import Mathlib.Data.List.Infix
import Mathlib.Data.Rat.Defs
import GiveMeMovies.CallbackProgram
import GiveMeMovies.Server
import GiveMeMovies.UIKit

/-!
# The app process

`App` is the state of the app: the signed-in user kept by the authentication library, the shared
user of `UserManager`, the controllers on the screen and the contents of their views. A program
of the app is a callback program over it. Every request carries the place in the source that
sends it and the controller that sends it, so that a run can be described; no program reads
them.
-/

namespace GiveMeMovies

/-- What the app takes from the system: the encoder of images at a compression quality, the one
image of the asset catalog that it shows in place of a photo, the string operations, which go by
grapheme clusters and canonical equivalence, and the parser of `URL(string:)`. -/
structure Platform (Image Data : Type) where
  jpegData : Image → ℚ → Option Data
  placeholderPerson : Image
  count : String → ℕ
  contains : String → String → Bool
  equal : String → String → Bool
  isURL : String → Bool

/-- `UIImage(named:)`. The catalog has no image called `userPlaceholder`. -/
def Platform.named {Image Data : Type} (ios : Platform Image Data) (name : String) :
    Option Image :=
  if name = "placeholder-person" then some ios.placeholderPerson else none

/-- What the user fills in on the Register screen. -/
structure RegisterFields (Image : Type) where
  firstNameTxt : String := ""
  lastNameTxt : String := ""
  emailTxt : String := ""
  passTxt : String := ""
  confirmPassTxt : String := ""
  aboutMeTxt : String := ""
  userImage : Option Image := none

/-- The Register screen, whose `user` no code of the app sets. -/
structure RegisterForm (Image : Type) extends RegisterFields Image where
  user : Option User := none

/-- The fields of the Profile Information screen. Of the other screens with the photo of the
profile only `userPhoto` is used, for the image view that shows it. -/
structure ProfileForm (Image : Type) where
  firstName : String := ""
  lastName : String := ""
  about : String := ""
  userPhoto : Option Image := none
  userPhotoIsHidden : Bool := false
  pickedImage : Option Image := none
  user : Option User := none
  delegate : Option Controller := none

/-- What the coming calls of `Date()` give. The clock of the device is not set back. -/
structure Clock where
  date : ℕ → Date
  mono : ∀ i j, i ≤ j → date i ≤ date j

namespace Clock

def stopped : Clock := ⟨fun _ => 0, fun _ _ _ => Int.le_refl 0⟩

/-- A clock on which every call gives a later date. -/
def running : Clock := ⟨fun n => n, fun _ _ => Int.ofNat_le.mpr⟩

def tail (clock : Clock) : Clock :=
  ⟨fun n => clock.date (n + 1), fun i j h => clock.mono (i + 1) (j + 1) (Nat.succ_le_succ h)⟩

end Clock

structure App (Image : Type) where
  authUsers : List AuthUser
  currentUser : Option ℕ
  keychainError : Option NSError
  sharedUser : Option User
  clock : Clock
  levels : Levels
  nextController : ℕ
  released : Controller → Bool
  alerts : List (Controller × Option String × Option String)
  messages : List Controller
  activityView : Option ℕ
  overlays : List (ℕ × Controller)
  nextOverlay : ℕ
  register : Controller → RegisterForm Image
  profileForm : Controller → ProfileForm Image

/-- A platform on which an encoding shows the image and the quality. Its string operations are
those of ASCII texts. -/
def Platform.transparent : Platform ℕ (ℕ × ℚ) where
  jpegData image quality := some (image, quality)
  placeholderPerson := 0
  count := String.length
  contains text part := part.toList <:+: text.toList
  equal text text' := text = text'
  isURL text := text ≠ ""

namespace App

variable {Image : Type}

/-- The process at its start, with the user that the keychain kept signed in. -/
def launch (keptUser : Option AuthUser) (clock : Clock := .stopped) : App Image where
  authUsers := keptUser.toList
  currentUser := keptUser.map (fun _ => 0)
  keychainError := none
  sharedUser := none
  clock := clock
  levels := [.single ⟨0, .splash⟩]
  nextController := 1
  released := fun _ => false
  alerts := []
  messages := []
  activityView := none
  overlays := []
  nextOverlay := 0
  register := fun _ => {}
  profileForm := fun _ => {}

instance : Inhabited (App Image) := ⟨launch none⟩

def tick (app : App Image) : App Image := { app with clock := app.clock.tail }

/-- `Auth.auth().currentUser` -/
def authUser (app : App Image) : Option AuthUser :=
  app.currentUser.bind (fun user => app.authUsers[user]?)

def currentUid (app : App Image) : Option Uid := app.authUser.map AuthUser.uid

/-- `user.isEmailVerified` of a user object. -/
def isEmailVerified (app : App Image) (user : ℕ) : Bool :=
  app.authUsers[user]?.any AuthUser.isEmailVerified

def signedIn (user : AuthUser) (app : App Image) : App Image :=
  { app with
    authUsers := app.authUsers ++ [user]
    currentUser := some app.authUsers.length }

def setEmailVerified (user : ℕ) (verified : Bool) (app : App Image) : App Image :=
  { app with
    authUsers := app.authUsers.modify user (fun u => { u with isEmailVerified := verified }) }

/-- `signOutByForceWithUserID`, which compares the id objects and so the user objects. -/
def signOutByForce (user : ℕ) (app : App Image) : App Image :=
  if app.currentUser = some user then { app with currentUser := none } else app

/-- `signOutIfTokenIsInvalidWithError` of the signed-in user. -/
def signOutIfTokenIsInvalid (error : NSError) (app : App Image) : App Image :=
  if error.tokenIsInvalid then { app with currentUser := none } else app

/-- `try Auth.auth().signOut()` keeps the user when the keychain refuses. -/
def signOut (app : App Image) : App Image :=
  if app.keychainError.isSome then app else { app with currentUser := none }

@[simp] theorem currentUid_signedIn (user : AuthUser) (app : App Image) :
    (app.signedIn user).currentUid = some user.uid := by
  simp [currentUid, authUser, signedIn]

theorem currentUid_signOutByForce (user : ℕ) (app : App Image) :
    (app.signOutByForce user).currentUid = none ∨
      (app.signOutByForce user).currentUid = app.currentUid := by
  unfold signOutByForce
  split
  · exact Or.inl rfl
  · exact Or.inr rfl

@[simp] theorem authUsers_signOutIfTokenIsInvalid (error : NSError) (app : App Image) :
    (app.signOutIfTokenIsInvalid error).authUsers = app.authUsers := by
  unfold signOutIfTokenIsInvalid
  split <;> rfl

theorem currentUid_signOutIfTokenIsInvalid (error : NSError) (app : App Image) :
    (app.signOutIfTokenIsInvalid error).currentUid = none ∨
      (app.signOutIfTokenIsInvalid error).currentUid = app.currentUid := by
  unfold signOutIfTokenIsInvalid
  split
  · exact Or.inl rfl
  · exact Or.inr rfl

theorem currentUid_signOut (app : App Image) :
    app.signOut.currentUid = if app.keychainError.isSome then app.currentUid else none := by
  unfold signOut
  split <;> rfl

theorem exists_of_currentUid {app : App Image} {uid : Uid} (h : app.currentUid = some uid) :
    ∃ user authUser, app.currentUser = some user ∧ app.authUsers[user]? = some authUser ∧
      authUser.uid = uid := by
  obtain ⟨authUser, ha, hid⟩ := Option.map_eq_some_iff.mp h
  obtain ⟨user, hc, hu⟩ := Option.bind_eq_some_iff.mp ha
  exact ⟨user, authUser, hc, hu, hid⟩

/-- The error that `signOut` throws. -/
def signOutError (app : App Image) : Option NSError :=
  if app.authUser.isSome then app.keychainError else none

def present (self : Controller) (level : Level) (app : App Image) : App Image :=
  { app with levels := app.levels.present self level }

/-- `instantiateViewController` and `pushViewController` of a controller of class `screen`. -/
def push (self : Controller) (screen : Screen) (app : App Image) : App Image :=
  { app with
    levels := app.levels.push self ⟨app.nextController, screen⟩
    nextController := app.nextController + 1 }

def pop (self : Controller) (app : App Image) : App Image :=
  { app with levels := app.levels.pop self }

/-- `present` of a new controller of class `screen`, alone or in a container. -/
def presentNew (self : Controller) (screen : Screen) (container : Controller → Level)
    (app : App Image) : App Image :=
  { app with
    levels := app.levels.present self (container ⟨app.nextController, screen⟩)
    nextController := app.nextController + 1 }

def showErrorWith (self : Controller) (title msg : Option String) (app : App Image) :
    App Image :=
  if app.levels.canPresent self then
    { app with
      levels := app.levels.present self (.alert self (.error title msg))
      alerts := (self, title, msg) :: app.alerts }
  else app

def showLoadingSpinner (self : Controller) (app : App Image) : App Image :=
  { app with
    activityView := some app.nextOverlay
    overlays := (app.nextOverlay, self) :: app.overlays
    nextOverlay := app.nextOverlay + 1 }

def removeLoadingSpinner (app : App Image) : App Image :=
  { app with
    activityView := none
    overlays := app.overlays.filter (fun overlay => some overlay.1 ≠ app.activityView) }

/-- The last strong reference to the controller is gone. -/
def release (self : Controller) (app : App Image) : App Image :=
  { app with released := Function.update app.released self true }

def setRegister (self : Controller) (form : RegisterForm Image) (app : App Image) :
    App Image :=
  { app with register := Function.update app.register self form }

def setProfileForm (self : Controller) (form : ProfileForm Image) (app : App Image) :
    App Image :=
  { app with profileForm := Function.update app.profileForm self form }

@[simp] theorem currentUid_showErrorWith (self : Controller) (title msg : Option String)
    (app : App Image) : (app.showErrorWith self title msg).currentUid = app.currentUid := by
  unfold showErrorWith
  split <;> rfl

end App

/-- The places of the source that send requests. -/
inductive Place where
  | splashDeadline
  | splashLoadUser
  | welcomeSignIn
  | welcomeGetUser
  | welcomeLoadSignedIn
  | welcomeLogInSignedIn
  | registerCreateUser
  | registerSaveUser
  | registerCreateSavedUser
  | registerUploadImage
  | registerSendMail
  | verificationBackReload
  | verificationBackDelete
  | verificationBackDeleteDocument
  | verificationSendMail
  | verificationContinue
  | welcomeInfoDeadline
  | welcomeInfoLoad
  | profileLoad
  | profileDeleteAuth
  | profileDeleteDocument
  | profileDeletePhoto
  | informationLoad
  | informationUpdateUser
  | informationSavePhoto
  | informationSaveUser
  | informationLibrary
  | informationUploadImage
  | savePhotoReference
  | imageView
  deriving DecidableEq

structure Call (Data : Type) (Key : Type := Uid) where
  place : Place
  self : Controller
  request : Request Data Key

abbrev Call.Response {Data Key : Type} (Image : Type) (call : Call Data Key) : Type :=
  call.request.Response Image

abbrev Program (Image Data : Type) :=
  Callback.Prog (App Image) (Call Data) (Call.Response Image)

abbrev Pending (Image Data : Type) :=
  Callback.Pending (App Image) (Call Data) (Call.Response Image)

abbrev Contract (Image Data : Type) :=
  Callback.Contract (App Image) (Call Data) (Call.Response Image)

abbrev World (Image Data : Type) :=
  Callback.World (Server Data) (App Image) (Call Data) (Call.Response Image)

abbrev Journal (Image Data : Type) := List (Callback.Entry (Call Data) (Call.Response Image))

/-- What the authentication library does with a response before the handler runs. The requests
to the document store and to the bucket go out with the token of the signed-in user, and where
that cannot be fetched the error carries the code of the token's. -/
def receive {Image Data : Type} : (request : Request Data) → request.Response Image →
    App Image → App Image
  | .signIn _ _, .ok user, app => app.signedIn user
  | .createUser _ _, .ok user, app => app.signedIn user
  | .reload user _, .ok verified, app => app.setEmailVerified user verified
  | .reload user _, .error failure, app =>
      if failure.error.tokenIsInvalid then app.signOutByForce user else app
  | .delete user _, .ok _, app => app.signOutByForce user
  | .delete user _, .error failure, app =>
      if failure.atToken && failure.error.tokenIsInvalid then app.signOutByForce user else app
  | .sendEmailVerification user _, .error failure, app =>
      if failure.error.tokenIsInvalid then app.signOutByForce user else app
  | .getDocument _, .error error, app | .downloadURL _, .error error, app
  | .setData _ _ _, some error, app | .updateData _ _, some error, app
  | .deleteDocument _, some error, app | .putData _ _, some error, app
  | .deleteObject _, some error, app => app.signOutIfTokenIsInvalid error
  | _, _, app => app

/-- The library changes nothing but the sign-in state. -/
structure App.SameScreen {Image : Type} (app app' : App Image) : Prop where
  keychainError : app'.keychainError = app.keychainError
  sharedUser : app'.sharedUser = app.sharedUser
  levels : app'.levels = app.levels
  released : app'.released = app.released
  nextController : app'.nextController = app.nextController
  clock : app'.clock = app.clock
  alerts : app'.alerts = app.alerts
  messages : app'.messages = app.messages
  loading : (app'.activityView, app'.overlays, app'.nextOverlay) =
    (app.activityView, app.overlays, app.nextOverlay)
  register : app'.register = app.register
  profileForm : app'.profileForm = app.profileForm

theorem App.signOutByForce_sameScreen {Image : Type} (user : ℕ) (app : App Image) :
    app.SameScreen (app.signOutByForce user) := by
  unfold signOutByForce
  split <;> exact ⟨rfl, rfl, rfl, rfl, rfl, rfl, rfl, rfl, rfl, rfl, rfl⟩

theorem App.signOutIfTokenIsInvalid_sameScreen {Image : Type} (error : NSError)
    (app : App Image) : app.SameScreen (app.signOutIfTokenIsInvalid error) := by
  unfold signOutIfTokenIsInvalid
  split <;> exact ⟨rfl, rfl, rfl, rfl, rfl, rfl, rfl, rfl, rfl, rfl, rfl⟩

theorem receive_sameScreen {Image Data : Type} (request : Request Data)
    (a : request.Response Image) (app : App Image) : app.SameScreen (receive request a app) := by
  unfold receive
  split
  all_goals try split
  all_goals first
    | exact App.signOutByForce_sameScreen _ _
    | exact App.signOutIfTokenIsInvalid_sameScreen _ _
    | exact ⟨rfl, rfl, rfl, rfl, rfl, rfl, rfl, rfl, rfl, rfl, rfl⟩

def service (Image Data : Type) :
    Callback.Service (Server Data) (App Image) (Call Data) (Call.Response Image)
      (Outcome Image) where
  reply call := call.request.reply
  commit call := call.request.commit
  receive call := receive call.request

namespace Program

variable {Image Data : Type}

open Callback.Prog

def send (place : Place) (self : Controller) (request : Request Data)
    (handler : request.Response Image → Program Image Data) : Program Image Data :=
  Callback.Prog.request (α := Call.Response Image) ⟨place, self, request⟩ handler

/-- `self?` in a closure that captures the controller weakly. -/
def weakly (self : Controller) (body : Program Image Data) : Program Image Data :=
  .read (fun app => if app.released self then .done else body)

/-- `guard let uid = Auth.auth().currentUser?.uid else {return}` -/
def guardUid (body : Uid → Program Image Data) : Program Image Data :=
  .read (fun app => match app.currentUid with
    | some uid => body uid
    | none => .done)

/-- `guard let user = Auth.auth().currentUser else {return}` -/
def guardUser (body : ℕ → AuthUser → Program Image Data) : Program Image Data :=
  .read (fun app => match app.currentUser, app.authUser with
    | some user, some authUser => body user authUser
    | _, _ => .done)

/-- `Date()` -/
def date (k : Date → Program Image Data) : Program Image Data :=
  .read (fun app => .write App.tick (k (app.clock.date 0)))

def present (self : Controller) (level : Level) : Program Image Data :=
  modify (App.present self level)

def presentNew (self : Controller) (screen : Screen) (container : Controller → Level) :
    Program Image Data :=
  modify (App.presentNew self screen container)

/-- `navigationController?.pushViewController`, which loads the view of the new controller. -/
def pushViewController (self : Controller) (screen : Screen)
    (viewDidLoad : Controller → Program Image Data) : Program Image Data :=
  .read (fun app =>
    if app.levels.hasNavigation self then
      modify (App.push self screen) ++ viewDidLoad ⟨app.nextController, screen⟩
    else .done)

/-- `navigationController?.popViewController` -/
def popViewController (self : Controller) : Program Image Data := modify (App.pop self)

def showErrorWith (self : Controller) (title msg : Option String) : Program Image Data :=
  modify (App.showErrorWith self title msg)

def showLoadingSpinner (self : Controller) : Program Image Data :=
  modify (App.showLoadingSpinner self)

def removeLoadingSpinner : Program Image Data := modify App.removeLoadingSpinner

@[simp] theorem run_send (place : Place) (self : Controller) (request : Request Data)
    (handler : request.Response Image → Program Image Data) (app : App Image) :
    (send place self request handler).run app = (app, [⟨⟨place, self, request⟩, handler⟩]) :=
  rfl

@[simp] theorem run_date (k : Date → Program Image Data) (app : App Image) :
    (date k).run app = (k (app.clock.date 0)).run app.tick := rfl

theorem run_weakly (self : Controller) (body : Program Image Data) (app : App Image) :
    (weakly self body).run app = if app.released self then (app, []) else body.run app := by
  simp only [weakly, run_read]
  split <;> rfl

@[simp] theorem run_weakly_alive {self : Controller} {app : App Image}
    (body : Program Image Data) (h : app.released self = false) :
    (weakly self body).run app = body.run app := by simp [run_weakly, h]

@[simp] theorem run_weakly_released {self : Controller} {app : App Image}
    (body : Program Image Data) (h : app.released self = true) :
    (weakly self body).run app = (app, []) := by simp [run_weakly, h]

@[simp] theorem run_guardUid_some {app : App Image} {uid : Uid}
    (body : Uid → Program Image Data) (h : app.currentUid = some uid) :
    (guardUid body).run app = (body uid).run app := by simp [guardUid, h]

@[simp] theorem run_guardUid_none {app : App Image}
    (body : Uid → Program Image Data) (h : app.currentUid = none) :
    (guardUid body).run app = (app, []) := by simp [guardUid, h]

theorem run_guardUser_some {app : App Image} {user : ℕ} {authUser : AuthUser}
    (body : ℕ → AuthUser → Program Image Data) (hc : app.currentUser = some user)
    (hu : app.authUsers[user]? = some authUser) :
    (guardUser body).run app = (body user authUser).run app := by
  simp [guardUser, App.authUser, hc, hu]

@[simp] theorem run_showErrorWith (self : Controller) (title msg : Option String)
    (app : App Image) : (showErrorWith self title msg : Program Image Data).run app =
      (app.showErrorWith self title msg, []) := rfl

@[simp] theorem run_showLoadingSpinner (self : Controller) (app : App Image) :
    (showLoadingSpinner self : Program Image Data).run app =
      (app.showLoadingSpinner self, []) := rfl

@[simp] theorem run_removeLoadingSpinner (app : App Image) :
    (removeLoadingSpinner : Program Image Data).run app = (app.removeLoadingSpinner, []) := rfl

section Within

variable {C : Contract Image Data}

@[simp] theorem within_send {place : Place} {self : Controller} {request : Request Data}
    {handler : request.Response Image → Program Image Data} :
    (send place self request handler).Within C ↔
      C.call ⟨place, self, request⟩ ∧ C.pending ⟨⟨place, self, request⟩, handler⟩ ∧
        ∀ a, C.response ⟨place, self, request⟩ a → (handler a).Within C :=
  within_request

theorem within_weakly {self : Controller} {body : Program Image Data} (h : body.Within C) :
    (weakly self body).Within C := by
  intro app _
  dsimp only
  split
  · trivial
  · exact h

theorem within_date {k : Date → Program Image Data}
    (hI : ∀ app, C.state app → C.state app.tick ∧ C.frame app app.tick)
    (h : ∀ date, (k date).Within C) : (date k).Within C :=
  fun _ _ => ⟨hI, h _⟩

theorem within_showErrorWith {self : Controller} {title msg : Option String}
    (hI : ∀ app, C.state app → C.state (app.showErrorWith self title msg) ∧
      C.frame app (app.showErrorWith self title msg)) :
    (showErrorWith self title msg : Program Image Data).Within C :=
  within_modify.mpr hI

theorem within_guardUid {body : Uid → Program Image Data}
    (h : ∀ app uid, C.state app → app.currentUid = some uid → (body uid).Within C) :
    (guardUid body).Within C := by
  intro app happ
  dsimp only
  split
  next uid hu => exact h app uid happ hu
  next => trivial

theorem pending_guardUid {body : Uid → Program Image Data} {app : App Image}
    {q : Pending Image Data} (happ : C.state app)
    (h : ∀ uid, app.currentUid = some uid → (body uid).Within C)
    (hq : q ∈ ((guardUid body).run app).2) : q.Within C := by
  cases hu : app.currentUid with
  | none =>
      rw [run_guardUid_none _ hu] at hq
      exact absurd hq List.not_mem_nil
  | some uid =>
      rw [run_guardUid_some _ hu] at hq
      exact (h uid hu).pending happ hq

theorem within_guardUser {body : ℕ → AuthUser → Program Image Data}
    (h : ∀ user authUser, (body user authUser).Within C) : (guardUser body).Within C := by
  intro app _
  dsimp only
  split
  · exact h _ _
  · trivial

theorem within_pushViewController {self : Controller} {screen : Screen}
    {viewDidLoad : Controller → Program Image Data}
    (hI : ∀ app, C.state app →
      C.state (app.push self screen) ∧ C.frame app (app.push self screen))
    (h : ∀ controller, (viewDidLoad controller).Within C) :
    (pushViewController self screen viewDidLoad).Within C := by
  intro app _
  dsimp only
  split
  · exact (within_modify.mpr hI).append (h _)
  · trivial

end Within

section Sends

variable {C : Contract Image Data}

theorem sends_weakly {self : Controller} {body : Program Image Data} (h : body.Sends C) :
    (weakly self body).Sends C := by
  apply sends_read
  intro app
  split
  · exact sends_done
  · exact h

theorem sends_guardUid {body : Uid → Program Image Data} (h : ∀ uid, (body uid).Sends C) :
    (guardUid body).Sends C := by
  apply sends_read
  intro app
  split
  · exact h _
  · exact sends_done

theorem sends_guardUser {body : ℕ → AuthUser → Program Image Data}
    (h : ∀ user authUser, (body user authUser).Sends C) : (guardUser body).Sends C := by
  apply sends_read
  intro app
  split
  · exact h _ _
  · exact sends_done

theorem sends_pushViewController {self : Controller} {screen : Screen}
    {viewDidLoad : Controller → Program Image Data}
    (h : ∀ controller, (viewDidLoad controller).Sends C) :
    (pushViewController self screen viewDidLoad).Sends C := by
  apply sends_read
  intro app
  split
  · exact sends_modify.append (h _)
  · exact sends_done

end Sends

end Program

end GiveMeMovies
