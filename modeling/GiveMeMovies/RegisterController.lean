import GiveMeMovies.EmailValidity
import GiveMeMovies.VerificationControllers

/-!
# The register screen

A tap on Create Account checks the fields and creates the account. The response creates the
document of the user from the fields as they then are, and the response to that uploads the
photo, sends the verification mail and shows the verification screen.
-/

namespace GiveMeMovies.RegisterViewController

open Program UserManager StorageManager

variable {Image Data : Type} (ios : Platform Image Data)

def viewDidLoad (self : Controller) : Program Image Data :=
  .modify (App.setRegister self { userImage := some ios.placeholderPerson })

/-- `onBack`, and `logInAction` of the button "Tap to sign in". -/
def onBack (self : Controller) : Program Image Data := popViewController self

def uploadImage (self : Controller) : Program Image Data :=
  .read (fun app =>
    match (app.register self).userImage with
    | some image => uploadProfileImage ios .registerUploadImage self image .done (fun _ => .done)
    | none => .done)

def mailSent (self : Controller) : Except AuthFailure Unit → Program Image Data
  | .error failure => weakly self
      (showErrorWith self (some "Error") (some failure.error.localizedDescription))
  | .ok _ => .done

def userSaved (self : Controller) (user : User) : Bool → Program Image Data
  | true =>
      setSharedUser user ++ weakly self (uploadImage ios self) ++
      guardUser (fun user authUser =>
        send .registerSendMail self (.sendEmailVerification user authUser.uid) (mailSent self)) ++
      weakly self (pushViewController self .emailVerification (fun _ => .done))
  | false => .done

/-- The user that the fields describe. -/
def formUser (uid : Uid) (form : RegisterFields Image) (createdAt updatedAt : Date) :
    User where
  userId := some uid
  email := some form.emailTxt
  username := some (form.firstNameTxt ++ " " ++ form.lastNameTxt)
  firstName := some form.firstNameTxt
  lastName := some form.lastNameTxt
  createdAt := some createdAt
  updatedAt := some updatedAt
  aboutMe := some form.aboutMeTxt

def saveUser (self : Controller) (uid : Uid) : Program Image Data :=
  date (fun createdAt => date (fun updatedAt => .read (fun app =>
    createUser .registerSaveUser self uid
      (formUser uid (app.register self).toRegisterFields createdAt updatedAt)
      (userSaved ios self))))

/-- The user that `saveUser` sends. `createUser` has replaced the date of creation by a third. -/
def savedUser (uid : Uid) (form : RegisterFields Image) (clock : Clock) : User :=
  { formUser uid form (clock.date 0) (clock.date 1) with createdAt := some (clock.date 2) }

theorem run_saveUser (self : Controller) (uid : Uid) (app : App Image) :
    (saveUser ios self uid).run app =
      (app.tick.tick.tick,
        [⟨⟨.registerSaveUser, self, .setData uid
            (savedUser uid (app.register self).toRegisterFields app.clock).parameters false⟩,
          createUserHandler (savedUser uid (app.register self).toRegisterFields app.clock)
            (userSaved ios self)⟩]) := rfl

def userCreated (self : Controller) : Except CreationFailure AuthUser → Program Image Data
  | .error failure => weakly self (showErrorWith self (some "Error") (some
      (if failure.error.code = AuthErrorCode.emailAlreadyInUse then "Email already in use!"
        else if failure.error.code = AuthErrorCode.weakPassword then "Your password is too weak"
        else failure.error.localizedDescription)))
  | .ok user => weakly self (saveUser ios self user.uid)

/-- The completion of the second call of `UserManager.createUser`, which is reached only when
the `user` of the screen has been set. -/
def savedUserCreated (self : Controller) (user : User) : Bool → Program Image Data
  | true =>
      setSharedUser user ++
      weakly self (pushViewController self .emailVerification (fun _ => .done))
  | false => .done

def createUser (self : Controller) (email password : String) : Program Image Data :=
  send .registerCreateUser self (.createUser email password) (userCreated ios self) ++
  .read (fun app =>
    match (app.register self).user with
    | some user => guardUid (fun uid =>
        UserManager.createUser .registerCreateSavedUser self uid user (savedUserCreated self))
    | none => .done)

/-- The message of the first guard of `validateFields` that fails. -/
def validationError (form : RegisterFields Image) : Option String :=
  if form.firstNameTxt = "" ∨ ios.count form.firstNameTxt < 2 ∨ form.firstNameTxt = " " then
    some "Please enter your First Name /n It must contain more than 2 charachters"
  else if form.lastNameTxt = "" ∨ ios.count form.lastNameTxt < 2 ∨ form.firstNameTxt = " " then
    some "Please enter your Last Name /n It must contain more than 2 charachters"
  else if form.emailTxt = "" then some "Please enter your email"
  else if ¬ isValidEmail form.emailTxt then some "Please enter a valid email"
  else if form.passTxt = "" then some "Please enter a password"
  else if ios.count form.passTxt < 6 then
    some "Your password must contain at least 6 characters"
  else if form.confirmPassTxt = "" then some "Please enter the same password as above"
  else if ¬ (ios.contains form.confirmPassTxt form.passTxt ∧
      ios.equal form.passTxt form.confirmPassTxt) then
    some "Please enter the same password as above"
  else none

def validateFields (self : Controller) : Program Image Data :=
  .read (fun app =>
    match validationError ios (app.register self).toRegisterFields with
    | some msg => showErrorWith self (some "Error") (some msg)
    | none =>
        showLoadingSpinner self ++
        createUser ios self (app.register self).emailTxt (app.register self).confirmPassTxt ++
        removeLoadingSpinner)

def registerAction (self : Controller) : Program Image Data := validateFields ios self

end GiveMeMovies.RegisterViewController
