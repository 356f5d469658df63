import GiveMeMovies.SplashController

/-!
# The profile information screen

The texts and the photo of the profile. Update Account sends the texts and, without condition,
the photo that `pickedImage` holds when the response to `updateCurrentUser` arrives. Picking an
image does the same at once, and choosing the photo library uploads the picture on the screen
through the storage manager, to another path.
-/

namespace GiveMeMovies.ProfileInformationViewController

open Program UserManager StorageManager

variable {Image Data : Type} (ios : Platform Image Data)

def setForm (self : Controller) (f : ProfileForm Image → ProfileForm Image) :
    Program Image Data :=
  .modify (fun app => app.setProfileForm self (f (app.profileForm self)))

/-! ## Loading the profile -/

def userLoaded (self : Controller) (user : User) : Program Image Data :=
  setSharedUser user ++ weakly self (UIImageView.loadPhoto ios self "placeholder-person" user ++
    setForm self (fun form => { form with
      firstName := user.firstName.getD ""
      lastName := user.lastName.getD ""
      about := user.aboutMe.getD "" }))

def loadUserData (self : Controller) : Program Image Data :=
  guardUid (fun uid =>
    getUser .informationLoad self uid (userLoaded ios self)
      (fun error => weakly self
        (showErrorWith self (some "Error") (error.map NSError.localizedDescription))))

/-- The storyboard leaves the texts empty and shows `placeholder-person` in `userPhoto`. -/
def awakeFromNib (self : Controller) (app : App Image) : App Image :=
  app.setProfileForm self
    { userPhoto := ios.named "placeholder-person"
      delegate := (app.profileForm self).delegate }

def viewDidLoad (self : Controller) : Program Image Data :=
  .modify (awakeFromNib ios self) ++ loadUserData ios self

def onBack (self : Controller) : Program Image Data := popViewController self

/-! ## Saving the profile -/

/-- `self.user`, which becomes the shared user, is never set. -/
def photoSaved (self : Controller) : Program Image Data :=
  .modify (fun app => { app with sharedUser := (app.profileForm self).user })

def photoUser (uid : Uid) (now : Date) (url : String) : User where
  userId := some uid
  updatedAt := some now
  photoDownloadUrl := some url

def photoNotSaved (self : Controller) : Option NSError → Program Image Data
  | some error => showErrorWith self (some "Error") (some error.localizedDescription)
  | none => .done

def photoUploaded (self : Controller) (uid : Uid) (now : Date) :
    Option String → Option NSError → Program Image Data
  | _, some _ => .done
  | some url, none =>
      UserManager.updateUser .informationSavePhoto self (photoUser uid now url)
        (photoSaved self) (photoNotSaved self)
  | none, none => .done

/-- The asset `placeholder-person` exists, so the force unwrap does not trap. -/
def saveUserPhoto (self : Controller) (uid : Uid) : Program Image Data :=
  date (fun now => .read (fun app =>
    uploadImage ios .informationSavePhoto self
      ((app.profileForm self).pickedImage.getD ios.placeholderPerson) uid
      (photoUploaded self uid now)))

/-- The user that the fields describe. -/
def formUser (uid : Uid) (form : ProfileForm Image) (createdAt updatedAt : Date) :
    User where
  userId := some uid
  username := some (form.firstName ++ " " ++ form.lastName)
  firstName := some form.firstName
  lastName := some form.lastName
  aboutMe := some form.about
  createdAt := some createdAt
  updatedAt := some updatedAt

def textsSaved (user : User) : Program Image Data := setSharedUser user ++ removeLoadingSpinner

def saveUser (self : Controller) (uid : Uid) : Program Image Data :=
  showLoadingSpinner self ++
  date (fun createdAt => date (fun updatedAt => .read (fun app =>
    let user := formUser uid (app.profileForm self) createdAt updatedAt
    UserManager.updateUser .informationSaveUser self user (textsSaved user)
      (fun _ => .done))))

def currentUserUpdated (self : Controller) (uid : Uid) :
    Option NSError → Program Image Data
  | some error => weakly self
      (showErrorWith self (some "Error") (some error.localizedDescription))
  | none => weakly self (saveUserPhoto ios self uid) ++ weakly self (saveUser self uid)

def updateUser (self : Controller) : Program Image Data :=
  guardUser (fun user authUser =>
    send .informationUpdateUser self (.updateCurrentUser user)
      (currentUserUpdated ios self authUser.uid))

/-- The comparison of `userPhoto.image` with `pickedImage` comes after the assignment and always
succeeds. -/
def setupProfileImage (self : Controller) : Program Image Data :=
  setForm self (fun form =>
    match form.userPhoto with
    | some image => { form with userPhotoIsHidden := false, pickedImage := some image }
    | none => { form with userPhotoIsHidden := true })

/-- `delegate?.showMessage()` -/
def showMessage (self : Controller) : Program Image Data :=
  .modify (fun app =>
    { app with messages := (app.profileForm self).delegate.toList ++ app.messages })

def updateAccount (self : Controller) : Program Image Data :=
  updateUser ios self ++ setupProfileImage self ++ showMessage self ++ popViewController self

/-! ## Picking a photo -/

/-- The action "Photo library" of the dialog, after which the picker is shown. -/
def photoLibrary (self : Controller) : Program Image Data :=
  .read (fun app =>
    match (app.profileForm self).userPhoto with
    | some image => uploadProfileImage ios .informationLibrary self image .done (fun _ => .done)
    | none => .done)

def didFinishPicking (self : Controller) (image : Image) : Program Image Data :=
  setForm self (fun form => { form with userPhoto := some image, pickedImage := some image }) ++
    showLoadingSpinner self ++ updateUser ios self ++ removeLoadingSpinner

end GiveMeMovies.ProfileInformationViewController
