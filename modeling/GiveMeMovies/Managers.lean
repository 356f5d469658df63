import GiveMeMovies.App

/-!
# The user and storage managers

The asynchronous operations of `UserManager` and `StorageManager`. An operation is given the
place and the controller that call it, which only label its requests, and the closures that its
caller passes. The handlers of an operation are definitions of their own, so that a request in
flight can be named.
-/

namespace GiveMeMovies

variable {Image Data : Type}

namespace UserManager

open Program

def getDocumentHandler (uid : Uid) (completion : User → Program Image Data)
    (completionError : Option NSError → Program Image Data) :
    Except NSError (Option Fields) → Program Image Data
  | .ok (some document) =>
      match User.ofSnapshot uid document with
      | some user => if user.userId.isSome then completion user else completionError none
      | none => completionError none
  | .ok none => completionError none
  | .error error => completionError (some error)

/-- Whatever the answer is, one of the two closures runs. -/
theorem of_getDocumentHandler {P : Program Image Data → Prop} {uid : Uid}
    {completion : User → Program Image Data}
    {completionError : Option NSError → Program Image Data}
    (hc : ∀ user, P (completion user)) (he : ∀ error, P (completionError error))
    (a : Except NSError (Option Fields)) :
    P (getDocumentHandler uid completion completionError a) := by
  unfold getDocumentHandler
  split
  · split
    · split
      · exact hc _
      · exact he none
    · exact he none
  · exact he none
  · exact he (some _)

def getUser (place : Place) (self : Controller) (uid : Uid)
    (completion : User → Program Image Data)
    (completionError : Option NSError → Program Image Data) : Program Image Data :=
  send place self (.getDocument uid) (getDocumentHandler uid completion completionError)

def createUserHandler (user : User) (completion : User → Bool → Program Image Data) :
    Option NSError → Program Image Data
  | some _ => completion user false
  | none => completion user true

theorem of_createUserHandler {P : Program Image Data → Prop} {user : User}
    {completion : User → Bool → Program Image Data} (h : ∀ saved, P (completion user saved))
    (error : Option NSError) : P (createUserHandler user completion error) := by
  cases error with
  | none => exact h true
  | some error => exact h false

/-- `user.createdAt = Date()` changes the object that the caller holds, so the completion is
given the user as it then stands. -/
def createUser (place : Place) (self : Controller) (uid : Uid) (user : User)
    (completion : User → Bool → Program Image Data) : Program Image Data :=
  date (fun now =>
    let user := { user with createdAt := some now }
    send place self (.setData uid user.parameters false) (createUserHandler user completion))

def updateUserHandler (completion : Program Image Data)
    (completionError : Option NSError → Program Image Data) :
    Option NSError → Program Image Data
  | some error => completionError (some error)
  | none => completion

def updateUser (place : Place) (self : Controller) (user : User)
    (completion : Program Image Data)
    (completionError : Option NSError → Program Image Data) : Program Image Data :=
  match user.userId with
  | some userId =>
      send place self (.updateData userId user.parameters)
        (updateUserHandler completion completionError)
  | none => completionError none

def photoFields (photoRef downloadUrl : String) : Fields :=
  (Fields.empty.assign User.KEY_PHOTO_REFERENCE (some (.string photoRef))).assign
    User.KEY_PHOTO_DOWNLOAD_URL (some (.string downloadUrl))

def savePhotoReferenceForUser (self : Controller) (photoRef downloadUrl : String) :
    Program Image Data :=
  guardUid (fun uid =>
    send .savePhotoReference self (.setData uid (photoFields photoRef downloadUrl) true)
      (fun _ => .done))

def uploadImageURLHandler (completion : Option String → Option NSError → Program Image Data) :
    Except NSError String → Program Image Data
  | .error error => completion none (some error)
  | .ok imageUrl => completion (some imageUrl) none

def uploadImagePutHandler (place : Place) (self : Controller) (imageRef : StorageReference)
    (completion : Option String → Option NSError → Program Image Data) :
    Option NSError → Program Image Data
  | some _ => completion none none
  | none => send place self (.downloadURL imageRef) (uploadImageURLHandler completion)

/-- `uploadImage` with the default `isUserimage: true`, the only way it is called. -/
def uploadImage (ios : Platform Image Data) (place : Place) (self : Controller)
    (image : Image) (itemId : Uid)
    (completion : Option String → Option NSError → Program Image Data) : Program Image Data :=
  let imageRef := StorageReference.photoJpg itemId
  match ios.jpegData image (1 / 10) with
  | none => completion none none
  | some data =>
      send place self (.putData imageRef data)
        (uploadImagePutHandler place self imageRef completion)

/-- The completion is called only when the deletion fails. -/
def deleteAccountHandler (completion : Option NSError → Program Image Data) :
    Option NSError → Program Image Data
  | some error => completion (some error)
  | none => .done

def deleteAccount (place : Place) (self : Controller) (uid : Uid)
    (completion : Option NSError → Program Image Data) : Program Image Data :=
  send place self (.deleteDocument uid) (deleteAccountHandler completion)

end UserManager

namespace StorageManager

open Program UserManager

def downloadURLHandler (self : Controller) (storageRef : StorageReference)
    (completion : Program Image Data)
    (completionError : Option NSError → Program Image Data) :
    Except NSError String → Program Image Data
  | .error error => completionError (some error)
  | .ok url => savePhotoReferenceForUser self storageRef.description url ++ completion

def putDataHandler (place : Place) (self : Controller) (storageRef : StorageReference)
    (completion : Program Image Data)
    (completionError : Option NSError → Program Image Data) :
    Option NSError → Program Image Data
  | some error => completionError (some error)
  | none =>
      send place self (.downloadURL storageRef)
        (downloadURLHandler self storageRef completion completionError)

def uploadProfileImage (ios : Platform Image Data) (place : Place) (self : Controller)
    (image : Image) (completion : Program Image Data)
    (completionError : Option NSError → Program Image Data) : Program Image Data :=
  guardUid (fun uid =>
    let storageRef := StorageReference.photo uid
    match ios.jpegData image (1 / 2) with
    | none => .done
    | some uploadData =>
        send place self (.putData storageRef uploadData)
          (putDataHandler place self storageRef completion completionError))

theorem run_uploadProfileImage {ios : Platform Image Data} {place : Place}
    {self : Controller} {image : Image} {completion : Program Image Data}
    {completionError : Option NSError → Program Image Data} {app : App Image} :
    (uploadProfileImage ios place self image completion completionError).run app =
      (app, match app.currentUid, ios.jpegData image (1 / 2) with
        | some uid, some data =>
            [⟨⟨place, self, .putData (.photo uid) data⟩,
              putDataHandler place self (.photo uid) completion completionError⟩]
        | _, _ => []) := by
  cases hu : app.currentUid with
  | none => rw [uploadProfileImage, run_guardUid_none _ hu]
  | some uid =>
      rw [uploadProfileImage, run_guardUid_some _ hu]
      dsimp only
      cases ios.jpegData image (1 / 2) with
      | none => rfl
      | some data => rfl

/-- The request that `savePhotoReferenceForUser` sends. -/
def savePhotoReferenceCall (self : Controller) (uid : Uid) (photoRef downloadUrl : String) :
    Call Data :=
  ⟨.savePhotoReference, self, .setData uid (photoFields photoRef downloadUrl) true⟩

theorem within_savePhotoReferenceForUser {C : Contract Image Data} {self : Controller}
    {photoRef downloadUrl : String}
    (hsave : ∀ app uid, C.state app → app.currentUid = some uid →
      C.call (savePhotoReferenceCall self uid photoRef downloadUrl) ∧
        C.pending ⟨savePhotoReferenceCall self uid photoRef downloadUrl, fun _ => .done⟩) :
    (savePhotoReferenceForUser self photoRef downloadUrl : Program Image Data).Within C :=
  within_guardUid fun app uid happ hu =>
    within_send.mpr ⟨(hsave app uid happ hu).1, (hsave app uid happ hu).2, fun _ _ => trivial⟩

theorem within_uploadProfileImage {C : Contract Image Data} {ios : Platform Image Data}
    {place : Place} {self : Controller} {image : Image}
    (hput : ∀ app uid data, C.state app → app.currentUid = some uid →
      ios.jpegData image (1 / 2) = some data →
      C.call ⟨place, self, .putData (.photo uid) data⟩ ∧
        C.pending ⟨⟨place, self, .putData (.photo uid) data⟩,
          putDataHandler place self (.photo uid) .done (fun _ => .done)⟩)
    (hurl : ∀ app uid data, C.state app → app.currentUid = some uid →
      C.response ⟨place, self, .putData (.photo uid) data⟩ none →
      C.call ⟨place, self, .downloadURL (.photo uid)⟩ ∧
        C.pending ⟨⟨place, self, .downloadURL (.photo uid)⟩,
          downloadURLHandler self (.photo uid) .done (fun _ => .done)⟩)
    (hsave : ∀ app uid data url app' uid', C.state app → app.currentUid = some uid →
      C.response ⟨place, self, .putData (.photo uid) data⟩ none →
      C.response ⟨place, self, .downloadURL (.photo uid)⟩ (.ok url) → C.state app' →
      app'.currentUid = some uid' →
      C.call (savePhotoReferenceCall self uid' (StorageReference.photo uid).description url) ∧
        C.pending ⟨savePhotoReferenceCall self uid' (StorageReference.photo uid).description url,
          fun _ => .done⟩) :
    (uploadProfileImage ios place self image .done (fun _ => .done)).Within C := by
  apply within_guardUid
  intro app uid happ hu
  dsimp only
  split
  · trivial
  next data hdata =>
    obtain ⟨hcall, hpending⟩ := hput app uid data happ hu hdata
    refine within_send.mpr ⟨hcall, hpending, fun error herror => ?_⟩
    cases error with
    | some error => trivial
    | none =>
        obtain ⟨hcall, hpending⟩ := hurl app uid data happ hu herror
        refine within_send.mpr ⟨hcall, hpending, fun response hresponse => ?_⟩
        cases response with
        | error error => trivial
        | ok url =>
            exact (within_savePhotoReferenceForUser fun app' uid' happ' hu' =>
              hsave app uid data url app' uid' happ hu herror hresponse happ' hu').append trivial

theorem run_savePhotoReferenceForUser {self : Controller} {photoRef downloadUrl : String}
    {app : App Image} :
    (savePhotoReferenceForUser self photoRef downloadUrl : Program Image Data).run app =
      (app, match app.currentUid with
        | some uid =>
            [⟨⟨.savePhotoReference, self, .setData uid (photoFields photoRef downloadUrl) true⟩,
              fun _ => .done⟩]
        | none => []) := by
  cases hu : app.currentUid with
  | none => simp [savePhotoReferenceForUser, hu]
  | some uid => simp [savePhotoReferenceForUser, hu]

end StorageManager

end GiveMeMovies
