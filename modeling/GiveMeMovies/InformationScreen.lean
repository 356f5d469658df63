import GiveMeMovies.AppResponses
import GiveMeMovies.ObservedRuns

/-!
# Runs of the profile information screen

The profile of the signed-in user is loaded, and then he types texts, chooses the photo library,
picks images and taps Update Account, while the responses arrive in any order and the screen may be
released. An observer who sees only this knows what the fields and the image view show, and with
it what every save writes and where.
-/

namespace GiveMeMovies.InformationScreen

open Program UserManager StorageManager ProfileInformationViewController Journal AppRequests

variable {Image Data : Type}

inductive TextField where
  | firstName
  | lastName
  | about
  deriving DecidableEq

namespace TextField

def key : TextField → String
  | firstName => User.KEY_FISRT_NAME
  | lastName => User.KEY_LAST_NAME
  | about => User.KEY_ABOUT_ME

def text : TextField → ProfileForm Image → String
  | firstName, form => form.firstName
  | lastName, form => form.lastName
  | about, form => form.about

def set (text : String) : TextField → ProfileForm Image → ProfileForm Image
  | firstName, form => { form with firstName := text }
  | lastName, form => { form with lastName := text }
  | about, form => { form with about := text }

end TextField

/-! ## The screen -/

inductive Act (Image : Type) where
  | type (field : TextField) (text : String)
  | library
  | pick (image : Image)
  | update
  | release

variable (ios : Platform Image Data)

def act (self : Controller) : Act Image → App Image → Option (Program Image Data)
  | .type field text, _ => some (setForm self (field.set text))
  | .library, _ => some (photoLibrary ios self)
  | .pick image, _ => some (didFinishPicking ios self image)
  | .update, _ => some (updateAccount ios self)
  | .release, _ => some (.modify (App.release self))

abbrev Event (Image : Type) := Callback.Event (Act Image) (Outcome Image)

/-! ## What an observer sees -/

inductive Happening (Image : Type) where
  | typed (field : TextField) (text : String)
  | picked (image : Image)
  | tapped
  | released
  | loaded (document : Fields)
  | downloaded (image : Image)

/-- What has happened on the screen, the latest first. -/
abbrev History (Image : Type) := List (Happening Image)

namespace History

def gone : History Image → Bool
  | [] => false
  | .released :: _ => true
  | _ :: seen => gone seen

/-- The text that was typed last, or that came with a document later. What arrives when the screen
is gone is not shown. -/
def text (field : TextField) : History Image → String
  | [] => ""
  | .typed field' text' :: seen => if field' = field then text' else text field seen
  | .loaded document :: seen =>
      if gone seen then text field seen
      else ((document field.key).bind Value.asString).getD ""
  | _ :: seen => text field seen

/-- The document has both pointers to a photo. -/
def refersToPhoto (document : Fields) : Bool :=
  ((document User.KEY_PHOTO_DOWNLOAD_URL).bind Value.asString).isSome &&
    ((document User.KEY_PHOTO_REFERENCE).bind Value.asString).isSome

/-- The picture that was picked or downloaded last. A document takes the picture away until its
photo has been downloaded, or brings the placeholder back. -/
def photo : History Image → Option Image
  | [] => some ios.placeholderPerson
  | .picked image :: _ => some image
  | .loaded document :: seen =>
      if gone seen then photo seen
      else if refersToPhoto document then none
      else some ios.placeholderPerson
  | .downloaded image :: seen => if gone seen then photo seen else some image
  | _ :: seen => photo seen

/-- The image that was picked last, unless Update Account was tapped later: a tap takes over the
picture that it finds. -/
def pickedImage : History Image → Option Image
  | [] => none
  | .picked image :: _ => some image
  | .tapped :: seen => (photo ios seen).or (pickedImage seen)
  | _ :: seen => pickedImage seen

end History

def see : Act Image → History Image → History Image
  | .type field text, seen => .typed field text :: seen
  | .library, seen => seen
  | .pick image, seen => .picked image :: seen
  | .update, seen => .tapped :: seen
  | .release, seen => .released :: seen

def hear : (call : Call Data) → call.Response Image → History Image → History Image
  | ⟨_, _, .getDocument _⟩, .ok (some document), seen => .loaded document :: seen
  | ⟨_, _, .loadImage _ _⟩, some image, seen => .downloaded image :: seen
  | _, _, seen => seen

def observer : Callback.Observer (History Image) (Act Image) (Call Data) (Call.Response Image) where
  act := see
  response := hear

abbrev ScreenRun (Image Data : Type) :=
  Callback.Observed (Server Data) (App Image) (History Image) (Call Data) (Call.Response Image)

abbrev step (self : Controller) :
    ScreenRun Image Data → Event Image → Option (ScreenRun Image Data) :=
  Callback.Observed.step observer (service Image Data) (act ios self)

/-- The screen has just been shown. -/
def opened (server : Server Data) (app : App Image) (self : Controller) :
    ScreenRun Image Data :=
  (Callback.Observed.start server app []).exec 0 (viewDidLoad ios self)

def AllSucceeded (o : ScreenRun Image Data) : Prop :=
  ∀ e ∈ o.journal, e.2.call.request.Succeeded e.2.response

def Settled (o : ScreenRun Image Data) : Prop := o.inFlight = []

/-! ## What the observer knows -/

/-- The screen shows what the observer has seen, and nobody but `uid` is signed in. -/
structure Shows (screen : Controller) (uid : Uid) (delegate : Option Controller)
    (seen : History Image) (app : App Image) : Prop where
  signedIn : ∀ other, app.currentUid = some other → other = uid
  texts : ∀ field : TextField, field.text (app.profileForm screen) = seen.text field
  userPhoto : (app.profileForm screen).userPhoto = seen.photo ios
  pickedImage : (app.profileForm screen).pickedImage = seen.pickedImage ios
  released : app.released screen = seen.gone
  delegate : (app.profileForm screen).delegate = delegate

/-- The requests of the screen, with or without those of the photo library. What they carry is what
had been seen when they were sent. -/
inductive Sent (library : Prop) (self : Controller) (uid : Uid) (urlOf : StorageReference → String)
    (seen : History Image) : Pending Image Data → Prop
  | load : Sent library self uid urlOf seen
      ⟨⟨.informationLoad, self, .getDocument uid⟩,
        getDocumentHandler uid (userLoaded ios self) (loadError self)⟩
  | loadCached (photoUrl photoReference : String) : Sent library self uid urlOf seen
      ⟨⟨.imageView, self, .loadImage photoUrl photoReference⟩,
        UIImageView.cachedHandler self photoUrl photoReference⟩
  | loadImage (photoUrl photoReference : String) : Sent library self uid urlOf seen
      ⟨⟨.imageView, self, .loadImage photoUrl photoReference⟩,
        UIImageView.downloadedHandler self⟩
  | updateCurrentUser (user : ℕ) : Sent library self uid urlOf seen
      ⟨⟨.informationUpdateUser, self, .updateCurrentUser user⟩, currentUserUpdated ios self uid⟩
  | putPhoto (hlibrary : library) (image : Image) (data : Data)
      (himage : seen.photo ios = some image)
      (hdata : ios.jpegData image (1 / 2) = some data) : Sent library self uid urlOf seen
      ⟨⟨.informationLibrary, self, .putData (.photo uid) data⟩,
        putDataHandler .informationLibrary self (.photo uid) .done (fun _ => .done)⟩
  | photoAddress (hlibrary : library) : Sent library self uid urlOf seen
      ⟨⟨.informationLibrary, self, .downloadURL (.photo uid)⟩,
        downloadURLHandler self (.photo uid) .done (fun _ => .done)⟩
  | photoReference (hlibrary : library) : Sent library self uid urlOf seen
      ⟨savePhotoReferenceCall self uid (StorageReference.photo uid).description
        (urlOf (.photo uid)), fun _ => .done⟩
  | putJpg (data : Data) (now : Date)
      (hdata : ios.jpegData ((seen.pickedImage ios).getD ios.placeholderPerson) (1 / 10) =
        some data) : Sent library self uid urlOf seen
      ⟨⟨.informationSavePhoto, self, .putData (.photoJpg uid) data⟩,
        uploadImagePutHandler .informationSavePhoto self (.photoJpg uid)
          (photoUploaded self uid now)⟩
  | jpgAddress (now : Date) : Sent library self uid urlOf seen
      ⟨⟨.informationSavePhoto, self, .downloadURL (.photoJpg uid)⟩,
        uploadImageURLHandler (photoUploaded self uid now)⟩
  | savePhoto (now : Date) : Sent library self uid urlOf seen
      ⟨⟨.informationSavePhoto, self, .updateData uid
          (photoUser uid now (urlOf (.photoJpg uid))).parameters⟩,
        updateUserHandler (photoSaved self) (photoNotSaved self)⟩
  | saveTexts (form : ProfileForm Image) (createdAt updatedAt : Date)
      (hform : ∀ field : TextField, field.text form = seen.text field) :
      Sent library self uid urlOf seen
      ⟨⟨.informationSaveUser, self, .updateData uid
          (formUser uid form createdAt updatedAt).parameters⟩,
        updateUserHandler (textsSaved (formUser uid form createdAt updatedAt)) (fun _ => .done)⟩

variable {ios} {library : Prop} {self : Controller} {uid : Uid} {delegate : Option Controller}
  {urlOf : StorageReference → String} {seen : History Image} {app : App Image}

theorem Shows.of_eq {app' : App Image} (h : Shows ios self uid delegate seen app)
    (hu : ∀ other, app'.currentUid = some other → app.currentUid = some other)
    (hf : app'.profileForm self = app.profileForm self)
    (hr : app'.released self = app.released self) : Shows ios self uid delegate seen app' :=
  ⟨fun other ho => h.signedIn other (hu other ho), by rw [hf]; exact h.texts,
    by rw [hf, h.userPhoto], by rw [hf, h.pickedImage], by rw [hr, h.released],
    by rw [hf, h.delegate]⟩

theorem Shows.showErrorWith (h : Shows ios self uid delegate seen app) (title msg : Option String) :
    Shows ios self uid delegate seen (app.showErrorWith self title msg) := by
  unfold App.showErrorWith
  split
  · exact h.of_eq (fun _ => id) rfl rfl
  · exact h

theorem Shows.signOutIfTokenIsInvalid (h : Shows ios self uid delegate seen app)
    (error : NSError) : Shows ios self uid delegate seen (app.signOutIfTokenIsInvalid error) := by
  have hsame := App.signOutIfTokenIsInvalid_sameScreen error app
  refine h.of_eq (fun other ho => ?_) (congrFun hsame.profileForm self)
    (congrFun hsame.released self)
  rcases app.currentUid_signOutIfTokenIsInvalid error with hu | hu
  · rw [hu] at ho
    cases ho
  · rw [← hu, ho]

/-- The library may sign the user out, and that is all. -/
theorem Shows.receive {p : Pending Image Data} (hp : Sent ios library self uid urlOf seen p)
    {now : History Image} (h : Shows ios self uid delegate now app) (a : p.call.Response Image) :
    Shows ios self uid delegate now (receive p.call.request a app) := by
  cases hp with
  | loadCached photoUrl photoReference => exact h
  | loadImage photoUrl photoReference => exact h
  | updateCurrentUser user => exact h
  | load | photoAddress hlibrary | jpgAddress now =>
      cases a with
      | ok _ => exact h
      | error error => exact h.signOutIfTokenIsInvalid error
  | _ =>
      cases a with
      | none => exact h
      | some error => exact h.signOutIfTokenIsInvalid error

/-! ## What the programs leave -/

/-- The observer who has seen `seen` knows what the program leaves. -/
abbrev Leaves (ios : Platform Image Data) (library : Prop) (self : Controller) (uid : Uid)
    (delegate : Option Controller) (urlOf : StorageReference → String) (seen : History Image)
    (p : Program Image Data) (app : App Image) : Prop :=
  p.Leaves (Shows ios self uid delegate) (Sent ios library self uid urlOf) seen app

/-- A change of the form that the observer has followed. -/
theorem Shows.setForm (h : Shows ios self uid delegate seen app) {now : History Image}
    {form : ProfileForm Image} (htexts : ∀ field : TextField, field.text form = now.text field)
    (hphoto : form.userPhoto = now.photo ios) (hpicked : form.pickedImage = now.pickedImage ios)
    (hgone : now.gone = seen.gone) (hdelegate : form.delegate = delegate) :
    Shows ios self uid delegate now (app.setProfileForm self form) := by
  have hform : (app.setProfileForm self form).profileForm self = form := Function.update_self ..
  constructor
  · exact h.signedIn
  · rwa [hform]
  · rwa [hform]
  · rwa [hform]
  · rw [hgone]
    exact h.released
  · rwa [hform]

theorem leaves_weakly {now : History Image} {body : Program Image Data}
    (h : Shows ios self uid delegate seen app)
    (hthere : seen.gone = false → Leaves ios library self uid delegate urlOf now body app)
    (hgone : seen.gone = true → Shows ios self uid delegate now app) :
    Leaves ios library self uid delegate urlOf now (weakly self body) app := by
  rw [Leaves, Callback.Prog.Leaves, run_weakly, h.released]
  split
  next hg => exact Callback.Prog.leaves_done (hgone hg)
  next hg => exact hthere (by simpa using hg)

theorem leaves_loadError (h : Shows ios self uid delegate seen app) (error : Option NSError) :
    Leaves ios library self uid delegate urlOf seen (loadError self error) app :=
  leaves_weakly h (fun _ => Callback.Prog.leaves_modify (h.showErrorWith _ _)) fun _ => h

theorem leaves_downloadedHandler (h : Shows ios self uid delegate seen app) (image : Image) :
    Leaves ios library self uid delegate urlOf (.downloaded image :: seen)
      (UIImageView.downloadedHandler self (some image)) app := by
  refine leaves_weakly h (fun hthere => ?_) fun hgone => ?_
  · refine Callback.Prog.leaves_modify (h.setForm ?_ ?_ h.pickedImage rfl h.delegate)
    · intro field
      refine Eq.trans ?_ (h.texts field)
      cases field <;> rfl
    · rw [History.photo, hthere]
      rfl
  · refine ⟨h.signedIn, h.texts, ?_, h.pickedImage, h.released, h.delegate⟩
    rw [h.userPhoto, History.photo, if_pos hgone]

/-- The photo of a document that arrives while the screen is there. -/
theorem run_loadPhoto (user : User) (app : App Image) :
    ((UIImageView.loadPhoto ios self "placeholder-person" user).run app).1 =
        app.setProfileForm self { app.profileForm self with
          userPhoto := if user.photoDownloadUrl.isSome && user.photoReference.isSome then none
            else some ios.placeholderPerson } ∧
      ∀ q ∈ ((UIImageView.loadPhoto ios self "placeholder-person" user).run app).2,
        Sent ios library self uid urlOf seen q := by
  have hnone : ios.named "userPlaceholder" = none := if_neg (by decide)
  have hplaceholder : ios.named "placeholder-person" = some ios.placeholderPerson := if_pos rfl
  cases hurl : user.photoDownloadUrl with
  | none =>
      rw [UIImageView.loadPhoto, hurl]
      refine ⟨?_, fun q hq => absurd hq List.not_mem_nil⟩
      rw [UIImageView.setImage, Callback.Prog.run_modify, hplaceholder]
      rfl
  | some url =>
      cases href : user.photoReference with
      | none =>
          rw [UIImageView.loadPhoto, hurl, href]
          refine ⟨?_, fun q hq => absurd hq List.not_mem_nil⟩
          rw [UIImageView.setImage, Callback.Prog.run_modify, hplaceholder]
          rfl
      | some reference =>
          rw [UIImageView.loadPhoto, hurl, href]
          dsimp only [UIImageView.setImageFrom]
          rw [Callback.Prog.run_append, UIImageView.setImage, Callback.Prog.run_modify, hnone]
          split
          · refine ⟨rfl, fun q hq => ?_⟩
            rw [List.mem_singleton.mp hq]
            exact .loadCached url reference
          · refine ⟨rfl, fun q hq => ?_⟩
            rw [List.mem_singleton.mp hq]
            exact .loadImage url reference
          · exact ⟨rfl, fun q hq => absurd hq List.not_mem_nil⟩

/-- A document that arrives while the screen is there is shown. -/
theorem leaves_shown (h : Shows ios self uid delegate seen app) (hthere : seen.gone = false)
    {document : Fields} {user : User} (huser : User.ofSnapshot uid document = some user) :
    Leaves ios library self uid delegate urlOf (.loaded document :: seen)
      (UIImageView.loadPhoto ios self "placeholder-person" user ++
        setForm self (fun form => { form with
          firstName := user.firstName.getD ""
          lastName := user.lastName.getD ""
          about := user.aboutMe.getD "" })) app := by
  obtain ⟨hclient, hsent⟩ : _ ∧ ∀ q ∈ _,
      Sent ios library self uid urlOf (.loaded document :: seen) q :=
    run_loadPhoto user app
  apply Callback.Prog.leaves_append hsent
  rw [hclient]
  cases huser
  have hform (form form' : ProfileForm Image) : (app.setProfileForm self form).setProfileForm self
      form' = app.setProfileForm self form' := by
    simp [App.setProfileForm]
  apply Callback.Prog.leaves_modify
  rw [hform]
  have hself (form : ProfileForm Image) : (app.setProfileForm self form).profileForm self = form :=
    Function.update_self ..
  rw [hself]
  refine h.setForm (fun field => ?_) ?_ h.pickedImage rfl h.delegate
  · rw [History.text, hthere]
    cases field <;> rfl
  · rw [History.photo, hthere]
    rfl

/-- The document arrives and is shown, unless the screen is gone. -/
theorem leaves_userLoaded (h : Shows ios self uid delegate seen app) {document : Fields}
    {user : User} (huser : User.ofSnapshot uid document = some user) :
    Leaves ios library self uid delegate urlOf (.loaded document :: seen) (userLoaded ios self user)
      app := by
  apply Callback.Prog.leaves_append
  · exact fun q hq => absurd hq List.not_mem_nil
  have hshared : Shows ios self uid delegate seen { app with sharedUser := some user } :=
    h.of_eq (fun _ => id) rfl rfl
  refine leaves_weakly hshared (fun hthere => leaves_shown hshared hthere huser) fun hgone => ?_
  refine ⟨h.signedIn, fun field => ?_, ?_, h.pickedImage, h.released, h.delegate⟩
  · rw [History.text, if_pos hgone]
    exact h.texts field
  · rw [History.photo, if_pos hgone]
    exact h.userPhoto

theorem run_setForm (f : ProfileForm Image → ProfileForm Image) (app : App Image) :
    (setForm self f : Program Image Data).run app =
      (app.setProfileForm self (f (app.profileForm self)), []) := rfl

theorem run_updateUser (h : Shows ios self uid delegate seen app) {now : History Image} :
    ((updateUser ios self).run app).1 = app ∧
      ∀ q ∈ ((updateUser ios self).run app).2, Sent ios library self uid urlOf now q := by
  cases hu : app.authUser with
  | none =>
      have hrun : (updateUser ios self).run app = (app, []) := by
        simp [ProfileInformationViewController.updateUser, guardUser, hu]
      rw [hrun]
      exact ⟨rfl, fun q hq => absurd hq List.not_mem_nil⟩
  | some authUser =>
      obtain ⟨user, hc, ha⟩ := Option.bind_eq_some_iff.mp hu
      have huid : authUser.uid = uid := h.signedIn _ (by rw [App.currentUid, hu]; rfl)
      have hrun : (updateUser ios self).run app = (app, [⟨⟨.informationUpdateUser, self,
          .updateCurrentUser user⟩, currentUserUpdated ios self authUser.uid⟩]) :=
        run_guardUser_some _ hc ha
      rw [hrun]
      refine ⟨rfl, fun q hq => ?_⟩
      rw [List.mem_singleton.mp hq, huid]
      exact .updateCurrentUser user

theorem leaves_type (h : Shows ios self uid delegate seen app) (field : TextField)
    (text : String) : Leaves ios library self uid delegate urlOf (.typed field text :: seen)
      (setForm self (field.set text)) app := by
  apply Callback.Prog.leaves_modify
  apply h.setForm
  · intro field'
    have hother := h.texts field'
    cases field <;> cases field' <;> first | rfl | exact hother
  · exact Eq.trans (by cases field <;> rfl) h.userPhoto
  · exact Eq.trans (by cases field <;> rfl) h.pickedImage
  · rfl
  · exact Eq.trans (by cases field <;> rfl) h.delegate

/-- The library uploads the picture that is shown. -/
theorem leaves_photoLibrary (hlibrary : library) (h : Shows ios self uid delegate seen app) :
    Leaves ios library self uid delegate urlOf seen (photoLibrary ios self) app := by
  have hphoto := h.userPhoto
  rw [Leaves, Callback.Prog.Leaves, photoLibrary, Callback.Prog.run_read]
  cases hp : (app.profileForm self).userPhoto with
  | none => exact Callback.Prog.leaves_done h
  | some image =>
      dsimp only
      rw [run_uploadProfileImage]
      refine ⟨h, fun q hq => ?_⟩
      cases hu : app.currentUid with
      | none =>
          rw [hu] at hq
          exact absurd hq List.not_mem_nil
      | some other =>
          cases h.signedIn other hu
          cases hdata : ios.jpegData image (1 / 2) with
          | none =>
              rw [hu, hdata] at hq
              exact absurd hq List.not_mem_nil
          | some data =>
              rw [hu, hdata] at hq
              rw [List.mem_singleton.mp hq]
              exact .putPhoto hlibrary image data (hphoto.symm.trans hp) hdata

theorem leaves_didFinishPicking (h : Shows ios self uid delegate seen app) (image : Image) :
    Leaves ios library self uid delegate urlOf (.picked image :: seen)
      (didFinishPicking ios self image)
      app := by
  let filled : App Image := app.setProfileForm self { app.profileForm self with
    userPhoto := some image, pickedImage := some image }
  have hfilled : Shows ios self uid delegate (.picked image :: seen) filled := by
    refine h.setForm (fun field => ?_) rfl rfl rfl h.delegate
    refine Eq.trans ?_ (h.texts field)
    cases field <;> rfl
  have hspinner : Shows ios self uid delegate (.picked image :: seen)
      (filled.showLoadingSpinner self) := hfilled.of_eq (fun _ => id) rfl rfl
  obtain ⟨hclient, hsent⟩ : _ ∧ ∀ q ∈ _,
      Sent ios library self uid urlOf (.picked image :: seen) q :=
    run_updateUser hspinner
  rw [didFinishPicking]
  apply Callback.Prog.leaves_append
  · rw [Callback.Prog.run_append, Callback.Prog.run_append, run_setForm, run_showLoadingSpinner]
    exact hsent
  · rw [Callback.Prog.run_append, Callback.Prog.run_append, run_setForm, run_showLoadingSpinner]
    dsimp only
    rw [hclient]
    exact Callback.Prog.leaves_modify (hspinner.of_eq (fun _ => id) rfl rfl)

/-- Update Account takes over the picture that is shown. -/
theorem shows_setupProfileImage (h : Shows ios self uid delegate seen app) :
    Shows ios self uid delegate (.tapped :: seen)
      ((setupProfileImage self : Program Image Data).run app).1 := by
  have hphoto := h.userPhoto
  rw [setupProfileImage, run_setForm]
  refine h.setForm (fun field => ?_) ?_ ?_ rfl ?_
  · refine Eq.trans ?_ (h.texts field)
    split <;> cases field <;> rfl
  · refine Eq.trans ?_ hphoto
    split <;> rfl
  · rw [History.pickedImage, ← hphoto]
    split
    next image hp => rw [hp]; rfl
    next hp => rw [hp, Option.none_or, ← h.pickedImage]
  · refine Eq.trans ?_ h.delegate
    split <;> rfl

theorem leaves_updateAccount (h : Shows ios self uid delegate seen app) :
    Leaves ios library self uid delegate urlOf (.tapped :: seen) (updateAccount ios self) app := by
  obtain ⟨hclient, hsent⟩ : _ ∧ ∀ q ∈ _, Sent ios library self uid urlOf (.tapped :: seen) q :=
    run_updateUser h
  have htapped : Shows ios self uid delegate (.tapped :: seen)
      ((setupProfileImage self : Program Image Data).run app).1 := shows_setupProfileImage h
  rw [updateAccount]
  apply Callback.Prog.leaves_append
  · rw [Callback.Prog.run_append, Callback.Prog.run_append, hclient]
    intro q hq
    rcases List.mem_append.mp hq with hq | hq
    · rcases List.mem_append.mp hq with hq | hq
      · exact hsent q hq
      · exact absurd hq List.not_mem_nil
    · exact absurd hq List.not_mem_nil
  · rw [Callback.Prog.run_append, Callback.Prog.run_append, hclient]
    exact Callback.Prog.leaves_modify (htapped.of_eq (fun _ => id) rfl rfl)

theorem leaves_act (h : Shows ios self uid delegate seen app) {e : Act Image}
    (hlibrary : e = .library → library) {p : Program Image Data}
    (hp : act ios self e app = some p) :
    Leaves ios library self uid delegate urlOf (see e seen) p app := by
  cases e with
  | type field text =>
      cases hp
      exact leaves_type h field text
  | library =>
      cases hp
      exact leaves_photoLibrary (hlibrary rfl) h
  | pick image =>
      cases hp
      exact leaves_didFinishPicking h image
  | update =>
      cases hp
      exact leaves_updateAccount h
  | release =>
      cases hp
      refine Callback.Prog.leaves_modify ⟨h.signedIn, h.texts, h.userPhoto, h.pickedImage, ?_,
        h.delegate⟩
      exact Function.update_self ..

/-! ## What the handlers leave -/

/-- When `updateCurrentUser` is answered, the photo and the texts are saved as they then are. -/
theorem leaves_currentUserUpdated (h : Shows ios self uid delegate seen app) :
    Leaves ios library self uid delegate urlOf seen (currentUserUpdated ios self uid none) app := by
  rw [Leaves, Callback.Prog.Leaves]
  cases hgone : seen.gone with
  | true =>
      rw [run_currentUserUpdated_released (h.released.trans hgone)]
      exact Callback.Prog.leaves_done h
  | false =>
      rw [run_currentUserUpdated (h.released.trans hgone)]
      refine ⟨h.of_eq (fun _ => id) rfl rfl, fun q hq => ?_⟩
      rcases List.mem_append.mp hq with hq | hq
      · rw [run_saveUserPhoto] at hq
        dsimp only at hq
        split at hq
        · exact absurd hq List.not_mem_nil
        next data hdata =>
          rw [List.mem_singleton.mp hq]
          refine .putJpg data (app.clock.date 0) ?_
          rw [← h.pickedImage]
          exact hdata
      · rw [run_saveUser] at hq
        rw [List.mem_singleton.mp hq]
        exact .saveTexts (app.tick.profileForm self) _ _ h.texts

/-- The address of the library's photo is written for the user who is then signed in. -/
theorem leaves_savePhotoReference (hlibrary : library)
    (h : Shows ios self uid delegate seen app) :
    Leaves ios library self uid delegate urlOf seen (savePhotoReferenceForUser self
      (StorageReference.photo uid).description (urlOf (.photo uid))) app := by
  rw [Leaves, Callback.Prog.Leaves, run_savePhotoReferenceForUser]
  refine ⟨h, fun q hq => ?_⟩
  cases hu : app.currentUid with
  | none =>
      rw [hu] at hq
      exact absurd hq List.not_mem_nil
  | some other =>
      cases h.signedIn other hu
      rw [hu] at hq
      rw [List.mem_singleton.mp hq]
      exact .photoReference hlibrary

theorem leaves_handler {now : History Image} (h : Shows ios self uid delegate now app)
    {q : Pending Image Data} (hq : Sent ios library self uid urlOf seen q)
    (a : q.call.Response Image)
    (ha : Genuine urlOf ⟨q.call, a⟩) :
    Leaves ios library self uid delegate urlOf (hear q.call a now) (q.handler a)
      (receive q.call.request a app) := by
  have hreceived := h.receive hq a
  have hdone : Leaves ios library self uid delegate urlOf now .done
      (receive q.call.request a app) :=
    Callback.Prog.leaves_done hreceived
  cases hq with
  | load =>
      match a with
      | .error error => exact leaves_loadError hreceived (some error)
      | .ok none => exact leaves_loadError hreceived none
      | .ok (some document) => exact leaves_userLoaded hreceived rfl
  | loadCached photoUrl photoReference =>
      cases a with
      | none =>
          exact Callback.Prog.leaves_request hreceived (.loadImage photoUrl photoReference)
      | some image =>
          obtain ⟨hclient, hsent⟩ : Leaves ios library self uid delegate urlOf
              (.downloaded image :: now) _ _ := leaves_downloadedHandler hreceived image
          exact Callback.Prog.leaves_append hsent
            (Callback.Prog.leaves_request hclient (.loadImage photoUrl photoReference))
  | loadImage photoUrl photoReference =>
      cases a with
      | none => exact hdone
      | some image => exact leaves_downloadedHandler hreceived image
  | updateCurrentUser user =>
      cases a with
      | some error => exact leaves_loadError hreceived (some error)
      | none => exact leaves_currentUserUpdated hreceived
  | putPhoto hlibrary image data himage hdata =>
      cases a with
      | some error => exact hdone
      | none => exact Callback.Prog.leaves_request hreceived (.photoAddress hlibrary)
  | photoAddress hlibrary =>
      cases a with
      | error error => exact hdone
      | ok url =>
          cases ha
          obtain ⟨hclient, hsent⟩ : Leaves ios library self uid delegate urlOf now _ _ :=
            leaves_savePhotoReference hlibrary hreceived
          exact Callback.Prog.leaves_append hsent (Callback.Prog.leaves_done hclient)
  | photoReference hlibrary => exact hdone
  | putJpg data now' hdata =>
      cases a with
      | some error => exact hdone
      | none => exact Callback.Prog.leaves_request hreceived (.jpgAddress now')
  | jpgAddress now' =>
      cases a with
      | error error => exact hdone
      | ok url =>
          cases ha
          exact Callback.Prog.leaves_request hreceived (.savePhoto now')
  | savePhoto now' =>
      cases a with
      | some error => exact Callback.Prog.leaves_modify (hreceived.showErrorWith _ _)
      | none => exact Callback.Prog.leaves_modify (hreceived.of_eq (fun _ => id) rfl rfl)
  | saveTexts form createdAt updatedAt hform =>
      cases a with
      | some error => exact hdone
      | none =>
          refine Callback.Prog.leaves_append (fun r hr => absurd hr List.not_mem_nil) ?_
          exact Callback.Prog.leaves_modify (hreceived.of_eq (fun _ => id) rfl rfl)

/-! ## Runs -/

section Run

variable {server : Server Data} {es : List (Event Image)} {o : ScreenRun Image Data}

theorem server_of_run
    (hrun : EventRun.run (step ios self) (opened ios server app self) es = some o) :
    o.server = replay server (o.journal.map Prod.snd) :=
  Journal.server_of_run rfl (Callback.Observed.run_world hrun)

theorem genuine_of_run
    (hrun : EventRun.run (step ios self) (opened ios server app self) es = some o) :
    ∀ e ∈ o.journal, Genuine server.urlOf e.2 := fun e he =>
  Journal.genuine_of_run rfl (Callback.Observed.run_world hrun) e.2 (List.mem_map_of_mem he)

theorem follows_opened (hu : app.currentUid = some uid) (hthere : app.released self = false) :
    (opened ios server app self).Follows
      (Shows ios self uid (app.profileForm self).delegate)
      (Sent ios library self uid server.urlOf) := by
  apply Callback.Observed.follows_exec
  · exact fun q hq => absurd hq List.not_mem_nil
  · exact fun e he => absurd he List.not_mem_nil
  have hawake : Shows ios self uid (app.profileForm self).delegate []
      (awakeFromNib ios self app) := by
    have hform : (awakeFromNib ios self app).profileForm self =
        { userPhoto := ios.named "placeholder-person"
          delegate := (app.profileForm self).delegate } := Function.update_self ..
    have hplaceholder : ios.named "placeholder-person" = some ios.placeholderPerson := if_pos rfl
    refine ⟨fun other ho => ?_, fun field => ?_, ?_, ?_, hthere, ?_⟩
    · exact Option.some.inj (ho.symm.trans hu)
    · rw [hform]
      cases field <;> rfl
    · rw [hform, hplaceholder]
      rfl
    · rw [hform]
      rfl
    · rw [hform]
  refine Callback.Prog.leaves_append (fun q hq => absurd hq List.not_mem_nil) ?_
  change Leaves ios library self uid _ server.urlOf [] (loadUserData ios self)
    (awakeFromNib ios self app)
  have hsigned : (awakeFromNib ios self app).currentUid = some uid := hu
  rw [Leaves, Callback.Prog.Leaves, loadUserData, run_guardUid_some _ hsigned]
  exact Callback.Prog.leaves_request hawake .load

/-- In every run, the observer knows what the screen shows and what the requests carry. -/
theorem follows_run (hu : app.currentUid = some uid) (hthere : app.released self = false)
    (hlibrary : .act .library ∈ es → library)
    (hrun : EventRun.run (step ios self) (opened ios server app self) es = some o) :
    o.Follows (Shows ios self uid (app.profileForm self).delegate)
      (Sent ios library self uid server.urlOf) := by
  refine (follows_opened hu hthere).run
    (A := fun call a => Genuine server.urlOf (⟨call, a⟩ : Entry Image Data)) ?_ ?_ hrun
    (genuine_of_run hrun)
  · exact fun origin q a seen app hshows hsent ha => leaves_handler hshows hsent a ha
  · rintro e he seen app p hshows hp
    refine leaves_act hshows (fun hl => hlibrary ?_) hp
    rwa [← hl]

end Run

end GiveMeMovies.InformationScreen
