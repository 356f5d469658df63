import GiveMeMovies.App

/-!
# The image views with the photo of the profile

Three screens show the photo of the profile and set it from the two pointers of the document: the
address is downloaded when it is a URL, the reference otherwise, and without either a placeholder
is shown.
-/

namespace GiveMeMovies.UIImageView

open Program

variable {Image Data : Type} (ios : Platform Image Data)

/-- What `setImageFrom` shows or begins to load. -/
inductive ImageSource where
  | url (address : String)
  | reference (photoReference : String)
  | placeholder
  deriving DecidableEq

def imageSource (photoUrl photoReference : String) : ImageSource :=
  if ios.isURL photoUrl then .url photoUrl
  else if photoReference ≠ "" then .reference photoReference
  else .placeholder

/-- The `image` of the photo view of the screen `self`. -/
def setImage (self : Controller) (image : Option Image) : Program Image Data :=
  .modify (fun app => app.setProfileForm self { app.profileForm self with userPhoto := image })

/-- A failed download leaves the image view as it is. -/
def downloadedHandler (self : Controller) : Option Image → Program Image Data
  | some image => weakly self (setImage self (some image))
  | none => .done

/-- With `.refreshCached` a cached image is shown first and then downloaded again. -/
def cachedHandler (self : Controller) (photoUrl photoReference : String)
    (image : Option Image) : Program Image Data :=
  downloadedHandler self image ++
    send .imageView self (.loadImage photoUrl photoReference) (downloadedHandler self)

/-- The placeholder is `UIImage(named: "userPlaceholder")`. -/
def setImageFrom (self : Controller) (photoUrl photoReference : String) : Program Image Data :=
  setImage self (ios.named "userPlaceholder") ++
    match imageSource ios photoUrl photoReference with
    | .url _ =>
        send .imageView self (.loadImage photoUrl photoReference)
          (cachedHandler self photoUrl photoReference)
    | .reference _ =>
        send .imageView self (.loadImage photoUrl photoReference) (downloadedHandler self)
    | .placeholder => .done

/-- The photo in `loadUserData` of a screen that shows the image `placeholder` where the document
does not have both pointers. -/
def loadPhoto (self : Controller) (placeholder : String) (user : User) : Program Image Data :=
  match user.photoDownloadUrl, user.photoReference with
  | some downloadUrl, some photoReference => setImageFrom ios self downloadUrl photoReference
  | _, _ => setImage self (ios.named placeholder)

section Within

variable {ios} {C : Contract Image Data} {self : Controller}

theorem within_downloadedHandler {image : Option Image}
    (h : ∀ i, image = some i → (setImage self (some i) : Program Image Data).Within C) :
    (downloadedHandler self image : Program Image Data).Within C := by
  cases image with
  | none => trivial
  | some image => exact within_weakly (h image rfl)

/-- A photo is loaded by setting a named image and sending one of two requests. -/
theorem within_loadPhoto {placeholder : String} {user : User}
    (hnamed : ∀ name, (setImage self (ios.named name) : Program Image Data).Within C)
    (hcached : ∀ photoUrl photoReference,
      (send .imageView self (.loadImage photoUrl photoReference)
        (cachedHandler self photoUrl photoReference) : Program Image Data).Within C)
    (hloaded : ∀ photoUrl photoReference,
      (send .imageView self (.loadImage photoUrl photoReference)
        (downloadedHandler self) : Program Image Data).Within C) :
    (loadPhoto ios self placeholder user).Within C := by
  unfold loadPhoto
  split
  · refine (hnamed _).append ?_
    split
    · exact hcached _ _
    · exact hloaded _ _
    · trivial
  · exact hnamed placeholder

end Within

end GiveMeMovies.UIImageView
