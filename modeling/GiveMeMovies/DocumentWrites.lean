import GiveMeMovies.AppResponses

/-!
# What the app writes to a document

Five kinds of requests change `users/uid`: the registration replaces it, the library merges both
photo pointers into it, the two halves of a profile update change its photo address and its
texts, and a deletion removes it.
-/

namespace GiveMeMovies.AppRequests

open UserManager

variable {Image Data : Type} {ios : Platform Image Data} {urlOf : StorageReference → String}

/-- The user whose document a request writes or deletes. -/
def target : Request Data → Option Uid
  | .setData uid _ _ | .updateData uid _ | .deleteDocument uid => some uid
  | _ => none

theorem docs_commit_of_target_ne {request : Request Data} {uid : Uid}
    (h : target request ≠ some uid) (a : request.Response Image) (server : Server Data) :
    (request.commit a server).docs uid = server.docs uid := by
  have hrewritten : request.rewritten uid (server.docs uid) = server.docs uid := by
    cases request with
    | setData uid' fields merge => exact if_neg fun hu => h (congrArg some hu)
    | updateData uid' fields => exact if_neg fun hu => h (congrArg some hu)
    | deleteDocument uid' => exact if_neg fun hu => h (congrArg some hu)
    | _ => rfl
  rw [Request.docs_commit, hrewritten, ite_self]

section Fields

open Journal

variable (server : Server Data) (uid : Uid) (fields : Fields) (key : String)

variable (Image) in
theorem field_merged :
    (@Request.commit Data Image (.setData uid fields true) none server).field uid key =
      (fields key).or (server.field uid key) :=
  (field_setDoc_merge server uid uid fields key).trans (by rw [if_pos rfl])

variable (Image) in
theorem field_updated :
    (@Request.commit Data Image (.updateData uid fields) none server).field uid key =
      (fields key).or (server.field uid key) :=
  (field_setDoc_merge server uid uid fields key).trans (by rw [if_pos rfl])

variable (Image) in
theorem field_replaced :
    (@Request.commit Data Image (.setData uid fields false) none server).field uid key =
      fields key := by
  simp [Request.commit, Server.field, Server.setDoc, Server.writtenDoc]

variable (Image) in
theorem field_deleted :
    (@Request.commit Data Image (.deleteDocument uid) none server).field uid key = none := by
  simp [Request.commit, Server.field, Server.setDoc]

end Fields

variable (Image urlOf) in
inductive DocumentWrite (uid : Uid) : Call Data → Prop
  | registerUser (self : Controller) (form : RegisterFields Image) (clock : Clock) :
      DocumentWrite uid ⟨.registerSaveUser, self, .setData uid
        (RegisterViewController.savedUser uid form clock).parameters false⟩
  | photoReference (self : Controller) (owner : Uid) :
      DocumentWrite uid (StorageManager.savePhotoReferenceCall self uid
        (StorageReference.photo owner).description (urlOf (.photo owner)))
  | savePhoto (self : Controller) (now : Date) :
      DocumentWrite uid ⟨.informationSavePhoto, self, .updateData uid
        (ProfileInformationViewController.photoUser uid now (urlOf (.photoJpg uid))).parameters⟩
  | saveTexts (self : Controller) (form : ProfileForm Image) (clock : Clock) :
      DocumentWrite uid ⟨.informationSaveUser, self, .updateData uid
        (ProfileInformationViewController.formUser uid form (clock.date 0)
          (clock.date 1)).parameters⟩
  | deletion (place : Place) (self : Controller) :
      DocumentWrite uid ⟨place, self, .deleteDocument uid⟩

theorem Known.documentWrite {p : Pending Image Data} (h : Known ios urlOf everyCall p) {uid : Uid}
    (ht : target p.call.request = some uid) : DocumentWrite Image urlOf uid p.call := by
  cases h with
  | registerUser self uid form clock =>
      cases ht
      exact .registerUser self form clock
  | photoReference self uid owner =>
      cases ht
      exact .photoReference self owner
  | savePhoto self uid now =>
      cases ht
      exact .savePhoto self now
  | saveTexts self uid form clock =>
      cases ht
      exact .saveTexts self form clock
  | deleteDocument self uid =>
      cases ht
      exact .deletion _ self
  | backDeleteDocument self uid =>
      cases ht
      exact .deletion _ self
  | _ => cases ht

end GiveMeMovies.AppRequests
