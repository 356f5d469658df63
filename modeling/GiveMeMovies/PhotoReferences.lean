import GiveMeMovies.ImageView
import GiveMeMovies.PhotoPointers
import GiveMeMovies.StoragePath

/-!
# Showing the photo of a profile

The screens that show a photo hand both pointers of the document to `setImageFrom`, which reads the
reference as an address of the bucket and stops the process when it cannot. The references that the
app writes can be read, so it never stops there unless the store held one that cannot be read
before.
-/

namespace GiveMeMovies.PhotoReferences

open AppRuns AppRequests PhotoPointers StoragePath

variable {Image Data : Type}

inductive LoadedSource where
  | url (address : String)
  | reference (path : StoragePath)
  | named (name : String)

variable (ios : Platform Image Data) (swift : SwiftString)
  (pathComponents : List Char → Option (List (List Char)))

/-- What `setImageFrom` hands to the downloads, with a reference as the storage library reads it. -/
def load : UIImageView.ImageSource → Except StorageFailure LoadedSource
  | .url address => .ok (.url address)
  | .reference photoReference =>
      (referenceForURL swift pathComponents appBucket photoReference.toList).map .reference
  | .placeholder => .ok (.named "userPlaceholder")

/-- The photo in `loadUserData` of a screen that shows the image `placeholder` where there is
none. -/
def loadedPhoto (placeholder : String) (user : User) : Except StorageFailure LoadedSource :=
  match user.photoDownloadUrl, user.photoReference with
  | some downloadUrl, some photoReference =>
      load swift pathComponents (UIImageView.imageSource ios downloadUrl photoReference)
  | _, _ => .ok (.named placeholder)

/-- The reference is empty, or an address that the storage library reads. -/
def Readable (reference : String) : Prop :=
  reference = "" ∨
    ∃ path, referenceForURL swift pathComponents appBucket reference.toList = .ok path

def ReadableAt (server : Server Data) (uid : Uid) : Prop :=
  ∀ reference, server.field uid User.KEY_PHOTO_REFERENCE = some (.string reference) →
    Readable swift pathComponents reference

/-- The document that an answer brought, and its user. -/
def loaded : Entry Image Data → Option (Uid × Fields)
  | ⟨⟨_, _, .getDocument uid⟩, .ok (some fields)⟩ => some (uid, fields)
  | _ => none

variable {ios swift pathComponents} {server : Server Data}

theorem bucket_of_read {url : List Char} {path : StoragePath}
    (h : referenceForURL swift pathComponents appBucket url = .ok path) :
    path.bucket = appBucket := by
  unfold referenceForURL at h
  cases hpath : StoragePath.path swift pathComponents url with
  | error failure =>
      rw [hpath] at h
      cases h
  | ok path' =>
      rw [hpath, Except.bind, if_neg appBucket_clean.1] at h
      by_cases hsame : swift.equal path'.bucket appBucket = true
      · rw [if_pos hsame] at h
        cases h
        exact swift.eq_of_equal _ _ appBucket_ascii hsame
      · rw [if_neg hsame] at h
        cases h

/-- A photo is shown, and one that is not loaded from a web address is in the bucket of the app. -/
theorem loadedPhoto_of_readable {user : User}
    (h : ∀ reference, user.photoReference = some reference →
      Readable swift pathComponents reference) (placeholder : String) :
    ∃ source, loadedPhoto ios swift pathComponents placeholder user = .ok source ∧
      ∀ path, source = .reference path → path.bucket = appBucket := by
  unfold loadedPhoto
  split
  next downloadUrl photoReference _ href =>
    unfold UIImageView.imageSource
    split
    · exact ⟨_, rfl, nofun⟩
    · split
      next hne =>
        obtain ⟨path, hpath⟩ := (h photoReference href).resolve_left hne
        rw [load, hpath]
        refine ⟨.reference path, rfl, fun path' hp => ?_⟩
        cases hp
        exact bucket_of_read hpath
      next => exact ⟨.named "userPlaceholder", rfl, nofun⟩
  next => exact ⟨.named placeholder, rfl, nofun⟩

variable (swift) in
/-- No character of an id handed out joins the slash in front of it. -/
def IdsStandAlone : Prop :=
  ∀ uid, swift.StandsAlone '/' (StorageReference.photo uid).description.toList

theorem readable_photo (hids : IdsStandAlone swift) (owner : Uid) :
    Readable swift pathComponents (StorageReference.photo owner).description := by
  obtain ⟨path, hpath, _⟩ := referenceForURL_description swift pathComponents (hids owner)
  exact Or.inr ⟨path, hpath⟩

theorem ReadableAt.effect (hids : IdsStandAlone swift) {after : Server Data} {uid : Uid}
    {write : Option PointerWrite}
    (h : ReadableAt swift pathComponents server uid) (heffect : Effect server after uid write) :
    ReadableAt swift pathComponents after uid := by
  intro reference href
  cases heffect with
  | unchanged hsame _ => exact h reference (hsame.symm.trans href)
  | both owner refers =>
      have howner := Option.some.inj (href.symm.trans refers.1)
      cases howner
      exact readable_photo hids owner
  | address hsame _ => exact h reference (hsame.symm.trans href)
  | cleared hnone => cases href.symm.trans hnone

theorem docs_of_loaded {call : Call Data} {outcome : Outcome Image} {uid : Uid} {fields : Fields}
    (h : loaded ⟨call, call.request.reply outcome server⟩ = some (uid, fields)) :
    server.docs uid = some fields := by
  obtain ⟨place, self, request⟩ := call
  cases request with
  | getDocument uid' =>
      cases hdoc : server.docs uid' with
      | none => cases outcome <;> simp [loaded, Request.reply, Outcome.error, hdoc] at h
      | some fields' =>
          cases outcome <;> simp [loaded, Request.reply, Outcome.error, hdoc] at h
          all_goals
            obtain ⟨rfl, rfl⟩ := h
            exact hdoc
  | _ => cases h

/-! ## Runs -/

structure Legible (swift : SwiftString) (pathComponents : List Char → Option (List (List Char)))
    (ios : Platform Image Data) (w : World Image Data) : Prop where
  sound : Sound ios w
  stored : ∀ uid, ReadableAt swift pathComponents w.server uid
  journal : ∀ e ∈ w.journal, ∀ uid fields, loaded e = some (uid, fields) →
    ∀ reference, fields User.KEY_PHOTO_REFERENCE = some (.string reference) →
      Readable swift pathComponents reference

variable {w w' : World Image Data} {es : List (OwnEvent Image)} {keptUser : Option AuthUser}
  {clock : Clock}

theorem Legible.step (hids : IdsStandAlone swift) (h : Legible swift pathComponents ios w)
    {e : OwnEvent Image}
    (hstep : ownStep ios w e = some w') : Legible swift pathComponents ios w' := by
  have hsound := h.sound.step hstep
  cases stepped_of_ownStep hstep with
  | act e p hp => exact ⟨hsound, h.stored, h.journal⟩
  | accounts list => exact ⟨hsound, h.stored, h.journal⟩
  | complete n outcome p hp =>
      refine ⟨hsound, fun uid => ?_, fun e he uid fields hloaded reference href => ?_⟩
      · have hknown := h.sound.known p (List.mem_of_getElem? hp)
        exact (h.stored uid).effect hids
          (effect_response hknown (p.call.request.reply outcome w.server))
      · rcases List.mem_append.mp he with he | he
        · exact h.journal e he uid fields hloaded reference href
        · rw [List.mem_singleton.mp he] at hloaded
          apply h.stored uid
          rw [Server.field, docs_of_loaded hloaded]
          exact href

theorem legible_of_run (hids : IdsStandAlone swift)
    (h : ∀ uid, ReadableAt swift pathComponents server uid)
    (hrun : EventRun.run (ownStep ios) (launched server keptUser clock) es = some w) :
    Legible swift pathComponents ios w := by
  refine EventRun.run_invariant (fun _ _ _ h hstep => h.step hids hstep) ?_ hrun
  exact ⟨sound_launched server keptUser clock, h, fun e he => absurd he List.not_mem_nil⟩

end GiveMeMovies.PhotoReferences
