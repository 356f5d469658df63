import GiveMeMovies.InformationScreen

/-!
# What the answers to the profile information screen leave on the server

Every field of the document and every photo holds what was on the screen when the last request to
write it was sent that has succeeded, or else what was there before.
-/

namespace GiveMeMovies.InformationScreen

open Program UserManager ProfileInformationViewController Journal

variable {Image Data : Type} {ios : Platform Image Data} {library : Prop} {self : Controller}
  {uid : Uid} {urlOf : StorageReference → String} {app : App Image} {server : Server Data}
  {es : List (Event Image)} {o : ScreenRun Image Data}

/-! ## Answers -/

/-- A response with where its request came from. -/
abbrev Answered (Image Data : Type) :=
  Callback.Origin (History Image) × Entry Image Data

/-- What had been seen when an upload to `ref` was sent that has succeeded. -/
def uploadedTo (ref : StorageReference) : Answered Image Data → Option (History Image)
  | ⟨origin, ⟨⟨_, _, .putData ref' _⟩, none⟩⟩ => if ref' = ref then some origin.seen else none
  | _ => none

/-- The photo path whose address an answered request wrote. -/
def addressed : Answered Image Data → Option StorageReference
  | ⟨_, ⟨⟨.savePhotoReference, _, .setData uid _ _⟩, none⟩⟩ => some (.photo uid)
  | ⟨_, ⟨⟨.informationSavePhoto, _, .updateData uid _⟩, none⟩⟩ => some (.photoJpg uid)
  | _ => none

/-- What had been seen when a save of the texts was sent that has succeeded. -/
def savedTexts : Answered Image Data → Option (History Image)
  | ⟨origin, ⟨⟨.informationSaveUser, _, .updateData _ _⟩, none⟩⟩ => some origin.seen
  | _ => none

/-- The bytes that an upload to `ref` carries which is sent after `seen`: the library uploads the
picture that is shown, and an update the image that was picked. -/
def upload (ios : Platform Image Data) (uid : Uid) (ref : StorageReference)
    (seen : History Image) : Option Data :=
  if ref = .photo uid then (seen.photo ios).bind fun image => ios.jpegData image (1 / 2)
  else ios.jpegData ((seen.pickedImage ios).getD ios.placeholderPerson) (1 / 10)

theorem seen_of_uploadedTo {e : Answered Image Data} {ref : StorageReference}
    {seen : History Image} (h : uploadedTo ref e = some seen) : seen = e.1.seen := by
  unfold uploadedTo at h
  split at h
  next origin _ _ ref' _ =>
    by_cases hr : ref' = ref
    · rw [if_pos hr] at h
      exact (Option.some.inj h).symm
    · rw [if_neg hr] at h
      cases h
  · cases h

theorem uploaded_putData {place : Place} {ref' : StorageReference} {data : Data}
    {origin : Callback.Origin (History Image)} (ref : StorageReference)
    (hupload : upload ios uid ref' origin.seen = some data) (a : Option NSError) :
    let e : Answered Image Data := (origin, ⟨⟨place, self, .putData ref' data⟩, a⟩)
    uploaded ref e.2 = (uploadedTo ref e).bind (upload ios uid ref) ∧
      ∀ seen, uploadedTo ref e = some seen → (upload ios uid ref seen : Option Data).isSome := by
  cases a with
  | some error =>
      refine ⟨rfl, fun seen hseen => ?_⟩
      cases hseen
  | none =>
      simp only [uploaded, uploadedTo]
      by_cases hr : ref' = ref
      · rw [if_pos hr, if_pos hr, ← hr, Option.bind_some, hupload]
        refine ⟨rfl, fun seen hseen => ?_⟩
        cases hseen
        rw [hupload]
        rfl
      · rw [if_neg hr, if_neg hr]
        refine ⟨rfl, fun seen hseen => ?_⟩
        cases hseen

theorem photoFields_apply (photoRef downloadUrl : String) (field : TextField) :
    photoFields photoRef downloadUrl field.key = none ∧
      photoFields photoRef downloadUrl User.KEY_PHOTO_DOWNLOAD_URL =
        some (.string downloadUrl) := by
  refine ⟨?_, Fields.assign_self _ _ _⟩
  cases field <;> rfl

theorem photoUser_apply (now : Date) (url : String) (field : TextField) :
    (photoUser uid now url).parameters field.key = none ∧
      (photoUser uid now url).parameters User.KEY_PHOTO_DOWNLOAD_URL = some (.string url) ∧
      (photoUser uid now url).parameters User.KEY_PHOTO_REFERENCE = none := by
  refine ⟨?_, User.parameters_photoDownloadUrl _, User.parameters_photoReference _⟩
  rw [User.parameters_apply]
  cases field <;> rfl

theorem formUser_apply (form : ProfileForm Image) (createdAt updatedAt : Date)
    (field : TextField) :
    (formUser uid form createdAt updatedAt).parameters field.key =
        some (.string (field.text form)) ∧
      (formUser uid form createdAt updatedAt).parameters User.KEY_PHOTO_DOWNLOAD_URL = none ∧
      (formUser uid form createdAt updatedAt).parameters User.KEY_PHOTO_REFERENCE = none := by
  refine ⟨?_, User.parameters_photoDownloadUrl _, User.parameters_photoReference _⟩
  rw [User.parameters_apply]
  cases field <;> rfl

section Answered

variable {e : Answered Image Data}
  (h : ∃ handler, Sent ios library self uid urlOf e.1.seen ⟨e.2.call, handler⟩)

include h

/-- The bytes of an upload are those of the picture that was on the screen. -/
theorem uploaded_answered (ref : StorageReference) :
    uploaded ref e.2 = (uploadedTo ref e).bind (upload ios uid ref) ∧
      ∀ seen, uploadedTo ref e = some seen → (upload ios uid ref seen : Option Data).isSome := by
  obtain ⟨origin, ⟨⟨place, controller, request⟩, a⟩⟩ := e
  obtain ⟨handler, h⟩ := h
  change Sent ios library self uid urlOf origin.seen ⟨⟨place, controller, request⟩, handler⟩ at h
  cases h with
  | putPhoto hlibrary image data himage hdata =>
      apply uploaded_putData
      rw [upload, if_pos rfl, himage, Option.bind_some, hdata]
  | putJpg data now hdata =>
      apply uploaded_putData
      rw [upload, if_neg (StorageReference.photo_ne_photoJpg uid uid).symm, hdata]
  | _ => exact ⟨rfl, nofun⟩

/-- The texts of a save are those that were on the screen. -/
theorem written_text (field : TextField) : written uid field.key e.2 =
    (savedTexts e).map fun seen => .string (seen.text field) := by
  obtain ⟨origin, ⟨⟨place, controller, request⟩, a⟩⟩ := e
  obtain ⟨handler, h⟩ := h
  change Sent ios library self uid urlOf origin.seen ⟨⟨place, controller, request⟩, handler⟩ at h
  cases h with
  | photoReference hlibrary =>
      cases a with
      | some error => rfl
      | none => simp [written, savedTexts, (photoFields_apply _ _ field).1]
  | savePhoto now =>
      cases a with
      | some error => rfl
      | none => simp [written, savedTexts, (photoUser_apply now _ field).1]
  | saveTexts form createdAt updatedAt hform =>
      cases a with
      | some error => rfl
      | none => simp [written, savedTexts, (formUser_apply form _ _ field).1, hform]
  | _ => rfl

/-- The address field is written by the two pipelines and by nothing else. -/
theorem written_address : written uid User.KEY_PHOTO_DOWNLOAD_URL e.2 =
    (addressed e).map fun ref => .string (urlOf ref) := by
  obtain ⟨origin, ⟨⟨place, controller, request⟩, a⟩⟩ := e
  obtain ⟨handler, h⟩ := h
  change Sent ios library self uid urlOf origin.seen ⟨⟨place, controller, request⟩, handler⟩ at h
  cases h with
  | photoReference hlibrary =>
      cases a with
      | some error => rfl
      | none => simp [written, addressed, (photoFields_apply _ _ .firstName).2]
  | savePhoto now =>
      cases a with
      | some error => rfl
      | none => simp [written, addressed, (photoUser_apply now _ .firstName).2.1]
  | saveTexts form createdAt updatedAt hform =>
      cases a with
      | some error => rfl
      | none => simp [written, addressed, (formUser_apply form _ _ .firstName).2.1]
  | _ => rfl

/-- Only the library writes the reference field. -/
theorem written_reference (hlibrary : ¬ library) :
    written uid User.KEY_PHOTO_REFERENCE e.2 = none := by
  obtain ⟨origin, ⟨⟨place, controller, request⟩, a⟩⟩ := e
  obtain ⟨handler, h⟩ := h
  change Sent ios library self uid urlOf origin.seen ⟨⟨place, controller, request⟩, handler⟩ at h
  cases h with
  | photoReference hl => exact absurd hl hlibrary
  | savePhoto now =>
      cases a with
      | some error => rfl
      | none => simp [written, (photoUser_apply now _ .firstName).2.2]
  | saveTexts form createdAt updatedAt hform =>
      cases a with
      | some error => rfl
      | none => simp [written, (formUser_apply form _ _ .firstName).2.2]
  | _ => rfl

theorem keeps_answered : e.2.call.request.Keeps := by
  obtain ⟨origin, ⟨⟨place, controller, request⟩, a⟩⟩ := e
  obtain ⟨handler, h⟩ := h
  change Sent ios library self uid urlOf origin.seen ⟨⟨place, controller, request⟩, handler⟩ at h
  cases h with
  | photoReference hlibrary => rfl
  | _ => trivial

/-- Without the library, uploads go to `photoJpg`, and so do the addresses that are written. -/
theorem photoJpg_answered (hlibrary : ¬ library) :
    (∀ ref, uploadedTo ref e ≠ none → ref = .photoJpg uid) ∧
      ∀ ref, addressed e = some ref → ref = .photoJpg uid := by
  obtain ⟨origin, ⟨⟨place, controller, request⟩, a⟩⟩ := e
  obtain ⟨handler, h⟩ := h
  change Sent ios library self uid urlOf origin.seen ⟨⟨place, controller, request⟩, handler⟩ at h
  cases h with
  | putPhoto hl image data himage hdata => exact absurd hl hlibrary
  | photoReference hl => exact absurd hl hlibrary
  | putJpg data now hdata =>
      refine ⟨fun ref href => ?_, nofun⟩
      by_contra hne
      cases a with
      | some error => exact href rfl
      | none => exact href (if_neg (Ne.symm hne))
  | savePhoto now =>
      cases a with
      | some error => exact ⟨fun ref href => absurd rfl href, nofun⟩
      | none => exact ⟨fun ref href => absurd rfl href, fun ref href => (Option.some.inj href).symm⟩
  | _ => exact ⟨fun ref href => absurd rfl href, nofun⟩

end Answered

/-! ## What a run leaves on the server -/

section Left

variable (hu : app.currentUid = some uid) (hthere : app.released self = false)
  (hrun : EventRun.run (step ios self) (opened ios server app self) es = some o)

include hu hthere hrun

theorem sent_of_run : ∀ e ∈ o.journal, ∃ handler,
    Sent ios True self uid server.urlOf e.1.seen ⟨e.2.call, handler⟩ :=
  (follows_run hu hthere (fun _ => trivial) hrun).journal

theorem keeps_of_run : ∀ e ∈ o.journal.map Prod.snd, e.call.request.Keeps := by
  intro e he
  obtain ⟨answered, hanswered, rfl⟩ := List.mem_map.mp he
  exact keeps_answered (sent_of_run hu hthere hrun answered hanswered)

omit hu hthere in
theorem urlOf_of_run : o.server.urlOf = server.urlOf := by
  rw [server_of_run hrun, urlOf_replay]

/-- A text is the one that was on the screen when the last save to succeed was sent. -/
theorem text_of_run (field : TextField) : o.server.field uid field.key =
    ((latest savedTexts o.journal).map fun seen => .string (seen.text field)).or
      (server.field uid field.key) := by
  have hsent := sent_of_run hu hthere hrun
  rw [server_of_run hrun, field_replay server uid field.key (keeps_of_run hu hthere hrun),
    latest_comp, latest_map fun e he => written_text (hsent e he) field]

/-- The address is that of the path whose address was written last. -/
theorem address_of_run : o.server.field uid User.KEY_PHOTO_DOWNLOAD_URL =
    ((latest addressed o.journal).map fun ref => .string (server.urlOf ref)).or
      (server.field uid User.KEY_PHOTO_DOWNLOAD_URL) := by
  have hsent := sent_of_run hu hthere hrun
  rw [server_of_run hrun, field_replay server uid _ (keeps_of_run hu hthere hrun),
    latest_comp, latest_map fun e he => written_address (hsent e he)]

/-- An object holds the picture that was on the screen when the last upload to succeed was
sent. -/
theorem object_of_run (ref : StorageReference) : o.server.objects ref =
    ((latest (uploadedTo ref) o.journal).bind (upload ios uid ref)).or
      (server.objects ref) := by
  have hsent := sent_of_run hu hthere hrun
  rw [server_of_run hrun, objects_replay server ref (keeps_of_run hu hthere hrun), latest_comp,
    latest_bind (fun e he => (uploaded_answered (hsent e he) ref).1)
      fun e he => (uploaded_answered (hsent e he) ref).2]

end Left

end GiveMeMovies.InformationScreen
