import GiveMeMovies.InformationAnswers

/-!
# Saving the texts of a profile

A tap on Update Account sends the texts and then always uploads a photo to `photoJpg`, the picture
that was shown at the tap or the placeholder, and points the document to it. The photo is left as
it was only when these requests fail or when that picture is the one that was stored.
-/

namespace GiveMeMovies.ProfileTextUpdate

open InformationScreen Journal

variable {Image Data : Type}

/-- The user only edits the texts, taps Update Account and leaves the screen. -/
def NothingPicked (es : List (Event Image)) : Prop :=
  .act .library ∉ es ∧ ∀ image, .act (.pick image) ∉ es

/-- The photo of `uid` is as before, in the document and in the storage. -/
structure PhotoUntouched (before after : Server Data) (uid : Uid) : Prop where
  photoReference :
    after.field uid User.KEY_PHOTO_REFERENCE = before.field uid User.KEY_PHOTO_REFERENCE
  profilePicturePath :
    after.field uid User.KEY_PHOTO_DOWNLOAD_URL = before.field uid User.KEY_PHOTO_DOWNLOAD_URL
  photo : after.objects (.photo uid) = before.objects (.photo uid)
  photoJpg : after.objects (.photoJpg uid) = before.objects (.photoJpg uid)

/-- The picture shown at the last tap at which there was one. The photo of a document has been
taken off the screen when its download has not come by then. -/
def shownAtTap (ios : Platform Image Data) : History Image → Option Image
  | [] => none
  | .tapped :: seen => (History.photo ios seen).or (shownAtTap ios seen)
  | _ :: seen => shownAtTap ios seen

/-- The picture shown at the tap, or else the placeholder, is what is stored. -/
def ShowsStored (ios : Platform Image Data) (before : Server Data) (uid : Uid)
    (seen : History Image) : Prop :=
  before.objects (.photoJpg uid) =
    ios.jpegData ((shownAtTap ios seen).getD ios.placeholderPerson) (1 / 10)

/-- No upload succeeds, or the tap before the last one to succeed found the stored picture on the
screen, and no write of an address succeeds, or the address was there. -/
def SavesSamePhoto (ios : Platform Image Data) (before : Server Data) (uid : Uid)
    (journal : List (Answered Image Data)) : Prop :=
  (∀ seen, latest (uploadedTo (.photoJpg uid)) journal = some seen →
    ShowsStored ios before uid seen) ∧
  ((latest addressed journal).isSome → before.field uid User.KEY_PHOTO_DOWNLOAD_URL =
    some (.string (before.urlOf (.photoJpg uid))))

variable {ios : Platform Image Data} {server : Server Data} {app : App Image} {self : Controller}
  {uid : Uid} {es : List (Event Image)} {o : ScreenRun Image Data}

/-- Where nothing has been picked, a tap takes over the picture that it finds. -/
theorem pickedImage_eq_shownAtTap {seen : History Image}
    (h : ∀ image, .picked image ∉ seen) : seen.pickedImage ios = shownAtTap ios seen := by
  induction seen with
  | nil => rfl
  | cons happening seen ih =>
      have hrest := ih fun image himage => h image (List.mem_cons_of_mem happening himage)
      cases happening with
      | picked image => exact absurd List.mem_cons_self (h image)
      | tapped => rw [History.pickedImage, shownAtTap, hrest]
      | _ => exact hrest

theorem or_eq_self_iff {β : Type} {x y : Option β} :
    x.or y = y ↔ ∀ b, x = some b → y = some b := by
  cases x with
  | none => simp
  | some b =>
      rw [Option.some_or]
      constructor
      · rintro rfl b' h
        exact h
      · exact fun h => (h b rfl).symm

/-! ## A run without a pick -/

section Run

variable (hu : app.currentUid = some uid) (hthere : app.released self = false)
  (hpicked : NothingPicked es)
  (hrun : EventRun.run (step ios self) (opened ios server app self) es = some o)

include hpicked hrun

theorem not_picked_of_run : ∀ e ∈ o.journal, ∀ image, .picked image ∉ e.1.seen := by
  apply Callback.Observed.seen_of_run (P := fun seen => ∀ image, .picked image ∉ seen) ?_ ?_ ?_ ?_
    ?_ hrun
  · exact fun image h => absurd h List.not_mem_nil
  · intro q hq image
    obtain ⟨p, _, rfl⟩ := List.mem_map.mp hq
    exact List.not_mem_nil
  · exact fun e he => absurd he List.not_mem_nil
  · intro d hd seen hseen image
    cases d with
    | library => exact hseen image
    | pick other => exact absurd hd (hpicked.2 other)
    | _ => simpa [observer, see] using hseen image
  · intro call a seen hseen image
    change _ ∉ hear call a seen
    unfold hear
    split
    · simpa using hseen image
    · simpa using hseen image
    · exact hseen image

include hu hthere

theorem sent_of_nothingPicked : ∀ e ∈ o.journal, ∃ handler,
    Sent ios False self uid server.urlOf e.1.seen ⟨e.2.call, handler⟩ :=
  (follows_run hu hthere (fun hlibrary => hpicked.1 hlibrary) hrun).journal

/-- What is uploaded is the picture that was shown at the last tap, or the placeholder. -/
theorem uploads_shown {e : Answered Image Data} (he : e ∈ o.journal) {ref : StorageReference}
    {data : Data} (hdata : uploaded ref e.2 = some data) : ref = .photoJpg uid ∧
      ios.jpegData ((shownAtTap ios e.1.seen).getD ios.placeholderPerson) (1 / 10) =
        some data := by
  have hsent := sent_of_nothingPicked hu hthere hpicked hrun e he
  obtain ⟨seen, hseen, hupload⟩ :=
    Option.bind_eq_some_iff.mp ((uploaded_answered hsent ref).1.symm.trans hdata)
  have href : ref = .photoJpg uid := by
    refine (photoJpg_answered hsent id).1 ref ?_
    rw [hseen]
    exact nofun
  cases seen_of_uploadedTo hseen
  rw [upload, href, if_neg (StorageReference.photo_ne_photoJpg uid uid).symm,
    pickedImage_eq_shownAtTap (not_picked_of_run hpicked hrun e he)] at hupload
  exact ⟨href, hupload⟩

theorem photo_untouched : o.server.objects (.photo uid) = server.objects (.photo uid) := by
  have hnone : latest (uploadedTo (.photo uid)) o.journal = none := by
    rw [latest_eq_none]
    intro e he
    by_contra hne
    have hsent := sent_of_nothingPicked hu hthere hpicked hrun e he
    exact absurd ((photoJpg_answered hsent id).1 _ hne) (StorageReference.photo_ne_photoJpg uid uid)
  rw [object_of_run hu hthere hrun, hnone, Option.bind_none, Option.none_or]

/-- A reference is sent only for a photo that the library stored. -/
theorem reference_untouched : o.server.field uid User.KEY_PHOTO_REFERENCE =
    server.field uid User.KEY_PHOTO_REFERENCE := by
  have hnone : latest (fun e => written uid User.KEY_PHOTO_REFERENCE e.2) o.journal = none :=
    latest_eq_none.mpr fun e he =>
      written_reference (sent_of_nothingPicked hu hthere hpicked hrun e he) id
  rw [server_of_run hrun, field_replay server uid _ (keeps_of_run hu hthere hrun), latest_comp,
    hnone, Option.none_or]

theorem address_untouched_iff : o.server.field uid User.KEY_PHOTO_DOWNLOAD_URL =
      server.field uid User.KEY_PHOTO_DOWNLOAD_URL ↔
    ((latest addressed o.journal).isSome → server.field uid User.KEY_PHOTO_DOWNLOAD_URL =
      some (.string (server.urlOf (.photoJpg uid)))) := by
  rw [address_of_run hu hthere hrun, or_eq_self_iff]
  cases hlast : latest addressed o.journal with
  | none => simp
  | some ref =>
      obtain ⟨e, he, haddressed⟩ := exists_of_latest hlast
      have hsent := sent_of_nothingPicked hu hthere hpicked hrun e he
      rw [(photoJpg_answered hsent id).2 ref haddressed]
      simp

theorem photoJpg_untouched_iff :
    o.server.objects (.photoJpg uid) = server.objects (.photoJpg uid) ↔
      ∀ seen, latest (uploadedTo (.photoJpg uid)) o.journal = some seen →
        ShowsStored ios server uid seen := by
  rw [object_of_run hu hthere hrun]
  cases hlast : latest (uploadedTo (.photoJpg uid)) o.journal with
  | none => simp
  | some seen =>
      obtain ⟨e, he, hseen⟩ := exists_of_latest hlast
      have hsent := sent_of_nothingPicked hu hthere hpicked hrun e he
      obtain ⟨data, hupload⟩ :=
        Option.isSome_iff_exists.mp ((uploaded_answered hsent (.photoJpg uid)).2 seen hseen)
      have hdata : uploaded (.photoJpg uid) e.2 = some data := by
        rw [(uploaded_answered hsent _).1, hseen, Option.bind_some, hupload]
      have hshown := (uploads_shown hu hthere hpicked hrun he hdata).2
      rw [← seen_of_uploadedTo hseen] at hshown
      rw [Option.bind_some, hupload, Option.some_or]
      constructor
      · rintro hsame seen' hseen'
        cases hseen'
        rw [ShowsStored, hshown, hsame]
      · intro h
        rw [h seen rfl, hshown]

/-- While nothing is picked, saving leaves the photo alone if and only if the tap before the last
upload found the stored photo on the screen and the document already had its address. -/
theorem photoUntouched_iff_savesSame :
    (PhotoUntouched server o.server uid ↔ SavesSamePhoto ios server uid o.journal) ∧
      ∀ e ∈ o.journal, ∀ ref data, uploaded ref e.2 = some data → ref = .photoJpg uid ∧
        ios.jpegData ((shownAtTap ios e.1.seen).getD ios.placeholderPerson) (1 / 10) =
          some data := by
  have hjpg := photoJpg_untouched_iff hu hthere hpicked hrun
  have haddress := address_untouched_iff hu hthere hpicked hrun
  constructor
  · constructor
    · intro h
      exact ⟨hjpg.mp h.photoJpg, haddress.mp h.profilePicturePath⟩
    · rintro ⟨hsamePicture, hsameAddress⟩
      exact ⟨reference_untouched hu hthere hpicked hrun, haddress.mpr hsameAddress,
        photo_untouched hu hthere hpicked hrun, hjpg.mpr hsamePicture⟩
  · intro e he ref data hdata
    exact uploads_shown hu hthere hpicked hrun he hdata

end Run

/-! ## A tap before the photo has been downloaded -/

/-- Ana's document refers to the photo that the library stored. -/
def anaServer : Server (ℕ × ℚ) :=
  let photo := StorageReference.photo Account.ana.uid
  (Server.empty.setObject photo (some (5, 1 / 2))).setDoc Account.ana.uid
    (some (UserManager.photoFields photo.description photo.description))

def screen : Controller := ⟨1, .profileInformation⟩

abbrev anaOpened : ScreenRun ℕ (ℕ × ℚ) :=
  opened Platform.transparent anaServer (App.launch (some Account.ana.user)) screen

/-- Ana taps Update Account while her photo is still being downloaded. -/
def updateBeforeDownload : List (Event ℕ) :=
  [.complete 0 .success, .act .update, .complete 1 .success, .complete 1 .success,
    .complete 1 .success, .complete 1 .success, .complete 1 .success,
    .complete 0 (.downloaded 5), .complete 0 (.downloaded 5)]

theorem updateBeforeDownload_nothingPicked : NothingPicked updateBeforeDownload := by
  simp [NothingPicked, updateBeforeDownload]

theorem updateBeforeDownload_run : ∃ o,
    EventRun.run (step Platform.transparent screen) anaOpened updateBeforeDownload = some o ∧
      AllSucceeded o ∧ Settled o ∧
      o.server.objects (.photoJpg Account.ana.uid) = some (0, 1 / 10) := by
  refine ⟨_, rfl, ?_, rfl, rfl⟩
  unfold AllSucceeded
  decide

theorem photoUntouched_iff_savesSame_ana : ∃ o,
    EventRun.run (step Platform.transparent screen) anaOpened updateBeforeDownload = some o ∧
      (PhotoUntouched anaServer o.server Account.ana.uid ↔
        SavesSamePhoto Platform.transparent anaServer Account.ana.uid o.journal) := by
  obtain ⟨o, hrun, _⟩ := updateBeforeDownload_run
  exact ⟨o, hrun,
    (photoUntouched_iff_savesSame rfl rfl updateBeforeDownload_nothingPicked hrun).1⟩

theorem updateBeforeDownload_stores_placeholder : ∃ o,
    EventRun.run (step Platform.transparent screen) anaOpened updateBeforeDownload = some o ∧
      NothingPicked updateBeforeDownload ∧ AllSucceeded o ∧ Settled o ∧
      ¬ PhotoUntouched anaServer o.server Account.ana.uid := by
  obtain ⟨o, hrun, hok, hsettled, hstored⟩ := updateBeforeDownload_run
  refine ⟨o, hrun, updateBeforeDownload_nothingPicked, hok, hsettled, fun h => ?_⟩
  have hnone : o.server.objects (.photoJpg Account.ana.uid) = none := h.photoJpg
  cases hstored.symm.trans hnone

end GiveMeMovies.ProfileTextUpdate
