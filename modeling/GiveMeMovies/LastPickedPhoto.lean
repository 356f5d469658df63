import GiveMeMovies.InformationAnswers

/-!
# The photo picked last

Picking an image and choosing the photo library store photos under two paths and write two
addresses into one field. Which photo the profile ends up with is decided by the responses that
arrive last, the last write of an address and the last upload to the path it designates, and by
what had been picked, tapped and loaded when that upload was sent.
-/

namespace GiveMeMovies.LastPickedPhoto

open InformationScreen Journal

variable {Image Data : Type} (ios : Platform Image Data)

def picked : Event Image → Option Image
  | .act (.pick image) => some image
  | _ => none

/-- The image picked last. -/
def lastPick (es : List (Event Image)) : Option Image := es.reverse.findSome? picked

/-- The bytes are those that one of the pipelines makes of the image. -/
def Encodes (image : Image) (data : Data) : Prop :=
  ios.jpegData image (1 / 2) = some data ∨ ios.jpegData image (1 / 10) = some data

/-- The object that `profilePicturePath` of `users/uid` designates holds the image. -/
def Designates (server : Server Data) (uid : Uid) (image : Image) : Prop :=
  ∃ ref data, server.field uid User.KEY_PHOTO_DOWNLOAD_URL = some (.string (server.urlOf ref)) ∧
    server.objects ref = some data ∧ Encodes ios image data

/-- The photo picked last has won. -/
def LastPickWins (server : Server Data) (uid : Uid) (es : List (Event Image)) : Prop :=
  ∀ image, lastPick es = some image → Designates ios server uid image

/-- The address of the path was written last, or is the one that was there. -/
def AddressedLast (before : Server Data) (uid : Uid) (journal : List (Answered Image Data))
    (ref : StorageReference) : Prop :=
  match latest addressed journal with
  | some ref' => ref = ref'
  | none => before.field uid User.KEY_PHOTO_DOWNLOAD_URL = some (.string (before.urlOf ref))

/-- The last upload to the path was sent when the picks, the taps and the answers before it had
put a picture on the screen with the bytes `data`, or no upload came and the bytes were there. -/
def StoredLast (before : Server Data) (uid : Uid) (journal : List (Answered Image Data))
    (ref : StorageReference) (data : Data) : Prop :=
  match latest (uploadedTo ref) journal with
  | some seen => upload ios uid ref seen = some data
  | none => before.objects ref = some data

/-- The photo picked last was on the screen when the upload was sent that has come last to the path
whose address was written last. -/
def LastPickArrivesLast (before : Server Data) (uid : Uid) (journal : List (Answered Image Data))
    (es : List (Event Image)) : Prop :=
  ∀ image, lastPick es = some image → ∃ ref data,
    AddressedLast before uid journal ref ∧ StoredLast ios before uid journal ref data ∧
      Encodes ios image data

variable {ios} {server : Server Data} {app : App Image} {self : Controller} {uid : Uid}
  {es : List (Event Image)} {o : ScreenRun Image Data}

section Run

variable (hu : app.currentUid = some uid) (hthere : app.released self = false)
  (hrun : EventRun.run (step ios self) (opened ios server app self) es = some o)

include hu hthere hrun

theorem addressedLast_iff (ref : StorageReference) :
    o.server.field uid User.KEY_PHOTO_DOWNLOAD_URL = some (.string (o.server.urlOf ref)) ↔
      AddressedLast server uid o.journal ref := by
  rw [address_of_run hu hthere hrun, urlOf_of_run hrun, AddressedLast]
  cases latest addressed o.journal with
  | none => rfl
  | some ref' =>
      rw [Option.map_some, Option.some_or]
      constructor
      · intro h
        exact (server.urlOf.injective (Value.string.inj (Option.some.inj h))).symm
      · rintro rfl
        rfl

theorem storedLast_iff (ref : StorageReference) (data : Data) :
    o.server.objects ref = some data ↔ StoredLast ios server uid o.journal ref data := by
  have hsent := sent_of_run hu hthere hrun
  rw [object_of_run hu hthere hrun ref, StoredLast]
  cases hlast : latest (uploadedTo ref) o.journal with
  | none => rfl
  | some seen =>
      obtain ⟨e, he, hseen⟩ := exists_of_latest hlast
      obtain ⟨bytes, hbytes⟩ :=
        Option.isSome_iff_exists.mp ((uploaded_answered (hsent e he) ref).2 seen hseen)
      rw [Option.bind_some, hbytes, Option.some_or]
      exact Iff.of_eq (congrArg (· = some data) hbytes.symm)

/-- Every upload is to one of the two paths, and carries the picture that the picks, the taps and
the answers had put on the screen when it was sent. -/
theorem uploads_of_run {e : Answered Image Data} (he : e ∈ o.journal) {ref : StorageReference}
    {data : Data} (hdata : uploaded ref e.2 = some data) :
    upload ios uid ref e.1.seen = some data := by
  have hsent := sent_of_run hu hthere hrun e he
  have hupload := (uploaded_answered hsent ref).1
  obtain ⟨seen, hseen, hbytes⟩ := Option.bind_eq_some_iff.mp (hupload.symm.trans hdata)
  cases seen_of_uploadedTo hseen
  exact hbytes

/-- The photo picked last has won if and only if it was on the screen when the upload was sent that
arrived last at the path whose address arrived last. What was on the screen follows from the
order of the picks, the taps and the answers, and is what the uploads carry. -/
theorem lastPickWins_iff_arrivesLast :
    (LastPickWins ios o.server uid es ↔ LastPickArrivesLast ios server uid o.journal es) ∧
      ∀ e ∈ o.journal, ∀ ref data, uploaded ref e.2 = some data →
        upload ios uid ref e.1.seen = some data := by
  refine ⟨?_, fun e he ref data => uploads_of_run hu hthere hrun he⟩
  apply forall_congr'
  intro image
  apply imp_congr_right
  intro _
  constructor
  · rintro ⟨ref, data, haddressed, hstored, hencodes⟩
    exact ⟨ref, data, (addressedLast_iff hu hthere hrun ref).mp haddressed,
      (storedLast_iff hu hthere hrun ref data).mp hstored, hencodes⟩
  · rintro ⟨ref, data, haddressed, hstored, hencodes⟩
    exact ⟨ref, data, (addressedLast_iff hu hthere hrun ref).mpr haddressed,
      (storedLast_iff hu hthere hrun ref data).mpr hstored, hencodes⟩

end Run

/-! ## The library's photo arrives last -/

/-- Ana's document does not refer to a photo yet. -/
def anaServer : Server (ℕ × ℚ) := Server.empty.setDoc Account.ana.uid (some Fields.empty)

def screen : Controller := ⟨1, .profileInformation⟩

abbrev anaApp : App ℕ := App.launch (some Account.ana.user)

abbrev anaOpened : ScreenRun ℕ (ℕ × ℚ) := opened Platform.transparent anaServer anaApp screen

/-- Choosing the library uploads the placeholder on the screen, and its responses arrive after
those of the image that is picked then. -/
def libraryLast : List (Event ℕ) :=
  [.complete 0 .success, .act .library, .act (.pick 7), .complete 1 .success,
    .complete 1 .success, .complete 1 .success, .complete 1 .success, .complete 1 .success,
    .complete 0 .success, .complete 0 .success, .complete 0 .success]

theorem libraryLast_run : ∃ o,
    EventRun.run (step Platform.transparent screen) anaOpened libraryLast = some o ∧
      AllSucceeded o ∧ Settled o ∧
      o.server.field Account.ana.uid User.KEY_PHOTO_DOWNLOAD_URL =
        some (.string (o.server.urlOf (.photo Account.ana.uid))) ∧
      o.server.objects (.photo Account.ana.uid) = some (0, 1 / 2) := by
  refine ⟨_, rfl, ?_, rfl, rfl, rfl⟩
  unfold AllSucceeded
  decide

theorem lastPickWins_iff_arrivesLast_ana : ∃ o,
    EventRun.run (step Platform.transparent screen) anaOpened libraryLast = some o ∧
      (LastPickWins Platform.transparent o.server Account.ana.uid libraryLast ↔
        LastPickArrivesLast Platform.transparent anaServer Account.ana.uid o.journal
          libraryLast) := by
  obtain ⟨o, hrun, _⟩ := libraryLast_run
  exact ⟨o, hrun, (lastPickWins_iff_arrivesLast rfl rfl hrun).1⟩

theorem libraryLast_overwrites_pick : ∃ o,
    EventRun.run (step Platform.transparent screen) anaOpened libraryLast = some o ∧
      AllSucceeded o ∧ Settled o ∧
      ¬ LastPickWins Platform.transparent o.server Account.ana.uid libraryLast := by
  obtain ⟨o, hrun, hok, hsettled, hfield, hobject⟩ := libraryLast_run
  refine ⟨o, hrun, hok, hsettled, fun hwins => ?_⟩
  obtain ⟨ref, data, hfield', hobject', hencodes⟩ := hwins 7 rfl
  have hurl : o.server.urlOf (.photo Account.ana.uid) = o.server.urlOf ref := by
    simpa using hfield.symm.trans hfield'
  cases o.server.urlOf.injective hurl
  cases hobject.symm.trans hobject'
  simp [Encodes, Platform.transparent] at hencodes

end GiveMeMovies.LastPickedPhoto
