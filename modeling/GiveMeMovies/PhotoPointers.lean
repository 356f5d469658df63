import GiveMeMovies.DocumentWrites

/-!
# The two photo pointers

`photoReference` and `profilePicturePath` are written together by the library, which stores a
photo under `photo`. A profile update stores another one under `photoJpg` and writes the address
alone. So the pointers part as soon as an update follows a library write, until the next library
write, a new registration or a deletion.
-/

namespace GiveMeMovies.PhotoPointers

open AppRuns AppRequests Journal UserManager

variable {Image Data : Type}

/-- Where both pointers are there, they designate one storage object. -/
def PointersAgree (server : Server Data) (uid : Uid) : Prop :=
  ∀ reference path, server.field uid User.KEY_PHOTO_REFERENCE = some reference →
    server.field uid User.KEY_PHOTO_DOWNLOAD_URL = some path →
    ∃ ref : StorageReference,
      reference = .string ref.description ∧ path = .string (server.urlOf ref)

/-- Both pointers designate a photo that the library stored. -/
def RefersTo (server : Server Data) (uid owner : Uid) : Prop :=
  server.field uid User.KEY_PHOTO_REFERENCE =
      some (.string (StorageReference.photo owner).description) ∧
    server.field uid User.KEY_PHOTO_DOWNLOAD_URL = some (.string (server.urlOf (.photo owner)))

/-- The document refers to no photo, or to one that the library stored. -/
def Consistent (server : Server Data) (uid : Uid) : Prop :=
  server.field uid User.KEY_PHOTO_REFERENCE = none ∨ ∃ owner, RefersTo server uid owner

inductive PointerWrite where
  | both
  | address
  | cleared
  deriving DecidableEq

/-- What an answered request did to the pointers of `users/uid`. -/
def pointerWrite (uid : Uid) : Entry Image Data → Option PointerWrite
  | ⟨⟨_, _, .setData uid' _ merge⟩, none⟩ =>
      if uid' = uid then some (if merge then .both else .cleared) else none
  | ⟨⟨.informationSavePhoto, _, .updateData uid' _⟩, none⟩ =>
      if uid' = uid then some .address else none
  | ⟨⟨_, _, .deleteDocument uid'⟩, none⟩ => if uid' = uid then some .cleared else none
  | _ => none

/-- Whether the write leaves a reference; one of the address leaves it as it was. -/
def PointerWrite.gives : PointerWrite → Option Bool
  | .both => some true
  | .cleared => some false
  | .address => none

/-- Whether an answered request wrote or removed the reference. -/
def referenced (uid : Uid) (e : Entry Image Data) : Option Bool :=
  (pointerWrite uid e).bind PointerWrite.gives

/-- The last write of a pointer to succeed was that of a profile update, and it found a
reference in the document. -/
def AddressOverwritten (before : Server Data) (uid : Uid) (journal : Journal Image Data) : Prop :=
  latest (pointerWrite uid) journal = some .address ∧
    (latest (referenced uid) journal).getD
      (before.field uid User.KEY_PHOTO_REFERENCE).isSome = true

/-! ## What one response does -/

inductive Effect (before after : Server Data) (uid : Uid) : Option PointerWrite → Prop
  | unchanged
      (reference : after.field uid User.KEY_PHOTO_REFERENCE =
        before.field uid User.KEY_PHOTO_REFERENCE)
      (path : after.field uid User.KEY_PHOTO_DOWNLOAD_URL =
        before.field uid User.KEY_PHOTO_DOWNLOAD_URL) : Effect before after uid none
  | both (owner : Uid) (refers : RefersTo after uid owner) : Effect before after uid (some .both)
  | address
      (reference : after.field uid User.KEY_PHOTO_REFERENCE =
        before.field uid User.KEY_PHOTO_REFERENCE)
      (path : after.field uid User.KEY_PHOTO_DOWNLOAD_URL =
        some (.string (after.urlOf (.photoJpg uid)))) : Effect before after uid (some .address)
  | cleared (reference : after.field uid User.KEY_PHOTO_REFERENCE = none) :
      Effect before after uid (some .cleared)

theorem effect_of_docs {before after : Server Data} {uid : Uid}
    (h : after.docs uid = before.docs uid) : Effect before after uid none := by
  apply Effect.unchanged
  · rw [Server.field, h, Server.field]
  · rw [Server.field, h, Server.field]

variable {ios : Platform Image Data} {server : Server Data} {uid : Uid}

theorem pointerWrite_of_target_ne {call : Call Data} (h : target call.request ≠ some uid)
    (a : call.Response Image) : pointerWrite uid ⟨call, a⟩ = none := by
  obtain ⟨place, self, request⟩ := call
  cases request with
  | setData uid' fields merge =>
      cases a with
      | some error => rfl
      | none => exact if_neg fun hu => h (congrArg some hu)
  | updateData uid' fields =>
      cases a with
      | some error => cases place <;> rfl
      | none =>
          cases place with
          | informationSavePhoto => exact if_neg fun hu => h (congrArg some hu)
          | _ => rfl
  | deleteDocument uid' =>
      cases a with
      | some error => rfl
      | none => exact if_neg fun hu => h (congrArg some hu)
  | _ => rfl

theorem effect_write {call : Call Data} (h : DocumentWrite Image server.urlOf uid call)
    (a : call.Response Image) :
    Effect server (call.request.commit a server) uid (pointerWrite uid ⟨call, a⟩) := by
  cases h with
  | registerUser self form clock =>
      cases a with
      | some error => exact effect_of_docs rfl
      | none =>
          rw [pointerWrite, if_pos rfl]
          apply Effect.cleared
          rw [field_replaced, User.parameters_photoReference]
          rfl
  | photoReference self owner =>
      cases a with
      | some error => exact effect_of_docs rfl
      | none =>
          change Effect server _ uid (if uid = uid then some .both else none)
          rw [if_pos rfl]
          refine .both owner ⟨?_, ?_⟩
          · exact (field_merged Image server uid _ _).trans Option.some_or
          · exact (field_merged Image server uid _ _).trans Option.some_or
  | savePhoto self now =>
      cases a with
      | some error => exact effect_of_docs rfl
      | none =>
          rw [pointerWrite, if_pos rfl]
          apply Effect.address
          · rw [field_updated, User.parameters_photoReference]
            exact Option.none_or
          · rw [field_updated, User.parameters_photoDownloadUrl, Request.urlOf_commit]
            rfl
  | saveTexts self form clock =>
      cases a with
      | some error => exact effect_of_docs rfl
      | none =>
          apply Effect.unchanged
          · rw [field_updated, User.parameters_photoReference]
            exact Option.none_or
          · rw [field_updated, User.parameters_photoDownloadUrl]
            exact Option.none_or
  | deletion place self =>
      cases a with
      | some error => exact effect_of_docs rfl
      | none =>
          rw [pointerWrite, if_pos rfl]
          exact .cleared (field_deleted Image server uid _)

theorem effect_response {p : Pending Image Data} (h : Known ios server.urlOf everyCall p)
    (a : p.call.Response Image) :
    Effect server (p.call.request.commit a server) uid (pointerWrite uid ⟨p.call, a⟩) := by
  by_cases ht : target p.call.request = some uid
  · exact effect_write (h.documentWrite ht) a
  · rw [pointerWrite_of_target_ne ht]
    exact effect_of_docs (docs_commit_of_target_ne ht a server)

/-! ## Runs -/

/-- What the last write of a pointer, and whether there is a reference, tell about the
pointers. -/
structure Traced (server : Server Data) (uid : Uid) (last : Option PointerWrite) (given : Bool) :
    Prop where
  given : (server.field uid User.KEY_PHOTO_REFERENCE).isSome = given
  reference : ∀ value, server.field uid User.KEY_PHOTO_REFERENCE = some value →
    ∃ owner, value = .string (StorageReference.photo owner).description
  address : last = some .address →
    server.field uid User.KEY_PHOTO_DOWNLOAD_URL = some (.string (server.urlOf (.photoJpg uid)))
  consistent : last ≠ some .address → Consistent server uid

variable {after : Server Data} {last : Option PointerWrite} {given : Bool}

theorem Consistent.reference (h : Consistent server uid) (value : Value)
    (hvalue : server.field uid User.KEY_PHOTO_REFERENCE = some value) :
    ∃ owner, value = .string (StorageReference.photo owner).description := by
  rcases h with hnone | ⟨owner, href, _⟩
  · cases hnone.symm.trans hvalue
  · exact ⟨owner, Option.some.inj (hvalue.symm.trans href)⟩

theorem Traced.start (h : Consistent server uid) :
    Traced server uid none (server.field uid User.KEY_PHOTO_REFERENCE).isSome :=
  ⟨rfl, h.reference, nofun, fun _ => h⟩

theorem Traced.effect {write : Option PointerWrite} (h : Traced server uid last given)
    (heffect : Effect server after uid write) (hurl : after.urlOf = server.urlOf) :
    Traced after uid (write.or last) ((write.bind PointerWrite.gives).getD given) := by
  cases heffect with
  | unchanged reference path =>
      constructor
      · rw [reference]
        exact h.given
      · rw [reference]
        exact h.reference
      · rw [path, hurl]
        exact h.address
      · intro hlast
        rcases h.consistent hlast with hnone | ⟨owner, href, hpath⟩
        · exact Or.inl (reference.trans hnone)
        · refine Or.inr ⟨owner, reference.trans href, path.trans ?_⟩
          rw [hurl]
          exact hpath
  | both owner refers =>
      have hconsistent : Consistent after uid := Or.inr ⟨owner, refers⟩
      refine ⟨?_, hconsistent.reference, nofun, fun _ => hconsistent⟩
      rw [refers.1]
      rfl
  | address reference path =>
      refine ⟨?_, ?_, fun _ => path, fun hne => absurd rfl hne⟩
      · rw [reference]
        exact h.given
      · rw [reference]
        exact h.reference
  | cleared reference =>
      have hconsistent : Consistent after uid := Or.inl reference
      refine ⟨?_, hconsistent.reference, nofun, fun _ => hconsistent⟩
      rw [reference]
      rfl

theorem Traced.pointersAgree_iff (h : Traced server uid last given) :
    PointersAgree server uid ↔ ¬ (last = some .address ∧ given = true) := by
  by_cases hlast : last = some .address
  · have hpath := h.address hlast
    constructor
    · rintro hagree ⟨_, hgiven⟩
      obtain ⟨reference, href⟩ := Option.isSome_iff_exists.mp (h.given.trans hgiven)
      obtain ⟨owner, rfl⟩ := h.reference reference href
      obtain ⟨ref, hdescription, hurl⟩ := hagree _ _ href hpath
      have howner : StorageReference.photo owner = ref :=
        StorageReference.description_injective (Value.string.inj hdescription)
      have hjpg : StorageReference.photoJpg uid = ref :=
        server.urlOf.injective (Value.string.inj hurl)
      exact StorageReference.photo_ne_photoJpg owner uid (howner.trans hjpg.symm)
    · intro hnot reference path href _
      have hgiven : given = true := by
        rw [← h.given, href]
        rfl
      exact absurd ⟨hlast, hgiven⟩ hnot
  · constructor
    · exact fun _ hn => hlast hn.1
    · intro _ reference path href hpath
      rcases h.consistent hlast with hnone | ⟨owner, href', hpath'⟩
      · cases hnone.symm.trans href
      · exact ⟨.photo owner, Option.some.inj (href.symm.trans href'),
          Option.some.inj (hpath.symm.trans hpath')⟩

variable {keptUser : Option AuthUser} {clock : Clock} {es : List (OwnEvent Image)}
  {w : World Image Data}

/-- The journal tells about the pointers. -/
def JournalTraces (before : Server Data) (uid : Uid) (w : World Image Data) : Prop :=
  Traced w.server uid (latest (pointerWrite uid) w.journal)
    ((latest (referenced uid) w.journal).getD
      (before.field uid User.KEY_PHOTO_REFERENCE).isSome)

theorem journalTraces_answer {before : Server Data} {n : ℕ} {p : Pending Image Data}
    (h : JournalTraces before uid w) (hp : Known ios w.server.urlOf everyCall p)
    (outcome : Outcome Image) :
    JournalTraces before uid (answer w n p outcome) := by
  have hurl : (answer w n p outcome).server.urlOf = w.server.urlOf := Request.urlOf_commit _ _ _
  have htraced := h.effect (effect_response hp (p.call.request.reply outcome w.server)) hurl
  have hjournal : (answer w n p outcome).journal =
      w.journal ++ [⟨p.call, p.call.request.reply outcome w.server⟩] := rfl
  unfold JournalTraces
  rw [hjournal, latest_concat, latest_concat, Option.getD_or]
  exact htraced

theorem journalTraces_run (h : Consistent server uid)
    (hrun : EventRun.run (ownStep ios) (launched server keptUser clock) es = some w) :
    JournalTraces server uid w := by
  have hstart : JournalTraces server uid (launched server keptUser clock : World Image Data) :=
    Traced.start h
  have hinv : Sound ios w ∧ JournalTraces server uid w := by
    refine EventRun.run_invariant (I := fun w => Sound ios w ∧ JournalTraces server uid w) ?_
      ⟨sound_launched server keptUser clock, hstart⟩ hrun
    rintro w e w' ⟨hsound, htraced⟩ hstep
    refine ⟨hsound.step hstep, ?_⟩
    cases stepped_of_ownStep hstep with
    | act e p hp => exact htraced
    | accounts list =>
        exact ⟨htraced.given, htraced.reference, htraced.address, htraced.consistent⟩
    | complete n outcome p hp =>
        exact journalTraces_answer htraced (hsound.known p (List.mem_of_getElem? hp)) outcome
  exact hinv.2

/-- In every state that the app reaches, settled or not, the pointers agree unless a profile
update was the last to write one of them and left a reference in place. -/
theorem pointersAgree_iff_not_overwritten (h : Consistent server uid)
    (hrun : EventRun.run (ownStep ios) (launched server keptUser clock) es = some w) :
    PointersAgree w.server uid ↔ ¬ AddressOverwritten server uid w.journal :=
  (journalTraces_run h hrun).pointersAgree_iff

/-- Ana's document refers to no photo. -/
def anaServer : Server (ℕ × ℚ) :=
  { Server.empty.setDoc Account.ana.uid (some Fields.empty) with accounts := [Account.ana] }

def profile : Controller := ⟨1, .profile⟩

def information : Controller := ⟨2, .profileInformation⟩

/-- Ana, who was kept signed in, opens her profile information. -/
def openInformation : List (OwnEvent ℕ) :=
  [.app (.complete 0 .success), .app (.complete 0 .success), .app (.act (.selectTab .profile)),
    .app (.complete 0 .success), .app (.complete 0 .success), .app (.act (.profileInfo profile)),
    .app (.complete 0 .success)]

/-- She chooses the photo library, and taps Update Account when its photo has been saved. -/
def libraryThenUpdate : List (OwnEvent ℕ) :=
  openInformation ++
  [.app (.act (.library information)), .app (.complete 0 .success), .app (.complete 0 .success),
    .app (.complete 0 .success), .app (.act (.update information)), .app (.complete 0 .success),
    .app (.complete 0 .success), .app (.complete 0 .success), .app (.complete 0 .success),
    .app (.complete 0 .success)]

theorem libraryThenUpdate_run : ∃ w, EventRun.run (ownStep Platform.transparent)
      (launched anaServer (some Account.ana.user)) libraryThenUpdate = some w ∧
    w.inFlight = [] ∧
    w.server.field Account.ana.uid User.KEY_PHOTO_REFERENCE =
      some (.string (StorageReference.photo Account.ana.uid).description) ∧
    w.server.field Account.ana.uid User.KEY_PHOTO_DOWNLOAD_URL =
      some (.string (w.server.urlOf (.photoJpg Account.ana.uid))) := by
  refine ⟨_, rfl, ?_, ?_, ?_⟩
  · rfl
  · rfl
  · rfl

theorem anaServer_consistent : Consistent anaServer Account.ana.uid := Or.inl rfl

theorem pointersAgree_iff_not_overwritten_ana : ∃ w, EventRun.run (ownStep Platform.transparent)
      (launched anaServer (some Account.ana.user)) libraryThenUpdate = some w ∧
    (PointersAgree w.server Account.ana.uid ↔
      ¬ AddressOverwritten anaServer Account.ana.uid w.journal) := by
  obtain ⟨w, hrun, _⟩ := libraryThenUpdate_run
  exact ⟨w, hrun, pointersAgree_iff_not_overwritten anaServer_consistent hrun⟩

theorem libraryThenUpdate_parts_pointers : ∃ w, EventRun.run (ownStep Platform.transparent)
      (launched anaServer (some Account.ana.user)) libraryThenUpdate = some w ∧
    w.inFlight = [] ∧ ¬ PointersAgree w.server Account.ana.uid := by
  obtain ⟨w, hrun, hsettled, href, hpath⟩ := libraryThenUpdate_run
  refine ⟨w, hrun, hsettled, fun hagree => ?_⟩
  obtain ⟨ref, hdescription, hurl⟩ := hagree _ _ href hpath
  have hphoto : StorageReference.photo Account.ana.uid = ref :=
    StorageReference.description_injective (Value.string.inj hdescription)
  have hjpg : StorageReference.photoJpg Account.ana.uid = ref :=
    w.server.urlOf.injective (Value.string.inj hurl)
  exact StorageReference.photo_ne_photoJpg _ _ (hphoto.trans hjpg.symm)

end GiveMeMovies.PhotoPointers
