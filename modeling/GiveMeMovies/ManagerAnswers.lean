import GiveMeMovies.CallbackTask
import GiveMeMovies.Managers
import GiveMeMovies.SearchMoviesController
import GiveMeMovies.ServerJournal

/-!
# What the managers answer

The asynchronous operations of the managers as tasks, whose answers are the calls of the handlers
that are passed in. Each of the operations that the app uses is its task with the handlers of the
caller. Where no argument stops the process, all but four answer exactly once, whatever the
responses. Deleting an account answers only a failure, the two decoding operations only a success,
and the upload of a profile image nothing without a user or an encoding of the image, and a
success before its last write.
-/

namespace GiveMeMovies.ManagerAnswers

open Callback.Task

variable {Image Data Id Key : Type} (ios : Platform Image Data)

abbrev ManagerCall (Data Key : Type) := Call Data Key

abbrev ManagerEntry (Image Data Key : Type) :=
  Callback.Entry (ManagerCall Data Key) (Call.Response Image)

abbrev ManagerTask (Image Data Key β : Type) :=
  Callback.Task (App Image) (ManagerCall Data Key) (Call.Response Image) β

def send {β : Type} (place : Place) (self : Controller) (request : Request Data Key)
    (handler : request.Response Image → ManagerTask Image Data Key β) :
    ManagerTask Image Data Key β :=
  Callback.Task.request (α := Call.Response Image) ⟨place, self, request⟩ handler

/-! ## Documents and objects -/

/-- How the collection `users` reads the ids that are passed in, among them the names of the users
of the authentication service. -/
structure Documents (Id Key : Type) where
  document : Id → Option Key
  documentID : Key → Id
  name : Uid → Id
  document_name : ∀ uid, (document (name uid)).isSome

namespace Documents

def ofUid : Documents Uid Uid where
  document := some
  documentID := id
  name := id
  document_name _ := rfl

/-- The library raises an exception on an empty text, on a text with two slashes in a row, and when
the segments are even in number, so that they are odd together with `users`. -/
def ofText : Documents (List Char) (List (List Char)) where
  document text :=
    if text = [] ∨ ['/', '/'] <:+: text ∨ (StorageReference.segments text).length % 2 = 0 then none
    else some (StorageReference.segments text)
  documentID key := key.getLast?.getD []
  name := Uid.name
  document_name uid := by
    have hslashes : ¬ ['/', '/'] <:+: uid.name :=
      fun h => uid.clean.2.1 (h.subset List.mem_cons_self)
    have hsegments := StorageReference.segments_of_clean uid.clean.1 uid.clean.2.1
    simp [uid.clean.1, hslashes, hsegments]

end Documents

/-- An exception stops the process, and nothing more happens. -/
def withDocument {β : Type} (users : Documents Id Key) (uid : Id)
    (body : Key → ManagerTask Image Data Key β) : ManagerTask Image Data Key β :=
  match users.document uid with
  | some key => body key
  | none => .done

variable (users : Documents Id Key) (place : Place) (self : Controller)

/-- The upload task stops the process when the reference is the root, which names no object. -/
def putData {β : Type} (ref : StorageReference) (data : Data)
    (handler : Option NSError → ManagerTask Image Data Key β) : ManagerTask Image Data Key β :=
  if ref.path = [] then .done else send place self (.putData ref data) handler

/-! ## The user manager -/

def userOfDocument (documentID : Id) :
    Except NSError (Option Fields) → Except (Option NSError) (User Id)
  | .ok (some document) =>
      match User.ofSnapshot documentID document with
      | some user => if user.userId.isSome then .ok user else .error none
      | none => .error none
  | .ok none => .error none
  | .error error => .error (some error)

def getUser (uid : Id) : ManagerTask Image Data Key (Except (Option NSError) (User Id)) :=
  withDocument users uid (fun key =>
    send place self (.getDocument key)
      (fun document => reply (userOfDocument (users.documentID key) document)))

/-- The completion is told whether the document was created. It also sees the user as the
operation has changed it. -/
def createUser (uid : Id) (user : User Id) : ManagerTask Image Data Key (User Id × Bool) :=
  .read (fun app => .write App.tick
    (let user := { user with createdAt := some (app.clock.date 0) }
    withDocument users uid (fun key =>
      send place self (.setData key user.parameters false)
        (fun error => reply (user, error.isNone)))))

def updated : Option NSError → Except (Option NSError) Unit
  | some error => .error (some error)
  | none => .ok ()

def updateUser (user : User Id) : ManagerTask Image Data Key (Except (Option NSError) Unit) :=
  match user.userId with
  | some userId =>
      withDocument users userId (fun key =>
        send place self (.updateData key user.parameters) (fun error => reply (updated error)))
  | none => reply (.error none)

/-- The handler of an upload, which goes on to ask for the address. -/
def uploaded {β : Type} (ref : StorageReference) (failed : NSError → β)
    (address : Except NSError String → β) : Option NSError → ManagerTask Image Data Key β
  | some error => reply (failed error)
  | none => send place self (.downloadURL ref) (fun url => reply (address url))

def imageAddress : Except NSError String → Option String × Option NSError
  | .error error => (none, some error)
  | .ok imageUrl => (some imageUrl, none)

def uploadImage (image : Image) (itemId : List Char) (isUserimage : Bool) :
    ManagerTask Image Data Key (Option String × Option NSError) :=
  let imageRef :=
    if isUserimage then
      StorageReference.root.child (PROFILE_PICTURE_REFERENCE ++ itemId ++ ".jpg".toList)
    else StorageReference.root
  match ios.jpegData image (1 / 10) with
  | none => reply (none, none)
  | some data =>
      putData place self imageRef data
        (uploaded place self imageRef (fun _ => (none, none)) imageAddress)

def profilePicture (uid : Uid) : StorageReference :=
  (((StorageReference.root.child "attachments".toList).child "development".toList).child
    "profilePictures".toList).child uid.name

def pictureAddress (uid : Uid) :
    Except NSError String → Except (Option NSError) (Uid × String × String)
  | .error error => .error (some error)
  | .ok url => .ok
      (uid, "attachments/" ++ "development" ++ "/profilePictures/" ++ String.ofList uid.name, url)

/-- `resized` is `resizeImage` to 300 by 300 points followed by `pngData`. -/
def uploadProfilePicture (resized : Image → Option Data) (image : Image) :
    ManagerTask Image Data Key (Except (Option NSError) (Uid × String × String)) :=
  .read (fun app =>
    match app.currentUid with
    | none => reply (.error none)
    | some uid =>
        match resized image with
        | none => reply (.error none)
        | some imageData =>
            putData place self (profilePicture uid) imageData
              (uploaded place self (profilePicture uid) (fun error => .error (some error))
                (pictureAddress uid)))

def deleteAccount (uid : Id) : ManagerTask Image Data Key (Option NSError) :=
  withDocument users uid (fun key =>
    send place self (.deleteDocument key) (fun
      | some error => reply (some error)
      | none => .done))

/-! ## The storage manager -/

/-- `savePhotoReferenceForUser` and the call of the completion that follows it. -/
def addressReceived (storageRef : StorageReference) :
    Except NSError String → ManagerTask Image Data Key (Except (Option NSError) Unit)
  | .error error => reply (.error (some error))
  | .ok url => .read (fun app =>
      match app.currentUid with
      | some uid =>
          match users.document (users.name uid) with
          | some key => .send
              ⟨.savePhotoReference, self,
                .setData key (UserManager.photoFields storageRef.description url) true⟩
              (fun _ => .done) (reply (.ok ()))
          | none => .done
      | none => reply (.ok ()))

def uploadProfileImage (image : Image) :
    ManagerTask Image Data Key (Except (Option NSError) Unit) :=
  .read (fun app =>
    match app.currentUid with
    | none => .done
    | some uid =>
        match ios.jpegData image (1 / 2) with
        | none => .done
        | some uploadData =>
            putData place self (.photo uid) uploadData (fun
              | some error => reply (.error (some error))
              | none => send place self (.downloadURL (.photo uid))
                  (addressReceived users self (.photo uid))))

/-! ## The handlers of the caller -/

section Handle

variable {ios users place self} {uid : Uid} {user : User} {image : Image}

theorem handle_send {β : Type} (h : β → Program Image Data) (request : Request Data)
    (handler : request.Response Image → ManagerTask Image Data Uid β) :
    handle h (send place self request handler) =
      Program.send place self request (fun a => handle h (handler a)) := rfl

theorem handle_read {β : Type} (h : β → Program Image Data)
    (k : App Image → ManagerTask Image Data Uid β) :
    handle h (.read k) = .read (fun app => handle h (k app)) := rfl

theorem handle_withDocument {β : Type} (h : β → Program Image Data) (uid : Uid)
    (body : Uid → ManagerTask Image Data Uid β) :
    handle h (withDocument .ofUid uid body) = handle h (body uid) := rfl

theorem handle_putData {β : Type} (h : β → Program Image Data) {ref : StorageReference}
    (href : ref.path ≠ []) (data : Data)
    (handler : Option NSError → ManagerTask Image Data Uid β) :
    handle h (putData place self ref data handler) =
      Program.send place self (.putData ref data) (fun a => handle h (handler a)) := by
  rw [putData, if_neg href]
  rfl

/-- The two handlers of an operation as one. -/
def either {β : Type} (completion : β → Program Image Data)
    (completionError : Option NSError → Program Image Data) :
    Except (Option NSError) β → Program Image Data
  | .ok b => completion b
  | .error error => completionError error

variable {completionError : Option NSError → Program Image Data}

theorem handle_getUser {completion : User → Program Image Data} :
    handle (either completion completionError) (getUser .ofUid place self uid) =
      UserManager.getUser place self uid completion completionError := by
  rw [getUser, handle_withDocument, handle_send, UserManager.getUser]
  congr 1
  funext document
  rw [handle_reply]
  rcases document with error | _ | document
  · rfl
  · rfl
  · rfl

theorem handle_createUser {completion : User → Bool → Program Image Data} :
    handle (fun b => completion b.1 b.2) (createUser .ofUid place self uid user) =
      UserManager.createUser place self uid user completion := by
  rw [createUser, handle_read, UserManager.createUser, Program.date]
  congr 1
  funext app
  change Callback.Prog.write _ (handle _ (send place self _ _)) = _
  rw [handle_send]
  congr 2
  funext error
  rw [handle_reply]
  cases error with
  | none => rfl
  | some error => rfl

theorem handle_updateUser {completion : Program Image Data} :
    handle (either (fun _ => completion) completionError) (updateUser .ofUid place self user) =
      UserManager.updateUser place self user completion completionError := by
  unfold updateUser UserManager.updateUser
  cases user.userId with
  | none => exact handle_reply _ _
  | some userId =>
      dsimp only
      rw [handle_withDocument, handle_send]
      congr 1
      funext error
      rw [handle_reply]
      cases error with
      | none => rfl
      | some error => rfl

theorem handle_uploadImage {completion : Option String → Option NSError → Program Image Data} :
    handle (fun b => completion b.1 b.2) (uploadImage ios place self image uid.name true) =
      UserManager.uploadImage ios place self image uid completion := by
  unfold uploadImage UserManager.uploadImage
  dsimp only
  cases ios.jpegData image (1 / 10) with
  | none => exact handle_reply _ _
  | some data =>
      have hpath : (StorageReference.photoJpg uid).path ≠ [] := by simp
      dsimp only
      rw [if_pos rfl]
      refine (handle_putData _ hpath data _).trans ?_
      congr 1
      funext error
      cases error with
      | some error => exact handle_reply _ _
      | none =>
          change handle _ (send place self _ _) = Program.send place self _ _
          rw [handle_send]
          congr 1
          funext url
          rw [handle_reply]
          cases url with
          | error error => rfl
          | ok url => rfl

theorem handle_deleteAccount {completion : Option NSError → Program Image Data} :
    handle completion (deleteAccount .ofUid place self uid) =
      UserManager.deleteAccount place self uid completion := by
  rw [deleteAccount, handle_withDocument, handle_send, UserManager.deleteAccount]
  congr 1
  funext error
  cases error with
  | none => rfl
  | some error => exact handle_reply _ _

theorem handle_addressReceived {completion : Program Image Data} {storageRef : StorageReference}
    (url : Except NSError String) :
    handle (either (fun _ => completion) completionError)
        (addressReceived .ofUid self storageRef url) =
      StorageManager.downloadURLHandler self storageRef completion completionError url := by
  cases url with
  | error error => exact handle_reply _ _
  | ok url =>
      rw [addressReceived, handle_read]
      change _ = Callback.Prog.read _
      congr 1
      funext app
      dsimp only
      cases app.currentUid with
      | none => exact handle_reply _ _
      | some uid => exact congrArg (Callback.Prog.send _ _) (handle_reply _ _)

theorem handle_uploadProfileImage {completion : Program Image Data} :
    handle (either (fun _ => completion) completionError)
        (uploadProfileImage ios .ofUid place self image) =
      StorageManager.uploadProfileImage ios place self image completion completionError := by
  rw [uploadProfileImage, handle_read, StorageManager.uploadProfileImage, Program.guardUid]
  congr 1
  funext app
  cases app.currentUid with
  | none => rfl
  | some uid =>
      dsimp only
      cases ios.jpegData image (1 / 2) with
      | none => rfl
      | some data =>
          have hpath : (StorageReference.photo uid).path ≠ [] := by simp
          dsimp only
          rw [handle_putData _ hpath]
          congr 1
          funext error
          cases error with
          | some error => exact handle_reply _ _
          | none =>
              change handle _ (send place self _ _) = Program.send place self _ _
              rw [handle_send]
              congr 1
              funext url
              exact handle_addressReceived url

end Handle

/-! ## The operations of the user and storage managers -/

inductive Operation (Image Id : Type) where
  | getUser (uid : Id)
  | createUser (uid : Id) (user : User Id)
  | updateUser (user : User Id)
  | uploadImage (image : Image) (itemId : List Char) (isUserimage : Bool)
  | uploadProfilePicture (image : Image)
  | deleteAccount (uid : Id)
  | uploadProfileImage (image : Image)

namespace Operation

/-- Which handler is called, and with what. -/
abbrev Answer : Operation Image Id → Type
  | getUser _ => Except (Option NSError) (User Id)
  | createUser _ _ => User Id × Bool
  | updateUser _ => Except (Option NSError) Unit
  | uploadImage _ _ _ => Option String × Option NSError
  | uploadProfilePicture _ => Except (Option NSError) (Uid × String × String)
  | deleteAccount _ => Option NSError
  | uploadProfileImage _ => Except (Option NSError) Unit

def task (resized : Image → Option Data) :
    (op : Operation Image Id) → ManagerTask Image Data Key op.Answer
  | getUser uid => ManagerAnswers.getUser users place self uid
  | createUser uid user => ManagerAnswers.createUser users place self uid user
  | updateUser user => ManagerAnswers.updateUser users place self user
  | uploadImage image itemId isUserimage =>
      ManagerAnswers.uploadImage ios place self image itemId isUserimage
  | uploadProfilePicture image => ManagerAnswers.uploadProfilePicture place self resized image
  | deleteAccount uid => ManagerAnswers.deleteAccount users place self uid
  | uploadProfileImage image => ManagerAnswers.uploadProfileImage ios users place self image

def ReportsSuccess : (op : Operation Image Id) → op.Answer → Prop
  | getUser _, b => ∃ user, b = .ok user
  | createUser _ _, b => b.2 = true
  | updateUser _, b => b = .ok ()
  | uploadImage _ _ _, b => b.1.isSome
  | uploadProfilePicture _, b => ∃ picture, b = .ok picture
  | deleteAccount _, b => b = none
  | uploadProfileImage _, b => b = .ok ()

/-- How many requests the operation is made of. -/
def requests : Operation Image Id → ℕ
  | getUser _ | createUser _ _ | updateUser _ | deleteAccount _ => 1
  | uploadImage _ _ _ | uploadProfilePicture _ => 2
  | uploadProfileImage _ => 3

end Operation

/-- The request succeeded, and a document that was asked for exists. -/
def Delivered : ManagerEntry Image Data Key → Prop
  | ⟨⟨_, _, .getDocument _⟩, document⟩ => ∃ fields, document = .ok (some fields)
  | e => e.call.request.Succeeded e.response

def isWrite : Request Data Key → Bool
  | .setData _ _ _ => true
  | _ => false

section Delivered

variable {place : Place} {self : Controller} {uid : Key} {fields : Fields} {merge : Bool}
  {ref : StorageReference} {data : Data} {error : Option NSError} {url : Except NSError String}

@[simp] theorem delivered_getDocument {document : Except NSError (Option Fields)} :
    Delivered (⟨⟨place, self, .getDocument uid⟩, document⟩ : ManagerEntry Image Data Key) ↔
      ∃ fields, document = .ok (some fields) := Iff.rfl

@[simp] theorem delivered_setData :
    Delivered (⟨⟨place, self, .setData uid fields merge⟩, error⟩ : ManagerEntry Image Data Key) ↔
      error = none := Iff.rfl

@[simp] theorem delivered_updateData :
    Delivered (⟨⟨place, self, .updateData uid fields⟩, error⟩ : ManagerEntry Image Data Key) ↔
      error = none := Iff.rfl

@[simp] theorem delivered_deleteDocument :
    Delivered (⟨⟨place, self, .deleteDocument uid⟩, error⟩ : ManagerEntry Image Data Key) ↔
      error = none := Iff.rfl

@[simp] theorem delivered_putData :
    Delivered (⟨⟨place, self, .putData ref data⟩, error⟩ : ManagerEntry Image Data Key) ↔
      error = none := Iff.rfl

@[simp] theorem delivered_downloadURL :
    Delivered (⟨⟨place, self, .downloadURL ref⟩, url⟩ : ManagerEntry Image Data Key) ↔
      ∃ downloadUrl, url = .ok downloadUrl := Iff.rfl

@[simp] theorem isWrite_setData :
    isWrite (.setData uid fields merge : Request Data Key) = true := rfl

@[simp] theorem isWrite_putData : isWrite (.putData ref data : Request Data Key) = false := rfl

@[simp] theorem isWrite_downloadURL : isWrite (.downloadURL ref : Request Data Key) = false := rfl

end Delivered

/-- Exactly one handler is called, and it is called once. An operation with an error channel, in
which `Reports` are the reports of success, reports success if and only if all of its requests were
made and delivered. -/
structure AnsweredOnce {ι β : Type} {α : ι → Type} (channel : Option (β → Prop)) (requests : ℕ)
    (Delivered : Callback.Entry ι α → Prop) (answers : Multiset β)
    (responses : Multiset (Callback.Entry ι α)) : Prop where
  once : answers.card = 1
  truthful : ∀ Reports ∈ channel, (∃ b ∈ answers, Reports b) ↔
    responses.card = requests ∧ ∀ e ∈ responses, Delivered e

/-- When an operation answers as it should. -/
def Operation.Admits (app : App Image) (responses : Multiset (ManagerEntry Image Data Key)) :
    Operation Image Id → Prop
  | getUser uid | createUser uid _ => (users.document uid).isSome
  | updateUser user => ∀ userId, user.userId = some userId → (users.document userId).isSome
  | uploadImage image _ isUserimage => isUserimage = true ∨ ios.jpegData image (1 / 10) = none
  | uploadProfilePicture _ => True
  | deleteAccount _ => ∃ e ∈ responses, ¬ Delivered e
  | uploadProfileImage image => app.currentUid.isSome ∧ (ios.jpegData image (1 / 2)).isSome ∧
      ((∃ e ∈ responses, isWrite e.call.request = false ∧ ¬ Delivered e) ∨
        ∃ e ∈ responses, isWrite e.call.request = true ∧ Delivered e)

section Answers

variable {ι β : Type} {α : ι → Type} {Reports : β → Prop} {requests : ℕ}
  {Delivers : Callback.Entry ι α → Prop} {responses : Multiset (Callback.Entry ι α)}

theorem answeredOnce_singleton {b : β} :
    AnsweredOnce (some Reports) requests Delivers {b} responses ↔
      (Reports b ↔ responses.card = requests ∧ ∀ e ∈ responses, Delivers e) := by
  constructor
  · intro h
    simpa using h.truthful Reports rfl
  · intro h
    refine ⟨Multiset.card_singleton b, fun R hR => ?_⟩
    cases hR
    simpa using h

theorem not_answeredOnce_zero {channel : Option (β → Prop)} :
    ¬ AnsweredOnce channel requests Delivers 0 responses := by
  intro h
  have hcard := h.once
  simp at hcard

end Answers

variable {ios users place self} {app : App Image} {uid : Id} {user : User Id} {image : Image}
  {responses : Multiset (ManagerEntry Image Data Key)}

/-- An operation on a document answers as its request does, unless the id stops the process. -/
theorem withDocument_answersOnce_iff {β : Type} {channel : Option (β → Prop)} {requests : ℕ}
    {body : Key → ManagerTask Image Data Key β} {answers : Multiset β}
    (hbody : ∀ key, (body key).Yields app answers responses →
      AnsweredOnce channel requests Delivered answers responses)
    (h : (withDocument users uid body).Yields app answers responses) :
    AnsweredOnce channel requests Delivered answers responses ↔
      (users.document uid).isSome := by
  unfold withDocument at h
  cases hkey : users.document uid with
  | none =>
      rw [hkey] at h
      obtain ⟨rfl, rfl⟩ := h
      exact iff_of_false not_answeredOnce_zero nofun
  | some key =>
      rw [hkey] at h
      exact iff_of_true (hbody key h) rfl

theorem getUser_answersOnce_iff {answers : Multiset (Except (Option NSError) (User Id))}
    (h : (getUser users place self uid).Yields app answers responses) :
    AnsweredOnce (some (∃ user, · = .ok user)) 1 Delivered answers responses ↔
      (users.document uid).isSome := by
  refine withDocument_answersOnce_iff (fun key hkey => ?_) h
  obtain ⟨document, rfl, rfl⟩ := yields_request_reply.mp hkey
  rw [answeredOnce_singleton]
  change Except NSError (Option Fields) at document
  rcases document with error | _ | document
  · simp [userOfDocument]
  · simp [userOfDocument]
  · simp [userOfDocument, User.ofSnapshot]

theorem createUser_answersOnce_iff {answers : Multiset (User Id × Bool)}
    (h : (createUser users place self uid user).Yields app answers responses) :
    AnsweredOnce (some (·.2 = true)) 1 Delivered answers responses ↔
      (users.document uid).isSome := by
  refine withDocument_answersOnce_iff (fun key hkey => ?_) h
  obtain ⟨error, rfl, rfl⟩ := yields_request_reply.mp hkey
  rw [answeredOnce_singleton]
  simp

theorem updateUser_answersOnce_iff {answers : Multiset (Except (Option NSError) Unit)}
    (h : (updateUser users place self user).Yields app answers responses) :
    AnsweredOnce (some (· = .ok ())) 1 Delivered answers responses ↔
      ∀ userId, user.userId = some userId → (users.document userId).isSome := by
  unfold updateUser at h
  cases hu : user.userId with
  | none =>
      rw [hu] at h
      obtain ⟨rfl, rfl⟩ := yields_reply.mp h
      rw [answeredOnce_singleton]
      simp
  | some userId =>
      rw [hu] at h
      suffices hbody : AnsweredOnce (some (· = .ok ())) 1 Delivered answers responses ↔
          (users.document userId).isSome by
        rw [hbody]
        simp
      refine withDocument_answersOnce_iff (fun key hkey => ?_) h
      obtain ⟨error, rfl, rfl⟩ := yields_request_reply.mp hkey
      rw [answeredOnce_singleton]
      change Option NSError at error
      cases error with
      | none => simp [updated]
      | some error => simp [updated]

/-- An upload to an object that is answered with its address. -/
theorem upload_answersOnce {β : Type} {R : β → Prop} {ref : StorageReference} {data : Data}
    {failed : NSError → β} {address : Except NSError String → β} (href : ref.path ≠ [])
    (hfailed : ∀ error, ¬ R (failed error))
    (haddress : ∀ url, R (address url) ↔ ∃ downloadUrl, url = .ok downloadUrl)
    {answers : Multiset β}
    (h : (putData place self ref data (uploaded place self ref failed address)).Yields app
      answers responses) :
    AnsweredOnce (some R) 2 Delivered answers responses := by
  rw [putData, if_neg href] at h
  obtain ⟨_, error, rest, hrest, rfl⟩ := yields_request.mp h
  change Option NSError at error
  cases error with
  | some error =>
      obtain ⟨rfl, rfl⟩ := yields_reply.mp hrest
      rw [answeredOnce_singleton]
      simp [hfailed]
  | none =>
      obtain ⟨url, rfl, rfl⟩ := yields_request_reply.mp hrest
      rw [answeredOnce_singleton, haddress]
      simp

theorem imageRef_path (itemId : List Char) : (StorageReference.root.child
    (PROFILE_PICTURE_REFERENCE ++ itemId ++ ".jpg".toList)).path ≠ [] := by
  have hsplit : PROFILE_PICTURE_REFERENCE ++ itemId ++ ".jpg".toList =
      [] ++ '/' :: ("photoReference".toList ++ '/' :: (itemId ++ ".jpg".toList)) := by
    rw [StorageReference.PROFILE_PICTURE_REFERENCE_eq]
    simp only [List.nil_append, List.cons_append, List.append_assoc]
  change [] ++ StorageReference.segments _ ≠ []
  rw [hsplit, StorageReference.segments_append_slash, StorageReference.segments_append_slash,
    StorageReference.segments_folder]
  simp

theorem profilePicture_path (uid : Uid) : (profilePicture uid).path ≠ [] := by
  change _ ++ StorageReference.segments uid.name ≠ []
  rw [StorageReference.segments_of_clean uid.clean.1 uid.clean.2.1]
  simp

theorem uploadImage_answersOnce_iff {itemId : List Char} {isUserimage : Bool}
    {answers : Multiset (Option String × Option NSError)}
    (h : (uploadImage ios place self image itemId isUserimage).Yields app answers responses) :
    AnsweredOnce (some (·.1.isSome = true)) 2 Delivered answers responses ↔
      isUserimage = true ∨ ios.jpegData image (1 / 10) = none := by
  unfold uploadImage at h
  dsimp only at h
  cases hdata : ios.jpegData image (1 / 10) with
  | none =>
      rw [hdata] at h
      obtain ⟨rfl, rfl⟩ := yields_reply.mp h
      rw [answeredOnce_singleton]
      simp
  | some data =>
      rw [hdata] at h
      cases isUserimage with
      | false =>
          obtain ⟨rfl, rfl⟩ := h
          exact iff_of_false not_answeredOnce_zero (by simp)
      | true =>
          refine iff_of_true (upload_answersOnce (imageRef_path itemId) (fun _ => nofun)
            (fun url => ?_) h) (Or.inl rfl)
          cases url with
          | error error => simp [imageAddress]
          | ok url => simp [imageAddress]

theorem uploadProfilePicture_answersOnce {resized : Image → Option Data}
    {answers : Multiset (Except (Option NSError) (Uid × String × String))}
    (h : (uploadProfilePicture place self resized image).Yields app answers responses) :
    AnsweredOnce (some (∃ picture, · = .ok picture)) 2 Delivered answers responses := by
  have hrefused (hreply : (reply (.error none) : ManagerTask Image Data Key _).Yields app answers
      responses) :
      AnsweredOnce (some (∃ picture, · = .ok picture)) 2 Delivered answers responses := by
    obtain ⟨rfl, rfl⟩ := yields_reply.mp hreply
    rw [answeredOnce_singleton]
    simp
  simp only [uploadProfilePicture, Yields] at h
  cases hu : app.currentUid with
  | none =>
      rw [hu] at h
      exact hrefused h
  | some uid =>
      rw [hu] at h
      dsimp only at h
      cases hdata : resized image with
      | none =>
          rw [hdata] at h
          exact hrefused h
      | some data =>
          rw [hdata] at h
          have hfailed (error : NSError) : ¬ ∃ picture, (.error (some error) :
              Except (Option NSError) (Uid × String × String)) = .ok picture := by simp
          have haddress (url : Except NSError String) : (∃ picture, pictureAddress uid url =
              .ok picture) ↔ ∃ downloadUrl, url = .ok downloadUrl := by
            cases url with
            | error error => simp [pictureAddress]
            | ok url => simp [pictureAddress]
          exact upload_answersOnce (R := (∃ picture, · = .ok picture)) (profilePicture_path uid)
            hfailed haddress h

/-- A successful deletion is not answered. -/
theorem deleteAccount_answersOnce_iff {answers : Multiset (Option NSError)}
    (h : (deleteAccount users place self uid).Yields app answers responses) :
    AnsweredOnce (some (· = none)) 1 Delivered answers responses ↔
      ∃ e ∈ responses, ¬ Delivered e := by
  unfold deleteAccount withDocument at h
  cases hkey : users.document uid with
  | none =>
      rw [hkey] at h
      obtain ⟨rfl, rfl⟩ := h
      refine iff_of_false not_answeredOnce_zero ?_
      simp
  | some key =>
      rw [hkey] at h
      obtain ⟨_, error, rest, hrest, rfl⟩ := yields_request.mp h
      change Option NSError at error
      cases error with
      | some error =>
          obtain ⟨rfl, rfl⟩ := yields_reply.mp hrest
          rw [answeredOnce_singleton]
          simp
      | none =>
          obtain ⟨rfl, rfl⟩ := hrest
          refine iff_of_false not_answeredOnce_zero ?_
          simp

/-- Once the address is there, success is reported, and the last write is the only thing to go
wrong. -/
theorem addressReceived_answersOnce_iff {url : Except NSError String}
    {answers : Multiset (Except (Option NSError) Unit)} {ref : StorageReference} {data : Data}
    (h : (addressReceived users self ref url).Yields app answers responses) :
    AnsweredOnce (some (· = .ok ())) 3 Delivered answers
        ((⟨⟨place, self, .putData ref data⟩, (none : Option NSError)⟩ :
            ManagerEntry Image Data Key) ::ₘ
          (⟨⟨place, self, .downloadURL ref⟩, url⟩ : ManagerEntry Image Data Key) ::ₘ responses) ↔
      (∃ error, url = .error error) ∨
        ∃ e ∈ responses, isWrite e.call.request = true ∧ Delivered e := by
  cases url with
  | error error =>
      obtain ⟨rfl, rfl⟩ := yields_reply.mp h
      rw [answeredOnce_singleton]
      simp
  | ok url =>
      simp only [addressReceived, Yields] at h
      cases hu : app.currentUid with
      | none =>
          rw [hu] at h
          obtain ⟨rfl, rfl⟩ := yields_reply.mp h
          rw [answeredOnce_singleton]
          simp
      | some uid =>
          obtain ⟨key, hkey⟩ := Option.isSome_iff_exists.mp (users.document_name uid)
          rw [hu] at h
          dsimp only at h
          rw [hkey] at h
          obtain ⟨_, _, _, error, _, _, hreply, ⟨rfl, rfl⟩, rfl, rfl⟩ := h
          obtain ⟨rfl, rfl⟩ := yields_reply.mp hreply
          rw [add_zero, answeredOnce_singleton]
          change Option NSError at error
          cases error with
          | none => simp
          | some error => simp

/-- All that is sent after the address has been received is the write of the reference. -/
theorem writes_of_addressReceived {url : Except NSError String} {ref : StorageReference}
    {answers : Multiset (Except (Option NSError) Unit)}
    (h : (addressReceived users self ref url).Yields app answers responses) :
    ∀ e ∈ responses, isWrite e.call.request = true := by
  intro e he
  cases url with
  | error error =>
      obtain ⟨rfl, rfl⟩ := yields_reply.mp h
      simp at he
  | ok url =>
      simp only [addressReceived, Yields] at h
      cases hu : app.currentUid with
      | none =>
          rw [hu] at h
          obtain ⟨rfl, rfl⟩ := yields_reply.mp h
          simp at he
      | some uid =>
          obtain ⟨key, hkey⟩ := Option.isSome_iff_exists.mp (users.document_name uid)
          rw [hu] at h
          dsimp only at h
          rw [hkey] at h
          obtain ⟨_, _, _, error, _, _, hreply, ⟨rfl, rfl⟩, rfl, rfl⟩ := h
          obtain ⟨rfl, rfl⟩ := yields_reply.mp hreply
          rw [zero_add, Multiset.mem_cons] at he
          rcases he with rfl | he
          · rfl
          · simp at he

/-- Nothing is answered when there is no user or no encoding of the image. -/
theorem uploadProfileImage_answersOnce_iff {answers : Multiset (Except (Option NSError) Unit)}
    (h : (uploadProfileImage ios users place self image).Yields app answers responses) :
    AnsweredOnce (some (· = .ok ())) 3 Delivered answers responses ↔
      app.currentUid.isSome ∧ (ios.jpegData image (1 / 2)).isSome ∧
        ((∃ e ∈ responses, isWrite e.call.request = false ∧ ¬ Delivered e) ∨
          ∃ e ∈ responses, isWrite e.call.request = true ∧ Delivered e) := by
  simp only [uploadProfileImage, Yields] at h
  cases hu : app.currentUid with
  | none =>
      rw [hu] at h
      obtain ⟨rfl, rfl⟩ := h
      exact iff_of_false not_answeredOnce_zero (by simp)
  | some uid =>
      rw [hu] at h
      dsimp only at h
      cases hdata : ios.jpegData image (1 / 2) with
      | none =>
          rw [hdata] at h
          obtain ⟨rfl, rfl⟩ := h
          exact iff_of_false not_answeredOnce_zero (by simp)
      | some data =>
          rw [hdata] at h
          have hpath : (StorageReference.photo uid).path ≠ [] := by simp
          dsimp only at h
          rw [putData, if_neg hpath] at h
          obtain ⟨_, error, rest, hrest, rfl⟩ := yields_request.mp h
          change Option NSError at error
          cases error with
          | some error =>
              obtain ⟨rfl, rfl⟩ := yields_reply.mp hrest
              rw [answeredOnce_singleton]
              simp
          | none =>
              obtain ⟨_, url, last, hlast, rfl⟩ := yields_request.mp hrest
              rw [addressReceived_answersOnce_iff hlast]
              change Except NSError String at url
              cases url with
              | error error => simp
              | ok url =>
                  have hwrites : ∀ e ∈ last, isWrite e.call.request = true :=
                    writes_of_addressReceived hlast
                  have hnone : ¬ ∃ e ∈ last, isWrite e.call.request = false ∧ ¬ Delivered e := by
                    rintro ⟨e, he, hread, _⟩
                    rw [hwrites e he] at hread
                    cases hread
                  simp [eq_false hnone]

/-! ## The operations of the API manager -/

/-- `UIImage(data:)`, and the JSON decoder for search results and for the ids of a film. -/
structure Decoder (Bytes Image : Type) where
  image : Bytes → Option Image
  movies : Bytes → Option (List Movie)
  movieID : Bytes → Option String

inductive ApiOperation (Url : Type) where
  | getMoviePoster (url : Url)
  | searchMovies (url : Url)
  | openInSafari (url : Url)

/-- A task whose requests are data tasks for a URL. The response is the data, if there is any. -/
abbrev ApiTask (σ Url Bytes β : Type) := Callback.Task σ Url (fun _ => Option Bytes) β

section Api

variable {σ Url Bytes : Type} (decoder : Decoder Bytes Image)

def getMoviePoster (url : Url) : ApiTask σ Url Bytes (Option Image) :=
  request url (fun data => reply (data.bind decoder.image))

/-- What cannot be decoded is not answered. -/
def decoded {β : Type} (decode : Bytes → Option β) : Option Bytes → ApiTask σ Url Bytes β
  | some data =>
      match decode data with
      | some b => reply b
      | none => .done
  | none => .done

def searchMovies (url : Url) : ApiTask σ Url Bytes (List Movie) :=
  request url (decoded decoder.movies)

def openInSafari (url : Url) : ApiTask σ Url Bytes String :=
  request url (decoded decoder.movieID)

namespace ApiOperation

variable (Image) in
abbrev Answer : ApiOperation Url → Type
  | getMoviePoster _ => Option Image
  | searchMovies _ => List Movie
  | openInSafari _ => String

def task : (op : ApiOperation Url) → ApiTask σ Url Bytes (op.Answer Image)
  | getMoviePoster url => ManagerAnswers.getMoviePoster decoder url
  | searchMovies url => ManagerAnswers.searchMovies decoder url
  | openInSafari url => ManagerAnswers.openInSafari decoder url

/-- Only the poster has an error channel, nil. -/
def channel : (op : ApiOperation Url) → Option (op.Answer Image → Prop)
  | getMoviePoster _ => some (fun image => image.isSome)
  | searchMovies _ | openInSafari _ => none

/-- The data can be decoded. -/
def Decodes : ApiOperation Url → Callback.Entry Url (fun _ => Option Bytes) → Prop
  | getMoviePoster _, e => (e.response.bind decoder.image).isSome
  | searchMovies _, e => (e.response.bind decoder.movies).isSome
  | openInSafari _, e => (e.response.bind decoder.movieID).isSome

def Admits (responses : Multiset (Callback.Entry Url (fun _ => Option Bytes))) :
    ApiOperation Url → Prop
  | getMoviePoster _ => True
  | op => ∃ e ∈ responses, op.Decodes decoder e

end ApiOperation

variable {decoder} {σ : Type} {s : σ} {url : Url}
  {responses : Multiset (Callback.Entry Url (fun _ => Option Bytes))}

theorem getMoviePoster_answersOnce {answers : Multiset (Option Image)}
    (h : (getMoviePoster decoder url : ApiTask σ Url Bytes _).Yields s answers responses) :
    AnsweredOnce (some (·.isSome = true)) 1 ((ApiOperation.getMoviePoster url).Decodes decoder)
      answers responses := by
  obtain ⟨data, rfl, rfl⟩ := yields_request_reply.mp h
  rw [answeredOnce_singleton]
  simp [ApiOperation.Decodes]

theorem run_decoded {β : Type} (decode : Bytes → Option β) (data : Option Bytes) (s : σ) :
    (decoded decode data : ApiTask σ Url Bytes β).run s = (s, (data.bind decode).toList, []) := by
  cases data with
  | none => rfl
  | some data =>
      simp only [decoded, Option.bind_some]
      cases decode data with
      | none => rfl
      | some b => rfl

/-- The completion of a search is called with what the task answers. -/
theorem searchMoviesHandler_decoded (completion : List Movie → SearchProgram Url)
    (data : Option Bytes) (s : σ) :
    ApiManager.searchMoviesHandler completion (data.bind decoder.movies) =
      (((decoded decoder.movies data : ApiTask σ Url Bytes _).run s).2.1.map completion).foldr
        (· ++ ·) .done := by
  rw [run_decoded]
  cases data.bind decoder.movies with
  | none => rfl
  | some movies => exact (Callback.Prog.append_done _).symm

theorem openInSafariHandler_decoded (completion : String → SearchProgram Url)
    (data : Option Bytes) (s : σ) :
    ApiManager.openInSafariHandler completion (data.bind decoder.movieID) =
      (((decoded decoder.movieID data : ApiTask σ Url Bytes _).run s).2.1.map completion).foldr
        (· ++ ·) .done := by
  rw [run_decoded]
  cases data.bind decoder.movieID with
  | none => rfl
  | some movieID => exact (Callback.Prog.append_done _).symm

/-- Data that is missing or cannot be decoded is not answered. -/
theorem decoded_answersOnce_iff {β : Type} {decode : Bytes → Option β} {answers : Multiset β}
    {Decodes : Callback.Entry Url (fun _ => Option Bytes) → Prop}
    (hdecodes : ∀ e, Decodes e ↔ (e.response.bind decode).isSome)
    (h : (request url (decoded decode) : ApiTask σ Url Bytes β).Yields s answers responses) :
    AnsweredOnce none 1 Decodes answers responses ↔ ∃ e ∈ responses, Decodes e := by
  obtain ⟨s', data, rest, hrest, rfl⟩ := yields_request.mp h
  have hdata := hdecodes ⟨url, data⟩
  cases data with
  | none =>
      obtain ⟨rfl, rfl⟩ := hrest
      refine iff_of_false not_answeredOnce_zero ?_
      simp [hdata]
  | some data =>
      simp only [decoded] at hrest
      cases hb : decode data with
      | none =>
          rw [hb] at hrest
          obtain ⟨rfl, rfl⟩ := hrest
          refine iff_of_false not_answeredOnce_zero ?_
          simp [hdata, hb]
      | some b =>
          rw [hb] at hrest
          obtain ⟨rfl, rfl⟩ := yields_reply.mp hrest
          refine iff_of_true ⟨Multiset.card_singleton b, nofun⟩ ?_
          simp [hdata, hb]

end Api

/-- Every request succeeds, and no document or picture is there. -/
def succeeding : (call : ManagerCall (ℕ × ℚ) (List (List Char))) → call.Response ℕ
  | ⟨_, _, .deleteDocument _⟩ | ⟨_, _, .setData _ _ _⟩ | ⟨_, _, .updateData _ _⟩
  | ⟨_, _, .putData _ _⟩ | ⟨_, _, .deleteObject _⟩ | ⟨_, _, .updateCurrentUser _⟩ => none
  | ⟨_, _, .getDocument _⟩ => .ok none
  | ⟨_, _, .downloadURL _⟩ => .ok ""
  | ⟨_, _, .loadImage _ _⟩ => none
  | ⟨_, _, .timer⟩ => ()
  | ⟨_, _, .signIn _ _⟩ | ⟨_, _, .createUser _ _⟩ => .ok Account.ana.user
  | ⟨_, _, .reload _ _⟩ => .ok true
  | ⟨_, _, .delete _ _⟩ | ⟨_, _, .sendEmailVerification _ _⟩ => .ok ()

abbrev deletion : Operation ℕ (List Char) := .deleteAccount "ana".toList

/-- The round in which Ana's document is deleted. -/
abbrev deletionRound : Callback.Round (App ℕ) (ManagerCall (ℕ × ℚ) (List (List Char)))
    (Call.Response ℕ) (Option NSError) :=
  .start (App.launch none) (deletion.task Platform.transparent .ofText .profileDeleteDocument
    ⟨0, .profile⟩ (fun _ => none))

theorem deletion_run : ∃ w,
    EventRun.run Callback.Round.step deletionRound [.complete 0 succeeding] = some w ∧
      w.inFlight = [] ∧ w.answers = [] := by
  refine ⟨_, rfl, ?_, ?_⟩
  · rfl
  · rfl

/-- No data can be decoded. -/
def blind : Decoder ℕ ℕ := ⟨fun _ => none, fun _ => none, fun _ => none⟩

abbrev searchRound : Callback.Round Unit String (fun _ => Option ℕ) (List Movie) :=
  .start () ((ApiOperation.searchMovies "url").task blind)

theorem search_run : ∃ w,
    EventRun.run Callback.Round.step searchRound [.complete 0 (fun _ => some 0)] = some w ∧
      w.inFlight = [] := by
  refine ⟨_, rfl, ?_⟩
  rfl

end GiveMeMovies.ManagerAnswers
