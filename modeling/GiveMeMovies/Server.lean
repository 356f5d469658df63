import Mathlib.Logic.Embedding.Basic
import GiveMeMovies.UserModel

/-!
# Requests and the services that answer them

`Server` is the state held outside the app: the accounts of the authentication service, the
documents `users/uid` and the objects of the storage bucket. A request is answered under an
outcome, which is the part of the answer that the app cannot foresee: whether the request fails,
and the id given to a new account or the picture a download yields. `reply` is what comes back
and `commit` is what the answer changes on the server.
-/

namespace GiveMeMovies

structure NSError where
  code : ℤ
  localizedDescription : String
  deriving DecidableEq

namespace AuthErrorCode

def userDisabled : ℤ := 17005
def emailAlreadyInUse : ℤ := 17007
def invalidEmail : ℤ := 17008
def wrongPassword : ℤ := 17009
def userNotFound : ℤ := 17011
def invalidUserToken : ℤ := 17017
def userTokenExpired : ℤ := 17021
def weakPassword : ℤ := 17026
def internalError : ℤ := 17999

end AuthErrorCode

def StorageErrorCode.objectNotFound : ℤ := -13010

def FirestoreErrorCode.notFound : ℤ := 5

/-- An error with which the library signs out the user whose token it used. -/
def NSError.tokenIsInvalid (error : NSError) : Bool :=
  error.code = AuthErrorCode.userNotFound || error.code = AuthErrorCode.userDisabled ||
    error.code = AuthErrorCode.invalidUserToken || error.code = AuthErrorCode.userTokenExpired

structure Account where
  uid : Uid
  email : String
  password : String
  isEmailVerified : Bool
  deriving DecidableEq

/-- The fields of a signed-in user object that the app reads. -/
structure AuthUser where
  uid : Uid
  email : String
  isEmailVerified : Bool
  deriving DecidableEq

namespace Account

def user (account : Account) : AuthUser :=
  ⟨account.uid, account.email, account.isEmailVerified⟩

def ana : Account := ⟨⟨"ana".toList, by decide⟩, "ana@mail.com", "secret1", true⟩

def ben : Account := ⟨⟨"ben".toList, by decide⟩, "ben@mail.com", "secret2", true⟩

end Account

structure Server (Data : Type) where
  accounts : List Account
  issued : List Uid
  docs : Uid → Option Fields
  objects : StorageReference → Option Data
  urlOf : StorageReference ↪ String

namespace Server

variable {Data : Type}

/-- Services that hold nothing, with the object's own description as its address. -/
def empty : Server Data where
  accounts := []
  issued := []
  docs := fun _ => none
  objects := fun _ => none
  urlOf := ⟨StorageReference.description, StorageReference.description_injective⟩

def account (server : Server Data) (uid : Uid) : Option Account :=
  server.accounts.find? (fun account => account.uid = uid)

def accountWithEmail (server : Server Data) (email : String) : Option Account :=
  server.accounts.find? (fun account => account.email = email)

def removeAccount (server : Server Data) (uid : Uid) : Server Data :=
  { server with accounts := server.accounts.filter (fun account => account.uid ≠ uid) }

def addAccount (server : Server Data) (account : Account) : Server Data :=
  { server with
    accounts := account :: server.accounts
    issued := account.uid :: server.issued }

def setDoc (server : Server Data) (uid : Uid) (doc : Option Fields) : Server Data :=
  { server with docs := Function.update server.docs uid doc }

def setObject (server : Server Data) (ref : StorageReference) (data : Option Data) :
    Server Data :=
  { server with objects := Function.update server.objects ref data }

/-- The document that `setData` leaves, with or without merging into the present one. -/
def writtenDoc (server : Server Data) (uid : Uid) (fields : Fields) (merge : Bool) : Fields :=
  if merge then ((server.docs uid).getD Fields.empty).merge fields else fields

@[simp] theorem account_removeAccount_self (server : Server Data) (uid : Uid) :
    (server.removeAccount uid).account uid = none := by
  simp [removeAccount, account]

theorem account_removeAccount_of_ne (server : Server Data) {uid uid' : Uid} (h : uid' ≠ uid) :
    (server.removeAccount uid).account uid' = server.account uid' := by
  unfold removeAccount account
  rw [List.find?_filter]
  congr 1
  funext account
  by_cases ha : account.uid = uid'
  · simp [ha, h]
  · simp [ha]

theorem account_addAccount_of_ne (server : Server Data) {account : Account} {uid : Uid}
    (h : uid ≠ account.uid) : (server.addAccount account).account uid = server.account uid := by
  simp [addAccount, Server.account, h.symm]

end Server

/-- A request that fails for a signed-in user fails at his token or at the server. -/
structure AuthFailure where
  error : NSError
  atToken : Bool

/-- The creation of an account ends in signing in, which may fail when the account `made` is
there. -/
structure CreationFailure where
  error : NSError
  made : Option Uid := none

/-- A document of the collection `users` has a key, in the app the id of its user. -/
inductive Request (Data : Type) (Key : Type := Uid) where
  | signIn (email password : String)
  | createUser (email password : String)
  | reload (user : ℕ) (uid : Uid)
  | delete (user : ℕ) (uid : Uid)
  | sendEmailVerification (user : ℕ) (uid : Uid)
  | updateCurrentUser (user : ℕ)
  | getDocument (uid : Key)
  | setData (uid : Key) (fields : Fields) (merge : Bool)
  | updateData (uid : Key) (fields : Fields)
  | deleteDocument (uid : Key)
  | putData (ref : StorageReference) (data : Data)
  | downloadURL (ref : StorageReference)
  | deleteObject (ref : StorageReference)
  | loadImage (photoUrl photoReference : String)
  | timer

inductive Outcome (Image : Type) where
  | success
  | failure (error : NSError)
  | tokenFailure (error : NSError)
  | created (uid : Uid)
  | createdOnly (uid : Uid) (error : NSError)
  | downloaded (image : Image)

def Outcome.error {Image : Type} : Outcome Image → Option NSError
  | .failure error | .tokenFailure error => some error
  | _ => none

namespace Request

variable {Data : Type} {Image : Type}

/-- What the handler of a request receives. An optional error is nil on success. -/
@[reducible] def Response {Key : Type} (Image : Type) : Request Data Key → Type
  | signIn _ _ => Except NSError AuthUser
  | createUser _ _ => Except CreationFailure AuthUser
  | reload _ _ => Except AuthFailure Bool
  | delete _ _ | sendEmailVerification _ _ => Except AuthFailure Unit
  | getDocument _ => Except NSError (Option Fields)
  | downloadURL _ => Except NSError String
  | loadImage _ _ => Option Image
  | timer => Unit
  | _ => Option NSError

def authReply {β : Type} (outcome : Outcome Image) (answer : Except AuthFailure β) :
    Except AuthFailure β :=
  match outcome with
  | .failure error => .error ⟨error, false⟩
  | .tokenFailure error => .error ⟨error, true⟩
  | _ => answer

def notFound : NSError := ⟨AuthErrorCode.userNotFound, "There is no user record"⟩

def emailInUse : NSError := ⟨AuthErrorCode.emailAlreadyInUse, "The email address is in use"⟩

def internalError : NSError := ⟨AuthErrorCode.internalError, "An internal error has occurred"⟩

/-- The id belongs to nobody and never has. -/
def Unused (server : Server Data) (uid : Uid) : Prop :=
  uid ∉ server.issued ∧ server.account uid = none ∧ server.docs uid = none

instance (server : Server Data) (uid : Uid) : Decidable (Unused server uid) :=
  decidable_of_iff (uid ∉ server.issued ∧ ¬ (server.account uid).isSome = true ∧
    ¬ (server.docs uid).isSome = true) (by simp [Unused])

/-- The reply of the services. A sign-in is accepted when the account of the email has the
password, and a new account needs an email and an id that were not in use. -/
def reply : (request : Request Data) → Outcome Image → Server Data → request.Response Image
  | signIn email password, outcome, server =>
      match outcome.error, server.accountWithEmail email with
      | some error, _ => .error error
      | none, none => .error notFound
      | none, some account =>
          if account.password = password then .ok account.user
          else .error ⟨AuthErrorCode.wrongPassword, "The password is invalid"⟩
  | createUser email _, outcome, server =>
      match outcome, server.accountWithEmail email with
      | .failure error, _ | .tokenFailure error, _ => .error { error := error }
      | _, some _ => .error { error := emailInUse }
      | .created uid, none =>
          if Unused server uid then .ok ⟨uid, email, false⟩ else .error { error := internalError }
      | .createdOnly uid error, none =>
          if Unused server uid then .error ⟨error, some uid⟩ else .error { error := internalError }
      | _, none => .error { error := internalError }
  | reload _ uid, outcome, server =>
      authReply outcome (match server.account uid with
        | some account => .ok account.isEmailVerified
        | none => .error ⟨notFound, false⟩)
  | delete _ uid, outcome, server =>
      authReply outcome (match server.account uid with
        | some _ => .ok ()
        | none => .error ⟨notFound, false⟩)
  | sendEmailVerification _ uid, outcome, server =>
      authReply outcome (match server.account uid with
        | some _ => .ok ()
        | none => .error ⟨notFound, false⟩)
  | updateCurrentUser _, outcome, _ => outcome.error
  | getDocument uid, outcome, server =>
      match outcome.error with
      | some error => .error error
      | none => .ok (server.docs uid)
  | setData _ _ _, outcome, _ => outcome.error
  | updateData uid _, outcome, server =>
      match outcome.error, server.docs uid with
      | some error, _ => some error
      | none, none => some ⟨FirestoreErrorCode.notFound, "No document to update"⟩
      | none, some _ => none
  | deleteDocument _, outcome, _ => outcome.error
  | putData _ _, outcome, _ => outcome.error
  | downloadURL ref, outcome, server =>
      match outcome.error, server.objects ref with
      | some error, _ => .error error
      | none, none => .error ⟨StorageErrorCode.objectNotFound, "Object does not exist"⟩
      | none, some _ => .ok (server.urlOf ref)
  | deleteObject ref, outcome, server =>
      match outcome.error, server.objects ref with
      | some error, _ => some error
      | none, none => some ⟨StorageErrorCode.objectNotFound, "Object does not exist"⟩
      | none, some _ => none
  | loadImage _ _, outcome, _ =>
      match outcome with
      | .downloaded image => some image
      | _ => none
  | timer, _, _ => ()

def commit : (request : Request Data) → request.Response Image → Server Data → Server Data
  | createUser email password, .ok user, server =>
      server.addAccount ⟨user.uid, email, password, user.isEmailVerified⟩
  | createUser email password, .error ⟨_, some uid⟩, server =>
      server.addAccount ⟨uid, email, password, false⟩
  | delete _ uid, .ok _, server => server.removeAccount uid
  | setData uid fields merge, none, server =>
      server.setDoc uid (some (server.writtenDoc uid fields merge))
  | updateData uid fields, none, server =>
      server.setDoc uid (some (server.writtenDoc uid fields true))
  | deleteDocument uid, none, server => server.setDoc uid none
  | putData ref data, none, server => server.setObject ref (some data)
  | deleteObject ref, none, server => server.setObject ref none
  | _, _, server => server

@[simp] theorem urlOf_commit (request : Request Data) (response : request.Response Image)
    (server : Server Data) : (request.commit response server).urlOf = server.urlOf := by
  unfold commit
  split <;> rfl

variable (Image) in
/-- What a failed `createUser` commits is at most a new account. -/
theorem commit_createUser_error {email password : String} (failure : CreationFailure)
    (server : Server Data) :
    @commit Data Image (createUser email password) (.error failure) server =
      failure.made.elim server (fun uid => server.addAccount ⟨uid, email, password, false⟩) := by
  obtain ⟨error, made⟩ := failure
  cases made <;> rfl

variable (Image) in
@[simp] theorem commit_reload (user : ℕ) (uid : Uid)
    (response : (reload user uid : Request Data).Response Image) (server : Server Data) :
    (reload user uid).commit response server = server := by
  cases response <;> rfl

/-- The response reports success. -/
def Succeeded {Key : Type} : (request : Request Data Key) → request.Response Image → Prop
  | signIn _ _, response => ∃ user, response = .ok user
  | createUser _ _, response => ∃ user, response = .ok user
  | reload _ _, response => ∃ verified, response = .ok verified
  | delete _ _, response | sendEmailVerification _ _, response => response = .ok ()
  | getDocument _, response => ∃ doc, response = .ok doc
  | downloadURL _, response => ∃ url, response = .ok url
  | loadImage _ _, response => ∃ image, response = some image
  | timer, _ => True
  | updateCurrentUser _, response | setData _ _ _, response | updateData _ _, response
  | deleteDocument _, response | putData _ _, response | deleteObject _, response =>
      response = none

instance decidableSucceeded : (request : Request Data) → (response : request.Response Image) →
    Decidable (request.Succeeded response)
  | signIn _ _, .ok user => isTrue ⟨user, rfl⟩
  | signIn _ _, .error _ => isFalse nofun
  | createUser _ _, .ok user => isTrue ⟨user, rfl⟩
  | createUser _ _, .error _ => isFalse nofun
  | reload _ _, .ok verified => isTrue ⟨verified, rfl⟩
  | reload _ _, .error _ => isFalse nofun
  | delete _ _, .ok _ => isTrue rfl
  | delete _ _, .error _ => isFalse nofun
  | sendEmailVerification _ _, .ok _ => isTrue rfl
  | sendEmailVerification _ _, .error _ => isFalse nofun
  | getDocument _, .ok doc => isTrue ⟨doc, rfl⟩
  | getDocument _, .error _ => isFalse nofun
  | downloadURL _, .ok url => isTrue ⟨url, rfl⟩
  | downloadURL _, .error _ => isFalse nofun
  | loadImage _ _, some image => isTrue ⟨image, rfl⟩
  | loadImage _ _, none => isFalse nofun
  | timer, _ => isTrue trivial
  | updateCurrentUser _, response | setData _ _ _, response | updateData _ _, response
  | deleteDocument _, response | putData _ _, response | deleteObject _, response =>
      decidable_of_iff (response.isNone = true) Option.isNone_iff_eq_none

/-- The account that the answer leaves behind, also when it reports an error. -/
def makes : (request : Request Data) → request.Response Image → Option Uid
  | createUser _ _, .ok user => some user.uid
  | createUser _ _, .error failure => failure.made
  | _, _ => none

/-- The account that the answer to the request under `outcome` leaves behind. -/
def makesUnder (request : Request Data) (outcome : Outcome Image) (server : Server Data) :
    Option Uid :=
  request.makes (request.reply outcome server)

/-- The request is answered with success under `outcome`. -/
def SucceedsUnder (request : Request Data) (outcome : Outcome Image) (server : Server Data) :
    Prop :=
  request.Succeeded (request.reply outcome server)

instance decidableSucceedsUnder (request : Request Data) (outcome : Outcome Image)
    (server : Server Data) : Decidable (request.SucceedsUnder outcome server) :=
  decidableSucceeded request _

theorem succeedsUnder_delete {user : ℕ} {uid : Uid} {outcome : Outcome Image}
    {server : Server Data} : (delete user uid).SucceedsUnder outcome server ↔
      outcome.error = none ∧ (server.account uid).isSome := by
  simp only [SucceedsUnder, Succeeded, reply]
  cases outcome <;> cases server.account uid <;> simp [authReply, Outcome.error]

/-- A sign-in is accepted with the password of the account. -/
theorem of_signIn_ok {email password : String} {outcome : Outcome Image} {server : Server Data}
    {user : AuthUser} (h : (signIn email password).reply outcome server = .ok user) :
    ∃ account, server.accountWithEmail email = some account ∧ account.password = password ∧
      account.user = user := by
  simp only [reply] at h
  split at h
  · cases h
  · cases h
  next account _ ha =>
    by_cases hp : account.password = password
    · rw [if_pos hp] at h
      exact ⟨account, ha, hp, Except.ok.inj h⟩
    · rw [if_neg hp] at h
      cases h

theorem of_reload_ok {user : ℕ} {uid : Uid} {outcome : Outcome Image} {server : Server Data}
    {verified : Bool} (h : (reload user uid).reply outcome server = .ok verified) :
    ∃ account, server.account uid = some account ∧ account.isEmailVerified = verified := by
  simp only [reply] at h
  cases ha : server.account uid with
  | none => cases outcome <;> simp [authReply, ha] at h
  | some account => cases outcome <;> simp [authReply, ha] at h <;> exact ⟨account, rfl, h⟩

/-- A new account has an id that was not in use. -/
theorem of_createUser_ok {email password : String} {outcome : Outcome Image}
    {server : Server Data} {user : AuthUser}
    (h : (createUser email password).reply outcome server = .ok user) :
    user.email = email ∧ user.isEmailVerified = false ∧ server.account user.uid = none ∧
      server.docs user.uid = none := by
  simp only [reply] at h
  split at h
  any_goals cases h
  all_goals split at h
  all_goals cases h
  next hunused => exact ⟨rfl, rfl, hunused.2⟩

/-- So has the account that a failed creation made. -/
theorem of_createUser_made {email password : String} {outcome : Outcome Image}
    {server : Server Data} {error : NSError} {uid : Uid}
    (h : (createUser email password).reply outcome server = .error ⟨error, some uid⟩) :
    server.account uid = none ∧ server.docs uid = none := by
  simp only [reply] at h
  split at h
  any_goals cases h
  all_goals split at h
  all_goals cases h
  next hunused => exact hunused.2

/-- A successful update found a document. -/
theorem docs_of_updated {uid : Uid} {fields : Fields} {outcome : Outcome Image}
    {server : Server Data} (h : (updateData uid fields).reply outcome server = none) :
    server.docs uid ≠ none := by
  intro hdoc
  simp only [reply, hdoc] at h
  cases ho : outcome.error with
  | none => simp [ho] at h
  | some error => simp [ho] at h

theorem url_of_downloadURL_ok {ref : StorageReference} {outcome : Outcome Image}
    {server : Server Data} {url : String}
    (h : (downloadURL ref).reply outcome server = .ok url) : url = server.urlOf ref := by
  simp only [reply] at h
  split at h <;> simp_all

end Request

end GiveMeMovies
