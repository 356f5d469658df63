import Mathlib.Data.Int.Notation
import Mathlib.Logic.Function.Basic
import GiveMeMovies.StorageReference

/-!
# Firestore documents and the `User` model

A document is a partial map from field names to values. `User.parameters` is the map a `User`
is written as, with its nil fields left out, and `User.ofSnapshot` is the initialiser that
decodes a document.
-/

namespace GiveMeMovies

abbrev Date := ℤ

/-- The values of a document. The app reads and writes strings and timestamps; `other` stands
for a value of any other type. -/
inductive Value where
  | string (s : String)
  | timestamp (date : Date)
  | other (n : ℕ)
  deriving DecidableEq

namespace Value

/-- `as? String` -/
def asString : Value → Option String
  | .string s => some s
  | _ => none

/-- `as? Timestamp`, with `dateValue()` -/
def asDate : Value → Option Date
  | .timestamp date => some date
  | _ => none

end Value

abbrev Fields := String → Option Value

namespace Fields

def empty : Fields := fun _ => none

/-- `data[key] = value`, where assigning nil removes the key. -/
def assign (data : Fields) (key : String) (value : Option Value) : Fields :=
  Function.update data key value

/-- `data` with the keys of `fields` replaced. -/
def merge (data fields : Fields) : Fields := fun key => (fields key).or (data key)

@[simp] theorem assign_self (data : Fields) (key : String) (value : Option Value) :
    data.assign key value key = value := by simp [assign]

@[simp] theorem assign_of_ne (data : Fields) {key key' : String} (value : Option Value)
    (h : key' ≠ key) : data.assign key value key' = data key' := by simp [assign, h]

@[simp] theorem empty_apply (key : String) : empty key = none := rfl

end Fields

structure User (Id : Type := Uid) where
  userId : Option Id := none
  username : Option String := none
  firstName : Option String := none
  lastName : Option String := none
  email : Option String := none
  photoDownloadUrl : Option String := none
  photoReference : Option String := none
  createdAt : Option Date := none
  updatedAt : Option Date := none
  aboutMe : Option String := none
  deriving DecidableEq

namespace User

variable {Id : Type}

def KEY_USER_NAME : String := "username"
def KEY_FISRT_NAME : String := "fisrtName"
def KEY_LAST_NAME : String := "lastName"
def KEY_PHOTO_REFERENCE : String := "photoReference"
def KEY_PHOTO_DOWNLOAD_URL : String := "profilePicturePath"
def KEY_USER_EMAIL : String := "email"
def KEY_CREATED_AT : String := "createdAt"
def KEY_UPDATED_AT : String := "updatedAt"
def KEY_ABOUT_ME : String := "aboutMe"

def parameters (user : User Id) : Fields :=
  let data := Fields.empty
  let data := data.assign KEY_USER_NAME (user.username.map .string)
  let data := data.assign KEY_FISRT_NAME (user.firstName.map .string)
  let data := data.assign KEY_LAST_NAME (user.lastName.map .string)
  let data := data.assign KEY_USER_EMAIL (user.email.map .string)
  let data := data.assign KEY_ABOUT_ME (user.aboutMe.map .string)
  let data := match user.createdAt with
    | some createdAt => data.assign KEY_CREATED_AT (some (.timestamp createdAt))
    | none => data
  let data := match user.updatedAt with
    | some updatedAt => data.assign KEY_UPDATED_AT (some (.timestamp updatedAt))
    | none => data
  let data := data.assign KEY_PHOTO_DOWNLOAD_URL (user.photoDownloadUrl.map .string)
  data.assign KEY_PHOTO_REFERENCE (user.photoReference.map .string)

/-- `init?(data: DocumentSnapshot)`, which never fails and does not read the email. -/
def ofSnapshot (documentID : Id) (data : Fields) : Option (User Id) :=
  some
    { userId := some documentID
      username := (data KEY_USER_NAME).bind Value.asString
      firstName := (data KEY_FISRT_NAME).bind Value.asString
      lastName := (data KEY_LAST_NAME).bind Value.asString
      aboutMe := (data KEY_ABOUT_ME).bind Value.asString
      createdAt := (data KEY_CREATED_AT).bind Value.asDate
      updatedAt := (data KEY_UPDATED_AT).bind Value.asDate
      photoDownloadUrl := (data KEY_PHOTO_DOWNLOAD_URL).bind Value.asString
      photoReference := (data KEY_PHOTO_REFERENCE).bind Value.asString }

/-- Leaving a nil date out is assigning it, as no key is written before. -/
theorem parameters_eq (user : User Id) :
    user.parameters = ((((((((Fields.empty.assign KEY_USER_NAME (user.username.map .string)).assign
      KEY_FISRT_NAME (user.firstName.map .string)).assign
      KEY_LAST_NAME (user.lastName.map .string)).assign
      KEY_USER_EMAIL (user.email.map .string)).assign
      KEY_ABOUT_ME (user.aboutMe.map .string)).assign
      KEY_CREATED_AT (user.createdAt.map .timestamp)).assign
      KEY_UPDATED_AT (user.updatedAt.map .timestamp)).assign
      KEY_PHOTO_DOWNLOAD_URL (user.photoDownloadUrl.map .string)).assign
      KEY_PHOTO_REFERENCE (user.photoReference.map .string) := by
  have hassign (data : Fields) (key : String) (date : Option Date) (h : data key = none) :
      (match date with
        | some date => data.assign key (some (.timestamp date))
        | none => data) = data.assign key (date.map .timestamp) := by
    cases date with
    | some date => rfl
    | none =>
        rw [Fields.assign, Option.map_none, ← h, Function.update_eq_self]
  unfold parameters
  dsimp only
  rw [hassign _ KEY_CREATED_AT _ rfl, hassign _ KEY_UPDATED_AT _ rfl]

/-- The map by its keys. -/
theorem parameters_apply (user : User Id) (key : String) :
    user.parameters key =
      if key = KEY_PHOTO_REFERENCE then user.photoReference.map .string
      else if key = KEY_PHOTO_DOWNLOAD_URL then user.photoDownloadUrl.map .string
      else if key = KEY_UPDATED_AT then user.updatedAt.map .timestamp
      else if key = KEY_CREATED_AT then user.createdAt.map .timestamp
      else if key = KEY_ABOUT_ME then user.aboutMe.map .string
      else if key = KEY_USER_EMAIL then user.email.map .string
      else if key = KEY_LAST_NAME then user.lastName.map .string
      else if key = KEY_FISRT_NAME then user.firstName.map .string
      else if key = KEY_USER_NAME then user.username.map .string
      else none := by
  rw [parameters_eq]
  simp only [Fields.assign, Function.update_apply, Fields.empty]

theorem parameters_photoDownloadUrl (user : User Id) :
    user.parameters KEY_PHOTO_DOWNLOAD_URL = user.photoDownloadUrl.map .string := by
  rw [parameters_apply]
  rfl

theorem parameters_photoReference (user : User Id) :
    user.parameters KEY_PHOTO_REFERENCE = user.photoReference.map .string := by
  rw [parameters_apply]
  rfl

theorem parameters_email (user : User Id) :
    user.parameters KEY_USER_EMAIL = user.email.map .string := by
  rw [parameters_apply]
  rfl

theorem parameters_createdAt (user : User Id) :
    user.parameters KEY_CREATED_AT = user.createdAt.map .timestamp := by
  rw [parameters_apply]
  rfl

theorem parameters_updatedAt (user : User Id) :
    user.parameters KEY_UPDATED_AT = user.updatedAt.map .timestamp := by
  rw [parameters_apply]
  rfl

/-- Decoding a document that a user was written as gives the user back, without the email. -/
theorem ofSnapshot_parameters (uid : Id) (user : User Id) :
    ofSnapshot uid user.parameters = some { user with userId := some uid, email := none } := by
  have hstring (text : Option String) :
      (text.map Value.string).bind Value.asString = text := by cases text <;> rfl
  have hdate (date : Option Date) :
      (date.map Value.timestamp).bind Value.asDate = date := by cases date <;> rfl
  simp only [ofSnapshot, parameters_apply]
  simp [hstring, hdate, KEY_CREATED_AT, KEY_UPDATED_AT,
      KEY_PHOTO_REFERENCE, KEY_PHOTO_DOWNLOAD_URL, KEY_USER_NAME, KEY_FISRT_NAME, KEY_LAST_NAME,
      KEY_USER_EMAIL, KEY_ABOUT_ME]

end User

end GiveMeMovies
