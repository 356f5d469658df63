import Mathlib.Data.List.Basic

/-!
# User ids and storage references

A storage reference is a bucket path in standard form: no empty segment and no slash inside a
segment, which is what the storage library keeps after it has compressed and trimmed the slashes
of a path. The ids handed out by the authentication service contain neither a slash nor a dot,
so the two paths under which the app stores the photo of a user differ from each other and from
those of every other user.
-/

namespace GiveMeMovies

structure Uid where
  name : List Char
  clean : name ≠ [] ∧ '/' ∉ name ∧ '.' ∉ name
  deriving DecidableEq

namespace StorageReference

def segments (path : List Char) : List (List Char) :=
  (path.splitOn '/').filter (fun segment => segment ≠ [])

theorem slash_not_mem_of_mem_splitOn {path segment : List Char}
    (h : segment ∈ path.splitOn '/') : '/' ∉ segment := by
  induction path generalizing segment with
  | nil => simp_all
  | cons c path ih =>
      rw [List.splitOn_cons_eq_if_modifyHead] at h
      split at h
      next =>
        rcases List.mem_cons.mp h with rfl | h
        · exact List.not_mem_nil
        · exact ih h
      next hc =>
        cases hs : path.splitOn '/' with
        | nil => exact absurd hs (List.splitOn_ne_nil _ _)
        | cons first rest =>
            rw [hs, List.modifyHead_cons] at h
            rcases List.mem_cons.mp h with rfl | h
            · have hfirst : '/' ∉ first := ih (hs ▸ List.mem_cons_self)
              simp only [List.mem_cons, not_or]
              exact ⟨fun he => hc (by simp [← he]), hfirst⟩
            · exact ih (hs ▸ List.mem_cons_of_mem _ h)

theorem segments_clean (path : List Char) :
    ∀ segment ∈ segments path, segment ≠ [] ∧ '/' ∉ segment := by
  intro segment h
  rw [segments, List.mem_filter] at h
  exact ⟨by simpa using h.2, slash_not_mem_of_mem_splitOn h.1⟩

theorem segments_of_clean {segment : List Char} (hne : segment ≠ []) (hslash : '/' ∉ segment) :
    segments segment = [segment] := by
  simp [segments, List.splitOn_eq_singleton hslash, hne]

theorem segments_append_slash (front back : List Char) :
    segments (front ++ '/' :: back) = segments front ++ segments back := by
  simp [segments, List.splitOn_append_cons_self]

end StorageReference

structure StorageReference where
  path : List (List Char)
  clean : ∀ segment ∈ path, segment ≠ [] ∧ '/' ∉ segment
  deriving DecidableEq

namespace StorageReference

theorem ext_path {r s : StorageReference} (h : r.path = s.path) : r = s := by
  cases r
  cases s
  cases h
  rfl

/-- `Storage.storage().reference()` -/
def root : StorageReference := ⟨[], by simp⟩

def child (r : StorageReference) (path : List Char) : StorageReference where
  path := r.path ++ segments path
  clean := by
    intro segment h
    rcases List.mem_append.mp h with h | h
    · exact r.clean segment h
    · exact segments_clean path segment h

def bucket : String := "gmmapp-9f22a.appspot.com"

def object (r : StorageReference) : List Char := ['/'].intercalate r.path

/-- What `"\(storageRef)"` interpolates. -/
def description (r : StorageReference) : String :=
  "gs://" ++ bucket ++ "/" ++ String.ofList r.object

theorem object_injective : Function.Injective object := by
  intro r s h
  apply ext_path
  have hslash (r : StorageReference) : ∀ segment ∈ r.path, '/' ∉ segment :=
    fun segment hs => (r.clean segment hs).2
  have hroot (r : StorageReference) (hr : r.object = []) : r.path = [] := by
    by_contra hne
    have hsplit := List.splitOn_intercalate '/' (hslash r) hne
    rw [show ['/'].intercalate r.path = [] from hr, List.splitOn_nil] at hsplit
    exact (r.clean [] (hsplit ▸ List.mem_cons_self)).1 rfl
  by_cases hr : r.path = []
  · have hobj : s.object = [] := by rw [← h, object, hr]; rfl
    rw [hr, hroot s hobj]
  · have hs : s.path ≠ [] := by
      intro hs
      exact hr (hroot r (by rw [h, object, hs]; rfl))
    rw [← List.splitOn_intercalate '/' (hslash r) hr, ← List.splitOn_intercalate '/' (hslash s) hs]
    exact congrArg (List.splitOn '/') h

theorem description_injective : Function.Injective description := by
  intro r s h
  apply object_injective
  have ht := congrArg String.toList h
  simpa [description] using ht

end StorageReference

def PROFILE_PICTURE_REFERENCE : List Char := "/photoReference/".toList

/-- Where `StorageManager.uploadProfileImage` stores the photo of `uid`. -/
def StorageReference.photo (uid : Uid) : StorageReference :=
  (root.child "photoReference".toList).child uid.name

/-- Where `UserManager.uploadImage` stores the photo of the item `uid`. -/
def StorageReference.photoJpg (uid : Uid) : StorageReference :=
  root.child (PROFILE_PICTURE_REFERENCE ++ uid.name ++ ".jpg".toList)

namespace StorageReference

theorem segments_folder : segments "photoReference".toList = ["photoReference".toList] :=
  segments_of_clean (by decide) (by decide)

theorem PROFILE_PICTURE_REFERENCE_eq :
    PROFILE_PICTURE_REFERENCE = '/' :: ("photoReference".toList ++ ['/']) := by
  decide

@[simp] theorem photo_path (uid : Uid) :
    (photo uid).path = ["photoReference".toList, uid.name] := by
  have hname : segments uid.name = [uid.name] :=
    segments_of_clean uid.clean.1 uid.clean.2.1
  change ([] ++ segments "photoReference".toList) ++ segments uid.name = _
  rw [segments_folder, hname]
  rfl

@[simp] theorem photoJpg_path (uid : Uid) :
    (photoJpg uid).path = ["photoReference".toList, uid.name ++ ".jpg".toList] := by
  have hdot : '/' ∉ ".jpg".toList := by decide
  have hfile : segments (uid.name ++ ".jpg".toList) = [uid.name ++ ".jpg".toList] := by
    apply segments_of_clean
    · exact List.append_ne_nil_of_left_ne_nil uid.clean.1 _
    · rw [List.mem_append, not_or]
      exact ⟨uid.clean.2.1, hdot⟩
  have hsplit : PROFILE_PICTURE_REFERENCE ++ uid.name ++ ".jpg".toList =
      [] ++ '/' :: ("photoReference".toList ++ '/' :: (uid.name ++ ".jpg".toList)) := by
    rw [PROFILE_PICTURE_REFERENCE_eq]
    simp only [List.nil_append, List.cons_append, List.append_assoc]
  have hpath : (photoJpg uid).path =
      [] ++ segments (PROFILE_PICTURE_REFERENCE ++ uid.name ++ ".jpg".toList) := rfl
  rw [hpath, hsplit, segments_append_slash, segments_append_slash, segments_folder, hfile]
  rfl

@[simp] theorem photo_inj {u v : Uid} : photo u = photo v ↔ u = v := by
  refine ⟨fun h => ?_, congrArg photo⟩
  have hp := congrArg path h
  rw [photo_path, photo_path] at hp
  cases u
  cases v
  simp_all

/-- The user whose photo `uploadProfileImage` stores there. -/
def photoOwner (r : StorageReference) : Option Uid :=
  match r.path with
  | [folder, name] =>
      if h : folder = "photoReference".toList ∧ name ≠ [] ∧ '/' ∉ name ∧ '.' ∉ name then
        some ⟨name, h.2⟩
      else none
  | _ => none

theorem photoOwner_eq_some {r : StorageReference} {uid : Uid} :
    r.photoOwner = some uid ↔ r = photo uid := by
  constructor
  · intro h
    unfold photoOwner at h
    split at h
    next folder name hpath =>
      by_cases hclean : folder = "photoReference".toList ∧ name ≠ [] ∧ '/' ∉ name ∧ '.' ∉ name
      · rw [dif_pos hclean] at h
        cases h
        obtain ⟨rfl, hname⟩ := hclean
        apply ext_path
        rw [hpath, photo_path]
      · rw [dif_neg hclean] at h
        cases h
    · cases h
  · rintro rfl
    have hclean := uid.clean
    simp [photoOwner, hclean]

@[simp] theorem photo_ne_photoJpg (u v : Uid) : photo u ≠ photoJpg v := by
  intro h
  have hp := congrArg path h
  rw [photo_path, photoJpg_path] at hp
  have hname : u.name = v.name ++ ".jpg".toList := by
    simpa only [List.cons.injEq, true_and, and_true] using hp
  have hdot : '.' ∈ ".jpg".toList := by decide
  exact u.clean.2.2 (hname ▸ List.mem_append_right _ hdot)

end StorageReference

end GiveMeMovies
