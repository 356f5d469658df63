import GiveMeMovies.SeparatedText
import GiveMeMovies.StorageReference
import GiveMeMovies.SwiftString

/-!
# Paths in the storage bucket

The storage library keeps a reference as a `StoragePath`, the name of a bucket with the path of an
object as one string. It reads a path from an address and writes it as one. An address that it
cannot read stops the process, with a message or at an index out of range. Addresses are cut by
characters and paths are cleaned by scalars, which makes a difference where a slash is joined with
another scalar.
-/

namespace GiveMeMovies

inductive StorageFailure where
  | fatalError (message : String)
  | indexOutOfRange
  deriving DecidableEq

structure StoragePath where
  bucket : List Char
  object : Option (List Char)
  deriving DecidableEq

namespace StoragePath

def standardizedPathForString (string : List Char) : List Char :=
  SeparatedText.trim '/' (SeparatedText.settle '/' string)

/-- `StoragePath(with:object:)` -/
def make (bucket : List Char) (object : Option (List Char)) : StoragePath :=
  ⟨bucket, object.map standardizedPathForString⟩

/-- `split(separator:maxSplits:)` with at most one split, which leaves out what is empty. -/
def splitOnce {α : Type} [DecidableEq α] (separator : α) (string : List α) : List (List α) :=
  let rest := string.dropWhile (· = separator)
  [ListCuts.before separator rest, ListCuts.after separator rest].filter (fun part => part ≠ [])

/-- `path(GSURI:)` -/
def pathGSURI (swift : SwiftString) (aURIString : List Char) : Except StorageFailure StoragePath :=
  let bucketObject :=
    (swift.characters aURIString).drop (swift.characters "gs://".toList).length
  if swift.hasPrefix aURIString "gs://".toList ∧ ['/'] ∈ bucketObject then
    match (splitOnce ['/'] bucketObject).map List.flatten with
    | [] => .error .indexOutOfRange
    | [bucket] => .ok (make bucket none)
    | bucket :: object :: _ => .ok (make bucket (some object))
  else if swift.hasPrefix aURIString "gs://".toList ∧ bucketObject ≠ [] then
    .ok (make bucketObject.flatten none)
  else .error (.fatalError
    "Internal error: URI must be in the form of gs://<bucket>/<path/to/object>")

/-- `path(HTTPURL:)`, where `pathComponents` is `URL(string:)?.pathComponents`. -/
def pathHTTPURL (pathComponents : List Char → Option (List (List Char)))
    (aURLString : List Char) : Except StorageFailure StoragePath :=
  match pathComponents aURLString with
  | some (_ :: version :: b :: bucketName :: rest) =>
      if version = "v0".toList ∧ b = "b".toList then
        match rest with
        | [] => .ok (make bucketName none)
        | [_] => .error .indexOutOfRange
        | _ :: first :: more => .ok (make bucketName
            (some (more.foldl (fun objectName component => objectName ++ '/' :: component) first)))
      else .error (.fatalError ("Internal error: URL must be in the form of " ++
        "http[s]://<host>/v0/b/<bucket>/o/<path/to/object>[?token=signed_url_params]"))
  | _ => .error (.fatalError ("Internal error: URL must be in the form of " ++
      "http[s]://<host>/v0/b/<bucket>/o/<path/to/object>[?token=signed_url_params]"))

/-- `path(string:)` -/
def path (swift : SwiftString) (pathComponents : List Char → Option (List (List Char)))
    (string : List Char) : Except StorageFailure StoragePath :=
  if swift.hasPrefix string "gs://".toList then pathGSURI swift string
  else if swift.hasPrefix string "http://".toList ∨ swift.hasPrefix string "https://".toList then
    pathHTTPURL pathComponents string
  else .error (.fatalError
    "Internal error: URL scheme must be one of gs://, http://, or https://")

def copy (self : StoragePath) : StoragePath := make self.bucket self.object

/-- The slashes that Foundation leaves out here are left out by `standardizedPathForString` as
well. -/
def appendingPathComponent (object path : List Char) : List Char :=
  if object = [] then path else object ++ '/' :: path

def child (self : StoragePath) (path : List Char) : StoragePath :=
  if path = [] then self.copy
  else make self.bucket (some (match self.object with
    | some object => appendingPathComponent object path
    | none => path))

def parent (self : StoragePath) : Option StoragePath :=
  match self.object with
  | some object =>
      if object = [] then none
      else some (make self.bucket (some (ListCuts.beforeLast '/' object)))
  | none => none

def root (self : StoragePath) : StoragePath := make self.bucket none

def stringValue (self : StoragePath) : List Char :=
  "gs://".toList ++ self.bucket ++ '/' :: self.object.getD []

def fullPath (self : StoragePath) : List Char := self.object.getD []

end StoragePath

def bucketMismatch (bucket storageBucket : List Char) : StorageFailure :=
  .fatalError ("Provided bucket: `" ++ String.ofList bucket ++
    "` does not match the Storage bucket of the current instance: `" ++
    String.ofList storageBucket ++ "`")

/-- `Storage.reference(forURL:)` of an app whose default bucket is `storageBucket`. -/
def referenceForURL (swift : SwiftString)
    (pathComponents : List Char → Option (List (List Char))) (storageBucket url : List Char) :
    Except StorageFailure StoragePath :=
  (StoragePath.path swift pathComponents url).bind (fun path =>
    if storageBucket = [] then .ok path
    else if swift.equal path.bucket storageBucket then .ok path
    else .error (bucketMismatch path.bucket storageBucket))

namespace StoragePath

open StorageReference (segments)

variable {self : StoragePath} {bucket string : List Char} {r : StorageReference}

/-! ## Paths that `child` makes -/

theorem standardizedPathForString_eq (string : List Char) :
    standardizedPathForString string = ['/'].intercalate (segments string) :=
  SeparatedText.trim_settle string

theorem segments_object (r : StorageReference) : segments r.object = r.path :=
  SeparatedText.parts_intercalate r.clean

theorem path_eq_nil_iff : r.path = [] ↔ r.object = [] := by
  constructor
  · intro h
    rw [StorageReference.object, h]
    rfl
  · intro h
    rw [← segments_object, h]
    exact SeparatedText.parts_nil

theorem object_child (r : StorageReference) (path : List Char) :
    (r.child path).object = ['/'].intercalate (r.path ++ segments path) := rfl

theorem fullPath_make (bucket object : List Char) :
    (make bucket (some object)).fullPath = ['/'].intercalate (segments object) :=
  standardizedPathForString_eq object

/-- The path of the library is that of the reference. -/
theorem fullPath_child (h : self.fullPath = r.object) (path : List Char) :
    (self.child path).fullPath = (r.child path).object := by
  rw [object_child]
  obtain ⟨bucket, object⟩ := self
  by_cases hpath : path = []
  · have hsegments : segments ([] : List Char) = [] := SeparatedText.parts_nil
    rw [child, if_pos hpath, hpath, hsegments, List.append_nil]
    cases object with
    | none => exact h
    | some object =>
        have hobject : object = r.object := h
        rw [copy, fullPath_make, hobject, segments_object]
  · rw [child, if_neg hpath, fullPath_make]
    cases object with
    | none => rw [path_eq_nil_iff.mpr h.symm, List.nil_append]
    | some object =>
        have hobject : object = r.object := h
        simp only [appendingPathComponent]
        by_cases hempty : object = []
        · rw [if_pos hempty, path_eq_nil_iff.mpr (hobject.symm.trans hempty), List.nil_append]
        · rw [if_neg hempty, StorageReference.segments_append_slash, hobject, segments_object]

theorem bucket_child (self : StoragePath) (path : List Char) :
    (self.child path).bucket = self.bucket := by
  rw [child]
  split
  · rfl
  · rfl

theorem beforeLast_object (h : r.path ≠ []) :
    ListCuts.beforeLast '/' r.object = ['/'].intercalate r.path.dropLast := by
  obtain ⟨front, last, hpath⟩ := (List.eq_nil_or_concat' r.path).resolve_left h
  have hlast : '/' ∉ last := by
    have hmem : last ∈ r.path := by
      rw [hpath]
      exact List.mem_append_right _ List.mem_cons_self
    exact (r.clean last hmem).2
  rw [StorageReference.object, hpath, List.dropLast_concat]
  by_cases hfront : front = []
  · have hwhole : last.rdropWhile (· ≠ '/') = [] :=
      List.rdropWhile_eq_nil_iff.mpr (ListCuts.forall_ne hlast)
    rw [hfront, List.nil_append, List.intercalate_singleton, ListCuts.beforeLast, hwhole]
    rfl
  · rw [SeparatedText.intercalate_concat hfront, ListCuts.beforeLast_cut hlast]

theorem fullPath_parent (h : self.fullPath = r.object) :
    self.parent.map fullPath =
      if r.path = [] then none else some (['/'].intercalate r.path.dropLast) := by
  obtain ⟨bucket, object⟩ := self
  by_cases hroot : r.path = []
  · have hempty : object.getD [] = [] := h.trans (path_eq_nil_iff.mp hroot)
    rw [if_pos hroot]
    cases object with
    | none => rfl
    | some object =>
        have hobject : object = [] := hempty
        simp only [parent, if_pos hobject, Option.map_none]
  · have hne : r.object ≠ [] := mt path_eq_nil_iff.mpr hroot
    rw [if_neg hroot]
    cases object with
    | none => exact absurd h.symm hne
    | some object =>
        have hobject : object = r.object := h
        have hclean : ∀ segment ∈ r.path.dropLast, segment ≠ [] ∧ '/' ∉ segment :=
          fun segment hs => r.clean segment (List.dropLast_subset _ hs)
        have hparts : segments (['/'].intercalate r.path.dropLast) = r.path.dropLast :=
          SeparatedText.parts_intercalate hclean
        simp only [parent, hobject, if_neg hne, beforeLast_object hroot, Option.map_some,
          fullPath_make, hparts]

/-- `make bucket none`, and the children taken from there. -/
def descend (bucket : List Char) (names : List (List Char)) : StoragePath :=
  names.foldl child (make bucket none)

theorem fullPath_descend (bucket : List Char) (names : List (List Char)) :
    (descend bucket names).bucket = bucket ∧
      (descend bucket names).fullPath = (names.foldl StorageReference.child .root).object ∧
      (names.foldl StorageReference.child .root).path = names.flatMap segments := by
  induction names using List.reverseRecOn with
  | nil => exact ⟨rfl, rfl, rfl⟩
  | append_singleton names name ih =>
      obtain ⟨hbucket, hpath, hsegments⟩ := ih
      simp only [descend, List.foldl_append, List.foldl_cons, List.foldl_nil, List.flatMap_append,
        List.flatMap_cons, List.flatMap_nil, List.append_nil] at hpath ⊢
      refine ⟨?_, fullPath_child hpath name, ?_⟩
      · rw [bucket_child]
        exact hbucket
      · rw [← hsegments]
        rfl

/-- However many children are taken, under names with any slashes in them, the path has the segments
of the names, one slash between them, and the parent has all of them but the last. -/
theorem descend_canonical (bucket : List Char) (names : List (List Char)) :
    (descend bucket names).bucket = bucket ∧
      (descend bucket names).fullPath = ['/'].intercalate (names.flatMap segments) ∧
      (descend bucket names).fullPath = (names.foldl StorageReference.child .root).object ∧
      (descend bucket names).parent.map fullPath =
        if names.flatMap segments = [] then none
        else some (['/'].intercalate (names.flatMap segments).dropLast) := by
  obtain ⟨hbucket, hpath, hsegments⟩ := fullPath_descend bucket names
  refine ⟨hbucket, ?_, hpath, ?_⟩
  · rw [hpath, ← hsegments]
    rfl
  · rw [fullPath_parent hpath, hsegments]

/-! ## Addresses that are read back -/

variable {swift : SwiftString} {pathComponents : List Char → Option (List (List Char))}
  {first : List Char} {rest : List (List Char)}

theorem segments_nil : segments [] = [] := SeparatedText.parts_nil

/-- A text that begins with no slash is its first segment and what comes after it. -/
theorem segments_cut (hne : string ≠ []) (hhead : string.head? ≠ some '/') :
    segments string = ListCuts.before '/' string :: segments (ListCuts.after '/' string) := by
  have hbefore : ListCuts.before '/' string ≠ [] := by
    cases string with
    | nil => exact absurd rfl hne
    | cons c string =>
        have hc : c ≠ '/' := fun he => hhead (congrArg some he)
        simp [ListCuts.before, hc]
  have hnot : '/' ∉ ListCuts.before '/' string := by
    intro hmem
    simpa using List.mem_takeWhile_imp hmem
  have hfirst : segments (ListCuts.before '/' string) = [ListCuts.before '/' string] :=
    SeparatedText.parts_of_not_mem hnot hbefore
  by_cases hmem : '/' ∈ string
  · have hcut := StorageReference.segments_append_slash (ListCuts.before '/' string)
      (ListCuts.after '/' string)
    rwa [ListCuts.cut_of_mem hmem, hfirst] at hcut
  · rw [ListCuts.before_whole hmem] at hfirst ⊢
    rw [ListCuts.after_whole hmem, segments_nil]
    exact hfirst

theorem segments_front (string : List Char) :
    segments (string.dropWhile (· = '/')) = segments string :=
  SeparatedText.parts_trim_front string

theorem head_front (string : List Char) :
    (string.dropWhile (· = '/')).head? ≠ some '/' := by
  intro he
  have hnot := List.head?_dropWhile_not (fun c => decide (c = '/')) string
  rw [he] at hnot
  simp at hnot

/-- What `split` gives are the first segment and what comes after its slash. -/
theorem splitOnce_of_segments (h : segments string = first :: rest) :
    ∃ after, segments after = rest ∧
      splitOnce '/' string = if after = [] then [first] else [first, after] := by
  have hne : string.dropWhile (· = '/') ≠ [] := by
    intro hnil
    rw [← segments_front, hnil, segments_nil] at h
    cases h
  have hcut := segments_cut hne (head_front string)
  rw [segments_front, h] at hcut
  obtain ⟨hfirst, hrest⟩ := List.cons.inj hcut
  have hmem : first ∈ segments string := by
    rw [h]
    exact List.mem_cons_self
  have hclean := (StorageReference.segments_clean string first hmem).1
  refine ⟨ListCuts.after '/' (string.dropWhile (· = '/')), hrest.symm, ?_⟩
  rw [splitOnce, ← hfirst, List.filter_cons_of_pos (by simpa using hclean)]
  by_cases hafter : ListCuts.after '/' (string.dropWhile (· = '/')) = []
  · simp [hafter]
  · simp [hafter]

theorem splitOnce_of_blank (h : segments string = []) : splitOnce '/' string = [] := by
  have hnil : string.dropWhile (· = '/') = [] := by
    by_contra hne
    have hcut := segments_cut hne (head_front string)
    rw [segments_front, h] at hcut
    cases hcut
  rw [splitOnce, hnil]
  rfl

theorem segments_of_not_mem (h : '/' ∉ string) (hne : string ≠ []) : segments string = [string] :=
  SeparatedText.parts_of_not_mem h hne

def GS_URI_FORM : StorageFailure :=
  .fatalError "Internal error: URI must be in the form of gs://<bucket>/<path/to/object>"

/-- Blocks are split as what is in them is, at a symbol that stands alone. -/
theorem splitOnce_flatten {α : Type} [DecidableEq α] {d : α} {blocks : List (List α)}
    (h : ListCuts.Alone d blocks) (hnil : [] ∉ blocks) :
    (splitOnce [d] blocks).map List.flatten = splitOnce d blocks.flatten := by
  have hsub : blocks.dropWhile (· = [d]) ⊆ blocks := (List.dropWhile_sublist _).subset
  have hrest := h.dropWhile_flatten hnil
  unfold splitOnce
  dsimp only
  rw [← hrest]
  generalize blocks.dropWhile (· = [d]) = rest at hsub
  have halone : ListCuts.Alone d rest := fun block hblock => h block (hsub hblock)
  have hafter : ListCuts.after [d] rest ⊆ rest :=
    List.Subset.trans (List.drop_sublist _ _).subset (List.dropWhile_sublist _).subset
  rw [← halone.before_flatten, ← halone.after_flatten]
  change _ = List.filter _ ([ListCuts.before [d] rest, ListCuts.after [d] rest].map List.flatten)
  rw [List.filter_map]
  congr 1
  apply List.filter_congr
  intro part hpart
  have hpart : part ⊆ rest := by
    rcases List.mem_cons.mp hpart with rfl | hpart
    · exact ListCuts.before_subset
    · rw [List.mem_singleton.mp hpart]
      exact hafter
  have hempty := ListCuts.flatten_eq_nil_iff fun hmem => hnil (hsub (hpart hmem))
  simp [hempty]

/-- The prefix is read scalar by scalar, and the text that follows in characters of its own. -/
theorem characters_gs (halone : swift.StandsAlone '/' ("gs://".toList ++ string)) :
    ∃ blocks, swift.characters ("gs://".toList ++ string) =
        swift.characters "gs://".toList ++ blocks ∧
      blocks.flatten = string ∧ ListCuts.Alone '/' blocks ∧ [] ∉ blocks := by
  have hascii : ∀ c ∈ "gs:/".toList ++ ['/'], c.toNat < 128 ∧ c ≠ '\r' := by simp
  have hgs : swift.characters "gs://".toList = _ := SwiftString.characters_ascii hascii
  rw [hgs]
  exact halone.characters_append_cons (fun c hc => hascii c (List.mem_append_left _ hc)) (by decide)

theorem hasPrefix_gs (halone : swift.StandsAlone '/' ("gs://".toList ++ string)) :
    swift.hasPrefix ("gs://".toList ++ string) "gs://".toList := by
  obtain ⟨blocks, hblocks, _⟩ := characters_gs halone
  rw [SwiftString.hasPrefix, hblocks]
  exact List.prefix_append _ _

/-- Where no slash is joined with another scalar, the address is cut by scalars. -/
theorem pathGSURI_append (halone : swift.StandsAlone '/' ("gs://".toList ++ string)) :
    pathGSURI swift ("gs://".toList ++ string) =
      if '/' ∈ string then
        match splitOnce '/' string with
        | [] => .error .indexOutOfRange
        | [bucket] => .ok (make bucket none)
        | bucket :: object :: _ => .ok (make bucket (some object))
      else if string ≠ [] then .ok (make string none)
      else .error GS_URI_FORM := by
  have hprefix := hasPrefix_gs halone
  obtain ⟨blocks, hblocks, rfl, hslash, hnil⟩ := characters_gs halone
  have hempty : blocks ≠ [] ↔ blocks.flatten ≠ [] :=
    not_congr (ListCuts.flatten_eq_nil_iff hnil).symm
  simp only [pathGSURI, hprefix, hblocks, List.drop_left, true_and,
    splitOnce_flatten hslash hnil, hslash.singleton_mem_iff, hempty]
  rfl

section Alone

variable (halone : swift.StandsAlone '/' ("gs://".toList ++ string))

include halone

theorem pathGSURI_of_segments (h : segments string = first :: rest) :
    ∃ path, pathGSURI swift ("gs://".toList ++ string) = .ok path ∧ path.bucket = first ∧
      path.fullPath = ['/'].intercalate rest := by
  rw [pathGSURI_append halone]
  by_cases hmem : '/' ∈ string
  · obtain ⟨after, hafter, hsplit⟩ := splitOnce_of_segments h
    rw [if_pos hmem, hsplit]
    by_cases hnil : after = []
    · rw [if_pos hnil, ← hafter, hnil, segments_nil]
      exact ⟨make first none, rfl, rfl, rfl⟩
    · rw [if_neg hnil]
      refine ⟨make first (some after), rfl, rfl, ?_⟩
      rw [fullPath_make, hafter]
  · have hne : string ≠ [] := by
      rintro rfl
      cases segments_nil.symm.trans h
    obtain ⟨hfirst, hrest⟩ := List.cons.inj ((segments_of_not_mem hmem hne).symm.trans h)
    rw [if_neg hmem, if_pos hne, ← hrest]
    exact ⟨make string none, rfl, hfirst, rfl⟩

theorem pathGSURI_of_blank (h : segments string = []) :
    pathGSURI swift ("gs://".toList ++ string) =
      .error (if string = [] then GS_URI_FORM else .indexOutOfRange) := by
  rw [pathGSURI_append halone]
  by_cases hnil : string = []
  · subst hnil
    rfl
  · have hmem : '/' ∈ string := by
      by_contra hmem
      cases (segments_of_not_mem hmem hnil).symm.trans h
    rw [if_pos hmem, splitOnce_of_blank h, if_neg hnil]

theorem referenceForURL_gs (bucket : List Char) :
    referenceForURL swift pathComponents bucket ("gs://".toList ++ string) =
      (pathGSURI swift ("gs://".toList ++ string)).bind (fun path =>
        if bucket = [] then .ok path
        else if swift.equal path.bucket bucket then .ok path
        else .error (bucketMismatch path.bucket bucket)) := by
  have hprefix : swift.hasPrefix ("gs://".toList ++ string) "gs://".toList :=
    hasPrefix_gs halone
  rw [referenceForURL, StoragePath.path, if_pos hprefix]

end Alone

/-- An address in the bucket store is read exactly when its first segment is the bucket of the app,
and designates the segments that follow. One of slashes alone fails at an index, not with the error
that the library documents. -/
theorem referenceForURL_gs_iff (swift : SwiftString)
    (pathComponents : List Char → Option (List (List Char))) {bucket : List Char}
    (hbucket : bucket ≠ []) {string : List Char}
    (halone : swift.StandsAlone '/' ("gs://".toList ++ string)) :
    ((∃ path, referenceForURL swift pathComponents bucket ("gs://".toList ++ string) = .ok path) ↔
        (segments string).head?.any (swift.equal · bucket) = true) ∧
      (∀ path, referenceForURL swift pathComponents bucket ("gs://".toList ++ string) = .ok path →
        (segments string).head? = some path.bucket ∧
          path.fullPath = ['/'].intercalate (segments string).tail) ∧
      (referenceForURL swift pathComponents bucket ("gs://".toList ++ string) =
          .error .indexOutOfRange ↔ string ≠ [] ∧ segments string = []) := by
  rw [referenceForURL_gs halone]
  cases h : segments string with
  | nil =>
      rw [pathGSURI_of_blank halone h]
      by_cases hnil : string = []
      · simp [Except.bind, hnil, GS_URI_FORM]
      · simp [Except.bind, hnil]
  | cons first rest =>
      obtain ⟨path, hpath, hfirst, hrest⟩ := pathGSURI_of_segments halone h
      rw [hpath, Except.bind, if_neg hbucket, hfirst]
      by_cases hsame : swift.equal first bucket = true
      · rw [if_pos hsame]
        refine ⟨?_, ?_, ?_⟩
        · simp [hsame]
        · rintro path' hp
          cases hp
          exact ⟨congrArg some hfirst.symm, hrest⟩
        · simp
      · rw [if_neg hsame]
        simp [hsame, bucketMismatch]

def appBucket : List Char := StorageReference.bucket.toList

theorem appBucket_clean : appBucket ≠ [] ∧ '/' ∉ appBucket := by decide

theorem appBucket_ascii : ∀ c ∈ appBucket, c.toNat < 128 ∧ c.toNat ∉ [59, 75, 96] := by
  have hall : appBucket.all (fun c => c.toNat < 128 ∧ c.toNat ∉ [59, 75, 96]) = true := by decide
  intro c hc
  exact of_decide_eq_true (List.all_eq_true.mp hall c hc)

theorem referenceForURL_gs_iff_appBucket :
    ((∃ path, referenceForURL .scalars (fun _ => none) appBucket ("gs://".toList ++ "//".toList) =
          .ok path) ↔
        (segments "//".toList).head?.any (SwiftString.scalars.equal · appBucket) = true) ∧
      (∀ path, referenceForURL .scalars (fun _ => none) appBucket
          ("gs://".toList ++ "//".toList) = .ok path →
        (segments "//".toList).head? = some path.bucket ∧
          path.fullPath = ['/'].intercalate (segments "//".toList).tail) ∧
      (referenceForURL .scalars (fun _ => none) appBucket ("gs://".toList ++ "//".toList) =
          .error .indexOutOfRange ↔
        "//".toList ≠ [] ∧ segments "//".toList = []) :=
  referenceForURL_gs_iff .scalars (fun _ => none) appBucket_clean.1
    (SwiftString.standsAlone_scalars _ _)

/-- The address of a reference is read as the reference. -/
theorem referenceForURL_object (swift : SwiftString)
    (pathComponents : List Char → Option (List (List Char)))
    (hbucket : bucket ≠ [] ∧ '/' ∉ bucket) {r : StorageReference}
    (halone : swift.StandsAlone '/' ("gs://".toList ++ (bucket ++ '/' :: r.object))) :
    ∃ path, referenceForURL swift pathComponents bucket
        ("gs://".toList ++ (bucket ++ '/' :: r.object)) = .ok path ∧
      path.bucket = bucket ∧ path.fullPath = r.object := by
  have hsegments : segments (bucket ++ '/' :: r.object) = bucket :: r.path := by
    rw [StorageReference.segments_append_slash, segments_of_not_mem hbucket.2 hbucket.1,
      segments_object]
    rfl
  obtain ⟨path, hpath, hfirst, hrest⟩ := pathGSURI_of_segments halone hsegments
  refine ⟨path, ?_, hfirst, hrest⟩
  rw [referenceForURL_gs halone, hpath, Except.bind, if_neg hbucket.1, hfirst,
    if_pos (swift.equal_refl bucket)]

/-- What is written of a path is read back as a path that is written the same, and leads to the same
children. -/
theorem referenceForURL_stringValue (swift : SwiftString)
    (pathComponents : List Char → Option (List (List Char)))
    (hbucket : bucket ≠ [] ∧ '/' ∉ bucket) {names : List (List Char)}
    (halone : swift.StandsAlone '/' (descend bucket names).stringValue) :
    ∃ path, referenceForURL swift pathComponents bucket (descend bucket names).stringValue =
        .ok path ∧
      path.stringValue = (descend bucket names).stringValue ∧
      ∀ name, (path.child name).stringValue = ((descend bucket names).child name).stringValue := by
  obtain ⟨hdescend, hfull, _⟩ := fullPath_descend bucket names
  set r := names.foldl StorageReference.child .root with hr
  have hwritten {p q : StoragePath} (hb : p.bucket = q.bucket) (hf : p.fullPath = q.fullPath) :
      p.stringValue = q.stringValue := by
    have hobject : p.object.getD [] = q.object.getD [] := hf
    rw [stringValue, stringValue, hb, hobject]
  have haddress : (descend bucket names).stringValue =
      "gs://".toList ++ (bucket ++ '/' :: r.object) := by
    have hobject : (descend bucket names).object.getD [] = r.object := hfull
    rw [stringValue, hdescend, hobject, List.append_assoc]
  rw [haddress] at halone
  obtain ⟨path, hpath, hb, hf⟩ :=
    referenceForURL_object swift pathComponents hbucket halone
  refine ⟨path, ?_, ?_, fun name => ?_⟩
  · rw [haddress]
    exact hpath
  · exact hwritten (hb.trans hdescend.symm) (hf.trans hfull.symm)
  · apply hwritten
    · rw [bucket_child, bucket_child, hb, hdescend]
    · rw [fullPath_child hf, fullPath_child hfull]

theorem referenceForURL_stringValue_photo : ∃ path,
    referenceForURL .scalars (fun _ => none) appBucket
      (descend appBucket ["photoReference".toList, "ana".toList]).stringValue = .ok path ∧
    path.stringValue = (descend appBucket ["photoReference".toList, "ana".toList]).stringValue ∧
    ∀ name, (path.child name).stringValue =
      ((descend appBucket ["photoReference".toList, "ana".toList]).child name).stringValue :=
  referenceForURL_stringValue .scalars _ appBucket_clean (SwiftString.standsAlone_scalars _ _)

theorem description_toList (r : StorageReference) :
    r.description.toList = "gs://".toList ++ (appBucket ++ '/' :: r.object) := by
  simp [StorageReference.description, appBucket]

theorem referenceForURL_description (swift : SwiftString)
    (pathComponents : List Char → Option (List (List Char))) {r : StorageReference}
    (halone : swift.StandsAlone '/' r.description.toList) :
    ∃ path, referenceForURL swift pathComponents appBucket r.description.toList = .ok path ∧
      path.bucket = appBucket ∧ path.fullPath = r.object := by
  rw [description_toList] at halone ⊢
  exact referenceForURL_object swift pathComponents appBucket_clean halone

end StoragePath

end GiveMeMovies
