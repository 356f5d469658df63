import GiveMeMovies.EscapedText
import GiveMeMovies.StoragePath

/-!
# Addresses of stored objects

The storage library sends its requests to an address that has the bucket and the object as escaped
pieces of its path. A download address has the same path and a token. `Storage.reference(forURL:)`
reads it back as the reference that it was made for.
-/

namespace GiveMeMovies

open PercentEncoding ListCuts

namespace StorageUtils

def allowedSet : List Char :=
  "ABCDEFGHIJKLMNOPQRSTUVWXYZabcdefghijklmnopqrstuvwxyz0123456789-._~!$'()*,=:@".toList

def isAllowed (c : Char) : Bool := c ∈ allowedSet

def GCSEscapedString (string : List Char) : List Char := percentEncode isAllowed string

def encodedURL (path : StoragePath) : List Char :=
  let bucketString := "/b/".toList ++ GCSEscapedString path.bucket
  let objectString := match path.object with
    | some objectName => "/o/".toList ++ GCSEscapedString objectName
    | none => "/o".toList
  "/v0".toList ++ bucketString ++ objectString

end StorageUtils

open StorageUtils

/-- The scheme, the host and the port of the service. -/
def storageOrigin : List Char := "https://firebasestorage.googleapis.com:443".toList

/-- The address of an upload. There is none for the bucket itself. -/
def StorageUploadTask.uploadURL (path : StoragePath) : Option (List Char) :=
  path.object.map (fun object => storageOrigin ++ encodedURL path ++ '?' ::
    ("uploadType=resumable&name=".toList ++ GCSEscapedString object))

/-- The fields of the service's answer that are read, where they are strings. -/
structure MetadataDictionary where
  downloadTokens : Option (List Char)
  bucket : Option (List Char)
  name : Option (List Char)

/-- The `URLComponents` of an address of the storage service. -/
structure StorageURL where
  percentEncodedPath : List Char
  queryItems : List (List Char × List Char)
  deriving DecidableEq

def StorageURL.absoluteString (percentEncodedQuery : List (List Char × List Char) → List Char)
    (url : StorageURL) : List Char :=
  storageOrigin ++ url.percentEncodedPath ++ '?' :: percentEncodedQuery url.queryItems

def StorageGetDownloadURLTask.downloadURLFromMetadataDictionary (dictionary : MetadataDictionary) :
    Option StorageURL :=
  match dictionary.downloadTokens with
  | some downloadTokens =>
      if downloadTokens = [] then none
      else
        let bucket := dictionary.bucket.getD "<error: missing bucket>".toList
        let path := dictionary.name.getD "<error: missing path name>".toList
        some {
          percentEncodedPath :=
            "/v0/b/".toList ++ bucket ++ "/o/".toList ++ GCSEscapedString path
          queryItems := [("alt".toList, "media".toList),
            ("token".toList, before ',' downloadTokens)] }
  | none => none

namespace StorageAddress

open StorageGetDownloadURLTask
open StorageReference (segments)

variable {bucket object name downloadTokens : List Char}
  {pathComponents : List Char → Option (List (List Char))}
  {percentEncodedQuery : List (List Char × List Char) → List Char}

/-! ## Requests -/

theorem isAllowed_percent : isAllowed '%' = false := by decide

/-- The delimiters of an address belong to no escaped text. -/
theorem not_mem_escaped {s : List Char} {d : Char} (hs : isEscaped isAllowed s = true)
    (hd : d ∈ "/?#&".toList) : d ∉ s := by
  have hall : ∀ d ∈ "/?#&".toList, isAllowed d = false ∧ d ≠ '%' ∧ HexDigits.isDigit d = false :=
    List.all_iff_forall_prop.mp (by decide)
  exact not_mem_of_isEscaped hs (hall d hd)

theorem isEscaped_GCSEscapedString (string : List Char) :
    isEscaped isAllowed (GCSEscapedString string) = true :=
  isEscaped_percentEncode isAllowed_percent string

theorem unescape_GCSEscapedString (string : List Char) :
    unescape (GCSEscapedString string) = some string :=
  unescape_percentEncode isAllowed_percent string

/-- The pieces of the path of a request. -/
def pieces (path : StoragePath) : List (List Char) :=
  "v0".toList :: "b".toList :: GCSEscapedString path.bucket :: "o".toList ::
    (path.object.map GCSEscapedString).toList

theorem encodedURL_eq (path : StoragePath) : encodedURL path = slashPath (pieces path) := by
  obtain ⟨bucket, object⟩ := path
  cases object with
  | none => simp [encodedURL, slashPath, pieces]
  | some object => simp [encodedURL, slashPath, pieces]

/-- All characters of the path of a request, which `percentEncodedPath` requires. -/
def isPathChar (c : Char) : Bool := isAllowed c || c = '/'

theorem isEscaped_pieces (path : StoragePath) :
    ∀ piece ∈ pieces path, isEscaped isAllowed piece = true := by
  intro piece hpiece
  simp only [pieces, List.mem_cons, Option.mem_toList, Option.map_eq_some_iff] at hpiece
  rcases hpiece with rfl | rfl | rfl | rfl | ⟨object, _, rfl⟩
  · decide
  · decide
  · exact isEscaped_GCSEscapedString _
  · decide
  · exact isEscaped_GCSEscapedString _

theorem isEscaped_slashPath {names : List (List Char)}
    (h : ∀ name ∈ names, isEscaped isAllowed name = true) :
    isEscaped isPathChar (slashPath names) = true := by
  have hpercent : isPathChar '%' = false := by decide
  induction names with
  | nil => rfl
  | cons name names ih =>
      obtain ⟨hname, hnames⟩ := List.forall_mem_cons.mp h
      refine isEscaped_cons (by decide) ?_ hpercent
      refine isEscaped_append (fun c hc => ?_) (ih hnames) hname hpercent
      rw [isPathChar, hc, Bool.true_or]

theorem isEscaped_encodedURL (path : StoragePath) :
    isEscaped isPathChar (encodedURL path) = true := by
  rw [encodedURL_eq]
  exact isEscaped_slashPath (isEscaped_pieces path)

theorem not_mem_address (path : StoragePath) {d : Char} (hd : d ∈ "?#".toList) :
    d ∉ storageOrigin ++ encodedURL path := by
  have hall : ∀ d ∈ "?#".toList, d ∉ storageOrigin ∧ isPathChar d = false ∧ d ≠ '%' ∧
      HexDigits.isDigit d = false := List.all_iff_forall_prop.mp (by decide)
  obtain ⟨horigin, hchar⟩ := hall d hd
  rw [List.mem_append]
  rintro (h | h)
  · exact horigin h
  · exact not_mem_of_isEscaped (isEscaped_encodedURL path) hchar h

theorem map_unescape_encodedURL (path : StoragePath) :
    ((encodedURL path).splitOn '/').map unescape =
      ([] :: "v0".toList :: "b".toList :: path.bucket :: "o".toList ::
        path.object.toList).map some := by
  have hslash : ∀ piece ∈ pieces path, '/' ∉ piece := fun piece hpiece =>
    not_mem_escaped (isEscaped_pieces path piece hpiece) (by decide)
  rw [encodedURL_eq, splitOn_slashPath hslash]
  have hfixed : unescape [] = some [] ∧ unescape "v0".toList = some "v0".toList ∧
      unescape "b".toList = some "b".toList ∧ unescape "o".toList = some "o".toList :=
    ⟨rfl, rfl, rfl, rfl⟩
  obtain ⟨hnil, hv, hb, ho⟩ := hfixed
  simp only [pieces, List.map_cons, hnil, hv, hb, ho, unescape_GCSEscapedString]
  cases path.object with
  | none => rfl
  | some object => simp [unescape_GCSEscapedString]

theorem encodedURL_injective : Function.Injective encodedURL := by
  intro path path' h
  have hread := map_unescape_encodedURL path
  rw [h, map_unescape_encodedURL path'] at hread
  have hlist := List.map_injective_iff.mpr (Option.some_injective _) hread
  obtain ⟨hbucket, hobject⟩ : path'.bucket = path.bucket ∧
      path'.object.toList = path.object.toList := by simpa using hlist
  have hsame : path'.object = path.object := by
    have hhead := congrArg List.head? hobject
    rwa [Option.head?_toList, Option.head?_toList] at hhead
  obtain ⟨bucket, object⟩ := path
  cases hbucket
  cases hsame
  rfl

theorem queryItems_uploadURL {path : StoragePath} {url : List Char}
    (h : StorageUploadTask.uploadURL path = some url) : ∃ object, path.object = some object ∧
      queryItems url = [(utf8 "uploadType".toList, utf8 "resumable".toList),
        (utf8 "name".toList, utf8 object)] := by
  obtain ⟨object, hobject, rfl⟩ := Option.map_eq_some_iff.mp h
  refine ⟨object, hobject, ?_⟩
  have hvalue (d : Char) (hd : d ∈ "/?#&".toList) : d ∉ GCSEscapedString object :=
    not_mem_escaped (isEscaped_GCSEscapedString object) hd
  have hquery : "uploadType=resumable&name=".toList ++ GCSEscapedString object =
      "uploadType=resumable".toList ++ '&' ::
        ("name".toList ++ '=' :: GCSEscapedString object) := by
    simp
  have hhash : '#' ∉ "uploadType=resumable&name=".toList ++ GCSEscapedString object := by
    simp [hvalue '#' (by decide)]
  have hlast : '&' ∉ "name".toList ++ '=' :: GCSEscapedString object := by
    simp [hvalue '&' (by decide)]
  rw [queryItems, query_cut (not_mem_address path (by decide))
      ⟨not_mem_address path (by decide), hhash⟩, hquery,
    List.splitOn_append_cons_self_of_not_mem (by decide), List.splitOn_eq_singleton hlast,
    List.map_cons, List.map_singleton, GCSEscapedString,
    queryItem_percentEncode isAllowed_percent (by decide)]
  rfl

/-- The path of a request is read as the bucket and the object, and so is the name in the query of
an upload. No two references share it. -/
theorem request_read (path : StoragePath) :
    ((encodedURL path).splitOn '/').map unescape =
        ([] :: "v0".toList :: "b".toList :: path.bucket :: "o".toList ::
          path.object.toList).map some ∧
      isEscaped isPathChar (encodedURL path) = true ∧
      (∀ url, StorageUploadTask.uploadURL path = some url → ∃ object, path.object = some object ∧
        queryItems url = [(utf8 "uploadType".toList, utf8 "resumable".toList),
          (utf8 "name".toList, utf8 object)]) ∧
      ∀ other, encodedURL other = encodedURL path → other = path :=
  ⟨map_unescape_encodedURL path, isEscaped_encodedURL path, fun _ => queryItems_uploadURL,
    fun _ h => encodedURL_injective h⟩

/-! ## Download addresses -/

/-- `URL(string:)?.pathComponents` cuts the path of an address at its slashes and removes the
escapes of each piece. -/
def ReadsPaths (pathComponents : List Char → Option (List (List Char)))
    (percentEncodedQuery : List (List Char × List Char) → List Char) : Prop :=
  ∀ (names pieces : List (List Char)) (queryItems : List (List Char × List Char)), pieces ≠ [] →
    (∀ piece ∈ pieces, piece ≠ [] ∧ isEscaped isAllowed piece = true) →
    pieces.map unescape = names.map some →
    pathComponents (StorageURL.absoluteString percentEncodedQuery ⟨slashPath pieces, queryItems⟩) =
      some (['/'] :: names)

theorem pieces_read (hname : name ≠ []) (hbucket : bucket ≠ []) :
    (∀ piece ∈ pieces ⟨bucket, some name⟩, piece ≠ []) ∧
      (pieces ⟨bucket, some name⟩).map unescape =
        ["v0".toList, "b".toList, bucket, "o".toList, name].map some := by
  have hfixed : unescape "v0".toList = some "v0".toList ∧ unescape "b".toList = some "b".toList ∧
      unescape "o".toList = some "o".toList := ⟨rfl, rfl, rfl⟩
  obtain ⟨hv, hb, ho⟩ := hfixed
  constructor
  · intro piece hpiece
    simp only [pieces, Option.map_some, Option.toList_some, List.mem_cons, List.not_mem_nil,
      or_false] at hpiece
    rcases hpiece with rfl | rfl | rfl | rfl | rfl
    · decide
    · decide
    · exact percentEncode_ne_nil hbucket
    · decide
    · exact percentEncode_ne_nil hname
  · simp only [pieces, List.map_cons, Option.map_some, Option.toList_some, List.map_nil, hv, hb, ho,
      unescape_GCSEscapedString]

/-- The address is read as a web address. -/
theorem path_absoluteString (swift : SwiftString) (url : StorageURL) :
    StoragePath.path swift pathComponents (url.absoluteString percentEncodedQuery) =
      StoragePath.pathHTTPURL pathComponents (url.absoluteString percentEncodedQuery) := by
  have hascii : ∀ c ∈ "https://".toList, c.toNat < 128 ∧ c ≠ '\r' := by simp
  have horigin : storageOrigin = "https://".toList ++ 'f' :: storageOrigin.drop 9 := by decide
  have hurl : url.absoluteString percentEncodedQuery = "https://".toList ++ 'f' ::
      (storageOrigin.drop 9 ++ url.percentEncodedPath ++ '?' ::
        percentEncodedQuery url.queryItems) := by
    unfold StorageURL.absoluteString
    rw [horigin]
    simp only [List.append_assoc, List.cons_append]
    rfl
  have hhttps : swift.hasPrefix (url.absoluteString percentEncodedQuery) "https://".toList := by
    rw [hurl]
    exact SwiftString.hasPrefix_append hascii (by decide)
  have hgs : ¬ swift.hasPrefix (url.absoluteString percentEncodedQuery) "gs://".toList := by
    intro hgs
    rcases List.prefix_or_prefix_of_prefix (SwiftString.prefix_of_hasPrefix hgs)
      (SwiftString.prefix_of_hasPrefix hhttps) with h | h
    · exact absurd h (by decide)
    · exact absurd h (by decide)
  rw [StoragePath.path, if_neg hgs, if_pos (.inr hhttps)]

/-- The address that a download is given, with the first of the tokens, is read as the reference of
the same object. -/
theorem referenceForURL_downloadURL (swift : SwiftString)
    (hpaths : ReadsPaths pathComponents percentEncodedQuery)
    (hbucket : bucket ≠ [] ∧ ∀ c ∈ bucket, isAllowed c = true) (htokens : downloadTokens ≠ [])
    (hname : name ≠ []) :
    ∃ url path, downloadURLFromMetadataDictionary ⟨some downloadTokens, some bucket, some name⟩ =
        some url ∧
      referenceForURL swift pathComponents bucket (url.absoluteString percentEncodedQuery) =
        .ok path ∧
      path.bucket = bucket ∧ path.fullPath = ['/'].intercalate (segments name) := by
  obtain ⟨hne, hread⟩ := pieces_read hname hbucket.1
  have hcomponents := hpaths ["v0".toList, "b".toList, bucket, "o".toList, name]
    (pieces ⟨bucket, some name⟩) [("alt".toList, "media".toList),
      ("token".toList, before ',' downloadTokens)] (List.cons_ne_nil _ _)
    (fun piece hpiece => ⟨hne piece hpiece, isEscaped_pieces _ piece hpiece⟩) hread
  have hpath : "/v0/b/".toList ++ bucket ++ "/o/".toList ++ GCSEscapedString name =
      slashPath (pieces ⟨bucket, some name⟩) := by
    have hescaped : GCSEscapedString bucket = bucket := percentEncode_allowed hbucket.2
    simp [slashPath, pieces, hescaped]
  refine ⟨_, .make bucket (some name), if_neg htokens, ?_, rfl, StoragePath.fullPath_make _ _⟩
  simp only [Option.getD_some]
  rw [hpath, referenceForURL, path_absoluteString, StoragePath.pathHTTPURL, hcomponents]
  simp [Except.bind, StoragePath.make, hbucket.1, swift.equal_refl]

/-- The pieces of the path of an address of the service, without their escapes. -/
def servicePathComponents (address : List Char) : Option (List (List Char)) :=
  let path := before '?' (address.drop storageOrigin.length)
  some (['/'] :: ((path.splitOn '/').tail.map unescape).reduceOption)

theorem readsPaths_service (percentEncodedQuery : List (List Char × List Char) → List Char) :
    ReadsPaths servicePathComponents percentEncodedQuery := by
  intro names pieces queryItems _ hpieces hread
  have hslash : ∀ piece ∈ pieces, '/' ∉ piece := fun piece hpiece =>
    not_mem_escaped (hpieces piece hpiece).2 (by decide)
  have hquestion : '?' ∉ slashPath pieces := by
    refine not_mem_of_isEscaped (isEscaped_slashPath fun piece hpiece => ?_) (by decide)
    exact (hpieces piece hpiece).2
  have hnames : (names.map some).reduceOption = names := by
    change (names.map some).filterMap id = names
    rw [List.filterMap_map]
    exact List.filterMap_some
  unfold servicePathComponents StorageURL.absoluteString
  rw [List.append_assoc, List.drop_left]
  dsimp only
  rw [before_cut hquestion, splitOn_slashPath hslash, List.tail_cons, hread, hnames]

def plainQuery (items : List (List Char × List Char)) : List Char :=
  ['&'].intercalate (items.map (fun item => item.1 ++ '=' :: item.2))

theorem referenceForURL_downloadURL_photo : ∃ url path,
    downloadURLFromMetadataDictionary ⟨some "t1,t2".toList, some StoragePath.appBucket,
        some "photoReference/ana".toList⟩ = some url ∧
      referenceForURL .scalars servicePathComponents StoragePath.appBucket
        (url.absoluteString plainQuery) = .ok path ∧
      path.bucket = StoragePath.appBucket ∧
      path.fullPath = ['/'].intercalate (segments "photoReference/ana".toList) :=
  referenceForURL_downloadURL .scalars (readsPaths_service plainQuery)
    ⟨StoragePath.appBucket_clean.1, List.all_iff_forall_prop.mp (by decide)⟩ (by decide) (by decide)

end StorageAddress

end GiveMeMovies
