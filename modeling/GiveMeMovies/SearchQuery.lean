import GiveMeMovies.PercentEncoding
import GiveMeMovies.SearchResults

/-!
# The query of a search

The text of the search field becomes the last parameter of an address, with nothing but its spaces
escaped. What the service reads from the address is the text only if the text has no ampersand, no
hash sign and nothing that looks like an escape.
-/

namespace GiveMeMovies.SearchQuery

open SearchMoviesViewController PercentEncoding ListCuts

variable {Url : Type} {URL : String → Option Url} {absoluteString : Url → String}

/-- `URL(string:)` refuses an address, or keeps its delimiters and escapes up to the fragment. -/
def KeepsAddresses (URL : String → Option Url) (absoluteString : Url → String) : Prop :=
  ∀ address url, URL address = some url →
    Keeps (withoutFragment address.toList) (withoutFragment (absoluteString url).toList)

def parameter (name value : String) : List UInt8 × List UInt8 :=
  (utf8 name.toList, utf8 value.toList)

def parameters (text : String) : List (List UInt8 × List UInt8) :=
  [parameter "api_key" API_KEY, parameter "language" "en-US", parameter "page" "1",
    parameter "include_adult" "false", parameter "query" text]

/-- An edit of the search field to `text` sends a request, and its query reads as the parameters of
the search for `text`. -/
def Searches (URL : String → Option Url) (absoluteString : Url → String) (screen : SearchScreen)
    (text : String) : Prop :=
  ∃ edit url, ((textFieldDidChange URL text).run screen).2 =
      [⟨.searchMovies edit url, ApiManager.searchMoviesHandler appendMovies⟩] ∧
    queryItems (absoluteString url).toList = parameters text

/-- The text has no delimiter of a query that ends a value, and nothing that reads as an escape. -/
def Plain (text : List Char) : Prop := '&' ∉ text ∧ '#' ∉ text ∧ hasEscape text = false

/-! ## Escaped spaces -/

def escapedChar (c : Char) : List Char := if c = ' ' then "%20".toList else [c]

theorem toList_escaped (text : String) :
    (escaped text).toList = text.toList.flatMap escapedChar := by
  rw [escaped, String.toList_ofList]
  rfl

theorem mem_escapedChar {c d : Char} (hspace : d ≠ ' ') (hd : d ∉ "%20".toList) :
    d ∈ escapedChar c ↔ d = c := by
  by_cases hc : c = ' '
  · subst hc
    simpa [escapedChar, hspace] using hd
  · simp [escapedChar, hc]

theorem mem_escaped {d : Char} (hspace : d ≠ ' ') (hd : d ∉ "%20".toList) (s : List Char) :
    d ∈ s.flatMap escapedChar ↔ d ∈ s := by
  simp [List.mem_flatMap, mem_escapedChar hspace hd]

theorem withoutFragment_append {front : List Char} (hfront : '#' ∉ front) (e : List Char) :
    withoutFragment (front ++ e) = front ++ withoutFragment e := by
  rw [withoutFragment, before, List.takeWhile_append_of_pos (forall_ne hfront)]
  rfl

theorem withoutFragment_escaped (s : List Char) :
    withoutFragment (s.flatMap escapedChar) = (withoutFragment s).flatMap escapedChar := by
  induction s with
  | nil => rfl
  | cons c s ih =>
      by_cases hc : c = '#'
      · subst hc
        rfl
      · have hescaped : '#' ∉ escapedChar c := by
          rw [mem_escapedChar (by decide) (by decide)]
          exact fun h => hc h.symm
        have hsame : '#' ∉ [c] := by
          rw [List.mem_singleton]
          exact fun h => hc h.symm
        rw [List.flatMap_cons, withoutFragment_append hescaped, ih]
        have hcons := withoutFragment_append hsame s
        rw [List.singleton_append] at hcons
        rw [hcons, List.singleton_append, List.flatMap_cons]

/-- Escaping the spaces keeps a text. -/
theorem keeps_escaped (s : List Char) : Keeps s (s.flatMap escapedChar) := by
  apply keeps_flatMap
  · intro c
    by_cases hc : c = ' '
    · subst hc
      exact .inr (by decide)
    · exact .inl (if_neg hc)
  · decide
  · intro c hc
    apply if_neg
    rintro rfl
    exact absurd hc (by decide)

/-! ## The address of a search -/

/-- The parameters before the text. -/
def fixedParts : List (List Char) :=
  ["api_key=".toList ++ API_KEY.toList, "language=en-US".toList, "page=1".toList,
    "include_adult=false".toList]

/-- The query of a search for a text that reads `e` with its spaces escaped. -/
def queryText (e : List Char) : List Char :=
  "api_key=".toList ++ API_KEY.toList ++ '&' :: ("language=en-US".toList ++
    '&' :: ("page=1".toList ++ '&' :: ("include_adult=false".toList ++ '&' :: ("query".toList ++
      '=' :: e))))

theorem toList_searchURL (text : String) : (searchURL text).toList =
    "https://api.themoviedb.org/3/search/movie".toList ++ '?' ::
      queryText (text.toList.flatMap escapedChar) := by
  rw [← toList_escaped]
  unfold searchURL queryText
  generalize escaped text = e
  generalize API_KEY = key
  simp

theorem apiKey_digits {c : Char} (hc : c ∈ API_KEY.toList) : HexDigits.isDigit c = true := by
  have hall : ∀ c ∈ API_KEY.toList, HexDigits.isDigit c = true :=
    List.all_iff_forall_prop.mp (by decide)
  exact hall c hc

theorem apiKey_not_mem {c : Char} (hc : HexDigits.isDigit c = false) : c ∉ API_KEY.toList := by
  intro hmem
  rw [apiKey_digits hmem] at hc
  cases hc

/-- The address has no fragment before the text. -/
theorem withoutFragment_queryText (e : List Char) :
    withoutFragment (queryText e) = queryText (withoutFragment e) := by
  have hkey : '#' ∉ API_KEY.toList := apiKey_not_mem (by decide)
  have hfront : '#' ∉ queryText [] := by
    unfold queryText
    generalize API_KEY.toList = key at *
    simp [hkey]
  have hsplit : ∀ e, queryText e = queryText [] ++ e := by
    intro e
    unfold queryText
    generalize API_KEY.toList = key
    simp
  rw [hsplit e, withoutFragment_append hfront, ← hsplit]

theorem query_searchURL (text : String) : query (searchURL text).toList =
    queryText ((withoutFragment text.toList).flatMap escapedChar) := by
  have hmark : '?' ∉ "https://api.themoviedb.org/3/search/movie".toList := by simp
  have hfront : '#' ∉ "https://api.themoviedb.org/3/search/movie".toList ++ ['?'] := by simp
  have hwithout : withoutFragment (searchURL text).toList =
      "https://api.themoviedb.org/3/search/movie".toList ++ '?' ::
        queryText ((withoutFragment text.toList).flatMap escapedChar) := by
    rw [toList_searchURL, List.append_cons, withoutFragment_append hfront,
      withoutFragment_queryText, withoutFragment_escaped, ← List.append_cons]
  rw [query, hwithout, after_cut hmark]

/-- The text may hold further parameters. -/
theorem splitOn_queryText (e : List Char) : (queryText e).splitOn '&' =
    fixedParts ++ ("query".toList ++ '=' :: e).splitOn '&' := by
  have hkey : '&' ∉ "api_key=".toList ++ API_KEY.toList := by
    have hdigits : '&' ∉ API_KEY.toList := apiKey_not_mem (by decide)
    simp [hdigits]
  have hlanguage : '&' ∉ "language=en-US".toList := by simp
  have hpage : '&' ∉ "page=1".toList := by simp
  have hadult : '&' ∉ "include_adult=false".toList := by simp
  unfold queryText
  rw [List.splitOn_append_cons_self_of_not_mem hkey,
    List.splitOn_append_cons_self_of_not_mem hlanguage,
    List.splitOn_append_cons_self_of_not_mem hpage,
    List.splitOn_append_cons_self_of_not_mem hadult]
  rfl

theorem queryItem_parameter {name : List Char} (hname : '=' ∉ name)
    (hescape : hasEscape name = false) (value : List Char) :
    queryItem (name ++ '=' :: value) = (utf8 name, percentDecode value) := by
  rw [queryItem, before_cut hname, after_cut hname, percentDecode_eq_utf8_iff.mpr hescape]

theorem queryItems_fixedParts : fixedParts.map queryItem =
    [parameter "api_key" API_KEY, parameter "language" "en-US", parameter "page" "1",
      parameter "include_adult" "false"] := by
  decide

/-- An ampersand adds a parameter. -/
theorem length_splitOn {s : List Char} (h : '&' ∈ s) : 1 < (s.splitOn '&').length := by
  obtain ⟨x, y, rfl⟩ := List.append_of_mem h
  have hx := List.length_pos_iff.mpr (List.splitOn_ne_nil '&' x)
  have hy := List.length_pos_iff.mpr (List.splitOn_ne_nil '&' y)
  rw [List.splitOn_append_cons_self, List.length_append]
  omega

theorem plain_iff (text : List Char) : Plain text ↔
    '&' ∉ withoutFragment text ∧ percentDecode (withoutFragment text) = utf8 text := by
  have hdecode : percentDecode (withoutFragment text) = utf8 text ↔
      '#' ∉ text ∧ hasEscape text = false := percentDecode_before_iff '#' text
  rw [hdecode]
  constructor
  · rintro ⟨hand, hhash, hescape⟩
    refine ⟨fun hmem => hand ?_, hhash, hescape⟩
    exact before_subset hmem
  · rintro ⟨hand, hhash, hescape⟩
    rw [withoutFragment, before_whole hhash] at hand
    exact ⟨hand, hhash, hescape⟩

/-- What the service reads is the search for the text. -/
theorem queryItems_searchURL (text : String) :
    queryItems (searchURL text).toList = parameters text ↔ Plain text.toList := by
  have hparameters : parameters text =
      fixedParts.map queryItem ++ [(utf8 "query".toList, utf8 text.toList)] := by
    rw [queryItems_fixedParts]
    rfl
  rw [queryItems, query_searchURL, splitOn_queryText, List.map_append, hparameters,
    List.append_cancel_left_eq, plain_iff, ← (keeps_escaped (withoutFragment _)).percentDecode,
    ← mem_escaped (by decide) (by simp) (withoutFragment _)]
  generalize (withoutFragment text.toList).flatMap escapedChar = e
  have hname : '=' ∉ "query".toList := by simp
  by_cases hmem : '&' ∈ e
  · have hlength : 1 < (("query".toList ++ '=' :: e).splitOn '&').length := by
      apply length_splitOn
      simp [hmem]
    refine ⟨fun h => ?_, fun h => absurd hmem h.1⟩
    have hsame := congrArg List.length h
    rw [List.length_map, List.length_singleton] at hsame
    omega
  · have hnot : '&' ∉ "query".toList ++ '=' :: e := by simp [hmem]
    rw [List.splitOn_eq_singleton hnot, List.map_singleton,
      queryItem_parameter hname (by decide) e]
    simp [hmem]

/-- The request that is sent has the address of the text. -/
theorem searches_iff_sent (hURL : KeepsAddresses URL absoluteString) (screen : SearchScreen)
    {text : String} (htext : text ≠ "") : Searches URL absoluteString screen text ↔
      (∃ url, URL (searchURL text) = some url) ∧
        queryItems (searchURL text).toList = parameters text := by
  unfold Searches
  rw [SearchResults.run_textFieldDidChange, if_neg htext]
  cases hurl : URL (searchURL text) with
  | none => simp
  | some url =>
      have hread := (hURL _ url hurl).queryItems
      constructor
      · rintro ⟨edit, url', hsent, hquery⟩
        have hsame : edit = screen.edits + 1 ∧ url' = url := by
          simpa using (List.cons.inj hsent.symm).1
        rw [hsame.2, hread] at hquery
        exact ⟨⟨url, rfl⟩, hquery⟩
      · rintro ⟨_, hquery⟩
        exact ⟨screen.edits + 1, url, rfl, hread.trans hquery⟩

/-- A search reaches the service as it was typed exactly when its address is accepted and the text
has no ampersand, no hash sign and no escape. -/
theorem searches_iff (hURL : KeepsAddresses URL absoluteString) (screen : SearchScreen)
    {text : String} (htext : text ≠ "") : Searches URL absoluteString screen text ↔
      (∃ url, URL (searchURL text) = some url) ∧ Plain text.toList := by
  rw [searches_iff_sent hURL screen htext, queryItems_searchURL]

/-- The characters of an address. -/
def isAddressChar (c : Char) : Bool :=
  c.isAlphanum || c ∈ ['-', '.', '_', '~', ':', '/', '?', '#', '[', ']', '@', '!', '$', '&', '\'',
    '(', ')', '*', '+', ',', ';', '=', '%']

/-- An address with any other character is refused. -/
def strictURL (address : String) : Option String :=
  if address.toList.all isAddressChar then some address else none

theorem keeps_strictURL : KeepsAddresses strictURL id := by
  intro address url hurl
  unfold strictURL at hurl
  split at hurl
  · cases hurl
    exact keeps_refl _
  · cases hurl

theorem searches_iff_casablanca : Searches strictURL id {} "Casablanca (1942)" ↔
    (∃ url, strictURL (searchURL "Casablanca (1942)") = some url) ∧
      Plain "Casablanca (1942)".toList :=
  searches_iff keeps_strictURL {} (by decide)

theorem strictURL_furious : ∃ url, strictURL (searchURL "Fast & Furious") = some url := by
  refine ⟨_, if_pos ?_⟩
  have hkey : API_KEY.toList.all isAddressChar = true := by decide
  rw [toList_searchURL]
  unfold queryText
  simp only [List.all_append, List.all_cons, hkey, Bool.and_eq_true]
  decide

/-- The address is accepted, and the service searches for what stands before the ampersand. -/
theorem furious_searches_fast : (∃ url, strictURL (searchURL "Fast & Furious") = some url) ∧
    ¬ Searches strictURL id {} "Fast & Furious" := by
  refine ⟨strictURL_furious, fun h => ?_⟩
  obtain ⟨_, hquery⟩ := (searches_iff_sent keeps_strictURL {} (by decide)).mp h
  obtain ⟨hand, _⟩ := (queryItems_searchURL _).mp hquery
  exact hand (by decide)

end GiveMeMovies.SearchQuery
