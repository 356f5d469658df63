import Mathlib.Data.List.Infix
import GiveMeMovies.HomeController

/-!
# The pages opened from the home screen

Taps on rows, pages pushed and left, and the responses and the blocks of the main queue in any
order. The list only ever grows, so that the index which a page keeps until its poster arrives
still stands for the movie that was tapped.
-/

namespace GiveMeMovies.HomePages

open HomeViewController MovieViewController
open MovieTableViewCell (posterURL poster)

variable {Image Data Url : Type} (ios : CellPlatform Image Data Url)

inductive Act where
  | cell (row : ℕ)
  | tap (row : ℕ)
  | link (page : ℕ)
  | back

/-- The table view asks for rows below its row count only, and a button is tapped on a page that
the navigation controller shows. -/
def act : Act → HomeScreen Image → Option (HomeProgram Image Data Url)
  | .cell row, screen => if row < screen.rowCount then some (cellForRowAt row) else none
  | .tap row, screen => if row < screen.rowCount then some (didSelectRowAt ios row) else none
  | .link page, screen =>
      if page ∈ screen.pushed then some (openIMDBlinkActionBtn ios page) else none
  | .back, _ => some onBack

inductive Outcome (Data : Type) where
  | failed
  | movies (movies : List Movie)
  | data (data : Data)
  | movieID (imdbID : String)

def service (Image Data Url : Type) : Callback.Service Unit (HomeScreen Image) (HomeRequest Url)
    (HomeRequest.Response Data) (Outcome Data) where
  reply
    | .searchMovies _, .movies movies, _ => some movies
    | .searchMovies _, _, _ => none
    | .getMoviePoster _ _, .data data, _ => some data
    | .getMoviePoster _ _, _, _ => none
    | .openInSafari _ _, .movieID imdbID, _ => some imdbID
    | .openInSafari _ _, _, _ => none
    | .main _, _, _ => ()
  commit _ _ server := server
  receive _ _ screen := screen

abbrev Event (Data : Type) := Callback.Event Act (Outcome Data)

abbrev World (Image Data Url : Type) :=
  Callback.World Unit (HomeScreen Image) (HomeRequest Url) (HomeRequest.Response Data)

abbrev Journal (Data Url : Type) :=
  List (Callback.Entry (HomeRequest Url) (HomeRequest.Response Data))

abbrev step : World Image Data Url → Event Data → Option (World Image Data Url) :=
  Callback.step (service Image Data Url) (act ios)

def start : World Image Data Url := (Callback.World.start () {}).exec (viewDidLoad ios)

/-- The movie of the row that is tapped. -/
def tapped (w : World Image Data Url) : Event Data → List Movie
  | .act (.tap row) => (w.client.movies[row]?).toList
  | _ => []

def taps (es : List (Event Data)) : List Movie :=
  (EventRun.observe (step ios) tapped (start ios) es).flatten

/-! ## What is on a page -/

/-- A page as it is created. -/
def blankPage (movie : Movie) : MoviePage Image := newPage ios movie.id

/-- A page that has been filled. -/
def filledPage (movie : Movie) (img : Option Image) : MoviePage Image where
  IMDBMovieID := movie.id
  movieTitle := movie.title
  releaseDate := movie.release_date
  overview := movie.overview
  posterImage := img

/-- The poster request of page `i` for `movie` was answered with `img`. -/
def Answered (journal : Journal Data Url) (i : ℕ) (movie : Movie) (img : Option Image) : Prop :=
  ∃ url data, posterURL ios movie = some url ∧ ⟨.getMoviePoster i url, data⟩ ∈ journal ∧
    img = poster ios data

/-- The page `i` of `movie` is blank, or shows its texts and the poster that was asked for. -/
def Shows (journal : Journal Data Url) (i : ℕ) (movie : Movie) (page : MoviePage Image) : Prop :=
  page = blankPage ios movie ∨ ∃ img, Answered ios journal i movie img ∧ page = filledPage movie img

/-- The movie `i` was tapped, and stands at `row`. -/
def Stands (ts movies : List Movie) (i row : ℕ) (movie : Movie) : Prop :=
  ts[i]? = some movie ∧ movies[row]? = some movie

/-- What can be in flight after the taps `ts`. -/
inductive Issued (ts movies : List Movie) (journal : Journal Data Url) :
    HomePending Image Data Url → Prop
  | load (url : Url) : Issued ts movies journal ⟨.searchMovies url, moviesHandler⟩
  | reload : Issued ts movies journal ⟨.main .reload, fun _ => .modify reloadData⟩
  | poster (i row : ℕ) (movie : Movie) (url : Url) (h : Stands ts movies i row movie)
      (hurl : posterURL ios movie = some url) :
      Issued ts movies journal ⟨.getMoviePoster i url, posterHandler ios i row⟩
  | assign (i row : ℕ) (movie : Movie) (img : Option Image) (h : Stands ts movies i row movie)
      (himg : Answered ios journal i movie img) :
      Issued ts movies journal ⟨.main (.assign i), fun _ => fillPage i row img⟩
  | link (i : ℕ) (movie : Movie) (url : Url) (h : ts[i]? = some movie)
      (hurl : ios.URL (MovieViewController.movieURL movie.id) = some url) :
      Issued ts movies journal ⟨.openInSafari i url, linkHandler ios i⟩
  | safari (i : ℕ) (movie : Movie) (url : Url) (imdbID : String) (h : ts[i]? = some movie)
      (hurl : ios.URL (MovieViewController.movieURL movie.id) = some url)
      (hid : ⟨.openInSafari i url, some imdbID⟩ ∈ journal) :
      Issued ts movies journal ⟨.main (.presentSafari i), fun _ => presentSafari ios i imdbID⟩

/-- The request or the block fills page `i` in the end. -/
def fills (i : ℕ) : HomeRequest Url → Prop
  | .getMoviePoster page _ | .main (.assign page) => page = i
  | _ => False

/-- The web page was presented for the movie of page `i`. -/
def Own (ts : List Movie) (journal : Journal Data Url) (i : ℕ) (url : String) : Prop :=
  ∃ movie theURL imdbID, ts[i]? = some movie ∧
    ios.URL (MovieViewController.movieURL movie.id) = some theURL ∧
    ⟨.openInSafari i theURL, some imdbID⟩ ∈ journal ∧ url = titleURL imdbID

structure Tracked (ts : List Movie) (w : World Image Data Url) : Prop where
  traps : .subscript ∉ w.client.traps
  rows : w.client.rowCount ≤ w.client.movies.length
  length : w.client.pages.length = ts.length
  pages : ∀ i movie page, ts[i]? = some movie → w.client.pages[i]? = some page →
    Shows ios w.journal i movie page
  pushed : ∀ i ∈ w.client.pushed, i < ts.length
  awaited : ∀ i movie, ts[i]? = some movie → (posterURL ios movie).isSome →
    (∃ p ∈ w.inFlight, fills i p.call) ∨
      ∃ img, Answered ios w.journal i movie img ∧ w.client.pages[i]? = some (filledPage movie img)
  presented : ∀ i url, (i, url) ∈ w.client.presented → Own ios ts w.journal i url
  pending : ∀ p ∈ w.inFlight, Issued ios ts w.client.movies w.journal p

variable {ios}

theorem Answered.mono {journal journal' : Journal Data Url} {i : ℕ} {movie : Movie}
    {img : Option Image} (hsub : journal ⊆ journal') (h : Answered ios journal i movie img) :
    Answered ios journal' i movie img := by
  obtain ⟨url, data, hurl, hmem, himg⟩ := h
  exact ⟨url, data, hurl, hsub hmem, himg⟩

theorem Shows.mono {journal journal' : Journal Data Url} {i : ℕ} {movie : Movie}
    {page : MoviePage Image} (hsub : journal ⊆ journal') (h : Shows ios journal i movie page) :
    Shows ios journal' i movie page := by
  rcases h with h | ⟨img, himg, hpage⟩
  · exact Or.inl h
  · exact Or.inr ⟨img, himg.mono hsub, hpage⟩

/-- What has a place in a list keeps it in a longer one. -/
theorem place_kept {β : Type} {l l' : List β} {i : ℕ} {b : β} (hpre : l <+: l')
    (h : l[i]? = some b) : l'[i]? = some b := by
  obtain ⟨hi, hb⟩ := List.getElem?_eq_some_iff.mp h
  rw [List.prefix_iff_getElem?.mp hpre i hi, hb]

theorem Issued.mono {ts ts' movies movies' : List Movie} {journal journal' : Journal Data Url}
    {p : HomePending Image Data Url} (hts : ts <+: ts') (hmovies : movies <+: movies')
    (hsub : journal ⊆ journal') (h : Issued ios ts movies journal p) :
    Issued ios ts' movies' journal' p := by
  have hstands {i row : ℕ} {movie : Movie} (hs : Stands ts movies i row movie) :
      Stands ts' movies' i row movie :=
    ⟨place_kept hts hs.1, place_kept hmovies hs.2⟩
  cases h with
  | load url => exact .load url
  | reload => exact .reload
  | poster i row movie url hs hurl => exact .poster i row movie url (hstands hs) hurl
  | assign i row movie img hs himg => exact .assign i row movie img (hstands hs) (himg.mono hsub)
  | link i movie url hm hurl => exact .link i movie url (place_kept hts hm) hurl
  | safari i movie url imdbID hm hurl hid =>
      exact .safari i movie url imdbID (place_kept hts hm) hurl (hsub hid)

theorem Own.mono {ts ts' : List Movie} {journal journal' : Journal Data Url} {i : ℕ}
    {url : String} (hts : ts <+: ts') (hsub : journal ⊆ journal')
    (h : Own ios ts journal i url) : Own ios ts' journal' i url := by
  obtain ⟨movie, theURL, imdbID, hm, hurl, hid, hu⟩ := h
  exact ⟨movie, theURL, imdbID, place_kept hts hm, hurl, hsub hid, hu⟩

theorem Shows.movieID {journal : Journal Data Url} {i : ℕ} {movie : Movie}
    {page : MoviePage Image} (h : Shows ios journal i movie page) :
    page.IMDBMovieID = movie.id := by
  rcases h with rfl | ⟨img, _, rfl⟩
  · rfl
  · rfl

/-! ## What a step does -/

theorem run_withMovie {row : ℕ} {movie : Movie} {screen : HomeScreen Image}
    (body : Movie → HomeProgram Image Data Url) (h : screen.movies[row]? = some movie) :
    (withMovie row body).run screen = (body movie).run screen := by
  simp only [withMovie, Callback.Prog.run_read, h]

theorem run_didSelectRowAt {row : ℕ} {movie : Movie} {screen : HomeScreen Image}
    (h : screen.movies[row]? = some movie) : (didSelectRowAt ios row).run screen =
      (push screen.pages.length (addPage ios movie.id screen),
        ((posterURL ios movie).map (fun url =>
          (⟨.getMoviePoster screen.pages.length url, posterHandler ios screen.pages.length row⟩ :
            HomePending Image Data Url))).toList) := by
  rw [didSelectRowAt, Callback.Prog.run_read, run_withMovie _ h]
  cases posterURL ios movie with
  | none => rfl
  | some url => rfl

theorem run_fillPage {i row : ℕ} {movie : Movie} {img : Option Image} {screen : HomeScreen Image}
    (h : screen.movies[row]? = some movie) :
    (fillPage i row img : HomeProgram Image Data Url).run screen =
      (setPage i (setTexts movie) (setPage i (fun p => { p with posterImage := img }) screen),
        []) := by
  have hrow : (setPage i (fun p => { p with posterImage := img }) screen).movies[row]? =
      some movie := h
  rw [fillPage, Callback.Prog.run_append, Callback.Prog.run_modify, run_withMovie _ hrow]
  rfl

variable {ts : List Movie} {w w' : World Image Data Url}

/-- A step that leaves the pages as they are. -/
theorem Tracked.keep (t : Tracked ios ts w) (hpages : w'.client.pages = w.client.pages)
    (htraps : .subscript ∉ w'.client.traps)
    (hrows : w'.client.rowCount ≤ w'.client.movies.length)
    (hmovies : w.client.movies <+: w'.client.movies)
    (hpushed : ∀ i ∈ w'.client.pushed, i < ts.length) (hjournal : w.journal ⊆ w'.journal)
    (hpresented : ∀ i url, (i, url) ∈ w'.client.presented →
      (i, url) ∈ w.client.presented ∨ Own ios ts w'.journal i url)
    (hflight : ∀ p ∈ w'.inFlight,
      p ∈ w.inFlight ∨ Issued ios ts w'.client.movies w'.journal p)
    (hfills : ∀ i, ∀ p ∈ w.inFlight, fills i p.call → ∃ q ∈ w'.inFlight, fills i q.call) :
    Tracked ios ts w' := by
  constructor
  · exact htraps
  · exact hrows
  · rw [hpages]
    exact t.length
  · intro i movie page hm hpage
    rw [hpages] at hpage
    exact (t.pages i movie page hm hpage).mono hjournal
  · exact hpushed
  · intro i movie hm hurl
    rcases t.awaited i movie hm hurl with ⟨p, hp, hfill⟩ | ⟨img, himg, hpage⟩
    · exact Or.inl (hfills i p hp hfill)
    · rw [hpages]
      exact Or.inr ⟨img, himg.mono hjournal, hpage⟩
  · intro i url hmem
    rcases hpresented i url hmem with hmem | hown
    · exact (t.presented i url hmem).mono (List.prefix_refl ts) hjournal
    · exact hown
  · intro p hp
    rcases hflight p hp with hp | hp
    · exact (t.pending p hp).mono (List.prefix_refl ts) hmovies hjournal
    · exact hp

theorem mem_inFlight_answered {n : ℕ} {p q : HomePending Image Data Url}
    (hp : w.inFlight[n]? = some p) (hq : q ∈ w.inFlight) : q = p ∨ q ∈ w.inFlight.eraseIdx n :=
  List.mem_cons.mp ((Callback.World.perm_eraseIdx hp).mem_iff.mp hq)

/-- An answer after which the pages are as they were. -/
theorem Tracked.answered (t : Tracked ios ts w) {n : ℕ} {p : HomePending Image Data Url}
    (hp : w.inFlight[n]? = some p) {a : p.call.Response Data} {screen : HomeScreen Image}
    {sent : List (HomePending Image Data Url)} (hrun : (p.handler a).run w.client = (screen, sent))
    (hpages : screen.pages = w.client.pages) (htraps : .subscript ∉ screen.traps)
    (hrows : screen.rowCount ≤ screen.movies.length)
    (hmovies : w.client.movies <+: screen.movies) (hpushed : screen.pushed = w.client.pushed)
    (hpresented : ∀ i url, (i, url) ∈ screen.presented →
      (i, url) ∈ w.client.presented ∨ Own ios ts (w.journal ++ [⟨p.call, a⟩]) i url)
    (hsent : ∀ q ∈ sent, Issued ios ts screen.movies (w.journal ++ [⟨p.call, a⟩]) q)
    (hfills : ∀ i, fills i p.call → ∃ q ∈ sent, fills i q.call) :
    Tracked ios ts (w.respond (service Image Data Url) n p a) := by
  have hclient : (w.respond (service Image Data Url) n p a).client = screen :=
    congrArg Prod.fst hrun
  have hflight : (w.respond (service Image Data Url) n p a).inFlight =
      w.inFlight.eraseIdx n ++ sent := congrArg (w.inFlight.eraseIdx n ++ Prod.snd ·) hrun
  apply t.keep
  · rw [hclient, hpages]
  · rw [hclient]
    exact htraps
  · rw [hclient]
    exact hrows
  · rw [hclient]
    exact hmovies
  · rw [hclient, hpushed]
    exact t.pushed
  · exact List.subset_append_left _ _
  · rw [hclient]
    exact hpresented
  · intro q hq
    rw [hflight] at hq
    rw [hclient]
    rcases List.mem_append.mp hq with hq | hq
    · exact Or.inl (List.mem_of_mem_eraseIdx hq)
    · exact Or.inr (hsent q hq)
  · intro i q hq hfill
    rw [hflight]
    rcases mem_inFlight_answered hp hq with rfl | hq
    · obtain ⟨q', hq', hfill'⟩ := hfills i hfill
      exact ⟨q', List.mem_append_right _ hq', hfill'⟩
    · exact ⟨q, List.mem_append_left _ hq, hfill⟩

theorem setTexts_eq_filledPage {movie : Movie} {img : Option Image} {page : MoviePage Image}
    (h : page.IMDBMovieID = movie.id) :
    setTexts movie { page with posterImage := img } = filledPage movie img := by
  simp only [setTexts, filledPage, h]

theorem getElem?_setPage (i j : ℕ) (f : MoviePage Image → MoviePage Image)
    (screen : HomeScreen Image) : (setPage i f screen).pages[j]? =
      if i = j then (screen.pages[j]?).map f else screen.pages[j]? := by
  simp only [setPage, List.getElem?_modify]
  by_cases hij : i = j
  · simp [hij]
  · simp [hij]

/-- The movie of a page stands at the index that the page kept, so the block finds it, and the page
shows that movie. -/
theorem Tracked.assigned (t : Tracked ios ts w) {n i row : ℕ} {movie : Movie} {img : Option Image}
    (hp : w.inFlight[n]? = some ⟨.main (.assign i), fun _ => fillPage i row img⟩)
    (hs : Stands ts w.client.movies i row movie) (himg : Answered ios w.journal i movie img) :
    Tracked ios ts (w.respond (service Image Data Url) n
      ⟨.main (.assign i), fun _ => fillPage i row img⟩ ()) := by
  have hrun : (fillPage i row img : HomeProgram Image Data Url).run w.client = _ :=
    run_fillPage hs.2
  set w' := w.respond (service Image Data Url) n
    ⟨.main (.assign i), fun _ => fillPage i row img⟩ () with hw'
  have hclient : w'.client = setPage i (setTexts movie)
      (setPage i (fun p => { p with posterImage := img }) w.client) := congrArg Prod.fst hrun
  have hflight : w'.inFlight = w.inFlight.eraseIdx n ++ [] :=
    congrArg (w.inFlight.eraseIdx n ++ Prod.snd ·) hrun
  have hsub : w.journal ⊆ w'.journal := List.subset_append_left _ _
  have hother (j : ℕ) (hj : i ≠ j) : w'.client.pages[j]? = w.client.pages[j]? := by
    rw [hclient, getElem?_setPage, if_neg hj, getElem?_setPage, if_neg hj]
  have hown (page : MoviePage Image) (hpage : w.client.pages[i]? = some page) :
      w'.client.pages[i]? = some (filledPage movie img) := by
    have hid := (t.pages i movie page hs.1 hpage).movieID
    rw [hclient, getElem?_setPage, if_pos rfl, getElem?_setPage, if_pos rfl, hpage]
    exact congrArg some (setTexts_eq_filledPage hid)
  have hexists : ∃ page, w.client.pages[i]? = some page := by
    obtain ⟨hi, _⟩ := List.getElem?_eq_some_iff.mp hs.1
    have hi' : i < w.client.pages.length := by
      rw [t.length]
      exact hi
    exact ⟨_, List.getElem?_eq_getElem hi'⟩
  obtain ⟨old, hold⟩ := hexists
  constructor
  · rw [hclient]
    exact t.traps
  · rw [hclient]
    exact t.rows
  · rw [hclient]
    simpa [setPage] using t.length
  · intro j movie' page hm hpage
    by_cases hj : i = j
    · subst hj
      rw [hown old hold] at hpage
      rw [hs.1] at hm
      cases hm
      cases hpage
      exact Or.inr ⟨img, himg.mono hsub, rfl⟩
    · rw [hother j hj] at hpage
      exact (t.pages j movie' page hm hpage).mono hsub
  · rw [hclient]
    exact t.pushed
  · intro j movie' hm hurl
    by_cases hj : i = j
    · subst hj
      rw [hs.1] at hm
      cases hm
      exact Or.inr ⟨img, himg.mono hsub, hown old hold⟩
    · rcases t.awaited j movie' hm hurl with ⟨q, hq, hfill⟩ | ⟨img', himg', hpage⟩
      · rcases mem_inFlight_answered hp hq with rfl | hq
        · exact absurd hfill hj
        · rw [hflight, List.append_nil]
          exact Or.inl ⟨q, hq, hfill⟩
      · rw [hother j hj]
        exact Or.inr ⟨img', himg'.mono hsub, hpage⟩
  · intro j url hmem
    rw [hclient] at hmem
    exact (t.presented j url hmem).mono (List.prefix_refl ts) hsub
  · intro q hq
    rw [hflight, List.append_nil] at hq
    rw [hclient]
    exact (t.pending q (List.mem_of_mem_eraseIdx hq)).mono (List.prefix_refl ts)
      (List.prefix_refl _) hsub

theorem Tracked.respond (t : Tracked ios ts w) {n : ℕ} {p : HomePending Image Data Url}
    (hp : w.inFlight[n]? = some p) (a : p.call.Response Data) :
    Tracked ios ts (w.respond (service Image Data Url) n p a) := by
  have hmem := t.pending p (List.mem_of_getElem? hp)
  cases hmem with
  | load url =>
      cases a with
      | none =>
          exact t.answered hp rfl rfl t.traps t.rows (List.prefix_refl _) rfl
            (fun _ _ => Or.inl) nofun nofun
      | some movies =>
          refine t.answered hp rfl rfl t.traps ?_ (List.prefix_append _ _) rfl
            (fun _ _ => Or.inl) ?_ nofun
          · have hrows := t.rows
            change w.client.rowCount ≤ (w.client.movies ++ movies).length
            rw [List.length_append]
            omega
          · intro q hq
            rw [List.mem_singleton.mp hq]
            exact .reload
  | reload =>
      exact t.answered hp rfl rfl t.traps (Nat.le_refl _) (List.prefix_refl _) rfl
        (fun _ _ => Or.inl) nofun nofun
  | poster i row movie url hs hurl =>
      refine t.answered hp rfl rfl t.traps t.rows (List.prefix_refl _) rfl
        (fun _ _ => Or.inl) ?_ ?_
      · intro q hq
        rw [List.mem_singleton.mp hq]
        refine .assign i row movie _ hs ⟨url, a, hurl, ?_, rfl⟩
        exact List.mem_append_right _ (List.mem_singleton_self _)
      · intro j hj
        exact ⟨_, List.mem_singleton_self _, hj⟩
  | assign i row movie img hs himg => exact t.assigned hp hs himg
  | link i movie url hm hurl =>
      cases a with
      | none =>
          exact t.answered hp rfl rfl t.traps t.rows (List.prefix_refl _) rfl
            (fun _ _ => Or.inl) nofun nofun
      | some imdbID =>
          refine t.answered hp rfl rfl t.traps t.rows (List.prefix_refl _) rfl
            (fun _ _ => Or.inl) ?_ nofun
          intro q hq
          rw [List.mem_singleton.mp hq]
          exact .safari i movie url imdbID hm hurl
            (List.mem_append_right _ (List.mem_singleton_self _))
  | safari i movie url imdbID hm hurl hid =>
      have hown : Own ios ts (w.journal ++ [⟨.main (.presentSafari i), ()⟩]) i (titleURL imdbID) :=
        ⟨movie, url, imdbID, hm, hurl, List.mem_append_left _ hid, rfl⟩
      cases hu : ios.URL (titleURL imdbID) with
      | none =>
          have hrun : (presentSafari ios i imdbID : HomeProgram Image Data Url).run w.client =
              ({ w.client with traps := .forceUnwrap :: w.client.traps }, []) := by
            simp only [presentSafari, hu]
            rfl
          refine t.answered hp hrun rfl ?_ t.rows (List.prefix_refl _) rfl (fun _ _ => Or.inl)
            nofun nofun
          simpa using t.traps
      | some address =>
          have hrun : (presentSafari ios i imdbID : HomeProgram Image Data Url).run w.client =
              ({ w.client with presented := (i, titleURL imdbID) :: w.client.presented }, []) := by
            simp only [presentSafari, hu]
            rfl
          refine t.answered hp hrun rfl t.traps t.rows (List.prefix_refl _) rfl ?_ nofun nofun
          intro j other hj
          rcases List.mem_cons.mp hj with hj | hj
          · cases hj
            exact Or.inr hown
          · exact Or.inl hj

/-- A page is added for the movie that is tapped. -/
theorem Tracked.tap (t : Tracked ios ts w) {row : ℕ} {movie : Movie}
    (h : w.client.movies[row]? = some movie) :
    Tracked ios (ts ++ [movie]) (w.exec (didSelectRowAt ios row)) := by
  have hrun : (didSelectRowAt ios row : HomeProgram Image Data Url).run w.client = _ :=
    run_didSelectRowAt h
  have hlength := t.length
  have hpre : ts <+: ts ++ [movie] := List.prefix_append _ _
  have hclient : (w.exec (didSelectRowAt ios row)).client =
      push w.client.pages.length (addPage ios movie.id w.client) := congrArg Prod.fst hrun
  have hflight : (w.exec (didSelectRowAt ios row)).inFlight = w.inFlight ++
      ((posterURL ios movie).map (fun url =>
        (⟨.getMoviePoster w.client.pages.length url,
          posterHandler ios w.client.pages.length row⟩ : HomePending Image Data Url))).toList :=
    congrArg (w.inFlight ++ Prod.snd ·) hrun
  have hold {i : ℕ} {m : Movie} (hm : (ts ++ [movie])[i]? = some m) :
      ts[i]? = some m ∨ i = ts.length ∧ m = movie := by
    by_cases hi : i < ts.length
    · rw [List.getElem?_append_left hi] at hm
      exact Or.inl hm
    · obtain ⟨hi', hget⟩ := List.getElem?_eq_some_iff.mp hm
      rw [List.length_append, List.length_singleton] at hi'
      have heq : i = ts.length := by omega
      subst heq
      simp only [List.getElem_concat_length] at hget
      exact Or.inr ⟨rfl, hget.symm⟩
  have hnew : (ts ++ [movie])[ts.length]? = some movie := List.getElem?_concat_length
  constructor
  · rw [hclient]
    exact t.traps
  · rw [hclient]
    exact t.rows
  · rw [hclient]
    simpa [push, addPage] using hlength
  · intro i m page hm hpage
    rw [hclient] at hpage
    simp only [push, addPage] at hpage
    rcases hold hm with hm | ⟨rfl, rfl⟩
    · obtain ⟨hi, _⟩ := List.getElem?_eq_some_iff.mp hm
      rw [List.getElem?_append_left (by omega)] at hpage
      exact t.pages i m page hm hpage
    · rw [← hlength, List.getElem?_concat_length] at hpage
      cases hpage
      exact Or.inl rfl
  · intro i hi
    rw [hclient] at hi
    rw [List.length_append, List.length_singleton]
    rcases List.mem_cons.mp hi with rfl | hi
    · omega
    · exact Nat.lt_succ_of_lt (t.pushed i hi)
  · intro i m hm hurl
    rcases hold hm with hm | ⟨rfl, rfl⟩
    · rcases t.awaited i m hm hurl with ⟨q, hq, hfill⟩ | ⟨img, himg, hpage⟩
      · rw [hflight]
        exact Or.inl ⟨q, List.mem_append_left _ hq, hfill⟩
      · refine Or.inr ⟨img, himg, ?_⟩
        rw [hclient]
        exact place_kept (List.prefix_append _ _) hpage
    · obtain ⟨url, hu⟩ := Option.isSome_iff_exists.mp hurl
      rw [hflight, hu]
      exact Or.inl ⟨_, List.mem_append_right _ (List.mem_singleton_self _), hlength⟩
  · intro i url hmem
    rw [hclient] at hmem
    exact (t.presented i url hmem).mono hpre (List.Subset.refl _)
  · intro q hq
    rw [hflight] at hq
    rw [hclient]
    rcases List.mem_append.mp hq with hq | hq
    · exact (t.pending q hq).mono hpre (List.prefix_refl _) (List.Subset.refl _)
    · cases hu : posterURL ios movie with
      | none =>
          rw [hu] at hq
          exact absurd hq List.not_mem_nil
      | some url =>
          rw [hu] at hq
          rw [List.mem_singleton.mp hq]
          refine .poster _ row movie url ⟨?_, h⟩ hu
          rw [hlength]
          exact hnew

/-- A program that leaves the screen as it is, but for the pages that are shown. -/
theorem Tracked.shown (t : Tracked ios ts w) {p : HomeProgram Image Data Url} {pushed : List ℕ}
    {sent : List (HomePending Image Data Url)}
    (hrun : p.run w.client = ({ w.client with pushed := pushed }, sent))
    (hpushed : pushed ⊆ w.client.pushed)
    (hsent : ∀ q ∈ sent, Issued ios ts w.client.movies w.journal q) :
    Tracked ios ts (w.exec p) := by
  have hclient : (w.exec p).client = { w.client with pushed := pushed } := congrArg Prod.fst hrun
  have hflight : (w.exec p).inFlight = w.inFlight ++ sent :=
    congrArg (w.inFlight ++ Prod.snd ·) hrun
  apply t.keep
  · rw [hclient]
  · rw [hclient]
    exact t.traps
  · rw [hclient]
    exact t.rows
  · rw [hclient]
  · rw [hclient]
    exact fun i hi => t.pushed i (hpushed hi)
  · exact List.Subset.refl _
  · rw [hclient]
    exact fun _ _ => Or.inl
  · intro q hq
    rw [hflight] at hq
    rw [hclient]
    rcases List.mem_append.mp hq with hq | hq
    · exact Or.inl hq
    · exact Or.inr (hsent q hq)
  · intro i q hq hfill
    rw [hflight]
    exact ⟨q, List.mem_append_left _ hq, hfill⟩

theorem Tracked.link (t : Tracked ios ts w) {page : ℕ} (hpage : page < ts.length) :
    Tracked ios ts (w.exec (openIMDBlinkActionBtn ios page)) := by
  have hlength := t.length
  have hp : page < w.client.pages.length := by omega
  have hm : ts[page]? = some ts[page] := List.getElem?_eq_getElem hpage
  have hget : w.client.pages[page]? = some w.client.pages[page] := List.getElem?_eq_getElem hp
  have hid := (t.pages page _ _ hm hget).movieID
  cases hu : ios.URL (MovieViewController.movieURL ts[page].id) with
  | none =>
      have hrun : (openIMDBlinkActionBtn ios page : HomeProgram Image Data Url).run w.client =
          (w.client, []) := by
        simp only [openIMDBlinkActionBtn, Callback.Prog.run_read, hget, Option.bind_some, hid, hu]
        rfl
      exact t.shown hrun (List.Subset.refl _) nofun
  | some url =>
      have hrun : (openIMDBlinkActionBtn ios page : HomeProgram Image Data Url).run w.client =
          (w.client, [⟨.openInSafari page url, linkHandler ios page⟩]) := by
        simp only [openIMDBlinkActionBtn, Callback.Prog.run_read, hget, Option.bind_some, hid, hu]
        rfl
      refine t.shown hrun (List.Subset.refl _) fun q hq => ?_
      rw [List.mem_singleton.mp hq]
      exact .link page _ url hm hu

theorem Tracked.step (t : Tracked ios ts w) {e : Event Data}
    (hstep : HomePages.step ios w e = some w') : Tracked ios (ts ++ tapped w e) w' := by
  cases e with
  | complete n o =>
      obtain ⟨p, hp, rfl⟩ := (Callback.step_complete _ _).mp hstep
      rw [show tapped w (.complete n o : Event Data) = [] from rfl, List.append_nil]
      exact t.respond hp _
  | act e =>
      obtain ⟨p, hp, rfl⟩ := (Callback.step_act _ _).mp hstep
      have hrow {row : ℕ} (hr : row < w.client.rowCount) :
          ∃ movie, w.client.movies[row]? = some movie :=
        ⟨_, List.getElem?_eq_getElem (Nat.lt_of_lt_of_le hr t.rows)⟩
      cases e with
      | cell row =>
          simp only [act] at hp
          split at hp
          next hr =>
            cases hp
            obtain ⟨movie, hmovie⟩ := hrow hr
            rw [show tapped w (.act (.cell row) : Event Data) = [] from rfl, List.append_nil]
            exact t.shown (run_withMovie _ hmovie) (List.Subset.refl _) nofun
          next => cases hp
      | tap row =>
          simp only [act] at hp
          split at hp
          next hr =>
            cases hp
            obtain ⟨movie, hmovie⟩ := hrow hr
            rw [tapped, hmovie]
            exact t.tap hmovie
          next => cases hp
      | link page =>
          simp only [act] at hp
          split at hp
          next hpage =>
            cases hp
            rw [show tapped w (.act (.link page) : Event Data) = [] from rfl, List.append_nil]
            exact t.link (t.pushed page hpage)
          next => cases hp
      | back =>
          cases hp
          rw [show tapped w (.act .back : Event Data) = [] from rfl, List.append_nil]
          exact t.shown rfl (List.tail_subset _) nofun

/-! ## Runs -/

variable {es : List (Event Data)}

theorem of_getElem?_nil {β : Type} {i : ℕ} {b : β} {P : Prop}
    (h : ([] : List β)[i]? = some b) : P := by
  simp at h

/-- Nothing has been tapped. -/
theorem tracked_nil {traps : List Trap} {inFlight : List (HomePending Image Data Url)}
    (htraps : .subscript ∉ traps)
    (hpending : ∀ p ∈ inFlight, ∃ url, p = ⟨.searchMovies url, moviesHandler⟩) :
    Tracked ios [] ⟨(), { traps := traps }, inFlight, []⟩ := by
  constructor
  · exact htraps
  · exact Nat.le_refl 0
  · rfl
  · exact fun _ _ _ hm _ => of_getElem?_nil hm
  · exact fun _ hi => absurd hi List.not_mem_nil
  · exact fun _ _ hm _ => of_getElem?_nil hm
  · exact fun _ _ hp => absurd hp List.not_mem_nil
  · intro p hp
    obtain ⟨url, rfl⟩ := hpending p hp
    exact .load url

theorem tracked_start : Tracked ios [] (start ios : World Image Data Url) := by
  cases hu : ios.URL TMDBUrl with
  | some url =>
      have hstart : (start ios : World Image Data Url) =
          ⟨(), {}, [⟨.searchMovies url, moviesHandler⟩], []⟩ := by
        simp only [start, viewDidLoad, hu]
        rfl
      rw [hstart]
      refine tracked_nil List.not_mem_nil fun p hp => ?_
      exact ⟨url, List.mem_singleton.mp hp⟩
  | none =>
      have hstart : (start ios : World Image Data Url) =
          ⟨(), { traps := [.forceUnwrap] }, [], []⟩ := by
        simp only [start, viewDidLoad, hu]
        rfl
      rw [hstart]
      exact tracked_nil (by simp) fun p hp => absurd hp List.not_mem_nil

theorem tracked_run (hrun : EventRun.run (step ios) (start ios) es = some w) :
    Tracked ios (taps ios es) w := by
  refine EventRun.run_trace_invariant (I := fun es w => Tracked ios (taps ios es) w) tracked_start
    (fun es e w₁ w₂ hes ht hstep => ?_) hrun
  rw [taps, EventRun.observe_concat _ hes hstep, List.flatten_append, List.flatten_singleton]
  exact ht.step hstep

/-- No row or page reads the list out of its bounds, whatever arrives when. Each tap has made a page
with the id of the movie that was tapped, which is blank or shows the texts of that movie with the
poster that was asked for it. -/
theorem pages_of_run (hrun : EventRun.run (step ios) (start ios) es = some w) :
    .subscript ∉ w.client.traps ∧ w.client.rowCount ≤ w.client.movies.length ∧
      w.client.pages.length = (taps ios es).length ∧
      ∀ i movie page, (taps ios es)[i]? = some movie → w.client.pages[i]? = some page →
        page.IMDBMovieID = movie.id ∧ Shows ios w.journal i movie page := by
  have t := tracked_run hrun
  refine ⟨t.traps, t.rows, t.length, fun i movie page hm hpage => ?_⟩
  exact ⟨(t.pages i movie page hm hpage).movieID, t.pages i movie page hm hpage⟩

/-- The page of Vertigo is opened, its link is followed, and its poster arrives. -/
def opened : List (Event String) :=
  [.complete 0 (.movies [MovieCell.casablanca, MovieCell.vertigo]), .complete 0 .failed,
    .act (.tap 1), .act (.link 0), .complete 1 (.movieID "tt0052357"), .complete 1 .failed,
    .complete 0 (.data "Vertigo"), .complete 0 .failed]

theorem openedRun : ∃ w, EventRun.run (step MovieCell.device) (start MovieCell.device) opened =
      some w ∧ w.inFlight = [] ∧
    (taps MovieCell.device opened)[0]? = some MovieCell.vertigo :=
  ⟨_, rfl, rfl, rfl⟩

theorem pages_of_run_opened : ∃ w,
    EventRun.run (step MovieCell.device) (start MovieCell.device) opened = some w ∧
    .subscript ∉ w.client.traps ∧ w.client.rowCount ≤ w.client.movies.length ∧
      w.client.pages.length = (taps MovieCell.device opened).length ∧
      ∀ i movie page, (taps MovieCell.device opened)[i]? = some movie →
        w.client.pages[i]? = some page →
        page.IMDBMovieID = movie.id ∧ Shows MovieCell.device w.journal i movie page := by
  obtain ⟨w, hrun, _⟩ := openedRun
  exact ⟨w, hrun, pages_of_run hrun⟩

/-- Once nothing is awaited, a page is filled exactly when its movie has the address of a poster. -/
theorem pages_settled (hrun : EventRun.run (step ios) (start ios) es = some w)
    (hsettled : w.inFlight = []) (i : ℕ) (movie : Movie) (hm : (taps ios es)[i]? = some movie) :
    (posterURL ios movie = none → w.client.pages[i]? = some (blankPage ios movie)) ∧
      ((posterURL ios movie).isSome → ∃ img, Answered ios w.journal i movie img ∧
        w.client.pages[i]? = some (filledPage movie img)) := by
  have t := tracked_run hrun
  constructor
  · intro hurl
    obtain ⟨hi, _⟩ := List.getElem?_eq_some_iff.mp hm
    have hp : i < w.client.pages.length := by
      rw [t.length]
      exact hi
    have hget := List.getElem?_eq_getElem hp
    rcases t.pages i movie _ hm hget with hblank | ⟨img, ⟨url, data, hu, _⟩, _⟩
    · rw [hget, hblank]
    · rw [hurl] at hu
      cases hu
  · intro hurl
    rcases t.awaited i movie hm hurl with ⟨p, hp, _⟩ | hfilled
    · rw [hsettled] at hp
      exact absurd hp List.not_mem_nil
    · exact hfilled

theorem pages_settled_opened : ∃ w,
    EventRun.run (step MovieCell.device) (start MovieCell.device) opened = some w ∧
    (posterURL MovieCell.device MovieCell.vertigo = none →
      w.client.pages[0]? = some (blankPage MovieCell.device MovieCell.vertigo)) ∧
    ((posterURL MovieCell.device MovieCell.vertigo).isSome →
      ∃ img, Answered MovieCell.device w.journal 0 MovieCell.vertigo img ∧
        w.client.pages[0]? = some (filledPage MovieCell.vertigo img)) := by
  obtain ⟨w, hrun, hsettled, htap⟩ := openedRun
  exact ⟨w, hrun, pages_settled hrun hsettled 0 MovieCell.vertigo htap⟩

/-- A web page that is presented over a page is that of the movie of the page: its id is what the
service answered to a request for that movie. -/
theorem webPages_own (hrun : EventRun.run (step ios) (start ios) es = some w) :
    ∀ i url, (i, url) ∈ w.client.presented → Own ios (taps ios es) w.journal i url :=
  (tracked_run hrun).presented

theorem webPages_own_opened : ∃ w,
    EventRun.run (step MovieCell.device) (start MovieCell.device) opened = some w ∧
    ∀ i url, (i, url) ∈ w.client.presented →
      Own MovieCell.device (taps MovieCell.device opened) w.journal i url := by
  obtain ⟨w, hrun, _⟩ := openedRun
  exact ⟨w, hrun, webPages_own hrun⟩

end GiveMeMovies.HomePages
