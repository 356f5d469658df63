import GiveMeMovies.MovieCell

/-!
# The home screen and the movie pages

The home screen loads its list once. A tap on a row opens a page for the movie and asks for its
poster. The block that fills the page runs on the main queue when the poster has arrived, and reads
the texts from the list at the index of the row then. The button of a page asks for the id of its
movie at another service and presents the web page of it.
-/

namespace GiveMeMovies

def TMDBUrl : String :=
  "https://api.themoviedb.org/3/movie/popular?api_key=" ++ API_KEY ++
    "&language=en-US&page=1&include_adult=false"

structure MoviePage (Image : Type) where
  IMDBMovieID : ℤ
  movieTitle : Option String
  releaseDate : Option String
  overview : Option String
  posterImage : Option Image
  deriving DecidableEq

inductive Trap where
  | subscript
  | forceUnwrap
  deriving DecidableEq

/-- `pages` are the movie pages that have been created, and `pushed` those that the navigation
controller shows over the home screen, from the top. A page that asks for a web page is listed in
`presented` with its address. -/
structure HomeScreen (Image : Type) where
  movies : List Movie := []
  rowCount : ℕ := 0
  pages : List (MoviePage Image) := []
  pushed : List ℕ := []
  presented : List (ℕ × String) := []
  traps : List Trap := []

inductive HomeBlock where
  | reload
  | assign (page : ℕ)
  | presentSafari (page : ℕ)

/-- What is awaited. The number of the page is read by no program. -/
inductive HomeRequest (Url : Type) where
  | searchMovies (url : Url)
  | getMoviePoster (page : ℕ) (url : Url)
  | openInSafari (page : ℕ) (url : Url)
  | main (block : HomeBlock)

@[reducible] def HomeRequest.Response (Data : Type) {Url : Type} : HomeRequest Url → Type
  | searchMovies _ => Option (List Movie)
  | getMoviePoster _ _ => Option Data
  | openInSafari _ _ => Option String
  | main _ => Unit

abbrev HomeProgram (Image Data Url : Type) :=
  Callback.Prog (HomeScreen Image) (HomeRequest Url) (HomeRequest.Response Data)

abbrev HomePending (Image Data Url : Type) :=
  Callback.Pending (HomeScreen Image) (HomeRequest Url) (HomeRequest.Response Data)

namespace HomeViewController

variable {Image Data Url : Type} (ios : CellPlatform Image Data Url)

def trap (t : Trap) : HomeProgram Image Data Url :=
  .modify (fun screen => { screen with traps := t :: screen.traps })

/-- `movies[indexPath.row]` -/
def withMovie (row : ℕ) (body : Movie → HomeProgram Image Data Url) :
    HomeProgram Image Data Url :=
  .read (fun screen =>
    match screen.movies[row]? with
    | some movie => body movie
    | none => trap .subscript)

/-- `DispatchQueue.main.async` -/
def mainAsync (name : HomeBlock) (block : HomeProgram Image Data Url) :
    HomeProgram Image Data Url :=
  .request (.main name) (fun _ => block)

def reloadData (screen : HomeScreen Image) : HomeScreen Image :=
  { screen with rowCount := screen.movies.length }

def appendMovies (movies : List Movie) : HomeProgram Image Data Url :=
  .modify (fun screen => { screen with movies := screen.movies ++ movies }) ++
    mainAsync .reload (.modify reloadData)

def moviesHandler : Option (List Movie) → HomeProgram Image Data Url
  | some movies => appendMovies movies
  | none => .done

def viewDidLoad : HomeProgram Image Data Url :=
  match ios.URL TMDBUrl with
  | some url => .request (.searchMovies url) moviesHandler
  | none => trap .forceUnwrap

def cellForRowAt (row : ℕ) : HomeProgram Image Data Url := withMovie row (fun _ => .done)

/-- A page from the storyboard. -/
def newPage (IMDBMovieID : ℤ) : MoviePage Image where
  IMDBMovieID := IMDBMovieID
  movieTitle := some "Label"
  releaseDate := some "Label"
  overview := some "Label"
  posterImage := some ios.splashBackground

def setPage (page : ℕ) (f : MoviePage Image → MoviePage Image) (screen : HomeScreen Image) :
    HomeScreen Image :=
  { screen with pages := screen.pages.modify page f }

def setTexts (movie : Movie) (page : MoviePage Image) : MoviePage Image :=
  { page with
    releaseDate := movie.release_date
    overview := movie.overview
    movieTitle := movie.title }

def fillPage (page row : ℕ) (img : Option Image) : HomeProgram Image Data Url :=
  .modify (setPage page (fun p => { p with posterImage := img })) ++
    withMovie row (fun movie => .modify (setPage page (setTexts movie)))

def posterHandler (page row : ℕ) (data : Option Data) : HomeProgram Image Data Url :=
  mainAsync (.assign page) (fillPage page row (MovieTableViewCell.poster ios data))

def addPage (IMDBMovieID : ℤ) (screen : HomeScreen Image) : HomeScreen Image :=
  { screen with pages := screen.pages ++ [newPage ios IMDBMovieID] }

def push (page : ℕ) (screen : HomeScreen Image) : HomeScreen Image :=
  { screen with pushed := page :: screen.pushed }

def didSelectRowAt (row : ℕ) : HomeProgram Image Data Url :=
  .read (fun screen =>
    withMovie row (fun movie =>
      .modify (addPage ios movie.id) ++
      (match MovieTableViewCell.posterURL ios movie with
        | some url => .request (.getMoviePoster screen.pages.length url)
            (posterHandler ios screen.pages.length row)
        | none => .done) ++
      .modify (push screen.pages.length)))

end HomeViewController

namespace MovieViewController

open HomeViewController

variable {Image Data Url : Type} (ios : CellPlatform Image Data Url)

def onBack : HomeProgram Image Data Url :=
  .modify (fun screen => { screen with pushed := screen.pushed.tail })

def movieURL (IMDBMovieID : ℤ) : String :=
  "https://api.themoviedb.org/3/movie/" ++ toString IMDBMovieID ++ "?api_key=" ++ API_KEY

def titleURL (imdbID : String) : String := "https://www.imdb.com/title/" ++ imdbID

def presentSafari (page : ℕ) (imdbID : String) : HomeProgram Image Data Url :=
  match ios.URL (titleURL imdbID) with
  | some _ => .modify (fun screen =>
      { screen with presented := (page, titleURL imdbID) :: screen.presented })
  | none => trap .forceUnwrap

def linkHandler (page : ℕ) : Option String → HomeProgram Image Data Url
  | some imdbID => mainAsync (.presentSafari page) (presentSafari ios page imdbID)
  | none => .done

/-- The button of the page. -/
def openIMDBlinkActionBtn (page : ℕ) : HomeProgram Image Data Url :=
  .read (fun screen =>
    match (screen.pages[page]?).bind (fun p => ios.URL (movieURL p.IMDBMovieID)) with
    | some theURL => .request (.openInSafari page theURL) (linkHandler ios page)
    | none => .done)

end MovieViewController

end GiveMeMovies
