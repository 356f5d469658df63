import Mathlib.Data.Int.Notation
import GiveMeMovies.CallbackProgram

/-!
# The search screen

Every edit of the search field clears the list and sends a request, and the response to a
request is appended to the list. The table view reads its row count when it is reloaded, which
is a later step on the main queue.
-/

namespace GiveMeMovies

structure Movie where
  title : Option String
  id : ℤ
  release_date : Option String
  poster_path : Option String
  overview : Option String
  deriving DecidableEq

def API_KEY : String := "8d2eecd29d1ce6b07fd592510003583a"

/-- The state of the search screen. `rowCount` is what the table view read when it was last
reloaded, and `edits` counts the edits, to tell the requests of a run apart. -/
structure SearchScreen where
  textFieldInput : String := ""
  movies : List Movie := []
  imageIsHidden : Bool := false
  rowCount : ℕ := 0
  presented : List String := []
  edits : ℕ := 0

/-- The blocks that are put on the main queue. -/
inductive MainBlock where
  | reload
  | presentSafari

/-- What is awaited: the data of a URL, for a search or for the id of a film, and a block on the
main queue. The number of the edit and the name of the block are read by no program. -/
inductive SearchRequest (Url : Type) where
  | searchMovies (edit : ℕ) (url : Url)
  | openInSafari (url : Url)
  | main (block : MainBlock)

/-- A data task answers with what could be decoded, if anything. -/
@[reducible] def SearchRequest.Response {Url : Type} : SearchRequest Url → Type
  | searchMovies _ _ => Option (List Movie)
  | openInSafari _ => Option String
  | main _ => Unit

abbrev SearchProgram (Url : Type) :=
  Callback.Prog SearchScreen (SearchRequest Url) SearchRequest.Response

abbrev SearchPending (Url : Type) :=
  Callback.Pending SearchScreen (SearchRequest Url) SearchRequest.Response

namespace ApiManager

variable {Url : Type}

def searchMoviesHandler (completion : List Movie → SearchProgram Url) :
    Option (List Movie) → SearchProgram Url
  | some movies => completion movies
  | none => .done

def searchMovies (edit : ℕ) (url : Url) (completion : List Movie → SearchProgram Url) :
    SearchProgram Url :=
  .send (.searchMovies edit url) (searchMoviesHandler completion) .done

def openInSafariHandler (completion : String → SearchProgram Url) :
    Option String → SearchProgram Url
  | some movieID => completion movieID
  | none => .done

def openInSafari (url : Url) (completion : String → SearchProgram Url) : SearchProgram Url :=
  .send (.openInSafari url) (openInSafariHandler completion) .done

end ApiManager

namespace SearchMoviesViewController

variable {Url : Type} (URL : String → Option Url)

def update (f : SearchScreen → SearchScreen) : SearchProgram Url := .modify f

/-- `DispatchQueue.main.async` -/
def mainAsync (name : MainBlock) (block : SearchProgram Url) : SearchProgram Url :=
  .send (.main name) (fun _ => block) .done

/-- `text.replacingOccurrences(of: " ", with: "%20")` -/
def escaped (text : String) : String :=
  String.ofList (text.toList.flatMap (fun c => if c = ' ' then "%20".toList else [c]))

def searchURL (text : String) : String :=
  "https://api.themoviedb.org/3/search/movie?api_key=" ++ API_KEY ++
    "&language=en-US&page=1&include_adult=false&query=" ++ escaped text

def reloadData (screen : SearchScreen) : SearchScreen :=
  { screen with rowCount := screen.movies.length }

def reload : SearchProgram Url :=
  update (fun screen => reloadData
    (if screen.movies ≠ [] then { screen with imageIsHidden := true } else screen))

def appendMovies (movies : List Movie) : SearchProgram Url :=
  update (fun screen => { screen with movies := screen.movies ++ movies }) ++
    mainAsync .reload reload

def searchMovies : SearchProgram Url :=
  .read (fun screen =>
    if screen.textFieldInput = "" then .done
    else
      update (fun screen => { screen with movies := [] }) ++
      match URL (searchURL screen.textFieldInput) with
      | none => .done
      | some url => ApiManager.searchMovies screen.edits url appendMovies)

/-- The text field has the new text when its target is called. -/
def textFieldDidChange (text : String) : SearchProgram Url :=
  update (fun screen => { screen with textFieldInput := text, edits := screen.edits + 1 }) ++
  searchMovies URL

/-- The film of the cell; the subscript traps when there is none. -/
def cellForRowAt (screen : SearchScreen) (row : ℕ) : Option Movie := screen.movies[row]?

def presentSafari (url : String) : SearchProgram Url :=
  update (fun screen => { screen with presented := url :: screen.presented })

def movieURL (movie : Movie) : String :=
  "https://api.themoviedb.org/3/movie/" ++ toString movie.id ++ "?api_key=" ++ API_KEY

/-- The program of a tap; the subscript traps when there is no film. -/
def didSelectRowAt (screen : SearchScreen) (row : ℕ) : Option (SearchProgram Url) :=
  screen.movies[row]?.map (fun movie =>
    match URL (movieURL movie) with
    | none => .done
    | some url => ApiManager.openInSafari url (fun imdbID =>
        mainAsync .presentSafari (presentSafari ("https://www.imdb.com/title/" ++ imdbID))))

end SearchMoviesViewController

end GiveMeMovies
