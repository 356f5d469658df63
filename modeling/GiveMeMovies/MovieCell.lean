import Mathlib.Data.List.Nodup
import GiveMeMovies.SearchMoviesController

/-!
# The posters of a movie cell

A cell of the table view is used for one movie after another. Every update may ask for a poster, the
image that arrives is assigned on the main queue, and the cell keeps no record of which movie an
assignment is for.
-/

namespace GiveMeMovies

/-- Foundation and UIKit, as far as a cell uses them, with the image that the cell has from its
nib. -/
structure CellPlatform (Image Data Url : Type) where
  URL : String → Option Url
  uiImage : Data → Option Image
  yearOfDate : String → Option String
  splashBackground : Image

structure MovieTableViewCell (Image : Type) where
  movieTitle : Option String
  movieYear : Option String
  overview : Option String
  moviePoster : Option Image
  updates : ℕ

/-- The data of a poster, and a block on the main queue. The number of the update only tells the
requests of a cell apart. -/
inductive CellRequest (Image Url : Type) where
  | getMoviePoster (update : ℕ) (url : Url)
  | main (update : ℕ) (img : Option Image)

@[reducible] def CellRequest.Response (Data : Type) {Image Url : Type} :
    CellRequest Image Url → Type
  | getMoviePoster _ _ => Option Data
  | main _ _ => Unit

abbrev CellProgram (Image Data Url : Type) :=
  Callback.Prog (MovieTableViewCell Image) (CellRequest Image Url) (CellRequest.Response Data)

abbrev CellPending (Image Data Url : Type) :=
  Callback.Pending (MovieTableViewCell Image) (CellRequest Image Url) (CellRequest.Response Data)

namespace MovieTableViewCell

variable {Image Data Url : Type} (ios : CellPlatform Image Data Url)

/-- The completion of `getMoviePoster` is told the image, if the data is one. -/
def poster (data : Option Data) : Option Image := data.bind ios.uiImage

def getMoviePoster (update : ℕ) (url : Url)
    (completion : Option Image → CellProgram Image Data Url) : CellProgram Image Data Url :=
  .request (.getMoviePoster update url) (fun data => completion (poster ios data))

def setPoster (img : Option Image) : CellProgram Image Data Url :=
  .modify (fun cell => { cell with moviePoster := img })

/-- `DispatchQueue.main.async` -/
def assignPoster (update : ℕ) (img : Option Image) : CellProgram Image Data Url :=
  .request (.main update img) (fun _ => setPoster img)

def showYear (releaseDate : String) : String := (ios.yearOfDate releaseDate).getD "N/A"

def posterURL (model : Movie) : Option Url :=
  ios.URL ("https://image.tmdb.org/t/p/original/" ++ model.poster_path.getD "")

def setTexts (model : Movie) (cell : MovieTableViewCell Image) : MovieTableViewCell Image :=
  { cell with
    movieTitle := model.title
    overview := some ("Description: " ++ model.overview.getD "N/A")
    movieYear := some ("Year: " ++ showYear ios (model.release_date.getD "N/A"))
    updates := cell.updates + 1 }

/-- `update(with:)` -/
def update (model : Movie) : CellProgram Image Data Url :=
  .modify (setTexts ios model) ++
  .read (fun cell =>
    match posterURL ios model with
    | some posterURL => getMoviePoster ios cell.updates posterURL (assignPoster cell.updates)
    | none => .done)

end MovieTableViewCell

namespace MovieCell

open MovieTableViewCell

variable {Image Data Url : Type} (ios : CellPlatform Image Data Url)

/-- The table view gives the cell to another movie. -/
inductive Act where
  | update (model : Movie)

def act : Act → MovieTableViewCell Image → Option (CellProgram Image Data Url)
  | .update model, _ => some (MovieTableViewCell.update ios model)

/-- The data task fails, or receives data. -/
inductive Outcome (Data : Type) where
  | failed
  | data (data : Data)

def service (Image Data Url : Type) : Callback.Service Unit (MovieTableViewCell Image)
    (CellRequest Image Url) (CellRequest.Response Data) (Outcome Data) where
  reply
    | .getMoviePoster _ _, .data data, _ => some data
    | .getMoviePoster _ _, .failed, _ => none
    | .main _ _, _, _ => ()
  commit _ _ server := server
  receive _ _ cell := cell

abbrev Event (Data : Type) := Callback.Event Act (Outcome Data)

abbrev World (Image Data Url : Type) :=
  Callback.World Unit (MovieTableViewCell Image) (CellRequest Image Url)
    (CellRequest.Response Data)

abbrev Entry (Image Data Url : Type) :=
  Callback.Entry (CellRequest Image Url) (CellRequest.Response Data)

abbrev step : World Image Data Url → Event Data → Option (World Image Data Url) :=
  Callback.step (service Image Data Url) (act ios)

/-- A cell from the nib. -/
def start : World Image Data Url := .start () ⟨none, none, none, some ios.splashBackground, 0⟩

/-! ## The poster of the last update -/

/-- The outcome of the request of an update, in the response that it received. -/
def outcomeIn (update : ℕ) : Entry Image Data Url → Option (Option Image)
  | ⟨.getMoviePoster n _, data⟩ => if n = update then some (poster ios data) else none
  | ⟨.main _ _, _⟩ => none

def outcomeOf (w : World Image Data Url) (update : ℕ) : Option (Option Image) :=
  w.journal.findSome? (outcomeIn ios update)

/-- The image shows the outcome of the request of the last update, and nothing if there was no such
request. -/
def ShowsLast (w : World Image Data Url) : Prop :=
  w.client.moviePoster = (outcomeOf ios w w.client.updates).join

/-- Once no poster is awaited, an updated cell shows the poster of its last update. -/
def EndsWithOwn (w : World Image Data Url) : Prop :=
  0 < w.client.updates → w.inFlight = [] → ShowsLast ios w

def updateOf : CellRequest Image Url → ℕ
  | .getMoviePoster update _ | .main update _ => update

/-- A movie without a poster request comes to an empty image, if nothing is awaited, and the
assignment that lands last is the one of the last update, or assigns the same image. -/
def Admitted (w : World Image Data Url) : Event Data → Prop
  | .act (.update model) =>
      posterURL ios model = none → w.inFlight = [] → w.client.moviePoster = none
  | .complete _ _ => ∀ p img k, w.inFlight = [p] → p.call = .main k img →
      k = w.client.updates ∨ img = (outcomeOf ios w w.client.updates).join

/-! ## Steps -/

/-- What a cell can have in flight. -/
inductive Issued : CellPending Image Data Url → Prop
  | poster (n : ℕ) (url : Url) :
      Issued ⟨.getMoviePoster n url, fun data => assignPoster n (poster ios data)⟩
  | assignment (n : ℕ) (img : Option Image) : Issued ⟨.main n img, fun _ => setPoster img⟩

theorem run_update (model : Movie) (cell : MovieTableViewCell Image) :
    (MovieTableViewCell.update ios model).run cell = (setTexts ios model cell,
      ((posterURL ios model).map (fun url =>
        (⟨.getMoviePoster (cell.updates + 1) url,
          fun data => assignPoster (cell.updates + 1) (poster ios data)⟩ :
            CellPending Image Data Url))).toList) := by
  unfold MovieTableViewCell.update
  rw [Callback.Prog.run_append, Callback.Prog.run_modify, Callback.Prog.run_read]
  cases posterURL ios model with
  | none => rfl
  | some url => rfl

/-- The steps of a cell whose requests are issued ones. -/
inductive Stepped (w : World Image Data Url) : Event Data → World Image Data Url → Prop
  | requested (model : Movie) (url : Url) (hurl : posterURL ios model = some url) :
      Stepped w (.act (.update model))
        { w with
          client := setTexts ios model w.client
          inFlight := w.inFlight ++ [⟨.getMoviePoster (w.client.updates + 1) url,
            fun data => assignPoster (w.client.updates + 1) (poster ios data)⟩] }
  | unrequested (model : Movie) (hurl : posterURL ios model = none) :
      Stepped w (.act (.update model)) { w with client := setTexts ios model w.client }
  | answered (n k : ℕ) (url : Url) (outcome : Outcome Data) (data : Option Data)
      (hp : w.inFlight[n]? = some
        ⟨.getMoviePoster k url, fun data => assignPoster k (poster ios data)⟩) :
      Stepped w (.complete n outcome)
        { w with
          inFlight := w.inFlight.eraseIdx n ++
            [⟨.main k (poster ios data), fun _ => setPoster (poster ios data)⟩]
          journal := w.journal ++ [⟨.getMoviePoster k url, data⟩] }
  | assigned (n k : ℕ) (img : Option Image) (outcome : Outcome Data)
      (hp : w.inFlight[n]? = some ⟨.main k img, fun _ => setPoster img⟩) :
      Stepped w (.complete n outcome)
        { w with
          client := { w.client with moviePoster := img }
          inFlight := w.inFlight.eraseIdx n
          journal := w.journal ++ [⟨.main k img, ()⟩] }

variable {ios} {w w' : World Image Data Url} {e : Event Data}

theorem stepped_of_step (hissued : ∀ p ∈ w.inFlight, Issued ios p)
    (hstep : step ios w e = some w') : Stepped ios w e w' := by
  cases e with
  | act e =>
      obtain ⟨p, hp, rfl⟩ := (Callback.step_act (service Image Data Url) (act ios)).mp hstep
      obtain ⟨model⟩ := e
      cases hp
      have hrun := run_update ios model w.client
      cases hurl : posterURL ios model with
      | none =>
          rw [hurl] at hrun
          rw [Callback.World.exec, hrun, Option.map_none, Option.toList_none, List.append_nil]
          exact .unrequested model hurl
      | some url =>
          rw [hurl] at hrun
          rw [Callback.World.exec, hrun]
          exact .requested model url hurl
  | complete n outcome =>
      obtain ⟨p, hp, rfl⟩ := (Callback.step_complete (service Image Data Url) (act ios)).mp hstep
      cases hissued p (List.mem_of_getElem? hp) with
      | poster k url => exact .answered n k url outcome _ hp
      | assignment k img =>
          have hassigned : Stepped ios w (.complete n outcome) _ := .assigned n k img outcome hp
          rw [← List.append_nil (w.inFlight.eraseIdx n)] at hassigned
          exact hassigned

/-- Every update has at most one request in flight, and its outcome is the last one known. -/
structure Tracked (ios : CellPlatform Image Data Url) (w : World Image Data Url) : Prop where
  issued : ∀ p ∈ w.inFlight, Issued ios p
  numbered : ∀ p ∈ w.inFlight, 0 < updateOf p.call ∧ updateOf p.call ≤ w.client.updates
  nodup : (w.inFlight.map (fun p => updateOf p.call)).Nodup
  unanswered : ∀ p ∈ w.inFlight, ∀ n url, p.call = .getMoviePoster n url →
    outcomeOf ios w n = none
  known : ∀ p ∈ w.inFlight, ∀ n img, p.call = .main n img → outcomeOf ios w n = some img
  fresh : ∀ n, w.client.updates < n → outcomeOf ios w n = none

theorem outcomeOf_known {k : ℕ} {img : Option Image} {entry : Entry Image Data Url}
    (hknown : outcomeOf ios w k = some img) (hjournal : w'.journal = w.journal ++ [entry]) :
    outcomeOf ios w' k = some img := by
  have hfind : w.journal.findSome? (outcomeIn ios k) = some img := hknown
  rw [outcomeOf, hjournal, List.findSome?_append, hfind, Option.some_or]

theorem outcomeOf_answer {k n : ℕ} {url : Url} {data : Option Data}
    (hunknown : outcomeOf ios w n = none)
    (hjournal : w'.journal = w.journal ++ [⟨.getMoviePoster k url, data⟩]) :
    outcomeOf ios w' n = if k = n then some (poster ios data) else none := by
  have hfind : w.journal.findSome? (outcomeIn ios n) = none := hunknown
  rw [outcomeOf, hjournal, List.findSome?_append, hfind, Option.none_or, List.findSome?_singleton]
  rfl

theorem outcomeOf_assignment {k : ℕ} {img : Option Image}
    (hjournal : w'.journal = w.journal ++ [⟨.main k img, ()⟩]) (n : ℕ) :
    outcomeOf ios w' n = outcomeOf ios w n := by
  rw [outcomeOf, hjournal, List.findSome?_append, List.findSome?_singleton]
  exact Option.or_none

theorem Tracked.nodup_erased (h : Tracked ios w) {n : ℕ} {p : CellPending Image Data Url}
    (hp : w.inFlight[n]? = some p) :
    (updateOf p.call :: (w.inFlight.eraseIdx n).map (fun p => updateOf p.call)).Nodup := by
  have hperm := (Callback.World.perm_eraseIdx hp).map (fun p => updateOf p.call)
  exact hperm.nodup_iff.mp h.nodup

/-- No other request in flight has the number of the request at place `n`. -/
theorem Tracked.number_ne (h : Tracked ios w) {n : ℕ} {p q : CellPending Image Data Url}
    (hp : w.inFlight[n]? = some p) (hq : q ∈ w.inFlight.eraseIdx n) :
    updateOf p.call ≠ updateOf q.call := by
  intro heq
  apply (List.nodup_cons.mp (h.nodup_erased hp)).1
  rw [heq]
  exact List.mem_map_of_mem hq

theorem Tracked.requested (h : Tracked ios w) (model : Movie) (url : Url) :
    Tracked ios { w with
      client := setTexts ios model w.client
      inFlight := w.inFlight ++ [⟨.getMoviePoster (w.client.updates + 1) url,
        fun data => assignPoster (w.client.updates + 1) (poster ios data)⟩] } := by
  have hnew : w.client.updates < w.client.updates + 1 := Nat.lt_succ_self _
  constructor
  · rw [List.forall_mem_append, List.forall_mem_singleton]
    exact ⟨h.issued, .poster _ url⟩
  · rw [List.forall_mem_append, List.forall_mem_singleton]
    refine ⟨?_, Nat.succ_pos _, Nat.le_refl _⟩
    intro p hp
    have hnumber := h.numbered p hp
    exact ⟨hnumber.1, Nat.le_succ_of_le hnumber.2⟩
  · rw [List.map_append, List.nodup_append]
    refine ⟨h.nodup, List.nodup_singleton _, ?_⟩
    intro n hn m hm
    obtain ⟨p, hp, rfl⟩ := List.mem_map.mp hn
    have hnumber := (h.numbered p hp).2
    rw [List.mem_singleton.mp hm]
    exact Nat.ne_of_lt (Nat.lt_succ_of_le hnumber)
  · rw [List.forall_mem_append, List.forall_mem_singleton]
    refine ⟨h.unanswered, ?_⟩
    intro n url' hcall
    cases hcall
    exact h.fresh _ hnew
  · rw [List.forall_mem_append, List.forall_mem_singleton]
    refine ⟨h.known, ?_⟩
    intro n img hcall
    cases hcall
  · intro n hn
    exact h.fresh n (Nat.lt_trans hnew hn)

theorem Tracked.unrequested (h : Tracked ios w) (model : Movie) :
    Tracked ios { w with client := setTexts ios model w.client } := by
  have hnew : w.client.updates < w.client.updates + 1 := Nat.lt_succ_self _
  refine ⟨h.issued, ?_, h.nodup, h.unanswered, h.known, ?_⟩
  · intro p hp
    have hnumber := h.numbered p hp
    exact ⟨hnumber.1, Nat.le_succ_of_le hnumber.2⟩
  · intro n hn
    exact h.fresh n (Nat.lt_trans hnew hn)

theorem Tracked.answered (h : Tracked ios w) {n k : ℕ} {url : Url} (data : Option Data)
    (hp : w.inFlight[n]? = some
      ⟨.getMoviePoster k url, fun data => assignPoster k (poster ios data)⟩)
    (hw' : w' = { w with
      inFlight := w.inFlight.eraseIdx n ++
        [⟨.main k (poster ios data), fun _ => setPoster (poster ios data)⟩]
      journal := w.journal ++ [⟨.getMoviePoster k url, data⟩] }) : Tracked ios w' := by
  have hjournal : w'.journal = w.journal ++ [⟨.getMoviePoster k url, data⟩] := by rw [hw']
  have hflight : w'.inFlight = w.inFlight.eraseIdx n ++
      [⟨.main k (poster ios data), fun _ => setPoster (poster ios data)⟩] := by rw [hw']
  have hclient : w'.client = w.client := by rw [hw']
  have hmem := List.mem_of_getElem? hp
  have hnumber : 0 < k ∧ k ≤ w.client.updates := h.numbered _ hmem
  have hunknown := h.unanswered _ hmem k url rfl
  constructor
  · rw [hflight, List.forall_mem_append, List.forall_mem_singleton]
    exact ⟨fun p hq => h.issued p (List.mem_of_mem_eraseIdx hq), .assignment k _⟩
  · rw [hflight, hclient, List.forall_mem_append, List.forall_mem_singleton]
    exact ⟨fun p hq => h.numbered p (List.mem_of_mem_eraseIdx hq), hnumber⟩
  · rw [hflight, List.map_append]
    exact (List.perm_append_singleton k _).nodup_iff.mpr (h.nodup_erased hp)
  · rw [hflight, List.forall_mem_append, List.forall_mem_singleton]
    refine ⟨?_, fun m url' hcall => by cases hcall⟩
    intro p hq m url' hcall
    have hne := h.number_ne hp hq
    rw [hcall] at hne
    have hpending := h.unanswered p (List.mem_of_mem_eraseIdx hq) m url' hcall
    rw [outcomeOf_answer hpending hjournal]
    exact if_neg hne
  · rw [hflight, List.forall_mem_append, List.forall_mem_singleton]
    constructor
    · intro p hq m img hcall
      exact outcomeOf_known (h.known p (List.mem_of_mem_eraseIdx hq) m img hcall) hjournal
    · intro m img hcall
      cases hcall
      rw [outcomeOf_answer hunknown hjournal, if_pos rfl]
  · intro m hm
    rw [hclient] at hm
    have hne : k ≠ m := Nat.ne_of_lt (Nat.lt_of_le_of_lt hnumber.2 hm)
    rw [outcomeOf_answer (h.fresh m hm) hjournal, if_neg hne]

theorem Tracked.assigned (h : Tracked ios w) {n k : ℕ} {img : Option Image}
    (hp : w.inFlight[n]? = some ⟨.main k img, fun _ => setPoster img⟩)
    (hw' : w' = { w with
      client := { w.client with moviePoster := img }
      inFlight := w.inFlight.eraseIdx n
      journal := w.journal ++ [⟨.main k img, ()⟩] }) : Tracked ios w' := by
  have hjournal : w'.journal = w.journal ++ [⟨.main k img, ()⟩] := by rw [hw']
  have hflight : w'.inFlight = w.inFlight.eraseIdx n := by rw [hw']
  have hupdates : w'.client.updates = w.client.updates := by rw [hw']
  constructor
  · intro p hq
    rw [hflight] at hq
    exact h.issued p (List.mem_of_mem_eraseIdx hq)
  · intro p hq
    rw [hflight] at hq
    rw [hupdates]
    exact h.numbered p (List.mem_of_mem_eraseIdx hq)
  · rw [hflight]
    exact (List.nodup_cons.mp (h.nodup_erased hp)).2
  · intro p hq m url hcall
    rw [hflight] at hq
    rw [outcomeOf_assignment hjournal]
    exact h.unanswered p (List.mem_of_mem_eraseIdx hq) m url hcall
  · intro p hq m img' hcall
    rw [hflight] at hq
    rw [outcomeOf_assignment hjournal]
    exact h.known p (List.mem_of_mem_eraseIdx hq) m img' hcall
  · intro m hm
    rw [hupdates] at hm
    rw [outcomeOf_assignment hjournal]
    exact h.fresh m hm

theorem tracked_step (h : Tracked ios w) (hstep : step ios w e = some w') : Tracked ios w' := by
  cases stepped_of_step h.issued hstep with
  | requested model url hurl => exact h.requested model url
  | unrequested model hurl => exact h.unrequested model
  | answered n k url outcome data hp => exact h.answered data hp rfl
  | assigned n k img outcome hp => exact h.assigned hp rfl

theorem tracked_start : Tracked ios (start ios : World Image Data Url) := by
  constructor
  case nodup => exact List.nodup_nil
  case fresh =>
    intro n _
    rfl
  all_goals
    intro p hp
    cases hp

theorem endsWithOwn_assigned (h : Tracked ios w) {n k : ℕ} {img : Option Image}
    (outcome : Outcome Data) (hp : w.inFlight[n]? = some ⟨.main k img, fun _ => setPoster img⟩)
    (hw' : w' = { w with
      client := { w.client with moviePoster := img }
      inFlight := w.inFlight.eraseIdx n
      journal := w.journal ++ [⟨.main k img, ()⟩] }) :
    EndsWithOwn ios w' ↔ Admitted ios w (.complete n outcome) := by
  have hclient : w'.client = { w.client with moviePoster := img } := by rw [hw']
  have hflight : w'.inFlight = w.inFlight.eraseIdx n := by rw [hw']
  have houtcome : outcomeOf ios w' w.client.updates = outcomeOf ios w w.client.updates := by
    apply outcomeOf_assignment
    rw [hw']
  have hmem := List.mem_of_getElem? hp
  have hnumber : 0 < k ∧ k ≤ w.client.updates := h.numbered _ hmem
  have hperm := Callback.World.perm_eraseIdx hp
  rw [EndsWithOwn, ShowsLast, hclient, hflight, houtcome]
  constructor
  · intro hends p img' m hsingle hcall
    have hlength := hperm.length_eq
    rw [hsingle] at hmem hlength
    have hempty : w.inFlight.eraseIdx n = [] := by
      apply List.eq_nil_of_length_eq_zero
      simpa [hsingle] using hlength.symm
    rw [← List.mem_singleton.mp hmem] at hcall
    cases hcall
    exact Or.inr (hends (Nat.lt_of_lt_of_le hnumber.1 hnumber.2) hempty)
  · intro hadmitted _ hempty
    have hsingle : w.inFlight = [⟨.main k img, fun _ => setPoster img⟩] := by
      rw [hempty] at hperm
      exact List.perm_singleton.mp hperm
    rcases hadmitted _ img k hsingle rfl with hlast | himg
    · have hknown := h.known _ hmem k img rfl
      rw [← hlast, hknown]
      rfl
    · exact himg

/-- A step leads to a cell that shows its own poster exactly if it is admitted. -/
theorem endsWithOwn_step (h : Tracked ios w) (hstep : step ios w e = some w') :
    EndsWithOwn ios w' ↔ Admitted ios w e := by
  cases stepped_of_step h.issued hstep with
  | requested model url hurl =>
      constructor
      · intro _ hnone
        rw [hurl] at hnone
        cases hnone
      · intro _ _ hempty
        exact absurd hempty (List.append_ne_nil_of_right_ne_nil _ (List.cons_ne_nil _ _))
  | unrequested model hurl =>
      have hfresh : outcomeOf ios w (w.client.updates + 1) = none :=
        h.fresh _ (Nat.lt_succ_self _)
      constructor
      · intro hends _ hempty
        have hshows : w.client.moviePoster = (outcomeOf ios w (w.client.updates + 1)).join :=
          hends (Nat.succ_pos _) hempty
        rw [hshows, hfresh]
        rfl
      · intro hadmitted _ hempty
        change w.client.moviePoster = (outcomeOf ios w (w.client.updates + 1)).join
        rw [hfresh, hadmitted hurl hempty]
        rfl
  | answered n k url outcome data hp =>
      constructor
      · intro _ p img m hsingle hcall
        have hmem := List.mem_of_getElem? hp
        rw [hsingle] at hmem
        rw [← List.mem_singleton.mp hmem] at hcall
        cases hcall
      · intro _ _ hempty
        exact absurd hempty (List.append_ne_nil_of_right_ne_nil _ (List.cons_ne_nil _ _))
  | assigned n k img outcome hp => exact endsWithOwn_assigned h outcome hp rfl

/-- An updated cell shows the poster of its last update whenever no poster is awaited, exactly in
the runs in which no assignment for an earlier update lands last with another image, and no movie
without a request comes to an image that is left from before. -/
theorem endsWithOwn_iff_admitted (ios : CellPlatform Image Data Url) (es : List (Event Data)) :
    EventRun.AllStates (step ios) (EndsWithOwn ios) (start ios) es ↔
      EventRun.AllSteps (step ios) (Admitted ios) (start ios) es := by
  apply EventRun.allStates_iff_allSteps (I := Tracked ios)
  · intro w e w' htracked hstep
    exact tracked_step htracked hstep
  · intro w e w' htracked _ hstep
    exact endsWithOwn_step htracked hstep
  · exact tracked_start
  · intro hupdated
    cases hupdated

/-- A device on which the text of a URL is its own data and image. -/
def device : CellPlatform String String String where
  URL := some
  uiImage := some
  yearOfDate date := (date.splitOn "-").head?
  splashBackground := "splashBackground"

def casablanca : Movie :=
  ⟨some "Casablanca", 289, some "1943-01-15", some "/casablanca.jpg", none⟩

def vertigo : Movie := ⟨some "Vertigo", 426, some "1958-05-28", some "/vertigo.jpg", none⟩

/-- The cell is given Casablanca and then Vertigo, whose poster is faster. -/
def overtaken : List (Event String) :=
  [.act (.update casablanca), .act (.update vertigo), .complete 1 (.data "Vertigo"),
    .complete 1 .failed, .complete 0 (.data "Casablanca"), .complete 0 .failed]

theorem overtaken_poster_kept :
    ¬ EventRun.AllStates (step device) (EndsWithOwn device) (start device) overtaken := by
  intro hall
  have hends := hall.last rfl
  have hshows : some "Casablanca" = some "Vertigo" := hends (Nat.succ_pos _) rfl
  exact absurd hshows (by decide)

end MovieCell

end GiveMeMovies
