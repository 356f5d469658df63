import Mathlib.Data.List.DropRight
import GiveMeMovies.SearchMoviesController

/-!
# Runs of the search screen

Edits, responses in any order, reloads on the main queue, scrolling and taps. The list holds
what has arrived since the last edit that cleared it, whichever request it answers, and the
table view keeps its row count over such an edit.
-/

namespace GiveMeMovies.SearchResults

open SearchMoviesViewController
open scoped List

variable {Url : Type} (URL : String → Option Url)

inductive Act where
  | edit (text : String)
  | cell (row : ℕ)
  | tap (row : ℕ)

/-- The table view asks for rows below its row count only. A subscript that traps ends the
process, so the act is not possible. -/
def act : Act → SearchScreen → Option (SearchProgram Url)
  | .edit text, _ => some (textFieldDidChange URL text)
  | .cell row, screen =>
      if row < screen.rowCount then (cellForRowAt screen row).map (fun _ => .done) else none
  | .tap row, screen => if row < screen.rowCount then didSelectRowAt URL screen row else none

inductive Outcome where
  | failed
  | movies (movies : List Movie)
  | movieID (imdbID : String)

def service (Url : Type) : Callback.Service Unit SearchScreen (SearchRequest Url)
    SearchRequest.Response Outcome where
  reply
    | .searchMovies _ _, .movies movies, _ => some movies
    | .searchMovies _ _, _, _ => none
    | .openInSafari _, .movieID imdbID, _ => some imdbID
    | .openInSafari _, _, _ => none
    | .main _, _, _ => ()
  commit _ _ server := server
  receive _ _ screen := screen

abbrev Event := Callback.Event Act Outcome

abbrev World (Url : Type) :=
  Callback.World Unit SearchScreen (SearchRequest Url) SearchRequest.Response

abbrev step : World Url → Event → Option (World Url) := Callback.step (service Url) (act URL)

def start : World Url := .start () {}

/-! ## What happened -/

inductive Happening where
  | edited (text : String)
  | received (edit : ℕ) (result : Option (List Movie))
  | reloaded
  | other

def happening (w : World Url) : Event → Happening
  | .act (.edit text) => .edited text
  | .act _ => .other
  | .complete n outcome =>
      match w.inFlight[n]? with
      | some ⟨.searchMovies edit url, _⟩ =>
          .received edit ((service Url).reply (.searchMovies edit url) outcome ())
      | some ⟨.main .reload, _⟩ => .reloaded
      | _ => .other

abbrev Log := List Happening

def history (es : List Event) : Log := EventRun.observe (step URL) happening start es

namespace Happening

def isEdit : Happening → Bool
  | edited _ => true
  | _ => false

/-- An edit that leaves the field empty returns before it clears the list. -/
def clears : Happening → Bool
  | edited text => text ≠ ""
  | _ => false

def isReload : Happening → Bool
  | reloaded => true
  | _ => false

def movies : Happening → List Movie
  | received _ result => result.getD []
  | _ => []

def answers : Happening → Option ℕ
  | received edit _ => some edit
  | _ => none

end Happening

open Happening

def edits (h : Log) : ℕ := h.countP isEdit

/-- What happened after the last edit that cleared the list. -/
def sinceClear (h : Log) : Log := h.rtakeWhile (fun x => !x.clears)

def sinceReload (h : Log) : Log := h.rtakeWhile (fun x => !x.isReload)

/-- `movies` is what the query of the last edit returned, or empty when it returned nothing. -/
structure Latest (h : Log) (movies : List Movie) : Prop where
  returned : ∀ result, received (edits h) (some result) ∈ h → movies = result
  otherwise : (∀ result, received (edits h) (some result) ∉ h) → movies = []

/-- Whatever arrived since the list was cleared answers the last edit or is empty. -/
def NoneLate (h : Log) : Prop :=
  ∀ edit result, received edit (some result) ∈ sinceClear h → edit ≠ edits h → result = []

/-- The list was cleared after the table view was last reloaded. -/
def Cleared (h : Log) : Prop := ∃ x ∈ sinceReload h, x.clears = true

theorem edits_concat (h : Log) (x : Happening) :
    edits (h ++ [x]) = edits h + if x.isEdit then 1 else 0 := by
  simp [edits, List.countP_append, List.countP_singleton]

theorem sinceClear_concat (h : Log) (x : Happening) :
    sinceClear (h ++ [x]) = if x.clears then [] else sinceClear h ++ [x] := by
  rw [sinceClear, List.rtakeWhile_concat]
  cases x.clears <;> rfl

theorem cleared_concat (h : Log) (x : Happening) :
    Cleared (h ++ [x]) ↔ x.isReload = false ∧ (x.clears = true ∨ Cleared h) := by
  rw [Cleared, sinceReload, List.rtakeWhile_concat]
  cases hx : x.isReload with
  | true => simp
  | false =>
      simp only [Bool.not_false, if_true, List.mem_append, List.mem_singleton, true_and]
      constructor
      · rintro ⟨y, hy | rfl, hc⟩
        · exact Or.inr ⟨y, hy, hc⟩
        · exact Or.inl hc
      · rintro (hc | ⟨y, hy, hc⟩)
        · exact ⟨x, Or.inr rfl, hc⟩
        · exact ⟨y, Or.inl hy, hc⟩

theorem mem_of_mem_sinceClear {h : Log} {x : Happening} (hx : x ∈ sinceClear h) : x ∈ h :=
  (List.rtakeWhile_suffix _ h).subset hx

/-! ## The screen follows the log -/

/-- The number of the edit that sent the request, if it is a search. -/
def label (p : SearchPending Url) : Option ℕ :=
  match p.call with
  | .searchMovies edit _ => some edit
  | _ => none

inductive Issued : SearchPending Url → Prop
  | search (edit : ℕ) (url : Url) :
      Issued ⟨.searchMovies edit url, ApiManager.searchMoviesHandler appendMovies⟩
  | reload : Issued ⟨.main .reload, fun _ => reload⟩
  | openInSafari (url : Url) :
      Issued ⟨.openInSafari url, ApiManager.openInSafariHandler (fun imdbID =>
        mainAsync .presentSafari (presentSafari ("https://www.imdb.com/title/" ++ imdbID)))⟩
  | presentSafari (url : String) :
      Issued ⟨.main .presentSafari, fun _ => SearchMoviesViewController.presentSafari url⟩

structure Tracked (h : Log) (w : World Url) : Prop where
  edits : w.client.edits = edits h
  movies : w.client.movies = (sinceClear h).flatMap Happening.movies
  rowCount : ¬ Cleared h → w.client.rowCount ≤ w.client.movies.length
  labels : (w.inFlight.filterMap label ++ h.filterMap answers).Nodup
  bound : ∀ edit ∈ w.inFlight.filterMap label ++ h.filterMap answers,
    edit ≤ SearchResults.edits h
  own : ∀ result, received (SearchResults.edits h) result ∈ h →
    received (SearchResults.edits h) result ∈ sinceClear h

/-- A happening `x` turns the world `w` into `w'`, sending the searches numbered `sent`. -/
structure Turns (x : Happening) (sent : List ℕ) (w w' : World Url) : Prop where
  edits : w'.client.edits = w.client.edits + if x.isEdit then 1 else 0
  movies : w'.client.movies = if x.clears then [] else w.client.movies ++ x.movies
  rowCount : w'.client.rowCount =
    if x.isReload then w'.client.movies.length else w.client.rowCount
  labels : (w'.inFlight.filterMap label ++ x.answers.toList).Perm
    (w.inFlight.filterMap label ++ sent)
  sent : sent = [] ∨ x.isEdit = true ∧ sent = [w'.client.edits]

theorem isEdit_of_clears {x : Happening} (h : x.clears = true) : x.isEdit = true := by
  cases x with
  | edited text => rfl
  | _ => cases h

theorem mem_answers {h : Log} {edit : ℕ} {result : Option (List Movie)}
    (hr : received edit result ∈ h) : edit ∈ h.filterMap answers :=
  List.mem_filterMap.mpr ⟨_, hr, rfl⟩

theorem Turns.labels_perm {h : Log} {w w' : World Url} {x : Happening} {sent : List ℕ}
    (hx : Turns x sent w w') :
    (w'.inFlight.filterMap label ++ (h ++ [x]).filterMap answers).Perm
      (sent ++ (w.inFlight.filterMap label ++ h.filterMap answers)) := by
  have hlog : (h ++ [x]).filterMap answers = h.filterMap answers ++ x.answers.toList := by
    rw [List.filterMap_append]
    cases x <;> rfl
  rw [hlog]
  calc w'.inFlight.filterMap label ++ (h.filterMap answers ++ x.answers.toList)
      ~ w'.inFlight.filterMap label ++ (x.answers.toList ++ h.filterMap answers) :=
        List.perm_append_comm.append_left _
    _ = (w'.inFlight.filterMap label ++ x.answers.toList) ++ h.filterMap answers :=
        (List.append_assoc _ _ _).symm
    _ ~ (w.inFlight.filterMap label ++ sent) ++ h.filterMap answers :=
        hx.labels.append_right _
    _ ~ (sent ++ w.inFlight.filterMap label) ++ h.filterMap answers :=
        List.perm_append_comm.append_right _
    _ = sent ++ (w.inFlight.filterMap label ++ h.filterMap answers) := List.append_assoc _ _ _

theorem Tracked.edits_snoc {h : Log} {w w' : World Url} {x : Happening} {sent : List ℕ}
    (t : Tracked h w) (hx : Turns x sent w w') :
    w'.client.edits = SearchResults.edits (h ++ [x]) := by
  rw [edits_concat, ← t.edits, hx.edits]

/-- A search that is sent carries the number of the edit that sends it. -/
theorem Tracked.sent_fresh {h : Log} {w w' : World Url} {x : Happening} {sent : List ℕ}
    (t : Tracked h w) (hx : Turns x sent w w') {edit : ℕ} (he : edit ∈ sent) :
    edit = SearchResults.edits (h ++ [x]) ∧ SearchResults.edits h < edit := by
  have hedits := t.edits_snoc hx
  rcases hx.sent with hs | ⟨hedit, hs⟩
  · rw [hs] at he
    exact absurd he List.not_mem_nil
  · rw [hs, List.mem_singleton] at he
    rw [edits_concat, hedit, if_pos rfl] at hedits
    rw [edits_concat, hedit, if_pos rfl]
    omega

theorem Tracked.rowCount_snoc {h : Log} {w w' : World Url} {x : Happening} {sent : List ℕ}
    (t : Tracked h w) (hx : Turns x sent w w') (hc : ¬ Cleared (h ++ [x])) :
    w'.client.rowCount ≤ w'.client.movies.length := by
  rw [cleared_concat, not_and_or, not_or] at hc
  by_cases hr : x.isReload = true
  · rw [hx.rowCount, if_pos hr]
  · have hnot : ¬ x.clears = true ∧ ¬ Cleared h := by
      rcases hc with hc | hc
      · exact absurd (by simpa using hr) hc
      · exact hc
    rw [hx.rowCount, if_neg hr, hx.movies, if_neg hnot.1, List.length_append]
    have hrow := t.rowCount hnot.2
    omega

/-- An answer to the search of the last edit came after that edit. -/
theorem Tracked.own_snoc {h : Log} {w : World Url} (t : Tracked h w) {x : Happening}
    {result : Option (List Movie)}
    (hr : received (SearchResults.edits (h ++ [x])) result ∈ h ++ [x]) :
    received (SearchResults.edits (h ++ [x])) result ∈ sinceClear (h ++ [x]) := by
  have hmem := List.mem_append.mp hr
  by_cases hedit : x.isEdit = true
  · exfalso
    rw [edits_concat, hedit, if_pos rfl] at hmem
    rcases hmem with hmem | hmem
    · have hbound := t.bound _ (List.mem_append_right _ (mem_answers hmem))
      omega
    · rw [← List.mem_singleton.mp hmem] at hedit
      cases hedit
  · have hsame : SearchResults.edits (h ++ [x]) = SearchResults.edits h := by
      rw [edits_concat, if_neg hedit, Nat.add_zero]
    rw [sinceClear_concat, if_neg (mt isEdit_of_clears hedit)]
    rw [hsame] at hmem ⊢
    rcases hmem with hmem | hmem
    · exact List.mem_append_left _ (t.own result hmem)
    · exact List.mem_append_right _ hmem

theorem Tracked.snoc {h : Log} {w w' : World Url} {x : Happening} {sent : List ℕ}
    (t : Tracked h w) (hx : Turns x sent w w') : Tracked (h ++ [x]) w' := by
  have hle : SearchResults.edits h ≤ SearchResults.edits (h ++ [x]) := by
    rw [edits_concat]
    omega
  have hperm := hx.labels_perm (h := h)
  constructor
  · exact t.edits_snoc hx
  · rw [hx.movies, sinceClear_concat, t.movies]
    cases x.clears with
    | true => rfl
    | false => simp
  · exact t.rowCount_snoc hx
  · rw [hperm.nodup_iff, List.nodup_append]
    refine ⟨?_, t.labels, ?_⟩
    · rcases hx.sent with hs | ⟨_, hs⟩
      · rw [hs]
        exact List.nodup_nil
      · rw [hs]
        exact List.pairwise_singleton _ _
    · intro edit he old hold heq
      have hlt := (t.sent_fresh hx he).2
      have hbound := t.bound old hold
      omega
  · intro edit he
    rcases List.mem_append.mp (hperm.mem_iff.mp he) with he | he
    · exact (t.sent_fresh hx he).1.le
    · exact (t.bound edit he).trans hle
  · intro result hr
    exact t.own_snoc hr

/-! ## Steps -/

theorem run_textFieldDidChange (text : String) (screen : SearchScreen) :
    (textFieldDidChange URL text).run screen =
      if text = "" then
        ({ screen with textFieldInput := text, edits := screen.edits + 1 }, [])
      else
        ({ screen with textFieldInput := text, edits := screen.edits + 1, movies := [] },
          ((URL (searchURL text)).map (fun url =>
            ⟨.searchMovies (screen.edits + 1) url,
              ApiManager.searchMoviesHandler appendMovies⟩)).toList) := by
  by_cases ht : text = ""
  · simp [textFieldDidChange, update, searchMovies, ht]
  · cases hu : URL (searchURL text) with
    | none => simp [textFieldDidChange, update, searchMovies, ht, hu]
    | some url => simp [textFieldDidChange, update, searchMovies, ht, hu, ApiManager.searchMovies]

theorem turns_edit (w : World Url) (text : String) :
    ∃ sent, Turns (.edited text) sent w (w.exec (textFieldDidChange URL text)) ∧
      ∀ p ∈ ((textFieldDidChange URL text).run w.client).2, Issued p := by
  have hrun := run_textFieldDidChange URL text w.client
  by_cases ht : text = ""
  · subst ht
    rw [if_pos rfl] at hrun
    refine ⟨[], ⟨?_, ?_, ?_, ?_, Or.inl rfl⟩, ?_⟩
    · simp [hrun, isEdit]
    · simp [hrun, clears, Happening.movies]
    · simp [hrun, isReload]
    · simp [hrun, answers]
    · simp [hrun]
  · rw [if_neg ht] at hrun
    cases hu : URL (searchURL text) with
    | none =>
        rw [hu] at hrun
        refine ⟨[], ⟨?_, ?_, ?_, ?_, Or.inl rfl⟩, ?_⟩
        · simp [hrun, isEdit]
        · simp [hrun, clears, ht]
        · simp [hrun, isReload]
        · simp [hrun, answers]
        · simp [hrun]
    | some url =>
        rw [hu] at hrun
        refine ⟨[w.client.edits + 1], ⟨?_, ?_, ?_, ?_, Or.inr ⟨rfl, ?_⟩⟩, ?_⟩
        · simp [hrun, isEdit]
        · simp [hrun, clears, ht]
        · simp [hrun, isReload]
        · simp [hrun, answers, label]
        · simp [hrun]
        · intro p hp
          rw [hrun] at hp
          rw [List.mem_singleton.mp hp]
          exact .search _ url

/-- A step that leaves the screen as it is and answers no search. -/
theorem turns_other {w w' : World Url} (hclient : w'.client.edits = w.client.edits)
    (hmovies : w'.client.movies = w.client.movies)
    (hrow : w'.client.rowCount = w.client.rowCount)
    (hlabels : (w'.inFlight.filterMap label).Perm (w.inFlight.filterMap label)) :
    Turns .other [] w w' := by
  refine ⟨hclient, ?_, hrow, ?_, Or.inl rfl⟩
  · simpa [clears, Happening.movies] using hmovies
  · simpa [answers] using hlabels

theorem exists_tap {w : World Url} {row : ℕ} {p : SearchProgram Url}
    (hp : act URL (.tap row) w.client = some p) :
    (p.run w.client).1 = w.client ∧ (p.run w.client).2.filterMap label = [] ∧
      ∀ q ∈ (p.run w.client).2, Issued q := by
  simp only [act] at hp
  split at hp
  · obtain ⟨movie, _, rfl⟩ := Option.map_eq_some_iff.mp hp
    cases URL (movieURL movie) with
    | none => simp
    | some url =>
        refine ⟨rfl, rfl, ?_⟩
        intro q hq
        rw [List.mem_singleton.mp hq]
        exact .openInSafari url
  · cases hp

theorem labels_eraseIdx {w : World Url} {n : ℕ} {p : SearchPending Url}
    (hp : w.inFlight[n]? = some p) :
    ((w.inFlight.eraseIdx n).filterMap label ++ (label p).toList).Perm
      (w.inFlight.filterMap label) := by
  have hperm := (Callback.World.perm_eraseIdx hp).filterMap label
  refine List.perm_append_comm.trans (List.Perm.trans ?_ hperm.symm)
  rw [List.filterMap_cons]
  cases label p <;> exact List.Perm.refl _

theorem turns_received {w : World Url} {n : ℕ} {edit : ℕ} {url : Url}
    (hp : w.inFlight[n]? = some ⟨.searchMovies edit url,
      ApiManager.searchMoviesHandler appendMovies⟩) (result : Option (List Movie)) :
    Turns (.received edit result) [] w (w.respond (service Url) n ⟨.searchMovies edit url,
        ApiManager.searchMoviesHandler appendMovies⟩ result) ∧
      ∀ q ∈ ((ApiManager.searchMoviesHandler appendMovies result : SearchProgram Url).run
        w.client).2, Issued q := by
  have hlabels := labels_eraseIdx hp
  cases result with
  | none =>
      refine ⟨⟨rfl, (List.append_nil _).symm, rfl, ?_, Or.inl rfl⟩, nofun⟩
      change ((w.inFlight.eraseIdx n ++ []).filterMap label ++ [edit]).Perm _
      rw [List.append_nil, List.append_nil]
      exact hlabels
  | some movies =>
      refine ⟨⟨rfl, rfl, rfl, ?_, Or.inl rfl⟩, ?_⟩
      · change ((w.inFlight.eraseIdx n ++
          ([⟨.main .reload, fun _ => reload⟩] : List (SearchPending Url))).filterMap label ++
          [edit]).Perm _
        rw [List.filterMap_append, List.append_nil]
        change (((w.inFlight.eraseIdx n).filterMap label ++ []) ++ [edit]).Perm _
        rw [List.append_nil]
        exact hlabels
      · intro q hq
        rw [List.mem_singleton.mp hq]
        exact .reload

variable (Url) in
theorem run_reload (screen : SearchScreen) : ∃ hidden,
    (reload : SearchProgram Url).run screen =
      ({ screen with imageIsHidden := hidden, rowCount := screen.movies.length }, []) := by
  by_cases hm : screen.movies = []
  · exact ⟨screen.imageIsHidden, by simp [reload, update, reloadData, hm]⟩
  · exact ⟨true, by simp [reload, update, reloadData, hm]⟩

theorem turns_reloaded {w : World Url} {n : ℕ}
    (hp : w.inFlight[n]? = some ⟨.main .reload, fun _ => reload⟩) :
    Turns .reloaded [] w (w.respond (service Url) n ⟨.main .reload, fun _ => reload⟩ ()) := by
  obtain ⟨hidden, hrun⟩ := run_reload Url w.client
  have hclient : (w.respond (service Url) n ⟨.main .reload, fun _ => reload⟩ ()).client =
      { w.client with imageIsHidden := hidden, rowCount := w.client.movies.length } :=
    congrArg Prod.fst hrun
  have hflight : (w.respond (service Url) n ⟨.main .reload, fun _ => reload⟩ ()).inFlight =
      w.inFlight.eraseIdx n ++ [] := congrArg (_ ++ ·.2) hrun
  refine ⟨?_, ?_, ?_, ?_, Or.inl rfl⟩
  · rw [hclient]
    rfl
  · rw [hclient]
    exact (List.append_nil _).symm
  · rw [hclient]
    rfl
  · rw [hflight, List.append_nil]
    exact (List.append_nil (w.inFlight.filterMap label)).symm ▸ labels_eraseIdx hp

theorem turns_complete {w : World Url} {n : ℕ} {outcome : Outcome} {p : SearchPending Url}
    (hp : w.inFlight[n]? = some p) (hissued : Issued p) :
    Turns (happening w (.complete n outcome)) [] w
        (w.respond (service Url) n p ((service Url).reply p.call outcome w.server)) ∧
      ∀ q ∈ ((p.handler ((service Url).reply p.call outcome w.server)).run w.client).2,
        Issued q := by
  have hlabels := labels_eraseIdx hp
  cases hissued with
  | search edit url =>
      have hx : happening w (.complete n outcome) =
          .received edit ((service Url).reply (.searchMovies edit url) outcome ()) := by
        simp only [happening, hp]
      rw [hx]
      exact turns_received hp _
  | reload =>
      have hx : happening w (.complete n outcome) = .reloaded := by
        simp only [happening, hp]
      rw [hx]
      obtain ⟨hidden, hrun⟩ := run_reload Url w.client
      refine ⟨turns_reloaded hp, fun q hq => ?_⟩
      rw [show ((reload : SearchProgram Url).run w.client).2 = [] from
        congrArg Prod.snd hrun] at hq
      exact absurd hq List.not_mem_nil
  | openInSafari url =>
      have hx : happening w (.complete n outcome) = .other := by
        simp only [happening, hp]
      rw [hx]
      have hsame : (label ⟨.openInSafari url, ApiManager.openInSafariHandler (fun imdbID =>
        mainAsync .presentSafari (SearchMoviesViewController.presentSafari
          ("https://www.imdb.com/title/" ++ imdbID)))⟩) = none := rfl
      rw [hsame] at hlabels
      cases (service Url).reply (.openInSafari url) outcome w.server with
      | none =>
          refine ⟨turns_other rfl rfl rfl ?_, nofun⟩
          change ((w.inFlight.eraseIdx n ++ []).filterMap label).Perm _
          rw [List.append_nil]
          simpa using hlabels
      | some imdbID =>
          refine ⟨turns_other rfl rfl rfl ?_, ?_⟩
          · change ((w.inFlight.eraseIdx n ++
              ([⟨.main .presentSafari, fun _ => SearchMoviesViewController.presentSafari
                ("https://www.imdb.com/title/" ++ imdbID)⟩] : List (SearchPending Url))).filterMap
                label).Perm _
            rw [List.filterMap_append]
            exact hlabels
          · intro q hq
            rw [List.mem_singleton.mp hq]
            exact .presentSafari _
  | presentSafari url =>
      have hx : happening w (.complete n outcome) = .other := by
        simp only [happening, hp]
      rw [hx]
      refine ⟨turns_other rfl rfl rfl ?_, nofun⟩
      change ((w.inFlight.eraseIdx n ++ []).filterMap label).Perm _
      rw [List.append_nil]
      simpa [label] using hlabels

/-! ## Runs -/

variable {URL} {w : World Url} {es : List Event}

theorem exists_turns {w w' : World Url} {e : Event} (hissued : ∀ p ∈ w.inFlight, Issued p)
    (hstep : step URL w e = some w') :
    (∃ sent, Turns (happening w e) sent w w') ∧ ∀ p ∈ w'.inFlight, Issued p := by
  cases e with
  | complete n outcome =>
      obtain ⟨p, hp, rfl⟩ := (Callback.step_complete _ _).mp hstep
      obtain ⟨hturns, hsent⟩ := turns_complete hp (hissued p (List.mem_of_getElem? hp))
      refine ⟨⟨[], hturns⟩, fun q hq => ?_⟩
      rcases Callback.World.mem_inFlight_respond _ hq with hq | hq
      · exact hissued q hq
      · exact hsent q hq
  | act e =>
      obtain ⟨p, hp, rfl⟩ := (Callback.step_act _ _).mp hstep
      have hflight (hsent : ∀ q ∈ (p.run w.client).2, Issued q) :
          ∀ q ∈ (w.exec p).inFlight, Issued q := by
        intro q hq
        rcases List.mem_append.mp hq with hq | hq
        · exact hissued q hq
        · exact hsent q hq
      cases e with
      | edit text =>
          cases hp
          obtain ⟨sent, hturns, hsent⟩ := turns_edit URL w text
          exact ⟨⟨sent, hturns⟩, hflight hsent⟩
      | cell row =>
          simp only [act] at hp
          split at hp
          · obtain ⟨_, _, rfl⟩ := Option.map_eq_some_iff.mp hp
            refine ⟨⟨[], turns_other rfl rfl rfl ?_⟩, hflight nofun⟩
            rw [Callback.World.exec_inFlight, Callback.Prog.run_done, List.append_nil]
          · cases hp
      | tap row =>
          obtain ⟨hclient, hlabels, hsent⟩ := exists_tap URL hp
          refine ⟨⟨[], turns_other ?_ ?_ ?_ ?_⟩, hflight hsent⟩
          · rw [Callback.World.exec_client, hclient]
          · rw [Callback.World.exec_client, hclient]
          · rw [Callback.World.exec_client, hclient]
          · rw [Callback.World.exec_inFlight, List.filterMap_append, hlabels, List.append_nil]

theorem tracked_run (hrun : EventRun.run (step URL) start es = some w) :
    Tracked (history URL es) w := by
  have h : Tracked (history URL es) w ∧ ∀ p ∈ w.inFlight, Issued p := by
    refine EventRun.run_trace_invariant
      (I := fun es w => Tracked (history URL es) w ∧ ∀ p ∈ w.inFlight, Issued p) ?_ ?_ hrun
    · refine ⟨⟨rfl, rfl, fun _ => Nat.le_refl _, List.nodup_nil, nofun, nofun⟩, nofun⟩
    · intro es e w₁ w₂ h₁ h hstep
      obtain ⟨⟨sent, hturns⟩, hissued⟩ := exists_turns h.2 hstep
      rw [history, EventRun.observe_concat (step URL) h₁ hstep]
      exact ⟨h.1.snoc hturns, hissued⟩
  exact h.1

/-- A request is answered once. -/
theorem not_answered_twice {a b : Log} {x : Happening} {edit : ℕ}
    (hnodup : ((a ++ x :: b).filterMap answers).Nodup) (hx : x.answers = some edit) :
    ∀ y, y ∈ a ∨ y ∈ b → y.answers ≠ some edit := by
  rw [List.filterMap_append, List.filterMap_cons, hx, List.nodup_append, List.nodup_cons] at hnodup
  rintro y (hy | hy) he
  · exact hnodup.2.2 edit (List.mem_filterMap.mpr ⟨y, hy, he⟩) edit List.mem_cons_self rfl
  · exact hnodup.2.1.1 (List.mem_filterMap.mpr ⟨y, hy, he⟩)

theorem movies_eq_nil {x : Happening}
    (h : ∀ edit result, x = .received edit (some result) → result = []) : x.movies = [] := by
  cases x with
  | received edit result =>
      cases result with
      | none => rfl
      | some result => exact h edit result rfl
  | _ => rfl

theorem latest_iff_noneLate {h : Log} (t : Tracked h w) :
    Latest h w.client.movies ↔ NoneLate h := by
  have hnodup : ((sinceClear h).filterMap answers).Nodup :=
    (List.nodup_append.mp t.labels).2.1.sublist
      ((List.rtakeWhile_suffix _ h).sublist.filterMap answers)
  rw [t.movies]
  constructor
  · intro hl edit result hr hne
    by_cases hown : ∃ own, received (edits h) (some own) ∈ h
    · obtain ⟨own, ho⟩ := hown
      obtain ⟨a, b, hab⟩ := List.append_of_mem (t.own _ ho)
      have hall := hl.returned own ho
      rw [hab, List.flatMap_append, List.flatMap_cons] at hall
      have hlength := congrArg List.length hall
      simp only [Happening.movies, Option.getD_some, List.length_append] at hlength
      have hnil : a.flatMap Happening.movies = [] ∧ b.flatMap Happening.movies = [] :=
        ⟨List.eq_nil_of_length_eq_zero (by omega), List.eq_nil_of_length_eq_zero (by omega)⟩
      rw [hab, List.mem_append, List.mem_cons] at hr
      rcases hr with hr | hr | hr
      · exact List.flatMap_eq_nil_iff.mp hnil.1 _ hr
      · injection hr with hedit
        exact absurd hedit hne
      · exact List.flatMap_eq_nil_iff.mp hnil.2 _ hr
    · have hall := hl.otherwise (not_exists.mp hown)
      exact List.flatMap_eq_nil_iff.mp hall _ hr
  · intro hlate
    constructor
    · intro own ho
      obtain ⟨a, b, hab⟩ := List.append_of_mem (t.own _ ho)
      rw [hab] at hnodup
      have hothers : ∀ y, y ∈ a ∨ y ∈ b → y.movies = [] := by
        intro y hy
        apply movies_eq_nil
        intro edit result he
        have hmem : y ∈ sinceClear h := by
          rw [hab, List.mem_append, List.mem_cons]
          tauto
        apply hlate edit result (he ▸ hmem)
        intro hedit
        refine not_answered_twice hnodup rfl y hy ?_
        rw [he, hedit]
        rfl
      rw [hab, List.flatMap_append, List.flatMap_cons,
        List.flatMap_eq_nil_iff.mpr fun y hy => hothers y (Or.inl hy),
        List.flatMap_eq_nil_iff.mpr fun y hy => hothers y (Or.inr hy), List.append_nil]
      rfl
    · intro hnone
      refine List.flatMap_eq_nil_iff.mpr fun y hy => movies_eq_nil fun edit result he => ?_
      subst he
      apply hlate edit result hy
      intro hedit
      exact hnone result (hedit ▸ mem_of_mem_sinceClear hy)

/-- In every state of a run, the list is what the query of the last edit returned if and only if
whatever arrived since the list was cleared answers that edit or is empty. -/
theorem latest_iff_of_run {URL : String → Option Url} {w : World Url} {es : List Event}
    (hrun : EventRun.run (step URL) start es = some w) :
    Latest (history URL es) w.client.movies ↔ NoneLate (history URL es) :=
  latest_iff_noneLate (tracked_run hrun)

/-- No search is in flight. -/
def Quiet (w : World Url) : Prop := ∀ p ∈ w.inFlight, label p = none

def film (id : ℤ) : Movie := ⟨some "Film", id, none, none, none⟩

/-- The response to the first edit arrives after the response to the second. -/
def overtaken : List Event :=
  [.act (.edit "a"), .act (.edit "ab"), .complete 1 (.movies [film 2]),
    .complete 0 (.movies [film 1])]

theorem overtakenRun : ∃ w, EventRun.run (step some) start overtaken = some w ∧ Quiet w ∧
    w.client.movies = [film 2, film 1] ∧
    received (edits (history some overtaken)) (some [film 2]) ∈ history some overtaken := by
  refine ⟨_, rfl, ?_, rfl, ?_⟩
  · intro p hp
    rcases List.mem_cons.mp hp with rfl | hp
    · rfl
    · cases List.mem_singleton.mp hp
      rfl
  · exact List.mem_cons_of_mem _ (List.mem_cons_of_mem _ List.mem_cons_self)

theorem latest_iff_of_run_overtaken : ∃ w,
    EventRun.run (step some) start overtaken = some w ∧
    (Latest (history some overtaken) w.client.movies ↔ NoneLate (history some overtaken)) := by
  obtain ⟨w, hrun, _⟩ := overtakenRun
  exact ⟨w, hrun, latest_iff_of_run hrun⟩

theorem overtaken_not_latest : ∃ w, EventRun.run (step some) start overtaken = some w ∧
    Quiet w ∧ ¬ Latest (history some overtaken) w.client.movies := by
  obtain ⟨w, hrun, hquiet, hmovies, hown⟩ := overtakenRun
  refine ⟨w, hrun, hquiet, fun h => ?_⟩
  have hlist := hmovies.symm.trans (h.returned _ hown)
  exact absurd hlist (by decide)

/-- For a row that the table view may ask for, both subscripts are within bounds if and only if
the list was not cleared since the last reload, or the row is below the number of films that
arrived since it was cleared. -/
theorem inBounds_iff_of_run {URL : String → Option Url} {w : World Url} {es : List Event}
    {row : ℕ} (hrun : EventRun.run (step URL) start es = some w)
    (hrow : row < w.client.rowCount) :
    ((cellForRowAt w.client row).isSome ∧ (didSelectRowAt URL w.client row).isSome) ↔
      (Cleared (history URL es) →
        row < ((sinceClear (history URL es)).flatMap Happening.movies).length) := by
  have t := tracked_run hrun
  have hbounds : ((cellForRowAt w.client row).isSome ∧
      (didSelectRowAt URL w.client row).isSome) ↔ row < w.client.movies.length := by
    simp [cellForRowAt, didSelectRowAt]
  rw [hbounds, ← t.movies]
  constructor
  · exact fun h _ => h
  · intro h
    by_cases hc : Cleared (history URL es)
    · exact h hc
    · have hcount := t.rowCount hc
      omega

/-- The user types on after the results of "a" have been shown. -/
def typedOn : List Event :=
  [.act (.edit "a"), .complete 0 (.movies [film 1]), .complete 0 .failed, .act (.edit "ab")]

theorem inBounds_iff_of_run_typedOn : ∃ w,
    EventRun.run (step some) start typedOn = some w ∧
    (((cellForRowAt w.client 0).isSome ∧ (didSelectRowAt some w.client 0).isSome) ↔
      (Cleared (history some typedOn) →
        0 < ((sinceClear (history some typedOn)).flatMap Happening.movies).length)) := by
  obtain ⟨w, hrun, hrow⟩ : ∃ w, EventRun.run (step some) start typedOn = some w ∧
      0 < w.client.rowCount := ⟨_, rfl, Nat.one_pos⟩
  exact ⟨w, hrun, inBounds_iff_of_run hrun hrow⟩

theorem typedOn_out_of_bounds : ∃ w, EventRun.run (step some) start typedOn = some w ∧
    0 < w.client.rowCount ∧ cellForRowAt w.client 0 = none ∧
    ∀ program, didSelectRowAt some w.client 0 ≠ some program :=
  ⟨_, rfl, Nat.one_pos, rfl, nofun⟩

end GiveMeMovies.SearchResults
