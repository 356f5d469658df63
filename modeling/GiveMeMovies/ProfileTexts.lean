import GiveMeMovies.InformationAnswers

/-!
# The texts of the profile information screen

The three text fields start empty and a late load overwrites them. Update Account and every pick
of an image save what the fields show when `updateCurrentUser` has been answered. Whether that is
what was typed depends on the order of the keystrokes, the load, the taps and that answer.
-/

namespace GiveMeMovies.ProfileTexts

open InformationScreen Journal

variable {Image Data : Type}

def typed (field : TextField) : Event Image → Option String
  | .act (.type field' text) => if field' = field then some text else none
  | _ => none

def isUpdate : Event Image → Bool
  | .act .update => true
  | _ => false

/-- The text that was last typed in the field before the last tap on Update Account. -/
def lastTyped (field : TextField) (es : List (Event Image)) : Option String :=
  (es.reverse.dropWhile fun e => !isUpdate e).findSome? (typed field)

/-- What the document should hold: the text that was typed, or else what it held before. -/
def expected (server : Server Data) (uid : Uid) (es : List (Event Image)) (field : TextField) :
    Option Value :=
  ((lastTyped field es).map .string).or (server.field uid field.key)

def TextsKept (server after : Server Data) (uid : Uid) (es : List (Event Image)) : Prop :=
  ∀ field : TextField, after.field uid field.key = expected server uid es field

/-- Of the keystrokes in the field and the documents that had come when `updateCurrentUser` was
answered for the last save to succeed, the last one gave the field the text that was typed last
before the last tap, or the stored text where nothing was typed before it. Where no save
succeeds, nothing was typed or what was typed had been stored before. -/
def ShowsExpected (server : Server Data) (uid : Uid) (journal : List (Answered Image Data))
    (es : List (Event Image)) (field : TextField) : Prop :=
  match latest savedTexts journal, lastTyped field es with
  | some seen, some text => seen.text field = text
  | some seen, none => server.field uid field.key = some (.string (seen.text field))
  | none, some text => server.field uid field.key = some (.string text)
  | none, none => True

variable {ios : Platform Image Data} {server : Server Data} {app : App Image} {self : Controller}
  {uid : Uid} {es : List (Event Image)} {o : ScreenRun Image Data}

/-- The texts are kept exactly if each field had got the right text when the save was sent that
succeeds last. -/
theorem textsKept_iff_shown (hu : app.currentUid = some uid) (hthere : app.released self = false)
    (hrun : EventRun.run (step ios self) (opened ios server app self) es = some o) :
    TextsKept server o.server uid es ↔
      ∀ field : TextField, ShowsExpected server uid o.journal es field := by
  apply forall_congr'
  intro field
  rw [text_of_run hu hthere hrun, expected, ShowsExpected]
  cases latest savedTexts o.journal with
  | none =>
      cases lastTyped field es with
      | none => exact iff_of_true rfl trivial
      | some text => rfl
  | some seen =>
      cases lastTyped field es with
      | none => exact eq_comm
      | some text => simp

/-! ## A tap before the profile has been loaded -/

/-- Ana's document holds her name. -/
def anaServer : Server (ℕ × ℚ) :=
  Server.empty.setDoc Account.ana.uid
    (some (Fields.empty.assign User.KEY_FISRT_NAME (some (.string "Ana"))))

def screen : Controller := ⟨1, .profileInformation⟩

abbrev anaOpened : ScreenRun ℕ (ℕ × ℚ) :=
  opened Platform.transparent anaServer (App.launch (some Account.ana.user)) screen

/-- Ana taps Update Account before her profile has been loaded. -/
def updateBeforeLoad : List (Event ℕ) :=
  [.act .update, .complete 1 .success, .complete 0 .success, .complete 0 .success,
    .complete 0 .success, .complete 0 .success, .complete 0 .success]

theorem updateBeforeLoad_run : ∃ o,
    EventRun.run (step Platform.transparent screen) anaOpened updateBeforeLoad = some o ∧
      AllSucceeded o ∧ Settled o ∧
      o.server.field Account.ana.uid User.KEY_FISRT_NAME = some (.string "") := by
  refine ⟨_, rfl, ?_, rfl, rfl⟩
  unfold AllSucceeded
  decide

theorem textsKept_iff_shown_ana : ∃ o,
    EventRun.run (step Platform.transparent screen) anaOpened updateBeforeLoad = some o ∧
      (TextsKept anaServer o.server Account.ana.uid updateBeforeLoad ↔ ∀ field : TextField,
        ShowsExpected anaServer Account.ana.uid o.journal updateBeforeLoad field) := by
  obtain ⟨o, hrun, _⟩ := updateBeforeLoad_run
  exact ⟨o, hrun, textsKept_iff_shown rfl rfl hrun⟩

theorem updateBeforeLoad_blanks_name : ∃ o,
    EventRun.run (step Platform.transparent screen) anaOpened updateBeforeLoad = some o ∧
      AllSucceeded o ∧ Settled o ∧
      ¬ TextsKept anaServer o.server Account.ana.uid updateBeforeLoad := by
  obtain ⟨o, hrun, hok, hsettled, hname⟩ := updateBeforeLoad_run
  refine ⟨o, hrun, hok, hsettled, fun h => ?_⟩
  have hkept : o.server.field Account.ana.uid User.KEY_FISRT_NAME = some (.string "Ana") :=
    h .firstName
  have hsame := hname.symm.trans hkept
  simp at hsame

end GiveMeMovies.ProfileTexts
