import GiveMeMovies.InformationAnswers

/-!
# The message of the profile update

Update Account shows the message and leaves the screen before any of its requests has been
answered. What becomes of them is known to the Profile screen no more, so the message is true
exactly if all of them succeed and the texts that are saved in the end are those of the tap. A
load that is answered in between overwrites them, and a screen that is gone saves nothing.
-/

namespace GiveMeMovies.UpdateMessage

open Program ProfileInformationViewController InformationScreen Journal

variable {Image Data : Type}

/-- The document holds the texts that the fields of the screen show. -/
def HoldsTexts (server : Server Data) (uid : Uid) (form : ProfileForm Image) : Prop :=
  ∀ field : TextField, server.field uid field.key = some (.string (field.text form))

/-- A request of the tap has failed. What follows from the tap counts as its requests. -/
def TapFailed (tapped after : ScreenRun Image Data) : Prop :=
  ∃ e ∈ after.journal, e.1.event = tapped.events ∧ ¬ e.2.call.request.Succeeded e.2.response

/-- A message that the tap showed is true, and a request that failed is reported in its place. -/
structure Truthful (controller : Controller) (uid : Uid)
    (before tapped after : ScreenRun Image Data) : Prop where
  announced : tapped.client.messages ≠ before.client.messages →
    HoldsTexts after.server uid (before.client.profileForm controller)
  failed : TapFailed tapped after →
    after.client.alerts ≠ tapped.client.alerts ∧
      tapped.client.messages = before.client.messages

/-- When `updateCurrentUser` was answered for the save that succeeds last, the keystrokes and the
loads had left the fields with the texts of the tap. Where no save succeeds, the document held
these texts from the start. -/
def SavesTapped (server : Server Data) (uid : Uid) (tap : History Image)
    (journal : List (Answered Image Data)) : Prop :=
  ∀ field : TextField,
    match latest savedTexts journal with
    | some seen => seen.text field = tap.text field
    | none => server.field uid field.key = some (.string (tap.text field))

variable {ios : Platform Image Data} {server : Server Data} {app : App Image}
  {self profile : Controller} {uid : Uid} {es es' : List (Event Image)}
  {before tapped after : ScreenRun Image Data}

/-- The message is shown before anything has been answered. -/
theorem messages_updateAccount (app : App Image) :
    ((updateAccount ios self : Program Image Data).run app).1.messages =
      (app.profileForm self).delegate.toList ++ app.messages := by
  have hupdate : ((updateUser ios self).run app).1 = app := by
    cases hu : app.authUser with
    | none => simp [updateUser, guardUser, hu]
    | some authUser =>
        obtain ⟨user, hc, ha⟩ := Option.bind_eq_some_iff.mp hu
        rw [updateUser, run_guardUser_some _ hc ha]
        rfl
  have hdelegate : (((setupProfileImage self : Program Image Data).run app).1.profileForm
      self).delegate = (app.profileForm self).delegate := by
    rw [setupProfileImage, run_setForm]
    change (Function.update app.profileForm self _ self).delegate = _
    rw [Function.update_self]
    split <;> rfl
  have hpop (app : App Image) :
      ((popViewController self : Program Image Data).run app).1.messages = app.messages := rfl
  rw [updateAccount, Callback.Prog.run_append, Callback.Prog.run_append, Callback.Prog.run_append,
    hupdate]
  dsimp only
  rw [hpop, showMessage, Callback.Prog.run_modify]
  dsimp only
  rw [hdelegate]
  rfl

section Run

variable (hu : app.currentUid = some uid) (hthere : app.released self = false)
  (hdelegate : (app.profileForm self).delegate = some profile)
  (hbefore : EventRun.run (step ios self) (opened ios server app self) es = some before)
  (htap : step ios self before (.act .update) = some tapped)

include hu hthere hbefore

theorem shows_before : Shows ios self uid (app.profileForm self).delegate before.seen
    before.client := by
  have hfollows : before.Follows _ (Sent ios True self uid server.urlOf) :=
    follows_run hu hthere (fun _ => trivial) hbefore
  exact hfollows.client

include htap

omit hu hthere hbefore in
theorem tapped_eq : tapped = Callback.Observed.exec
    { before with seen := .tapped :: before.seen, events := before.events + 1 }
    (before.events + 1) (updateAccount ios self) :=
  (Option.some.inj htap).symm

include hdelegate

/-- Every tap shows the message. -/
theorem messages_tapped : tapped.client.messages ≠ before.client.messages := by
  have hmessages : tapped.client.messages = profile :: before.client.messages := by
    rw [tapped_eq htap]
    change ((updateAccount ios self).run before.client).1.messages = _
    rw [messages_updateAccount, (shows_before hu hthere hbefore).delegate, hdelegate]
    rfl
  rw [hmessages]
  exact List.cons_ne_self profile before.client.messages

variable (hafter : EventRun.run (step ios self) tapped es' = some after)

include hafter

omit hdelegate in
/-- The texts that are stored are those of the last save to succeed. -/
theorem holdsTexts_iff :
    HoldsTexts after.server uid (before.client.profileForm self) ↔
      SavesTapped server uid before.seen after.journal := by
  have hrun : EventRun.run (step ios self) (opened ios server app self)
      (es ++ .act .update :: es') = some after := by
    rw [EventRun.run_append, hbefore, Option.bind_some, EventRun.run_cons, htap, Option.bind_some,
      hafter]
  apply forall_congr'
  intro field
  rw [text_of_run hu hthere hrun, (shows_before hu hthere hbefore).texts]
  cases latest savedTexts after.journal with
  | none => rfl
  | some seen => simp

/-- The message of a tap is true, and stands for no failure, if and only if every request of the
tap succeeds and the texts of the tap are what is saved in the end. -/
theorem truthful_iff_saved :
    Truthful self uid before tapped after ↔
      ¬ TapFailed tapped after ∧ SavesTapped server uid before.seen after.journal := by
  have hshown := messages_tapped hu hthere hdelegate hbefore htap
  have hholds := holdsTexts_iff hu hthere hbefore htap hafter
  constructor
  · intro h
    exact ⟨fun hfailed => hshown (h.failed hfailed).2, hholds.mp (h.announced hshown)⟩
  · rintro ⟨hsucceeded, hsaved⟩
    exact ⟨fun _ => hholds.mpr hsaved, fun hfailed => absurd hfailed hsucceeded⟩

end Run

/-! ## The texts are refused -/

def anaScreen : Controller := ⟨2, .profileInformation⟩

def anaProfile : Controller := ⟨1, .profile⟩

/-- Ana's Profile screen shows the screen. -/
def anaApp : App ℕ :=
  { App.launch (some Account.ana.user) with
    levels := [.tabBar .profile [anaScreen, anaProfile], .single ⟨0, .splash⟩]
    nextController := 3
    profileForm := fun _ => { delegate := some anaProfile } }

def anaServer : Server (ℕ × ℚ) := Server.empty.setDoc Account.ana.uid (some Fields.empty)

abbrev anaOpened : ScreenRun ℕ (ℕ × ℚ) :=
  opened Platform.transparent anaServer anaApp anaScreen

/-- Ana's profile has been loaded, and she has typed her name. -/
def nameTyped : List (Event ℕ) := [.complete 0 .success, .act (.type .firstName "Ana")]

/-- The update of the texts fails, and all other requests succeed. -/
def textsRefused : List (Event ℕ) :=
  [.complete 0 .success, .complete 1 (.failure ⟨14, "unavailable"⟩), .complete 0 .success,
    .complete 0 .success, .complete 0 .success]

instance decidableTapFailed (tapped after : ScreenRun Image Data) :
    Decidable (TapFailed tapped after) :=
  inferInstanceAs (Decidable (∃ e ∈ after.journal, _))

theorem textsRefused_run : ∃ before tapped after,
    EventRun.run (step Platform.transparent anaScreen) anaOpened nameTyped = some before ∧
      step Platform.transparent anaScreen before (.act .update) = some tapped ∧
      EventRun.run (step Platform.transparent anaScreen) tapped textsRefused = some after ∧
      Settled after ∧ TapFailed tapped after := by
  refine ⟨_, _, _, rfl, rfl, rfl, rfl, ?_⟩
  decide

theorem truthful_iff_saved_ana : ∃ before tapped after,
    EventRun.run (step Platform.transparent anaScreen) tapped textsRefused = some after ∧
      (Truthful anaScreen Account.ana.uid before tapped after ↔ ¬ TapFailed tapped after ∧
        SavesTapped anaServer Account.ana.uid before.seen after.journal) := by
  obtain ⟨before, tapped, after, hbefore, htap, hafter, _⟩ := textsRefused_run
  exact ⟨before, tapped, after, hafter, truthful_iff_saved rfl rfl rfl hbefore htap hafter⟩

theorem textsRefused_shows_message : ∃ before tapped after,
    EventRun.run (step Platform.transparent anaScreen) anaOpened nameTyped = some before ∧
      step Platform.transparent anaScreen before (.act .update) = some tapped ∧
      EventRun.run (step Platform.transparent anaScreen) tapped textsRefused = some after ∧
      Settled after ∧ ¬ Truthful anaScreen Account.ana.uid before tapped after := by
  obtain ⟨before, tapped, after, hbefore, htap, hafter, hsettled, hfailed⟩ := textsRefused_run
  refine ⟨before, tapped, after, hbefore, htap, hafter, hsettled, fun h => ?_⟩
  exact messages_tapped rfl rfl rfl hbefore htap (h.failed hfailed).2

end GiveMeMovies.UpdateMessage
