import GiveMeMovies.HomeResponses

/-!
# The gate of the member area

The member area is opened from five places, and only one of them, the splash screen after its
delay, looks at the verified flag of the current user. It is left by pushing a splash screen onto
it, which a swipe takes off again. So the gate holds exactly while every response and every tap
that opens it, every swipe that uncovers it and every response that arrives in it finds a verified
user.
-/

namespace GiveMeMovies.MemberGate

open Program AppRuns

variable {Image Data : Type}

/-- Whoever sees the member area is signed in with a verified address. -/
def Gate (app : App Image) : Prop :=
  app.levels.memberAreaVisible = true → app.verified = true

/-- A response that arrives in the member area or opens it, Start, and a swipe that uncovers it
find a verified user. -/
def FindsVerified (w : World Image Data) : Event Image Data → Prop
  | .app (.complete n outcome) => ∀ p, w.inFlight[n]? = some p →
      w.client.levels.memberAreaVisible = true ∨
        OpensHome p.call (p.call.request.reply outcome w.server) (arrived w p.call outcome) →
      (arrived w p.call outcome).verified = true
  | .app (.act (.start _)) => w.client.verified = true
  | .app (.act .swipeBack) => w.client.levels.UncoversMemberArea → w.client.verified = true
  | _ => True

variable {ios : Platform Image Data} {Entered : String → String → Prop} {app app' : App Image}

theorem gate_congr (hview : SameView app app') : Gate app' ↔ Gate app := by
  unfold Gate
  rw [hview.area, hview.verified]

theorem gate_of_tame (h : Tame app app') (hgate : Gate app) : Gate app' := by
  intro ha
  obtain ⟨harea, hverified⟩ := h.area ha
  rw [hverified]
  exact hgate harea

theorem gate_of_homeIf {opens : Prop} (h : HomeIf opens app app') :
    Gate app' ↔ (app.levels.memberAreaVisible = true ∨ opens → app.verified = true) := by
  unfold Gate
  rw [h.area, h.verified]

/-- Start is tapped on the screen in front, which can present. -/
theorem gate_start {self : Controller} (h : app.levels.Orderly)
    (hfront : app.levels.isFront self = true) :
    Gate (app.present self (.tabBar .home [])) ↔ app.verified = true := by
  have hcan := Levels.canPresent_of_isFront hfront
  rw [gate_of_homeIf (homeIf_present h)]
  constructor
  · intro hgate
    exact hgate (Or.inr hcan)
  · intro hverified _
    exact hverified

theorem gate_swipeBack (h : app.levels.Orderly) (hgate : Gate app) :
    Gate app.swipeBack ↔ (app.levels.UncoversMemberArea → app.verified = true) := by
  constructor
  · intro hswiped huncovers
    exact hswiped huncovers.visible
  · intro hverified hv
    rcases h.swipeBack.2 hv with hvisible | huncovers
    · exact hgate hvisible
    · exact hverified huncovers

theorem gate_arrived (w : World Image Data) (call : Call Data) (outcome : Outcome Image) :
    Gate (arrived w call outcome) ↔
      (w.client.levels.memberAreaVisible = true → (arrived w call outcome).verified = true) := by
  unfold Gate
  rw [levels_arrived]

theorem arrived_deadline {w : World Image Data} {p : Pending Image Data}
    {outcome : Outcome Image} (hp : Opening Entered p) (hplace : p.call.place = .splashDeadline) :
    arrived w p.call outcome = w.client := by
  cases hp with
  | deadlineSignedIn self => rfl
  | deadlineSignedOut self => rfl
  | splashLoad self uid => cases hplace
  | signIn self email password entered => cases hplace
  | loadSignedIn self uid => cases hplace

/-- A response leaves the gate closed exactly if it finds a verified user, in the member area or
on the way to it. -/
theorem gate_response {w : World Image Data} {p : Pending Image Data}
    (hp : p.Within (contract Entered)) (h : w.client.levels.Orderly) (hgate : Gate w.client)
    (outcome : Outcome Image) :
    Gate ((p.handler (p.call.request.reply outcome w.server)).run (arrived w p.call outcome)).1 ↔
      (w.client.levels.memberAreaVisible = true ∨
        OpensHome p.call (p.call.request.reply outcome w.server) (arrived w p.call outcome) →
      (arrived w p.call outcome).verified = true) := by
  have harrived : (arrived w p.call outcome).levels.Orderly := by
    rw [levels_arrived]
    exact h
  by_cases hopens : opensHome p.call.place = true
  · have hopening := hp.2.1 hopens
    by_cases hplace : p.call.place = .splashDeadline
    · have hsame : arrived w p.call outcome = w.client := arrived_deadline hopening hplace
      obtain ⟨_, hverified, harea⟩ :=
        run_deadline hopening hplace h (p.call.request.reply outcome w.server)
      rw [hsame]
      constructor
      · intro _ hv
        rcases hv with hv | hv
        · exact hgate hv
        · exact absurd hplace hv.place.2
      · intro _ hv
        rw [hverified]
        rcases harea hv with hv | hv
        · exact hgate hv
        · exact hv
    · rw [gate_of_homeIf (homeIf_opening hopening hplace harrived _), levels_arrived]
  · have hother : opensHome p.call.place = false := by simpa using hopens
    have hno : ¬ OpensHome p.call (p.call.request.reply outcome w.server)
        (arrived w p.call outcome) := fun hn => hopens hn.place.1
    obtain ⟨_, hview⟩ := sameView_of_within (hp.2.2 _ hother) harrived
    rw [gate_congr hview, gate_arrived, or_iff_left hno]

/-- A step keeps the gate closed exactly if it finds a verified user where it has to. -/
theorem gate_step {w w' : World Image Data} {e : Event Image Data} (h : Wired Entered w)
    (hgate : Gate w.client) (hstep : step ios w e = some w') :
    Gate w'.client ↔ FindsVerified w e := by
  cases e with
  | outside server =>
      cases hstep
      exact iff_of_true hgate trivial
  | app e =>
      cases e with
      | complete n outcome =>
          obtain ⟨p, hp, rfl⟩ :=
            (Callback.step_complete (service Image Data) (act ios)).mp hstep
          have hresponse := gate_response (h.pending p (List.mem_of_getElem? hp)) h.orderly hgate
            outcome
          constructor
          · intro hgate' q hq
            cases hp.symm.trans hq
            exact hresponse.mp hgate'
          · intro hfinds
            exact hresponse.mpr (hfinds p hp)
      | act e =>
          obtain ⟨p, hp, rfl⟩ := (Callback.step_act (service Image Data) (act ios)).mp hstep
          cases e with
          | start self =>
              obtain ⟨rfl, _, hfront⟩ := of_whenInFront hp
              exact gate_start h.orderly hfront
          | swipeBack =>
              cases hp
              exact gate_swipeBack h.orderly hgate
          | _ => exact iff_of_true (gate_of_tame (tame_act h.orderly hp nofun nofun) hgate) trivial

/-- In every run, whoever sees the member area is signed in with a verified address in all states
exactly if every step that opens, uncovers or changes the area finds a verified user. -/
theorem gate_iff_findsVerified (ios : Platform Image Data) (server : Server Data)
    (keptUser : Option AuthUser) (es : List (Event Image Data)) :
    EventRun.AllStates (step ios) (fun w => Gate w.client) (launched server keptUser) es ↔
      EventRun.AllSteps (step ios) FindsVerified (launched server keptUser) es := by
  have hsplash : (launched server keptUser : World Image Data).client.levels =
      [.single splash] := by
    change ((SplashViewController.viewDidLoad splash : Program Image Data).run _).1.levels = _
    rw [SplashViewController.viewDidLoad, Callback.Prog.run_read]
    split <;> rfl
  have hgate : Gate (launched server keptUser : World Image Data).client := by
    intro hv
    rw [hsplash] at hv
    cases hv
  apply EventRun.allStates_iff_allSteps (I := Wired fun _ _ => True)
  · intro w e w' hw hstep
    exact hw.step hstep fun _ _ _ _ _ _ _ => trivial
  · intro w e w' hw hg hstep
    exact gate_step hw hg hstep
  · exact wired_launched server keptUser
  · exact hgate

/-- Ana has registered and has not followed the link of her verification mail. -/
def unverifiedServer : Server (ℕ × ℚ) :=
  Server.empty.addAccount { Account.ana with isEmailVerified := false }

/-- Ana logs in on the welcome screen. -/
def logInUnverified : List (Event ℕ (ℕ × ℚ)) :=
  [.app (.complete 0 .success),
    .app (.act (.logIn ⟨1, .welcome⟩ Account.ana.email Account.ana.password)),
    .app (.complete 0 .success)]

theorem logInUnverified_run : ∃ w, EventRun.run (step Platform.transparent)
    (launched unverifiedServer none) logInUnverified = some w ∧
    w.client.levels.memberAreaVisible = true ∧ w.client.verified = false :=
  ⟨_, rfl, rfl, rfl⟩

theorem logInUnverified_opens_gate : ¬ EventRun.AllStates (step Platform.transparent)
    (fun w => Gate w.client) (launched unverifiedServer none) logInUnverified := by
  intro h
  obtain ⟨w, hrun, hvisible, hunverified⟩ := logInUnverified_run
  have hgate : Gate w.client := h.last hrun
  have hverified := hgate hvisible
  rw [hunverified] at hverified
  cases hverified

end GiveMeMovies.MemberGate
