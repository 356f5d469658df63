import GiveMeMovies.MemberScreens

/-!
# When the home screen is presented

What the four places do with their responses, and what holds in every run: the levels are in
order, and every request in flight is one of the four places' or keeps the member area as it is.
-/

namespace GiveMeMovies.AppRuns

open Program

variable {Image Data : Type} {ios : Platform Image Data} {Entered : String → String → Prop}
variable {app app' app'' : App Image} {self : Controller}

/-- The response makes the splash or the welcome screen present the home screen, without a look
at the verified flag. -/
def OpensHome : (call : Call Data) → call.Response Image → App Image → Prop
  | ⟨.splashLoadUser, self, .getDocument _⟩, .ok (some _), app
  | ⟨.welcomeLoadSignedIn, self, .getDocument _⟩, .ok (some _), app
  | ⟨.welcomeSignIn, self, .signIn _ _⟩, .ok _, app =>
      app.released self = false ∧ app.levels.canPresent self = true
  | _, _, _ => False

theorem OpensHome.place {call : Call Data} {a : call.Response Image} (h : OpensHome call a app) :
    opensHome call.place = true ∧ call.place ≠ .splashDeadline := by
  unfold OpensHome at h
  split at h
  · exact ⟨rfl, nofun⟩
  · exact ⟨rfl, nofun⟩
  · exact ⟨rfl, nofun⟩
  · exact h.elim

/-- What the app is like when the response to `call` has arrived. -/
def arrived (w : World Image Data) (call : Call Data) (outcome : Outcome Image) : App Image :=
  receive call.request (call.request.reply outcome w.server) w.client

theorem levels_arrived (w : World Image Data) (call : Call Data) (outcome : Outcome Image) :
    (arrived w call outcome).levels = w.client.levels :=
  (receive_sameScreen _ _ _).levels

/-- The home screen is presented if `opens`, and otherwise the member area is as before. -/
structure HomeIf (opens : Prop) (app app' : App Image) : Prop where
  orderly : app'.levels.Orderly
  verified : app'.verified = app.verified
  area : app'.levels.memberAreaVisible = true ↔ app.levels.memberAreaVisible = true ∨ opens

theorem HomeIf.of_sameView {opens : Prop} (h : app'.levels.Orderly) (hview : SameView app app')
    (hopens : ¬ opens) : HomeIf opens app app' := by
  refine ⟨h, hview.verified, ?_⟩
  rw [hview.area, or_iff_left hopens]

theorem HomeIf.congr {opens opens' : Prop} (h : HomeIf opens app app') (hopens : opens ↔ opens') :
    HomeIf opens' app app' := by
  rwa [← hopens]

theorem HomeIf.after {opens : Prop} (hview : SameView app app') (h : HomeIf opens app' app'') :
    HomeIf opens app app'' := by
  refine ⟨h.orderly, h.verified.trans hview.verified, ?_⟩
  rw [h.area, hview.area]

theorem homeIf_present (h : app.levels.Orderly) :
    HomeIf (app.levels.canPresent self = true) app (app.present self (.tabBar .home [])) := by
  have hhome : (Level.tabBar .home []).WellPlaced := fun _ hc => absurd hc List.not_mem_nil
  refine ⟨h.present_level hhome rfl, rfl, ?_⟩
  by_cases hcan : app.levels.canPresent self = true
  · have hpresent : (app.present self (.tabBar .home [])).levels =
        .tabBar .home [] :: app.levels := if_pos hcan
    rw [hpresent, Levels.memberAreaVisible_cons rfl]
    exact iff_of_true rfl (Or.inr hcan)
  · have hpresent : (app.present self (.tabBar .home [])).levels = app.levels := if_neg hcan
    rw [hpresent, or_iff_left hcan]

/-- `weakly self (goToHomeScreen self)` -/
theorem homeIf_weakly (h : app.levels.Orderly) :
    HomeIf (app.released self = false ∧ app.levels.canPresent self = true) app
      ((weakly self (goToHomeScreen self) : Program Image Data).run app).1 := by
  rw [run_weakly]
  split
  next hr => exact .of_sameView h (.refl app) fun hn => by simp [hn.1] at hr
  next hr =>
    have halive : app.released self = false := by simpa using hr
    exact (homeIf_present h).congr (by rw [and_iff_right halive])

theorem homeIf_userLoaded (h : app.levels.Orderly) (user : User) :
    HomeIf (app.released self = false ∧ app.levels.canPresent self = true) app
      ((setSharedUser user ++ weakly self (goToHomeScreen self) :
        Program Image Data).run app).1 := by
  have hview : SameView app { app with sharedUser := some user } := sameView_of_eq rfl rfl rfl
  have hshared : { app with sharedUser := some user }.levels.Orderly := h
  rw [Callback.Prog.run_append]
  exact .after hview (homeIf_weakly hshared)

theorem homeIf_signedIn (h : app.levels.Orderly) (user : AuthUser) :
    HomeIf (app.released self = false ∧ app.levels.canPresent self = true) app
      ((WelcomeViewController.signedIn self (.ok user) : Program Image Data).run app).1 := by
  cases hr : app.released self with
  | true =>
      rw [WelcomeViewController.signedIn, run_weakly_released _ hr]
      exact .of_sameView h (.refl app) fun hn => Bool.noConfusion hn.1
  | false =>
      have hview : SameView app app.removeLoadingSpinner := sameView_of_eq rfl rfl rfl
      have hspinner : app.removeLoadingSpinner.levels.Orderly := h
      rw [WelcomeViewController.signedIn, run_weakly_alive _ hr, and_iff_right rfl]
      exact .after hview (homeIf_present hspinner)

/-- A program of the contract does not present the home screen. -/
theorem homeIf_of_within {p : Program Image Data} (hp : p.Within (contract Entered))
    (h : app.levels.Orderly) : HomeIf False app (p.run app).1 := by
  obtain ⟨horderly, hview⟩ := sameView_of_within hp h
  exact .of_sameView horderly hview id

/-- The three places other than the delay of the splash screen. -/
theorem homeIf_opening {p : Pending Image Data} (hp : Opening Entered p)
    (hplace : p.call.place ≠ .splashDeadline) (h : app.levels.Orderly)
    (a : p.call.Response Image) :
    HomeIf (OpensHome p.call a app) app ((p.handler a).run app).1 := by
  cases hp with
  | deadlineSignedIn self => exact absurd rfl hplace
  | deadlineSignedOut self => exact absurd rfl hplace
  | splashLoad self uid =>
      match a with
      | .error error => exact .of_sameView h (.refl app) id
      | .ok none => exact .of_sameView h (.refl app) id
      | .ok (some document) => exact homeIf_userLoaded h _
  | loadSignedIn self uid =>
      have hnoUser (error : Option NSError) : (WelcomeViewController.noUser self error :
          Program Image Data).Within (contract Entered) := lenient.within_noUser error
      match a with
      | .error error => exact homeIf_of_within (hnoUser (some error)) h
      | .ok none => exact homeIf_of_within (hnoUser none) h
      | .ok (some document) => exact homeIf_userLoaded h _
  | signIn self email password entered =>
      cases a with
      | error error =>
          have hfailed : (WelcomeViewController.signedIn self (.error error) :
              Program Image Data).Within (contract Entered) :=
            within_weakly (lenient.within_signInFailed allows_noSpinner error)
          exact homeIf_of_within hfailed h
      | ok user => exact homeIf_signedIn h user

theorem run_loadUser : ((SplashViewController.loadUser self : Program Image Data).run app).1 =
    app := by
  cases hu : app.currentUid with
  | none => rw [SplashViewController.loadUser, run_guardUid_none _ hu]
  | some uid =>
      rw [SplashViewController.loadUser, run_guardUid_some _ hu]
      rfl

/-- After its delay the splash screen opens the member area to verified users only. -/
theorem run_deadline {p : Pending Image Data} (hp : Opening Entered p)
    (hplace : p.call.place = .splashDeadline) (h : app.levels.Orderly)
    (a : p.call.Response Image) :
    ((p.handler a).run app).1.levels.Orderly ∧ ((p.handler a).run app).1.verified = app.verified ∧
      (((p.handler a).run app).1.levels.memberAreaVisible = true →
        app.levels.memberAreaVisible = true ∨ app.verified = true) := by
  cases hp with
  | deadlineSignedIn self =>
      change (((SplashViewController.deadlineSignedIn self).run app).1.levels.Orderly) ∧ _
      rw [SplashViewController.deadlineSignedIn, Callback.Prog.run_append, run_loadUser]
      dsimp only [guardUser, Callback.Prog.run_read]
      split
      next user authUser _ hauth =>
        by_cases hverified : authUser.isEmailVerified = true
        · rw [if_pos hverified]
          have hhome : HomeIf (app.levels.canPresent self = true) app
              (app.present self (.tabBar .home [])) := homeIf_present h
          refine ⟨hhome.orderly, rfl, fun _ => Or.inr ?_⟩
          rw [App.verified, hauth]
          exact hverified
        · rw [if_neg hverified]
          refine ⟨h.present_level rfl rfl, rfl, fun hv => ?_⟩
          rcases Levels.visible_of_present hv with hv | ⟨_, hmember⟩
          · exact Or.inl hv
          · cases hmember
      next => exact ⟨h, rfl, Or.inl⟩
  | deadlineSignedOut self =>
      have hwelcome : (Level.navigation [⟨app.nextController, .welcome⟩]).WellPlaced := by
        intro c hc
        rw [List.mem_singleton.mp hc]
        rfl
      refine ⟨h.present_level hwelcome rfl, rfl, fun hv => ?_⟩
      rcases Levels.visible_of_present hv with hv | ⟨_, hmember⟩
      · exact Or.inl hv
      · cases hmember
  | splashLoad self uid => cases hplace
  | signIn self email password entered => cases hplace
  | loadSignedIn self uid => cases hplace

/-! ## Runs -/

structure Wired (Entered : String → String → Prop) (w : World Image Data) : Prop where
  orderly : w.client.levels.Orderly
  pending : ∀ p ∈ w.inFlight, p.Within (contract Entered)

theorem orderly_act {e : Act Image} {p : Program Image Data} (h : app.levels.Orderly)
    (hp : act ios e app = some p) : (p.run app).1.levels.Orderly := by
  by_cases hswipe : e = .swipeBack
  · subst hswipe
    cases hp
    exact h.swipeBack.1
  · cases e with
    | start self =>
        obtain ⟨rfl, _⟩ := of_whenInFront hp
        exact (homeIf_present h).orderly
    | swipeBack => exact absurd rfl hswipe
    | _ => exact (tame_act h hp nofun hswipe).orderly

theorem orderly_response {p : Pending Image Data} (hp : p.Within (contract Entered))
    (h : app.levels.Orderly) (a : p.call.Response Image) :
    ((p.handler a).run app).1.levels.Orderly := by
  cases ho : opensHome p.call.place with
  | false => exact (hp.2.2 a ho).preserves h
  | true =>
      by_cases hplace : p.call.place = .splashDeadline
      · exact (run_deadline (hp.2.1 ho) hplace h a).1
      · exact (homeIf_opening (hp.2.1 ho) hplace h a).orderly

theorem pending_response {p : Pending Image Data} (hp : p.Within (contract Entered))
    (h : app.levels.Orderly) (a : p.call.Response Image) {q : Pending Image Data}
    (hq : q ∈ ((p.handler a).run app).2) : q.Within (contract Entered) := by
  cases ho : opensHome p.call.place with
  | false => exact (hp.2.2 a ho).pending h hq
  | true => exact sends_opening (hp.2.1 ho) a app q hq

theorem Wired.step {w w' : World Image Data} {e : Event Image Data} (h : Wired Entered w)
    (hstep : step ios w e = some w')
    (hentered : ∀ act, e = .app (.act act) → EnteredBy ios Entered act) : Wired Entered w' := by
  cases e with
  | outside server =>
      cases hstep
      exact ⟨h.orderly, h.pending⟩
  | app e =>
      cases e with
      | act e =>
          obtain ⟨p, hp, rfl⟩ := (Callback.step_act (service Image Data) (act ios)).mp hstep
          refine ⟨orderly_act h.orderly hp, fun q hq => ?_⟩
          rcases List.mem_append.mp hq with hq | hq
          · exact h.pending q hq
          · exact pending_act (hentered e rfl) h.orderly hp hq
      | complete n outcome =>
          obtain ⟨p, hp, rfl⟩ :=
            (Callback.step_complete (service Image Data) (act ios)).mp hstep
          have hwithin := h.pending p (List.mem_of_getElem? hp)
          have harrived : (arrived w p.call outcome).levels.Orderly := by
            rw [levels_arrived]
            exact h.orderly
          refine ⟨orderly_response hwithin harrived _, fun q hq => ?_⟩
          rcases Callback.World.mem_inFlight_respond _ hq with hq | hq
          · exact h.pending q hq
          · exact pending_response hwithin harrived _ hq

theorem wired_launched (server : Server Data) (keptUser : Option AuthUser) :
    Wired Entered (launched server keptUser : World Image Data) := by
  have hstart : (App.launch keptUser : App Image).levels.Orderly :=
    .of_cons rfl (fun _ hl => absurd hl List.not_mem_nil)
      (fun _ hl => absurd hl List.not_mem_nil) nofun
  constructor
  · change ((SplashViewController.viewDidLoad splash : Program Image Data).run _).1.levels.Orderly
    rw [SplashViewController.viewDidLoad, Callback.Prog.run_read]
    split
    · exact hstart
    · exact hstart
  · intro q hq
    exact sends_splash _ q hq

end GiveMeMovies.AppRuns
