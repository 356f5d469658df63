import GiveMeMovies.VerificationScreen

/-!
# The screens that have been presented

The screens of the sign-in and of the member area are never dismissed, alerts apart, so that they
pile up over the splash screen of the launch. What the launch presents over it is decided by the
user that the keychain kept, and stays under everything else.
-/

namespace GiveMeMovies

/-- A level as it was presented, whatever it shows now. -/
inductive Level.Kind where
  | single (controller : Controller)
  | navigation
  | tabBar
  deriving DecidableEq

def Level.kind : Level → Option Level.Kind
  | single controller => some (.single controller)
  | navigation _ => some .navigation
  | tabBar _ _ => some .tabBar
  | alert _ _ => none

def Levels.kinds (levels : Levels) : List Level.Kind := levels.filterMap Level.kind

/-! ## Screens pile up -/

theorem Level.kind_push (controller : Controller) (level : Level) :
    (level.push controller).kind = level.kind := by
  cases level <;> rfl

theorem Level.kind_pop (level : Level) : level.pop.kind = level.kind := by
  unfold pop
  split <;> rfl

theorem Level.kind_swipeBack (level : Level) : level.swipeBack.kind = level.kind := by
  unfold swipeBack
  split <;> rfl

namespace Levels

variable {levels : Levels} {self : Controller}

theorem kinds_map {f : Level → Level} (hf : ∀ level, (f level).kind = level.kind)
    (levels : Levels) : kinds (levels.map f) = levels.kinds := by
  unfold kinds
  rw [List.filterMap_map]
  exact congrArg (List.filterMap · levels) (funext hf)

theorem kinds_push (self controller : Controller) (levels : Levels) :
    (levels.push self controller).kinds = levels.kinds := by
  apply kinds_map
  intro level
  split
  · exact level.kind_push controller
  · rfl

theorem kinds_pop (self : Controller) (levels : Levels) :
    (levels.pop self).kinds = levels.kinds := by
  apply kinds_map
  intro level
  split
  · exact level.kind_pop
  · rfl

theorem kinds_cons {level level' : Level} (hkind : level'.kind = level.kind) (rest : Levels) :
    kinds (level' :: rest) = kinds (level :: rest) := by
  unfold kinds
  rw [List.filterMap_cons, List.filterMap_cons, hkind]

theorem kinds_swipeBack (levels : Levels) : levels.swipeBack.kinds = levels.kinds := by
  cases levels with
  | nil => rfl
  | cons top rest => exact kinds_cons top.kind_swipeBack rest

theorem kinds_dismissAlert (levels : Levels) : levels.dismissAlert.kinds = levels.kinds := by
  unfold dismissAlert
  split
  · rfl
  · rfl

theorem kinds_present (self : Controller) (level : Level) (levels : Levels) :
    levels.kinds <:+ (levels.present self level).kinds := by
  unfold present
  split
  · exact (List.suffix_cons level levels).filterMap Level.kind
  · exact List.suffix_refl _

theorem kinds_of_move {s s' : Levels × ℕ} (hmove : Move s s') : s.1.kinds <:+ s'.1.kinds := by
  cases hmove with
  | cover levels next self level _ _ => exact kinds_present self level levels
  | single levels next self screen => exact kinds_present self _ levels
  | navigation levels next self => exact kinds_present self _ levels
  | push levels next self screen =>
      dsimp only
      rw [kinds_push]
  | pop levels next self =>
      dsimp only
      rw [kinds_pop]
  | swipeBack levels next =>
      dsimp only
      rw [kinds_swipeBack]
  | dismissAlert levels next =>
      dsimp only
      rw [kinds_dismissAlert]
  | selectTab selected tab stack rest next =>
      have hkinds : kinds (.tabBar tab stack :: rest) = kinds (.tabBar selected stack :: rest) :=
        kinds_cons rfl rest
      dsimp only
      rw [hkinds]
  | showProfile selected rest next =>
      have hkinds : kinds (.tabBar .profile [⟨next, .profile⟩] :: rest) =
          kinds (.tabBar selected [] :: rest) := kinds_cons rfl rest
      dsimp only
      rw [hkinds]

theorem kinds_of_moves {s s' : Levels × ℕ} (hmoves : Moves s s') :
    s.1.kinds <:+ s'.1.kinds := by
  induction hmoves with
  | refl => exact List.suffix_refl _
  | tail _ hmove ih => exact ih.trans (kinds_of_move hmove)

theorem eq_single_of_kind {level : Level} (h : level.kind = some (.single self)) :
    level = .single self := by
  cases level with
  | single controller =>
      cases h
      rfl
  | _ => cases h

theorem kinds_head (levels : Levels) : levels.kinds.head? = levels.shown.bind Level.kind := by
  unfold kinds shown
  induction levels with
  | nil => rfl
  | cons level rest ih =>
      cases level with
      | alert owner alert => exact ih
      | _ => rfl

/-- A controller is presented alone at most once. -/
theorem Stacked.pairwise_kinds {next : ℕ} (h : Stacked levels next) :
    levels.kinds.Pairwise (fun kind kind' => ∀ c, kind = .single c → kind' ≠ .single c) := by
  unfold kinds
  rw [List.pairwise_filterMap]
  apply (List.nodup_flatMap.mp h.nodup).2.imp
  intro level level' hdisjoint kind hkind kind' hkind' c hc hc'
  rw [hc] at hkind
  rw [hc'] at hkind'
  rw [eq_single_of_kind hkind, eq_single_of_kind hkind'] at hdisjoint
  exact hdisjoint (List.mem_singleton.mpr rfl) (List.mem_singleton.mpr rfl)

/-- A controller that was presented alone is visible only when nothing was presented over it. -/
theorem Stacked.head_kinds {next : ℕ} (h : Stacked levels next)
    (hself : .single self ∈ levels.kinds) (hvisible : levels.visibleController = some self) :
    ∃ rest, levels.kinds = .single self :: rest ∧ .single self ∉ rest := by
  obtain ⟨level, hshown, hlevel, hmem⟩ := shown_of_visible hvisible
  obtain ⟨below, hbelow, hkind⟩ := List.mem_filterMap.mp hself
  have hsingle : level = .single self := by
    apply h.level_unique hmem (eq_single_of_kind hkind ▸ hbelow) (Level.mem_of_visible hlevel)
    exact List.mem_singleton.mpr rfl
  have hhead : levels.kinds.head? = some (.single self) := by
    rw [kinds_head, hshown, hsingle]
    rfl
  obtain ⟨rest, hrest⟩ := List.head?_eq_some_iff.mp hhead
  refine ⟨rest, hrest, fun hagain => ?_⟩
  have hpairwise := h.pairwise_kinds
  rw [hrest, List.pairwise_cons] at hpairwise
  exact hpairwise.1 _ hagain self rfl rfl

end Levels

namespace PresentedScreens

open Program AppRuns AppRequests

variable {Image Data : Type} {ios : Platform Image Data} {w w' : World Image Data}
  {server : Server Data} {keptUser : Option AuthUser} {clock : Clock}
  {es : List (AppRuns.Event Image Data)}

/-! ## The launch -/

/-- The splash screen of the launch waits for its delay. -/
structure Waiting (keptUser : Option AuthUser) (w : World Image Data) : Prop where
  levels : w.client.levels = [.single splash]
  nextController : w.client.nextController = 1
  authUsers : w.client.authUsers = keptUser.toList
  currentUser : w.client.currentUser = keptUser.map (fun _ => 0)
  inFlight : w.inFlight = [⟨⟨.splashDeadline, splash, .timer⟩, fun _ =>
    if keptUser.isSome then SplashViewController.deadlineSignedIn splash
    else SplashViewController.deadlineSignedOut splash⟩]
  journal : w.journal = []

theorem waiting_launched :
    Waiting keptUser (launched server keptUser clock : World Image Data) := by
  cases keptUser with
  | none => exact ⟨rfl, rfl, rfl, rfl, rfl, rfl⟩
  | some user => exact ⟨rfl, rfl, rfl, rfl, rfl, rfl⟩

/-- What can be done while only the splash screen is there leaves it there. -/
structure Idle (app app' : App Image) : Prop where
  levels : app'.levels = app.levels
  nextController : app'.nextController = app.nextController
  authUsers : app'.authUsers = app.authUsers
  currentUser : app'.currentUser = app.currentUser

theorem idle_done {app : App Image} : Idle app ((.done : Program Image Data).run app).1 :=
  ⟨rfl, rfl, rfl, rfl⟩

variable {app : App Image} {self : Controller} {p : Program Image Data}

theorem eq_splash_of_isFront (hlevels : app.levels = [.single splash])
    (h : app.levels.isFront self = true) : self = splash := by
  rw [hlevels] at h
  have hvisible : (some splash : Option Controller) = some self := by
    simpa [Levels.isFront, Level.visible] using h
  exact (Option.some.inj hvisible).symm

theorem whenInFront_splash {screen : Screen} {program : Program Image Data}
    (hlevels : app.levels = [.single splash]) (hscreen : screen ≠ .splash) :
    whenInFront app self screen program ≠ some p := by
  intro h
  unfold whenInFront at h
  split at h
  next hfront =>
    obtain ⟨hfirst, hclass, _⟩ := inFront_iff.mp hfront
    rw [eq_splash_of_isFront hlevels hfirst] at hclass
    exact hscreen hclass.symm
  next => cases h

theorem idle_act {e : Act Image} (hlevels : app.levels = [.single splash])
    (hp : act ios e app = some p) : Idle app (p.run app).1 ∧ (p.run app).2 = [] := by
  cases e with
  | back self =>
      simp only [act] at hp
      split at hp
      next hfront =>
        cases hp
        rw [eq_splash_of_isFront hlevels hfront]
        exact ⟨idle_done, rfl⟩
      next => cases hp
  | appear self =>
      simp only [act] at hp
      split at hp
      next hfront =>
        cases hp
        rw [eq_splash_of_isFront hlevels hfront]
        exact ⟨idle_done, rfl⟩
      next => cases hp
  | swipeBack =>
      cases hp
      refine ⟨⟨?_, rfl, rfl, rfl⟩, rfl⟩
      change app.levels.swipeBack = app.levels
      rw [hlevels]
      rfl
  | dismiss =>
      cases hp
      refine ⟨⟨?_, rfl, rfl, rfl⟩, rfl⟩
      change app.levels.dismissAlert = app.levels
      rw [hlevels]
      rfl
  | release self =>
      simp only [act] at hp
      split at hp
      · cases hp
      · cases hp
        exact ⟨⟨rfl, rfl, rfl, rfl⟩, rfl⟩
  | keychain error =>
      cases hp
      exact ⟨⟨rfl, rfl, rfl, rfl⟩, rfl⟩
  | selectTab tab =>
      simp only [act, AppRuns.selectTab, hlevels] at hp
      cases hp
  | confirm =>
      simp only [act, AppRuns.confirm, hlevels] at hp
      cases hp
  | _ => exact absurd hp (whenInFront_splash hlevels (by decide))

theorem Waiting.act {e : Act Image} (h : Waiting keptUser w)
    (hp : AppRuns.act ios e w.client = some p) : Waiting keptUser (w.exec p) := by
  obtain ⟨hidle, hsent⟩ := idle_act h.levels hp
  refine ⟨hidle.levels.trans h.levels, hidle.nextController.trans h.nextController,
    hidle.authUsers.trans h.authUsers, hidle.currentUser.trans h.currentUser, ?_, h.journal⟩
  rw [Callback.World.exec_inFlight, hsent, List.append_nil]
  exact h.inFlight

/-- What the splash screen of the launch presents. -/
def first : Option AuthUser → Level.Kind
  | none => .navigation
  | some user => if user.isEmailVerified then .tabBar else .single ⟨1, .emailVerification⟩

/-- The screen that the launch leads to lies over the splash screen. -/
def Left (keptUser : Option AuthUser) (levels : Levels) : Prop :=
  [first keptUser, .single splash] <:+ levels.kinds

theorem levels_loadUser (app : App Image) :
    ((SplashViewController.loadUser splash : Program Image Data).run app).1 = app := by
  cases huid : app.currentUid with
  | none =>
      unfold SplashViewController.loadUser
      rw [run_guardUid_none _ huid]
  | some uid =>
      unfold SplashViewController.loadUser
      rw [run_guardUid_some _ huid]
      rfl

theorem left_present {level : Level} (hlevels : app.levels = [.single splash])
    (hkind : level.kind = some (first keptUser)) :
    Left keptUser (app.levels.present splash level) := by
  have hpresent : app.levels.present splash level = [level, .single splash] := by
    rw [hlevels]
    rfl
  rw [hpresent, Left, Levels.kinds, List.filterMap_cons_some hkind]
  exact List.suffix_refl _

theorem left_deadlineSignedOut (hlevels : app.levels = [.single splash]) :
    Left none ((SplashViewController.deadlineSignedOut splash : Program Image Data).run
      app).1.levels :=
  left_present hlevels rfl

theorem left_deadlineSignedIn {user : AuthUser} (hlevels : app.levels = [.single splash])
    (hnext : app.nextController = 1) (hcurrent : app.currentUser = some 0)
    (husers : app.authUsers = [user]) :
    Left (some user) ((SplashViewController.deadlineSignedIn splash : Program Image Data).run
      app).1.levels := by
  have huser : app.authUsers[0]? = some user := by
    rw [husers]
    rfl
  rw [SplashViewController.deadlineSignedIn, Callback.Prog.run_append, levels_loadUser,
    run_guardUser_some _ hcurrent huser]
  dsimp only
  by_cases hverified : user.isEmailVerified = true
  · rw [if_pos hverified]
    exact left_present hlevels (congrArg some (if_pos hverified).symm)
  · rw [if_neg hverified]
    have hfirst : (Level.single ⟨app.nextController, .emailVerification⟩).kind =
        some (first (some user)) := by
      rw [hnext]
      exact congrArg some (if_neg hverified).symm
    exact left_present hlevels hfirst

theorem Waiting.left {n : ℕ} {q : Pending Image Data} (h : Waiting keptUser w)
    (hq : w.inFlight[n]? = some q) (a : q.call.Response Image) :
    Left keptUser (w.respond (service Image Data) n q a).client.levels := by
  obtain ⟨_, rfl, _⟩ := Callback.World.respond_single (service Image Data) h.inFlight hq a
  rw [Callback.World.respond_client]
  cases keptUser with
  | none => exact left_deadlineSignedOut h.levels
  | some user =>
      exact left_deadlineSignedIn h.levels h.nextController h.currentUser h.authUsers

theorem Left.not_visible {levels : Levels} {next : ℕ} (h : Left keptUser levels)
    (hstacked : Levels.Stacked levels next) : levels.visibleController ≠ some splash := by
  intro hvisible
  obtain ⟨above, habove⟩ := h
  have hmem : .single splash ∈ levels.kinds := by
    rw [← habove]
    simp
  obtain ⟨rest, hrest, hother⟩ := hstacked.head_kinds hmem hvisible
  have hfirst : first keptUser ≠ .single splash := by
    unfold first
    split
    · nofun
    · split
      · nofun
      · nofun
  rw [hrest] at habove
  cases above with
  | nil =>
      obtain ⟨heq, _⟩ := List.cons.inj habove
      exact hfirst heq
  | cons kind above =>
      obtain ⟨_, htail⟩ := List.cons.inj habove
      apply hother
      rw [← htail]
      simp

/-! ## Runs -/

/-- The launch is over when the delay has passed, and stays over. -/
def Launching (keptUser : Option AuthUser) (w : World Image Data) : Prop :=
  Waiting keptUser w ∨ w.journal ≠ [] ∧ Left keptUser w.client.levels

theorem launching_step {e : AppRuns.Event Image Data} (hsteady : Steady ios w)
    (h : Launching keptUser w) (hstep : AppRuns.step ios w e = some w') :
    Launching keptUser w' := by
  rcases h with hwaiting | ⟨hjournal, hleft⟩
  · cases e with
    | outside server =>
        cases hstep
        exact .inl ⟨hwaiting.levels, hwaiting.nextController, hwaiting.authUsers,
          hwaiting.currentUser, hwaiting.inFlight, hwaiting.journal⟩
    | app e =>
        cases e with
        | act e =>
            obtain ⟨p, hp, rfl⟩ := (Callback.step_act (service Image Data) (act ios)).mp hstep
            exact .inl (hwaiting.act hp)
        | complete n o =>
            obtain ⟨q, hq, rfl⟩ :=
              (Callback.step_complete (service Image Data) (act ios)).mp hstep
            exact .inr ⟨List.append_ne_nil_of_right_ne_nil _ nofun, hwaiting.left hq _⟩
  · have hkinds := Levels.kinds_of_moves (VerificationScreen.moved_step hsteady hstep)
    refine .inr ⟨?_, hleft.trans hkinds⟩
    cases e with
    | outside server =>
        cases hstep
        exact hjournal
    | app e =>
        cases e with
        | act e =>
            obtain ⟨p, hp, rfl⟩ := (Callback.step_act (service Image Data) (act ios)).mp hstep
            exact hjournal
        | complete n o =>
            obtain ⟨q, hq, rfl⟩ :=
              (Callback.step_complete (service Image Data) (act ios)).mp hstep
            exact List.append_ne_nil_of_right_ne_nil _ nofun

theorem launching_of_run
    (hrun : EventRun.run (AppRuns.step ios) (launched server keptUser clock) es = some w) :
    Launching keptUser w := by
  apply (EventRun.run_invariant (I := fun v => Steady ios v ∧ Launching keptUser v) _ _ hrun).2
  · exact fun v e v' hv hstep => ⟨hv.1.step hstep, launching_step hv.1 hv.2 hstep⟩
  · exact ⟨steady_launched server keptUser clock, .inl waiting_launched⟩

/-- The splash screen of the launch is seen until its delay has passed and never again, and what it
has led to then stays the first screen over it. -/
theorem launch_of_run
    (hrun : EventRun.run (AppRuns.step ios) (launched server keptUser clock) es = some w) :
    (w.client.levels.visibleController = some splash ↔ w.journal = []) ∧
      (w.journal ≠ [] → [first keptUser, .single splash] <:+ w.client.levels.kinds) := by
  obtain ⟨_, hstacked⟩ := VerificationScreen.stacked_run hrun
  rcases launching_of_run hrun with hwaiting | ⟨hjournal, hleft⟩
  · refine ⟨iff_of_true ?_ hwaiting.journal, fun h => absurd hwaiting.journal h⟩
    rw [hwaiting.levels]
    rfl
  · exact ⟨iff_of_false (hleft.not_visible hstacked) hjournal, fun _ => hleft⟩

/-- Ana was kept signed in, and her address is not verified. -/
theorem launch_of_run_unverified : ∃ w, EventRun.run (AppRuns.step Platform.transparent)
      (launched Server.empty (some VerificationScreen.unverifiedAna))
      [.app (.complete 0 .success)] = some w ∧
    (w.client.levels.visibleController = some splash ↔ w.journal = []) ∧
    (w.journal ≠ [] → [.single ⟨1, .emailVerification⟩, .single splash] <:+
      w.client.levels.kinds) := by
  obtain ⟨w, hrun, _⟩ := VerificationScreen.unverifiedLaunch_run
  exact ⟨w, hrun, launch_of_run hrun⟩

/-- In every run, a screen that has been presented is never dismissed. -/
theorem kinds_of_run {fs : List (AppRuns.Event Image Data)}
    (hrun : EventRun.run (AppRuns.step ios) (launched server keptUser clock) es = some w)
    (hlater : EventRun.run (AppRuns.step ios) w fs = some w') :
    w.client.levels.kinds <:+ w'.client.levels.kinds := by
  obtain ⟨hsteady, _⟩ := VerificationScreen.moved_run (steady_launched server keptUser clock) hrun
  obtain ⟨_, hmoved⟩ := VerificationScreen.moved_run hsteady hlater
  exact Levels.kinds_of_moves hmoved

theorem kinds_of_run_unverified : ∃ w w', EventRun.run (AppRuns.step Platform.transparent)
      (launched Server.empty (some VerificationScreen.unverifiedAna))
      [.app (.complete 0 .success)] = some w ∧
    EventRun.run (AppRuns.step Platform.transparent) w
      [.app (.act (.resend ⟨1, .emailVerification⟩)), .app (.complete 0 .success)] = some w' ∧
    w.client.levels.kinds <:+ w'.client.levels.kinds := by
  obtain ⟨w, w', hrun, hlater⟩ : ∃ w w', EventRun.run (AppRuns.step Platform.transparent)
        (launched Server.empty (some VerificationScreen.unverifiedAna))
        [.app (.complete 0 .success)] = some w ∧
      EventRun.run (AppRuns.step Platform.transparent) w
        [.app (.act (.resend ⟨1, .emailVerification⟩)), .app (.complete 0 .success)] =
          some w' := ⟨_, _, rfl, rfl⟩
  exact ⟨w, w', hrun, hlater, kinds_of_run hrun hlater⟩

end PresentedScreens

end GiveMeMovies
