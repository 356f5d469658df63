import GiveMeMovies.AppResponses
import GiveMeMovies.Registration

/-!
# The email verification screen

Registration pushes the screen. The splash screen presents it, with no navigation controller around
it, when the user that the keychain kept is not verified. Continue pushes the next screen and Back
pops this one, so that the second way in has no way out.
-/

namespace GiveMeMovies.VerificationScreen

open Program AppRuns AppRequests EmailVerificationViewController

variable {Image Data : Type} {ios : Platform Image Data} {app : App Image}
  {w w' : World Image Data} {self : Controller}

/-! ## Runs move the screens -/

theorem moved_receive (request : Request Data) (a : request.Response Image) (app : App Image) :
    Moved app (receive request a app) := by
  unfold Moved
  rw [(receive_sameScreen request a app).levels, (receive_sameScreen request a app).nextController]

theorem moved_selectTab {tab : Tab} {p : Program Image Data}
    (hp : act ios (.selectTab tab) app = some p) (happ : Unset app) :
    Moved app (p.run app).1 := by
  simp only [act] at hp
  unfold selectTab at hp
  split at hp
  next selected stack below hlevels =>
    split at hp
    · split at hp
      next htab =>
        cases hp
        obtain ⟨rfl, rfl⟩ := htab
        have hshow : Moved app app.showProfile := by
          change Levels.Moves (app.levels, _)
            (.tabBar .profile [⟨app.nextController, .profile⟩] :: app.levels.tail, _)
          rw [hlevels]
          exact .single (.showProfile selected below app.nextController)
        have hload : (ProfileViewController.loadUserData ios ⟨app.nextController, .profile⟩ ++
            ProfileViewController.loadUserData ios ⟨app.nextController, .profile⟩ :
              Program Image Data).Within (contract ios (fun _ => "") everyCall Moved) :=
          within_profileLoad.append within_profileLoad
        have hloaded : Moved app.showProfile _ := moved_within hload happ
        rw [Callback.Prog.run_append, Callback.Prog.run_append]
        rw [Callback.Prog.run_append] at hloaded
        exact hshow.trans hloaded
      next =>
        cases hp
        change Levels.Moves (app.levels, _) (.tabBar tab stack :: app.levels.tail, _)
        rw [hlevels]
        exact .single (.selectTab selected tab stack below app.nextController)
    · cases hp
  next => cases hp

theorem moved_act {e : Act Image} {p : Program Image Data} (hp : act ios e app = some p)
    (happ : Unset app) : Moved app (p.run app).1 := by
  by_cases hselect : selects e = true
  · cases e with
    | selectTab tab => exact moved_selectTab hp happ
    | _ => cases hselect
  · have hwithin : p.Within (contract ios (fun _ => "") everyCall Moved) :=
      within_act allowsLoading_moved.quiet (fun _ => allowsLoading_moved)
        (fun h => absurd h hselect) (fun _ => allowsReload_everyCall) hp
    exact moved_within hwithin happ

theorem moved_response {urlOf : StorageReference → String} {p : Pending Image Data}
    (h : Known ios urlOf everyCall p) {a : p.call.Response Image}
    (ha : Journal.Genuine urlOf ⟨p.call, a⟩)
    (happ : Unset app) : Moved app ((p.handler a).run app).1 := by
  have hquiet : Quiet (Moved : App Image → App Image → Prop) := allowsLoading_moved.quiet
  have herror {self : Controller} (msg : Option String) :
      Moved app ((weakly self (showErrorWith self (some "Error") msg) :
        Program Image Data).run app).1 := by
    have hwithin : (weakly self (showErrorWith self (some "Error") msg) : Program Image Data).Within
      (contract ios urlOf everyCall Moved) := (lenient hquiet).within_weakError _ _
    exact moved_within hwithin happ
  by_cases hstamp : stamps p.call = false
  · exact moved_within (within_handler hquiet h (fun _ => allowsLoading_moved)
      (fun _ => allowsShared_moved) hstamp (fun _ _ => allowsReference_everyCall) ha) happ
  cases h with
  | createAccount self email password =>
      cases a with
      | error error => exact herror _
      | ok user =>
          change Moved app ((weakly self _).run app).1
          rw [run_weakly]
          split
          · exact moved_rfl
          · rw [RegisterViewController.run_saveUser]
            exact moved_rfl
  | updateCurrentUser self user uid =>
      cases a with
      | some error => exact herror _
      | none =>
          by_cases hself : app.released self = false
          · dsimp only
            rw [run_currentUserUpdated hself]
            exact moved_rfl
          · dsimp only
            rw [run_currentUserUpdated_released (by simpa using hself)]
            exact moved_rfl
  | _ => exact absurd rfl hstamp

theorem moved_step {e : AppRuns.Event Image Data} (h : Steady ios w)
    (hstep : AppRuns.step ios w e = some w') : Moved w.client w'.client := by
  cases e with
  | outside server =>
      cases hstep
      exact moved_rfl
  | app e =>
      cases e with
      | act e =>
          obtain ⟨p, hp, rfl⟩ := (Callback.step_act (service Image Data) (act ios)).mp hstep
          exact moved_act hp h.unset
      | complete n outcome =>
          obtain ⟨p, hp, rfl⟩ := (Callback.step_complete (service Image Data) (act ios)).mp hstep
          obtain ⟨_, hmem⟩ := h.known p (List.mem_of_getElem? hp)
          obtain ⟨urlOf, hmem, ha⟩ :=
            known_genuine hmem (Journal.genuine_reply p.call outcome w.server)
          exact (moved_receive _ _ _).trans (moved_response hmem ha (h.unset.receive _ _))

theorem moved_run {es : List (AppRuns.Event Image Data)} (h : Steady ios w)
    (hrun : EventRun.run (AppRuns.step ios) w es = some w') :
    Steady ios w' ∧ Moved w.client w'.client := by
  apply EventRun.run_invariant (I := fun v => Steady ios v ∧ Moved w.client v.client) _ _ hrun
  · intro v e v' hv hstep
    exact ⟨hv.1.step hstep, hv.2.trans (moved_step hv.1 hstep)⟩
  · exact ⟨h, moved_rfl⟩

theorem stacked_launched (server : Server Data) (keptUser : Option AuthUser) (clock : Clock) :
    Levels.Stacked (launched server keptUser clock : World Image Data).client.levels
      (launched server keptUser clock : World Image Data).client.nextController := by
  have hlaunch : Levels.Stacked [.single splash] 1 := by
    constructor
    · exact List.nodup_singleton splash
    · intro controller hc
      rw [List.mem_singleton.mp hc]
      exact Nat.one_pos
    · intro level hlevel
      rw [List.mem_singleton.mp hlevel]
      trivial
  cases keptUser with
  | none => exact hlaunch
  | some user => exact hlaunch

/-- In every run no controller stands in two places. -/
theorem stacked_run {server : Server Data} {keptUser : Option AuthUser} {clock : Clock}
    {es : List (AppRuns.Event Image Data)}
    (hrun : EventRun.run (AppRuns.step ios) (launched server keptUser clock) es = some w) :
    Steady ios w ∧ Levels.Stacked w.client.levels w.client.nextController := by
  obtain ⟨hsteady, hmoved⟩ := moved_run (steady_launched server keptUser clock) hrun
  exact ⟨hsteady, (stacked_launched server keptUser clock).moves hmoved⟩

/-! ## Continue and Back -/

/-- The user sees `self`, which is in memory. -/
def Sees (app : App Image) (self : Controller) : Prop :=
  app.levels.visibleController = some self ∧ app.released self = false

variable (ios) in
/-- The event sends the request `p`, which is at place `n` in flight when the run has come to
`w'`. -/
def Awaited (w : World Image Data) (e : Act Image) (w' : World Image Data) (n : ℕ)
    (p : Pending Image Data) : Prop :=
  ∃ w₁ es, AppRuns.step ios w (.app (.act e)) = some w₁ ∧
    w₁.inFlight[w.inFlight.length]? = some p ∧
    EventRun.run (AppRuns.step ios) w₁ es = some w' ∧ follow w.inFlight.length es = some n

/-- The app when the handler of the answered request runs. -/
def received (w : World Image Data) (p : Pending Image Data) (outcome : Outcome Image) :
    App Image := receive p.call.request (p.call.request.reply outcome w.server) w.client

theorem levels_received (w : World Image Data) (p : Pending Image Data)
    (outcome : Outcome Image) : (received w p outcome).levels = w.client.levels :=
  (receive_sameScreen _ _ _).levels

theorem released_received {p : Pending Image Data} {outcome : Outcome Image} :
    (received w p outcome).released self = w.client.released self :=
  congrFun (receive_sameScreen _ _ _).released self

variable (ios) in
/-- While the user sees the screen, a reload after Continue that finds the address verified leads to
the welcome information, and a reload after Back that does not, with the user still signed in, leads
away from the screen. -/
structure NoDeadEnd (w : World Image Data) (screen : Controller) : Prop where
  continues : ∀ user w' n p outcome, w.client.currentUser = some user →
    Awaited ios w (.checkVerification screen) w' n p → Sees w'.client screen →
    p.call.request.SucceedsUnder outcome w'.server →
    (received w' p outcome).isEmailVerified user = true →
    ∃ info, (answer w' n p outcome).client.levels.visibleController = some info ∧
      info.screen = .welcomeInfo
  cancels : ∀ user w' n p outcome, w.client.currentUser = some user →
    Awaited ios w (.back screen) w' n p → Sees w'.client screen →
    (received w' p outcome).isEmailVerified user = false →
    (received w' p outcome).currentUid.isSome →
    (answer w' n p outcome).client.levels.visibleController ≠ some screen

theorem Awaited.moved {e : Act Image} {n : ℕ} {p : Pending Image Data} (hsteady : Steady ios w)
    (h : Awaited ios w e w' n p) : Moved w.client w'.client := by
  obtain ⟨w₁, es, hstep, _, hrun, _⟩ := h
  obtain ⟨_, hmoved⟩ := moved_run (hsteady.step hstep) hrun
  exact (moved_step hsteady hstep).trans hmoved

theorem Awaited.sent {e : Act Image} {n : ℕ} {p : Pending Image Data}
    (h : Awaited ios w e w' n p) :
    ∃ program, act ios e w.client = some program ∧ (program.run w.client).2.head? = some p := by
  obtain ⟨w₁, es, hstep, hsent, _, _⟩ := h
  obtain ⟨program, hprogram, rfl⟩ := (Callback.step_act (service Image Data) (act ios)).mp hstep
  rw [Callback.World.exec_inFlight, List.getElem?_append_right (Nat.le_refl _), Nat.sub_self,
    ← List.head?_eq_getElem?] at hsent
  exact ⟨program, hprogram, hsent⟩

/-- Only a signed-in user is reloaded. -/
theorem sent_guardUser {body : ℕ → AuthUser → Program Image Data} {p : Pending Image Data}
    (h : ((guardUser body).run app).2.head? = some p) :
    ∃ user authUser, app.currentUser = some user ∧ app.authUser = some authUser ∧
      ((body user authUser).run app).2.head? = some p := by
  cases hauth : app.authUser with
  | none =>
      have hnone : ((guardUser body).run app).2 = [] := by simp [guardUser, hauth]
      rw [hnone] at h
      cases h
  | some authUser =>
      obtain ⟨user, hc, hu⟩ := Option.bind_eq_some_iff.mp hauth
      rw [run_guardUser_some body hc hu] at h
      exact ⟨user, authUser, hc, rfl, h⟩

variable (ios) in
/-- The reload that Continue sends. -/
def continued (self : Controller) (user : ℕ) (uid : Uid) : Pending Image Data :=
  ⟨⟨.verificationContinue, self, .reload user uid⟩, fun _ => checkedEmailVerification ios self user⟩

/-- The reload that Back sends. -/
def cancelled (self : Controller) (user : ℕ) (authUser : AuthUser) : Pending Image Data :=
  ⟨⟨.verificationBackReload, self, .reload user authUser.uid⟩,
    fun _ => onBackReloaded self user authUser⟩

theorem client_continued (w : World Image Data) (n user : ℕ) (uid : Uid)
    (outcome : Outcome Image) : (answer w n (continued ios self user uid) outcome).client =
      ((checkedEmailVerification ios self user : Program Image Data).run
        (received w (continued ios self user uid) outcome)).1 := rfl

theorem client_cancelled (w : World Image Data) (n user : ℕ) (authUser : AuthUser)
    (outcome : Outcome Image) : (answer w n (cancelled self user authUser) outcome).client =
      ((onBackReloaded self user authUser : Program Image Data).run
        (received w (cancelled self user authUser) outcome)).1 := rfl

theorem received_continued (w : World Image Data) (user : ℕ) (uid : Uid)
    (outcome : Outcome Image) : received w (continued ios self user uid) outcome =
      receive (Request.reload user uid : Request Data)
        ((Request.reload user uid).reply outcome w.server) w.client := rfl

theorem Awaited.of_continue {n : ℕ} {p : Pending Image Data}
    (h : Awaited ios w (.checkVerification self) w' n p) :
    ∃ user authUser, w.client.currentUser = some user ∧ w.client.authUser = some authUser ∧
      p = continued ios self user authUser.uid := by
  obtain ⟨program, hprogram, hsent⟩ := h.sent
  obtain ⟨rfl, _⟩ := of_whenInFront hprogram
  obtain ⟨user, authUser, hc, hauth, hreload⟩ := sent_guardUser hsent
  exact ⟨user, authUser, hc, hauth, (Option.some.inj hreload).symm⟩

theorem Awaited.of_back {n : ℕ} {p : Pending Image Data}
    (hscreen : self.screen = .emailVerification) (h : Awaited ios w (.back self) w' n p) :
    ∃ user authUser, w.client.currentUser = some user ∧ w.client.authUser = some authUser ∧
      p = cancelled self user authUser := by
  obtain ⟨program, hprogram, hsent⟩ := h.sent
  simp only [act] at hprogram
  split at hprogram
  · cases hprogram
    rw [back, hscreen] at hsent
    obtain ⟨user, authUser, hc, hauth, hreload⟩ := sent_guardUser hsent
    exact ⟨user, authUser, hc, hauth, (Option.some.inj hreload).symm⟩
  · cases hprogram

/-- Continue pushes, where there is a navigation controller. -/
theorem levels_checked {user : ℕ} (hverified : app.isEmailVerified user = true)
    (halive : app.released self = false) :
    ((checkedEmailVerification ios self user : Program Image Data).run app).1.levels =
      if app.levels.hasNavigation self then
        app.levels.push self ⟨app.nextController, .welcomeInfo⟩
      else app.levels := by
  have hsame : app.removeLoadingSpinner.levels = app.levels := rfl
  rw [checkedEmailVerification, Callback.Prog.run_read, if_pos hverified, run_weakly_alive _ halive,
    Callback.Prog.run_append, run_removeLoadingSpinner, pushViewController,
    Callback.Prog.run_read, hsame]
  dsimp only
  by_cases hnavigation : app.levels.hasNavigation self = true
  · rw [if_pos hnavigation, if_pos hnavigation]
    rfl
  · rw [if_neg hnavigation, if_neg hnavigation]
    rfl

theorem levels_cancelled {user : ℕ} {authUser : AuthUser}
    (hverified : app.isEmailVerified user = false) (halive : app.released self = false)
    (hsigned : app.currentUid.isSome) :
    ((onBackReloaded self user authUser : Program Image Data).run app).1.levels =
      app.levels.pop self := by
  obtain ⟨uid, huid⟩ := Option.isSome_iff_exists.mp hsigned
  have hdelete : ((deleteAccount self uid : Program Image Data).run app).1 = app := by
    rw [deleteAccount, Callback.Prog.run_read]
    split <;> rfl
  rw [onBackReloaded, Callback.Prog.run_read, if_neg (by simp [hverified]),
    Callback.Prog.run_append, run_send]
  dsimp only
  rw [run_guardUid_some _ huid, Callback.Prog.run_append, run_weakly_alive _ halive, hdelete,
    run_weakly_alive _ halive]
  rfl

theorem noDeadEnd_of_signedOut (hscreen : self.screen = .emailVerification)
    (hauth : w.client.authUser = none) : NoDeadEnd ios w self := by
  constructor
  · intro user w' n p outcome _ hawaited
    obtain ⟨_, _, _, hsigned, _⟩ := hawaited.of_continue
    rw [hauth] at hsigned
    cases hsigned
  · intro user w' n p outcome _ hawaited
    obtain ⟨_, _, _, hsigned, _⟩ := hawaited.of_back hscreen
    rw [hauth] at hsigned
    cases hsigned

/-- A pushed controller still has its navigation controller when an answer comes. -/
theorem noDeadEnd_of_navigation (hsteady : Steady ios w)
    (hstacked : Levels.Stacked w.client.levels w.client.nextController)
    (hscreen : self.screen = .emailVerification)
    (hnavigation : w.client.levels.hasNavigation self = true) : NoDeadEnd ios w self := by
  obtain ⟨level, hmem, _, hself⟩ := Levels.hasNavigation_iff.mp hnavigation
  have hnumber : self.number < w.client.nextController :=
    hstacked.fresh self (Levels.mem_controllers.mpr ⟨level, hmem, hself⟩)
  have hkept {w' : World Image Data} (hmoved : Moved w.client w'.client) :
      .single self ∉ w'.client.levels := by
    intro hsingle
    exact hstacked.single_not_mem hnavigation (Levels.single_of_moves hnumber hmoved hsingle)
  constructor
  · intro user w' n p outcome hc hawaited hsees _ hverified
    have hsingle := hkept (hawaited.moved hsteady)
    have hvisible := hsees.1
    rw [← levels_received w' p outcome] at hsingle hvisible
    obtain ⟨_, authUser, hc', _, rfl⟩ := hawaited.of_continue
    obtain rfl := Option.some.inj (hc.symm.trans hc')
    rw [client_continued, levels_checked hverified (released_received.trans hsees.2),
      if_pos (Levels.hasNavigation_of_visible hvisible hsingle),
      Levels.visible_push hvisible hsingle]
    exact ⟨_, rfl, rfl⟩
  · intro user w' n p outcome hc hawaited hsees hverified hsigned
    have hmoved := hawaited.moved hsteady
    have hsingle := hkept hmoved
    have hvisible := hsees.1
    have hstacked' : Levels.Stacked w'.client.levels w'.client.nextController :=
      hstacked.moves hmoved
    rw [← levels_received w' p outcome] at hsingle hvisible hstacked'
    obtain ⟨_, authUser, hc', _, rfl⟩ := hawaited.of_back hscreen
    obtain rfl := Option.some.inj (hc.symm.trans hc')
    rw [client_cancelled, levels_cancelled hverified (released_received.trans hsees.2) hsigned]
    exact hstacked'.visible_pop hvisible hsingle (by simp [hscreen]) (by simp [hscreen])

/-- The account of `uid` has been verified from elsewhere. -/
def verifiedServer (server : Server Data) (uid : Uid) : Server Data :=
  { server with accounts := [⟨uid, "", "", true⟩] }

theorem reply_verifiedServer (server : Server Data) (user : ℕ) (uid : Uid) :
    (Request.reload user uid).reply (.success : Outcome Image) (verifiedServer server uid) =
      .ok true := by
  have haccount : (verifiedServer server uid).account uid = some ⟨uid, "", "", true⟩ := by
    simp [verifiedServer, Server.account]
  simp [Request.reply, Request.authReply, haccount]

theorem run_checkEmailVerification {user : ℕ} {authUser : AuthUser}
    (hc : app.currentUser = some user) (hu : app.authUsers[user]? = some authUser) :
    (checkEmailVerification ios self : Program Image Data).run app =
      (app.showLoadingSpinner self, [continued ios self user authUser.uid]) := by
  rw [checkEmailVerification, Callback.Prog.run_append, run_showLoadingSpinner,
    @run_guardUser_some _ _ (app.showLoadingSpinner self) _ _ _ hc hu]
  rfl

variable (ios) in
/-- The address is verified from elsewhere once Continue has been tapped. -/
def continuedVerified (w : World Image Data) (self : Controller) (uid : Uid) :
    World Image Data :=
  { w.exec (checkEmailVerification ios self) with server := verifiedServer w.server uid }

theorem awaited_continued {user : ℕ} {authUser : AuthUser}
    (hfront : inFront w.client self .emailVerification = true)
    (hc : w.client.currentUser = some user) (hu : w.client.authUsers[user]? = some authUser) :
    Awaited ios w (.checkVerification self) (continuedVerified ios w self authUser.uid)
      w.inFlight.length (continued ios self user authUser.uid) := by
  have hact : act ios (.checkVerification self) w.client = some (checkEmailVerification ios self) :=
    if_pos hfront
  refine ⟨_, [.outside (verifiedServer w.server authUser.uid)],
    (Callback.step_act (service Image Data) (act ios)).mpr ⟨_, hact, rfl⟩, ?_, rfl, rfl⟩
  rw [Callback.World.exec_inFlight, run_checkEmailVerification hc hu,
    List.getElem?_append_right (Nat.le_refl _), Nat.sub_self]
  rfl

/-- On a level of its own, Continue does nothing when the address has been verified. -/
theorem deadEnd_of_single {authUser : AuthUser}
    (hfront : inFront w.client self .emailVerification = true)
    (hnavigation : ¬ w.client.levels.hasNavigation self = true)
    (hauth : w.client.authUser = some authUser) : ¬ NoDeadEnd ios w self := by
  intro h
  obtain ⟨hfirst, hscreen, halive⟩ := inFront_iff.mp hfront
  obtain ⟨user, hc, hu⟩ := Option.bind_eq_some_iff.mp hauth
  let p : Pending Image Data := continued ios self user authUser.uid
  let w' : World Image Data := continuedVerified ios w self authUser.uid
  have hclient : w'.client = w.client.showLoadingSpinner self :=
    congrArg Prod.fst (run_checkEmailVerification hc hu)
  have hlevels : w'.client.levels = w.client.levels := by rw [hclient]; rfl
  have hvisible : w'.client.levels.visibleController = some self := by
    rw [hlevels]
    exact Levels.visible_of_isFront hfirst
  have hsees : Sees w'.client self := by
    refine ⟨hvisible, ?_⟩
    rw [hclient]
    exact halive
  have hreply : (Request.reload user authUser.uid).reply (.success : Outcome Image) w'.server =
      .ok true := reply_verifiedServer w.server user authUser.uid
  have hverified : (received w' p .success).isEmailVerified user = true := by
    rw [received_continued, hreply, hclient]
    simp [receive, App.setEmailVerified, App.isEmailVerified, App.showLoadingSpinner, hu]
  have hsame : (answer w' w.inFlight.length p .success).client.levels = w'.client.levels := by
    rw [client_continued, levels_checked hverified (released_received.trans hsees.2),
      levels_received, hlevels, if_neg hnavigation]
  obtain ⟨info, hinfo, hwelcome⟩ := h.continues user w' w.inFlight.length p .success hc
    (awaited_continued hfront hc hu) hsees ⟨true, hreply⟩ hverified
  rw [hsame, hvisible] at hinfo
  cases hinfo
  rw [hscreen] at hwelcome
  cases hwelcome

/-- In every state of every run, the verification screen in front is a dead end unless it has a
navigation controller or nobody is signed in. -/
theorem noDeadEnd_iff {server : Server Data} {keptUser : Option AuthUser} {clock : Clock}
    {es : List (AppRuns.Event Image Data)}
    (hrun : EventRun.run (AppRuns.step ios) (launched server keptUser clock) es = some w)
    (hfront : inFront w.client self .emailVerification = true) :
    NoDeadEnd ios w self ↔
      w.client.levels.hasNavigation self = true ∨ w.client.authUser = none := by
  obtain ⟨hsteady, hstacked⟩ := stacked_run hrun
  obtain ⟨_, hscreen, _⟩ := inFront_iff.mp hfront
  constructor
  · intro h
    by_contra hneither
    obtain ⟨hnavigation, hsigned⟩ := not_or.mp hneither
    obtain ⟨authUser, hauth⟩ := Option.ne_none_iff_exists'.mp hsigned
    exact deadEnd_of_single hfront hnavigation hauth h
  · rintro (hnavigation | hauth)
    · exact noDeadEnd_of_navigation hsteady hstacked hscreen hnavigation
    · exact noDeadEnd_of_signedOut hscreen hauth

/-- Ana registers, and her verification screen is pushed. -/
def registerAna : List (AppRuns.Event ℕ (ℕ × ℚ)) :=
  [.app (.complete 0 .success), .app (.act (.createAccount ⟨1, .welcome⟩)),
    .app (.act (.register ⟨2, .register⟩ Registration.anaFields)),
    .app (.complete 0 (.created Account.ana.uid)), .app (.complete 0 .success)]

theorem registerAna_run : ∃ w, EventRun.run (AppRuns.step Platform.transparent)
      (launched Server.empty none) registerAna = some w ∧
    inFront w.client ⟨3, .emailVerification⟩ .emailVerification = true := ⟨_, rfl, rfl⟩

theorem noDeadEnd_iff_ana : ∃ w, EventRun.run (AppRuns.step Platform.transparent)
      (launched Server.empty none) registerAna = some w ∧
    (NoDeadEnd Platform.transparent w ⟨3, .emailVerification⟩ ↔
      w.client.levels.hasNavigation ⟨3, .emailVerification⟩ = true ∨
        w.client.authUser = none) := by
  obtain ⟨w, hrun, hfront⟩ := registerAna_run
  exact ⟨w, hrun, noDeadEnd_iff hrun hfront⟩

/-- The user that the keychain kept has not followed the verification link yet. -/
def unverifiedAna : AuthUser := ⟨Account.ana.uid, Account.ana.email, false⟩

theorem unverifiedLaunch_run : ∃ w, EventRun.run (AppRuns.step Platform.transparent)
      (launched Server.empty (some unverifiedAna)) [.app (.complete 0 .success)] = some w ∧
    inFront w.client ⟨1, .emailVerification⟩ .emailVerification = true ∧
    w.client.levels.hasNavigation ⟨1, .emailVerification⟩ = false ∧
    w.client.authUser = some unverifiedAna := ⟨_, rfl, rfl, rfl, rfl⟩

theorem unverifiedLaunch_deadEnd : ∃ w, EventRun.run (AppRuns.step Platform.transparent)
      (launched Server.empty (some unverifiedAna)) [.app (.complete 0 .success)] = some w ∧
    inFront w.client ⟨1, .emailVerification⟩ .emailVerification = true ∧
    ¬ NoDeadEnd Platform.transparent w ⟨1, .emailVerification⟩ := by
  obtain ⟨w, hrun, hfront, hnavigation, hauth⟩ := unverifiedLaunch_run
  exact ⟨w, hrun, hfront, deadEnd_of_single hfront (by simp [hnavigation]) hauth⟩

end GiveMeMovies.VerificationScreen
