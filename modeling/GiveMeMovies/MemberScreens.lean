import GiveMeMovies.HomeOpening

/-!
# The screens of the member area

The dialogs and screens of the member area are reached from the area itself, by a user who sees
it, and a log out hides it. So none of them shows the area to anyone who did not see it before.
-/

namespace GiveMeMovies.AppRuns

open Program

variable {Image Data : Type} {ios : Platform Image Data}
variable {app app' app'' : App Image} {self owner : Controller}

/-- The levels are in order, and whoever sees the member area saw it before, as the same user. -/
structure Tame (app app' : App Image) : Prop where
  orderly : app'.levels.Orderly
  area : app'.levels.memberAreaVisible = true →
    app.levels.memberAreaVisible = true ∧ app'.verified = app.verified

theorem Tame.refl (h : app.levels.Orderly) : Tame app app := ⟨h, fun ha => ⟨ha, rfl⟩⟩

theorem Tame.of_sameView (h : app'.levels.Orderly) (hview : SameView app app') :
    Tame app app' := by
  refine ⟨h, fun ha => ⟨?_, hview.verified⟩⟩
  rwa [← hview.area]

theorem Tame.inside (h : app'.levels.Orderly) (ha : app.levels.memberAreaVisible = true)
    (hv : app'.verified = app.verified) : Tame app app' :=
  ⟨h, fun _ => ⟨ha, hv⟩⟩

theorem Tame.trans (h : Tame app app') (h' : Tame app' app'') : Tame app app'' := by
  refine ⟨h'.orderly, fun ha => ?_⟩
  obtain ⟨ha', hv'⟩ := h'.area ha
  obtain ⟨ha, hv⟩ := h.area ha'
  exact ⟨ha, hv'.trans hv⟩

theorem sameView_of_eq (hl : app'.levels = app.levels) (hc : app'.currentUser = app.currentUser)
    (hu : app'.authUsers = app.authUsers) : SameView app app' :=
  ⟨by rw [hl], verified_congr hc hu⟩

/-- A program of the contract shows nothing more of the member area. -/
theorem sameView_of_within {Entered : String → String → Prop} {p : Program Image Data}
    (hp : p.Within (contract Entered)) (h : app.levels.Orderly) :
    (p.run app).1.levels.Orderly ∧ SameView app (p.run app).1 :=
  ⟨hp.preserves h, hp.frames SameView.refl (fun _ _ _ => SameView.trans) h⟩

theorem Tame.run {Entered : String → String → Prop} {p : Program Image Data}
    (h : Tame app app') (hp : p.Within (contract Entered)) : Tame app (p.run app').1 := by
  obtain ⟨horderly, hview⟩ := sameView_of_within hp h.orderly
  exact h.trans (.of_sameView horderly hview)

/-- The member screen `controller` is on top of a tab bar, and no alert is shown. -/
structure InArea (controller : Controller) (app : App Image) : Prop where
  orderly : app.levels.Orderly
  member : controller.screen.isMember = true
  front : ∃ stack below, app.levels = .tabBar .profile (controller :: stack) :: below
  alerts : ∀ level ∈ app.levels, level.isAlert = false

theorem inArea_of_isFront (h : app.levels.Orderly) (hfront : app.levels.isFront self = true)
    (hself : self.screen.isMember = true) : InArea self app :=
  ⟨h, hself, h.front hfront hself, h.not_isAlert (Levels.canPresent_of_isFront hfront)⟩

theorem InArea.visible (h : InArea self app) : app.levels.memberAreaVisible = true := by
  obtain ⟨stack, below, hlevels⟩ := h.front
  have hsplash : self.screen ≠ .splash := by
    intro hs
    have hmember := h.member
    rw [hs] at hmember
    cases hmember
  rw [hlevels, Levels.memberAreaVisible_cons rfl]
  simpa [Level.isMemberArea] using hsplash

theorem InArea.of_levels (h : InArea self app) (hl : app'.levels = app.levels) :
    InArea self app' := by
  constructor
  · rw [hl]
    exact h.orderly
  · exact h.member
  · rw [hl]
    exact h.front
  · rw [hl]
    exact h.alerts

/-- A dialog of the Profile screen. -/
theorem InArea.dialog {alert : Alert} (h : InArea self app) :
    Tame app (app.present self (.alert self alert)) := by
  obtain ⟨stack, below, hlevels⟩ := h.front
  have hcan : app.levels.canPresent self = true := by
    rw [hlevels]
    simp [Levels.canPresent, Level.holds, Level.controllers]
  refine .inside ?_ h.visible rfl
  change (app.levels.present self (.alert self alert)).Orderly
  rw [Levels.present, if_pos hcan]
  refine ⟨?_, h.alerts, ?_⟩
  · intro level hlevel
    rcases List.mem_cons.mp hlevel with rfl | hlevel
    · trivial
    · exact h.orderly.placed level hlevel
  · intro owner alert' rest heq _
    injection heq with hhead hrest
    injection hhead with howner _
    rw [← hrest, ← howner]
    exact ⟨h.member, stack, below, hlevels⟩

theorem InArea.push {screen : Screen} (h : InArea self app) (hscreen : screen.inTab = true) :
    Tame app (app.push self screen) :=
  .inside (h.orderly.push_inside h.alerts h.member hscreen) h.visible rfl

theorem InArea.pop (h : InArea self app) : Tame app (app.pop self) :=
  .inside (h.orderly.pop_inside h.alerts) h.visible rfl

theorem InArea.profileInfoClick (h : InArea self app) :
    Tame app ((ProfileViewController.profileInfoClick ios self).run app).1 := by
  rw [ProfileViewController.profileInfoClick, pushViewController, Callback.Prog.run_read]
  split
  · have hload (controller : Controller) :
        (ProfileInformationViewController.setForm controller
            (fun form => { form with delegate := some self }) ++
          ProfileInformationViewController.viewDidLoad ios controller : Program Image Data).Within
          (contract fun _ _ => True) := by
      apply Callback.Prog.Within.append (within_setForm _)
      apply Callback.Prog.Within.append
      · exact within_same (fun _ => rfl) (fun _ => rfl) (fun _ => rfl)
      · exact within_guardUid fun _ _ _ _ => within_of_pending pending_informationLoad
    rw [Callback.Prog.run_append]
    exact (h.push rfl).run (hload _)
  · exact .refl h.orderly

theorem InArea.updateAccount (h : InArea self app) :
    Tame app ((ProfileInformationViewController.updateAccount ios self).run app).1 := by
  have hsent : ((ProfileInformationViewController.updateUser ios self).run app).1 = app := by
    rw [ProfileInformationViewController.updateUser, guardUser, Callback.Prog.run_read]
    split <;> rfl
  rw [ProfileInformationViewController.updateAccount]
  simp only [Callback.Prog.run_append, hsent]
  exact h.pop.trans (.of_sameView h.pop.orderly (sameView_of_eq rfl rfl rfl))

/-- A tab is selected in the member area, which stays visible. -/
theorem tame_selectTab {tab : Tab} {p : Program Image Data} (h : app.levels.Orderly)
    (hp : selectTab ios tab app = some p) : Tame app (p.run app).1 := by
  unfold selectTab at hp
  split at hp
  next selected stack below hlevels =>
    have hplaced := h.placed
    have halerts := h.alerts
    rw [hlevels] at hplaced halerts
    have hbelow : ∀ level ∈ below, level.WellPlaced :=
      fun l hl => hplaced l (List.mem_cons_of_mem _ hl)
    split at hp
    next harea =>
      have hvisible : app.levels.memberAreaVisible = true := by
        rw [hlevels, Levels.memberAreaVisible_cons rfl]
        exact harea
      have hselect (stack : List Controller) (hstack : (Level.tabBar tab stack).WellPlaced) :
          Tame app (app.selectTab tab stack) := by
        have horderly : (app.selectTab tab stack).levels.Orderly := by
          change Levels.Orderly (.tabBar tab stack :: app.levels.tail)
          rw [hlevels]
          exact .of_cons hstack hbelow halerts nofun
        exact .inside horderly hvisible rfl
      split at hp
      next htab =>
        cases hp
        have hprofile : Tame app app.showProfile := by
          have hselected := hselect [⟨app.nextController, .profile⟩]
            (fun c hc => by rw [List.mem_singleton.mp hc]; rfl)
          rw [htab.1] at hselected
          exact hselected.trans (.of_sameView hselected.orderly (sameView_of_eq rfl rfl rfl))
        have hload : (ProfileViewController.loadUserData ios ⟨app.nextController, .profile⟩).Within
            (contract fun _ _ => True) := within_profileLoad
        rw [Callback.Prog.run_append, Callback.Prog.run_append]
        exact (hprofile.run hload).run hload
      next =>
        cases hp
        exact hselect stack fun c hc => hplaced (.tabBar selected stack) List.mem_cons_self c hc
    next => cases hp
  next => cases hp

/-! ## Leaving the member area -/

/-- The splash screen that the Profile screen pushes hides the member area, whoever is signed
in. -/
theorem InArea.backToLoginScreen (h : InArea self app) :
    Tame app'' ((ProfileViewController.backToLoginScreen self : Program Image Data).run app).1 := by
  obtain ⟨stack, below, hlevels⟩ := h.front
  have hholds : (Level.tabBar .profile (self :: stack)).holds self = true := by
    simp [Level.holds, Level.controllers]
  have hnavigation : app.levels.hasNavigation self = true := by
    rw [hlevels, Levels.hasNavigation, List.any_cons, hholds]
    rfl
  have hpush : Tame app'' (app.push self .splash) := by
    refine ⟨h.orderly.push_inside h.alerts h.member rfl, fun hv => ?_⟩
    change (app.levels.push self ⟨app.nextController, .splash⟩).memberAreaVisible = true at hv
    rw [hlevels, Levels.push, List.map_cons, if_pos hholds] at hv
    cases hv
  rw [ProfileViewController.backToLoginScreen, pushViewController, Callback.Prog.run_read,
    if_pos hnavigation, Callback.Prog.run_append]
  rw [SplashViewController.viewDidLoad, Callback.Prog.run_read]
  split
  · exact hpush
  · exact hpush

theorem levels_signOut : app.signOut.levels = app.levels := by
  unfold App.signOut
  split <;> rfl

/-- Log out, after its dialog has been dismissed. -/
theorem InArea.confirmLogOut (h : InArea owner app) :
    Tame app ((ProfileViewController.confirmLogOut owner : Program Image Data).run app).1 := by
  rw [ProfileViewController.confirmLogOut, run_weakly]
  split
  · exact .refl h.orderly
  · rw [ProfileViewController.logOut, Callback.Prog.run_append, run_showLoadingSpinner]
    dsimp only [Callback.Prog.run_read]
    split
    · have hlevels : ((removeLoadingSpinner : Program Image Data).run
          (app.showLoadingSpinner owner).signOut).1.levels = app.levels := levels_signOut
      rw [Callback.Prog.run_append, Callback.Prog.run_append]
      exact (h.of_levels hlevels).backToLoginScreen
    · exact .of_sameView h.orderly (sameView_of_eq rfl rfl rfl)

/-- Delete account, after its dialog has been dismissed. -/
theorem InArea.confirmDelete (h : InArea owner app) :
    Tame app ((ProfileViewController.confirmDelete owner : Program Image Data).run app).1 := by
  rw [ProfileViewController.confirmDelete, run_weakly]
  split
  · exact .refl h.orderly
  · have hauth : ((ProfileViewController.deleteAccountFromAuth owner :
        Program Image Data).run app).1.levels = app.levels := by
      rw [ProfileViewController.deleteAccountFromAuth, guardUser, Callback.Prog.run_read]
      split
      · exact levels_signOut
      · rfl
    have hdatabase (app' : App Image) : ((ProfileViewController.deleteAccountFromDatabase owner :
        Program Image Data).run app').1.levels = app'.levels := by
      rw [ProfileViewController.deleteAccountFromDatabase, guardUid, Callback.Prog.run_read]
      split <;> rfl
    have hphoto (app' : App Image) : ((ProfileViewController.deleteUserPhoto owner :
        Program Image Data).run app').1.levels = app'.levels := by
      rw [ProfileViewController.deleteUserPhoto, guardUid, Callback.Prog.run_read]
      split <;> rfl
    simp only [Callback.Prog.run_append]
    exact (h.of_levels ((hphoto _).trans ((hdatabase _).trans hauth))).backToLoginScreen

/-- A dialog that asks for a confirmation is dismissed. -/
theorem inArea_dismissAlert {alert : Alert} {rest : Levels} (h : app.levels.Orderly)
    (hlevels : app.levels = .alert owner alert :: rest) (hconfirms : alert.confirms = true) :
    InArea owner app.dismissAlert ∧ SameView app app.dismissAlert := by
  have hrest : app.dismissAlert.levels = rest := by
    change app.levels.dismissAlert = rest
    rw [hlevels]
    rfl
  obtain ⟨horderly, harea⟩ := h.dismissAlert
  obtain ⟨howner, hfront⟩ := h.confirm owner alert rest hlevels hconfirms
  refine ⟨⟨horderly, howner, ?_, ?_⟩, harea, rfl⟩
  · rwa [hrest]
  · rw [hrest]
    have htail := h.alerts
    rwa [hlevels] at htail

theorem tame_confirm {p : Program Image Data} (h : app.levels.Orderly)
    (hp : confirm app = some p) : Tame app (p.run app).1 := by
  unfold confirm at hp
  split at hp
  next owner rest hlevels =>
    cases hp
    obtain ⟨harea, hview⟩ := inArea_dismissAlert h hlevels rfl
    rw [Callback.Prog.run_append]
    exact (Tame.of_sameView harea.orderly hview).trans harea.confirmLogOut
  next owner rest hlevels =>
    cases hp
    obtain ⟨harea, hview⟩ := inArea_dismissAlert h hlevels rfl
    rw [Callback.Prog.run_append]
    exact (Tame.of_sameView harea.orderly hview).trans harea.confirmDelete
  next => cases hp

/-- Everything the user does, Start and the swipe apart. -/
theorem tame_act {e : Act Image} {p : Program Image Data} (h : app.levels.Orderly)
    (hp : act ios e app = some p) (hstart : ∀ self, e ≠ .start self) (hswipe : e ≠ .swipeBack) :
    Tame app (p.run app).1 := by
  by_cases hplain : e.isPlain = true
  · have hwithin : p.Within (contract fun _ _ => True) :=
      within_act (fun _ _ _ _ _ => trivial) hplain hp
    exact (Tame.refl h).run hwithin
  cases e with
  | start self => exact absurd rfl (hstart self)
  | swipeBack => exact absurd rfl hswipe
  | selectTab tab => exact tame_selectTab h hp
  | profileInfo self =>
      obtain ⟨rfl, hs, hfront⟩ := of_whenInFront hp
      exact (inArea_of_isFront h hfront (by rw [hs]; rfl)).profileInfoClick
  | logOut self =>
      obtain ⟨rfl, hs, hfront⟩ := of_whenInFront hp
      exact (inArea_of_isFront h hfront (by rw [hs]; rfl)).dialog
  | deleteAccount self =>
      obtain ⟨rfl, hs, hfront⟩ := of_whenInFront hp
      rw [ProfileViewController.deleteAccount, Callback.Prog.run_read]
      split
      · exact (inArea_of_isFront h hfront (by rw [hs]; rfl)).dialog
      · have herror (msg : Option String) : (showErrorWith self (some "Error") msg :
            Program Image Data).Within (contract fun _ _ => True) := lenient.within_error _ _
        exact (Tame.refl h).run (herror _)
  | confirm => exact tame_confirm h hp
  | update self =>
      obtain ⟨rfl, hs, hfront⟩ := of_whenInFront hp
      exact (inArea_of_isFront h hfront (by rw [hs]; rfl)).updateAccount
  | back self =>
      have hs : self.screen = .profileInformation := by simpa [Act.isPlain] using hplain
      simp only [act] at hp
      split at hp
      next hfront =>
        cases hp
        unfold back
        rw [hs]
        exact (inArea_of_isFront h hfront (by rw [hs]; rfl)).pop
      next => cases hp
  | _ => exact absurd rfl hplain

end GiveMeMovies.AppRuns
