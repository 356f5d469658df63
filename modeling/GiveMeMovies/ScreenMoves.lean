import Mathlib.Data.List.Perm.Lattice
import Mathlib.Data.List.Nodup
import Mathlib.Data.List.Pairwise
import Mathlib.Logic.Relation
import GiveMeMovies.UIKit

/-!
# The moves of the screens

What presenting, pushing and popping can do to the levels. A new controller is a new object, so that
no controller stands in two places, and the root of a navigation controller stays in place.
-/

namespace GiveMeMovies

namespace Level

/-- The root of a stack. The navigation controllers of the app begin with the welcome screen, and
the stack of the Profile tab with the Profile screen. -/
def Rooted : Level → Prop
  | navigation stack => ∃ root, stack.getLast? = some root ∧ root.screen = .welcome
  | tabBar _ stack => ∀ root, stack.getLast? = some root → root.screen = .profile
  | _ => True

variable {self controller : Controller} {level : Level}

theorem holds_iff : level.holds self = true ↔ self ∈ level.controllers := decide_eq_true_iff

theorem push_controllers (controller : Controller) (level : Level) :
    (level.push controller).controllers = level.controllers ∨
      (level.push controller).controllers = controller :: level.controllers := by
  cases level with
  | single c => exact .inl rfl
  | navigation stack => exact .inr rfl
  | tabBar selected stack => exact .inr rfl
  | alert owner alert => exact .inl rfl

theorem Rooted.push (h : level.Rooted) (hholds : level.holds self = true) :
    (level.push controller).Rooted := by
  have hmem := holds_iff.mp hholds
  cases level with
  | single c => trivial
  | navigation stack =>
      obtain ⟨root, hroot, hscreen⟩ := h
      refine ⟨root, ?_, hscreen⟩
      rw [List.getLast?_cons, hroot]
      rfl
  | tabBar selected stack =>
      intro root hroot
      cases stack with
      | nil => cases hmem
      | cons top stack => exact h root (by simpa using hroot)
  | alert owner alert => trivial

theorem pop_controllers (level : Level) : level.pop.controllers.Sublist level.controllers := by
  unfold pop
  split
  · exact List.sublist_cons_self _ _
  · exact List.sublist_cons_self _ _
  · exact List.Sublist.refl _

theorem swipeBack_controllers (level : Level) :
    level.swipeBack.controllers.Sublist level.controllers := by
  unfold swipeBack
  split
  · exact List.sublist_cons_self _ _
  · exact List.sublist_cons_self _ _
  · exact List.Sublist.refl _

theorem Rooted.pop (h : level.Rooted) : level.pop.Rooted := by
  unfold Level.pop
  split
  · simpa [Rooted] using h
  · simpa [Rooted] using h
  · exact h

theorem Rooted.swipeBack (h : level.Rooted) : level.swipeBack.Rooted := by
  unfold Level.swipeBack
  split
  · simpa [Rooted] using h
  · simpa [Rooted] using h
  · exact h

theorem single_of_push (h : level.push controller = .single self) : level = .single self := by
  cases level with
  | single c => exact h
  | _ => cases h

theorem single_of_pop (h : level.pop = .single self) : level = .single self := by
  unfold Level.pop at h
  split at h
  · cases h
  · cases h
  · exact h

theorem single_of_swipeBack (h : level.swipeBack = .single self) : level = .single self := by
  unfold Level.swipeBack at h
  split at h
  · cases h
  · cases h
  · exact h

theorem isAlert_push (controller : Controller) (level : Level) :
    (level.push controller).isAlert = level.isAlert := by
  cases level <;> rfl

theorem isAlert_pop (level : Level) : level.pop.isAlert = level.isAlert := by
  unfold pop
  split <;> rfl

theorem visible_push (h : level.visible = some self) (hsingle : level ≠ .single self) :
    (level.push controller).visible = some controller := by
  cases level with
  | single c =>
      cases h
      exact absurd rfl hsingle
  | navigation stack => rfl
  | tabBar selected stack =>
      cases selected with
      | profile => rfl
      | home => cases h
      | search => cases h
  | alert owner alert => cases h

/-- Popping reveals another controller, unless the visible one is the root. -/
theorem visible_pop (h : level.visible = some self) (hsingle : level ≠ .single self)
    (hrooted : level.Rooted) (hnodup : level.controllers.Nodup) (hwelcome : self.screen ≠ .welcome)
    (hprofile : self.screen ≠ .profile) : level.pop.visible ≠ some self := by
  have hbelow {below : Controller} {stack : List Controller}
      (hmem : (self :: below :: stack).Nodup) : some below ≠ some self := by
    rintro heq
    cases heq
    exact (List.nodup_cons.mp hmem).1 List.mem_cons_self
  cases level with
  | single c =>
      cases h
      exact absurd rfl hsingle
  | navigation stack =>
      obtain ⟨root, hroot, hscreen⟩ := hrooted
      cases stack with
      | nil => cases h
      | cons top stack =>
          cases h
          cases stack with
          | nil =>
              cases hroot
              exact absurd hscreen hwelcome
          | cons below stack => exact hbelow hnodup
  | tabBar selected stack =>
      cases selected with
      | profile =>
          cases stack with
          | nil => cases h
          | cons top stack =>
              cases h
              cases stack with
              | nil => exact absurd (hrooted self rfl) hprofile
              | cons below stack => exact hbelow hnodup
      | home => cases h
      | search => cases h
  | alert owner alert => cases h

end Level

namespace Levels

/-- The controllers on the screen and under it. -/
def controllers (levels : Levels) : List Controller := levels.flatMap Level.controllers

theorem mem_controllers {levels : Levels} {self : Controller} :
    self ∈ levels.controllers ↔ ∃ level ∈ levels, self ∈ level.controllers := List.mem_flatMap

/-- The levels and the number that the next controller will have. -/
inductive Move : Levels × ℕ → Levels × ℕ → Prop
  | cover (levels : Levels) (next : ℕ) (self : Controller) (level : Level)
      (h : level.controllers = []) (hrooted : level.Rooted) :
      Move (levels, next) (levels.present self level, next)
  | single (levels : Levels) (next : ℕ) (self : Controller) (screen : Screen) :
      Move (levels, next) (levels.present self (.single ⟨next, screen⟩), next + 1)
  | navigation (levels : Levels) (next : ℕ) (self : Controller) :
      Move (levels, next) (levels.present self (.navigation [⟨next, .welcome⟩]), next + 1)
  | push (levels : Levels) (next : ℕ) (self : Controller) (screen : Screen) :
      Move (levels, next) (levels.push self ⟨next, screen⟩, next + 1)
  | pop (levels : Levels) (next : ℕ) (self : Controller) :
      Move (levels, next) (levels.pop self, next)
  | swipeBack (levels : Levels) (next : ℕ) : Move (levels, next) (levels.swipeBack, next)
  | dismissAlert (levels : Levels) (next : ℕ) : Move (levels, next) (levels.dismissAlert, next)
  | selectTab (selected tab : Tab) (stack : List Controller) (rest : Levels) (next : ℕ) :
      Move (.tabBar selected stack :: rest, next) (.tabBar tab stack :: rest, next)
  | showProfile (selected : Tab) (rest : Levels) (next : ℕ) :
      Move (.tabBar selected [] :: rest, next)
        (.tabBar .profile [⟨next, .profile⟩] :: rest, next + 1)

abbrev Moves : Levels × ℕ → Levels × ℕ → Prop := Relation.ReflTransGen Move

/-- No controller stands in two places. -/
structure Stacked (levels : Levels) (next : ℕ) : Prop where
  nodup : levels.controllers.Nodup
  fresh : ∀ controller ∈ levels.controllers, controller.number < next
  rooted : ∀ level ∈ levels, level.Rooted

variable {levels levels' : Levels} {next next' : ℕ} {self : Controller}

/-- The controller that the user sees, perhaps under an alert. -/
def visibleController (levels : Levels) : Option Controller := levels.shown.bind Level.visible

theorem mem_of_shown {level : Level} (h : levels.shown = some level) : level ∈ levels :=
  List.dropWhile_suffix (Level.isAlert) |>.subset (List.mem_of_mem_head? h)

theorem shown_map {f : Level → Level} (hf : ∀ level, (f level).isAlert = level.isAlert)
    (levels : Levels) : shown (levels.map f) = levels.shown.map f := by
  unfold shown
  rw [List.dropWhile_map, List.head?_map]
  have hcomp : Level.isAlert ∘ f = Level.isAlert := funext hf
  rw [hcomp]

theorem shown_push {controller : Controller} {level : Level} (h : levels.shown = some level)
    (hholds : level.holds self = true) :
    (levels.push self controller).shown = some (level.push controller) := by
  rw [Levels.push, shown_map, h, Option.map_some, if_pos hholds]
  intro other
  split
  · exact Level.isAlert_push controller other
  · rfl

theorem shown_pop {level : Level} (h : levels.shown = some level)
    (hholds : level.holds self = true) : (levels.pop self).shown = some level.pop := by
  rw [Levels.pop, shown_map, h, Option.map_some, if_pos hholds]
  intro other
  split
  · exact Level.isAlert_pop other
  · rfl

/-- At most one level holds the caller, so that a push adds one controller at most. -/
theorem push_perm (controller : Controller) (h : levels.controllers.Nodup) :
    (levels.push self controller).controllers.Perm levels.controllers ∨
      (levels.push self controller).controllers.Perm (controller :: levels.controllers) := by
  induction levels with
  | nil => exact .inl .rfl
  | cons level rest ih =>
      have hnodup : (level.controllers ++ controllers rest).Nodup := h
      obtain ⟨_, hrest, hdisjoint⟩ := List.nodup_append.mp hnodup
      by_cases hholds : level.holds self = true
      · have hfix : ∀ other ∈ rest,
            (if other.holds self then other.push controller else other) = other := by
          intro other hother
          apply if_neg
          intro hself
          apply hdisjoint self (Level.holds_iff.mp hholds) self _ rfl
          exact mem_controllers.mpr ⟨other, hother, Level.holds_iff.mp hself⟩
        have hsame : push self controller rest = rest :=
          (List.map_congr_left hfix).trans (List.map_id' rest)
        have hpush : controllers (push self controller (level :: rest)) =
            (level.push controller).controllers ++ controllers rest := by
          change (if level.holds self then level.push controller else level).controllers ++
            controllers (push self controller rest) = _
          rw [if_pos hholds, hsame]
        rw [hpush]
        rcases Level.push_controllers controller level with heq | heq
        · rw [heq]
          exact .inl .rfl
        · rw [heq]
          exact .inr .rfl
      · have hpush : controllers (push self controller (level :: rest)) =
            level.controllers ++ controllers (push self controller rest) := by
          change (if level.holds self then level.push controller else level).controllers ++
            controllers (push self controller rest) = _
          rw [if_neg hholds]
        rw [hpush]
        rcases ih hrest with hperm | hperm
        · exact .inl (hperm.append_left _)
        · exact .inr ((hperm.append_left _).trans List.perm_middle)

theorem Stacked.of_sublist (h : Stacked levels next)
    (hsub : levels'.controllers.Sublist levels.controllers)
    (hrooted : ∀ level ∈ levels', level.Rooted) : Stacked levels' next :=
  ⟨h.nodup.sublist hsub, fun controller hc => h.fresh controller (hsub.subset hc), hrooted⟩

/-- Some controllers have been used up. -/
theorem Stacked.mono (h : Stacked levels next) (hle : next ≤ next') : Stacked levels next' :=
  ⟨h.nodup, fun controller hc => Nat.lt_of_lt_of_le (h.fresh controller hc) hle, h.rooted⟩

/-- A controller with the next number has been added. -/
theorem Stacked.of_perm {screen : Screen} (h : Stacked levels next)
    (hperm : levels'.controllers.Perm (⟨next, screen⟩ :: levels.controllers))
    (hrooted : ∀ level ∈ levels', level.Rooted) : Stacked levels' (next + 1) := by
  constructor
  · rw [hperm.nodup_iff, List.nodup_cons]
    refine ⟨fun hmem => ?_, h.nodup⟩
    have hlt := h.fresh _ hmem
    dsimp only at hlt
    omega
  · intro controller hc
    rcases List.mem_cons.mp (hperm.mem_iff.mp hc) with rfl | hc
    · exact Nat.lt_succ_self next
    · have hlt := h.fresh controller hc
      omega
  · exact hrooted

theorem Stacked.present {screen : Screen} {level : Level} (h : Stacked levels next)
    (hlevel : level.controllers = [⟨next, screen⟩]) (hrooted : level.Rooted) :
    Stacked (levels.present self level) (next + 1) := by
  unfold Levels.present
  split
  · have hperm : (controllers (level :: levels)).Perm (⟨next, screen⟩ :: levels.controllers) := by
      change (level.controllers ++ levels.controllers).Perm _
      rw [hlevel]
      rfl
    apply h.of_perm hperm
    · intro other hother
      rcases List.mem_cons.mp hother with rfl | hother
      · exact hrooted
      · exact h.rooted other hother
  · exact h.mono (Nat.le_succ next)

theorem Stacked.push {screen : Screen} (h : Stacked levels next) :
    Stacked (levels.push self ⟨next, screen⟩) (next + 1) := by
  have hrooted : ∀ level ∈ levels.push self ⟨next, screen⟩, level.Rooted := by
    intro level hlevel
    obtain ⟨below, hbelow, rfl⟩ := List.mem_map.mp hlevel
    by_cases hholds : below.holds self = true
    · rw [if_pos hholds]
      exact (h.rooted below hbelow).push hholds
    · rw [if_neg hholds]
      exact h.rooted below hbelow
  rcases push_perm ⟨next, screen⟩ h.nodup with hperm | hperm
  · refine ⟨hperm.nodup_iff.mpr h.nodup, fun controller hc => ?_, hrooted⟩
    have hlt := h.fresh controller (hperm.mem_iff.mp hc)
    omega
  · exact h.of_perm hperm hrooted

theorem pop_sublist (self : Controller) (levels : Levels) :
    (levels.pop self).controllers.Sublist levels.controllers := by
  induction levels with
  | nil => exact List.Sublist.refl _
  | cons level rest ih =>
      change ((if level.holds self then level.pop else level).controllers ++
        controllers (pop self rest)).Sublist (level.controllers ++ controllers rest)
      apply List.Sublist.append _ ih
      split
      · exact level.pop_controllers
      · exact List.Sublist.refl _

theorem Stacked.pop (h : Stacked levels next) : Stacked (levels.pop self) next := by
  apply h.of_sublist (pop_sublist self levels)
  intro level hlevel
  obtain ⟨below, hbelow, rfl⟩ := List.mem_map.mp hlevel
  split
  · exact (h.rooted below hbelow).pop
  · exact h.rooted below hbelow

theorem Stacked.swipeBack (h : Stacked levels next) : Stacked levels.swipeBack next := by
  cases levels with
  | nil => exact h
  | cons top rest =>
      apply h.of_sublist
      · change (top.swipeBack.controllers ++ controllers rest).Sublist
          (top.controllers ++ controllers rest)
        exact top.swipeBack_controllers.append (List.Sublist.refl _)
      · intro level hlevel
        rcases List.mem_cons.mp hlevel with rfl | hlevel
        · exact (h.rooted top List.mem_cons_self).swipeBack
        · exact h.rooted level (List.mem_cons_of_mem _ hlevel)

theorem Stacked.dismissAlert (h : Stacked levels next) : Stacked levels.dismissAlert next := by
  unfold Levels.dismissAlert
  split
  · apply h.of_sublist
    · exact List.sublist_append_right _ _
    · exact fun level hlevel => h.rooted level (List.mem_cons_of_mem _ hlevel)
  · exact h

/-- What covers the screens without a controller of its own. -/
theorem Stacked.cover {level : Level} (h : Stacked levels next) (hlevel : level.controllers = [])
    (hrooted : level.Rooted) : Stacked (levels.present self level) next := by
  unfold Levels.present
  split
  · apply h.of_sublist
    · change (level.controllers ++ levels.controllers).Sublist levels.controllers
      rw [hlevel]
      exact List.Sublist.refl _
    · intro other hother
      rcases List.mem_cons.mp hother with rfl | hother
      · exact hrooted
      · exact h.rooted other hother
  · exact h

/-- A controller stands on one level only. -/
theorem Stacked.level_unique {level level' : Level} (h : Stacked levels next)
    (hmem : level ∈ levels) (hmem' : level' ∈ levels) (hself : self ∈ level.controllers)
    (hself' : self ∈ level'.controllers) : level = level' := by
  by_contra hne
  have : Std.Symm (Function.onFun List.Disjoint Level.controllers) := ⟨fun _ _ h => h.symm⟩
  have hdisjoint := (List.nodup_flatMap.mp h.nodup).2.forall hmem hmem' hne
  exact hdisjoint hself hself'

theorem Stacked.nodup_level {level : Level} (h : Stacked levels next) (hmem : level ∈ levels) :
    level.controllers.Nodup := (List.nodup_flatMap.mp h.nodup).1 level hmem

/-- The first level has another root, and the rest stays. -/
theorem Stacked.of_cons {top : Level} {rest : Levels} (h : Stacked (top :: rest) next) :
    ∀ level ∈ rest, level.Rooted :=
  fun level hlevel => h.rooted level (List.mem_cons_of_mem _ hlevel)

theorem Stacked.move {s s' : Levels × ℕ} (h : Stacked s.1 s.2) (hmove : Move s s') :
    Stacked s'.1 s'.2 := by
  cases hmove with
  | cover levels next self level hlevel hrooted => exact h.cover hlevel hrooted
  | single levels next self screen => exact h.present rfl trivial
  | navigation levels next self => exact h.present rfl ⟨_, rfl, rfl⟩
  | push levels next self screen => exact h.push
  | pop levels next self => exact h.pop
  | swipeBack levels next => exact h.swipeBack
  | dismissAlert levels next => exact h.dismissAlert
  | selectTab selected tab stack rest next =>
      refine ⟨h.nodup, h.fresh, fun level hlevel => ?_⟩
      rcases List.mem_cons.mp hlevel with rfl | hlevel
      · exact h.rooted (.tabBar selected stack) List.mem_cons_self
      · exact h.of_cons level hlevel
  | showProfile selected rest next =>
      refine h.of_perm (List.Perm.refl _) fun level hlevel => ?_
      rcases List.mem_cons.mp hlevel with rfl | hlevel
      · intro root hroot
        cases hroot
        rfl
      · exact h.of_cons level hlevel

theorem Stacked.moves {s s' : Levels × ℕ} (h : Stacked s.1 s.2) (hmoves : Moves s s') :
    Stacked s'.1 s'.2 := by
  induction hmoves with
  | refl => exact h
  | tail _ hmove ih => exact ih.move hmove

theorem mem_of_present {level other : Level} (h : other ∈ levels.present self level)
    (hne : other ≠ level) : other ∈ levels := by
  unfold Levels.present at h
  split at h
  · rcases List.mem_cons.mp h with heq | h
    · exact absurd heq hne
    · exact h
  · exact h

/-- A level that a change leads to from no other level was there before. -/
theorem mem_of_map_change {level : Level} {P : Level → Bool} {change : Level → Level}
    (hchange : ∀ other, change other = level → other = level)
    (h : level ∈ levels.map (fun other => if P other then change other else other)) :
    level ∈ levels := by
  obtain ⟨other, hother, heq⟩ := List.mem_map.mp h
  by_cases hP : P other = true
  · rw [if_pos hP] at heq
    rw [← hchange other heq]
    exact hother
  · rw [if_neg hP] at heq
    rw [← heq]
    exact hother

/-- A controller that is there is never shown again on a level of its own. -/
theorem single_of_move {s s' : Levels × ℕ} (hself : self.number < s.2) (hmove : Move s s')
    (h : .single self ∈ s'.1) : .single self ∈ s.1 := by
  cases hmove with
  | cover levels next owner level hlevel hrooted =>
      apply mem_of_present h
      rintro rfl
      cases hlevel
  | single levels next owner screen =>
      apply mem_of_present h
      intro heq
      cases heq
      exact absurd hself (Nat.lt_irrefl next)
  | navigation levels next owner => exact mem_of_present h nofun
  | push levels next owner screen => exact mem_of_map_change (fun _ => Level.single_of_push) h
  | pop levels next owner => exact mem_of_map_change (fun _ => Level.single_of_pop) h
  | swipeBack levels next =>
      cases levels with
      | nil => cases h
      | cons top rest =>
          rcases List.mem_cons.mp h with heq | h
          · rw [← Level.single_of_swipeBack heq.symm]
            exact List.mem_cons_self
          · exact List.mem_cons_of_mem _ h
  | dismissAlert levels next =>
      dsimp only at h
      unfold Levels.dismissAlert at h
      split at h
      · exact List.mem_cons_of_mem _ h
      · exact h
  | selectTab selected tab stack rest next =>
      rcases List.mem_cons.mp h with heq | h
      · cases heq
      · exact List.mem_cons_of_mem _ h
  | showProfile selected rest next =>
      rcases List.mem_cons.mp h with heq | h
      · cases heq
      · exact List.mem_cons_of_mem _ h

theorem next_le_of_move {s s' : Levels × ℕ} (hmove : Move s s') : s.2 ≤ s'.2 := by
  cases hmove <;> simp

theorem single_of_moves {s s' : Levels × ℕ} (hself : self.number < s.2) (hmoves : Moves s s')
    (h : .single self ∈ s'.1) : .single self ∈ s.1 := by
  have hlast : self.number < s'.2 ∧ (.single self ∈ s'.1 → .single self ∈ s.1) := by
    clear h
    induction hmoves with
    | refl => exact ⟨hself, id⟩
    | tail _ hmove ih =>
        have hle := next_le_of_move hmove
        exact ⟨by omega, fun h => ih.2 (single_of_move ih.1 hmove h)⟩
  exact hlast.2 h

/-! ## Leaving the visible controller -/

theorem shown_of_visible (h : levels.visibleController = some self) :
    ∃ level, levels.shown = some level ∧ level.visible = some self ∧ level ∈ levels := by
  obtain ⟨level, hshown, hvisible⟩ := Option.bind_eq_some_iff.mp h
  exact ⟨level, hshown, hvisible, mem_of_shown hshown⟩

theorem visible_of_isFront (h : levels.isFront self = true) :
    levels.visibleController = some self := by
  cases levels with
  | nil => cases h
  | cons top rest =>
      have hvisible : top.visible = some self := by simpa [isFront] using h
      have halert : ¬ top.isAlert = true := by
        intro halert
        cases top with
        | alert owner alert => cases hvisible
        | _ => cases halert
      have hshown : shown (top :: rest) = some top := by
        rw [shown, List.dropWhile_cons_of_neg halert]
        rfl
      rw [visibleController, hshown]
      exact hvisible

theorem hasNavigation_iff : levels.hasNavigation self = true ↔
    ∃ level ∈ levels, level.isNavigation = true ∧ self ∈ level.controllers := by
  simp [hasNavigation, Level.holds]

/-- The visible controller is on a level of its own, or it has a navigation controller. -/
theorem hasNavigation_of_visible (h : levels.visibleController = some self)
    (hsingle : .single self ∉ levels) : levels.hasNavigation self = true := by
  obtain ⟨level, _, hvisible, hmem⟩ := shown_of_visible h
  rw [hasNavigation_iff]
  refine ⟨level, hmem, ?_, Level.mem_of_visible hvisible⟩
  cases level with
  | single c =>
      cases hvisible
      exact absurd hmem hsingle
  | navigation stack => rfl
  | tabBar selected stack => rfl
  | alert owner alert => cases hvisible

theorem Stacked.single_not_mem (h : Stacked levels next)
    (hnavigation : levels.hasNavigation self = true) : .single self ∉ levels := by
  intro hsingle
  obtain ⟨level, hmem, hlevel, hself⟩ := hasNavigation_iff.mp hnavigation
  have hsame := h.level_unique hmem hsingle hself (List.mem_singleton.mpr rfl)
  rw [hsame] at hlevel
  cases hlevel

theorem visible_push {controller : Controller} (h : levels.visibleController = some self)
    (hsingle : .single self ∉ levels) :
    (levels.push self controller).visibleController = some controller := by
  obtain ⟨level, hshown, hvisible, hmem⟩ := shown_of_visible h
  have hne : level ≠ .single self := by
    rintro rfl
    exact hsingle hmem
  rw [visibleController, shown_push hshown (Level.holds_iff.mpr (Level.mem_of_visible hvisible))]
  exact Level.visible_push hvisible hne

theorem Stacked.visible_pop (hstacked : Stacked levels next)
    (h : levels.visibleController = some self) (hsingle : .single self ∉ levels)
    (hwelcome : self.screen ≠ .welcome) (hprofile : self.screen ≠ .profile) :
    (levels.pop self).visibleController ≠ some self := by
  obtain ⟨level, hshown, hvisible, hmem⟩ := shown_of_visible h
  have hne : level ≠ .single self := by
    rintro rfl
    exact hsingle hmem
  rw [visibleController, shown_pop hshown (Level.holds_iff.mpr (Level.mem_of_visible hvisible))]
  exact Level.visible_pop hvisible hne (hstacked.rooted level hmem) (hstacked.nodup_level hmem)
    hwelcome hprofile

end Levels

end GiveMeMovies
