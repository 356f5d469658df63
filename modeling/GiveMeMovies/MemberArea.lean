import GiveMeMovies.UIKit

/-!
# The order of the levels

The controllers of the member area stand in the stack of a tab bar and nowhere else, an alert is
the topmost level, and a dialog that asks for a confirmation stands over the Profile screen that
shows it. What the controllers outside the member area push and pop leaves the tab bars alone.
-/

namespace GiveMeMovies

/-- The screens of the member area that have a stack. -/
def Screen.isMember : Screen → Bool
  | profile | profileInformation => true
  | _ => false

/-- The screens that the stack of the Profile tab can hold. -/
def Screen.inTab : Screen → Bool
  | profile | profileInformation | splash => true
  | _ => false

def Alert.confirms : Alert → Bool
  | error _ _ => false
  | logOut | deleteAccount => true

namespace Level

def isTabBar : Level → Bool
  | tabBar _ _ => true
  | _ => false

def WellPlaced : Level → Prop
  | single controller => controller.screen.isMember = false
  | navigation stack => ∀ controller ∈ stack, controller.screen.isMember = false
  | tabBar _ stack => ∀ controller ∈ stack, controller.screen.inTab = true
  | alert _ _ => True

theorem WellPlaced.not_holds {level : Level} {self : Controller} (h : level.WellPlaced)
    (hlevel : level.isTabBar = true ∨ level.isAlert = true) (hself : self.screen.inTab = false) :
    level.holds self = false := by
  cases level with
  | single controller => simp [isTabBar, isAlert] at hlevel
  | navigation stack => simp [isTabBar, isAlert] at hlevel
  | tabBar selected stack =>
      rw [holds, decide_eq_false_iff_not]
      intro hmem
      rw [h self hmem] at hself
      cases hself
  | alert owner alert => rfl

theorem isMemberArea_of_not_isTabBar {level : Level} (h : level.isTabBar = false) :
    level.isMemberArea = false := by
  cases level with
  | tabBar selected stack => cases h
  | _ => rfl

end Level

namespace Levels

theorem memberAreaVisible_cons {level : Level} (h : level.isAlert = false) (levels : Levels) :
    memberAreaVisible (level :: levels) = level.isMemberArea := by
  simp [memberAreaVisible, shown, h]

theorem memberAreaVisible_map {f : Level → Level} {levels : Levels}
    (halert : ∀ level ∈ levels, (f level).isAlert = level.isAlert)
    (harea : ∀ level ∈ levels, (f level).isMemberArea = level.isMemberArea) :
    memberAreaVisible (levels.map f) = memberAreaVisible levels := by
  induction levels with
  | nil => rfl
  | cons level levels ih =>
      have hhead := halert level List.mem_cons_self
      have htail := ih (fun l hl => halert l (List.mem_cons_of_mem _ hl))
        (fun l hl => harea l (List.mem_cons_of_mem _ hl))
      cases ha : level.isAlert with
      | false =>
          rw [List.map_cons, memberAreaVisible_cons (hhead.trans ha), memberAreaVisible_cons ha]
          exact harea level List.mem_cons_self
      | true =>
          simp only [memberAreaVisible, shown] at htail
          simp [memberAreaVisible, shown, ha, hhead, htail]

theorem not_isAlert_of_canPresent {level : Level} {levels : Levels} {self : Controller}
    (h : canPresent (level :: levels) self = true) : level.isAlert = false := by
  cases level with
  | alert owner alert => cases h
  | _ => rfl

structure Orderly (levels : Levels) : Prop where
  placed : ∀ level ∈ levels, level.WellPlaced
  alerts : ∀ level ∈ levels.tail, level.isAlert = false
  confirm : ∀ owner alert rest, levels = .alert owner alert :: rest → alert.confirms = true →
    owner.screen.isMember = true ∧ ∃ stack below, rest = .tabBar .profile (owner :: stack) :: below

variable {levels : Levels} {self controller : Controller}

/-- The first level is not an alert that asks for a confirmation. -/
theorem Orderly.of_cons {level : Level} {rest : Levels}
    (hplaced : level.WellPlaced) (hrest : ∀ level ∈ rest, level.WellPlaced)
    (halerts : ∀ level ∈ rest, level.isAlert = false)
    (hlevel : ∀ owner alert, level = .alert owner alert → alert.confirms = false) :
    Orderly (level :: rest) := by
  refine ⟨?_, halerts, ?_⟩
  · intro l hl
    rcases List.mem_cons.mp hl with rfl | hl
    · exact hplaced
    · exact hrest l hl
  · intro owner alert rest' heq hconfirms
    injection heq with hhead _
    rw [hlevel owner alert hhead] at hconfirms
    cases hconfirms

theorem Orderly.not_isAlert (h : Orderly levels) (hcan : levels.canPresent self = true) :
    ∀ level ∈ levels, level.isAlert = false := by
  cases levels with
  | nil => cases hcan
  | cons top rest =>
      intro level hlevel
      rcases List.mem_cons.mp hlevel with rfl | hlevel
      · exact not_isAlert_of_canPresent hcan
      · exact h.alerts level hlevel

theorem Orderly.present {level : Level} (h : Orderly levels) (hplaced : level.WellPlaced)
    (hlevel : ∀ owner alert, level = .alert owner alert → alert.confirms = false) :
    Orderly (levels.present self level) := by
  unfold Levels.present
  by_cases hcan : levels.canPresent self = true
  · rw [if_pos hcan]
    exact .of_cons hplaced h.placed (h.not_isAlert hcan) hlevel
  · rw [if_neg hcan]
    exact h

theorem Orderly.present_level {level : Level} (h : Orderly levels) (hplaced : level.WellPlaced)
    (hlevel : level.isAlert = false) : Orderly (levels.present self level) := by
  apply h.present hplaced
  intro owner alert heq
  rw [heq] at hlevel
  cases hlevel

theorem memberAreaVisible_present_alert (levels : Levels) (self owner : Controller)
    (alert : Alert) : (levels.present self (.alert owner alert)).memberAreaVisible =
      levels.memberAreaVisible := by
  unfold Levels.present
  split <;> rfl

/-- Presenting shows the member area only if it was visible or is what is presented. -/
theorem visible_of_present {level : Level}
    (h : (levels.present self level).memberAreaVisible = true) :
    levels.memberAreaVisible = true ∨
      levels.canPresent self = true ∧ level.isMemberArea = true := by
  unfold Levels.present at h
  by_cases hcan : levels.canPresent self = true
  · rw [if_pos hcan] at h
    cases ha : level.isAlert with
    | false =>
        rw [memberAreaVisible_cons ha] at h
        exact Or.inr ⟨hcan, h⟩
    | true =>
        cases level with
        | alert owner alert => exact Or.inl h
        | _ => cases ha
  · rw [if_neg hcan] at h
    exact Or.inl h

/-- A change of the levels that are neither tab bars nor alerts. -/
structure Outside (f : Level → Level) (levels : Levels) : Prop where
  fixed : ∀ level ∈ levels, level.isTabBar = true ∨ level.isAlert = true → f level = level
  placed : ∀ level ∈ levels, level.isTabBar = false → level.isAlert = false →
    (f level).WellPlaced ∧ (f level).isTabBar = false ∧ (f level).isAlert = false

theorem Outside.isAlert {f : Level → Level} (hf : Outside f levels) {level : Level}
    (hlevel : level ∈ levels) : (f level).isAlert = level.isAlert := by
  cases ha : level.isAlert with
  | true => rw [hf.fixed level hlevel (Or.inr ha), ha]
  | false =>
      cases ht : level.isTabBar with
      | true => rw [hf.fixed level hlevel (Or.inl ht), ha]
      | false => exact (hf.placed level hlevel ht ha).2.2

theorem Outside.isMemberArea {f : Level → Level} (hf : Outside f levels) {level : Level}
    (hlevel : level ∈ levels) : (f level).isMemberArea = level.isMemberArea := by
  cases ht : level.isTabBar with
  | true => rw [hf.fixed level hlevel (Or.inl ht)]
  | false =>
      cases ha : level.isAlert with
      | true => rw [hf.fixed level hlevel (Or.inr ha)]
      | false =>
          rw [Level.isMemberArea_of_not_isTabBar ht]
          exact Level.isMemberArea_of_not_isTabBar (hf.placed level hlevel ht ha).2.1

theorem Orderly.outside {f : Level → Level} (h : Orderly levels) (hf : Outside f levels) :
    Orderly (levels.map f) ∧
      memberAreaVisible (levels.map f) = memberAreaVisible levels := by
  constructor
  · refine ⟨?_, ?_, ?_⟩
    · intro level hlevel
      obtain ⟨l, hl, rfl⟩ := List.mem_map.mp hlevel
      cases ht : l.isTabBar with
      | true =>
          rw [hf.fixed l hl (Or.inl ht)]
          exact h.placed l hl
      | false =>
          cases ha : l.isAlert with
          | true =>
              rw [hf.fixed l hl (Or.inr ha)]
              exact h.placed l hl
          | false => exact (hf.placed l hl ht ha).1
    · intro level hlevel
      rw [← List.map_tail] at hlevel
      obtain ⟨l, hl, rfl⟩ := List.mem_map.mp hlevel
      rw [hf.isAlert (List.mem_of_mem_tail hl)]
      exact h.alerts l hl
    · intro owner alert rest heq hconfirms
      cases levels with
      | nil => cases heq
      | cons top below =>
          obtain ⟨htop, rfl⟩ := List.cons.inj heq
          have halert : top.isAlert = true := by
            rw [← hf.isAlert List.mem_cons_self, htop]
            rfl
          have hsame : top = .alert owner alert := by
            rw [← hf.fixed top List.mem_cons_self (Or.inr halert), htop]
          subst hsame
          obtain ⟨howner, stack, below', rfl⟩ := h.confirm owner alert below rfl hconfirms
          refine ⟨howner, stack, below'.map f, ?_⟩
          rw [List.map_cons, hf.fixed _ (List.mem_cons_of_mem _ List.mem_cons_self) (Or.inl rfl)]
  · exact memberAreaVisible_map (fun _ hl => hf.isAlert hl) (fun _ hl => hf.isMemberArea hl)

/-- A controller outside the tab bars pushes onto its own navigation controller. -/
theorem Orderly.push_outside (h : Orderly levels) (hself : self.screen.inTab = false)
    (hcontroller : controller.screen.isMember = false) :
    Orderly (levels.push self controller) ∧
      (levels.push self controller).memberAreaVisible = levels.memberAreaVisible := by
  apply h.outside
  constructor
  · intro level hlevel hkind
    rw [(h.placed level hlevel).not_holds hkind hself]
    rfl
  · intro level hlevel ht ha
    have hplaced := h.placed level hlevel
    cases level with
    | single c =>
        split
        · exact ⟨hplaced, rfl, rfl⟩
        · exact ⟨hplaced, rfl, rfl⟩
    | navigation stack =>
        split
        · refine ⟨fun c hc => ?_, rfl, rfl⟩
          rcases List.mem_cons.mp hc with rfl | hc
          · exact hcontroller
          · exact hplaced c hc
        · exact ⟨hplaced, rfl, rfl⟩
    | tabBar selected stack => cases ht
    | alert owner alert => cases ha

theorem Orderly.pop_outside (h : Orderly levels) (hself : self.screen.inTab = false) :
    Orderly (levels.pop self) ∧
      (levels.pop self).memberAreaVisible = levels.memberAreaVisible := by
  apply h.outside
  constructor
  · intro level hlevel hkind
    rw [(h.placed level hlevel).not_holds hkind hself]
    rfl
  · intro level hlevel ht ha
    have hplaced := h.placed level hlevel
    cases level with
    | single c =>
        split
        · exact ⟨hplaced, rfl, rfl⟩
        · exact ⟨hplaced, rfl, rfl⟩
    | navigation stack =>
        split
        · cases stack with
          | nil => exact ⟨hplaced, rfl, rfl⟩
          | cons top stack =>
              cases stack with
              | nil => exact ⟨hplaced, rfl, rfl⟩
              | cons below stack =>
                  exact ⟨fun c hc => hplaced c (List.mem_cons_of_mem _ hc), rfl, rfl⟩
        · exact ⟨hplaced, rfl, rfl⟩
    | tabBar selected stack => cases ht
    | alert owner alert => cases ha

theorem Orderly.dismissAlert (h : Orderly levels) :
    Orderly levels.dismissAlert ∧
      levels.dismissAlert.memberAreaVisible = levels.memberAreaVisible := by
  cases levels with
  | nil => exact ⟨h, rfl⟩
  | cons top rest =>
      cases top with
      | alert owner alert =>
          refine ⟨⟨fun l hl => h.placed l (List.mem_cons_of_mem _ hl),
            fun l hl => h.alerts l (List.mem_of_mem_tail hl), ?_⟩, rfl⟩
          intro owner' alert' rest' heq _
          have hrest : rest = .alert owner' alert' :: rest' := heq
          have hfalse := h.alerts (.alert owner' alert') (hrest ▸ List.mem_cons_self)
          cases hfalse
      | _ => exact ⟨h, rfl⟩

/-- A screen of the member area that takes touches is on top of a tab bar. -/
theorem Orderly.front (h : Orderly levels) (hfront : levels.isFront self = true)
    (hself : self.screen.isMember = true) :
    ∃ stack below, levels = .tabBar .profile (self :: stack) :: below := by
  cases levels with
  | nil => cases hfront
  | cons top below =>
      have hv : top.visible = some self := by simpa [isFront] using hfront
      have hplaced := h.placed top List.mem_cons_self
      cases top with
      | single c =>
          cases hv
          rw [show self.screen.isMember = false from hplaced] at hself
          cases hself
      | navigation stack =>
          rw [hplaced self (List.mem_of_mem_head? hv)] at hself
          cases hself
      | tabBar selected stack =>
          cases selected with
          | profile =>
              obtain ⟨rest, hstack⟩ := List.head?_eq_some_iff.mp hv
              exact ⟨rest, below, by rw [hstack]⟩
          | home => cases hv
          | search => cases hv
      | alert owner alert => cases hv

/-- A change of the tab bars that keeps their stacks in order, when no alert is shown. -/
theorem orderly_inside {f : Level → Level} (halerts : ∀ level ∈ levels, level.isAlert = false)
    (hf : ∀ level ∈ levels, level.isAlert = false →
      (f level).WellPlaced ∧ (f level).isAlert = false) : Orderly (levels.map f) := by
  have hmap : ∀ level ∈ levels.map f, level.WellPlaced ∧ level.isAlert = false := by
    intro level hlevel
    obtain ⟨l, hl, rfl⟩ := List.mem_map.mp hlevel
    exact hf l hl (halerts l hl)
  refine ⟨fun l hl => (hmap l hl).1, fun l hl => (hmap l (List.mem_of_mem_tail hl)).2, ?_⟩
  intro owner alert rest heq _
  have hfalse := (hmap (.alert owner alert) (heq ▸ List.mem_cons_self)).2
  cases hfalse

/-- A member screen stands in tab bars only, and pushes a screen onto their stacks. -/
theorem Orderly.push_inside (h : Orderly levels)
    (halerts : ∀ level ∈ levels, level.isAlert = false) (hself : self.screen.isMember = true)
    (hcontroller : controller.screen.inTab = true) : Orderly (levels.push self controller) := by
  apply orderly_inside halerts
  intro level hlevel ha
  have hplaced := h.placed level hlevel
  split
  next hholds =>
    rw [Level.holds, decide_eq_true_eq] at hholds
    cases level with
    | single c =>
        rw [List.mem_singleton.mp hholds, show c.screen.isMember = false from hplaced] at hself
        cases hself
    | navigation stack =>
        rw [hplaced self hholds] at hself
        cases hself
    | tabBar selected stack =>
        refine ⟨fun c hc => ?_, rfl⟩
        rcases List.mem_cons.mp hc with rfl | hc
        · exact hcontroller
        · exact hplaced c hc
    | alert owner alert => cases ha
  next => exact ⟨hplaced, ha⟩

theorem Orderly.pop_inside (h : Orderly levels)
    (halerts : ∀ level ∈ levels, level.isAlert = false) : Orderly (levels.pop self) := by
  apply orderly_inside halerts
  intro level hlevel ha
  have hplaced := h.placed level hlevel
  split
  · unfold Level.pop
    split
    · exact ⟨fun c hc => hplaced c (List.mem_cons_of_mem _ hc), rfl⟩
    · exact ⟨fun c hc => hplaced c (List.mem_cons_of_mem _ hc), rfl⟩
    · exact ⟨hplaced, ha⟩
  · exact ⟨hplaced, ha⟩

/-- The swipe takes the splash screen that a log out has pushed off a member screen. -/
def UncoversMemberArea : Levels → Prop
  | .tabBar .profile (top :: below :: _) :: _ => top.screen = .splash ∧ below.screen ≠ .splash
  | _ => False

theorem UncoversMemberArea.visible (h : levels.UncoversMemberArea) :
    levels.swipeBack.memberAreaVisible = true := by
  match levels, h with
  | .tabBar .profile (top :: below :: stack) :: rest, h =>
      have hvisible : memberAreaVisible (.tabBar .profile (below :: stack) :: rest) = true := by
        rw [memberAreaVisible_cons rfl]
        simpa [Level.isMemberArea] using h.2
      exact hvisible

theorem Orderly.swipeBack (h : Orderly levels) :
    Orderly levels.swipeBack ∧ (levels.swipeBack.memberAreaVisible = true →
      levels.memberAreaVisible = true ∨ levels.UncoversMemberArea) := by
  cases levels with
  | nil => exact ⟨h, Or.inl⟩
  | cons top rest =>
      have hplaced := h.placed top List.mem_cons_self
      have hrest : ∀ level ∈ rest, level.WellPlaced :=
        fun l hl => h.placed l (List.mem_cons_of_mem _ hl)
      cases top with
      | navigation stack =>
          match stack, hplaced with
          | [], _ => exact ⟨h, Or.inl⟩
          | [_], _ => exact ⟨h, Or.inl⟩
          | first :: below :: stack, hplaced =>
              have hbelow : (Level.navigation (below :: stack)).WellPlaced :=
                fun c hc => hplaced c (List.mem_cons_of_mem _ hc)
              exact ⟨.of_cons hbelow hrest h.alerts nofun, Or.inl⟩
      | tabBar selected stack =>
          match selected, stack, hplaced with
          | .home, _, _ => exact ⟨h, Or.inl⟩
          | .search, _, _ => exact ⟨h, Or.inl⟩
          | .profile, [], _ => exact ⟨h, Or.inl⟩
          | .profile, [_], _ => exact ⟨h, Or.inl⟩
          | .profile, first :: below :: stack, hplaced =>
              have hbelow : (Level.tabBar .profile (below :: stack)).WellPlaced :=
                fun c hc => hplaced c (List.mem_cons_of_mem _ hc)
              refine ⟨.of_cons hbelow hrest h.alerts nofun, fun hv => ?_⟩
              have hshown : memberAreaVisible (.tabBar .profile (below :: stack) :: rest) = true :=
                hv
              rw [memberAreaVisible_cons rfl] at hshown
              by_cases hfirst : first.screen = .splash
              · exact Or.inr ⟨hfirst, by simpa [Level.isMemberArea] using hshown⟩
              · apply Or.inl
                rw [memberAreaVisible_cons rfl]
                simpa [Level.isMemberArea] using hfirst
      | _ => exact ⟨h, Or.inl⟩

end Levels

end GiveMeMovies
