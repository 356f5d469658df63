import Mathlib.Data.List.Basic

/-!
# Controllers on the screen

The screen is a chain of levels, each presented by the one below it. A level is a single
controller, a navigation controller, the tab bar of the member area, or an alert. Presenting has
an effect only from a controller of the topmost level, since every other level already presents
the next one, and pushing and popping act on the navigation controller that holds the caller.
-/

namespace GiveMeMovies

inductive Screen where
  | splash
  | welcome
  | register
  | emailVerification
  | welcomeInfo
  | profile
  | profileInformation
  deriving DecidableEq

/-- A controller object, which has its class for life. -/
structure Controller where
  number : ℕ
  screen : Screen
  deriving DecidableEq

inductive Tab where
  | home
  | search
  | profile
  deriving DecidableEq

inductive Alert where
  | error (title msg : Option String)
  | logOut
  | deleteAccount
  deriving DecidableEq

/-- The stacks are listed from the top. The tab bar keeps the stack of its Profile tab, which is
empty until that tab is first shown. -/
inductive Level where
  | single (controller : Controller)
  | navigation (stack : List Controller)
  | tabBar (selected : Tab) (profile : List Controller)
  | alert (owner : Controller) (alert : Alert)
  deriving DecidableEq

namespace Level

def controllers : Level → List Controller
  | single controller => [controller]
  | navigation stack => stack
  | tabBar _ profile => profile
  | alert _ _ => []

def holds (level : Level) (self : Controller) : Bool := self ∈ level.controllers

/-- The level is a navigation controller, or has one in it that holds the caller. -/
def isNavigation : Level → Bool
  | navigation _ | tabBar _ _ => true
  | _ => false

def isAlert : Level → Bool
  | alert _ _ => true
  | _ => false

def push (controller : Controller) : Level → Level
  | navigation stack => navigation (controller :: stack)
  | tabBar selected profile => tabBar selected (controller :: profile)
  | level => level

/-- `popViewController`, which leaves the root controller in place. -/
def pop : Level → Level
  | navigation (_ :: below :: stack) => navigation (below :: stack)
  | tabBar selected (_ :: below :: stack) => tabBar selected (below :: stack)
  | level => level

/-- The interactive pop gesture on the stack that the level shows. -/
def swipeBack : Level → Level
  | navigation (_ :: below :: stack) => navigation (below :: stack)
  | tabBar .profile (_ :: below :: stack) => tabBar .profile (below :: stack)
  | level => level

/-- The controller on top of the level, if it is one of the modelled ones. -/
def visible : Level → Option Controller
  | single controller => some controller
  | navigation stack => stack.head?
  | tabBar .profile profile => profile.head?
  | _ => none

/-- The level shows the tab bar controller or a controller of the member area inside it. The
splash screen that a log out pushes is not one of them. -/
def isMemberArea : Level → Bool
  | tabBar .profile (controller :: _) => controller.screen ≠ .splash
  | tabBar _ _ => true
  | _ => false

theorem mem_of_visible {level : Level} {self : Controller}
    (h : level.visible = some self) : self ∈ level.controllers := by
  cases level with
  | single c =>
      cases h
      exact List.mem_singleton.mpr rfl
  | navigation stack => exact List.mem_of_mem_head? h
  | tabBar selected stack =>
      cases selected with
      | profile => exact List.mem_of_mem_head? h
      | home => cases h
      | search => cases h
  | alert owner alert => cases h

end Level

/-- The levels on the screen, from the top. -/
abbrev Levels := List Level

namespace Levels

def canPresent (levels : Levels) (self : Controller) : Bool :=
  match levels with
  | [] => false
  | top :: _ => top.holds self

def present (self : Controller) (level : Level) (levels : Levels) : Levels :=
  if levels.canPresent self then level :: levels else levels

def push (self : Controller) (controller : Controller) (levels : Levels) : Levels :=
  levels.map (fun level => if level.holds self then level.push controller else level)

def pop (self : Controller) (levels : Levels) : Levels :=
  levels.map (fun level => if level.holds self then level.pop else level)

def swipeBack : Levels → Levels
  | [] => []
  | top :: levels => top.swipeBack :: levels

/-- An action of an alert dismisses it. -/
def dismissAlert : Levels → Levels
  | .alert _ _ :: levels => levels
  | levels => levels

def holds (levels : Levels) (self : Controller) : Bool :=
  levels.any (fun level => level.holds self)

/-- `navigationController` of the caller is not nil. -/
def hasNavigation (levels : Levels) (self : Controller) : Bool :=
  levels.any (fun level => level.isNavigation && level.holds self)

/-- The level that the user sees: an alert leaves the one below it visible. -/
def shown (levels : Levels) : Option Level :=
  (levels.dropWhile Level.isAlert).head?

def memberAreaVisible (levels : Levels) : Bool :=
  levels.shown.any Level.isMemberArea

/-- `self` takes touches: it is on top of the topmost level. -/
def isFront (levels : Levels) (self : Controller) : Bool :=
  match levels with
  | [] => false
  | top :: _ => top.visible = some self

theorem canPresent_of_isFront {levels : Levels} {self : Controller}
    (h : levels.isFront self = true) : levels.canPresent self = true := by
  cases levels with
  | nil => cases h
  | cons top rest =>
      have hv : top.visible = some self := by simpa [isFront] using h
      change top.holds self = true
      unfold Level.holds
      rw [decide_eq_true_eq]
      exact Level.mem_of_visible hv

end Levels

end GiveMeMovies
