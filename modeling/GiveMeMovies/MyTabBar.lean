import Mathlib.Algebra.Order.Ring.Rat
import Mathlib.Tactic.Linarith
import Mathlib.Tactic.NormNum
import GiveMeMovies.HitTesting

/-!
# The tab bar and its middle button

`MyTabBar` replaces the search of `UIView` for the view that is touched, so that a button which
stands out over the upper edge of the bar takes touches there as well. The bar itself then takes
none, and what it shows its own background over can be touched through it. The bar of the app is a
plain one, and the part of the middle button over its edge takes no touches.
-/

namespace GiveMeMovies.MyTabBar

open HitTesting

/-- What the search looks at. Only `MyTabBar` replaces the search. -/
structure Attributes where
  isHidden : Bool := false
  isUserInteractionEnabled : Bool := true
  alpha : ℚ := 1
  clipsToBounds : Bool := false
  isMyTabBar : Bool := false

variable {ι : Type}

abbrev UIView (ι : Type) := View ι Attributes ℚ

mutual

/-- `hitTest` of `MyTabBar` and of the other views. -/
def hitTest : UIView ι → Point ℚ → Option ι
  | .node id attributes frame bounds subviews, point =>
      if attributes.isMyTabBar then
        if ¬ attributes.clipsToBounds ∧ ¬ attributes.isHidden ∧ 0 < attributes.alpha then
          hitTestReversed subviews point
        else none
      else if attributes.isHidden ∨ ¬ attributes.isUserInteractionEnabled ∨
          attributes.alpha < 1 / 100 then none
      else if (Rect.mk bounds.x bounds.y frame.width frame.height).contains point then
        some ((hitTestReversed subviews point).getD id)
      else none

/-- `for member in subviews.reversed()`, which returns the first result. -/
def hitTestReversed : List (UIView ι) → Point ℚ → Option ι
  | [], _ => none
  | member :: members, point =>
      (hitTestReversed members point).or (hitTest member (member.convert point))

end

def mode (attributes : Attributes) : Mode :=
  if attributes.isMyTabBar then
    if ¬ attributes.clipsToBounds ∧ ¬ attributes.isHidden ∧ 0 < attributes.alpha then .handsOn
    else .ignores
  else if attributes.isHidden ∨ ¬ attributes.isUserInteractionEnabled ∨
      attributes.alpha < 1 / 100 then .ignores
  else .takes

mutual

theorem hitTest_eq_touched : ∀ (view : UIView ι) (point : Point ℚ),
    hitTest view point = view.touched mode point
  | .node id attributes frame bounds subviews, point => by
      have hsub := hitTestReversed_eq_touchedAmong subviews point
      unfold hitTest View.touched mode
      rw [hsub]
      by_cases hbar : attributes.isMyTabBar = true
      · rw [if_pos hbar, if_pos hbar]
        split <;> rfl
      · rw [if_neg hbar, if_neg hbar]
        split <;> rfl

theorem hitTestReversed_eq_touchedAmong : ∀ (views : List (UIView ι)) (point : Point ℚ),
    hitTestReversed views point = View.touchedAmong mode views point
  | [], _ => rfl
  | view :: views, point => by
      unfold hitTestReversed View.touchedAmong
      rw [hitTestReversed_eq_touchedAmong views point, hitTest_eq_touched view]

end

/-- In every tree of views, with tab bars anywhere in it, the search finds the view that is painted
last among those that take touches and show the point on the screen. A tab bar takes none, and does
not cut off what stands out of it. -/
theorem hitTest_eq_frontmost (window : UIView ι) (q : Point ℚ) :
    hitTest window (q.from (window.origin ⟨0, 0⟩)) =
      View.frontmost (window.regions mode ⟨0, 0⟩ []) q := by
  rw [hitTest_eq_touched]
  exact View.touched_eq_frontmost rfl window ⟨0, 0⟩

/-- The button that `setupMiddleButton` adds to the bar when the view of the tab bar controller has
the width `width`. -/
def middleButton (id : ι) (width : ℚ) : UIView ι :=
  .node id {} ⟨width / 2 - 28, -24, 56, 56⟩ ⟨0, 0⟩ []

/-- The view of the tab bar controller, with its bar over its contents. -/
def screen (root : ι) (size : Rect ℚ) (contents : List (UIView ι)) (bar : UIView ι) : UIView ι :=
  .node root {} size ⟨0, 0⟩ (contents ++ [bar])

/-- The bar of the storyboard with the button among its subviews. The storyboard sets no class for
it, so that it is a plain `UITabBar`. -/
def tabBar (id : ι) (frame : Rect ℚ) (back : List (UIView ι)) (button : UIView ι)
    (front : List (UIView ι)) : UIView ι :=
  .node id {} frame ⟨0, 0⟩ (back ++ button :: front)

/-- The bar as it would be with the class `MyTabBar`. -/
def myTabBar (id : ι) (frame : Rect ℚ) (back : List (UIView ι)) (button : UIView ι)
    (front : List (UIView ι)) : UIView ι :=
  .node id { isMyTabBar := true } frame ⟨0, 0⟩ (back ++ button :: front)

variable {root bar button : ι} {width : ℚ} {size frame : Rect ℚ}
  {contents back front : List (UIView ι)}

theorem hitTest_plain (id : ι) (frame : Rect ℚ) (bounds : Point ℚ) (subviews : List (UIView ι))
    (p : Point ℚ) : hitTest (.node id {} frame bounds subviews) p =
      if (Rect.mk bounds.x bounds.y frame.width frame.height).contains p then
        some ((hitTestReversed subviews p).getD id)
      else none := by
  rw [hitTest, if_neg Bool.false_ne_true, if_neg]
  rintro (h | h | h)
  · cases h
  · exact h rfl
  · norm_num at h

theorem hitTestReversed_append (front back : List (UIView ι)) (p : Point ℚ) :
    hitTestReversed (front ++ back) p = (hitTestReversed back p).or (hitTestReversed front p) := by
  induction front with
  | nil => simp [hitTestReversed]
  | cons view front ih =>
      rw [List.cons_append, hitTestReversed, hitTestReversed, ih, Option.or_assoc]

theorem hitTestReversed_singleton (view : UIView ι) (p : Point ℚ) :
    hitTestReversed [view] p = hitTest view (view.convert p) := rfl

/-- The bar is asked before what lies behind it. -/
theorem hitTest_screen {p : Point ℚ}
    (hp : (Rect.mk 0 0 size.width size.height).contains p = true) (bar : UIView ι) :
    hitTest (screen root size contents bar) p =
      some (((hitTest bar (bar.convert p)).or (hitTestReversed contents p)).getD root) := by
  rw [screen, hitTest_plain, if_pos hp, hitTestReversed_append, hitTestReversed_singleton]

theorem hitTest_middleButton {p : Point ℚ}
    (hp : (middleButton button width).frame.contains p = true) :
    hitTest (middleButton button width) ((middleButton button width).convert p) = some button := by
  rw [middleButton] at hp ⊢
  obtain ⟨hleft, hright, htop, hbottom⟩ := Rect.contains_iff.mp hp
  simp only [View.frame] at hleft hright htop hbottom
  rw [hitTest_plain, if_pos]
  · rfl
  · rw [Rect.contains_iff]
    simp only [View.convert, View.frame, View.bounds]
    refine ⟨?_, ?_, ?_, ?_⟩ <;> linarith

/-- The button is asked after the subviews in front of it, and takes what it is asked about. -/
theorem hitTestReversed_middleButton {p : Point ℚ}
    (hp : (middleButton button width).frame.contains p = true) :
    hitTestReversed (back ++ middleButton button width :: front) p =
      some ((hitTestReversed front p).getD button) := by
  rw [hitTestReversed_append, hitTestReversed, hitTest_middleButton hp]
  cases hitTestReversed front p with
  | none => rfl
  | some view => rfl

theorem contains_tabBar {p : Point ℚ} :
    (Rect.mk 0 0 frame.width frame.height).contains (p.from ⟨frame.x, frame.y⟩) =
      frame.contains p := by
  rw [← Rect.contains_moved]
  simp [Rect.moved]

/-- A point of the button reaches it if the bar has the point, where no subview in front of the
button takes it, and otherwise what lies behind the bar. With `MyTabBar` every point of the button
would reach it. -/
theorem touch_middleButton (root bar button : ι) (width : ℚ) (size frame : Rect ℚ)
    (contents back front : List (UIView ι)) (p : Point ℚ)
    (hp : (Rect.mk 0 0 size.width size.height).contains p = true)
    (hbutton : ((middleButton button width).frame.moved ⟨frame.x, frame.y⟩).contains p = true) :
    hitTest (screen root size contents
        (tabBar bar frame back (middleButton button width) front)) p =
      (if frame.contains p then
        some ((hitTestReversed front (p.from ⟨frame.x, frame.y⟩)).getD button)
      else hitTest (.node root {} size ⟨0, 0⟩ contents) p) ∧
    hitTest (screen root size contents
        (myTabBar bar frame back (middleButton button width) front)) p =
      some ((hitTestReversed front (p.from ⟨frame.x, frame.y⟩)).getD button) := by
  have hconvert (attributes : Attributes) (subviews : List (UIView ι)) :
      (View.node bar attributes frame ⟨0, 0⟩ subviews).convert p = p.from ⟨frame.x, frame.y⟩ := by
    simp [View.convert, View.frame, View.bounds, Point.from]
  rw [Rect.contains_moved] at hbutton
  constructor
  · rw [hitTest_screen hp, tabBar, hconvert, hitTest_plain, contains_tabBar,
      hitTestReversed_middleButton hbutton]
    by_cases hin : frame.contains p = true
    · rw [if_pos hin, if_pos hin]
      rfl
    · rw [if_neg hin, if_neg hin, hitTest_plain, if_pos hp]
      rfl
  · rw [hitTest_screen hp, myTabBar, hconvert, hitTest, if_pos rfl, if_pos (by norm_num),
      hitTestReversed_middleButton hbutton]
    rfl

/-- The top of the button on a screen of 390 points by 844, with a bar of 83 points. -/
theorem touch_middleButton_top :
    hitTest (screen 0 ⟨0, 0, 390, 844⟩ []
        (tabBar 1 ⟨0, 761, 390, 83⟩ [] (middleButton 2 390) [])) ⟨195, 738⟩ = some 0 ∧
      hitTest (screen 0 ⟨0, 0, 390, 844⟩ []
        (myTabBar 1 ⟨0, 761, 390, 83⟩ [] (middleButton 2 390) [])) ⟨195, 738⟩ = some 2 := by
  have hscreen : (Rect.mk (0 : ℚ) 0 390 844).contains ⟨195, 738⟩ = true := by
    rw [Rect.contains_iff]
    norm_num
  have hbutton : ((middleButton 2 390).frame.moved ⟨0, 761⟩).contains ⟨195, 738⟩ = true := by
    rw [Rect.contains_iff]
    simp only [Rect.moved, middleButton, View.frame]
    norm_num
  have hbar : ¬ (Rect.mk (0 : ℚ) 761 390 83).contains ⟨195, 738⟩ = true := by
    rw [Rect.contains_iff]
    norm_num
  obtain ⟨hplain, hmine⟩ := touch_middleButton 0 1 2 390 ⟨0, 0, 390, 844⟩ ⟨0, 761, 390, 83⟩ [] [] []
    ⟨195, 738⟩ hscreen hbutton
  rw [if_neg hbar, hitTest_plain, if_pos hscreen] at hplain
  exact ⟨hplain, hmine⟩

end GiveMeMovies.MyTabBar
