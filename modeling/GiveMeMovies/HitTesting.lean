import Mathlib.Algebra.Order.Group.Defs
import Mathlib.Data.List.Basic

/-!
# Hit testing in a tree of views

A view takes touches inside its bounds, or only hands them on to its subviews, or ignores them
together with its subviews. The search for the view that is touched descends through the
coordinate systems of the views, and asks the subviews from the last to the first. What it finds
is described in the coordinates of the screen: the views that take touches have regions there, in
the order in which they are painted, and the one touched is the last whose region has the point.
-/

namespace HitTesting

structure Point (K : Type*) where
  x : K
  y : K
  deriving DecidableEq

structure Rect (K : Type*) where
  x : K
  y : K
  width : K
  height : K
  deriving DecidableEq

inductive Mode where
  | takes
  | handsOn
  | ignores
  deriving DecidableEq

/-- `frame` is given in the coordinates of the view above, `bounds` is the origin of the view's
own. -/
inductive View (ι A K : Type*) where
  | node (id : ι) (attributes : A) (frame : Rect K) (bounds : Point K)
      (subviews : List (View ι A K))

section Geometry

variable {K : Type*} [AddCommGroup K] [LinearOrder K]

/-- The edges of the smaller coordinates belong to the rectangle. -/
def Rect.contains (r : Rect K) (p : Point K) : Bool :=
  r.x ≤ p.x && p.x < r.x + r.width && r.y ≤ p.y && p.y < r.y + r.height

def Rect.moved (r : Rect K) (o : Point K) : Rect K := ⟨r.x + o.x, r.y + o.y, r.width, r.height⟩

def Point.from (p o : Point K) : Point K := ⟨p.x - o.x, p.y - o.y⟩

theorem Rect.contains_iff {r : Rect K} {p : Point K} : r.contains p = true ↔
    r.x ≤ p.x ∧ p.x < r.x + r.width ∧ r.y ≤ p.y ∧ p.y < r.y + r.height := by
  simp [contains, and_assoc]

theorem Rect.contains_moved [IsOrderedAddMonoid K] (r : Rect K) (o p : Point K) :
    (r.moved o).contains p = r.contains (p.from o) := by
  rw [Bool.eq_iff_iff, contains_iff, contains_iff]
  simp only [moved, Point.from, le_sub_iff_add_le, sub_lt_iff_lt_add, add_right_comm]

end Geometry

namespace View

variable {ι A K : Type*} [AddCommGroup K]

def id : View ι A K → ι
  | node id _ _ _ _ => id

def attributes : View ι A K → A
  | node _ attributes _ _ _ => attributes

def frame : View ι A K → Rect K
  | node _ _ frame _ _ => frame

def bounds : View ι A K → Rect K
  | node _ _ frame bounds _ => ⟨bounds.x, bounds.y, frame.width, frame.height⟩

/-- The point of the view above, in the view's own coordinates. -/
def convert (view : View ι A K) (p : Point K) : Point K :=
  ⟨p.x - view.frame.x + view.bounds.x, p.y - view.frame.y + view.bounds.y⟩

variable (mode : A → Mode)

/-- Where on the screen the origin of the view's coordinates is, when that of the view above is at
`o`. -/
def origin (view : View ι A K) (o : Point K) : Point K :=
  ⟨o.x + view.frame.x - view.bounds.x, o.y + view.frame.y - view.bounds.y⟩

mutual

/-- The views that take touches, in the order in which they are painted, each with the rectangles of
the screen that a touch of it lies in. -/
def regions (o : Point K) (clip : List (Rect K)) : View ι A K → List (ι × List (Rect K))
  | node id attributes frame bounds subviews =>
      let o' : Point K := ⟨o.x + frame.x - bounds.x, o.y + frame.y - bounds.y⟩
      match mode attributes with
      | .ignores => []
      | .handsOn => regionsOf o' clip subviews
      | .takes =>
          (id, frame.moved o :: clip) :: regionsOf o' (frame.moved o :: clip) subviews

def regionsOf (o : Point K) (clip : List (Rect K)) : List (View ι A K) → List (ι × List (Rect K))
  | [] => []
  | view :: views => view.regions o clip ++ regionsOf o clip views

end

variable {mode} in
mutual

theorem clip_mem_regions {o : Point K} {clip : List (Rect K)} {region : ι × List (Rect K)} :
    ∀ view : View ι A K, region ∈ view.regions mode o clip → ∀ r ∈ clip, r ∈ region.2
  | node id attributes frame bounds subviews, h, r, hr => by
      unfold regions at h
      split at h
      · cases h
      · exact clip_mem_regionsOf subviews h r hr
      · rcases List.mem_cons.mp h with rfl | h
        · exact List.mem_cons_of_mem _ hr
        · exact clip_mem_regionsOf subviews h r (List.mem_cons_of_mem _ hr)

theorem clip_mem_regionsOf {o : Point K} {clip : List (Rect K)} {region : ι × List (Rect K)} :
    ∀ views : List (View ι A K), region ∈ regionsOf mode o clip views → ∀ r ∈ clip, r ∈ region.2
  | [], h, _, _ => absurd h List.not_mem_nil
  | view :: views, h, r, hr => by
      unfold regionsOf at h
      rcases List.mem_append.mp h with h | h
      · exact clip_mem_regions view h r hr
      · exact clip_mem_regionsOf views h r hr

end

/-- A point of the screen in the coordinates of a view. -/
theorem convert_from (view : View ι A K) (q o : Point K) :
    view.convert (q.from o) = q.from (view.origin o) := by
  simp only [convert, origin, Point.from, Point.mk.injEq]
  constructor
  · rw [sub_sub_eq_add_sub, sub_sub, sub_add_eq_add_sub]
  · rw [sub_sub_eq_add_sub, sub_sub, sub_add_eq_add_sub]

variable [LinearOrder K]

mutual

/-- The view touched at `p`, a point of the view's own coordinates. -/
def touched : View ι A K → Point K → Option ι
  | node id attributes frame bounds subviews, p =>
      match mode attributes with
      | .ignores => none
      | .handsOn => touchedAmong subviews p
      | .takes =>
          if (Rect.mk bounds.x bounds.y frame.width frame.height).contains p then
            some ((touchedAmong subviews p).getD id)
          else none

/-- The subviews are asked from the last to the first. -/
def touchedAmong : List (View ι A K) → Point K → Option ι
  | [], _ => none
  | view :: views, p => (touchedAmong views p).or (view.touched (view.convert p))

end

/-- The last view whose region has the point. -/
def frontmost (regions : List (ι × List (Rect K))) (q : Point K) : Option ι :=
  ((regions.filter (fun region => region.2.all (fun r => r.contains q))).getLast?).map Prod.fst

@[simp] theorem frontmost_nil (q : Point K) :
    frontmost ([] : List (ι × List (Rect K))) q = none := rfl

theorem frontmost_append (front back : List (ι × List (Rect K))) (q : Point K) :
    frontmost (front ++ back) q = (frontmost back q).or (frontmost front q) := by
  unfold frontmost
  rw [List.filter_append, List.getLast?_append]
  cases (back.filter (fun region => region.2.all (fun r => r.contains q))).getLast? with
  | none => rfl
  | some region => rfl

theorem frontmost_cons (region : ι × List (Rect K)) (regions : List (ι × List (Rect K)))
    (q : Point K) : frontmost (region :: regions) q =
      (frontmost regions q).or
        (if region.2.all (fun r => r.contains q) then some region.1 else none) := by
  rw [show region :: regions = [region] ++ regions from rfl, frontmost_append]
  congr 1
  by_cases h : region.2.all (fun r => r.contains q) = true
  · simp [frontmost, h]
  · simp [frontmost, h]

variable {mode}

/-- A region lies in the rectangles that clip it. -/
theorem frontmost_regionsOf_outside {o : Point K} {clip : List (Rect K)} {q : Point K}
    {r : Rect K} (hr : r ∈ clip) (hq : r.contains q = false) (views : List (View ι A K)) :
    frontmost (regionsOf mode o clip views) q = none := by
  have hnone : (regionsOf mode o clip views).filter
      (fun region => region.2.all (fun r => r.contains q)) = [] := by
    rw [List.filter_eq_nil_iff]
    intro region hregion hall
    have hin := List.all_eq_true.mp hall r (clip_mem_regionsOf views hregion r hr)
    rw [hq] at hin
    cases hin
  rw [frontmost, hnone]
  rfl

theorem contains_bounds [IsOrderedAddMonoid K] {frame : Rect K} {bounds : Point K} {q o : Point K} :
    (Rect.mk bounds.x bounds.y frame.width frame.height).contains
      (q.from ⟨o.x + frame.x - bounds.x, o.y + frame.y - bounds.y⟩) =
        (frame.moved o).contains q := by
  rw [Rect.contains_moved, Bool.eq_iff_iff, Rect.contains_iff, Rect.contains_iff]
  have hle (a b c d : K) : a ≤ d - (b + c - a) ↔ c ≤ d - b := by
    constructor <;> intro h <;> grind
  have hlt (a b c d e : K) : d - (b + c - a) < a + e ↔ d - b < c + e := by
    constructor <;> intro h <;> grind
  simp only [Point.from, hle, hlt]

mutual

/-- The descent finds the view that is painted last among those whose region has the point. -/
theorem touched_eq_frontmost [IsOrderedAddMonoid K] {clip : List (Rect K)} {q : Point K}
    (hclip : clip.all (fun r => r.contains q) = true) : ∀ (view : View ι A K) (o : Point K),
      view.touched mode (q.from (view.origin o)) = frontmost (view.regions mode o clip) q
  | node id attributes frame bounds subviews, o => by
      have hrec (clip' : List (Rect K)) (hclip' : clip'.all (fun r => r.contains q) = true) :=
        touchedAmong_eq_frontmost hclip' subviews
          ⟨o.x + frame.x - bounds.x, o.y + frame.y - bounds.y⟩
      unfold touched regions
      cases mode attributes with
      | ignores => rfl
      | handsOn => exact hrec clip hclip
      | takes =>
          have hbounds := @contains_bounds K _ _ _ frame bounds q o
          rw [frontmost_cons]
          by_cases hin : (frame.moved o).contains q = true
          · rw [hin] at hbounds
            have hall : (frame.moved o :: clip).all (fun r => r.contains q) = true := by
              rw [List.all_cons, hin, hclip]
              rfl
            rw [if_pos hall, ← hrec _ hall]
            exact (if_pos hbounds).trans Option.or_some.symm
          · have hout : (frame.moved o).contains q = false := by simpa using hin
            have hall : ¬ (frame.moved o :: clip).all (fun r => r.contains q) = true := by
              rw [List.all_cons, hout]
              simp
            rw [if_neg hall, frontmost_regionsOf_outside List.mem_cons_self hout subviews]
            rw [hout] at hbounds
            exact if_neg (ne_true_of_eq_false hbounds)

theorem touchedAmong_eq_frontmost [IsOrderedAddMonoid K] {clip : List (Rect K)} {q : Point K}
    (hclip : clip.all (fun r => r.contains q) = true) : ∀ (views : List (View ι A K))
      (o : Point K), touchedAmong mode views (q.from o) =
        frontmost (regionsOf mode o clip views) q
  | [], _ => rfl
  | view :: views, o => by
      unfold touchedAmong regionsOf
      rw [frontmost_append, touchedAmong_eq_frontmost hclip views o, convert_from,
        touched_eq_frontmost hclip view o]

end

end View

end HitTesting
