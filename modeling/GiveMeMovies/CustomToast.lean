import Mathlib.Data.Int.Notation
import Mathlib.Data.List.Nodup
import GiveMeMovies.CallbackProgram

/-!
# Toasts

A toast is a subview with the tag 1. Showing one removes those that are there and leaves two
animations, after which the toast removes itself. The subviews that others put on the screen have
other tags and are left alone.
-/

namespace GiveMeMovies.CustomToast

/-- The number tells a view apart from every other one, and `text` is that of the label in it. -/
structure Subview where
  number : ℕ
  tag : ℤ
  text : Option String
  deriving DecidableEq

/-- The view of the controller. -/
structure Screen where
  subviews : List Subview := []
  nextView : ℕ := 0

inductive Animation where
  | appear (number : ℕ)
  | disappear (number : ℕ)
  deriving DecidableEq

/-- A completion is told whether the animation has finished. -/
abbrev Finished : Animation → Type := fun _ => Bool

abbrev ToastProgram := Callback.Prog Screen Animation Finished

abbrev ToastPending := Callback.Pending Screen Animation Finished

abbrev ToastWorld := Callback.World Unit Screen Animation Finished

def removeFromSuperview (number : ℕ) (screen : Screen) : Screen :=
  { screen with subviews := screen.subviews.filter (fun item => item.number ≠ number) }

/-- The loop goes through the subviews that were there at its start. -/
def removeToasts (screen : Screen) : Screen :=
  screen.subviews.foldl
    (fun screen item => if item.tag = 1 then removeFromSuperview item.number screen else screen)
    screen

def addSubview (tag : ℤ) (text : Option String) (screen : Screen) : Screen where
  subviews := screen.subviews ++ [⟨screen.nextView, tag, text⟩]
  nextView := screen.nextView + 1

def disappearing (toast : ℕ) : ToastPending :=
  ⟨.disappear toast, fun _ => .modify (removeFromSuperview toast)⟩

def appearing (toast : ℕ) : ToastPending :=
  ⟨.appear toast, fun _ => .request (.disappear toast) (disappearing toast).handler⟩

/-- `CustomToast.show` -/
def showToast (message : String) : ToastProgram :=
  .modify removeToasts ++ .read (fun screen =>
    .modify (addSubview 1 (some message)) ++
      .request (.appear screen.nextView) (appearing screen.nextView).handler)

/-- A toast is shown, or other code adds or removes a view of its own. -/
inductive Act where
  | showToast (message : String)
  | add (tag : ℤ)
  | remove (number : ℕ)

def act : Act → Screen → Option ToastProgram
  | .showToast message, _ => some (showToast message)
  | .add tag, _ => if tag = 1 then none else some (.modify (addSubview tag none))
  | .remove number, screen =>
      if ∃ item ∈ screen.subviews, item.number = number ∧ item.tag ≠ 1 then
        some (.modify (removeFromSuperview number))
      else none

def service : Callback.Service Unit Screen Animation Finished Bool where
  reply _ finished _ := finished
  commit _ _ server := server
  receive _ _ screen := screen

abbrev Event := Callback.Event Act Bool

def step : ToastWorld → Event → Option ToastWorld := Callback.step service act

def toasts (screen : Screen) : List Subview := screen.subviews.filter (fun item => item.tag = 1)

def others (screen : Screen) : List Subview := screen.subviews.filter (fun item => item.tag ≠ 1)

/-! ## Removing views -/

variable {screen : Screen} {w w' : ToastWorld} {n : ℕ}

/-- Every view has a number of its own that has been used up. -/
structure Numbered (screen : Screen) : Prop where
  nodup : (screen.subviews.map Subview.number).Nodup
  lt : ∀ item ∈ screen.subviews, item.number < screen.nextView

theorem Numbered.removeFromSuperview (h : Numbered screen) :
    Numbered (removeFromSuperview n screen) where
  nodup := h.nodup.sublist (List.filter_sublist.map _)
  lt item hitem := h.lt item (List.mem_of_mem_filter hitem)

theorem Numbered.eq {item item' : Subview} (h : Numbered screen) (hitem : item ∈ screen.subviews)
    (hitem' : item' ∈ screen.subviews) (heq : item.number = item'.number) : item = item' :=
  List.inj_on_of_nodup_map h.nodup hitem hitem' heq

theorem foldl_removeFromSuperview (items : List Subview) (screen : Screen) :
    (items.foldl (fun screen item =>
      if item.tag = 1 then removeFromSuperview item.number screen else screen) screen) =
    { screen with subviews := screen.subviews.filter (fun item =>
        ∀ toast ∈ items, toast.tag = 1 → item.number ≠ toast.number) } := by
  induction items generalizing screen with
  | nil => simp
  | cons toast items ih =>
      rw [List.foldl_cons, ih]
      split
      next htag => simp [removeFromSuperview, List.filter_filter, htag, Bool.and_comm]
      next htag => simp [htag]

/-- The loop removes exactly the toasts. -/
theorem removeToasts_eq (h : Numbered screen) :
    removeToasts screen = { screen with subviews := others screen } := by
  rw [removeToasts, foldl_removeFromSuperview, others]
  congr 1
  apply List.filter_congr
  intro item hitem
  rw [decide_eq_decide]
  constructor
  · exact fun hall htag => hall item hitem htag rfl
  · rintro htag toast htoast htoastTag heq
    rw [← h.eq hitem htoast heq] at htoastTag
    exact htag htoastTag

theorem Numbered.addSubview {tag : ℤ} {text : Option String} (h : Numbered screen) :
    Numbered (addSubview tag text screen) where
  nodup := by
    have hnew : screen.nextView ∉ screen.subviews.map Subview.number := by
      intro hmem
      obtain ⟨item, hitem, heq⟩ := List.mem_map.mp hmem
      have hlt := h.lt item hitem
      omega
    rw [CustomToast.addSubview, List.map_append, List.nodup_append]
    refine ⟨h.nodup, List.nodup_singleton _, ?_⟩
    rintro a ha b hb rfl
    rw [List.map_singleton, List.mem_singleton] at hb
    rw [hb] at ha
    exact hnew ha
  lt item hitem := by
    rcases List.mem_append.mp hitem with hitem | hitem
    · exact Nat.lt_succ_of_lt (h.lt item hitem)
    · rw [List.mem_singleton.mp hitem]
      exact Nat.lt_succ_self _

/-! ## Runs -/

/-- The messages that have been shown, in their order. -/
def messages (es : List Event) : List String :=
  es.filterMap (fun e => match e with
    | .act (.showToast message) => some message
    | _ => none)

def answered (w : ToastWorld) : List Animation := w.journal.map Callback.Entry.call

/-- The last toast shown has the number `n`, and is there until it has disappeared. -/
structure Latest (w : ToastWorld) (n : ℕ) (message : String) : Prop where
  sent : .appear n ∈ w.calls
  last : ∀ m, .appear m ∈ w.calls → m ≤ n
  toasts : toasts w.client = if .disappear n ∈ answered w then [] else [⟨n, 1, some message⟩]

/-- What holds after the events `es`. -/
structure Kept (es : List Event) (w : ToastWorld) : Prop where
  numbered : Numbered w.client
  inFlight : ∀ p ∈ w.inFlight, ∃ n, p = appearing n ∨ p = disappearing n
  used : ∀ n, .appear n ∈ w.calls → n < w.client.nextView
  own : ∀ item ∈ others w.client, .appear item.number ∉ w.calls
  appeared : ∀ n, .disappear n ∈ w.calls → .appear n ∈ w.calls
  continued : ∀ n, .appear n ∈ answered w → .disappear n ∈ w.calls
  latest : match (messages es).getLast? with
    | some message => ∃ n, Latest w n message
    | none => toasts w.client = [] ∧ ∀ n, .appear n ∉ w.calls

theorem mem_calls_iff {call : Animation} :
    call ∈ w.calls ↔ (∃ p ∈ w.inFlight, p.call = call) ∨ call ∈ answered w := by
  rw [Callback.World.calls, List.mem_append, List.mem_map]
  rfl

theorem run_showToast (message : String) (h : Numbered screen) :
    (showToast message).run screen =
      (addSubview 1 (some message) { screen with subviews := others screen },
        [appearing screen.nextView]) := by
  rw [showToast, Callback.Prog.run_append, Callback.Prog.run_modify, removeToasts_eq h]
  rfl

theorem toasts_removeFromSuperview (n : ℕ) (screen : Screen) :
    toasts (removeFromSuperview n screen) =
      (toasts screen).filter (fun item => item.number ≠ n) := List.filter_comm _ _ _

theorem others_removeFromSuperview (n : ℕ) (screen : Screen) :
    others (removeFromSuperview n screen) =
      (others screen).filter (fun item => item.number ≠ n) := List.filter_comm _ _ _

theorem toasts_addSubview (tag : ℤ) (text : Option String) (screen : Screen) :
    toasts (addSubview tag text screen) =
      toasts screen ++ if tag = 1 then [⟨screen.nextView, tag, text⟩] else [] := by
  unfold toasts addSubview
  rw [List.filter_append, List.filter_singleton]
  simp

theorem others_addSubview (tag : ℤ) (text : Option String) (screen : Screen) :
    others (addSubview tag text screen) =
      others screen ++ if tag = 1 then [] else [⟨screen.nextView, tag, text⟩] := by
  unfold others addSubview
  rw [List.filter_append, List.filter_singleton]
  simp

theorem mem_others {item : Subview} :
    item ∈ others screen ↔ item ∈ screen.subviews ∧ item.tag ≠ 1 := by
  simp [others]

theorem Numbered.others (h : Numbered screen) :
    Numbered { screen with subviews := others screen } where
  nodup := h.nodup.sublist (List.filter_sublist.map _)
  lt item hitem := h.lt item (List.mem_of_mem_filter hitem)

theorem messages_concat (es : List Event) (e : Event) :
    messages (es ++ [e]) = messages es ++ messages [e] := List.filterMap_append

theorem kept_start (hnumbered : Numbered screen) (hnone : toasts screen = []) :
    Kept [] (Callback.World.start () screen) where
  numbered := hnumbered
  inFlight _ hp := absurd hp List.not_mem_nil
  used _ h := absurd h List.not_mem_nil
  own _ _ := List.not_mem_nil
  appeared _ h := absurd h List.not_mem_nil
  continued _ h := absurd h List.not_mem_nil
  latest := ⟨hnone, fun _ => List.not_mem_nil⟩

variable {es : List Event}

theorem Kept.showToast (h : Kept es w) (message : String) :
    Kept (es ++ [.act (.showToast message)]) (w.exec (showToast message)) := by
  have hrun := run_showToast message h.numbered
  have hcalls (call : Animation) : call ∈ (w.exec (CustomToast.showToast message)).calls ↔
      call ∈ w.calls ∨ call = .appear w.client.nextView := by
    rw [Callback.World.mem_calls_exec, hrun]
    simp [appearing, eq_comm]
  have hfresh : .disappear w.client.nextView ∉ w.calls :=
    fun hmem => Nat.lt_irrefl _ (h.used _ (h.appeared _ hmem))
  constructor
  · rw [Callback.World.exec_client, hrun]
    exact h.numbered.others.addSubview
  · intro p hp
    rw [Callback.World.exec_inFlight, hrun] at hp
    rcases List.mem_append.mp hp with hp | hp
    · exact h.inFlight p hp
    · exact ⟨_, .inl (List.mem_singleton.mp hp)⟩
  · intro n hn
    rw [Callback.World.exec_client, hrun]
    change n < w.client.nextView + 1
    rcases (hcalls _).mp hn with hn | hn
    · exact Nat.lt_succ_of_lt (h.used n hn)
    · rw [Animation.appear.inj hn]
      exact Nat.lt_succ_self _
  · intro item hitem hmem
    rw [Callback.World.exec_client, hrun, others_addSubview, if_pos rfl, List.append_nil] at hitem
    obtain ⟨hold, _⟩ := mem_others.mp hitem
    rcases (hcalls _).mp hmem with hmem | hmem
    · exact h.own item hold hmem
    · have hlt := h.numbered.lt item (mem_others.mp hold).1
      rw [Animation.appear.inj hmem] at hlt
      exact Nat.lt_irrefl _ hlt
  · intro n hn
    rcases (hcalls _).mp hn with hn | hn
    · exact (hcalls _).mpr (.inl (h.appeared n hn))
    · cases hn
  · exact fun n hn => (hcalls _).mpr (.inl (h.continued n hn))
  · rw [messages_concat]
    have hlast : (messages es ++ messages [.act (.showToast message)]).getLast? = some message :=
      List.getLast?_concat
    rw [hlast]
    refine ⟨w.client.nextView, (hcalls _).mpr (.inr rfl), fun m hm => ?_, ?_⟩
    · rcases (hcalls _).mp hm with hm | hm
      · exact Nat.le_of_lt (h.used m hm)
      · exact Nat.le_of_eq (Animation.appear.inj hm)
    · rw [Callback.World.exec_client, hrun, toasts_addSubview, if_pos rfl, if_neg]
      · have hnone : toasts { w.client with subviews := others w.client } = [] := by
          simp [toasts, others, List.filter_filter]
        rw [hnone]
        rfl
      · exact fun hmem => hfresh (mem_calls_iff.mpr (.inr hmem))

/-- Views of other code come and go. -/
theorem Kept.change {f : Screen → Screen} {e : Event} (h : Kept es w) (he : messages [e] = [])
    (hnumbered : Numbered (f w.client)) (hnext : w.client.nextView ≤ (f w.client).nextView)
    (htoasts : toasts (f w.client) = toasts w.client)
    (hown : ∀ item ∈ others (f w.client), .appear item.number ∉ w.calls) :
    Kept (es ++ [e]) (w.exec (.modify f)) := by
  have hexec : w.exec (.modify f) = { w with client := f w.client } := by
    simp [Callback.World.exec]
  rw [hexec]
  constructor
  · exact hnumbered
  · exact h.inFlight
  · exact fun n hn => Nat.lt_of_lt_of_le (h.used n hn) hnext
  · exact hown
  · exact h.appeared
  · exact h.continued
  · rw [messages_concat, he, List.append_nil]
    have hlatest := h.latest
    split
    next message hlast =>
      rw [hlast] at hlatest
      obtain ⟨n, hn⟩ := hlatest
      exact ⟨n, hn.sent, hn.last, htoasts.trans hn.toasts⟩
    next hlast =>
      rw [hlast] at hlatest
      exact ⟨htoasts.trans hlatest.1, hlatest.2⟩

theorem Kept.add {tag : ℤ} (h : Kept es w) (htag : tag ≠ 1) :
    Kept (es ++ [.act (.add tag)]) (w.exec (.modify (addSubview tag none))) := by
  apply h.change rfl h.numbered.addSubview (Nat.le_succ _)
  · rw [toasts_addSubview, if_neg htag, List.append_nil]
  · intro item hitem hmem
    rw [others_addSubview, if_neg htag] at hitem
    rcases List.mem_append.mp hitem with hitem | hitem
    · exact h.own item hitem hmem
    · rw [List.mem_singleton.mp hitem] at hmem
      exact Nat.lt_irrefl _ (h.used _ hmem)

theorem Kept.remove {number : ℕ} {item : Subview} (h : Kept es w)
    (hitem : item ∈ w.client.subviews) (hnumber : item.number = number) (htag : item.tag ≠ 1) :
    Kept (es ++ [.act (.remove number)]) (w.exec (.modify (removeFromSuperview number))) := by
  apply h.change rfl h.numbered.removeFromSuperview (Nat.le_refl _)
  · rw [toasts_removeFromSuperview, List.filter_eq_self]
    intro toast htoast
    obtain ⟨hmem, htoastTag⟩ := List.mem_filter.mp htoast
    rw [decide_eq_true_eq]
    intro heq
    rw [h.numbered.eq hmem hitem (heq.trans hnumber.symm)] at htoastTag
    exact htag (of_decide_eq_true htoastTag)
  · intro other hother
    rw [others_removeFromSuperview] at hother
    exact h.own other (List.mem_of_mem_filter hother)

section Respond

variable {k : ℕ} {finished : Bool}

/-- The toast has appeared, and begins to disappear. -/
theorem Kept.appear (h : Kept es w) (hp : w.inFlight[k]? = some (appearing n)) :
    Kept (es ++ [.complete k finished]) (w.respond service k (appearing n) finished) := by
  have hcalls (call : Animation) :
      call ∈ (w.respond service k (appearing n) finished).calls ↔
        call ∈ w.calls ∨ call = .disappear n := by
    rw [Callback.World.mem_calls_respond service hp]
    simp [appearing, disappearing, eq_comm]
  have hanswered (call : Animation) :
      call ∈ answered (w.respond service k (appearing n) finished) ↔
        call ∈ answered w ∨ call = .appear n := by
    simp [answered, Callback.World.respond, appearing]
  have hclient : (w.respond service k (appearing n) finished).client = w.client := rfl
  constructor
  · exact h.numbered
  · intro p hp'
    rcases Callback.World.mem_inFlight_respond service hp' with hp' | hp'
    · exact h.inFlight p hp'
    · exact ⟨n, .inr (List.mem_singleton.mp hp')⟩
  · intro m hm
    rcases (hcalls _).mp hm with hm | hm
    · exact h.used m hm
    · cases hm
  · intro item hitem hm
    rcases (hcalls _).mp hm with hm | hm
    · exact h.own item hitem hm
    · cases hm
  · intro m hm
    apply (hcalls _).mpr
    rcases (hcalls _).mp hm with hm | hm
    · exact .inl (h.appeared m hm)
    · rw [Animation.disappear.inj hm]
      exact .inl (mem_calls_iff.mpr (.inl ⟨_, List.mem_of_getElem? hp, rfl⟩))
  · intro m hm
    apply (hcalls _).mpr
    rcases (hanswered _).mp hm with hm | hm
    · exact .inl (h.continued m hm)
    · exact .inr (congrArg _ (Animation.appear.inj hm))
  · have hmessages : messages (es ++ [.complete k finished]) = messages es := by
      rw [messages_concat]
      exact List.append_nil _
    have hlatest := h.latest
    rw [hmessages]
    split
    next message hlast =>
      rw [hlast] at hlatest
      obtain ⟨l, hl⟩ := hlatest
      refine ⟨l, (hcalls _).mpr (.inl hl.sent), fun m hm => ?_, ?_⟩
      · rcases (hcalls _).mp hm with hm | hm
        · exact hl.last m hm
        · cases hm
      · rw [hclient, hl.toasts]
        have hsame : .disappear l ∈ answered (w.respond service k (appearing n) finished) ↔
            .disappear l ∈ answered w := by simp [hanswered]
        rw [if_congr hsame rfl rfl]
    next hlast =>
      rw [hlast] at hlatest
      refine ⟨hlatest.1, fun m hm => ?_⟩
      rcases (hcalls _).mp hm with hm | hm
      · exact hlatest.2 m hm
      · cases hm

/-- The toast has disappeared, and is removed. -/
theorem Kept.disappear (h : Kept es w) (hp : w.inFlight[k]? = some (disappearing n)) :
    Kept (es ++ [.complete k finished]) (w.respond service k (disappearing n) finished) := by
  have hcalls (call : Animation) :
      call ∈ (w.respond service k (disappearing n) finished).calls ↔ call ∈ w.calls := by
    rw [Callback.World.mem_calls_respond service hp]
    simp [disappearing]
  have hanswered (call : Animation) :
      call ∈ answered (w.respond service k (disappearing n) finished) ↔
        call ∈ answered w ∨ call = .disappear n := by
    simp [answered, Callback.World.respond, disappearing]
  have hclient : (w.respond service k (disappearing n) finished).client =
      removeFromSuperview n w.client := rfl
  constructor
  · exact h.numbered.removeFromSuperview
  · intro p hp'
    rcases Callback.World.mem_inFlight_respond service hp' with hp' | hp'
    · exact h.inFlight p hp'
    · cases hp'
  · exact fun m hm => h.used m ((hcalls _).mp hm)
  · intro item hitem hm
    rw [hclient, others_removeFromSuperview] at hitem
    exact h.own item (List.mem_of_mem_filter hitem) ((hcalls _).mp hm)
  · exact fun m hm => (hcalls _).mpr (h.appeared m ((hcalls _).mp hm))
  · intro m hm
    rcases (hanswered _).mp hm with hm | hm
    · exact (hcalls _).mpr (h.continued m hm)
    · cases hm
  · have hmessages : messages (es ++ [.complete k finished]) = messages es := by
      rw [messages_concat]
      exact List.append_nil _
    have hlatest := h.latest
    rw [hmessages]
    split
    next message hlast =>
      rw [hlast] at hlatest
      obtain ⟨l, hl⟩ := hlatest
      refine ⟨l, (hcalls _).mpr hl.sent, fun m hm => hl.last m ((hcalls _).mp hm), ?_⟩
      rw [hclient, toasts_removeFromSuperview, hl.toasts]
      by_cases hgone : .disappear l ∈ answered w
      · rw [if_pos hgone, if_pos ((hanswered _).mpr (.inl hgone))]
        rfl
      · rw [if_neg hgone]
        by_cases heq : l = n
        · rw [if_pos ((hanswered _).mpr (.inr (congrArg _ heq)))]
          simp [heq]
        · rw [if_neg]
          · simp [heq]
          · intro hmem
            rcases (hanswered _).mp hmem with hmem | hmem
            · exact hgone hmem
            · exact heq (Animation.disappear.inj hmem)
    next hlast =>
      rw [hlast] at hlatest
      refine ⟨?_, fun m hm => hlatest.2 m ((hcalls _).mp hm)⟩
      rw [hclient, toasts_removeFromSuperview, hlatest.1]
      rfl

end Respond

theorem kept_step {e : Event} (h : Kept es w) (hstep : step w e = some w') :
    Kept (es ++ [e]) w' := by
  cases e with
  | act e =>
      obtain ⟨p, hp, rfl⟩ := (Callback.step_act service act).mp hstep
      cases e with
      | showToast message =>
          cases hp
          exact h.showToast message
      | add tag =>
          simp only [act] at hp
          split at hp
          · cases hp
          next htag =>
            cases hp
            exact h.add htag
      | remove number =>
          simp only [act] at hp
          split at hp
          next hown =>
            obtain ⟨item, hitem, hnumber, htag⟩ := hown
            cases hp
            exact h.remove hitem hnumber htag
          · cases hp
  | complete k finished =>
      obtain ⟨p, hp, rfl⟩ := (Callback.step_complete service act).mp hstep
      obtain ⟨n, rfl | rfl⟩ := h.inFlight p (List.mem_of_getElem? hp)
      · exact h.appear hp
      · exact h.disappear hp

theorem kept_of_run (hnumbered : Numbered screen) (hnone : toasts screen = [])
    (hrun : EventRun.run step (Callback.World.start () screen) es = some w) : Kept es w :=
  EventRun.run_trace_invariant (kept_start hnumbered hnone)
    (fun _ _ _ _ _ hkept hstep => kept_step hkept hstep) hrun

/-! ## What is on the screen -/

theorem Kept.length_toasts (h : Kept es w) : (toasts w.client).length ≤ 1 ∧
    ∀ toast ∈ toasts w.client, toast.text = (messages es).getLast? := by
  have hlatest := h.latest
  split at hlatest
  next message hlast =>
    obtain ⟨n, hn⟩ := hlatest
    rw [hn.toasts, hlast]
    split
    · exact ⟨Nat.zero_le 1, nofun⟩
    · refine ⟨Nat.le_refl 1, fun toast htoast => ?_⟩
      rw [List.mem_singleton.mp htoast]
  next hlast =>
    rw [hlatest.1]
    exact ⟨Nat.zero_le 1, nofun⟩

theorem Kept.toasts_eq_nil_iff (h : Kept es w) : toasts w.client = [] ↔
    ∀ n, .appear n ∈ w.calls → ∃ m, n ≤ m ∧ .disappear m ∈ answered w := by
  have hlatest := h.latest
  split at hlatest
  next message hlast =>
    obtain ⟨l, hl⟩ := hlatest
    have hgone : toasts w.client = [] ↔ .disappear l ∈ answered w := by
      rw [hl.toasts]
      split
      next hmem => exact iff_of_true rfl hmem
      next hmem => exact iff_of_false nofun hmem
    rw [hgone]
    constructor
    · exact fun hmem n hn => ⟨l, hl.last n hn, hmem⟩
    · intro hall
      obtain ⟨m, hle, hm⟩ := hall l hl.sent
      have hlast := hl.last m (h.appeared m (mem_calls_iff.mpr (.inr hm)))
      rw [Nat.le_antisymm hle hlast]
      exact hm
  next hlast => exact iff_of_true hlatest.1 fun n hn => absurd hn (hlatest.2 n)

theorem Kept.settled (h : Kept es w) (hw : w.inFlight = []) : toasts w.client = [] := by
  have hall (call : Animation) (hcall : call ∈ w.calls) : call ∈ answered w := by
    rcases mem_calls_iff.mp hcall with ⟨p, hp, _⟩ | hcall
    · rw [hw] at hp
      cases hp
    · exact hcall
  rw [h.toasts_eq_nil_iff]
  exact fun n hn => ⟨n, Nat.le_refl n, hall _ (h.continued n (hall _ hn))⟩

theorem Kept.others_step {e : Event} (h : Kept es w) (hstep : step w e = some w')
    (hadd : ∀ tag, e ≠ .act (.add tag)) (hremove : ∀ number, e ≠ .act (.remove number)) :
    others w'.client = others w.client := by
  cases e with
  | act e =>
      obtain ⟨p, hp, rfl⟩ := (Callback.step_act service act).mp hstep
      cases e with
      | showToast message =>
          cases hp
          rw [Callback.World.exec_client, run_showToast message h.numbered, others_addSubview,
            if_pos rfl, List.append_nil]
          simp [others, List.filter_filter]
      | add tag => exact absurd rfl (hadd tag)
      | remove number => exact absurd rfl (hremove number)
  | complete k finished =>
      obtain ⟨p, hp, rfl⟩ := (Callback.step_complete service act).mp hstep
      obtain ⟨n, rfl | rfl⟩ := h.inFlight p (List.mem_of_getElem? hp)
      · rfl
      · change others (removeFromSuperview n w.client) = others w.client
        rw [others_removeFromSuperview, List.filter_eq_self]
        intro item hitem
        rw [decide_eq_true_eq]
        rintro rfl
        have hsent : .disappear item.number ∈ w.calls :=
          mem_calls_iff.mpr (.inl ⟨_, List.mem_of_getElem? hp, rfl⟩)
        exact h.own item hitem (h.appeared _ hsent)

/-- At most one toast is there at any time. It shows the last message, is there until the last
toast has disappeared, and is gone when no animation is left. Showing a toast and its end leave the
other views alone. -/
theorem toasts_of_run (hnumbered : Numbered screen) (hnone : toasts screen = [])
    (hrun : EventRun.run step (Callback.World.start () screen) es = some w) :
    (toasts w.client).length ≤ 1 ∧
      (∀ toast ∈ toasts w.client, toast.text = (messages es).getLast?) ∧
      (toasts w.client = [] ↔
        ∀ n, .appear n ∈ w.calls → ∃ m, n ≤ m ∧ .disappear m ∈ answered w) ∧
      (w.inFlight = [] → toasts w.client = []) ∧
      ∀ e w', step w e = some w' → (∀ tag, e ≠ .act (.add tag)) →
        (∀ number, e ≠ .act (.remove number)) → others w'.client = others w.client := by
  have hkept := kept_of_run hnumbered hnone hrun
  obtain ⟨hlength, htext⟩ := hkept.length_toasts
  exact ⟨hlength, htext, hkept.toasts_eq_nil_iff, hkept.settled,
    fun _ _ => hkept.others_step⟩

/-- A second message is shown before the first has disappeared, with another view between them. -/
theorem toasts_of_run_twice : ∃ w, EventRun.run step
      (Callback.World.start () { subviews := [⟨0, 0, none⟩], nextView := 1 })
      [.act (.showToast "first"), .act (.add 0), .act (.showToast "second"),
        .complete 0 true, .complete 1 false] = some w ∧
    toasts w.client = [⟨3, 1, some "second"⟩] ∧
    (toasts w.client).length ≤ 1 ∧
    (∀ toast ∈ toasts w.client, toast.text = some "second") ∧
    (toasts w.client = [] ↔
      ∀ n, .appear n ∈ w.calls → ∃ m, n ≤ m ∧ .disappear m ∈ answered w) ∧
    (w.inFlight = [] → toasts w.client = []) ∧
    ∀ e w', step w e = some w' → (∀ tag, e ≠ .act (.add tag)) →
      (∀ number, e ≠ .act (.remove number)) → others w'.client = others w.client := by
  obtain ⟨w, hrun, htoasts⟩ : ∃ w, EventRun.run step
        (Callback.World.start () { subviews := [⟨0, 0, none⟩], nextView := 1 })
        [.act (.showToast "first"), .act (.add 0), .act (.showToast "second"),
          .complete 0 true, .complete 1 false] = some w ∧
      toasts w.client = [⟨3, 1, some "second"⟩] := ⟨_, rfl, rfl⟩
  have hnumbered : Numbered { subviews := [⟨0, 0, none⟩], nextView := 1 } := by
    refine ⟨List.nodup_singleton 0, fun item hitem => ?_⟩
    rw [List.mem_singleton.mp hitem]
    exact Nat.one_pos
  exact ⟨w, hrun, htoasts, toasts_of_run hnumbered rfl hrun⟩

end GiveMeMovies.CustomToast
