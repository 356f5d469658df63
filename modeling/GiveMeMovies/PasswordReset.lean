import GiveMeMovies.CallbackProgram
import GiveMeMovies.EmailValidity
import GiveMeMovies.ModalChain
import GiveMeMovies.Server

/-!
# Resetting a forgotten password

The Forgot Password page asks the authentication service to send a mail, and shows the page with
the instructions when the service has accepted. The page is presented by the navigation controller
of the welcome screen and can be closed, or pulled down, while a request is in flight.
-/

namespace GiveMeMovies.PasswordReset

open ModalChain

/-- What is presented. The number of a page tells it apart from earlier ones, and an alert belongs
to the page that shows it. -/
inductive Presented where
  | navigation
  | forgotPassword (page : ℕ)
  | resetPasswordInfo (page : ℕ)
  | alert (page : ℕ) (title msg : String)
  deriving DecidableEq

structure ResetApp where
  chain : List Presented := [.navigation]
  nextPage : ℕ := 0
  emailTxt : ℕ → String := fun _ => ""
  released : ℕ → Bool := fun _ => false

/-- The page is the one whose button was tapped. No program reads it. -/
inductive ResetRequest where
  | sendPasswordReset (page : ℕ) (email : String)

@[reducible] def ResetRequest.Response : ResetRequest → Type
  | sendPasswordReset _ _ => Option NSError

abbrev ResetProgram := Callback.Prog ResetApp ResetRequest ResetRequest.Response

abbrev ResetPending := Callback.Pending ResetApp ResetRequest ResetRequest.Response

namespace WelcomeViewController

/-- `navigationController?.present` of a new page. -/
def forgotPassAction : ResetProgram :=
  .modify (fun app =>
    { app with
      chain := present .navigation (.forgotPassword app.nextPage) app.chain
      nextPage := app.nextPage + 1 })

end WelcomeViewController

namespace ForgotPasswordViewController

def showErrorWith (page : ℕ) (title msg : String) : ResetProgram :=
  .modify (fun app =>
    { app with chain := present (.forgotPassword page) (.alert page title msg) app.chain })

def presentInfo (page : ℕ) : ResetProgram :=
  .modify (fun app =>
    { app with
      chain := present (.forgotPassword page) (.resetPasswordInfo app.nextPage) app.chain
      nextPage := app.nextPage + 1 })

def resetSent (page : ℕ) (error : Option NSError) : ResetProgram :=
  .read (fun app =>
    if app.released page then .done
    else match error with
      | some error => showErrorWith page "Reset failed" error.localizedDescription
      | none => presentInfo page)

def sendPasswordReset (page : ℕ) : ResetProgram :=
  .read (fun app =>
    if app.emailTxt page = "" then showErrorWith page "Error" "Please enter your email"
    else if ¬ isValidEmail (app.emailTxt page) then
      showErrorWith page "Error" "Please enter a valid email"
    else .request (.sendPasswordReset page (app.emailTxt page)) (resetSent page))

def closeButtonAction (page : ℕ) : ResetProgram :=
  .modify (fun app => { app with chain := dismiss (.forgotPassword page) app.chain })

end ForgotPasswordViewController

namespace ResetPasswordInfoViewController

/-- `presentingViewController?.presentingViewController?.dismiss` -/
def backToLogin (page : ℕ) : ResetProgram :=
  .modify (fun app =>
    match (presenting (.resetPasswordInfo page) app.chain).bind (fun c =>
        presenting c app.chain) with
    | some c => { app with chain := dismiss c app.chain }
    | none => app)

end ResetPasswordInfoViewController

open ForgotPasswordViewController ResetPasswordInfoViewController

/-- What the user does, and the release of a page that has gone. The sheet of a page can be pulled
down, which dismisses it as its close button does. -/
inductive Act where
  | forgotPass
  | type (page : ℕ) (text : String)
  | continueButton (page : ℕ)
  | close (page : ℕ)
  | ok
  | backToLogin (page : ℕ)
  | release (page : ℕ)

def whenOnTop (app : ResetApp) (c : Presented) (program : ResetProgram) : Option ResetProgram :=
  if app.chain.head? = some c then some program else none

def act : Act → ResetApp → Option ResetProgram
  | .forgotPass, app => whenOnTop app .navigation WelcomeViewController.forgotPassAction
  | .type page text, app => whenOnTop app (.forgotPassword page) (.modify (fun app =>
      { app with emailTxt := Function.update app.emailTxt page text }))
  | .continueButton page, app => whenOnTop app (.forgotPassword page) (sendPasswordReset page)
  | .close page, app => whenOnTop app (.forgotPassword page) (closeButtonAction page)
  | .ok, app =>
      match app.chain with
      | .alert page title msg :: _ => some (.modify (fun app =>
          { app with chain := dismiss (.alert page title msg) app.chain }))
      | _ => none
  | .backToLogin page, app => whenOnTop app (.resetPasswordInfo page) (backToLogin page)
  | .release page, app =>
      if .forgotPassword page ∈ app.chain ∨ app.nextPage ≤ page then none
      else some (.modify (fun app =>
        { app with released := Function.update app.released page true }))

/-- The service accepts the request, or fails with an error. -/
def service : Callback.Service Unit ResetApp ResetRequest ResetRequest.Response
    (Option NSError) where
  reply
    | .sendPasswordReset _ _, outcome, _ => outcome
  commit _ _ server := server
  receive _ _ app := app

abbrev Event := Callback.Event Act (Option NSError)

abbrev World := Callback.World Unit ResetApp ResetRequest ResetRequest.Response

abbrev step : World → Event → Option World := Callback.step service act

def start : World := .start () {}

/-! ## What is on the screen -/

/-- The welcome screen, with at most one page over it, and over that an alert of the page or the
instructions, once a request of the page has been accepted. -/
inductive Shape (journal : List (Callback.Entry ResetRequest ResetRequest.Response)) :
    List Presented → Prop
  | welcome : Shape journal [.navigation]
  | page (n : ℕ) : Shape journal [.forgotPassword n, .navigation]
  | alert (n : ℕ) (title msg : String) :
      Shape journal [.alert n title msg, .forgotPassword n, .navigation]
  | info (m n : ℕ) (email : String) (h : ⟨.sendPasswordReset n email, none⟩ ∈ journal) :
      Shape journal [.resetPasswordInfo m, .forgotPassword n, .navigation]

/-- A request for the mail, with the handler that waits for the answer. -/
def request (n : ℕ) (email : String) : ResetPending := ⟨.sendPasswordReset n email, resetSent n⟩

def Valid : ResetRequest → Prop
  | .sendPasswordReset _ email => isValidEmail email = true

structure Sound (w : World) : Prop where
  shape : Shape w.journal w.client.chain
  fresh : ∀ n, .forgotPassword n ∈ w.client.chain → n < w.client.nextPage
  alive : ∀ n, .forgotPassword n ∈ w.client.chain → w.client.released n = false
  released : ∀ n, w.client.released n = true → n < w.client.nextPage
  pending : ∀ p ∈ w.inFlight, ∃ n email, p = request n email
  valid : ∀ call ∈ w.calls, Valid call

variable {w w' : World} {n : ℕ}

theorem Shape.mono {journal journal' : List (Callback.Entry ResetRequest ResetRequest.Response)}
    {chain : List Presented} (hsub : journal ⊆ journal') (h : Shape journal chain) :
    Shape journal' chain := by
  cases h with
  | welcome => exact .welcome
  | page n => exact .page n
  | alert n title msg => exact .alert n title msg
  | info m n email h => exact .info m n email (hsub h)

theorem Shape.of_navigation {journal : List (Callback.Entry ResetRequest ResetRequest.Response)}
    {chain : List Presented} (h : Shape journal chain) (htop : chain.head? = some .navigation) :
    chain = [.navigation] := by
  cases h with
  | welcome => rfl
  | page n => cases htop
  | alert n title msg => cases htop
  | info m n email h => cases htop

theorem Shape.of_page {journal : List (Callback.Entry ResetRequest ResetRequest.Response)}
    {chain : List Presented} (h : Shape journal chain)
    (htop : chain.head? = some (.forgotPassword n)) :
    chain = [.forgotPassword n, .navigation] := by
  cases h with
  | welcome => cases htop
  | page m =>
      cases htop
      rfl
  | alert m title msg => cases htop
  | info m k email h => cases htop

theorem Shape.of_info {journal : List (Callback.Entry ResetRequest ResetRequest.Response)}
    {chain : List Presented} {m : ℕ} (h : Shape journal chain)
    (htop : chain.head? = some (.resetPasswordInfo m)) :
    ∃ n, chain = [.resetPasswordInfo m, .forgotPassword n, .navigation] := by
  cases h with
  | welcome => cases htop
  | page k => cases htop
  | alert k title msg => cases htop
  | info k n email h =>
      cases htop
      exact ⟨n, rfl⟩

/-- The button of the instructions dismisses them together with the page under them. -/
theorem run_backToLogin {app : ResetApp} {m : ℕ}
    (h : app.chain = [.resetPasswordInfo m, .forgotPassword n, .navigation]) :
    (backToLogin m).run app = ({ app with chain := [.navigation] }, []) := by
  have hfirst : presenting (.resetPasswordInfo m) app.chain = some (.forgotPassword n) := by
    rw [h]
    have hnot : Presented.resetPasswordInfo m ∉ ([] : List Presented) := List.not_mem_nil
    exact presenting_append hnot
  have hsecond : presenting (.forgotPassword n) app.chain = some .navigation := by
    rw [h]
    have hnot : Presented.forgotPassword n ∉ [Presented.resetPasswordInfo m] := by simp
    exact presenting_append hnot
  have hdismiss : dismiss .navigation app.chain = [.navigation] := by
    rw [h]
    have hnot : Presented.navigation ∉ [Presented.resetPasswordInfo m, .forgotPassword n] := by
      simp
    exact dismiss_under hnot (List.cons_ne_nil _ _)
  rw [backToLogin, Callback.Prog.run_modify, hfirst, Option.bind_some, hsecond]
  simp only [hdismiss]

/-- A step that brings no new page. -/
theorem Sound.keep (h : Sound w)
    (hshape : Shape w'.journal w'.client.chain)
    (hpages : ∀ n, .forgotPassword n ∈ w'.client.chain → .forgotPassword n ∈ w.client.chain)
    (hnext : w.client.nextPage ≤ w'.client.nextPage)
    (hreleased : w'.client.released = w.client.released)
    (hpending : ∀ p ∈ w'.inFlight, p ∈ w.inFlight ∨ ∃ n email, p = request n email)
    (hvalid : ∀ call ∈ w'.calls, call ∈ w.calls ∨ Valid call) : Sound w' := by
  constructor
  · exact hshape
  · intro n hn
    exact Nat.lt_of_lt_of_le (h.fresh n (hpages n hn)) hnext
  · intro n hn
    rw [hreleased]
    exact h.alive n (hpages n hn)
  · intro n hn
    rw [hreleased] at hn
    exact Nat.lt_of_lt_of_le (h.released n hn) hnext
  · intro p hp
    rcases hpending p hp with hp | hp
    · exact h.pending p hp
    · exact hp
  · intro call hcall
    rcases hvalid call hcall with hcall | hcall
    · exact h.valid call hcall
    · exact hcall

theorem Sound.exec (h : Sound w) {p : ResetProgram} {app : ResetApp} {sent : List ResetPending}
    (hrun : p.run w.client = (app, sent)) (hshape : Shape w.journal app.chain)
    (hpages : ∀ n, .forgotPassword n ∈ app.chain → .forgotPassword n ∈ w.client.chain)
    (hnext : w.client.nextPage ≤ app.nextPage) (hreleased : app.released = w.client.released)
    (hsent : ∀ q ∈ sent, ∃ n email, q = request n email ∧ isValidEmail email = true) :
    Sound (w.exec p) := by
  have hclient : (w.exec p).client = app := congrArg Prod.fst hrun
  have hflight : (p.run w.client).2 = sent := congrArg Prod.snd hrun
  apply h.keep
  · rw [hclient]
    exact hshape
  · rw [hclient]
    exact hpages
  · rw [hclient]
    exact hnext
  · rw [hclient]
    exact hreleased
  · intro q hq
    rw [Callback.World.exec_inFlight, hflight] at hq
    rcases List.mem_append.mp hq with hq | hq
    · exact Or.inl hq
    · obtain ⟨n, email, hq, _⟩ := hsent q hq
      exact Or.inr ⟨n, email, hq⟩
  · intro call hcall
    rcases Callback.World.mem_calls_exec.mp hcall with hcall | ⟨q, hq, rfl⟩
    · exact Or.inl hcall
    · rw [hflight] at hq
      obtain ⟨n, email, rfl, hvalid⟩ := hsent q hq
      exact Or.inr hvalid

theorem Sound.forgotPass (h : Sound w) (htop : w.client.chain.head? = some .navigation) :
    Sound (w.exec WelcomeViewController.forgotPassAction) := by
  have hchain := h.shape.of_navigation htop
  have hclient : (w.exec WelcomeViewController.forgotPassAction).client =
      { w.client with
        chain := [.forgotPassword w.client.nextPage, .navigation]
        nextPage := w.client.nextPage + 1 } := by
    rw [Callback.World.exec_client, WelcomeViewController.forgotPassAction,
      Callback.Prog.run_modify, hchain, present_top]
  have hflight : (w.exec WelcomeViewController.forgotPassAction).inFlight = w.inFlight :=
    List.append_nil _
  have hnew : w.client.released w.client.nextPage = false := by
    by_contra hreleased
    have hlt := h.released w.client.nextPage (by simpa using hreleased)
    omega
  have honly {n : ℕ} (hn : Presented.forgotPassword n ∈
      [Presented.forgotPassword w.client.nextPage, .navigation]) : n = w.client.nextPage := by
    simpa using hn
  constructor
  · rw [hclient]
    exact .page w.client.nextPage
  · intro n hn
    rw [hclient] at hn ⊢
    rw [honly hn]
    exact Nat.lt_succ_self _
  · intro n hn
    rw [hclient] at hn ⊢
    rw [honly hn]
    exact hnew
  · intro n hn
    rw [hclient] at hn ⊢
    exact Nat.lt_succ_of_lt (h.released n hn)
  · rw [hflight]
    exact h.pending
  · intro call hcall
    rcases Callback.World.mem_calls_exec.mp hcall with hcall | ⟨q, hq, _⟩
    · exact h.valid call hcall
    · exact absurd hq List.not_mem_nil

theorem Sound.continueButton (h : Sound w)
    (htop : w.client.chain.head? = some (.forgotPassword n)) :
    Sound (w.exec (sendPasswordReset n)) := by
  have hchain := h.shape.of_page htop
  have hmsg (msg : String) : (showErrorWith n "Error" msg).run w.client =
      ({ w.client with chain := [.alert n "Error" msg, .forgotPassword n, .navigation] }, []) := by
    rw [showErrorWith, Callback.Prog.run_modify, hchain, present_top]
  have hpages (msg : String) (m : ℕ)
      (hm : .forgotPassword m ∈ [Presented.alert n "Error" msg, .forgotPassword n, .navigation]) :
      .forgotPassword m ∈ w.client.chain := by
    rw [hchain]
    simpa using hm
  by_cases hempty : w.client.emailTxt n = ""
  · have hrun : (sendPasswordReset n).run w.client = _ :=
      (congrArg (Callback.Prog.run · w.client) (if_pos hempty)).trans
        (hmsg "Please enter your email")
    exact h.exec hrun (.alert n _ _) (hpages _) (Nat.le_refl _) rfl nofun
  · by_cases hvalid : isValidEmail (w.client.emailTxt n) = true
    · have hrun : (sendPasswordReset n).run w.client =
          (w.client, [request n (w.client.emailTxt n)]) := by
        rw [sendPasswordReset, Callback.Prog.run_read, if_neg hempty, if_neg (not_not.mpr hvalid)]
        rfl
      refine h.exec hrun h.shape (fun _ => id) (Nat.le_refl _) rfl fun q hq => ?_
      exact ⟨n, w.client.emailTxt n, List.mem_singleton.mp hq, hvalid⟩
    · have hrun : (sendPasswordReset n).run w.client = _ :=
        (congrArg (Callback.Prog.run · w.client) ((if_neg hempty).trans (if_pos hvalid))).trans
          (hmsg "Please enter a valid email")
      exact h.exec hrun (.alert n _ _) (hpages _) (Nat.le_refl _) rfl nofun

theorem run_close {app : ResetApp} (h : app.chain = [.forgotPassword n, .navigation]) :
    (closeButtonAction n).run app = ({ app with chain := [.navigation] }, []) := by
  rw [closeButtonAction, Callback.Prog.run_modify, h, dismiss_top (List.cons_ne_nil _ _)]

theorem not_page_of_navigation {m : ℕ} {P : Prop}
    (h : .forgotPassword m ∈ [Presented.navigation]) : P := by
  simp at h

theorem of_whenOnTop {app : ResetApp} {c : Presented} {program p : ResetProgram}
    (h : whenOnTop app c program = some p) : p = program ∧ app.chain.head? = some c := by
  unfold whenOnTop at h
  split at h
  next htop => exact ⟨(Option.some.inj h).symm, htop⟩
  next => cases h

theorem Sound.ok (h : Sound w) {page : ℕ} {title msg : String} {rest : List Presented}
    (hchain : w.client.chain = .alert page title msg :: rest) :
    Sound (w.exec (.modify (fun app =>
      { app with chain := dismiss (.alert page title msg) app.chain }))) := by
  have hrest : rest = [.forgotPassword page, .navigation] := by
    have hshape := h.shape
    rw [hchain] at hshape
    cases hshape
    rfl
  subst hrest
  have hdismiss : dismiss (.alert page title msg) w.client.chain =
      [.forgotPassword page, .navigation] := by
    rw [hchain, dismiss_top (List.cons_ne_nil _ _)]
  have hrun : (Callback.Prog.modify (fun app : ResetApp =>
      { app with chain := dismiss (.alert page title msg) app.chain }) :
        ResetProgram).run w.client =
      ({ w.client with chain := [.forgotPassword page, .navigation] }, []) := by
    rw [Callback.Prog.run_modify, hdismiss]
  refine h.exec hrun (.page page) (fun m hm => ?_) (Nat.le_refl _) rfl nofun
  rw [hchain]
  exact List.mem_cons_of_mem _ hm

/-- A page that is not presented any more is released. -/
theorem Sound.release (h : Sound w) {page : ℕ} (hnot : .forgotPassword page ∉ w.client.chain)
    (hlt : page < w.client.nextPage) :
    Sound (w.exec (.modify (fun app =>
      { app with released := Function.update app.released page true }))) := by
  have hother {m : ℕ} (hm : m ≠ page) :
      Function.update w.client.released page true m = w.client.released m :=
    Function.update_of_ne hm _ _
  refine ⟨h.shape, h.fresh, fun m hm => ?_, fun m hm => ?_, ?_, ?_⟩
  · have hne : m ≠ page := fun he => hnot (he ▸ hm)
    exact (hother hne).trans (h.alive m hm)
  · by_cases hne : m = page
    · rw [hne]
      exact hlt
    · exact h.released m ((hother hne).symm.trans hm)
  · rw [Callback.World.exec_inFlight]
    simpa using h.pending
  · intro call hcall
    rcases Callback.World.mem_calls_exec.mp hcall with hcall | ⟨q, hq, _⟩
    · exact h.valid call hcall
    · exact absurd hq List.not_mem_nil

theorem Sound.act (h : Sound w) {e : Act} {p : ResetProgram}
    (hp : PasswordReset.act e w.client = some p) : Sound (w.exec p) := by
  cases e with
  | forgotPass =>
      obtain ⟨rfl, htop⟩ := of_whenOnTop hp
      exact h.forgotPass htop
  | type page text =>
      obtain ⟨rfl, _⟩ := of_whenOnTop hp
      exact h.exec rfl h.shape (fun _ => id) (Nat.le_refl _) rfl nofun
  | continueButton page =>
      obtain ⟨rfl, htop⟩ := of_whenOnTop hp
      exact h.continueButton htop
  | close page =>
      obtain ⟨rfl, htop⟩ := of_whenOnTop hp
      exact h.exec (run_close (h.shape.of_page htop)) .welcome
        (fun _ hm => not_page_of_navigation hm) (Nat.le_refl _) rfl nofun
  | ok =>
      simp only [PasswordReset.act] at hp
      split at hp
      next page title msg rest hchain =>
        cases hp
        exact h.ok hchain
      next => cases hp
  | backToLogin page =>
      obtain ⟨rfl, htop⟩ := of_whenOnTop hp
      obtain ⟨n, hchain⟩ := h.shape.of_info htop
      exact h.exec (run_backToLogin hchain) .welcome (fun _ hm => not_page_of_navigation hm)
        (Nat.le_refl _) rfl nofun
  | release page =>
      simp only [PasswordReset.act] at hp
      split at hp
      next => cases hp
      next hgone =>
        cases hp
        obtain ⟨hnot, hlt⟩ := not_or.mp hgone
        exact h.release hnot (Nat.lt_of_not_le hlt)

/-- What a page shows for an answer to its request. -/
def answerShown (n next : ℕ) : Option NSError → Presented
  | some error => .alert n "Reset failed" error.localizedDescription
  | none => .resetPasswordInfo next

/-- The answer is shown over the page, if the page is on top. -/
theorem chain_resetSent (h : Sound w) (n : ℕ) (error : Option NSError) :
    ((resetSent n error).run w.client).1.chain =
      if w.client.chain.head? = some (.forgotPassword n) then
        answerShown n w.client.nextPage error :: w.client.chain
      else w.client.chain := by
  unfold resetSent
  rw [Callback.Prog.run_read]
  by_cases hreleased : w.client.released n = true
  · have htop : w.client.chain.head? ≠ some (.forgotPassword n) := by
      intro htop
      have halive := h.alive n (List.mem_of_mem_head? htop)
      rw [hreleased] at halive
      cases halive
    rw [if_pos hreleased, if_neg htop]
    rfl
  · rw [if_neg hreleased]
    cases error with
    | none => rfl
    | some error => rfl

theorem Sound.complete (h : Sound w) {k : ℕ} {p : ResetPending} (hp : w.inFlight[k]? = some p)
    (a : p.call.Response) : Sound (w.respond service k p a) := by
  obtain ⟨n, email, rfl⟩ := h.pending p (List.mem_of_getElem? hp)
  have hchain := chain_resetSent h n a
  have hsent : ((resetSent n a).run w.client).2 = [] := by
    unfold resetSent
    rw [Callback.Prog.run_read]
    split
    · rfl
    · cases a <;> rfl
  have hkept : w.client.nextPage ≤ ((resetSent n a).run w.client).1.nextPage ∧
      ((resetSent n a).run w.client).1.released = w.client.released := by
    unfold resetSent
    rw [Callback.Prog.run_read]
    split
    · exact ⟨Nat.le_refl _, rfl⟩
    · cases a with
      | none => exact ⟨Nat.le_succ _, rfl⟩
      | some error => exact ⟨Nat.le_refl _, rfl⟩
  have hshape : Shape (w.journal ++ [⟨.sendPasswordReset n email, a⟩])
      ((resetSent n a).run w.client).1.chain := by
    rw [hchain]
    split
    next htop =>
      rw [h.shape.of_page htop]
      cases a with
      | none => exact .info _ n email (List.mem_append_right _ (List.mem_singleton_self _))
      | some error => exact .alert n _ _
    next => exact h.shape.mono (List.subset_append_left _ _)
  apply h.keep
  · exact hshape
  · intro m hm
    change .forgotPassword m ∈ ((resetSent n a).run w.client).1.chain at hm
    rw [hchain] at hm
    split at hm
    · cases a <;> simpa [answerShown] using hm
    · exact hm
  · exact hkept.1
  · exact hkept.2
  · intro q hq
    rcases Callback.World.mem_inFlight_respond _ hq with hq | hq
    · exact Or.inl hq
    · change q ∈ ((resetSent n a).run w.client).2 at hq
      rw [hsent] at hq
      exact absurd hq List.not_mem_nil
  · intro call hcall
    rcases (Callback.World.mem_calls_respond _ hp).mp hcall with hcall | ⟨q, hq, _⟩
    · exact Or.inl hcall
    · change q ∈ ((resetSent n a).run w.client).2 at hq
      rw [hsent] at hq
      exact absurd hq List.not_mem_nil

theorem Sound.step (h : Sound w) {e : Event} (hstep : PasswordReset.step w e = some w') :
    Sound w' := by
  cases e with
  | act e =>
      obtain ⟨p, hp, rfl⟩ := (Callback.step_act _ _).mp hstep
      exact h.act hp
  | complete k outcome =>
      obtain ⟨p, hp, rfl⟩ := (Callback.step_complete _ _).mp hstep
      exact h.complete hp _

variable {es : List Event}

theorem sound_of_run (hrun : EventRun.run step start es = some w) : Sound w := by
  refine EventRun.run_invariant (fun _ _ _ h hstep => h.step hstep) ?_ hrun
  exact ⟨.welcome, fun _ hm => not_page_of_navigation hm, fun _ hm => not_page_of_navigation hm,
    nofun, nofun, nofun⟩

/-- In every run only valid emails are sent, at most one page is shown over the welcome screen, the
instructions appear only over a page whose request was accepted, and their button leads back to the
welcome screen. -/
theorem reset_of_run (hrun : EventRun.run step start es = some w) :
    (∀ call ∈ w.calls, Valid call) ∧ Shape w.journal w.client.chain ∧
      ∀ m w', step w (.act (.backToLogin m)) = some w' → w'.client.chain = [.navigation] := by
  have h := sound_of_run hrun
  refine ⟨h.valid, h.shape, fun m w' hstep => ?_⟩
  obtain ⟨p, hp, rfl⟩ := (Callback.step_act _ _).mp hstep
  obtain ⟨rfl, htop⟩ := of_whenOnTop hp
  obtain ⟨n, hchain⟩ := h.shape.of_info htop
  rw [Callback.World.exec_client, run_backToLogin hchain]

/-- Ana asks for the mail, taps the button once more, and the first answer comes. -/
def asked : List Event :=
  [.act .forgotPass, .act (.type 0 "a@b.mk"), .act (.continueButton 0),
    .act (.continueButton 0), .complete 0 none]

theorem askedRun : ∃ w w', EventRun.run step start asked = some w ∧
    w.client.chain = [.resetPasswordInfo 1, .forgotPassword 0, .navigation] ∧
    step w (.complete 0 none) = some w' ∧ w'.client.chain = w.client.chain :=
  ⟨_, _, rfl, rfl, rfl, rfl⟩

theorem reset_of_run_asked : ∃ w, EventRun.run step start asked = some w ∧
    w.client.chain = [.resetPasswordInfo 1, .forgotPassword 0, .navigation] ∧
    (∀ call ∈ w.calls, Valid call) ∧ Shape w.journal w.client.chain ∧
      ∀ m w', step w (.act (.backToLogin m)) = some w' → w'.client.chain = [.navigation] := by
  obtain ⟨w, _, hrun, hchain, _, _⟩ := askedRun
  exact ⟨w, hrun, hchain, reset_of_run hrun⟩

/-- An answer reaches the user exactly when the page that asked is on top at that time. Under an
alert, and after the page has been closed, it is lost. -/
theorem answer_of_run (hrun : EventRun.run step start es = some w) {k : ℕ}
    {outcome : Option NSError} (hstep : step w (.complete k outcome) = some w') :
    ∃ n email, w.inFlight[k]?.map Callback.Pending.call = some (.sendPasswordReset n email) ∧
      w'.client.chain =
        if w.client.chain.head? = some (.forgotPassword n) then
          answerShown n w.client.nextPage outcome :: w.client.chain
        else w.client.chain := by
  have h := sound_of_run hrun
  obtain ⟨p, hp, rfl⟩ := (Callback.step_complete _ _).mp hstep
  obtain ⟨n, email, rfl⟩ := h.pending p (List.mem_of_getElem? hp)
  refine ⟨n, email, ?_, chain_resetSent h n outcome⟩
  rw [hp]
  rfl

/-- The second answer comes under the instructions. -/
theorem answer_of_run_asked : ∃ w w', EventRun.run step start asked = some w ∧
    step w (.complete 0 none) = some w' ∧ w'.client.chain = w.client.chain ∧
    ∃ n email, w.inFlight[0]?.map Callback.Pending.call = some (.sendPasswordReset n email) ∧
      w'.client.chain =
        if w.client.chain.head? = some (.forgotPassword n) then
          answerShown n w.client.nextPage none :: w.client.chain
        else w.client.chain := by
  obtain ⟨w, w', hrun, _, hstep, hchain⟩ := askedRun
  exact ⟨w, w', hrun, hstep, hchain, answer_of_run hrun hstep⟩

end GiveMeMovies.PasswordReset
