import GiveMeMovies.AppResponses
import GiveMeMovies.Registration

/-!
# The loading overlays

One variable holds the last overlay that was shown, and removing the overlay removes that one. An
overlay stays behind when another is shown over it, and when a path that showed it ends without
removing it. While neither happens, every view that an overlay covers has a request in flight whose
answer removes it.
-/

namespace GiveMeMovies.LoadingOverlays

open Program UserManager AppRuns AppRequests

variable {Image Data : Type}

/-! ## Covered views -/

/-- An overlay lies over the view of a controller that is still there. -/
def Covered (app : App Image) (controller : Controller) : Prop :=
  app.released controller = false ∧ ∃ n, (n, controller) ∈ app.overlays

def Clear (app : App Image) : Prop := ∀ controller, ¬ Covered app controller

/-- The variable holds every overlay that covers a view. -/
def Tracked (app : App Image) : Prop :=
  ∀ n controller, (n, controller) ∈ app.overlays → app.released controller = false →
    app.activityView = some n

variable {app app' : App Image} {self controller : Controller}

theorem loading_eq_iff : loading app' = loading app ↔ app'.activityView = app.activityView ∧
    app'.overlays = app.overlays ∧ app'.nextOverlay = app.nextOverlay ∧
    app'.released = app.released := by
  simp only [loading, Prod.mk.injEq]

theorem covered_congr (h : loading app' = loading app) :
    Covered app' controller ↔ Covered app controller := by
  obtain ⟨_, hoverlays, _, hreleased⟩ := loading_eq_iff.mp h
  rw [Covered, Covered, hoverlays, hreleased]

theorem tracked_congr (h : loading app' = loading app) : Tracked app' ↔ Tracked app := by
  obtain ⟨hview, hoverlays, _, hreleased⟩ := loading_eq_iff.mp h
  simp only [Tracked, hview, hoverlays, hreleased]

theorem clear_congr (h : loading app' = loading app) : Clear app' ↔ Clear app :=
  forall_congr' fun _ => not_congr (covered_congr h)

theorem tracked_of_clear (h : Clear app) : Tracked app :=
  fun n controller hmem halive => absurd ⟨halive, n, hmem⟩ (h controller)

/-- Showing an overlay loses the one before. -/
theorem tracked_show (h : Clear app) : Tracked (app.showLoadingSpinner self) := by
  intro n controller hmem halive
  rcases List.mem_cons.mp hmem with heq | hmem
  · cases heq
    rfl
  · exact absurd ⟨halive, n, hmem⟩ (h controller)

theorem covered_show (h : Clear app) (hcovered : Covered (app.showLoadingSpinner self) controller) :
    controller = self := by
  obtain ⟨halive, n, hmem⟩ := hcovered
  rcases List.mem_cons.mp hmem with heq | hmem
  · cases heq
    rfl
  · exact absurd ⟨halive, n, hmem⟩ (h controller)

theorem clear_remove (h : Tracked app) : Clear app.removeLoadingSpinner := by
  rintro controller ⟨halive, n, hmem⟩
  obtain ⟨hmem, hlost⟩ := List.mem_filter.mp hmem
  rw [h n controller hmem halive] at hlost
  simp at hlost

theorem loading_show (h : loading app' = loading app) :
    loading (app'.showLoadingSpinner self) = loading (app.showLoadingSpinner self) := by
  simp [loading, App.showLoadingSpinner, loading_eq_iff.mp h]

theorem loading_remove (h : loading app' = loading app) :
    loading app'.removeLoadingSpinner = loading app.removeLoadingSpinner := by
  simp [loading, App.removeLoadingSpinner, loading_eq_iff.mp h]

theorem loading_error (title msg : Option String) :
    loading (app.showErrorWith self title msg) = loading app := by
  unfold App.showErrorWith
  split <;> rfl

theorem loading_receive (request : Request Data) (a : request.Response Image) :
    loading (receive request a app) = loading app := by
  obtain ⟨hview, hoverlays⟩ := Prod.mk.inj (receive_sameScreen request a app).loading
  obtain ⟨hoverlays, hnext⟩ := Prod.mk.inj hoverlays
  rw [loading, hview, hoverlays, hnext, (receive_sameScreen request a app).released]
  rfl

/-! ## What shows an overlay, and what leaves it -/

/-- The requests whose answers remove the overlay that was shown before them. -/
def removes (call : Call Data) : Bool :=
  match call.request, call.place with
  | .signIn _ _, .welcomeSignIn | .sendEmailVerification _ _, .verificationSendMail
  | .reload _ _, .verificationContinue | .updateData _ _, .informationSaveUser => true
  | _, _ => false

/-- A request is in flight whose answer removes the overlay of the controller. -/
def Relieved (inFlight : List (Pending Image Data)) (controller : Controller) : Prop :=
  ∃ q ∈ inFlight, removes q.call = true ∧ q.call.self = controller

/-- The controller over whose view the program of the event shows an overlay, if any. -/
def shows (ios : Platform Image Data) (app : App Image) : Act Image → Option Controller
  | .logIn self email password =>
      if WelcomeViewController.validationError ios email password = none ∧
        app.authUser.isNone then some self else none
  | .register self fields =>
      if RegisterViewController.validationError ios fields = none then some self else none
  | .resend self | .checkVerification self | .pick self _ => some self
  | .confirm =>
      match app.levels with
      | .alert owner .logOut :: _ => if app.released owner then none else some owner
      | _ => none
  | _ => none

/-- The controller over whose view it leaves the overlay to nobody. -/
def leaves (app : App Image) : Act Image → Option Controller
  | .resend self | .checkVerification self => if app.authUser.isNone then some self else none
  | .confirm =>
      match app.levels with
      | .alert owner .logOut :: _ =>
          if app.released owner || app.signOutError.isNone then none else some owner
      | _ => none
  | _ => none

/-- The controller over whose view the answer to a request shows an overlay, if any. -/
def showsAfter (app : App Image) : Entry Image Data → Option Controller
  | ⟨⟨.welcomeInfoDeadline, self, .timer⟩, _⟩ => some self
  | ⟨⟨.informationUpdateUser, self, .updateCurrentUser _⟩, none⟩ =>
      if app.released self then none else some self
  | _ => none

/-- The controller whose overlay the answer should have removed, but does not. -/
def leavesAfter : Entry Image Data → Option Controller
  | ⟨⟨.welcomeSignIn, self, .signIn _ _⟩, .error error⟩ =>
      if error.code = AuthErrorCode.userDisabled then some self else none
  | ⟨⟨.informationSaveUser, self, .updateData _ _⟩, some _⟩ => some self
  | _ => none

theorem showsAfter_congr (h : loading app' = loading app) (entry : Entry Image Data) :
    showsAfter app' entry = showsAfter app entry := by
  obtain ⟨_, _, _, hreleased⟩ := loading_eq_iff.mp h
  unfold showsAfter
  rw [hreleased]

/-- What a program does to the overlays: `shown` and `left` are the controllers over whose views it
shows an overlay and leaves it without a request that removes it. -/
inductive Effect (app app' : App Image) (sent : List (Pending Image Data)) :
    Option Controller → Option Controller → Prop
  | quiet (h : loading app' = loading app) : Effect app app' sent none none
  | removed (h : loading app' = loading app.removeLoadingSpinner) : Effect app app' sent none none
  | flashed (controller : Controller)
      (h : loading app' = loading (app.showLoadingSpinner controller).removeLoadingSpinner) :
      Effect app app' sent (some controller) none
  | shown (controller : Controller)
      (h : loading app' = loading (app.showLoadingSpinner controller))
      (hsent : Relieved sent controller) : Effect app app' sent (some controller) none
  | left (controller : Controller)
      (h : loading app' = loading (app.showLoadingSpinner controller)) :
      Effect app app' sent (some controller) (some controller)

variable {ios : Platform Image Data}

theorem quiet_of_within {urlOf : StorageReference → String} {p : Program Image Data}
    (h : p.Within (contract ios urlOf everyCall SameLoading)) (happ : Unset app) :
    Effect app (p.run app).1 (p.run app).2 none none :=
  .quiet (sameLoading_within h happ)

theorem effect_of_run {p : Program Image Data} {sent : List (Pending Image Data)}
    {shown left : Option Controller} (hrun : p.run app = (app', sent))
    (h : Effect app app' sent shown left) : Effect app (p.run app).1 (p.run app).2 shown left := by
  rw [hrun]
  exact h

theorem logIn_effect {email password : String} (happ : Unset app) :
    Effect app ((WelcomeViewController.loginAction ios self email password).run app).1
      ((WelcomeViewController.loginAction ios self email password).run app).2
      (shows ios app (.logIn self email password)) none := by
  cases hv : WelcomeViewController.validationError ios email password with
  | some msg =>
      have hrun : (WelcomeViewController.loginAction ios self email password).run app =
          (app.showErrorWith self (some "Error") (some msg), []) := by
        rw [WelcomeViewController.loginAction, WelcomeViewController.validateFields, hv]
        rfl
      have hshows : shows ios app (.logIn self email password) = none := by simp [shows, hv]
      rw [hshows]
      exact effect_of_run hrun (.quiet (loading_error _ _))
  | none =>
      have hprogram : WelcomeViewController.loginAction ios self email password =
          WelcomeViewController.logIn self email password := by
        rw [WelcomeViewController.loginAction, WelcomeViewController.validateFields, hv]
      rw [hprogram, WelcomeViewController.logIn, Callback.Prog.run_read]
      by_cases hauth : app.authUser.isNone = true
      · have hshows : shows ios app (.logIn self email password) = some self := by
          simp [shows, hv, hauth]
        rw [hshows, if_pos hauth]
        refine effect_of_run rfl (.shown self rfl ?_)
        exact ⟨_, List.mem_singleton_self _, rfl, rfl⟩
      · have hshows : shows ios app (.logIn self email password) = none := by
          simp [shows, hv, hauth]
        have hwithin : (guardUid fun uid =>
            UserManager.getUser .welcomeLogInSignedIn self uid setSharedUser
                (WelcomeViewController.userError self) ++
              UserManager.getUser .welcomeLoadSignedIn self uid
                (WelcomeViewController.userLoaded self) (WelcomeViewController.noUser self)).Within
            (contract ios (fun _ => "") everyCall SameLoading) := by
          refine within_guardUid fun _ uid _ _ => Callback.Prog.Within.append ?_ ?_
          · exact within_known (.load .welcomeLogInSignedIn self uid)
          · exact within_known (.loadSignedIn self uid)
        rw [hshows, if_neg hauth]
        exact quiet_of_within hwithin happ

theorem register_effect {fields : RegisterFields Image} :
    Effect app ((RegisterViewController.registerAction ios self).run
        (Registration.filled app self fields)).1
      ((RegisterViewController.registerAction ios self).run
        (Registration.filled app self fields)).2 (shows ios app (.register self fields)) none := by
  cases hv : RegisterViewController.validationError ios fields with
  | some msg =>
      have hfields : ((Registration.filled app self fields).register self).toRegisterFields =
          fields := by
        simp [Registration.filled, App.setRegister]
      have hrun : (RegisterViewController.registerAction ios self : Program Image Data).run
          (Registration.filled app self fields) =
            ((Registration.filled app self fields).showErrorWith self (some "Error") (some msg),
              []) := by
        rw [RegisterViewController.registerAction, RegisterViewController.validateFields,
          Callback.Prog.run_read, hfields, hv]
        rfl
      have hshows : shows ios app (.register self fields) = none := by simp [shows, hv]
      rw [hshows, hrun]
      exact .quiet (loading_error _ _)
  | none =>
      have hshows : shows ios app (.register self fields) = some self := by simp [shows, hv]
      rw [hshows, Registration.run_registerAction hv]
      exact .flashed self rfl

/-- The two buttons of the verification screen, which show an overlay before they look for a
user. -/
theorem guarded_effect {place : Place} {request : ℕ → AuthUser → Request Data}
    {handler : ∀ user authUser, (request user authUser).Response Image → Program Image Data}
    (hremoves : ∀ user authUser,
      removes (⟨place, self, request user authUser⟩ : Call Data) = true) :
    let p : Program Image Data := showLoadingSpinner self ++ guardUser fun user authUser =>
      send place self (request user authUser) (handler user authUser)
    Effect app (p.run app).1 (p.run app).2 (some self)
      (if app.authUser.isNone then some self else none) := by
  intro p
  cases hauth : app.authUser with
  | none =>
      have hrun : p.run app = (app.showLoadingSpinner self, []) := by
        have hshown : (app.showLoadingSpinner self).authUser = none := hauth
        simp [p, guardUser, hshown]
      exact effect_of_run hrun (.left self rfl)
  | some authUser =>
      obtain ⟨user, hc, ha⟩ := Option.bind_eq_some_iff.mp hauth
      have hrun : p.run app = (app.showLoadingSpinner self,
          [⟨⟨place, self, request user authUser⟩, handler user authUser⟩]) := by
        have hguard := @run_guardUser_some Image Data (app.showLoadingSpinner self) user authUser
          (fun user authUser => send place self (request user authUser) (handler user authUser))
          hc ha
        simp [p, hguard]
      refine effect_of_run hrun (.shown self rfl ?_)
      exact ⟨_, List.mem_singleton_self _, hremoves user authUser, rfl⟩

theorem pick_effect (image : Image) :
    Effect app ((ProfileInformationViewController.didFinishPicking ios self image).run app).1
      ((ProfileInformationViewController.didFinishPicking ios self image).run app).2
      (some self) none := by
  have hupdate (app : App Image) :
      ((ProfileInformationViewController.updateUser ios self).run app).1 = app := by
    rw [ProfileInformationViewController.updateUser, guardUser, Callback.Prog.run_read]
    split <;> rfl
  apply Effect.flashed
  simp only [ProfileInformationViewController.didFinishPicking, Callback.Prog.run_append, hupdate]
  rfl

theorem loading_signOut : loading app.signOut = loading app := by
  unfold App.signOut
  split <;> rfl

theorem unset_signOut (h : Unset app) : Unset app.signOut := by
  unfold App.signOut
  split
  · exact h
  · exact h

/-- Logging out removes the overlay unless the keychain refuses. -/
theorem logOut_effect (ios : Platform Image Data) (happ : Unset app) :
    Effect app ((ProfileViewController.logOut self : Program Image Data).run app).1
      ((ProfileViewController.logOut self : Program Image Data).run app).2 (some self)
      (if app.signOutError.isNone then none else some self) := by
  have hsame : (app.showLoadingSpinner self).signOutError = app.signOutError := rfl
  cases herror : app.signOutError with
  | some error =>
      have hrun : (ProfileViewController.logOut self : Program Image Data).run app =
          (app.showLoadingSpinner self, []) := by
        simp [ProfileViewController.logOut, hsame, herror]
      exact effect_of_run hrun (.left self rfl)
  | none =>
      let out := (app.showLoadingSpinner self).signOut.removeLoadingSpinner
      have hrun : ((ProfileViewController.logOut self : Program Image Data).run app).1 =
          ((ProfileViewController.backToLoginScreen self : Program Image Data).run out).1 := by
        simp [ProfileViewController.logOut, hsame, herror, out]
      have hshown : Unset (app.showLoadingSpinner self) := happ
      have hout : Unset out := unset_signOut hshown
      have hback : (ProfileViewController.backToLoginScreen self : Program Image Data).Within
          (contract ios (fun _ => "") everyCall SameLoading) :=
        (mobile quiet_sameLoading.quiet).within_backToLoginScreen fun _ => within_splash
      apply Effect.flashed
      rw [hrun, sameLoading_within hback hout]
      exact loading_remove loading_signOut

theorem Effect.of_loading {app₀ : App Image} {sent : List (Pending Image Data)}
    {shown left : Option Controller} (h : Effect app app' sent shown left)
    (hsame : loading app = loading app₀) : Effect app₀ app' sent shown left := by
  cases h with
  | quiet h => exact .quiet (h.trans hsame)
  | removed h => exact .removed (h.trans (loading_remove hsame))
  | flashed c h => exact .flashed c (h.trans (loading_remove (loading_show hsame)))
  | shown c h hsent => exact .shown c (h.trans (loading_show hsame)) hsent
  | left c h => exact .left c (h.trans (loading_show hsame))

theorem confirm_effect {p : Program Image Data} (hp : confirm app = some p) (happ : Unset app) :
    Effect app (p.run app).1 (p.run app).2 (shows ios app .confirm) (leaves app .confirm) := by
  unfold confirm at hp
  split at hp
  next owner rest hlevels =>
    cases hp
    have hrun : ((Callback.Prog.modify App.dismissAlert ++
        ProfileViewController.confirmLogOut owner : Program Image Data).run app) =
        (ProfileViewController.confirmLogOut owner).run app.dismissAlert := by
      simp
    rw [hrun, ProfileViewController.confirmLogOut, run_weakly]
    cases hr : app.released owner with
    | true =>
        have hgone : app.dismissAlert.released owner = true := hr
        simp only [shows, leaves, hlevels, hr, hgone, if_true, Bool.true_or]
        exact .quiet rfl
    | false =>
        have hthere : app.dismissAlert.released owner = false := hr
        have hout := @logOut_effect Image Data app.dismissAlert owner ios happ
        simp only [shows, leaves, hlevels, hr, hthere, Bool.false_eq_true, if_false, Bool.false_or]
        exact hout.of_loading rfl
  next owner rest hlevels =>
    cases hp
    have hwithin : (Callback.Prog.modify App.dismissAlert ++
        ProfileViewController.confirmDelete owner : Program Image Data).Within
          (contract ios (fun _ => "") everyCall SameLoading) := by
      refine Callback.Prog.Within.append ?_ (within_confirmDelete quiet_sameLoading.quiet)
      exact within_quiet quiet_sameLoading.quiet (fun _ => rfl) (fun _ => rfl) (fun _ => rfl)
        (fun _ => rfl) fun _ => .single (.dismissAlert _ _)
    have hshows : shows ios app .confirm = none := by simp [shows, hlevels]
    have hleaves : leaves app .confirm = none := by simp [leaves, hlevels]
    rw [hshows, hleaves]
    exact quiet_of_within hwithin happ
  next => cases hp

/-- What the program of an event does. -/
theorem act_effect {e : Act Image} {p : Program Image Data} (hp : act ios e app = some p)
    (hrelease : ∀ controller, e ≠ .release controller) (happ : Unset app) :
    Effect app (p.run app).1 (p.run app).2 (shows ios app e) (leaves app e) := by
  by_cases hloads : loads e = true
  · cases e with
    | logIn self email password =>
        obtain ⟨rfl, _⟩ := of_whenInFront hp
        exact logIn_effect happ
    | register self fields =>
        obtain ⟨rfl, _⟩ := of_whenInFront hp
        rw [Callback.Prog.run_append]
        exact register_effect
    | resend self =>
        obtain ⟨rfl, _⟩ := of_whenInFront hp
        exact guarded_effect fun _ _ => rfl
    | checkVerification self =>
        obtain ⟨rfl, _⟩ := of_whenInFront hp
        exact guarded_effect fun _ _ => rfl
    | confirm => exact confirm_effect hp happ
    | pick self image =>
        obtain ⟨rfl, _⟩ := of_whenInFront hp
        exact pick_effect image
    | release self => exact absurd rfl (hrelease self)
    | _ => cases hloads
  · have hwithin : p.Within (contract ios (fun _ => "") everyCall SameLoading) :=
      within_act quiet_sameLoading.quiet (fun h => absurd h hloads) (fun _ _ _ _ h => h)
        (fun _ => allowsReload_everyCall) hp
    have hshows : shows ios app e = none ∧ leaves app e = none := by
      cases e with
      | logIn self email password => exact absurd rfl hloads
      | register self fields => exact absurd rfl hloads
      | resend self => exact absurd rfl hloads
      | checkVerification self => exact absurd rfl hloads
      | confirm => exact absurd rfl hloads
      | pick self image => exact absurd rfl hloads
      | _ => exact ⟨rfl, rfl⟩
    rw [hshows.1, hshows.2]
    exact quiet_of_within hwithin happ

/-! ## What the answers do -/

/-- The overlay is removed, or the handler has nobody to remove it for, or `left` says that it does
not. -/
def Removal (app app' : App Image) (self : Controller) (left : Option Controller) : Prop :=
  loading app' = loading app.removeLoadingSpinner ∨
    loading app' = loading app ∧ (app.released self = true ∨ left = some self)

theorem Removal.effect {sent : List (Pending Image Data)} {left : Option Controller}
    (h : Removal app app' self left) : Effect app app' sent none none := by
  rcases h with h | ⟨h, _⟩
  · exact .removed h
  · exact .quiet h

theorem loading_remove_remove :
    loading app.removeLoadingSpinner.removeLoadingSpinner = loading app.removeLoadingSpinner := by
  simp [loading, App.removeLoadingSpinner]

/-- A handler that removes the overlay, if its screen is still there. -/
theorem removal_weakly {p : Program Image Data} {left : Option Controller}
    (h : app.released self = false → Removal app (p.run app).1 self left) :
    Removal app ((weakly self p).run app).1 self left := by
  rw [run_weakly]
  split
  next hgone => exact .inr ⟨rfl, .inl hgone⟩
  next hthere => exact h (by simpa using hthere)

theorem removal_error {left : Option Controller} (title msg : Option String) :
    Removal app ((showErrorWith self title msg ++ removeLoadingSpinner :
      Program Image Data).run app).1 self left := by
  have hrun : ((showErrorWith self title msg ++ removeLoadingSpinner :
      Program Image Data).run app).1 = (app.showErrorWith self title msg).removeLoadingSpinner := by
    simp
  rw [hrun]
  exact .inl (loading_remove (loading_error title msg))

theorem signedIn_removal (ios : Platform Image Data) (happ : Unset app) (email password : String)
    (a : Except NSError AuthUser) :
    Removal app ((WelcomeViewController.signedIn self a : Program Image Data).run app).1 self
      (leavesAfter (⟨⟨.welcomeSignIn, self, .signIn email password⟩, a⟩ : Entry Image Data)) := by
  cases a with
  | error error =>
      refine removal_weakly fun _ => ?_
      have hnever : ¬ (error.code = AuthErrorCode.invalidEmail ∧
          error.code = AuthErrorCode.wrongPassword) := by
        rintro ⟨hinvalid, hwrong⟩
        rw [hinvalid] at hwrong
        exact absurd hwrong (by decide)
      rw [WelcomeViewController.signInFailed, if_neg hnever]
      by_cases hdisabled : error.code = AuthErrorCode.userDisabled
      · rw [if_pos hdisabled]
        refine .inr ⟨loading_error _ _, .inr ?_⟩
        simp [leavesAfter, hdisabled]
      · rw [if_neg hdisabled]
        exact removal_error _ _
  | ok user =>
      refine removal_weakly fun _ => .inl ?_
      let p : Program Image Data := WelcomeViewController.getUser self user.uid
      have hp : p.Within (contract ios (fun _ => "") everyCall SameLoading) :=
        within_known (.load .welcomeGetUser self user.uid)
      have hhome : (goToHomeScreen self : Program Image Data).Within
          (contract ios (fun _ => "") everyCall SameLoading) :=
        (mobile quiet_sameLoading.quiet).within_goToHomeScreen
      have hunset : Unset (p.run app).1.removeLoadingSpinner := (run_within hp happ).1
      have hrun : ((p ++ removeLoadingSpinner ++ goToHomeScreen self : Program Image Data).run
          app).1 = ((goToHomeScreen self : Program Image Data).run
            (p.run app).1.removeLoadingSpinner).1 := by
        simp
      rw [hrun, sameLoading_within hhome hunset]
      exact loading_remove (sameLoading_within hp happ)

theorem mailSent_removal (left : Option Controller) (a : Except AuthFailure Unit) :
    Removal app ((EmailVerificationViewController.mailSent self a : Program Image Data).run app).1
      self left := by
  cases a with
  | error failure =>
      refine removal_weakly fun _ => .inl ?_
      have hrun : ((removeLoadingSpinner ++ showErrorWith self (some "Error")
          (some failure.error.localizedDescription) ++ removeLoadingSpinner :
            Program Image Data).run app).1 = (app.removeLoadingSpinner.showErrorWith self
              (some "Error") (some failure.error.localizedDescription)).removeLoadingSpinner := by
        simp
      rw [hrun, loading_remove (loading_error _ _), loading_remove_remove]
  | ok _ => exact removal_weakly fun _ => .inl rfl

theorem checkedEmailVerification_removal (ios : Platform Image Data) (happ : Unset app) (user : ℕ)
    (left : Option Controller) :
    Removal app ((EmailVerificationViewController.checkedEmailVerification ios self user).run
      app).1 self left := by
  rw [EmailVerificationViewController.checkedEmailVerification, Callback.Prog.run_read]
  split
  · refine removal_weakly fun _ => .inl ?_
    have hpush : (pushViewController self .welcomeInfo
        (WelcomeInfoViewController.viewWillAppear ios)).Within
          (contract ios (fun _ => "") everyCall SameLoading) :=
      (mobile quiet_sameLoading.quiet).within_push fun _ => within_welcomeInfoAppear
    have hunset : Unset app.removeLoadingSpinner := happ
    rw [Callback.Prog.run_append]
    exact sameLoading_within hpush hunset
  · exact removal_weakly fun _ => removal_error _ _

/-- The answer to a request that removes an overlay removes it, unless `leavesAfter` says that it
does not. -/
theorem handler_removal {urlOf : StorageReference → String} {p : Pending Image Data}
    (h : Known ios urlOf everyCall p) (hremoves : removes p.call = true) (a : p.call.Response Image)
    (happ : Unset app) :
    Removal app ((p.handler a).run app).1 p.call.self (leavesAfter ⟨p.call, a⟩) := by
  cases h with
  | signIn self email password => exact signedIn_removal ios happ email password a
  | resendMail self user uid => exact mailSent_removal _ a
  | checkReload self user uid => exact checkedEmailVerification_removal ios happ user _
  | saveTexts self uid form clock =>
      cases a with
      | none => exact .inl rfl
      | some error => exact .inr ⟨rfl, .inr rfl⟩
  | load place self uid => cases place <;> cases hremoves
  | loadShown place self placeholder uid => cases place <;> cases hremoves
  | _ => cases hremoves

theorem loadUserData_effect (ios : Platform Image Data) (happ : Unset app)
    {sent : List (Pending Image Data)} :
    Effect app ((WelcomeInfoViewController.loadUserData ios self).run app).1 sent
      (some self) none := by
  let p : Program Image Data := guardUid fun uid =>
    UserManager.getUser .welcomeInfoLoad self uid (showUser ios self "userPlaceholder")
      (loadError self)
  have hp : p.Within (contract ios (fun _ => "") everyCall SameLoading) :=
    within_guardUid fun _ uid _ _ => within_known (.loadShown .welcomeInfoLoad self _ uid)
  have hshown : Unset (app.showLoadingSpinner self) := happ
  have hrun : ((WelcomeInfoViewController.loadUserData ios self).run app).1 =
      (p.run (app.showLoadingSpinner self)).1.removeLoadingSpinner := by
    simp only [WelcomeInfoViewController.loadUserData, Callback.Prog.run_append]
    rfl
  rw [hrun]
  exact .flashed self (loading_remove (sameLoading_within hp hshown))

theorem currentUserUpdated_effect {uid : Uid} {user : ℕ} {error : Option NSError} :
    Effect app ((ProfileInformationViewController.currentUserUpdated ios self uid error).run app).1
      ((ProfileInformationViewController.currentUserUpdated ios self uid error).run app).2
      (showsAfter app (⟨⟨.informationUpdateUser, self, .updateCurrentUser user⟩, error⟩ :
        Entry Image Data)) none := by
  cases error with
  | some error =>
      change Effect app ((weakly self _ : Program Image Data).run app).1
        ((weakly self _ : Program Image Data).run app).2 none none
      rw [run_weakly]
      split
      · exact .quiet rfl
      · exact .quiet (loading_error _ _)
  | none =>
      cases hself : app.released self with
      | true =>
          have hshows : showsAfter app (⟨⟨.informationUpdateUser, self, .updateCurrentUser user⟩,
              none⟩ : Entry Image Data) = none := by simp [showsAfter, hself]
          rw [hshows]
          exact effect_of_run (run_currentUserUpdated_released hself) (.quiet rfl)
      | false =>
          have hshows : showsAfter app (⟨⟨.informationUpdateUser, self, .updateCurrentUser user⟩,
              none⟩ : Entry Image Data) = some self := by simp [showsAfter, hself]
          rw [hshows]
          refine effect_of_run (run_currentUserUpdated hself) (.shown self rfl ?_)
          rw [run_saveUser]
          exact ⟨_, List.mem_append_right _ (List.mem_singleton_self _), rfl, rfl⟩

/-- Creating the account does not touch the overlays. -/
theorem userCreated_effect {a : Except CreationFailure AuthUser} :
    Effect app ((RegisterViewController.userCreated ios self a).run app).1
      ((RegisterViewController.userCreated ios self a).run app).2 none none := by
  cases a with
  | error error =>
      change Effect app ((weakly self _ : Program Image Data).run app).1 _ none none
      rw [run_weakly]
      split
      · exact .quiet rfl
      · exact .quiet (loading_error _ _)
  | ok user =>
      change Effect app ((weakly self _ : Program Image Data).run app).1 _ none none
      rw [run_weakly]
      split
      · exact .quiet rfl
      · rw [RegisterViewController.run_saveUser]
        exact .quiet rfl

/-- What the answer to a request does. -/
theorem handler_effect {urlOf : StorageReference → String} {p : Pending Image Data}
    (h : Known ios urlOf everyCall p) {a : p.call.Response Image}
    (ha : Journal.Genuine urlOf ⟨p.call, a⟩)
    (happ : Unset app) :
    Effect app ((p.handler a).run app).1 ((p.handler a).run app).2 (showsAfter app ⟨p.call, a⟩)
      none := by
  have hquiet (hload : loadsAfter p.call = false) (hstamp : stamps p.call = false) :
      loading ((p.handler a).run app).1 = loading app :=
    sameLoading_within (within_handler quiet_sameLoading.quiet h (by simp [hload])
      (fun _ => quiet_sameLoading) hstamp (fun _ _ => allowsReference_everyCall) ha) happ
  cases h with
  | signIn self email password => exact (signedIn_removal ios happ email password a).effect
  | resendMail self user uid => exact (mailSent_removal none a).effect
  | checkReload self user uid =>
      exact (checkedEmailVerification_removal ios happ user none).effect
  | saveTexts self uid form clock =>
      cases a with
      | none => exact .removed rfl
      | some error => exact .quiet rfl
  | infoDeadline self => exact loadUserData_effect ios happ
  | updateCurrentUser self user uid => exact currentUserUpdated_effect
  | createAccount self email password => exact userCreated_effect
  | load place self uid => cases place <;> exact .quiet (hquiet rfl rfl)
  | loadShown place self placeholder uid => cases place <;> exact .quiet (hquiet rfl rfl)
  | putPhoto place self uid data => cases place <;> exact .quiet (hquiet rfl rfl)
  | photoAddress place self uid => cases place <;> exact .quiet (hquiet rfl rfl)
  | _ => exact .quiet (hquiet rfl rfl)

/-! ## Runs -/

variable {w w' : World Image Data} {inFlight sent : List (Pending Image Data)}

/-- Every overlay is in the variable, and a request is in flight whose answer removes it. -/
structure Kept (app : App Image) (inFlight : List (Pending Image Data)) : Prop where
  tracked : Tracked app
  relieved : ∀ controller, Covered app controller → Relieved inFlight controller

theorem kept_of_clear (h : Clear app) : Kept app inFlight :=
  ⟨tracked_of_clear h, fun controller hcovered => absurd hcovered (h controller)⟩

theorem Kept.congr (h : Kept app inFlight) (hsame : loading app' = loading app) :
    Kept app' inFlight := by
  constructor
  · exact (tracked_congr hsame).mpr h.tracked
  · intro controller hcovered
    exact h.relieved controller ((covered_congr hsame).mp hcovered)

theorem relieved_append {controller : Controller} (h : Relieved inFlight controller) :
    Relieved (inFlight ++ sent) controller := by
  obtain ⟨q, hq, hremoves, hself⟩ := h
  exact ⟨q, List.mem_append_left _ hq, hremoves, hself⟩

/-- A program that shows no overlay over another, and leaves none to nobody, keeps the overlays in
order. -/
theorem Kept.effect {shown left : Option Controller} (h : Kept app inFlight)
    (heffect : Effect app app' sent shown left)
    (hshown : ∀ controller, shown = some controller → Clear app)
    (hleft : ∀ controller, left = some controller → Relieved inFlight controller) :
    Kept app' (inFlight ++ sent) := by
  cases heffect with
  | quiet hsame =>
      have hkept := h.congr hsame
      exact ⟨hkept.tracked, fun controller hc => relieved_append (hkept.relieved controller hc)⟩
  | removed hsame =>
      apply kept_of_clear
      exact (clear_congr hsame).mpr (clear_remove h.tracked)
  | flashed self hsame =>
      apply kept_of_clear
      exact (clear_congr hsame).mpr (clear_remove (tracked_show (hshown self rfl)))
  | shown self hsame hsent =>
      have hclear : Clear app := hshown self rfl
      constructor
      · exact (tracked_congr hsame).mpr (tracked_show hclear)
      · intro controller hcovered
        obtain rfl := covered_show hclear ((covered_congr hsame).mp hcovered)
        obtain ⟨q, hq, hremoves, hself⟩ := hsent
        exact ⟨q, List.mem_append_right _ hq, hremoves, hself⟩
  | left self hsame =>
      have hclear : Clear app := hshown self rfl
      constructor
      · exact (tracked_congr hsame).mpr (tracked_show hclear)
      · intro controller hcovered
        obtain rfl := covered_show hclear ((covered_congr hsame).mp hcovered)
        exact relieved_append (hleft controller rfl)

theorem Kept.release (h : Kept app inFlight) (self : Controller) :
    Kept (app.release self) inFlight := by
  have halive {controller : Controller} (hc : (app.release self).released controller = false) :
      app.released controller = false := by
    by_cases heq : controller = self
    · simp [App.release, heq] at hc
    · simpa [App.release, heq] using hc
  constructor
  · intro n controller hmem hc
    exact h.tracked n controller hmem (halive hc)
  · rintro controller ⟨hc, n, hmem⟩
    exact h.relieved controller ⟨halive hc, n, hmem⟩

/-- An answer that was to remove an overlay removes it, or some other request in flight will. -/
theorem Kept.answered {urlOf : StorageReference → String} {p : Pending Image Data}
    {a : p.call.Response Image} {n : ℕ} (h : Kept app inFlight) (hp : inFlight[n]? = some p)
    (hknown : Known ios urlOf everyCall p) (happ : Unset app)
    (hleft : ∀ controller, leavesAfter ⟨p.call, a⟩ = some controller → Covered app controller →
      Relieved (inFlight.eraseIdx n) controller) :
    Clear ((p.handler a).run app).1 ∨ Kept app (inFlight.eraseIdx n) := by
  by_cases hclear : Clear ((p.handler a).run app).1
  · exact .inl hclear
  refine .inr ⟨h.tracked, fun controller hcovered => ?_⟩
  obtain ⟨q, hq, hremoves, hself⟩ := h.relieved controller hcovered
  have hperm := Callback.World.perm_eraseIdx (w := ⟨(), app, inFlight, []⟩) hp
  rcases List.mem_cons.mp (hperm.mem_iff.mp hq) with rfl | hq
  · rcases handler_removal hknown hremoves a happ with hremoved | ⟨_, hgone | hleaves⟩
    · exact absurd ((clear_congr hremoved).mpr (clear_remove h.tracked)) hclear
    · rw [hself, hcovered.1] at hgone
      cases hgone
    · rw [hself] at hleaves
      exact hleft controller hleaves hcovered
  · exact ⟨q, hq, hremoves, hself⟩

/-- The event shows no overlay over another, and where it leaves an overlay without removing it,
another request of the controller is in flight whose answer will. -/
def Balanced (w : World Image Data) (ios : Platform Image Data) :
    AppRuns.Event Image Data → Prop
  | .app (.act e) =>
      (∀ controller, shows ios w.client e = some controller → Clear w.client) ∧
      ∀ controller, leaves w.client e = some controller → Relieved w.inFlight controller
  | .app (.complete n outcome) => ∀ p, w.inFlight[n]? = some p →
      let entry : Entry Image Data := ⟨p.call, p.call.request.reply outcome w.server⟩
      (∀ controller, showsAfter w.client entry = some controller → Clear w.client) ∧
      ∀ controller, leavesAfter entry = some controller → Covered w.client controller →
        Relieved (w.inFlight.eraseIdx n) controller
  | .outside _ => True

theorem kept_act {e : Act Image} {p : Program Image Data} (hunset : Unset w.client)
    (h : Kept w.client w.inFlight) (hp : act ios e w.client = some p)
    (hbalanced : Balanced w ios (.app (.act e))) :
    Kept (w.exec p).client (w.exec p).inFlight := by
  by_cases hrelease : ∃ controller, e = .release controller
  · obtain ⟨controller, rfl⟩ := hrelease
    simp only [act] at hp
    split at hp
    · cases hp
    · cases hp
      rw [Callback.World.exec_inFlight]
      simpa using h.release controller
  · have heffect := act_effect hp (fun c hc => hrelease ⟨c, hc⟩) hunset
    exact h.effect heffect hbalanced.1 hbalanced.2

theorem kept_answer {n : ℕ} {outcome : Outcome Image} {p : Pending Image Data}
    (hsteady : Steady ios w) (h : Kept w.client w.inFlight) (hp : w.inFlight[n]? = some p)
    (hbalanced : Balanced w ios (.app (.complete n outcome))) :
    Kept (answer w n p outcome).client (answer w n p outcome).inFlight := by
  obtain ⟨_, hmem⟩ := hsteady.known p (List.mem_of_getElem? hp)
  obtain ⟨urlOf, hknown, ha⟩ := known_genuine hmem (Journal.genuine_reply p.call outcome w.server)
  obtain ⟨hshows, hleaves⟩ := hbalanced p hp
  let app := receive p.call.request (p.call.request.reply outcome w.server) w.client
  have hsame : loading app = loading w.client := loading_receive _ _
  have hunset : Unset app := hsteady.unset.receive _ _
  have hanswered := (h.congr hsame).answered hp hknown hunset fun controller hleft hcovered =>
    hleaves controller hleft ((covered_congr hsame).mp hcovered)
  rcases hanswered with hclear | hkept
  · exact kept_of_clear hclear
  · refine hkept.effect (handler_effect hknown ha hunset) ?_ fun _ hnone => by cases hnone
    intro controller hshown
    rw [showsAfter_congr hsame] at hshown
    exact (clear_congr hsame).mpr (hshows controller hshown)

theorem kept_step {e : AppRuns.Event Image Data} (hsteady : Steady ios w)
    (h : Kept w.client w.inFlight) (hstep : AppRuns.step ios w e = some w')
    (hbalanced : Balanced w ios e) : Kept w'.client w'.inFlight := by
  cases e with
  | outside server =>
      cases hstep
      exact h
  | app e =>
      cases e with
      | act e =>
          obtain ⟨p, hp, rfl⟩ := (Callback.step_act (service Image Data) (act ios)).mp hstep
          exact kept_act hsteady.unset h hp hbalanced
      | complete n outcome =>
          obtain ⟨p, hp, rfl⟩ := (Callback.step_complete (service Image Data) (act ios)).mp hstep
          exact kept_answer hsteady h hp hbalanced

/-- No request is outstanding. A deadline that the app has set for itself is not a request. -/
def Idle (w : World Image Data) : Prop := ∀ q ∈ w.inFlight, q.call.request = .timer

theorem Kept.clear_of_idle (h : Kept w.client w.inFlight) (hidle : Idle w) : Clear w.client := by
  intro controller hcovered
  obtain ⟨q, hq, hremoves, _⟩ := h.relieved controller hcovered
  simp [removes, hidle q hq] at hremoves

theorem clear_of_no_overlays (h : app.overlays = []) : Clear app := by
  rintro controller ⟨_, n, hmem⟩
  rw [h] at hmem
  exact List.not_mem_nil hmem

theorem clear_launched (server : Server Data) (keptUser : Option AuthUser) (clock : Clock) :
    Clear (launched server keptUser clock : World Image Data).client := by
  apply clear_of_no_overlays
  cases keptUser with
  | none => rfl
  | some user => rfl

/-- In a run that shows no overlay over another and leaves none to nobody, no view is covered while
no request is outstanding. -/
theorem clear_while_idle {server : Server Data} {keptUser : Option AuthUser} {clock : Clock}
    {es : List (AppRuns.Event Image Data)}
    (h : EventRun.AllSteps (AppRuns.step ios) (fun w => Balanced w ios)
      (launched server keptUser clock) es) :
    EventRun.AllStates (AppRuns.step ios) (fun w => Idle w → Clear w.client)
      (launched server keptUser clock) es := by
  have hkept : EventRun.AllStates (AppRuns.step ios) (fun w => Kept w.client w.inFlight)
      (launched server keptUser clock) es := by
    refine EventRun.allStates_of_allSteps (fun _ _ _ hsteady hstep => hsteady.step hstep)
      (fun _ _ _ hsteady hkept hstep hbalanced => kept_step hsteady hkept hstep hbalanced)
      (steady_launched server keptUser clock) ?_ h
    exact kept_of_clear (clear_launched server keptUser clock)
  exact hkept.imp fun _ hkept hidle => hkept.clear_of_idle hidle

def welcome : Controller := ⟨1, .welcome⟩

/-- The log-in that is answered with an error. -/
def refused (code : ℤ) : List (AppRuns.Event ℕ (ℕ × ℚ)) :=
  [.app (.complete 0 .success),
    .app (.act (.logIn welcome Account.ana.email "secret1")),
    .app (.complete 0 (.failure ⟨code, "The log-in was refused"⟩))]

theorem refused_run : ∃ w, EventRun.run (AppRuns.step Platform.transparent)
    (launched Server.empty none) (refused AuthErrorCode.userDisabled) = some w ∧
    w.inFlight = [] ∧ w.client.released welcome = false ∧ w.client.overlays = [(0, welcome)] :=
  ⟨_, rfl, rfl, rfl, rfl⟩

theorem clear_while_idle_refused :
    EventRun.AllStates (AppRuns.step Platform.transparent) (fun w => Idle w → Clear w.client)
      (launched Server.empty none) (refused AuthErrorCode.wrongPassword) := by
  apply clear_while_idle
  have hnever {controller : Controller} {P : Prop} (h : none = some controller) : P := by cases h
  refine (EventRun.allSteps_cons rfl).mpr ⟨?_, (EventRun.allSteps_cons rfl).mpr ⟨?_,
    (EventRun.allSteps_cons rfl).mpr ⟨?_, trivial⟩⟩⟩
  · intro p hp
    cases hp
    exact ⟨fun _ hshown => hnever hshown, fun _ hleft => hnever hleft⟩
  · exact ⟨fun _ _ => clear_of_no_overlays rfl, fun _ hleft => hnever hleft⟩
  · intro p hp
    cases hp
    exact ⟨fun _ hshown => hnever hshown, fun _ hleft => hnever hleft⟩

theorem disabled_user_stays_covered :
    ¬ EventRun.AllStates (AppRuns.step Platform.transparent)
      (fun w => w.inFlight = [] → Clear w.client) (launched Server.empty none)
      (refused AuthErrorCode.userDisabled) := by
  intro h
  obtain ⟨w, hrun, hidle, hthere, hoverlays⟩ := refused_run
  apply h.last hrun hidle welcome
  refine ⟨hthere, 0, ?_⟩
  rw [hoverlays]
  exact List.mem_singleton_self _

end GiveMeMovies.LoadingOverlays
