import GiveMeMovies.AppRuns

/-!
# The credentials of a log in

Log in asks the authentication service when nobody is signed in. When somebody is, it loads that
user's document, whatever has been entered, and the home screen follows the document. So the
credentials decide exactly in the states in which nobody is signed in.
-/

namespace GiveMeMovies.LogIn

open Program AppRuns WelcomeViewController

variable {Image Data : Type} (ios : Platform Image Data)

/-- The screen `self` of `w` logs in with `email` and `password`. After the events `es`, the
`n`-th request of that log in is answered with `outcome`, and the home screen is presented, which
leads from `w₁` to `w₂`. -/
def PresentsHome (w : World Image Data) (self : Controller) (email password : String) (n : ℕ)
    (es : List (Event Image Data)) (outcome : Outcome Image) (w₁ w₂ : World Image Data) : Prop :=
  ∃ w' m, step ios w (.app (.act (.logIn self email password))) = some w' ∧
    w.inFlight.length + n < w'.inFlight.length ∧ EventRun.run (step ios) w' es = some w₁ ∧
    follow (w.inFlight.length + n) es = some m ∧
    step ios w₁ (.app (.complete m outcome)) = some w₂ ∧
    w₂.client.levels = .tabBar .home [] :: w₁.client.levels

/-- The answer is that the authentication service accepts the credentials, and their user is
signed in. -/
def Accepted (email password : String) (w₁ w₂ : World Image Data) : Prop :=
  ∃ (place : Place) (self : Controller) (user : AuthUser),
    w₂.journal = w₁.journal ++ [⟨⟨place, self, .signIn email password⟩, .ok user⟩] ∧
      w₂.client.authUser = some user

/-- The log in presents the home screen only with credentials that are accepted. -/
def Honours (w : World Image Data) (self : Controller) (email password : String) : Prop :=
  ∀ n es outcome w₁ w₂, PresentsHome ios w self email password n es outcome w₁ w₂ →
    Accepted email password w₁ w₂

/-- Two runs that differ only in the password both reach the home screen. -/
def BothReachHome (w : World Image Data) (self : Controller) (email password password' : String) :
    Prop :=
  ∃ n es outcome, (∃ w₁ w₂, PresentsHome ios w self email password n es outcome w₁ w₂) ∧
    ∃ w₁ w₂, PresentsHome ios w self email password' n es outcome w₁ w₂

variable {ios} {w w₁ w₂ : World Image Data} {app : App Image} {self : Controller}
variable {email password password' : String}

theorem step_logIn (hfront : inFront w.client self .welcome = true)
    (hvalid : validationError ios email password = none) :
    step ios w (.app (.act (.logIn self email password))) =
      some (w.exec (logIn self email password)) := by
  have hact : act ios (.logIn self email password) w.client =
      some (logIn self email password) := by
    rw [act, whenInFront, if_pos hfront, loginAction, validateFields, hvalid]
  change (act ios (.logIn self email password) w.client).map w.exec = _
  rw [hact]
  rfl

def signInRequest (self : Controller) (email password : String) : Pending Image Data :=
  ⟨⟨.welcomeSignIn, self, .signIn email password⟩, signedIn self⟩

/-- This load only stores the document. -/
def storeRequest (self : Controller) (uid : Uid) : Pending Image Data :=
  ⟨⟨.welcomeLogInSignedIn, self, .getDocument uid⟩,
    UserManager.getDocumentHandler uid setSharedUser (userError self)⟩

/-- This load goes home with the document. -/
def homeRequest (self : Controller) (uid : Uid) : Pending Image Data :=
  ⟨⟨.welcomeLoadSignedIn, self, .getDocument uid⟩,
    UserManager.getDocumentHandler uid (userLoaded self) (noUser self)⟩

theorem run_logIn_signedOut (h : app.authUser = none) :
    (logIn self email password : Program Image Data).run app =
      (app.showLoadingSpinner self, [signInRequest self email password]) := by
  rw [logIn, Callback.Prog.run_read, h]
  rfl

theorem run_logIn_signedIn {user : AuthUser} (h : app.authUser = some user) :
    (logIn self email password : Program Image Data).run app =
      (app, [storeRequest self user.uid, homeRequest self user.uid]) := by
  have huid : app.currentUid = some user.uid := by
    rw [App.currentUid, h]
    rfl
  rw [logIn, Callback.Prog.run_read, h]
  change (guardUid _).run app = _
  rw [run_guardUid_some _ huid]
  rfl

/-! ## Nobody is signed in -/

/-- Showing an error does not present the home screen. -/
theorem levels_signInFailed (error : NSError) :
    ((signInFailed self error : Program Image Data).run app).1.levels ≠
      .tabBar .home [] :: app.levels := by
  have herror (title msg : Option String) :
      (app.showErrorWith self title msg).levels ≠ .tabBar .home [] :: app.levels := by
    unfold App.showErrorWith
    by_cases hcan : app.levels.canPresent self = true
    · rw [if_pos hcan]
      dsimp only
      rw [Levels.present, if_pos hcan]
      intro h
      cases (List.cons.inj h).1
    · rw [if_neg hcan]
      exact (List.cons_ne_self _ _).symm
  unfold signInFailed
  split
  · exact herror _ _
  · split
    · exact herror _ _
    · exact herror _ _

/-- Only an accepted sign-in goes home, and it leaves its user signed in. -/
theorem signedIn_presentsHome {a : Except NSError AuthUser}
    (h : ((signedIn self a : Program Image Data).run app).1.levels =
      .tabBar .home [] :: app.levels) :
    ∃ user, a = .ok user ∧ ((signedIn self a : Program Image Data).run app).1.authUser =
      app.authUser := by
  cases hr : app.released self with
  | true =>
      have hsame : ((signedIn self a : Program Image Data).run app).1 = app := by
        cases a with
        | error error =>
            rw [signedIn, run_weakly_released _ hr]
        | ok user =>
            rw [signedIn, run_weakly_released _ hr]
      rw [hsame] at h
      exact absurd h.symm (List.cons_ne_self _ _)
  | false =>
      cases a with
      | error error =>
          rw [signedIn, run_weakly_alive _ hr] at h
          exact absurd h (levels_signInFailed error)
      | ok user =>
          refine ⟨user, rfl, ?_⟩
          rw [signedIn, run_weakly_alive _ hr]
          rfl

theorem authUser_signedIn (user : AuthUser) : (app.signedIn user).authUser = some user := by
  simp [App.authUser, App.signedIn]

/-- What is in flight after the log in. -/
theorem signInRequest_of_presentsHome {n : ℕ} {es : List (Event Image Data)}
    {outcome : Outcome Image} (hfront : inFront w.client self .welcome = true)
    (hvalid : validationError ios email password = none) (hnobody : w.client.authUser = none)
    (h : PresentsHome ios w self email password n es outcome w₁ w₂) :
    ∃ m, n = 0 ∧ follow w.inFlight.length es = some m ∧
      EventRun.run (step ios) (w.exec (logIn self email password)) es = some w₁ ∧
      w₁.inFlight[m]? = some (signInRequest self email password) ∧
      w₂ = w₁.respond (service Image Data) m (signInRequest self email password)
        ((Request.signIn email password).reply outcome w₁.server) ∧
      w₂.client.levels = .tabBar .home [] :: w₁.client.levels := by
  obtain ⟨w', m, htap, hbound, hrun, hfollow, hstep, hhome⟩ := h
  rw [step_logIn hfront hvalid] at htap
  cases htap
  have hsent : (w.exec (logIn self email password)).inFlight =
      w.inFlight ++ [signInRequest self email password] := by
    rw [Callback.World.exec_inFlight, run_logIn_signedOut hnobody]
  rw [hsent, List.length_append, List.length_singleton] at hbound
  have hn : n = 0 := by omega
  subst hn
  have hget : (w.exec (logIn self email password)).inFlight[w.inFlight.length]? =
      some (signInRequest self email password) := by
    rw [hsent, List.getElem?_concat_length]
  have hinFlight := getElem?_follow ios hget hrun hfollow
  obtain ⟨p, hp, rfl⟩ := (Callback.step_complete (service Image Data) (act ios)).mp hstep
  cases hp.symm.trans hinFlight
  exact ⟨m, rfl, hfollow, hrun, hinFlight, rfl, hhome⟩

theorem accepted_of_signedOut {n : ℕ} {es : List (Event Image Data)} {outcome : Outcome Image}
    (hfront : inFront w.client self .welcome = true)
    (hvalid : validationError ios email password = none) (hnobody : w.client.authUser = none)
    (h : PresentsHome ios w self email password n es outcome w₁ w₂) :
    Accepted email password w₁ w₂ ∧
      ∃ user, (Request.signIn email password).reply outcome w₁.server = .ok user := by
  obtain ⟨m, -, -, -, -, rfl, hhome⟩ :=
    signInRequest_of_presentsHome hfront hvalid hnobody h
  have hlevels (a : Except NSError AuthUser) :
      (receive (Request.signIn email password : Request Data) a w₁.client).levels =
        w₁.client.levels := (receive_sameScreen _ _ _).levels
  rw [← hlevels ((Request.signIn email password).reply outcome w₁.server)] at hhome
  obtain ⟨user, hok, hauth⟩ := signedIn_presentsHome hhome
  rw [hok] at hauth ⊢
  refine ⟨⟨.welcomeSignIn, self, user, rfl, ?_⟩, user, rfl⟩
  exact hauth.trans (authUser_signedIn user)

/-- The two runs are the same but for the request, and so the server answers it from the same
accounts. -/
theorem password_eq_of_bothReachHome (hfront : inFront w.client self .welcome = true)
    (hvalid : validationError ios email password = none)
    (hvalid' : validationError ios email password' = none) (hnobody : w.client.authUser = none)
    (h : BothReachHome ios w self email password password') : password = password' := by
  obtain ⟨n, es, outcome, ⟨w₁, w₂, h⟩, v₁, v₂, h'⟩ := h
  obtain ⟨_, _, hreply⟩ := accepted_of_signedOut hfront hvalid hnobody h
  obtain ⟨_, _, hreply'⟩ := accepted_of_signedOut hfront hvalid' hnobody h'
  obtain ⟨m, -, hfollow, hrun, -, -, -⟩ :=
    signInRequest_of_presentsHome hfront hvalid hnobody h
  obtain ⟨m', -, -, hrun', -, -, -⟩ :=
    signInRequest_of_presentsHome hfront hvalid' hnobody h'
  have hreplace : (w.exec (logIn self email password)).replace w.inFlight.length
      (signInRequest self email password') = w.exec (logIn self email password') := by
    simp only [Callback.World.replace, Callback.World.exec, run_logIn_signedOut hnobody]
    rw [List.set_append_right _ _ le_rfl, Nat.sub_self]
    rfl
  have hbound : w.inFlight.length < (w.exec (logIn self email password)).inFlight.length := by
    rw [Callback.World.exec_inFlight, run_logIn_signedOut hnobody, List.length_append]
    simp
  obtain ⟨hrunReplaced, _⟩ :=
    run_replace ios (signInRequest self email password') hbound hrun hfollow
  rw [hreplace, hrun'] at hrunReplaced
  have hserver : v₁.server = w₁.server := by
    rw [Option.some.inj hrunReplaced]
    rfl
  rw [hserver] at hreply'
  obtain ⟨account, haccount, hpassword, _⟩ := Request.of_signIn_ok hreply
  obtain ⟨account', haccount', hpassword', _⟩ := Request.of_signIn_ok hreply'
  rw [haccount] at haccount'
  cases haccount'
  exact hpassword.symm.trans hpassword'

/-! ## Somebody is signed in -/

/-- A document that has been loaded takes the screen home. -/
theorem levels_userLoaded (halive : app.released self = false)
    (hcan : app.levels.canPresent self = true) (uid : Uid) (document : Fields) :
    ((UserManager.getDocumentHandler uid (userLoaded self) (noUser self) (.ok (some document)) :
      Program Image Data).run app).1.levels = .tabBar .home [] :: app.levels := by
  obtain ⟨user, hrun⟩ : ∃ user, ((UserManager.getDocumentHandler uid (userLoaded self)
      (noUser self) (.ok (some document)) : Program Image Data).run app).1 =
      ((weakly self (goToHomeScreen self) : Program Image Data).run
        { app with sharedUser := some user }).1 := ⟨_, rfl⟩
  have halive' : { app with sharedUser := some user }.released self = false := halive
  rw [hrun, run_weakly_alive _ halive']
  exact if_pos hcan

/-- What is entered makes no difference to the world after the log in. -/
theorem exec_logIn_signedIn {user : AuthUser} (hsigned : w.client.authUser = some user) :
    w.exec (logIn self email password) =
      { w with
        inFlight := w.inFlight ++ [storeRequest self user.uid, homeRequest self user.uid] } := by
  simp only [Callback.World.exec, run_logIn_signedIn hsigned]

/-- The document of the signed-in user is loaded, and the home screen is presented. -/
theorem presentsHome_of_signedIn {user : AuthUser} {document : Fields} {server : Server Data}
    (hfront : inFront w.client self .welcome = true)
    (hvalid : validationError ios email password = none)
    (hsigned : w.client.authUser = some user) (hdoc : server.docs user.uid = some document) :
    ∃ w₁ w₂, PresentsHome ios w self email password 1 [.outside server] .success w₁ w₂ ∧
      ∀ email' password', ¬ Accepted email' password' w₁ w₂ := by
  obtain ⟨hisFront, _, halive⟩ := inFront_iff.mp hfront
  have hcan := Levels.canPresent_of_isFront hisFront
  have hstep := step_logIn hfront hvalid
  rw [exec_logIn_signedIn hsigned] at hstep
  let w₁ : World Image Data := { w with
    server := server
    inFlight := w.inFlight ++ [storeRequest self user.uid, homeRequest self user.uid] }
  let w₂ : World Image Data := w₁.respond (service Image Data) (w.inFlight.length + 1)
    (homeRequest self user.uid) (.ok (some document))
  have hhome : w₁.inFlight[w.inFlight.length + 1]? = some (homeRequest self user.uid) := by
    rw [List.getElem?_append_right (Nat.le_add_right _ _), Nat.add_sub_cancel_left]
    rfl
  have hreply : (Request.getDocument user.uid).reply (.success : Outcome Image) server =
      .ok (some document) := by
    change Except.ok (server.docs user.uid) = _
    rw [hdoc]
  have hcomplete : step ios w₁ (.app (.complete (w.inFlight.length + 1) .success)) = some w₂ := by
    apply (Callback.step_complete (service Image Data) (act ios)).mpr
    exact ⟨homeRequest self user.uid, hhome,
      congrArg (w₁.respond (service Image Data) _ (homeRequest self user.uid)) hreply.symm⟩
  refine ⟨w₁, w₂, ⟨_, w.inFlight.length + 1, hstep, ?_, rfl, rfl, hcomplete, ?_⟩, ?_⟩
  · rw [List.length_append, List.length_cons, List.length_singleton]
    omega
  · exact levels_userLoaded halive hcan user.uid document
  · rintro email' password' ⟨place, screen, account, hjournal, _⟩
    have hlast := List.append_cancel_left hjournal
    cases (List.cons.inj hlast).1

/-- The log in honours the credentials exactly if nobody is signed in when it is tapped, and only
then a wrong password keeps a run from the home screen that the right one reaches. -/
theorem honours_iff_nobodySignedIn (ios : Platform Image Data) (w : World Image Data)
    {self : Controller} {email password : String}
    (hfront : inFront w.client self .welcome = true)
    (hvalid : validationError ios email password = none) :
    (Honours ios w self email password ↔ w.client.authUser = none) ∧
      ∀ password', validationError ios email password' = none → password ≠ password' →
        (¬ BothReachHome ios w self email password password' ↔ w.client.authUser = none) := by
  have hdoc (user : AuthUser) :
      (w.server.setDoc user.uid (some Fields.empty)).docs user.uid = some Fields.empty := by
    simp [Server.setDoc]
  constructor
  · constructor
    · intro hhonours
      cases hsigned : w.client.authUser with
      | none => rfl
      | some user =>
          obtain ⟨w₁, w₂, hpresents, hno⟩ :=
            presentsHome_of_signedIn hfront hvalid hsigned (hdoc user)
          exact absurd (hhonours _ _ _ _ _ hpresents) (hno _ _)
    · intro hnobody n es outcome w₁ w₂ hpresents
      exact (accepted_of_signedOut hfront hvalid hnobody hpresents).1
  · intro password' hvalid' hne
    constructor
    · intro hnot
      cases hsigned : w.client.authUser with
      | none => rfl
      | some user =>
          obtain ⟨w₁, w₂, hpresents, _⟩ :=
            presentsHome_of_signedIn hfront hvalid hsigned (hdoc user)
          obtain ⟨v₁, v₂, hpresents', _⟩ :=
            presentsHome_of_signedIn hfront hvalid' hsigned (hdoc user)
          exact absurd ⟨_, _, _, ⟨w₁, w₂, hpresents⟩, v₁, v₂, hpresents'⟩ hnot
    · intro hnobody hboth
      exact hne (password_eq_of_bothReachHome hfront hvalid hvalid' hnobody hboth)

def welcome : Controller := ⟨1, .welcome⟩

theorem validationError_ana (password : String) (h : password = "secret1" ∨ password = "guessed1") :
    validationError Platform.transparent Account.ana.email password = none := by
  rcases h with rfl | rfl
  · rfl
  · rfl

theorem welcomeRun : ∃ w, EventRun.run (step Platform.transparent)
    (launched Server.empty none) [.app (.complete 0 .success)] = some w ∧
    inFront w.client welcome .welcome = true :=
  ⟨_, rfl, rfl⟩

theorem honours_iff_nobodySignedIn_welcome : ∃ w, EventRun.run (step Platform.transparent)
    (launched Server.empty none) [.app (.complete 0 .success)] = some w ∧
    (Honours Platform.transparent w welcome Account.ana.email "secret1" ↔
      w.client.authUser = none) ∧
    ∀ password', validationError Platform.transparent Account.ana.email password' = none →
      "secret1" ≠ password' →
      (¬ BothReachHome Platform.transparent w welcome Account.ana.email "secret1" password' ↔
        w.client.authUser = none) := by
  obtain ⟨w, hrun, hfront⟩ := welcomeRun
  exact ⟨w, hrun, honours_iff_nobodySignedIn Platform.transparent w hfront
    (validationError_ana _ (Or.inl rfl))⟩

/-- Ana registers, and goes back to the welcome screen with two swipes. -/
def registered : List (Event ℕ (ℕ × ℚ)) :=
  [.app (.complete 0 .success),
    .app (.act (.createAccount welcome)),
    .app (.act (.register ⟨2, .register⟩
      { firstNameTxt := "Ana", lastNameTxt := "Ilieva", emailTxt := Account.ana.email,
        passTxt := "secret1", confirmPassTxt := "secret1" })),
    .app (.complete 0 (.created Account.ana.uid)),
    .app (.complete 0 .success),
    .app (.act .swipeBack),
    .app (.act .swipeBack)]

theorem registeredRun : ∃ w, EventRun.run (step Platform.transparent)
    (launched Server.empty none) registered = some w ∧
    inFront w.client welcome .welcome = true ∧
    (w.server.account Account.ana.uid).map Account.password = some "secret1" ∧
    (w.client.authUser.map AuthUser.uid) = some Account.ana.uid ∧
    (w.server.docs Account.ana.uid).isSome :=
  ⟨_, rfl, rfl, rfl, rfl, rfl⟩

/-- Her password and a wrong one both take her home. -/
theorem guessed_password_reaches_home : ∃ w, EventRun.run (step Platform.transparent)
    (launched Server.empty none) registered = some w ∧
    (w.server.account Account.ana.uid).map Account.password = some "secret1" ∧
    validationError Platform.transparent Account.ana.email "guessed1" = none ∧
    ¬ Honours Platform.transparent w welcome Account.ana.email "guessed1" ∧
    BothReachHome Platform.transparent w welcome Account.ana.email "secret1" "guessed1" := by
  obtain ⟨w, hrun, hfront, hpassword, hsigned, hdocument⟩ := registeredRun
  obtain ⟨user, huser, huid⟩ := Option.map_eq_some_iff.mp hsigned
  obtain ⟨document, hdoc⟩ := Option.isSome_iff_exists.mp hdocument
  rw [← huid] at hdoc
  have hright := validationError_ana "secret1" (Or.inl rfl)
  have hguessed := validationError_ana "guessed1" (Or.inr rfl)
  obtain ⟨w₁, w₂, hpresents, _⟩ := presentsHome_of_signedIn hfront hright huser hdoc
  obtain ⟨v₁, v₂, hpresents', hno⟩ := presentsHome_of_signedIn hfront hguessed huser hdoc
  refine ⟨w, hrun, hpassword, hguessed, ?_, _, _, _, ⟨w₁, w₂, hpresents⟩, v₁, v₂, hpresents'⟩
  intro hhonours
  exact hno _ _ (hhonours _ _ _ _ _ hpresents')

end GiveMeMovies.LogIn
