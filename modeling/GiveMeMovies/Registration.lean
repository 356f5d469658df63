import GiveMeMovies.LenientContracts

/-!
# One registration

The user taps Create Account with a filled form, may leave the screen at any time, and the
responses arrive in any order. The account is created first and the document in the callback of
that, which holds the screen weakly and reports no failure of its own.
-/

namespace GiveMeMovies.Registration

open Program RegisterViewController

variable {Image Data : Type} (ios : Platform Image Data)

inductive Act where
  | leave

/-- Leaving the screen `self` pops it and releases it. -/
def act (self : Controller) : Act → App Image → Option (Program Image Data)
  | .leave, app =>
      if app.released self then none
      else some (onBack self ++ .modify (App.release self))

abbrev Event (Image : Type) := Callback.Event Act (Outcome Image)

abbrev step (self : Controller) : World Image Data → Event Image → Option (World Image Data) :=
  Callback.step (service Image Data) (act self)

def filled (app : App Image) (self : Controller) (fields : RegisterFields Image) : App Image :=
  app.setRegister self { toRegisterFields := fields }

/-- The user has just tapped Create Account. -/
def started (server : Server Data) (app : App Image) (self : Controller)
    (fields : RegisterFields Image) : World Image Data :=
  (Callback.World.start server (filled app self fields)).exec (registerAction ios self)

/-- The screen `self` has shown an error in the meantime. -/
def ErrorShown (self : Controller) (before after : App Image) : Prop :=
  ∃ shown, after.alerts = shown ++ before.alerts ∧ ∃ title msg, (self, title, msg) ∈ shown

/-- A user of whom neither an account nor a document existed. -/
def New (server : Server Data) (uid : Uid) : Prop :=
  server.account uid = none ∧ server.docs uid = none

/-- New accounts have their documents and the other way round, and if there is none, then the
screen, if it is still there, has shown an error. -/
def AllOrNothing (server : Server Data) (app : App Image) (self : Controller)
    (w : World Image Data) : Prop :=
  (∀ uid, New server uid → ((w.server.account uid).isSome ↔ (w.server.docs uid).isSome)) ∧
  ((∀ uid, New server uid → w.server.account uid = none ∧ w.server.docs uid = none) →
    w.client.released self = false → ErrorShown self app w.client)

/-- A new account is reported as such and while the screen is there, and the document is
written. -/
def Kept (self : Controller) (w : World Image Data) (e : Event Image) : Prop :=
  ∀ n outcome p, e = .complete n outcome → w.inFlight[n]? = some p →
    (p.call.request.makesUnder outcome w.server ≠ none →
      p.call.request.SucceedsUnder outcome w.server ∧ w.client.released self = false) ∧
    ∀ uid fields, p.call.request = .setData uid fields false →
      p.call.request.SucceedsUnder outcome w.server

/-! ## The phases of a registration -/

def createPending (self : Controller) (email password : String) : Pending Image Data :=
  ⟨⟨.registerCreateUser, self, .createUser email password⟩, userCreated ios self⟩

def savePending (self : Controller) (uid : Uid) (user : User) : Pending Image Data :=
  ⟨⟨.registerSaveUser, self, .setData uid user.parameters false⟩,
    UserManager.createUserHandler user (userSaved ios self)⟩

/-- The account `uid` is new, and no other one has changed. -/
structure Registered (before after : Server Data) (uid : Uid) : Prop where
  isNew : New before uid
  account : (after.account uid).isSome
  others : ∀ uid', uid' ≠ uid → after.account uid' = before.account uid'

/-- Nobody but `uid` is signed in. -/
def OnlySignedIn (uid : Uid) (app : App Image) : Prop :=
  app.currentUid = none ∨ app.currentUid = some uid

/-- The requests that follow the creation of the document of `uid`. -/
def Afterwards (uid : Uid) : Request Data → Prop
  | .sendEmailVerification _ _ | .putData _ _ | .downloadURL _ => True
  | .setData uid' _ merge => uid' = uid ∧ merge = true
  | _ => False

def contract (uid : Uid) : Contract Image Data where
  state := OnlySignedIn uid
  call call := Afterwards uid call.request

inductive Good (server : Server Data) (app : App Image) (self : Controller)
    (w : World Image Data) : Prop
  | creating (email password : String)
      (flight : w.inFlight = [createPending ios self email password])
      (same : w.server = server) (alerts : w.client.alerts = app.alerts)
      (front : w.client.released self = false → w.client.levels.canPresent self = true)
  | failed (flight : w.inFlight = []) (same : w.server = server)
      (shown : w.client.released self = false → ErrorShown self app w.client)
  | saving (uid : Uid) (user : User) (flight : w.inFlight = [savePending ios self uid user])
      (signedIn : OnlySignedIn uid w.client) (new : Registered server w.server uid)
      (docs : w.server.docs = server.docs)
  | saved (uid : Uid) (client : OnlySignedIn uid w.client)
      (pending : ∀ p ∈ w.inFlight, p.Within (contract uid))
      (new : Registered server w.server uid) (doc : (w.server.docs uid).isSome)
      (others : ∀ uid', uid' ≠ uid → w.server.docs uid' = server.docs uid')

/-- An account without a document, and nothing outstanding. -/
inductive Bad (server : Server Data) (w : World Image Data) : Prop
  | mk (uid : Uid) (flight : w.inFlight = []) (new : Registered server w.server uid)
      (docs : w.server.docs = server.docs)

variable {ios} {server : Server Data} {app : App Image} {self : Controller}
  {w w' : World Image Data}

theorem Good.allOrNothing (h : Good ios server app self w) (hsettled : w.inFlight = []) :
    AllOrNothing server app self w := by
  cases h with
  | creating email password flight => simp [flight] at hsettled
  | saving uid user flight => simp [flight] at hsettled
  | failed flight same shown =>
      refine ⟨fun uid hnew => ?_, fun _ => shown⟩
      rw [same, hnew.1, hnew.2]
      exact Iff.rfl
  | saved uid client pending new doc others =>
      constructor
      · intro uid' hnew
        by_cases hu : uid' = uid
        · subst hu
          simp only [new.account, doc]
        · rw [new.others uid' hu, others uid' hu, hnew.1, hnew.2]
          exact Iff.rfl
      · intro hnone
        have haccount := new.account
        rw [(hnone uid new.isNew).1] at haccount
        cases haccount

theorem Bad.not_allOrNothing (h : Bad server w) : ¬ AllOrNothing server app self w := by
  obtain ⟨uid, _, new, docs⟩ := h
  intro hlaw
  have hdoc := (hlaw.1 uid new.isNew).mp new.account
  rw [docs, new.isNew.2] at hdoc
  cases hdoc

/-! ## Steps of a phase -/

theorem exec_leave {p : Program Image Data} (hp : act self .leave w.client = some p) :
    (w.exec p).inFlight = w.inFlight ∧ (w.exec p).server = w.server ∧
      (w.exec p).client.released self = true ∧ (w.exec p).client.alerts = w.client.alerts ∧
      (w.exec p).client.currentUid = w.client.currentUid := by
  by_cases hr : w.client.released self = true
  · rw [act, if_pos hr] at hp
    cases hp
  · rw [act, if_neg hr] at hp
    cases hp
    refine ⟨?_, rfl, ?_, rfl, rfl⟩
    · simp [onBack, popViewController]
    · simp [onBack, popViewController, App.release]

theorem Good.leave (h : Good ios server app self w) {p : Program Image Data}
    (hp : act self .leave w.client = some p) : Good ios server app self (w.exec p) := by
  obtain ⟨hflight, hserver, hreleased, halerts, huid⟩ := exec_leave hp
  have hgone : ∀ {P : Prop}, (w.exec p).client.released self = false → P := by
    intro P hn
    rw [hreleased] at hn
    cases hn
  cases h with
  | creating email password flight same alerts front =>
      exact .creating email password (hflight.trans flight) (hserver.trans same)
        (halerts.trans alerts) hgone
  | failed flight same shown => exact .failed (hflight.trans flight) (hserver.trans same) hgone
  | saving uid user flight signedIn new docs =>
      refine .saving uid user (hflight.trans flight) ?_ (hserver ▸ new) (hserver ▸ docs)
      rw [OnlySignedIn, huid]
      exact signedIn
  | saved uid client pending new doc others =>
      refine .saved uid ?_ ?_ (hserver ▸ new) (hserver ▸ doc) (hserver ▸ others)
      · rw [OnlySignedIn, huid]
        exact client
      · rw [hflight]
        exact pending

theorem onlySignedIn_invalid {uid : Uid} (error : NSError) (h : OnlySignedIn uid app) :
    OnlySignedIn uid (app.signOutIfTokenIsInvalid error) := by
  rcases app.currentUid_signOutIfTokenIsInvalid error with hn | hn
  · exact Or.inl hn
  · unfold OnlySignedIn
    rw [hn]
    exact h

theorem onlySignedIn_receive {uid : Uid} {request : Request Data} (hr : Afterwards uid request)
    (a : request.Response Image) {app : App Image} (h : OnlySignedIn uid app) :
    OnlySignedIn uid (receive request a app) := by
  cases request with
  | sendEmailVerification user uid' =>
      cases a with
      | ok _ => exact h
      | error failure =>
          simp only [receive]
          split
          · rcases app.currentUid_signOutByForce user with hn | hn
            · exact Or.inl hn
            · unfold OnlySignedIn
              rw [hn]
              exact h
          · exact h
  | setData uid' fields merge =>
      cases a with
      | none => exact h
      | some error => exact onlySignedIn_invalid error h
  | putData ref data =>
      cases a with
      | none => exact h
      | some error => exact onlySignedIn_invalid error h
  | downloadURL ref =>
      cases a with
      | ok url => exact h
      | error error => exact onlySignedIn_invalid error h
  | _ => exact absurd hr id

theorem lenient (uid : Uid) : Lenient (contract uid : Contract Image Data) where
  error self title msg app happ := by
    refine ⟨?_, trivial⟩
    change OnlySignedIn uid _
    rw [OnlySignedIn, App.currentUid_showErrorWith]
    exact happ
  tick _ happ := ⟨happ, trivial⟩

/-- The work that follows the creation of the document keeps to the new user. -/
theorem userSaved_within (uid : Uid) (user : User) (success : Bool) :
    (userSaved ios self user success : Program Image Data).Within (contract uid) := by
  cases success with
  | false => trivial
  | true =>
      refine Callback.Prog.Within.append (.append (.append ?_ ?_) ?_) ?_
      · exact Callback.Prog.within_modify.mpr fun app happ => ⟨happ, trivial⟩
      · refine within_weakly fun app _ => ?_
        dsimp only
        split
        · refine StorageManager.within_uploadProfileImage
            (fun _ _ _ _ _ _ => ⟨trivial, trivial⟩) (fun _ _ _ _ _ _ => ⟨trivial, trivial⟩)
            fun _ _ _ _ app uid' _ _ _ _ happ hu => ⟨⟨?_, rfl⟩, trivial⟩
          rcases happ with hn | hn
          · cases hn.symm.trans hu
          · exact Option.some.inj (hu.symm.trans hn)
        · trivial
      · exact within_guardUser fun user authUser =>
          within_send.mpr ⟨trivial, trivial, fun a _ => (lenient uid).within_mailSent a⟩
      · exact within_weakly
          (within_pushViewController (fun app happ => ⟨happ, trivial⟩) fun _ => trivial)

theorem kept_complete {n : ℕ} {outcome : Outcome Image} {p : Pending Image Data}
    (hp : w.inFlight[n]? = some p) : Kept self w (.complete n outcome) ↔
      (p.call.request.makesUnder outcome w.server ≠ none →
        p.call.request.SucceedsUnder outcome w.server ∧ w.client.released self = false) ∧
      ∀ uid fields, p.call.request = .setData uid fields false →
        p.call.request.SucceedsUnder outcome w.server := by
  constructor
  · exact fun h => h n outcome p rfl hp
  · rintro h m o q he hq
    cases he
    cases hp.symm.trans hq
    exact h

theorem Good.refused {failure : CreationFailure} {app' : App Image}
    (alerts : app'.alerts = app.alerts)
    (front : app'.released self = false → app'.levels.canPresent self = true)
    (hserver : w'.server = server)
    (hclient : w'.client =
      ((userCreated ios self (.error failure) : Program Image Data).run app').1)
    (hflight : w'.inFlight =
      ((userCreated ios self (.error failure) : Program Image Data).run app').2) :
    Good ios server app self w' := by
  unfold userCreated at hclient hflight
  rw [run_weakly] at hclient hflight
  by_cases hself : app'.released self = true
  · rw [if_pos hself] at hclient hflight
    refine .failed hflight hserver fun hn => ?_
    rw [hclient, hself] at hn
    cases hn
  · rw [if_neg hself] at hclient hflight
    refine .failed hflight hserver fun _ => ?_
    rw [hclient, run_showErrorWith, App.showErrorWith, if_pos (front (by simpa using hself))]
    refine ⟨[_], congrArg (List.cons _) alerts, _, _, List.mem_singleton_self _⟩

/-- The account has been created, and the screen fills the document from its fields. -/
theorem run_userCreated {user : AuthUser} (there : app.released self = false) :
    (userCreated ios self (.ok user) : Program Image Data).run app =
      (app.tick.tick.tick, [savePending ios self user.uid
        (savedUser user.uid (app.register self).toRegisterFields app.clock)]) :=
  (run_weakly_alive _ there).trans (run_saveUser ios self user.uid app)

theorem Good.accepted {user : AuthUser} {app' : App Image} (there : app'.released self = false)
    (signedIn : OnlySignedIn user.uid app') (new : Registered server w'.server user.uid)
    (docs : w'.server.docs = server.docs)
    (hclient : w'.client = ((userCreated ios self (.ok user) : Program Image Data).run app').1)
    (hflight : w'.inFlight =
      ((userCreated ios self (.ok user) : Program Image Data).run app').2) :
    Good ios server app self w' := by
  rw [run_userCreated there] at hclient hflight
  refine .saving user.uid _ hflight ?_ new docs
  rw [hclient]
  exact signedIn

theorem Bad.orphaned {user : AuthUser} {app' : App Image} (gone : app'.released self = true)
    (new : Registered server w'.server user.uid) (docs : w'.server.docs = server.docs)
    (hflight : w'.inFlight =
      ((userCreated ios self (.ok user) : Program Image Data).run app').2) :
    Bad server w' := by
  unfold userCreated at hflight
  rw [run_weakly_released _ gone] at hflight
  exact .mk user.uid hflight new docs

/-- The account has been created, but the answer is an error, and nothing follows. -/
theorem Bad.unreported {failure : CreationFailure} {uid : Uid} {app' : App Image}
    (new : Registered server w'.server uid) (docs : w'.server.docs = server.docs)
    (hflight : w'.inFlight =
      ((userCreated ios self (.error failure) : Program Image Data).run app').2) :
    Bad server w' := by
  refine .mk uid ?_ new docs
  rw [hflight, userCreated, run_weakly]
  split <;> rfl

theorem Good.saved_of_success {uid : Uid} {user : User} {app' : App Image}
    (signedIn : OnlySignedIn uid app') (new : Registered server w'.server uid)
    (doc : (w'.server.docs uid).isSome)
    (others : ∀ uid', uid' ≠ uid → w'.server.docs uid' = server.docs uid')
    (hclient : w'.client = ((userSaved ios self user true : Program Image Data).run app').1)
    (hflight : w'.inFlight = ((userSaved ios self user true : Program Image Data).run app').2) :
    Good ios server app self w' := by
  have hwithin : (userSaved ios self user true : Program Image Data).Within (contract uid) :=
    userSaved_within uid user true
  refine .saved uid ?_ ?_ new doc others
  · rw [hclient]
    exact hwithin.preserves signedIn
  · rw [hflight]
    exact fun p hp => hwithin.pending signedIn hp

theorem commit_afterwards {uid : Uid} {request : Request Data} (hr : Afterwards uid request)
    (a : request.Response Image) (server : Server Data) :
    (request.commit a server).account = server.account ∧
      ((server.docs uid).isSome → ((request.commit a server).docs uid).isSome) ∧
      ∀ uid', uid' ≠ uid → (request.commit a server).docs uid' = server.docs uid' := by
  cases request with
  | setData uid' fields merge =>
      obtain ⟨rfl, rfl⟩ := hr
      cases a with
      | some error => exact ⟨rfl, id, fun _ _ => rfl⟩
      | none =>
          refine ⟨rfl, fun _ => ?_, fun uid'' hne => ?_⟩
          · simp [Request.commit, Server.setDoc]
          · simp [Request.commit, Server.setDoc, hne]
  | putData ref data => cases a <;> exact ⟨rfl, id, fun _ _ => rfl⟩
  | downloadURL ref => exact ⟨rfl, id, fun _ _ => rfl⟩
  | sendEmailVerification user uid' => exact ⟨rfl, id, fun _ _ => rfl⟩
  | _ => exact absurd hr id

theorem makes_afterwards {uid : Uid} {request : Request Data} (hr : Afterwards uid request)
    (a : request.Response Image) : request.makes a = none := by
  cases request with
  | createUser email password => exact absurd hr id
  | _ => rfl

theorem Good.continued {uid : Uid} (client : OnlySignedIn uid w.client)
    (pending : ∀ p ∈ w.inFlight, p.Within (contract uid))
    (new : Registered server w.server uid) (doc : (w.server.docs uid).isSome)
    (others : ∀ uid', uid' ≠ uid → w.server.docs uid' = server.docs uid')
    {n : ℕ} {p : Pending Image Data} (hp : w.inFlight[n]? = some p) (a : p.call.Response Image) :
    Good ios server app self (w.respond (service Image Data) n p a) := by
  have hmem := pending p (List.mem_of_getElem? hp)
  have hreceived : OnlySignedIn uid ((service Image Data).receive p.call a w.client) :=
    onlySignedIn_receive hmem.1 a client
  obtain ⟨haccount, hdoc, hdocs⟩ := commit_afterwards hmem.1 a w.server
  refine .saved uid ((hmem.2.2 a trivial).preserves hreceived) ?_ ⟨new.isNew, ?_, ?_⟩ (hdoc doc) ?_
  · intro q hq
    rcases Callback.World.mem_inFlight_respond _ hq with hq | hq
    · exact pending q hq
    · exact (hmem.2.2 a trivial).pending hreceived hq
  · rw [show (w.respond (service Image Data) n p a).server.account = w.server.account from
      haccount]
    exact new.account
  · rw [show (w.respond (service Image Data) n p a).server.account = w.server.account from
      haccount]
    exact new.others
  · exact fun uid' hne => (hdocs uid' hne).trans (others uid' hne)

/-- An account that was added is a new one. -/
theorem registered_addAccount {account : Account} (hnone : server.account account.uid = none)
    (hdoc : server.docs account.uid = none) :
    Registered server (server.addAccount account) account.uid := by
  refine ⟨⟨hnone, hdoc⟩, ?_, fun uid' hne => ?_⟩
  · simp [Server.account, Server.addAccount]
  · exact server.account_addAccount_of_ne hne

/-- The response to the creation of the account. -/
theorem complete_creating {email password : String} {r : Except CreationFailure AuthUser}
    {outcome : Outcome Image} (same : w.server = server)
    (alerts : w.client.alerts = app.alerts)
    (front : w.client.released self = false → w.client.levels.canPresent self = true)
    (hr : (Request.createUser email password).reply outcome w.server = r)
    (hserver : w'.server = @Request.commit Data Image (.createUser email password) r w.server)
    (hclient : w'.client = ((userCreated ios self r : Program Image Data).run
      (receive (Request.createUser email password : Request Data) r w.client)).1)
    (hflight : w'.inFlight = ((userCreated ios self r : Program Image Data).run
      (receive (Request.createUser email password : Request Data) r w.client)).2) :
    (((@Request.makes Data Image (.createUser email password) r) ≠ none →
        (∃ user, r = .ok user) ∧ w.client.released self = false) →
      Good ios server app self w') ∧
    (¬ ((@Request.makes Data Image (.createUser email password) r) ≠ none →
        (∃ user, r = .ok user) ∧ w.client.released self = false) → Bad server w') := by
  cases r with
  | error failure =>
      rw [Request.commit_createUser_error] at hserver
      obtain ⟨error, made⟩ := failure
      cases made with
      | none =>
          refine ⟨fun _ => .refused alerts front (hserver.trans same) hclient hflight, ?_⟩
          exact fun hn => absurd (fun hmade => absurd rfl hmade) hn
      | some uid =>
          obtain ⟨hnone, hdoc⟩ := Request.of_createUser_made hr
          have new : Registered server w'.server uid := by
            rw [hserver, ← same]
            exact registered_addAccount hnone hdoc
          have docs : w'.server.docs = server.docs := by
            rw [hserver, ← same]
            rfl
          refine ⟨fun hk => ?_, fun _ => .unreported new docs hflight⟩
          obtain ⟨⟨user, hu⟩, _⟩ := hk (Option.some_ne_none uid)
          cases hu
  | ok user =>
      obtain ⟨_, _, hnone, hdoc⟩ := Request.of_createUser_ok hr
      have new : Registered server w'.server user.uid := by
        rw [hserver, ← same]
        exact registered_addAccount hnone hdoc
      have docs : w'.server.docs = server.docs := by
        rw [hserver, ← same]
        rfl
      have signedIn : OnlySignedIn user.uid (w.client.signedIn user) :=
        Or.inr (App.currentUid_signedIn user w.client)
      constructor
      · intro there
        refine .accepted ?_ signedIn new docs hclient hflight
        exact (there (Option.some_ne_none user.uid)).2
      · intro hn
        have gone : w.client.released self = true := by
          by_contra hself
          exact hn fun _ => ⟨⟨user, rfl⟩, by simpa using hself⟩
        refine .orphaned ?_ new docs hflight
        exact gone

/-- The response to the creation of the document. -/
theorem complete_saving {uid : Uid} {user : User} {r : Option NSError}
    (signedIn : OnlySignedIn uid w.client) (new : Registered server w.server uid)
    (docs : w.server.docs = server.docs)
    (hserver : w'.server =
      @Request.commit Data Image (.setData uid user.parameters false) r w.server)
    (hclient : w'.client = ((UserManager.createUserHandler user (userSaved ios self) r :
      Program Image Data).run
        (receive (Request.setData uid user.parameters false : Request Data) r w.client)).1)
    (hflight : w'.inFlight = ((UserManager.createUserHandler user (userSaved ios self) r :
      Program Image Data).run
        (receive (Request.setData uid user.parameters false : Request Data) r w.client)).2) :
    (r = none → Good ios server app self w') ∧ (¬ r = none → Bad server w') := by
  cases r with
  | some error =>
      refine ⟨nofun, fun _ => .mk uid hflight ?_ ?_⟩
      · rw [hserver]
        exact ⟨new.isNew, new.account, new.others⟩
      · rw [hserver]
        exact docs
  | none =>
      refine ⟨fun _ => ?_, fun hn => absurd rfl hn⟩
      refine .saved_of_success signedIn ?_ ?_ ?_ hclient hflight
      · rw [hserver]
        exact ⟨new.isNew, new.account, new.others⟩
      · rw [hserver]
        simp [Request.commit, Server.setDoc]
      · intro uid' hne
        rw [hserver, ← docs]
        simp [Request.commit, Server.setDoc, hne]

theorem Good.complete (h : Good ios server app self w) {n : ℕ} {outcome : Outcome Image}
    {p : Pending Image Data} (hp : w.inFlight[n]? = some p) :
    (Kept self w (.complete n outcome) → Good ios server app self
      (w.respond (service Image Data) n p (p.call.request.reply outcome w.server))) ∧
    (¬ Kept self w (.complete n outcome) → Bad server
      (w.respond (service Image Data) n p (p.call.request.reply outcome w.server))) := by
  rw [kept_complete hp]
  cases h with
  | failed flight => simp [flight] at hp
  | creating email password flight same alerts front =>
      obtain ⟨rfl, rfl, hflight⟩ := Callback.World.respond_single (service Image Data) flight hp
        (p.call.request.reply outcome w.server)
      obtain ⟨hgood, hbad⟩ := complete_creating same alerts front rfl rfl rfl hflight
      constructor
      · exact fun hk => hgood hk.1
      · exact fun hk => hbad fun hg => hk ⟨hg, nofun⟩
  | saving uid user flight signedIn new docs =>
      obtain ⟨rfl, rfl, hflight⟩ := Callback.World.respond_single (service Image Data) flight hp
        (p.call.request.reply outcome w.server)
      obtain ⟨hgood, hbad⟩ := complete_saving signedIn new docs rfl rfl hflight
      constructor
      · exact fun hk => hgood (hk.2 uid _ rfl)
      · exact fun hk => hbad fun hs => hk ⟨fun hmade => absurd rfl hmade, fun _ _ _ => hs⟩
  | saved uid client pending new doc others =>
      have hmem : Afterwards uid p.call.request := (pending p (List.mem_of_getElem? hp)).1
      refine ⟨fun _ => .continued client pending new doc others hp _, fun hn => absurd ?_ hn⟩
      constructor
      · intro hmade
        exact absurd (makes_afterwards hmem _) hmade
      · intro uid' fields hr
        rw [hr] at hmem
        cases hmem.2

/-! ## Runs -/

theorem run_createUser {email password : String} (huser : (app.register self).user = none) :
    (createUser ios self email password).run app =
      (app, [createPending ios self email password]) := by
  rw [createUser, Callback.Prog.run_append, run_send, Callback.Prog.run_read, huser]
  rfl

/-- A tap with a form that passes the checks sends the creation of the account. -/
theorem run_registerAction {fields : RegisterFields Image}
    (hvalid : validationError ios fields = none) :
    (registerAction ios self : Program Image Data).run (filled app self fields) =
      (((filled app self fields).showLoadingSpinner self).removeLoadingSpinner,
        [createPending ios self fields.emailTxt fields.confirmPassTxt]) := by
  have hfields : ((filled app self fields).register self).toRegisterFields = fields := by
    simp [filled, App.setRegister]
  have huser : (((filled app self fields).showLoadingSpinner self).register self).user = none := by
    simp [filled, App.setRegister, App.showLoadingSpinner]
  rw [registerAction, validateFields, Callback.Prog.run_read, hfields, hvalid]
  simp only [Callback.Prog.run_append, run_showLoadingSpinner, run_createUser huser,
    run_removeLoadingSpinner]
  rw [← hfields]
  rfl

theorem started_eq {fields : RegisterFields Image} (hvalid : validationError ios fields = none) :
    started ios server app self fields =
      { server := server
        client := ((filled app self fields).showLoadingSpinner self).removeLoadingSpinner
        inFlight := [createPending ios self fields.emailTxt fields.confirmPassTxt]
        journal := [] } := by
  unfold started Callback.World.exec
  rw [show (Callback.World.start server (filled app self fields) : World Image Data).client =
    filled app self fields from rfl, run_registerAction hvalid]
  rfl

theorem started_good {fields : RegisterFields Image} (hvalid : validationError ios fields = none)
    (hfront : app.levels.isFront self = true) :
    Good ios server app self (started ios server app self fields) := by
  rw [started_eq hvalid]
  apply Good.creating fields.emailTxt fields.confirmPassTxt
  · rfl
  · rfl
  · rfl
  · exact fun _ => Levels.canPresent_of_isFront hfront

theorem bad_step {e : Event Image} (h : Bad server w) (hstep : step self w e = some w') :
    Bad server w' := by
  obtain ⟨uid, flight, new, docs⟩ := h
  cases e with
  | act e =>
      obtain ⟨p, hp, rfl⟩ := (Callback.step_act _ _).mp hstep
      obtain ⟨hflight, hserver, _⟩ := exec_leave hp
      exact .mk uid (hflight.trans flight) (hserver ▸ new) (hserver ▸ docs)
  | complete n outcome =>
      obtain ⟨p, hp, _⟩ := (Callback.step_complete _ _).mp hstep
      rw [flight] at hp
      cases hp

/-- A settled registration has kept account and document together, and has shown its failure,
if and only if a new account arrived while the screen was there and its document was written. -/
theorem allOrNothing_iff_kept {ios : Platform Image Data} {server : Server Data}
    {app : App Image} {self : Controller} {fields : RegisterFields Image}
    {es : List (Event Image)} {w : World Image Data}
    (hvalid : validationError ios fields = none) (hfront : app.levels.isFront self = true)
    (hrun : EventRun.run (step self) (started ios server app self fields) es = some w)
    (hsettled : w.inFlight = []) :
    AllOrNothing server app self w ↔
      EventRun.AllSteps (step self) (Kept self) (started ios server app self fields) es := by
  have hstep : ∀ w e w', Good ios server app self w → step self w e = some w' →
      (Kept self w e → Good ios server app self w') ∧ (¬ Kept self w e → Bad server w') := by
    intro w e w' h hstep
    cases e with
    | act e =>
        obtain ⟨p, hp, rfl⟩ := (Callback.step_act _ _).mp hstep
        refine ⟨fun _ => h.leave hp, fun hk => absurd ?_ hk⟩
        rintro n outcome p he
        cases he
    | complete n outcome =>
        obtain ⟨p, hp, rfl⟩ := (Callback.step_complete _ _).mp hstep
        exact h.complete hp
  have hcase := EventRun.run_good_or_bad (fun w e w' h hs => (hstep w e w' h hs).1)
    (fun w e w' h hs => (hstep w e w' h hs).2) (fun _ _ _ hb hs => bad_step hb hs)
    (started_good hvalid hfront) hrun
  rcases hcase with ⟨hgood, hkept⟩ | ⟨hbad, hkept⟩
  · exact ⟨fun _ => hkept, fun _ => hgood.allOrNothing hsettled⟩
  · exact ⟨fun hlaw => absurd hlaw hbad.not_allOrNothing, fun hk => absurd hk hkept⟩

def anaFields : RegisterFields ℕ where
  firstNameTxt := "Ana"
  lastNameTxt := "Ilieva"
  emailTxt := "ana@mail.com"
  passTxt := "secret1"
  confirmPassTxt := "secret1"

theorem anaFields_valid : validationError Platform.transparent anaFields = none := by
  decide +kernel

def register : Controller := ⟨2, .register⟩

def registerApp : App ℕ :=
  { App.launch none with
    levels := [.navigation [register, ⟨1, .welcome⟩], .single ⟨0, .splash⟩]
    nextController := 3 }

/-- The account is created and the document is refused. -/
def refusedDocument : List (Event ℕ) :=
  [.complete 0 (.created Account.ana.uid), .complete 0 (.failure ⟨7, "Permission denied"⟩)]

theorem refusedRun : ∃ w, EventRun.run (step register)
    (started Platform.transparent Server.empty registerApp register anaFields) refusedDocument =
      some w ∧ w.inFlight = [] ∧ (w.server.account Account.ana.uid).isSome ∧
    w.server.docs Account.ana.uid = none := by
  rw [started_eq anaFields_valid]
  exact ⟨_, rfl, rfl, rfl, rfl⟩

theorem allOrNothing_iff_kept_ana : ∃ w, EventRun.run (step register)
    (started Platform.transparent Server.empty registerApp register anaFields) refusedDocument =
      some w ∧
    (AllOrNothing Server.empty registerApp register w ↔
      EventRun.AllSteps (step register) (Kept register)
        (started Platform.transparent Server.empty registerApp register anaFields)
        refusedDocument) := by
  obtain ⟨w, hrun, hsettled, _⟩ := refusedRun
  exact ⟨w, hrun, allOrNothing_iff_kept anaFields_valid rfl hrun hsettled⟩

theorem refused_document_leaves_account : ∃ w, EventRun.run (step register)
    (started Platform.transparent Server.empty registerApp register anaFields) refusedDocument =
      some w ∧ w.inFlight = [] ∧ ¬ AllOrNothing Server.empty registerApp register w := by
  obtain ⟨w, hrun, hsettled, haccount, hdoc⟩ := refusedRun
  refine ⟨w, hrun, hsettled, fun h => ?_⟩
  have hsome := (h.1 Account.ana.uid ⟨rfl, rfl⟩).mp haccount
  rw [hdoc] at hsome
  cases hsome

end GiveMeMovies.Registration
