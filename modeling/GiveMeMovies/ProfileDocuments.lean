import GiveMeMovies.ManagerAnswers
import GiveMeMovies.ProfileInformationController

/-!
# Users as documents

What `createUser`, `getUser` and `updateUser` of the user manager make of a document. A user that
is written and read again comes back without the email. An update replaces the fields that it
carries, so that two updates commute where the fields that both carry agree.
-/

namespace GiveMeMovies

/-! ## Merging fields -/

namespace Fields

theorem merge_apply (data fields : Fields) (key : String) :
    data.merge fields key = (fields key).or (data key) := rfl

/-- At a key that only one of the two has a value for, or both the same, the order does not
matter. -/
theorem merge_merge_apply {data fields others : Fields} {key : String}
    (h : fields key = none ∨ others key = none ∨ fields key = others key) :
    (data.merge fields).merge others key = (data.merge others).merge fields key := by
  simp only [merge_apply]
  rcases h with h | h | h
  · simp [h]
  · simp [h]
  · rw [h]

end Fields

namespace ProfileDocuments

open ManagerAnswers

variable {Image Data : Type}

/-- The keys of a profile, each with the value that a user is written with. -/
def profile : List (String × (User → Option Value)) :=
  [(User.KEY_USER_NAME, fun user => user.username.map .string),
    (User.KEY_FISRT_NAME, fun user => user.firstName.map .string),
    (User.KEY_LAST_NAME, fun user => user.lastName.map .string),
    (User.KEY_PHOTO_REFERENCE, fun user => user.photoReference.map .string),
    (User.KEY_PHOTO_DOWNLOAD_URL, fun user => user.photoDownloadUrl.map .string),
    (User.KEY_USER_EMAIL, fun user => user.email.map .string),
    (User.KEY_CREATED_AT, fun user => user.createdAt.map .timestamp),
    (User.KEY_UPDATED_AT, fun user => user.updatedAt.map .timestamp),
    (User.KEY_ABOUT_ME, fun user => user.aboutMe.map .string)]

theorem parameters_profile (user : User) {entry : String × (User → Option Value)}
    (h : entry ∈ profile) : user.parameters entry.1 = entry.2 user := by
  simp only [profile, List.mem_cons, List.not_mem_nil, or_false] at h
  rcases h with rfl | rfl | rfl | rfl | rfl | rfl | rfl | rfl | rfl
  all_goals
    rw [User.parameters_apply]
    rfl

theorem parameters_other (user : User) {key : String} (h : key ∉ profile.map Prod.fst) :
    user.parameters key = none := by
  simp only [profile, List.map_cons, List.map_nil, List.mem_cons, List.not_mem_nil, or_false,
    not_or] at h
  simp [User.parameters_apply, h]

/-! ## Operations that succeed -/

/-- The requests of the journal succeed one after the other, from `server` to `server'`. -/
def Serves : List (ManagerEntry Image Data Uid) → Server Data → Server Data → Prop
  | [], server, server' => server' = server
  | e :: es, server, server' =>
      (∃ outcome, e.call.request.SucceedsUnder outcome server ∧
        e.response = e.call.request.reply outcome server) ∧
      Serves es (e.call.request.commit e.response server) server'

variable (Image) in
/-- The operation has been carried out and answers `b`, all its requests have succeeded, and it
leaves `server'`. -/
def Performs {β : Type} (task : ManagerTask Image Data Uid β) (b : β)
    (server server' : Server Data) : Prop :=
  ∃ app es w, EventRun.run Callback.Round.step (Callback.Round.start app task) es = some w ∧
    w.inFlight = [] ∧ w.answers = [b] ∧ Serves w.journal server server'

theorem Performs.yields {β : Type} {task : ManagerTask Image Data Uid β} {b : β}
    {server server' : Server Data} (h : Performs Image task b server server') :
    ∃ app journal, task.Yields app {b} (.ofList journal) ∧ Serves journal server server' := by
  obtain ⟨app, es, w, hrun, hsettled, hanswers, hserves⟩ := h
  have hyields := Callback.Round.yields_of_run hrun hsettled
  rw [hanswers] at hyields
  exact ⟨app, w.journal, hyields, hserves⟩

/-- The response that the services give to a request in `server`, if nothing fails. -/
def succeed (server : Server Data) (call : Call Data) : call.Response Image :=
  call.request.reply .success server

section Operations

variable {β : Type} {place : Place} {self : Controller} {request : Request Data}
  {f : request.Response Image → β} {b : β} {server server' : Server Data}

/-- An operation answers the response to its only request, which has changed the documents. -/
theorem of_yields_send {app : App Image} {journal : List (ManagerEntry Image Data Uid)}
    (hyields : (send place self request (fun a => .reply (f a))).Yields app {b} (.ofList journal))
    (hserves : Serves journal server server') :
    ∃ outcome, request.SucceedsUnder outcome server ∧ b = f (request.reply outcome server) ∧
      ∀ uid, server'.docs uid = request.rewritten uid (server.docs uid) := by
  obtain ⟨a, hb, hjournal⟩ := Callback.Task.yields_request_reply.mp hyields
  have hb := Multiset.singleton_inj.mp hb
  have hjournal := Multiset.coe_eq_singleton.mp hjournal
  rw [hjournal] at hserves
  obtain ⟨⟨outcome, hsucceeds, ha⟩, hserver⟩ := hserves
  dsimp only at ha hserver hsucceeds
  rw [ha] at hb hserver
  refine ⟨outcome, hsucceeds, hb, ?_⟩
  intro uid
  rw [hserver, Request.docs_commit]
  exact if_pos hsucceeds

theorem performs_send (app : App Image) {a : request.Response Image}
    (ha : request.reply .success server = a) (hsucceeds : request.Succeeded a) :
    Performs Image (send place self request (fun a => .reply (f a))) (f a) server
      (request.commit a server) := by
  subst ha
  refine ⟨app, [.complete 0 (succeed server)], _, rfl, rfl, rfl, ?_, rfl⟩
  exact ⟨.success, hsucceeds, rfl⟩

variable {uid : Uid} {user created : User}

theorem of_createUser {done : Bool}
    (h : Performs Image (createUser .ofUid place self uid user) (created, done) server server') :
    ∃ stamp, created = { user with createdAt := some stamp } ∧
      server'.docs uid = some created.parameters := by
  obtain ⟨app, journal, hyields, hserves⟩ := h.yields
  obtain ⟨outcome, _, hanswer, hdocs⟩ := of_yields_send hyields hserves
  have hcreated : created = { user with createdAt := some (app.clock.date 0) } :=
    congrArg Prod.fst hanswer
  refine ⟨app.clock.date 0, hcreated, ?_⟩
  rw [hdocs, hcreated]
  exact if_pos rfl

theorem of_getUser {found : Except (Option NSError) User}
    (h : Performs Image (getUser .ofUid place self uid) found server server') :
    found = userOfDocument uid (.ok (server.docs uid)) := by
  obtain ⟨app, journal, hyields, hserves⟩ := h.yields
  obtain ⟨outcome, hsucceeds, hanswer, _⟩ := of_yields_send hyields hserves
  obtain ⟨document, hdocument⟩ := hsucceeds
  rw [hanswer]
  cases hnone : outcome.error with
  | none =>
      simp only [Request.reply, hnone]
      rfl
  | some error => simp [Request.reply, hnone] at hdocument

theorem of_updateUser (huser : user.userId = some uid)
    (h : Performs Image (updateUser .ofUid place self user) (.ok ()) server server') :
    ∃ document, server.docs uid = some document ∧
      server'.docs uid = some (document.merge user.parameters) := by
  obtain ⟨app, journal, hyields, hserves⟩ := h.yields
  simp only [updateUser, huser] at hyields
  obtain ⟨outcome, hsucceeds, _, hdocs⟩ := of_yields_send hyields hserves
  obtain ⟨document, hdocument⟩ := Option.ne_none_iff_exists'.mp (Request.docs_of_updated hsucceeds)
  refine ⟨document, hdocument, ?_⟩
  rw [hdocs, hdocument]
  exact if_pos rfl

/-! Without a failure on the way each of the operations succeeds. -/

theorem createUser_performs (app : App Image) :
    Performs Image (createUser .ofUid place self uid user)
      ({ user with createdAt := some (app.clock.date 0) }, true) server
      (server.setDoc uid
        (some { user with createdAt := some (app.clock.date 0) }.parameters)) := by
  refine ⟨app, [.complete 0 (succeed server)], _, rfl, rfl, rfl, ?_, rfl⟩
  exact ⟨.success, rfl, rfl⟩

theorem getUser_performs (app : App Image) :
    Performs Image (getUser .ofUid place self uid) (userOfDocument uid (.ok (server.docs uid)))
      server server :=
  performs_send app rfl ⟨server.docs uid, rfl⟩

theorem updateUser_performs (app : App Image) {document : Fields} (huser : user.userId = some uid)
    (hdocument : server.docs uid = some document) :
    Performs Image (updateUser .ofUid place self user) (.ok ()) server
      (server.setDoc uid (some (document.merge user.parameters))) := by
  have hreply : (.updateData uid user.parameters : Request Data).reply (.success : Outcome Image)
      server = none := by
    simp [Request.reply, hdocument, Outcome.error]
  have htask : (updateUser .ofUid place self user : ManagerTask Image Data Uid _) =
      send place self (.updateData uid user.parameters)
        (fun error => .reply (updated error)) := by
    simp only [updateUser, huser]
    rfl
  have hwritten : server.writtenDoc uid user.parameters true = document.merge user.parameters := by
    simp [Server.writtenDoc, hdocument]
  rw [htask, ← hwritten]
  exact performs_send app hreply rfl

end Operations

/-! ## A user that is written and read -/

theorem userOfDocument_parameters (uid : Uid) (user : User) :
    userOfDocument uid (.ok (some user.parameters)) =
      .ok { user with userId := some uid, email := none } := by
  unfold userOfDocument
  dsimp only
  rw [User.ofSnapshot_parameters]
  rfl

/-- Reading the document of a user that was created succeeds, and gives the user exactly if it has
no email. -/
theorem read_eq_created_iff {place place' : Place} {self self' : Controller} {uid : Uid}
    {user created : User} {found : Except (Option NSError) User}
    {server server₁ server₂ server₃ : Server Data} (huser : user.userId = some uid)
    (hcreate : Performs Image (createUser .ofUid place self uid user) (created, true)
      server server₁)
    (hkept : server₂.docs uid = server₁.docs uid)
    (hget : Performs Image (getUser .ofUid place' self' uid) found server₂ server₃) :
    ∃ stamp read, created = { user with createdAt := some stamp } ∧ found = .ok read ∧
      (read = created ↔ user.email = none) := by
  obtain ⟨stamp, hcreated, hdocument⟩ := of_createUser hcreate
  have hfound := of_getUser hget
  rw [hkept, hdocument, userOfDocument_parameters] at hfound
  have hemail : created.email = user.email := by rw [hcreated]
  have huid : created.userId = some uid := by rw [hcreated, ← huser]
  refine ⟨stamp, _, hcreated, hfound, ?_⟩
  rw [← hemail]
  constructor
  · intro hread
    have hnone := congrArg User.email hread
    exact hnone.symm
  · intro hnone
    rw [← hnone, ← huid]

/-- Ana, as the registration form describes her. -/
def registered (email : Option String) : User where
  userId := some Account.ana.uid
  username := some "Ana Adil"
  firstName := some "Ana"
  lastName := some "Adil"
  email := email
  updatedAt := some 0

def stamped (email : Option String) : User := { registered email with createdAt := some 0 }

/-- Ana's document, as it is created. -/
def anaCreated (email : Option String) : Server ℕ :=
  Server.empty.setDoc Account.ana.uid (some (stamped email).parameters)

theorem ana_created (email : Option String) :
    Performs ℕ
      (createUser .ofUid .registerSaveUser ⟨1, .register⟩ Account.ana.uid (registered email))
      (stamped email, true) Server.empty (anaCreated email) :=
  createUser_performs (App.launch none)

theorem docs_anaCreated (email : Option String) :
    (anaCreated email).docs Account.ana.uid = some (stamped email).parameters := by
  simp [anaCreated, Server.setDoc]

theorem ana_read (email : Option String) :
    Performs ℕ (getUser .ofUid .profileLoad ⟨2, .profile⟩ Account.ana.uid)
      (.ok { stamped email with email := none }) (anaCreated email) (anaCreated email) := by
  have hread := userOfDocument_parameters Account.ana.uid (stamped email)
  rw [← docs_anaCreated] at hread
  have hget : Performs ℕ (getUser .ofUid .profileLoad ⟨2, .profile⟩ Account.ana.uid) _
      (anaCreated email) (anaCreated email) := getUser_performs (App.launch none)
  rw [hread] at hget
  exact hget

theorem read_eq_created_without_email :
    ∃ stamp read, stamped none = { registered none with createdAt := some stamp } ∧
      (.ok { stamped none with email := none } : Except (Option NSError) User) = .ok read ∧
      (read = stamped none ↔ (registered none).email = none) :=
  read_eq_created_iff rfl (ana_created none) rfl (ana_read none)

theorem email_not_read : ∃ created found, ∃ server : Server ℕ,
    Performs ℕ (createUser .ofUid .registerSaveUser ⟨1, .register⟩ Account.ana.uid
      (registered (some "ana@mail.com"))) (created, true) Server.empty server ∧
    Performs ℕ (getUser .ofUid .profileLoad ⟨2, .profile⟩ Account.ana.uid) found server server ∧
    found ≠ .ok created := by
  refine ⟨_, _, _, ana_created (some "ana@mail.com"), ana_read (some "ana@mail.com"), ?_⟩
  intro hfound
  have hemail := congrArg User.email (Except.ok.inj hfound)
  cases hemail

/-! ## Updates -/

/-- The fields that both users carry are the same. -/
def Agree (user other : User) : Prop :=
  ∀ entry ∈ profile, entry.2 user ≠ none → entry.2 other ≠ none → entry.2 user = entry.2 other

instance decidableAgree (user other : User) : Decidable (Agree user other) :=
  inferInstanceAs (Decidable (∀ entry ∈ profile,
    entry.2 user ≠ none → entry.2 other ≠ none → entry.2 user = entry.2 other))

theorem Agree.parameters {user other : User} (h : Agree user other) (key : String) :
    user.parameters key = none ∨ other.parameters key = none ∨
      user.parameters key = other.parameters key := by
  by_cases hkey : key ∈ profile.map Prod.fst
  · obtain ⟨entry, hentry, rfl⟩ := List.mem_map.mp hkey
    have hequal := h entry hentry
    rw [parameters_profile user hentry, parameters_profile other hentry]
    tauto
  · exact Or.inl (parameters_other user hkey)

/-- The photo update and the text update carry no common field but the time. -/
theorem photoUser_formUser {uid : Uid} {now createdAt updatedAt : Date} {url : String}
    {form : ProfileForm Image} {key : String} (hkey : key ≠ User.KEY_UPDATED_AT) :
    (ProfileInformationViewController.photoUser uid now url).parameters key = none ∨
      (ProfileInformationViewController.formUser uid form createdAt updatedAt).parameters key =
        none := by
  by_cases hphoto : key = User.KEY_PHOTO_DOWNLOAD_URL
  · right
    rw [hphoto, User.parameters_photoDownloadUrl]
    rfl
  · left
    rw [User.parameters_apply, if_neg hphoto, if_neg hkey]
    simp [ProfileInformationViewController.photoUser]

theorem of_two_updates {place place' : Place} {self self' : Controller} {uid : Uid}
    {user other : User} {server server₁ server₂ : Server Data} (huser : user.userId = some uid)
    (hother : other.userId = some uid)
    (hfirst : Performs Image (updateUser .ofUid place self user) (.ok ()) server server₁)
    (hsecond : Performs Image (updateUser .ofUid place' self' other) (.ok ()) server₁ server₂) :
    ∃ document, server.docs uid = some document ∧
      server₂.docs uid = some ((document.merge user.parameters).merge other.parameters) := by
  obtain ⟨document, hdocument, hmerged⟩ := of_updateUser huser hfirst
  obtain ⟨document₁, hdocument₁, hmerged₁⟩ := of_updateUser hother hsecond
  cases hmerged.symm.trans hdocument₁
  exact ⟨document, hdocument, hmerged₁⟩

/-- Two updates, carried out in both orders. -/
structure Swapped (Image : Type) {Data : Type} (place place' : Place)
    (caller caller' : Controller) (user other : User) (server server₁ server₂ : Server Data) :
    Prop where
  one : ∃ between, Performs Image (updateUser .ofUid place caller user) (.ok ()) server between ∧
    Performs Image (updateUser .ofUid place' caller' other) (.ok ()) between server₁
  two : ∃ between, Performs Image (updateUser .ofUid place' caller' other) (.ok ()) server between ∧
    Performs Image (updateUser .ofUid place caller user) (.ok ()) between server₂

theorem Swapped.documents {place place' : Place} {self self' : Controller} {uid : Uid}
    {user other : User} {server server₁ server₂ : Server Data} (huser : user.userId = some uid)
    (hother : other.userId = some uid)
    (h : Swapped Image place place' self self' user other server server₁ server₂) :
    ∃ document : Fields, server₁.docs uid =
        some ((document.merge user.parameters).merge other.parameters) ∧
      server₂.docs uid = some ((document.merge other.parameters).merge user.parameters) := by
  obtain ⟨between₁, hfirst₁, hsecond₁⟩ := h.one
  obtain ⟨between₂, hfirst₂, hsecond₂⟩ := h.two
  obtain ⟨document, hdocument, hone⟩ := of_two_updates huser hother hfirst₁ hsecond₁
  obtain ⟨document', hdocument', htwo⟩ := of_two_updates hother huser hfirst₂ hsecond₂
  cases hdocument.symm.trans hdocument'
  exact ⟨document, hone, htwo⟩

theorem swapped_of_document {place place' : Place} {self self' : Controller} {uid : Uid}
    {user other : User} {server : Server Data} {document : Fields}
    (huser : user.userId = some uid) (hother : other.userId = some uid)
    (hdocument : server.docs uid = some document) (app : App Image) :
    ∃ server₁ server₂, Swapped Image place place' self self' user other server server₁ server₂ := by
  have hwritten (fields : Fields) : (server.setDoc uid (some fields)).docs uid = some fields := by
    simp [Server.setDoc]
  have hone := hwritten (document.merge user.parameters)
  have htwo := hwritten (document.merge other.parameters)
  exact ⟨_, _, ⟨_, updateUser_performs app huser hdocument, updateUser_performs app hother hone⟩,
    ⟨_, updateUser_performs app hother hdocument, updateUser_performs app huser htwo⟩⟩

section Screen

open ProfileInformationViewController

/-- The two updates of the profile screen are these operations, with the handlers of the screen. -/
theorem photoUploaded_eq_updateUser (self : Controller) (uid : Uid) (now : Date) (url : String) :
    (photoUploaded self uid now (some url) none : Program Image Data) =
      (updateUser .ofUid .informationSavePhoto self (photoUser uid now url)).handle
        (either (fun _ => photoSaved self) (photoNotSaved self)) := by
  rw [handle_updateUser]
  rfl

theorem saveUser_eq_updateUser (self : Controller) (uid : Uid) :
    (saveUser self uid : Program Image Data) =
      Program.showLoadingSpinner self ++
      Program.date (fun createdAt => Program.date (fun updatedAt => .read (fun app =>
        let user := formUser uid (app.profileForm self) createdAt updatedAt
        (updateUser .ofUid .informationSaveUser self user).handle
          (either (fun _ => textsSaved user) (fun _ => .done))))) := by
  simp only [saveUser, handle_updateUser]

/-- An update replaces the fields that it carries and keeps the others. Two updates commute if they
agree, and the photo update and the text update of the profile screen commute up to the time. -/
theorem updates_merge_and_commute :
    (∀ (place : Place) (self : Controller) (uid : Uid) (user : User) (document : Fields)
      (server server' : Server Data), user.userId = some uid →
      server.docs uid = some document →
      Performs Image (updateUser .ofUid place self user) (.ok ()) server server' →
      ∃ document', server'.docs uid = some document' ∧
        (∀ entry ∈ profile, document' entry.1 = (entry.2 user).or (document entry.1)) ∧
        ∀ key, key ∉ profile.map Prod.fst → document' key = document key) ∧
    (∀ (place place' : Place) (self self' : Controller) (uid : Uid) (user other : User)
      (server server₁ server₂ : Server Data), user.userId = some uid → other.userId = some uid →
      Agree user other →
      Swapped Image place place' self self' user other server server₁ server₂ →
      server₁.docs uid = server₂.docs uid) ∧
    ∀ (self self' : Controller) (uid : Uid) (now createdAt updatedAt : Date) (url : String)
      (form : ProfileForm Image) (server server₁ server₂ : Server Data),
      Swapped Image .informationSavePhoto .informationSaveUser self self' (photoUser uid now url)
        (formUser uid form createdAt updatedAt) server server₁ server₂ →
      ∃ document₁ document₂, server₁.docs uid = some document₁ ∧
        server₂.docs uid = some document₂ ∧
        ∀ key, key ≠ User.KEY_UPDATED_AT → document₁ key = document₂ key := by
  refine ⟨?_, ?_, ?_⟩
  · intro place self uid user document server server' huser hdocument hupdate
    obtain ⟨document', hdocument', hmerged⟩ := of_updateUser huser hupdate
    cases hdocument.symm.trans hdocument'
    refine ⟨_, hmerged, ?_, ?_⟩
    · intro entry hentry
      rw [Fields.merge_apply, parameters_profile user hentry]
    · intro key hkey
      rw [Fields.merge_apply, parameters_other user hkey, Option.none_or]
  · intro place place' self self' uid user other server server₁ server₂ huser hother hagree hswapped
    obtain ⟨document, hone, htwo⟩ := hswapped.documents huser hother
    rw [hone, htwo]
    congr 1
    funext key
    exact Fields.merge_merge_apply (hagree.parameters key)
  · intro self self' uid now createdAt updatedAt url form server server₁ server₂ hswapped
    obtain ⟨document, hone, htwo⟩ := hswapped.documents rfl rfl
    refine ⟨_, _, hone, htwo, ?_⟩
    intro key hkey
    apply Fields.merge_merge_apply
    rcases photoUser_formUser hkey with hphoto | htexts
    · exact Or.inl hphoto
    · exact Or.inr (Or.inl htexts)

/-- Ana's profile screen. -/
def screen : Controller := ⟨3, .profileInformation⟩

def anaPhoto : User := photoUser Account.ana.uid 1 "https://photos/ana"

def anaForm : ProfileForm ℕ := { firstName := "Ana", lastName := "Adil", about := "Films" }

def anaAbout : User := { userId := some Account.ana.uid, aboutMe := some "Films" }

theorem updates_merge_and_commute_ana :
    (∃ server' document',
      Performs ℕ (updateUser .ofUid .informationSavePhoto screen anaPhoto) (.ok ())
        (anaCreated none) server' ∧ server'.docs Account.ana.uid = some document' ∧
      (∀ entry ∈ profile, document' entry.1 =
        (entry.2 anaPhoto).or ((stamped none).parameters entry.1)) ∧
      ∀ key, key ∉ profile.map Prod.fst → document' key = (stamped none).parameters key) ∧
    (∃ server₁ server₂, Swapped ℕ .informationSavePhoto .informationSaveUser screen screen
        anaPhoto anaAbout (anaCreated none) server₁ server₂ ∧
      server₁.docs Account.ana.uid = server₂.docs Account.ana.uid) ∧
    ∃ server₁ server₂, Swapped ℕ .informationSavePhoto .informationSaveUser screen screen
        anaPhoto (formUser Account.ana.uid anaForm 2 3) (anaCreated none) server₁ server₂ ∧
      ∃ document₁ document₂, server₁.docs Account.ana.uid = some document₁ ∧
        server₂.docs Account.ana.uid = some document₂ ∧
        ∀ key, key ≠ User.KEY_UPDATED_AT → document₁ key = document₂ key := by
  obtain ⟨hmerge, hcommute, hscreen⟩ := @updates_merge_and_commute ℕ ℕ
  have hdocument := docs_anaCreated none
  refine ⟨?_, ?_, ?_⟩
  · have hupdate : Performs ℕ (updateUser .ofUid .informationSavePhoto screen anaPhoto) (.ok ())
        (anaCreated none) _ := updateUser_performs (App.launch none) rfl hdocument
    obtain ⟨document', hmerged⟩ := hmerge _ _ _ anaPhoto _ _ _ rfl hdocument hupdate
    exact ⟨_, document', hupdate, hmerged⟩
  · have hexists : ∃ server₁ server₂, Swapped ℕ .informationSavePhoto .informationSaveUser screen
        screen anaPhoto anaAbout (anaCreated none) server₁ server₂ :=
      swapped_of_document rfl rfl hdocument (App.launch none)
    obtain ⟨server₁, server₂, hswapped⟩ := hexists
    exact ⟨server₁, server₂, hswapped,
      hcommute _ _ _ _ _ anaPhoto anaAbout _ _ _ rfl rfl (by decide) hswapped⟩
  · have hexists : ∃ server₁ server₂, Swapped ℕ .informationSavePhoto .informationSaveUser screen
        screen anaPhoto (formUser Account.ana.uid anaForm 2 3) (anaCreated none) server₁ server₂ :=
      swapped_of_document rfl rfl hdocument (App.launch none)
    obtain ⟨server₁, server₂, hswapped⟩ := hexists
    exact ⟨server₁, server₂, hswapped, hscreen _ _ _ _ _ _ _ anaForm _ _ _ hswapped⟩

end Screen

end ProfileDocuments

end GiveMeMovies
