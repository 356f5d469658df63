import GiveMeMovies.AppResponses

/-!
# The accounts that the app deals with

The app holds the user that the keychain kept and the users whom a response of the
authentication service has signed in. Every request names one of these accounts, or the photo of
one, since each uid that the code sends is read off the signed-in user.
-/

namespace GiveMeMovies

variable {Image Data : Type}

/-- The request names no account outside `S`, and no photo of one. -/
def Request.Concerns (S : Uid → Prop) : Request Data → Prop
  | .reload _ uid | .delete _ uid | .sendEmailVerification _ uid | .getDocument uid
  | .setData uid _ _ | .updateData uid _ | .deleteDocument uid => S uid
  | .putData ref _ | .downloadURL ref | .deleteObject ref =>
      ∃ uid, S uid ∧ (ref = .photo uid ∨ ref = .photoJpg uid)
  | .signIn _ _ | .createUser _ _ | .updateCurrentUser _ | .loadImage _ _ | .timer => True

/-- The user whom a response signs in. -/
def Request.signsIn : (request : Request Data) → request.Response Image → Option AuthUser
  | .signIn _ _, .ok user => some user
  | .createUser _ _, .ok user => some user
  | _, _ => none

namespace SignedInAccounts

open Program UserManager StorageManager AppRuns

/-- The user that the keychain kept, and those whom the responses of the journal signed in. -/
def signedIn (keptUser : Option AuthUser) (journal : Journal Image Data) : List AuthUser :=
  keptUser.toList ++ journal.filterMap (fun e => e.call.request.signsIn e.response)

def Admitted (keptUser : Option AuthUser) (journal : Journal Image Data) (uid : Uid) : Prop :=
  ∃ user ∈ signedIn keptUser journal, user.uid = uid

/-- What of a user object the app never changes. -/
def identity (user : AuthUser) : Uid × String := (user.uid, user.email)

/-- The user objects belong to `S`, and so do the accounts that the requests name. -/
def contract (S : Uid → Prop) : Contract Image Data where
  state app := ∀ user ∈ app.authUsers, S user.uid
  frame app app' := app'.authUsers = app.authUsers
  call call := call.request.Concerns S
  response call a := ∀ user, call.request.signsIn a = some user → S user.uid

variable {ios : Platform Image Data} {S : Uid → Prop} {self : Controller}

theorem identities_receive (request : Request Data) (a : request.Response Image)
    (app : App Image) : (receive request a app).authUsers.map identity =
      (app.authUsers ++ (request.signsIn a).toList).map identity := by
  have hforce (user : ℕ) : (app.signOutByForce user).authUsers = app.authUsers := by
    unfold App.signOutByForce
    split <;> rfl
  cases request with
  | signIn email password => cases a <;> simp [receive, Request.signsIn, App.signedIn]
  | createUser email password => cases a <;> simp [receive, Request.signsIn, App.signedIn]
  | reload user uid =>
      cases a with
      | ok verified =>
          apply List.ext_getElem?
          intro i
          simp only [receive, App.setEmailVerified, Request.signsIn, Option.toList_none,
            List.append_nil, List.getElem?_map, List.getElem?_modify]
          cases app.authUsers[i]? with
          | none => rfl
          | some other =>
              by_cases hi : user = i
              · simp [hi, identity]
              · simp [hi]
      | error failure =>
          simp only [receive, Request.signsIn, Option.toList_none, List.append_nil]
          split <;> simp [hforce]
  | delete user uid =>
      cases a with
      | ok _ => simp [receive, Request.signsIn, hforce]
      | error failure =>
          simp only [receive, Request.signsIn, Option.toList_none, List.append_nil]
          split <;> simp [hforce]
  | sendEmailVerification user uid =>
      cases a with
      | ok _ => simp [receive, Request.signsIn]
      | error failure =>
          simp only [receive, Request.signsIn, Option.toList_none, List.append_nil]
          split <;> simp [hforce]
  | _ => cases a <;> simp [receive, Request.signsIn]

theorem state_receive {request : Request Data} {a : request.Response Image} {app : App Image}
    (ha : ∀ user, request.signsIn a = some user → S user.uid)
    (happ : ∀ user ∈ app.authUsers, S user.uid) :
    ∀ user ∈ (receive request a app).authUsers, S user.uid := by
  intro user huser
  have hmem := List.mem_map_of_mem (f := identity) huser
  rw [identities_receive] at hmem
  obtain ⟨other, hother, hsame⟩ := List.mem_map.mp hmem
  have huid : other.uid = user.uid := congrArg Prod.fst hsame
  rw [← huid]
  rcases List.mem_append.mp hother with hother | hother
  · exact happ other hother
  · exact ha other (Option.mem_toList.mp hother)

theorem allows_keeps {f : App Image → App Image} (hf : ∀ app, (f app).authUsers = app.authUsers) :
    Allows (contract S : Contract Image Data) f := by
  refine fun app happ => ⟨?_, hf app⟩
  change ∀ user ∈ (f app).authUsers, S user.uid
  rw [hf]
  exact happ

theorem within_keeps {f : App Image → App Image} (hf : ∀ app, (f app).authUsers = app.authUsers) :
    (Callback.Prog.modify f : Program Image Data).Within (contract S) :=
  (allows_keeps hf).within

theorem mobile : Mobile (contract S : Contract Image Data) where
  error self title msg := by
    apply allows_keeps
    intro app
    unfold App.showErrorWith
    split <;> rfl
  tick := allows_keeps fun _ => rfl
  pop _ := allows_keeps fun _ => rfl
  push _ _ := allows_keeps fun _ => rfl
  home _ := allows_keeps fun _ => rfl
  signOut := by
    apply allows_keeps
    intro app
    unfold App.signOut
    split <;> rfl

theorem within_request {place : Place} {request : Request Data}
    {handler : request.Response Image → Program Image Data} (hrequest : request.Concerns S)
    (h : ∀ a, (∀ user, request.signsIn a = some user → S user.uid) →
      (handler a).Within (contract S)) :
    (send place self request handler).Within (contract S) :=
  within_send.mpr ⟨hrequest, trivial, h⟩

theorem within_uid {body : Uid → Program Image Data}
    (h : ∀ uid, S uid → (body uid).Within (contract S)) :
    (guardUid body).Within (contract S) := by
  refine within_guardUid fun app uid happ hu => h uid ?_
  obtain ⟨_, authUser, _, ha, rfl⟩ := App.exists_of_currentUid hu
  exact happ authUser (List.mem_of_getElem? ha)

theorem within_user {body : ℕ → AuthUser → Program Image Data}
    (h : ∀ user authUser, S authUser.uid → (body user authUser).Within (contract S)) :
    (guardUser body).Within (contract S) := by
  intro app happ
  dsimp only
  split
  next user authUser _ hu =>
    obtain ⟨_, _, ha⟩ := Option.bind_eq_some_iff.mp hu
    exact h user authUser (happ authUser (List.mem_of_getElem? ha))
  · trivial

theorem within_shared (user : User) :
    (setSharedUser user : Program Image Data).Within (contract S) :=
  within_keeps fun _ => rfl

theorem allows_spinner :
    Allows (contract S : Contract Image Data) (App.showLoadingSpinner self) :=
  allows_keeps fun _ => rfl

theorem allows_noSpinner : Allows (contract S : Contract Image Data) App.removeLoadingSpinner :=
  allows_keeps fun _ => rfl

theorem within_spinner : (showLoadingSpinner self : Program Image Data).Within (contract S) :=
  allows_spinner.within

theorem within_noSpinner : (removeLoadingSpinner : Program Image Data).Within (contract S) :=
  allows_noSpinner.within

theorem within_form {f : ProfileForm Image → ProfileForm Image} :
    (ProfileInformationViewController.setForm self f : Program Image Data).Within (contract S) :=
  within_keeps fun _ => rfl

/-! ## The managers -/

theorem within_getUser {place : Place} {uid : Uid} {completion : User → Program Image Data}
    {completionError : Option NSError → Program Image Data} (huid : S uid)
    (hc : ∀ user, (completion user).Within (contract S))
    (he : ∀ error, (completionError error).Within (contract S)) :
    (getUser place self uid completion completionError).Within (contract S) := by
  exact within_request huid fun a _ => of_getDocumentHandler hc he a

theorem within_createUser {place : Place} {uid : Uid} {user : User}
    {completion : User → Bool → Program Image Data} (huid : S uid)
    (hc : ∀ user success, (completion user success).Within (contract S)) :
    (createUser place self uid user completion).Within (contract S) := by
  exact mobile.within_anyDate fun now => within_request huid fun a _ =>
    of_createUserHandler (hc _) a

theorem within_updateUser {place : Place} {user : User} {completion : Program Image Data}
    {completionError : Option NSError → Program Image Data}
    (huid : ∀ uid, user.userId = some uid → S uid) (hc : completion.Within (contract S))
    (he : ∀ error, (completionError error).Within (contract S)) :
    (updateUser place self user completion completionError).Within (contract S) := by
  unfold updateUser
  split
  next uid hu =>
    refine within_request (huid uid hu) fun a _ => ?_
    cases a with
    | some error => exact he (some error)
    | none => exact hc
  · exact he none

theorem within_uploadImage {place : Place} {image : Image} {uid : Uid}
    {completion : Option String → Option NSError → Program Image Data} (huid : S uid)
    (hc : ∀ url error, (completion url error).Within (contract S)) :
    (uploadImage ios place self image uid completion).Within (contract S) := by
  have hphoto : ∃ other, S other ∧
      (StorageReference.photoJpg uid = .photo other ∨
        StorageReference.photoJpg uid = .photoJpg other) := ⟨uid, huid, Or.inr rfl⟩
  unfold uploadImage
  dsimp only
  split
  · exact hc none none
  · refine within_request hphoto fun a _ => ?_
    cases a with
    | some error => exact hc none none
    | none =>
        refine within_request hphoto fun b _ => ?_
        cases b with
        | error error => exact hc none (some error)
        | ok url => exact hc (some url) none

theorem within_uploadProfileImage {place : Place} {image : Image} :
    (uploadProfileImage ios place self image .done (fun _ => .done)).Within (contract S) := by
  refine within_uid fun uid huid => ?_
  have hphoto : ∃ other, S other ∧
      (StorageReference.photo uid = .photo other ∨
        StorageReference.photo uid = .photoJpg other) := ⟨uid, huid, Or.inl rfl⟩
  dsimp only
  split
  · trivial
  · refine within_request hphoto fun a _ => ?_
    cases a with
    | some error => trivial
    | none =>
        refine within_request hphoto fun b _ => ?_
        cases b with
        | error error => trivial
        | ok url =>
            refine Callback.Prog.Within.append (within_uid fun owner howner => ?_) trivial
            exact within_request howner fun _ _ => trivial

/-! ## The screens before the member area -/

theorem within_loadError {title : String} (error : Option NSError) :
    (weakly self (showErrorWith self (some title)
      (error.map NSError.localizedDescription)) : Program Image Data).Within (contract S) :=
  mobile.within_weakError _ _

theorem within_splash :
    (SplashViewController.viewDidLoad self : Program Image Data).Within (contract S) := by
  have hload : (SplashViewController.loadUser self : Program Image Data).Within (contract S) :=
    within_uid fun uid huid => within_getUser huid
      (fun user => (within_shared user).append (within_weakly mobile.within_goToHomeScreen))
      fun _ => trivial
  have hsignedIn : (SplashViewController.deadlineSignedIn self :
      Program Image Data).Within (contract S) := by
    refine hload.append (within_user fun user authUser _ => ?_)
    split
    · exact mobile.within_goToHomeScreen
    · exact within_keeps fun _ => rfl
  intro app _
  dsimp only
  split
  · exact within_request trivial fun _ _ => hsignedIn
  · exact within_request trivial fun _ _ => within_keeps fun _ => rfl

theorem within_setImage (image : Option Image) :
    (UIImageView.setImage self image : Program Image Data).Within (contract S) :=
  within_keeps fun _ => rfl

theorem within_loadPhoto (placeholder : String) (user : User) :
    (UIImageView.loadPhoto ios self placeholder user).Within (contract S) := by
  have hdownloaded (image : Option Image) :
      (UIImageView.downloadedHandler self image : Program Image Data).Within (contract S) :=
    UIImageView.within_downloadedHandler fun i _ => within_setImage (some i)
  have hloaded (photoUrl photoReference : String) : (send .imageView self
      (.loadImage photoUrl photoReference) (UIImageView.downloadedHandler self) :
        Program Image Data).Within (contract S) := within_request trivial fun a _ => hdownloaded a
  refine UIImageView.within_loadPhoto (fun _ => within_setImage _) ?_ hloaded
  exact fun photoUrl photoReference =>
    within_request trivial fun a _ => (hdownloaded a).append (hloaded photoUrl photoReference)

theorem within_showUser (placeholder : String) (user : User) :
    (showUser ios self placeholder user).Within (contract S) :=
  (within_shared user).append (within_weakly (within_loadPhoto placeholder user))

theorem within_infoAppear :
    (WelcomeInfoViewController.viewWillAppear ios self).Within (contract S) := by
  refine within_request trivial fun _ _ => ?_
  refine Callback.Prog.Within.append (.append within_spinner (within_uid fun uid huid => ?_))
    within_noSpinner
  exact within_getUser huid (within_showUser _) within_loadError

theorem within_onBack :
    (EmailVerificationViewController.onBack self : Program Image Data).Within (contract S) := by
  refine within_user fun user authUser huser => within_request huser fun _ _ => ?_
  intro app _
  dsimp only
  split
  · exact mobile.within_weakError _ _
  apply Callback.Prog.Within.append
  · exact within_request huser fun a _ => mobile.within_userDeleted a
  refine within_uid fun uid huid => .append (within_weakly ?_) (within_weakly mobile.within_pop)
  intro app' _
  dsimp only
  split
  · exact within_request huid fun a _ => mobile.within_deleteAccountCompletion a
  · trivial

theorem within_resend :
    (EmailVerificationViewController.sendEmailVerification self :
      Program Image Data).Within (contract S) :=
  within_spinner.append (within_user fun _ _ huser =>
    within_request huser fun a _ => mobile.within_resent allows_noSpinner a)

theorem within_continue :
    (EmailVerificationViewController.checkEmailVerification ios self).Within (contract S) := by
  refine within_spinner.append (within_user fun user authUser huser => ?_)
  refine within_request huser fun _ _ app _ => ?_
  dsimp only
  split
  · exact within_weakly (within_noSpinner.append (mobile.within_push fun _ => within_infoAppear))
  · exact within_weakly ((mobile.within_error _ _).append within_noSpinner)

theorem within_userSaved (user : User) (success : Bool) :
    (RegisterViewController.userSaved ios self user success).Within (contract S) := by
  cases success with
  | false => trivial
  | true =>
      refine Callback.Prog.Within.append (.append (.append ?_ (within_weakly ?_)) ?_) ?_
      · exact within_shared user
      · intro app _
        dsimp only
        split
        · exact within_uploadProfileImage
        · trivial
      · exact within_user fun user authUser huser =>
          within_request huser fun a _ => mobile.within_mailSent a
      · exact within_weakly (mobile.within_push fun _ => trivial)

theorem within_registerAction :
    (RegisterViewController.registerAction ios self).Within (contract S) := by
  intro app _
  dsimp only
  split
  · exact mobile.within_error _ _
  refine Callback.Prog.Within.append (.append within_spinner (.append ?_ ?_)) within_noSpinner
  · refine within_request trivial fun a ha => ?_
    cases a with
    | error failure => exact mobile.within_weakError _ _
    | ok user =>
        refine within_weakly (mobile.within_anyDate fun _ =>
          mobile.within_anyDate fun _ => fun app _ => ?_)
        exact within_createUser (ha user rfl) within_userSaved
  · intro app' _
    dsimp only
    split
    · refine within_uid fun uid huid => within_createUser huid fun user success => ?_
      cases success with
      | false => trivial
      | true =>
          exact (within_shared user).append (within_weakly (mobile.within_push fun _ => trivial))
    · trivial

theorem within_loginAction {email password : String} :
    (WelcomeViewController.loginAction ios self email password).Within (contract S) := by
  unfold WelcomeViewController.loginAction WelcomeViewController.validateFields
  split
  · exact mobile.within_error _ _
  intro app _
  dsimp only
  split
  · refine within_spinner.append (within_request trivial fun a ha => ?_)
    cases a with
    | error error =>
        exact within_weakly (mobile.within_signInFailed allows_noSpinner error)
    | ok user =>
        refine within_weakly (.append (.append ?_ within_noSpinner) mobile.within_goToHomeScreen)
        exact within_getUser (ha user rfl) within_shared within_loadError
  · refine within_uid fun uid huid => .append ?_ ?_
    · exact within_getUser huid within_shared within_loadError
    · exact within_getUser huid
        (fun user => (within_shared user).append (within_weakly mobile.within_goToHomeScreen))
        mobile.within_noUser

/-! ## The member area -/

theorem within_profileLoad :
    (ProfileViewController.loadUserData ios self).Within (contract S) :=
  within_uid fun _ huid => within_getUser huid (within_showUser _) within_loadError

theorem within_confirmDelete :
    (ProfileViewController.confirmDelete self : Program Image Data).Within (contract S) := by
  refine within_weakly (.append (.append (.append ?_ ?_) ?_)
    (mobile.within_backToLoginScreen fun _ => within_splash))
  · exact within_user fun user authUser huser => mobile.within_signOut.append
      (within_request huser fun a _ => mobile.within_authDeleted a)
  · exact within_uid fun uid huid =>
      within_request huid fun a _ => mobile.within_documentDeleted a
  · refine within_uid fun uid huid => within_request ?_ fun a _ => mobile.within_deleted a
    exact ⟨uid, huid, Or.inr rfl⟩

theorem within_informationLoad :
    (ProfileInformationViewController.loadUserData ios self).Within (contract S) := by
  refine within_uid fun uid huid => within_getUser huid (fun user => ?_) within_loadError
  exact (within_shared user).append
    (within_weakly ((within_loadPhoto _ user).append within_form))

theorem within_profileInfoClick :
    (ProfileViewController.profileInfoClick ios self).Within (contract S) :=
  mobile.within_push fun _ => within_form.append
    (Callback.Prog.Within.append (within_keeps fun _ => rfl) within_informationLoad)

theorem within_photoUploaded {uid : Uid} {now : Date} (huid : S uid) (url : Option String)
    (error : Option NSError) : (ProfileInformationViewController.photoUploaded self uid now url
      error : Program Image Data).Within (contract S) := by
  have hsaved : (ProfileInformationViewController.photoSaved self :
      Program Image Data).Within (contract S) := within_keeps fun _ => rfl
  cases error with
  | some error => trivial
  | none =>
      cases url with
      | none => trivial
      | some url =>
          unfold ProfileInformationViewController.photoUploaded
          refine within_updateUser (fun other hother => ?_) hsaved fun error => ?_
          · cases hother
            exact huid
          · exact mobile.within_photoNotSaved error

theorem within_updateProfile :
    (ProfileInformationViewController.updateUser ios self).Within (contract S) := by
  refine within_user fun user authUser huser => within_request trivial fun a _ => ?_
  cases a with
  | some error => exact mobile.within_weakError _ _
  | none =>
      apply Callback.Prog.Within.append
      · refine within_weakly (mobile.within_anyDate fun now app _ => ?_)
        exact within_uploadImage huser (within_photoUploaded huser)
      · refine within_weakly (within_spinner.append
          (mobile.within_anyDate fun _ => mobile.within_anyDate fun _ => fun app _ => ?_))
        refine within_updateUser (fun uid hu => ?_) ((within_shared _).append within_noSpinner)
          fun _ => trivial
        cases hu
        exact huser

theorem within_updateAccount :
    (ProfileInformationViewController.updateAccount ios self).Within (contract S) :=
  Callback.Prog.Within.append (.append (.append within_updateProfile within_form)
    (within_keeps fun _ => rfl)) mobile.within_pop

theorem within_back : (back self : Program Image Data).Within (contract S) := by
  unfold back
  split
  · exact mobile.within_pop
  · exact mobile.within_pop
  · exact within_onBack
  · exact mobile.within_pop
  · exact mobile.within_pop
  · trivial

theorem within_selectTab {tab : Tab} {app : App Image} {p : Program Image Data}
    (hp : selectTab ios tab app = some p) : p.Within (contract S) := by
  unfold selectTab at hp
  split at hp
  · split at hp
    · split at hp
      · cases hp
        exact Callback.Prog.Within.append
          (.append (within_keeps fun _ => rfl) within_profileLoad) within_profileLoad
      · cases hp
        exact within_keeps fun _ => rfl
    · cases hp
  · cases hp

theorem within_act {e : Act Image} {app : App Image} {p : Program Image Data}
    (hp : act ios e app = some p) : p.Within (contract S) := by
  have hdismiss : (Callback.Prog.modify App.dismissAlert : Program Image Data).Within
      (contract S) := within_keeps fun _ => rfl
  cases e with
  | logIn self email password =>
      obtain ⟨rfl, _⟩ := of_whenInFront hp
      exact within_loginAction
  | createAccount self =>
      obtain ⟨rfl, _⟩ := of_whenInFront hp
      exact mobile.within_push fun _ => within_keeps fun _ => rfl
  | fill self fields =>
      obtain ⟨rfl, _⟩ := of_whenInFront hp
      exact within_keeps fun _ => rfl
  | register self fields =>
      obtain ⟨rfl, _⟩ := of_whenInFront hp
      exact Callback.Prog.Within.append (within_keeps fun _ => rfl) within_registerAction
  | resend self =>
      obtain ⟨rfl, _⟩ := of_whenInFront hp
      exact within_resend
  | checkVerification self =>
      obtain ⟨rfl, _⟩ := of_whenInFront hp
      exact within_continue
  | start self =>
      obtain ⟨rfl, _⟩ := of_whenInFront hp
      exact mobile.within_goToHomeScreen
  | back self =>
      simp only [act] at hp
      split at hp
      · cases hp
        exact within_back
      · cases hp
  | swipeBack =>
      cases hp
      exact within_keeps fun _ => rfl
  | selectTab tab => exact within_selectTab hp
  | profileInfo self =>
      obtain ⟨rfl, _⟩ := of_whenInFront hp
      exact within_profileInfoClick
  | logOut self =>
      obtain ⟨rfl, _⟩ := of_whenInFront hp
      exact within_keeps fun _ => rfl
  | deleteAccount self =>
      obtain ⟨rfl, _⟩ := of_whenInFront hp
      intro app _
      dsimp only
      split
      · exact within_keeps fun _ => rfl
      · exact mobile.within_error _ _
  | dismiss =>
      cases hp
      exact hdismiss
  | confirm =>
      simp only [act, confirm] at hp
      split at hp
      · cases hp
        exact hdismiss.append
          (mobile.within_confirmLogOut (fun _ => within_splash) allows_spinner allows_noSpinner)
      · cases hp
        exact hdismiss.append within_confirmDelete
      · cases hp
  | edit self firstName lastName about =>
      obtain ⟨rfl, _⟩ := of_whenInFront hp
      exact within_form
  | library self =>
      obtain ⟨rfl, _⟩ := of_whenInFront hp
      intro app _
      dsimp only
      split
      · exact within_uploadProfileImage
      · trivial
  | pick self image =>
      obtain ⟨rfl, _⟩ := of_whenInFront hp
      exact Callback.Prog.Within.append
        (.append (within_form.append within_spinner) within_updateProfile) within_noSpinner
  | update self =>
      obtain ⟨rfl, _⟩ := of_whenInFront hp
      exact within_updateAccount
  | appear self =>
      simp only [act] at hp
      split at hp
      · cases hp
        unfold viewWillAppear
        split
        · exact within_profileLoad
        · exact within_infoAppear
        · trivial
      · cases hp
  | release self =>
      simp only [act] at hp
      split at hp
      · cases hp
      · cases hp
        exact within_keeps fun _ => rfl
  | keychain error =>
      cases hp
      exact within_keeps fun _ => rfl

/-! ## Runs -/

variable {w w' : World Image Data} {es : List (AppRuns.Event Image Data)}

theorem journal_of_step {e : AppRuns.Event Image Data} {a : Entry Image Data}
    (ha : a ∈ w.journal) (hstep : AppRuns.step ios w e = some w') : a ∈ w'.journal := by
  cases e with
  | app e => exact Callback.mem_journal_of_step (service Image Data) (act ios) ha hstep
  | outside server =>
      cases hstep
      exact ha

theorem within_step (h : w.Within (contract S)) {e : AppRuns.Event Image Data}
    (hjournal : ∀ a ∈ w'.journal, ∀ user, a.call.request.signsIn a.response = some user →
      S user.uid)
    (hstep : AppRuns.step ios w e = some w') : w'.Within (contract S) := by
  cases e with
  | outside server =>
      cases hstep
      exact ⟨h.client, h.calls, h.pending, h.handled⟩
  | app e =>
      have hrun : EventRun.run (Callback.step (service Image Data) (act ios)) w [e] = some w' := by
        rw [EventRun.run_cons]
        change (AppRuns.step ios w (.app e)).bind _ = _
        rw [hstep]
        rfl
      exact Callback.World.Within.run (service Image Data) (act ios)
        (fun call a app _ ha happ => state_receive ha happ) (fun _ _ _ _ hp => within_act hp) h
        hjournal hrun

theorem within_run (h : w.Within (contract S))
    (hjournal : ∀ a ∈ w'.journal, ∀ user, a.call.request.signsIn a.response = some user →
      S user.uid)
    (hrun : EventRun.run (AppRuns.step ios) w es = some w') : w'.Within (contract S) := by
  induction es generalizing w with
  | nil => cases hrun; exact h
  | cons e es ih =>
      obtain ⟨v, hstep, hrun⟩ := Option.bind_eq_some_iff.mp hrun
      refine ih (within_step h (fun a ha => hjournal a ?_) hstep) hrun
      exact EventRun.run_invariant (I := fun u => a ∈ u.journal)
        (fun _ _ _ ha hs => journal_of_step ha hs) ha hrun

theorem within_launched {server : Server Data} {keptUser : Option AuthUser} {clock : Clock}
    (hkept : ∀ user, keptUser = some user → S user.uid) :
    (launched server keptUser clock : World Image Data).Within (contract S) := by
  have hsplash : (SplashViewController.viewDidLoad splash : Program Image Data).Within
      (contract S) := within_splash
  have hstate : (contract S : Contract Image Data).state (App.launch keptUser clock) :=
    fun user huser => hkept user (Option.mem_toList.mp huser)
  exact (Callback.World.within_start hstate).exec (hsplash.preserves hstate)
    fun q hq => hsplash.pending hstate hq

/-- A run keeps to the accounts that it has signed in. -/
theorem within_of_run {server : Server Data} {keptUser : Option AuthUser} {clock : Clock}
    (hrun : EventRun.run (AppRuns.step ios) (launched server keptUser clock) es = some w) :
    w.Within (contract (Admitted keptUser w.journal)) := by
  refine within_run (within_launched fun user hu => ?_) (fun a ha user hu => ?_) hrun
  · exact ⟨user, List.mem_append_left _ (Option.mem_toList.mpr hu), rfl⟩
  · exact ⟨user, List.mem_append_right _ (List.mem_filterMap.mpr ⟨a, ha, hu⟩), rfl⟩

theorem authUsers_of_within {p : Program Image Data} (h : p.Within (contract S)) {app : App Image}
    (happ : ∀ user ∈ app.authUsers, S user.uid) : (p.run app).1.authUsers = app.authUsers :=
  h.frames (fun _ => rfl) (fun _ _ _ h h' => Eq.trans h' h) happ

theorem identities_respond {keptUser : Option AuthUser} {n : ℕ} {p : Pending Image Data}
    {a : p.call.Response Image} (hp : (p.handler a).Within (contract fun _ => True))
    (hw : w.client.authUsers.map identity = (signedIn keptUser w.journal).map identity) :
    (w.respond (service Image Data) n p a).client.authUsers.map identity =
      (signedIn keptUser (w.respond (service Image Data) n p a).journal).map identity := by
  rw [Callback.World.respond_client, authUsers_of_within hp fun _ _ => trivial]
  change (receive p.call.request a w.client).authUsers.map identity =
    (signedIn keptUser (w.journal ++ [⟨p.call, a⟩])).map identity
  rw [identities_receive, List.map_append, hw, ← List.map_append]
  simp only [signedIn, List.filterMap_append, List.append_assoc]
  cases hs : p.call.request.signsIn a with
  | none => simp [hs]
  | some user => simp [hs]

/-- A step adds the users whom the response signed in. -/
theorem identities_step {keptUser : Option AuthUser} {e : AppRuns.Event Image Data}
    (h : w.Within (contract fun _ => True))
    (hw : w.client.authUsers.map identity = (signedIn keptUser w.journal).map identity)
    (hstep : AppRuns.step ios w e = some w') :
    w'.client.authUsers.map identity = (signedIn keptUser w'.journal).map identity := by
  cases e with
  | outside server =>
      cases hstep
      exact hw
  | app e =>
      cases e with
      | act e =>
          obtain ⟨p, hp, rfl⟩ := (Callback.step_act (service Image Data) (act ios)).mp hstep
          rw [Callback.World.exec_client,
            authUsers_of_within (within_act hp : p.Within (contract fun _ => True))
              fun _ _ => trivial]
          exact hw
      | complete n o =>
          obtain ⟨p, hp, rfl⟩ := (Callback.step_complete (service Image Data) (act ios)).mp hstep
          exact identities_respond
            ((h.pending p (List.mem_of_getElem? hp)).2.2 _ fun _ _ => trivial) hw

theorem identities_of_run {server : Server Data} {keptUser : Option AuthUser} {clock : Clock}
    (hrun : EventRun.run (AppRuns.step ios) (launched server keptUser clock) es = some w) :
    w.client.authUsers.map identity = (signedIn keptUser w.journal).map identity := by
  have hlaunched : (launched server keptUser clock : World Image Data).Within
      (contract fun _ => True) := within_launched fun _ _ => trivial
  have hsplash : (SplashViewController.viewDidLoad splash : Program Image Data).Within
      (contract fun _ => True) := within_splash
  refine (EventRun.run_invariant (I := fun u => u.Within (contract fun _ => True) ∧
    u.client.authUsers.map identity = (signedIn keptUser u.journal).map identity)
    (fun u e u' hu hstep => ⟨within_step hu.1 (fun _ _ _ _ => trivial) hstep,
      identities_step hu.1 hu.2 hstep⟩) ⟨hlaunched, ?_⟩ hrun).2
  rw [launched, Callback.World.exec_client, authUsers_of_within hsplash fun _ _ => trivial]
  simp [Callback.World.start, App.launch, signedIn, Callback.World.exec]

/-- The user objects are those of the kept user and of the accepted responses, and no request ever
names another account. -/
theorem confined {server : Server Data} {keptUser : Option AuthUser} {clock : Clock}
    (hrun : EventRun.run (AppRuns.step ios) (launched server keptUser clock) es = some w) :
    w.client.authUsers.map identity = (signedIn keptUser w.journal).map identity ∧
      (∀ uid, w.client.currentUid = some uid → Admitted keptUser w.journal uid) ∧
      ∀ call ∈ w.calls, call.request.Concerns (Admitted keptUser w.journal) := by
  have hwithin := within_of_run hrun
  refine ⟨identities_of_run hrun, fun uid hu => ?_, hwithin.calls⟩
  obtain ⟨_, authUser, _, ha, rfl⟩ := App.exists_of_currentUid hu
  exact hwithin.client authUser (List.mem_of_getElem? ha)

/-- Ana was kept signed in, and the splash screen has asked for her document. -/
theorem keptRun : ∃ w w', EventRun.run (AppRuns.step Platform.transparent)
      (launched Server.empty (some Account.ana.user)) [.app (.complete 0 .success)] = some w ∧
    AppRuns.step Platform.transparent w (.app (.complete 0 .success)) = some w' ∧
    w'.journal.filterMap (fun e => e.call.request.signsIn e.response) = [] ∧
    w'.journal.filterMap (fun e => e.call.request.makes e.response) = [] :=
  ⟨_, _, rfl, rfl, rfl, rfl⟩

theorem confined_kept : ∃ w, EventRun.run (AppRuns.step Platform.transparent)
      (launched Server.empty (some Account.ana.user)) [.app (.complete 0 .success)] = some w ∧
    w.client.authUsers.map identity = (signedIn (some Account.ana.user) w.journal).map identity ∧
    (∀ uid, w.client.currentUid = some uid → Admitted (some Account.ana.user) w.journal uid) ∧
    ∀ call ∈ w.calls, call.request.Concerns (Admitted (some Account.ana.user) w.journal) := by
  obtain ⟨w, _, hrun, _⟩ := keptRun
  exact ⟨w, hrun, confined hrun⟩

end SignedInAccounts

end GiveMeMovies
