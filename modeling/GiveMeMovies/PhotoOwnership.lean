import GiveMeMovies.Managers

/-!
# Whose photo a document refers to

Any number of users sign in and out and start uploads through
`StorageManager.uploadProfileImage`, and the responses arrive in any order. The id of the
signed-in user is read when the storage path is built and again when the download address
arrives, so a photo is always stored under the id of its uploader, and every document is sent
references to its own photo exactly when at each arrival of an address the uploader is still
signed in or nobody is.
-/

namespace GiveMeMovies.PhotoOwnership

open StorageManager UserManager

variable {Image Data : Type} (ios : Platform Image Data)

inductive Act (Image : Type) where
  | signIn (user : AuthUser)
  | signOut
  | upload (place : Place) (self : Controller) (image : Image)

def act : Act Image → App Image → Option (Program Image Data)
  | .signIn user, _ => some (.modify (App.signedIn user))
  | .signOut, _ => some (.modify (fun app => { app with currentUser := none }))
  | .upload place self image, _ =>
      some (uploadProfileImage ios place self image .done (fun _ => .done))

abbrev Event (Image : Type) := Callback.Event (Act Image) (Outcome Image)

abbrev step : World Image Data → Event Image → Option (World Image Data) :=
  Callback.step (service Image Data) (act ios)

/-- The fields by which a document refers to the stored photo of `owner`. -/
def referenceTo (server : Server Data) (owner : Uid) : Fields :=
  photoFields (StorageReference.photo owner).description
    (server.urlOf (StorageReference.photo owner))

theorem referenceTo_inj {server : Server Data} {u v : Uid} :
    referenceTo server u = referenceTo server v ↔ u = v := by
  refine ⟨fun h => ?_, congrArg (referenceTo server)⟩
  have hk := congrFun h User.KEY_PHOTO_DOWNLOAD_URL
  simp only [referenceTo, photoFields, Fields.assign_self, Option.some.injEq,
    Value.string.injEq, EmbeddingLike.apply_eq_iff_eq, StorageReference.photo_inj] at hk
  exact hk

/-- A write of `fields` into `users/uid` has been sent, whether or not it was answered. -/
def Sent (w : World Image Data) (uid : Uid) (fields : Fields) : Prop :=
  ∃ call ∈ w.calls, ∃ merge, call.request = .setData uid fields merge

/-- Every document is sent references to its own photo only. -/
def OwnPhotosOnly (w : World Image Data) : Prop :=
  ∀ uid fields, Sent w uid fields → fields = referenceTo w.server uid

/-- The event brings the download address of the photo of `owner`. -/
def AddressArrives (w : World Image Data) (e : Event Image) (owner : Uid) : Prop :=
  ∃ n outcome p, e = .complete n outcome ∧ w.inFlight[n]? = some p ∧
    p.call.request = .downloadURL (.photo owner) ∧
    p.call.request.SucceedsUnder outcome w.server

/-- Whenever the address of a photo arrives, its uploader is signed in or nobody is. -/
def UploaderSignedIn (w : World Image Data) (e : Event Image) : Prop :=
  ∀ owner, AddressArrives w e owner →
    w.client.currentUid = none ∨ w.client.currentUid = some owner

/-! ## What is in flight -/

/-- The stored photo of `owner` is one for which `U` holds. -/
def Holds (U : Uid → Data → Prop) (server : Server Data) (owner : Uid) : Prop :=
  ∃ data, server.objects (.photo owner) = some data ∧ U owner data

/-- The stages of an upload, where `U` says which data are uploaded for whom. -/
inductive Stage (U : Uid → Data → Prop) (server : Server Data) : Pending Image Data → Prop
  | put (place : Place) (self : Controller) (owner : Uid) (data : Data) (hU : U owner data) :
      Stage U server ⟨⟨place, self, .putData (.photo owner) data⟩,
        putDataHandler place self (.photo owner) .done (fun _ => .done)⟩
  | address (place : Place) (self : Controller) (owner : Uid) (hU : Holds U server owner) :
      Stage U server ⟨⟨place, self, .downloadURL (.photo owner)⟩,
        downloadURLHandler self (.photo owner) .done (fun _ => .done)⟩
  | save (self : Controller) (uid owner : Uid) (hU : Holds U server owner) :
      Stage U server ⟨⟨.savePhotoReference, self, .setData uid (referenceTo server owner) true⟩,
        fun _ => .done⟩

structure Traced (U : Uid → Data → Prop) (w : World Image Data) : Prop where
  stage : ∀ p ∈ w.inFlight, Stage U w.server p
  sent : ∀ uid fields, Sent w uid fields →
    ∃ owner, fields = referenceTo w.server owner ∧ Holds U w.server owner

variable {ios} {U U' : Uid → Data → Prop} {w w' : World Image Data}

theorem Holds.commit {server : Server Data} {p : Pending Image Data} {owner : Uid}
    (hp : Stage U server p) (a : p.call.Response Image) (h : Holds U server owner) :
    Holds U (p.call.request.commit a server) owner := by
  cases hp with
  | put place self uploader data hU =>
      cases a with
      | some error => exact h
      | none =>
          by_cases ho : owner = uploader
          · subst ho
            exact ⟨data, by simp [Request.commit, Server.setObject], hU⟩
          · obtain ⟨old, hold, hU'⟩ := h
            refine ⟨old, ?_, hU'⟩
            simpa [Request.commit, Server.setObject, Function.update_apply, ho] using hold
  | address place self uploader hU => exact h
  | save self uid uploader hU =>
      cases a with
      | some error => exact h
      | none => exact h

theorem Stage.mono {server server' : Server Data} (hurl : server'.urlOf = server.urlOf)
    (hU : ∀ owner data, U owner data → U' owner data)
    (hH : ∀ owner, Holds U server owner → Holds U' server' owner) {p : Pending Image Data}
    (h : Stage U server p) : Stage U' server' p := by
  cases h with
  | put place self owner data h => exact .put place self owner data (hU owner data h)
  | address place self owner h => exact .address place self owner (hH owner h)
  | save self uid owner h =>
      have href : referenceTo server owner = referenceTo server' owner := by
        simp only [referenceTo, hurl]
      rw [href]
      exact .save self uid owner (hH owner h)

theorem Holds.mono {server : Server Data} {owner : Uid}
    (hU : ∀ owner data, U owner data → U' owner data) (h : Holds U server owner) :
    Holds U' server owner := by
  obtain ⟨data, hd, h⟩ := h
  exact ⟨data, hd, hU owner data h⟩

/-! ## What a step sends -/

theorem not_sent_of_act {e : Act Image} {app : App Image} {p : Program Image Data}
    (hp : act ios e app = some p) {q : Pending Image Data} (hq : q ∈ (p.run app).2)
    {uid : Uid} {fields : Fields} {merge : Bool} : q.call.request ≠ .setData uid fields merge := by
  cases e with
  | signIn user => cases hp; simp at hq
  | signOut => cases hp; simp at hq
  | upload place self image =>
      cases hp
      rw [run_uploadProfileImage] at hq
      split at hq
      · rw [List.mem_singleton.mp hq]
        exact nofun
      · exact absurd hq List.not_mem_nil

/-- The writes that the arrival of a response causes. -/
theorem sent_of_complete {n : ℕ} {outcome : Outcome Image} {p : Pending Image Data}
    (hp : w.inFlight[n]? = some p) (hstage : Stage U w.server p) {uid : Uid} {fields : Fields} :
    (∃ q ∈ ((p.handler (p.call.request.reply outcome w.server)).run w.client).2,
        ∃ merge, q.call.request = .setData uid fields merge) ↔
      ∃ owner, AddressArrives w (.complete n outcome) owner ∧ w.client.currentUid = some uid ∧
        fields = referenceTo w.server owner := by
  have harrive (owner : Uid) : AddressArrives w (.complete n outcome) owner ↔
      p.call.request = .downloadURL (.photo owner) ∧
        p.call.request.SucceedsUnder outcome w.server := by
    constructor
    · rintro ⟨m, o, p', he, hp', h⟩
      cases he
      rw [hp] at hp'
      cases hp'
      exact h
    · rintro ⟨h, hs⟩
      exact ⟨n, outcome, p, rfl, hp, h, hs⟩
  simp only [harrive]
  cases hstage with
  | put place self uploader data hU =>
      dsimp only
      cases (Request.putData (.photo uploader) data).reply outcome w.server with
      | none => simp [putDataHandler]
      | some error => simp [putDataHandler]
  | save self uid' uploader hU => simp
  | address place self uploader hU =>
      dsimp only
      cases hr : (Request.downloadURL (.photo uploader)).reply outcome w.server with
      | error error =>
          simp [downloadURLHandler, Request.SucceedsUnder, Request.Succeeded, hr]
      | ok url =>
          have hurl := Request.url_of_downloadURL_ok hr
          cases hu : w.client.currentUid with
          | none => simp [downloadURLHandler, run_savePhotoReferenceForUser, hu]
          | some uid' =>
              have hrun : ((downloadURLHandler self (.photo uploader) .done (fun _ => .done)
                  (.ok url) : Program Image Data).run w.client).2 =
                  [⟨⟨.savePhotoReference, self,
                    .setData uid' (referenceTo w.server uploader) true⟩, fun _ => .done⟩] := by
                simp [downloadURLHandler, run_savePhotoReferenceForUser, hu, referenceTo, hurl]
              have hok : (Request.downloadURL (.photo uploader)).SucceedsUnder outcome
                  w.server := ⟨url, hr⟩
              rw [hrun]
              constructor
              · rintro ⟨q, hq, merge, h⟩
                rw [List.mem_singleton.mp hq] at h
                cases h
                exact ⟨uploader, ⟨rfl, hok⟩, rfl, rfl⟩
              · rintro ⟨owner, ⟨h, _⟩, hu', rfl⟩
                have ho : uploader = owner := by simpa using h
                cases hu'
                exact ⟨_, List.mem_singleton_self _, true, by rw [ho]⟩

/-- A failed request may sign the user out, but its handler sends nothing. -/
theorem Stage.run_received {server : Server Data} {p : Pending Image Data}
    (hp : Stage U server p) (a : p.call.Response Image) (app : App Image) :
    ((p.handler a).run ((service Image Data).receive p.call a app)).2 =
      ((p.handler a).run app).2 := by
  cases hp with
  | put place self owner data hU => cases a <;> rfl
  | address place self owner hU => cases a <;> rfl
  | save self uid owner hU => rfl

theorem Traced.sent_step (h : Traced U w) {e : Event Image} (hstep : step ios w e = some w')
    {uid : Uid} {fields : Fields} :
    Sent w' uid fields ↔ Sent w uid fields ∨
      ∃ owner, AddressArrives w e owner ∧ w.client.currentUid = some uid ∧
        fields = referenceTo w.server owner := by
  cases e with
  | act e =>
      obtain ⟨p, hp, rfl⟩ := (Callback.step_act _ _).mp hstep
      have hno : ∀ owner, ¬ AddressArrives w (.act e) owner := by
        rintro owner ⟨n, o, p, he, _⟩
        cases he
      constructor
      · rintro ⟨call, hc, merge, hm⟩
        rcases Callback.World.mem_calls_exec.mp hc with hc | ⟨q, hq, rfl⟩
        · exact Or.inl ⟨call, hc, merge, hm⟩
        · exact absurd hm (not_sent_of_act hp hq)
      · rintro (⟨call, hc, merge, hm⟩ | ⟨owner, ho, _⟩)
        · exact ⟨call, Callback.World.mem_calls_exec.mpr (Or.inl hc), merge, hm⟩
        · exact absurd ho (hno owner)
  | complete n outcome =>
      obtain ⟨p, hp, rfl⟩ := (Callback.step_complete _ _).mp hstep
      have hstage := h.stage p (List.mem_of_getElem? hp)
      have hreceived := hstage.run_received
        ((service Image Data).reply p.call outcome w.server) w.client
      rw [← sent_of_complete hp hstage]
      simp only [Sent, Callback.World.mem_calls_respond _ hp, hreceived]
      constructor
      · rintro ⟨call, hc | ⟨q, hq, rfl⟩, hm⟩
        · exact Or.inl ⟨call, hc, hm⟩
        · exact Or.inr ⟨q, hq, hm⟩
      · rintro (⟨call, hc, hm⟩ | ⟨q, hq, hm⟩)
        · exact ⟨call, Or.inl hc, hm⟩
        · exact ⟨q.call, Or.inr ⟨q, hq, rfl⟩, hm⟩

/-! ## The step of an upload -/

theorem stage_of_act {server : Server Data} {e : Act Image} {app : App Image}
    {p : Program Image Data} (hp : act ios e app = some p)
    (hup : ∀ place self image owner data, e = .upload place self image →
      app.currentUid = some owner → ios.jpegData image (1 / 2) = some data → U owner data)
    {q : Pending Image Data} (hq : q ∈ (p.run app).2) : Stage U server q := by
  cases e with
  | signIn user => cases hp; simp at hq
  | signOut => cases hp; simp at hq
  | upload place self image =>
      cases hp
      rw [run_uploadProfileImage] at hq
      split at hq
      next owner data hu hd =>
        rw [List.mem_singleton.mp hq]
        exact .put place self owner data (hup place self image owner data rfl hu hd)
      next => exact absurd hq List.not_mem_nil

theorem Stage.next {server : Server Data} {outcome : Outcome Image} {p : Pending Image Data}
    (hp : Stage U server p) {app : App Image} {q : Pending Image Data}
    (hq : q ∈ ((p.handler (p.call.request.reply outcome server)).run app).2) :
    Stage U (p.call.request.commit (p.call.request.reply outcome server) server) q := by
  cases hp with
  | save self uid owner hU => exact absurd hq List.not_mem_nil
  | put place self owner data hU =>
      dsimp only at hq ⊢
      cases hr : (Request.putData (.photo owner) data).reply outcome server with
      | some error => simp [hr, putDataHandler] at hq
      | none =>
          rw [hr] at hq
          rw [List.mem_singleton.mp hq]
          refine .address place self owner ⟨data, ?_, hU⟩
          simp [Request.commit, Server.setObject]
  | address place self owner hU =>
      dsimp only at hq ⊢
      cases hr : (Request.downloadURL (.photo owner)).reply outcome server with
      | error error => simp [hr, downloadURLHandler] at hq
      | ok url =>
          rw [hr] at hq
          simp only [downloadURLHandler, Callback.Prog.run_append, run_savePhotoReferenceForUser,
            Callback.Prog.run_done, List.append_nil] at hq
          split at hq
          next uid hu =>
            rw [List.mem_singleton.mp hq, Request.url_of_downloadURL_ok hr]
            exact .save self uid owner hU
          next => exact absurd hq List.not_mem_nil

theorem Traced.sent_holds (h : Traced U w) {e : Event Image} (hstep : step ios w e = some w')
    {uid : Uid} {fields : Fields} (hs : Sent w' uid fields) :
    ∃ owner, fields = referenceTo w.server owner ∧ Holds U w.server owner := by
  rcases (h.sent_step hstep).mp hs with hs | ⟨owner, ⟨n, o, p, rfl, hp, hr, _⟩, _, hf⟩
  · exact h.sent uid fields hs
  · refine ⟨owner, hf, ?_⟩
    cases h.stage p (List.mem_of_getElem? hp) with
    | put => cases hr
    | save => cases hr
    | address place self uploader ho =>
        have he : uploader = owner := by simpa using hr
        exact he ▸ ho

theorem Traced.step (h : Traced U w) {e : Event Image}
    (hstep : step ios w e = some w') (hU : ∀ owner data, U owner data → U' owner data)
    (hup : ∀ place self image owner data, e = .act (.upload place self image) →
      w.client.currentUid = some owner → ios.jpegData image (1 / 2) = some data →
      U' owner data) : Traced U' w' := by
  have hsent : ∀ uid fields, Sent w' uid fields → _ := fun _ _ => h.sent_holds hstep
  cases e with
  | act e =>
      obtain ⟨p, hp, rfl⟩ := (Callback.step_act _ _).mp hstep
      have hH : ∀ owner, Holds U w.server owner → Holds U' w.server owner :=
        fun owner => Holds.mono hU
      constructor
      · intro q hq
        rcases List.mem_append.mp hq with hq | hq
        · exact (h.stage q hq).mono rfl hU hH
        · exact stage_of_act hp (fun place self image owner data he =>
            hup place self image owner data (congrArg Callback.Event.act he)) hq
      · intro uid fields hs
        obtain ⟨owner, hf, ho⟩ := hsent uid fields hs
        exact ⟨owner, hf, hH owner ho⟩
  | complete n outcome =>
      obtain ⟨p, hp, rfl⟩ := (Callback.step_complete _ _).mp hstep
      have hstage := h.stage p (List.mem_of_getElem? hp)
      have hurl : (w.respond (service Image Data) n p
          ((service Image Data).reply p.call outcome w.server)).server.urlOf = w.server.urlOf :=
        Request.urlOf_commit _ _ _
      have hH : ∀ owner, Holds U w.server owner → Holds U' (w.respond (service Image Data) n p
          ((service Image Data).reply p.call outcome w.server)).server owner :=
        fun owner ho => (ho.commit hstage _).mono hU
      have href (owner : Uid) : referenceTo (w.respond (service Image Data) n p
          ((service Image Data).reply p.call outcome w.server)).server owner =
          referenceTo w.server owner := by
        simp only [referenceTo, hurl]
      constructor
      · intro q hq
        rcases Callback.World.mem_inFlight_respond _ hq with hq | hq
        · exact (h.stage q hq).mono hurl hU hH
        · exact (hstage.next hq).mono rfl hU (fun owner => Holds.mono hU)
      · intro uid fields hs
        obtain ⟨owner, hf, ho⟩ := hsent uid fields hs
        exact ⟨owner, hf.trans (href owner).symm, hH owner ho⟩

/-! ## Runs -/

variable (ios) in
/-- `owner` was signed in when an upload of `data` started. -/
def Uploaded (w₀ : World Image Data) (es : List (Event Image)) (owner : Uid) (data : Data) :
    Prop :=
  ∃ fs gs place self image w, es = fs ++ .act (.upload place self image) :: gs ∧
    EventRun.run (step ios) w₀ fs = some w ∧ w.client.currentUid = some owner ∧
    ios.jpegData image (1 / 2) = some data

theorem Uploaded.append {w₀ : World Image Data} {es : List (Event Image)} {owner : Uid}
    {data : Data} (h : Uploaded ios w₀ es owner data) (e : Event Image) :
    Uploaded ios w₀ (es ++ [e]) owner data := by
  obtain ⟨fs, gs, place, self, image, w, rfl, h⟩ := h
  exact ⟨fs, gs ++ [e], place, self, image, w, by simp, h⟩

theorem traced_start (server : Server Data) (app : App Image) :
    Traced U (.start server app) := by
  constructor
  · intro p hp
    exact absurd hp List.not_mem_nil
  · rintro uid fields ⟨call, hc, _⟩
    exact absurd hc List.not_mem_nil

theorem traced_run {server : Server Data} {app : App Image} {es : List (Event Image)}
    (hrun : EventRun.run (step ios) (.start server app) es = some w) :
    Traced (Uploaded ios (.start server app) es) w := by
  refine EventRun.run_trace_invariant
    (I := fun es w => Traced (Uploaded ios (.start server app) es) w)
    (traced_start server app) ?_ hrun
  intro es e w₁ w₂ h₁ h hstep
  refine h.step hstep (fun owner data hU => hU.append e) ?_
  rintro place self image owner data rfl hu hd
  exact ⟨es, [], place, self, image, w₁, rfl, h₁, hu, hd⟩

theorem ownPhotosOnly_step (h : Traced U w) (hown : OwnPhotosOnly w) {e : Event Image}
    (hstep : step ios w e = some w') : OwnPhotosOnly w' ↔ UploaderSignedIn w e := by
  have hserver (uid : Uid) : referenceTo w'.server uid = referenceTo w.server uid := by
    cases e with
    | act e =>
        obtain ⟨p, _, rfl⟩ := (Callback.step_act _ _).mp hstep
        rfl
    | complete n outcome =>
        obtain ⟨p, _, rfl⟩ := (Callback.step_complete _ _).mp hstep
        simp only [referenceTo]
        rw [show (w.respond (service Image Data) n p _).server.urlOf = w.server.urlOf from
          Request.urlOf_commit _ _ _]
  simp only [OwnPhotosOnly, hserver, h.sent_step hstep]
  constructor
  · intro h' owner ho
    cases hu : w.client.currentUid with
    | none => exact Or.inl rfl
    | some uid =>
        have href := h' uid _ (Or.inr ⟨owner, ho, hu, rfl⟩)
        rw [referenceTo_inj.mp href]
        exact Or.inr rfl
  · rintro hc uid fields (hs | ⟨owner, ho, hu, rfl⟩)
    · exact hown uid fields hs
    · rcases hc owner ho with hn | hn
      · rw [hu] at hn
        cases hn
      · rw [hu] at hn
        cases hn
        rfl

/-- A run sends every document references to its own photo only, if and only if at each arrival
of an address the uploader is signed in or nobody is. The stored photo that a reference names
was always uploaded while the user it is stored for was signed in. -/
theorem ownPhotosOnly_iff_uploaderSignedIn (ios : Platform Image Data) (server : Server Data)
    (app : App Image) (es : List (Event Image)) :
    (EventRun.AllStates (step ios) OwnPhotosOnly (.start server app) es ↔
      EventRun.AllSteps (step ios) UploaderSignedIn (.start server app) es) ∧
    ∀ w, EventRun.run (step ios) (.start server app) es = some w →
      ∀ uid fields, Sent w uid fields →
        ∃ owner data, fields = referenceTo w.server owner ∧
          w.server.objects (.photo owner) = some data ∧
          Uploaded ios (.start server app) es owner data := by
  constructor
  · refine EventRun.allStates_iff_allSteps (I := Traced (fun _ _ => True)) ?_ ?_
      (traced_start server app) ?_
    · intro w e w' h hstep
      exact h.step hstep (fun _ _ h => h) (fun _ _ _ _ _ _ _ _ => trivial)
    · intro w e w' h hown hstep
      exact ownPhotosOnly_step h hown hstep
    · rintro uid fields ⟨call, hc, _⟩
      exact absurd hc List.not_mem_nil
  · intro w hrun uid fields hs
    obtain ⟨owner, hf, data, hd, hU⟩ := (traced_run hrun).sent uid fields hs
    exact ⟨owner, data, hf, hd, hU⟩

/-- Ana starts an upload and signs out, and Ben signs in before its address arrives. -/
def handover : List (Event ℕ) :=
  [.act (.signIn Account.ana.user),
    .act (.upload .informationLibrary ⟨1, .profileInformation⟩ 1), .complete 0 .success,
    .act .signOut, .act (.signIn Account.ben.user), .complete 0 .success]

theorem handover_refers_to_other_photo :
    ¬ EventRun.AllStates (step Platform.transparent) OwnPhotosOnly
      (.start Server.empty (App.launch none)) handover := by
  intro h
  have hne : Account.ben.uid ≠ Account.ana.uid := by decide
  obtain ⟨w, hw, hsent⟩ : ∃ w, EventRun.run (step Platform.transparent)
      (.start Server.empty (App.launch none)) handover = some w ∧
      Sent w Account.ben.uid (referenceTo w.server Account.ana.uid) :=
    ⟨_, rfl, _, List.mem_cons_self, true, rfl⟩
  exact hne (referenceTo_inj.mp ((h.last hw) Account.ben.uid _ hsent).symm)

end GiveMeMovies.PhotoOwnership
