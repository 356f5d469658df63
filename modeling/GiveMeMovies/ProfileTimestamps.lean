import GiveMeMovies.DocumentWrites
import GiveMeMovies.Registration

/-!
# The timestamps of a profile

A registration stamps the date of creation after the date of the update, a save of the texts
stamps both anew, and a save of the photo stamps the update with a date from before the upload.
So the dates are in order only while every write that succeeds carries fitting ones.
-/

namespace GiveMeMovies.ProfileTimestamps

open AppRuns AppRequests Journal UserManager

variable {Image Data : Type}

/-- The date of creation that an answered request created `users/uid` with. -/
def creation (uid : Uid) : Entry Image Data → Option (Option Value)
  | ⟨⟨_, _, .setData uid' fields _⟩, none⟩ =>
      if uid' = uid then some (fields User.KEY_CREATED_AT) else none
  | _ => none

/-- The date of creation that `users/uid` was first created with, at the latest before the
launch. -/
def createdWith (before : Server Data) (uid : Uid) (journal : Journal Image Data) :
    Option (Option Value) :=
  ((before.docs uid).map fun doc => doc User.KEY_CREATED_AT).or (journal.findSome? (creation uid))

/-- Where both dates are there, they are in order and the first is that of the creation. -/
def InOrder (server : Server Data) (uid : Uid) (created : Option (Option Value)) : Prop :=
  ∀ c u, server.field uid User.KEY_CREATED_AT = some (.timestamp c) →
    server.field uid User.KEY_UPDATED_AT = some (.timestamp u) →
    c ≤ u ∧ created = some (some (.timestamp c))

/-- The value that a request writes to a field of `users/uid`. -/
def carried (uid : Uid) (key : String) : Request Data → Option Value
  | .setData uid' fields _ | .updateData uid' fields => if uid' = uid then fields key else none
  | _ => none

/-- A request that carries both dates carries them in order, with the date of the creation if
there was one, and one that carries an update alone carries no date before the stored one. -/
structure Fits (server : Server Data) (uid : Uid) (created : Option (Option Value))
    (request : Request Data) : Prop where
  both : ∀ c u, carried uid User.KEY_CREATED_AT request = some (.timestamp c) →
    carried uid User.KEY_UPDATED_AT request = some (.timestamp u) →
    c ≤ u ∧ created.getD (some (.timestamp c)) = some (.timestamp c)
  update : ∀ c u, carried uid User.KEY_CREATED_AT request = none →
    carried uid User.KEY_UPDATED_AT request = some (.timestamp u) →
    server.field uid User.KEY_CREATED_AT = some (.timestamp c) → c ≤ u

/-- What the event writes with success carries fitting dates. -/
def WritesFit (before : Server Data) (uid : Uid) (w : World Image Data) (e : OwnEvent Image) :
    Prop :=
  ∀ n outcome p, e = .app (.complete n outcome) → w.inFlight[n]? = some p →
    p.call.request.SucceedsUnder outcome w.server →
    Fits w.server uid (createdWith before uid w.journal) p.call.request

/-- What the clock readings of a request that writes the document have to be, by its writer. -/
structure ReadingsFit (Image : Type) (server : Server Data) (uid : Uid)
    (created : Option (Option Value)) (request : Request Data) : Prop where
  registration : ∀ (form : RegisterFields Image) (clock : Clock),
    request = .setData uid (RegisterViewController.savedUser uid form clock).parameters false →
    clock.date 1 = clock.date 2 ∧
      created.getD (some (.timestamp (clock.date 2))) = some (.timestamp (clock.date 2))
  texts : ∀ (form : ProfileForm Image) (clock : Clock),
    request = .updateData uid (ProfileInformationViewController.formUser uid form (clock.date 0)
      (clock.date 1)).parameters →
    created.getD (some (.timestamp (clock.date 0))) = some (.timestamp (clock.date 0))
  photo : ∀ (now : Date) (url : String),
    request = .updateData uid
      (ProfileInformationViewController.photoUser uid now url).parameters →
    ∀ c, server.field uid User.KEY_CREATED_AT = some (.timestamp c) → c ≤ now

/-- What the event writes with success carries fitting readings of the clock. -/
def WritesReadings (before : Server Data) (uid : Uid) (w : World Image Data) (e : OwnEvent Image) :
    Prop :=
  ∀ n outcome p, e = .app (.complete n outcome) → w.inFlight[n]? = some p →
    p.call.request.SucceedsUnder outcome w.server →
    ReadingsFit Image w.server uid (createdWith before uid w.journal) p.call.request

/-- A document with a date of creation also has a date of the update, after it. -/
def Stamped (server : Server Data) (uid : Uid) : Prop :=
  ∀ value, server.field uid User.KEY_CREATED_AT = some value → ∃ c u,
    value = .timestamp c ∧ server.field uid User.KEY_UPDATED_AT = some (.timestamp u) ∧ c ≤ u

variable {ios : Platform Image Data} {before : Server Data} {uid : Uid} {w : World Image Data}

theorem createdWith_concat (journal : Journal Image Data) (e : Entry Image Data) :
    createdWith before uid (journal ++ [e]) =
      (createdWith before uid journal).or (creation uid e) := by
  rw [createdWith, createdWith, List.findSome?_append, Option.or_assoc]
  congr 2
  rw [List.findSome?_singleton]

/-! ## What one write does to the dates -/

/-- What a successful request does to the dates, where `created` is what it created the document
with, if it may have. -/
inductive Effect (server after : Server Data) (uid : Uid) (request : Request Data)
    (created : Option (Option Value)) : Prop
  | both (c u : Date)
      (carriesCreated : carried uid User.KEY_CREATED_AT request = some (.timestamp c))
      (carriesUpdated : carried uid User.KEY_UPDATED_AT request = some (.timestamp u))
      (createdAt : after.field uid User.KEY_CREATED_AT = some (.timestamp c))
      (updatedAt : after.field uid User.KEY_UPDATED_AT = some (.timestamp u))
      (source : created = some (some (.timestamp c)) ∨ created = none ∧ server.docs uid ≠ none)
  | update (u : Date) (carriesCreated : carried uid User.KEY_CREATED_AT request = none)
      (carriesUpdated : carried uid User.KEY_UPDATED_AT request = some (.timestamp u))
      (createdAt : after.field uid User.KEY_CREATED_AT = server.field uid User.KEY_CREATED_AT)
      (updatedAt : after.field uid User.KEY_UPDATED_AT = some (.timestamp u))
      (source : created = none ∧ server.docs uid ≠ none)
  | kept (carriesCreated : carried uid User.KEY_CREATED_AT request = none)
      (carriesUpdated : carried uid User.KEY_UPDATED_AT request = none)
      (createdAt : after.field uid User.KEY_CREATED_AT = server.field uid User.KEY_CREATED_AT)
      (updatedAt : after.field uid User.KEY_UPDATED_AT = server.field uid User.KEY_UPDATED_AT)
      (source : after.docs uid ≠ none → created ≠ none ∨ server.docs uid ≠ none)
  | removed (carriesCreated : carried uid User.KEY_CREATED_AT request = none)
      (carriesUpdated : carried uid User.KEY_UPDATED_AT request = none)
      (docs : after.docs uid = none)

theorem docs_of_field {server : Server Data} {key : String} {value : Value}
    (h : server.field uid key = some value) : server.docs uid ≠ none := by
  intro hnone
  rw [Server.field, hnone] at h
  cases h

theorem carried_setData (key : String) (fields : Fields) (merge : Bool) :
    carried uid key (.setData uid fields merge : Request Data) = fields key := if_pos rfl

theorem carried_updateData (key : String) (fields : Fields) :
    carried uid key (.updateData uid fields : Request Data) = fields key := if_pos rfl

theorem carried_of_target_ne {request : Request Data} (h : target request ≠ some uid)
    (key : String) : carried uid key request = none := by
  cases request with
  | setData uid' fields merge => exact if_neg fun hu => h (congrArg some hu)
  | updateData uid' fields => exact if_neg fun hu => h (congrArg some hu)
  | _ => rfl

section Writes

variable (server : Server Data) (user : User)

variable (Image) in
theorem effect_replaced {c u : Date} (hc : user.createdAt = some c) (hu : user.updatedAt = some u) :
    Effect server (@Request.commit Data Image (.setData uid user.parameters false) none server) uid
      (.setData uid user.parameters false) (some (user.parameters User.KEY_CREATED_AT)) := by
  have hcreated : user.parameters User.KEY_CREATED_AT = some (.timestamp c) := by
    rw [User.parameters_createdAt, hc]
    rfl
  have hupdated : user.parameters User.KEY_UPDATED_AT = some (.timestamp u) := by
    rw [User.parameters_updatedAt, hu]
    rfl
  apply Effect.both c u
  · rw [carried_setData, hcreated]
  · rw [carried_setData, hupdated]
  · rw [field_replaced, hcreated]
  · rw [field_replaced, hupdated]
  · rw [hcreated]
    exact Or.inl rfl

variable (Image) in
theorem effect_updated {u : Date} (hu : user.updatedAt = some u) (hdoc : server.docs uid ≠ none) :
    Effect server (@Request.commit Data Image (.updateData uid user.parameters) none server) uid
      (.updateData uid user.parameters) none := by
  have hupdated : user.parameters User.KEY_UPDATED_AT = some (.timestamp u) := by
    rw [User.parameters_updatedAt, hu]
    rfl
  have hcreated := User.parameters_createdAt user
  cases hc : user.createdAt with
  | none =>
      rw [hc] at hcreated
      apply Effect.update u
      · rw [carried_updateData, hcreated]
        rfl
      · rw [carried_updateData, hupdated]
      · rw [field_updated, hcreated]
        rfl
      · rw [field_updated, hupdated]
        rfl
      · exact ⟨rfl, hdoc⟩
  | some c =>
      rw [hc] at hcreated
      apply Effect.both c u
      · rw [carried_updateData, hcreated]
        rfl
      · rw [carried_updateData, hupdated]
      · rw [field_updated, hcreated]
        rfl
      · rw [field_updated, hupdated]
        rfl
      · exact Or.inr ⟨rfl, hdoc⟩

end Writes

/-! ## What fits -/

section Fits

variable {request : Request Data} {known : Option (Option Value)} {server : Server Data}

theorem fits_both {c u : Date}
    (hc : carried uid User.KEY_CREATED_AT request = some (.timestamp c))
    (hu : carried uid User.KEY_UPDATED_AT request = some (.timestamp u)) :
    Fits server uid known request ↔
      c ≤ u ∧ known.getD (some (.timestamp c)) = some (.timestamp c) := by
  constructor
  · exact fun h => h.both c u hc hu
  · intro h
    constructor
    · intro c' u' hc' hu'
      cases hc.symm.trans hc'
      cases hu.symm.trans hu'
      exact h
    · intro c' u' hc'
      cases hc.symm.trans hc'

theorem fits_update {u : Date} (hc : carried uid User.KEY_CREATED_AT request = none)
    (hu : carried uid User.KEY_UPDATED_AT request = some (.timestamp u)) :
    Fits server uid known request ↔
      ∀ c, server.field uid User.KEY_CREATED_AT = some (.timestamp c) → c ≤ u := by
  constructor
  · exact fun h c hstored => h.update c u hc hu hstored
  · intro h
    constructor
    · intro c' u' hc'
      cases hc.symm.trans hc'
    · intro c' u' _ hu' hstored
      cases hu.symm.trans hu'
      exact h c' hstored

theorem fits_undated (hc : carried uid User.KEY_CREATED_AT request = none)
    (hu : carried uid User.KEY_UPDATED_AT request = none) : Fits server uid known request := by
  constructor
  · intro c u hc'
    cases hc.symm.trans hc'
  · intro c u _ hu'
    cases hu.symm.trans hu'

/-- The clock is not set back, so a registration fits only if it stood still. -/
theorem fits_registration (form : RegisterFields Image) (clock : Clock) :
    Fits server uid known (.setData uid
        (RegisterViewController.savedUser uid form clock).parameters false : Request Data) ↔
      clock.date 1 = clock.date 2 ∧
        known.getD (some (.timestamp (clock.date 2))) = some (.timestamp (clock.date 2)) := by
  have hmono := clock.mono 1 2 (by omega)
  rw [fits_both (c := clock.date 2) (u := clock.date 1)]
  · apply and_congr_left'
    constructor
    · exact fun h => le_antisymm hmono h
    · exact fun h => h.ge
  · rw [carried_setData, User.parameters_createdAt]
    rfl
  · rw [carried_setData, User.parameters_updatedAt]
    rfl

/-- The dates of a save of the texts are in order, but the first is not that of the creation. -/
theorem fits_texts (form : ProfileForm Image) (clock : Clock) :
    Fits server uid known (.updateData uid (ProfileInformationViewController.formUser uid form
        (clock.date 0) (clock.date 1)).parameters : Request Data) ↔
      known.getD (some (.timestamp (clock.date 0))) = some (.timestamp (clock.date 0)) := by
  have hmono := clock.mono 0 1 (by omega)
  rw [fits_both (c := clock.date 0) (u := clock.date 1)]
  · exact and_iff_right hmono
  · rw [carried_updateData, User.parameters_createdAt]
    rfl
  · rw [carried_updateData, User.parameters_updatedAt]
    rfl

/-- A save of the photo keeps the date of creation. -/
theorem fits_photo (now : Date) (url : String) :
    Fits server uid known (.updateData uid
        (ProfileInformationViewController.photoUser uid now url).parameters : Request Data) ↔
      ∀ c, server.field uid User.KEY_CREATED_AT = some (.timestamp c) → c ≤ now := by
  apply fits_update
  · rw [carried_updateData, User.parameters_createdAt]
    rfl
  · rw [carried_updateData, User.parameters_updatedAt]
    rfl

/-- Each writer fits exactly if its readings of the clock do. -/
theorem fits_iff_readingsFit {urlOf : StorageReference → String} {p : Pending Image Data}
    (hp : Known ios urlOf everyCall p) :
    Fits server uid known p.call.request ↔ ReadingsFit Image server uid known p.call.request := by
  constructor
  · intro h
    constructor
    · intro form clock hrequest
      exact (fits_registration form clock).mp (hrequest ▸ h)
    · intro form clock hrequest
      exact (fits_texts form clock).mp (hrequest ▸ h)
    · intro now url hrequest
      exact (fits_photo now url).mp (hrequest ▸ h)
  · intro h
    by_cases ht : target p.call.request = some uid
    · obtain ⟨call, handler⟩ := p
      have hwrite : DocumentWrite Image urlOf uid call := hp.documentWrite ht
      cases hwrite with
      | registerUser self form clock =>
          exact (fits_registration form clock).mpr (h.registration form clock rfl)
      | photoReference self owner =>
          apply fits_undated
          · exact carried_setData _ _ _
          · exact carried_setData _ _ _
      | savePhoto self now => exact (fits_photo now _).mpr (h.photo now _ rfl)
      | saveTexts self form clock => exact (fits_texts form clock).mpr (h.texts form clock rfl)
      | deletion place self => exact fits_undated rfl rfl
    · exact fits_undated (carried_of_target_ne ht _) (carried_of_target_ne ht _)

end Fits

theorem effect_write {urlOf : StorageReference → String} {server : Server Data} {call : Call Data}
    (h : DocumentWrite Image urlOf uid call) {a : call.Response Image}
    (hs : call.request.Succeeded a)
    (hfound : ∀ fields, call.request = .updateData uid fields → server.docs uid ≠ none) :
    Effect server (call.request.commit a server) uid call.request (creation uid ⟨call, a⟩) := by
  cases h with
  | registerUser self form clock =>
      cases a with
      | some error => cases hs
      | none =>
          rw [creation, if_pos rfl]
          exact effect_replaced Image server _ rfl rfl
  | photoReference self owner =>
      cases a with
      | some error => cases hs
      | none =>
          apply Effect.kept
          · exact carried_setData _ _ _
          · exact carried_setData _ _ _
          · exact field_merged Image server uid _ _
          · exact field_merged Image server uid _ _
          · intro _
            apply Or.inl
            change (if uid = uid then some _ else none) ≠ none
            rw [if_pos rfl]
            nofun
  | savePhoto self now =>
      cases a with
      | some error => cases hs
      | none => exact effect_updated Image server _ rfl (hfound _ rfl)
  | saveTexts self form clock =>
      cases a with
      | some error => cases hs
      | none => exact effect_updated Image server _ rfl (hfound _ rfl)
  | deletion place self =>
      cases a with
      | some error => cases hs
      | none => exact .removed rfl rfl (by simp [Request.commit, Server.setDoc])

/-! ## Runs -/

/-- A document with a date of creation has one of the update, and what a document was created
with is known. -/
structure Recorded (server : Server Data) (uid : Uid) (created : Option (Option Value)) : Prop where
  stamped : ∀ value, server.field uid User.KEY_CREATED_AT = some value →
    ∃ u, server.field uid User.KEY_UPDATED_AT = some (.timestamp u)
  created : server.docs uid ≠ none → created ≠ none

variable {server after : Server Data} {request : Request Data}
  {known created : Option (Option Value)}

theorem Effect.recorded (h : Effect server after uid request created)
    (hknown : Recorded server uid known) : Recorded after uid (known.or created) := by
  have hcreated (hsource : created ≠ none ∨ server.docs uid ≠ none) : known.or created ≠ none := by
    intro hnone
    obtain ⟨hknownNone, hcreatedNone⟩ := Option.or_eq_none_iff.mp hnone
    rcases hsource with hsource | hdoc
    · exact hsource hcreatedNone
    · exact hknown.created hdoc hknownNone
  cases h with
  | both c u _ _ createdAt updatedAt source =>
      refine ⟨fun _ _ => ⟨u, updatedAt⟩, fun _ => hcreated ?_⟩
      rcases source with hsource | ⟨_, hdoc⟩
      · exact Or.inl (by rw [hsource]; nofun)
      · exact Or.inr hdoc
  | update u _ _ createdAt updatedAt source =>
      exact ⟨fun _ _ => ⟨u, updatedAt⟩, fun _ => hcreated (Or.inr source.2)⟩
  | kept _ _ createdAt updatedAt source =>
      constructor
      · rw [createdAt, updatedAt]
        exact hknown.stamped
      · exact fun hdoc => hcreated (source hdoc)
  | removed _ _ docs =>
      constructor
      · intro value hvalue
        exact absurd docs (docs_of_field hvalue)
      · exact fun hdoc => absurd docs hdoc

/-- The write keeps the dates in order exactly if it carries fitting ones. -/
theorem Effect.inOrder_iff (h : Effect server after uid request created)
    (hknown : Recorded server uid known) (horder : InOrder server uid known) :
    InOrder after uid (known.or created) ↔ Fits server uid known request := by
  cases h with
  | both c u carriesCreated carriesUpdated createdAt updatedAt source =>
      have hvalue : known.or created = some (some (.timestamp c)) ↔
          known.getD (some (.timestamp c)) = some (.timestamp c) := by
        rcases source with hsource | ⟨hnone, hdoc⟩
        · rw [hsource]
          cases known <;> simp
        · rw [hnone, Option.or_none]
          obtain ⟨value, hvalue⟩ := Option.ne_none_iff_exists'.mp (hknown.created hdoc)
          simp [hvalue]
      rw [fits_both carriesCreated carriesUpdated, ← hvalue]
      constructor
      · exact fun hafter => hafter c u createdAt updatedAt
      · intro hfits c' u' hc hu
        cases createdAt.symm.trans hc
        cases updatedAt.symm.trans hu
        exact hfits
  | update u carriesCreated carriesUpdated createdAt updatedAt source =>
      rw [source.1, Option.or_none, fits_update carriesCreated carriesUpdated]
      constructor
      · intro hafter c hc
        exact (hafter c u (createdAt.trans hc) updatedAt).1
      · intro hfits c u' hc hu
        cases updatedAt.symm.trans hu
        have hstored := createdAt.symm.trans hc
        obtain ⟨u', hu'⟩ := hknown.stamped _ hstored
        exact ⟨hfits c hstored, (horder c u' hstored hu').2⟩
  | kept carriesCreated carriesUpdated createdAt updatedAt source =>
      refine iff_of_true ?_ (fits_undated carriesCreated carriesUpdated)
      intro c u hc hu
      obtain ⟨hle, hcreated⟩ := horder c u (createdAt.symm.trans hc) (updatedAt.symm.trans hu)
      rw [hcreated]
      exact ⟨hle, rfl⟩
  | removed carriesCreated carriesUpdated docs =>
      refine iff_of_true ?_ (fits_undated carriesCreated carriesUpdated)
      intro c u hc
      exact absurd docs (docs_of_field hc)

variable (Image) in
/-- The dates at launch. -/
theorem recorded_launched (h : Stamped before uid) :
    Recorded before uid (createdWith before uid ([] : Journal Image Data)) ∧
      InOrder before uid (createdWith before uid ([] : Journal Image Data)) := by
  refine ⟨⟨?_, ?_⟩, ?_⟩
  · intro value hvalue
    obtain ⟨c, u, _, hu, _⟩ := h value hvalue
    exact ⟨u, hu⟩
  · intro hdoc
    obtain ⟨doc, hdoc⟩ := Option.ne_none_iff_exists'.mp hdoc
    rw [createdWith, hdoc]
    nofun
  · intro c u hc hu
    obtain ⟨c', u', hvalue, hu', hle⟩ := h _ hc
    cases hvalue
    cases hu.symm.trans hu'
    obtain ⟨doc, hdoc⟩ := Option.ne_none_iff_exists'.mp (docs_of_field hc)
    refine ⟨hle, ?_⟩
    rw [Server.field, hdoc] at hc
    rw [createdWith, hdoc]
    exact congrArg some hc

/-- A request that writes no document, or fails, changes no dates. -/
theorem creation_of_unwritten {call : Call Data} {a : call.Response Image}
    (h : target call.request ≠ some uid ∨ ¬ call.request.Succeeded a) :
    creation uid ⟨call, a⟩ = none := by
  obtain ⟨place, self, request⟩ := call
  cases request with
  | setData uid' fields merge =>
      cases a with
      | some error => rfl
      | none =>
          rcases h with hne | hfailed
          · exact if_neg fun hu => hne (congrArg some hu)
          · exact absurd rfl hfailed
  | _ => rfl

theorem docs_of_unwritten {call : Call Data} {a : call.Response Image}
    (h : target call.request ≠ some uid ∨ ¬ call.request.Succeeded a) (server : Server Data) :
    (call.request.commit a server).docs uid = server.docs uid := by
  rcases h with hne | hfailed
  · exact docs_commit_of_target_ne hne a server
  · rw [Request.docs_commit, if_neg hfailed]

theorem field_of_docs {server after : Server Data} (h : after.docs uid = server.docs uid)
    (key : String) : after.field uid key = server.field uid key := by
  rw [Server.field, h, Server.field]

theorem effect_answer {n : ℕ} {p : Pending Image Data} {outcome : Outcome Image}
    (hp : Known ios w.server.urlOf everyCall p)
    (hs : p.call.request.SucceedsUnder outcome w.server) :
    Effect w.server (answer w n p outcome).server uid p.call.request
      (creation uid ⟨p.call, p.call.request.reply outcome w.server⟩) := by
  by_cases ht : target p.call.request = some uid
  · apply effect_write (hp.documentWrite ht) hs
    obtain ⟨⟨place, self, request⟩, handler⟩ := p
    rintro fields rfl
    exact Request.docs_of_updated hs
  · have hdocs : (answer w n p outcome).server.docs uid = w.server.docs uid :=
      docs_of_unwritten (Or.inl ht) w.server
    apply Effect.kept
    · exact carried_of_target_ne ht _
    · exact carried_of_target_ne ht _
    · exact field_of_docs hdocs _
    · exact field_of_docs hdocs _
    · rw [hdocs]
      exact Or.inr

section Answer

variable {n : ℕ} {p : Pending Image Data} {outcome : Outcome Image}
  (hp : Known ios w.server.urlOf everyCall p)
  (hknown : Recorded w.server uid (createdWith before uid w.journal))

include hp hknown

theorem recorded_answer : Recorded (answer w n p outcome).server uid
    (createdWith before uid (answer w n p outcome).journal) := by
  change Recorded _ uid (createdWith before uid (w.journal ++ [_]))
  rw [createdWith_concat]
  by_cases hs : p.call.request.SucceedsUnder outcome w.server
  · exact (effect_answer (n := n) hp hs).recorded hknown
  · have hdocs : (answer w n p outcome).server.docs uid = w.server.docs uid :=
      docs_of_unwritten (Or.inr hs) w.server
    rw [creation_of_unwritten (Or.inr hs), Option.or_none]
    constructor
    · intro value hvalue
      rw [field_of_docs hdocs] at hvalue ⊢
      exact hknown.stamped value hvalue
    · rw [hdocs]
      exact hknown.created

theorem inOrder_answer (horder : InOrder w.server uid (createdWith before uid w.journal)) :
    InOrder (answer w n p outcome).server uid
        (createdWith before uid (answer w n p outcome).journal) ↔
      (p.call.request.SucceedsUnder outcome w.server →
        Fits w.server uid (createdWith before uid w.journal) p.call.request) := by
  change InOrder _ uid (createdWith before uid (w.journal ++ [_])) ↔ _
  rw [createdWith_concat]
  by_cases hs : p.call.request.SucceedsUnder outcome w.server
  · rw [(effect_answer (n := n) hp hs).inOrder_iff hknown horder]
    simp only [hs, true_implies]
  · have hdocs : (answer w n p outcome).server.docs uid = w.server.docs uid :=
      docs_of_unwritten (Or.inr hs) w.server
    rw [creation_of_unwritten (Or.inr hs), Option.or_none]
    apply iff_of_true
    · intro c u hc hu
      rw [field_of_docs hdocs] at hc hu
      exact horder c u hc hu
    · exact fun hn => absurd hn hs

end Answer

theorem writesFit_complete {n : ℕ} {outcome : Outcome Image} {p : Pending Image Data}
    (hp : w.inFlight[n]? = some p) : WritesFit before uid w (.app (.complete n outcome)) ↔
      (p.call.request.SucceedsUnder outcome w.server →
        Fits w.server uid (createdWith before uid w.journal) p.call.request) := by
  constructor
  · exact fun h => h n outcome p rfl hp
  · rintro h m outcome' q he hq
    cases he
    cases hp.symm.trans hq
    exact h

theorem writesFit_iff_writesReadings {e : OwnEvent Image} (hsound : Sound ios w) :
    WritesFit before uid w e ↔ WritesReadings before uid w e := by
  refine forall_congr' fun n => forall_congr' fun outcome => forall_congr' fun p => ?_
  refine forall_congr' fun _ => forall_congr' fun hp => imp_congr_right fun _ => ?_
  exact fits_iff_readingsFit (hsound.known p (List.mem_of_getElem? hp))

/-- The dates stay in order in a step exactly if it writes fitting ones. -/
theorem allStates_iff_writesFit (h : Stamped before uid) (keptUser : Option AuthUser)
    (clock : Clock) (es : List (OwnEvent Image)) :
    EventRun.AllStates (ownStep ios)
        (fun w => InOrder w.server uid (createdWith before uid w.journal))
        (launched before keptUser clock) es ↔
      EventRun.AllSteps (ownStep ios) (WritesFit before uid) (launched before keptUser clock)
        es := by
  obtain ⟨hknown, horder⟩ := recorded_launched Image h
  refine EventRun.allStates_iff_allSteps (I := fun w => Sound ios w ∧
    Recorded w.server uid (createdWith before uid w.journal)) ?_ ?_
    ⟨sound_launched before keptUser clock, hknown⟩ horder
  · rintro w e w' ⟨hsound, hknown⟩ hstep
    refine ⟨hsound.step hstep, ?_⟩
    cases stepped_of_ownStep hstep with
    | act e p hp => exact hknown
    | accounts list => exact ⟨hknown.stamped, hknown.created⟩
    | complete n outcome p hp =>
        exact recorded_answer (hsound.known p (List.mem_of_getElem? hp)) hknown
  · rintro w e w' ⟨hsound, hknown⟩ horder hstep
    cases stepped_of_ownStep hstep with
    | act e p hp =>
        apply iff_of_true horder
        rintro n outcome q he
        cases he
    | accounts list =>
        apply iff_of_true horder
        rintro n outcome q he
        cases he
    | complete n outcome p hp =>
        rw [writesFit_complete hp]
        exact inOrder_answer (hsound.known p (List.mem_of_getElem? hp)) hknown horder

/-- The dates of a profile are in order in every state of a run exactly if every write of it that
succeeds carries fitting ones, and that is a matter of the clock readings of the three writers. -/
theorem inOrder_iff_writesFit (ios : Platform Image Data) {server : Server Data} {uid : Uid}
    (h : Stamped server uid) (keptUser : Option AuthUser) (clock : Clock)
    (es : List (OwnEvent Image)) :
    (EventRun.AllStates (ownStep ios)
        (fun w => InOrder w.server uid (createdWith server uid w.journal))
        (launched server keptUser clock) es ↔
      EventRun.AllSteps (ownStep ios) (WritesFit server uid)
        (launched server keptUser clock) es) ∧
    (EventRun.AllSteps (ownStep ios) (WritesFit server uid)
        (launched server keptUser clock) es ↔
      EventRun.AllSteps (ownStep ios) (WritesReadings server uid)
        (launched server keptUser clock) es) := by
  refine ⟨allStates_iff_writesFit h keptUser clock es, ?_⟩
  exact EventRun.allSteps_congr (I := Sound ios) (fun _ _ _ hsound hstep => hsound.step hstep)
    (fun _ _ _ hsound _ => writesFit_iff_writesReadings hsound)
    (sound_launched server keptUser clock)

def register : Controller := ⟨2, .register⟩

/-- Ana registers, and the clock runs on while her document is filled. -/
def registerAna : List (OwnEvent ℕ) :=
  [.app (.complete 0 .success), .app (.act (.createAccount ⟨1, .welcome⟩)),
    .app (.act (.register register Registration.anaFields)),
    .app (.complete 0 (.created Account.ana.uid)), .app (.complete 0 .success)]

theorem registerAna_run : ∃ w, EventRun.run (ownStep Platform.transparent)
      (launched Server.empty none .running) registerAna = some w ∧
    w.server.field Account.ana.uid User.KEY_CREATED_AT = some (.timestamp 2) ∧
    w.server.field Account.ana.uid User.KEY_UPDATED_AT = some (.timestamp 1) := by
  refine ⟨_, rfl, ?_, ?_⟩
  · rfl
  · rfl

theorem stamped_empty : Stamped (Server.empty : Server (ℕ × ℚ)) Account.ana.uid := by
  intro value hvalue
  exact absurd rfl (docs_of_field hvalue)

theorem inOrder_iff_writesFit_ana :
    (EventRun.AllStates (ownStep Platform.transparent)
        (fun w => InOrder w.server Account.ana.uid
          (createdWith Server.empty Account.ana.uid w.journal))
        (launched Server.empty none .running) registerAna ↔
      EventRun.AllSteps (ownStep Platform.transparent) (WritesFit Server.empty Account.ana.uid)
        (launched Server.empty none .running) registerAna) ∧
    (EventRun.AllSteps (ownStep Platform.transparent) (WritesFit Server.empty Account.ana.uid)
        (launched Server.empty none .running) registerAna ↔
      EventRun.AllSteps (ownStep Platform.transparent)
        (WritesReadings Server.empty Account.ana.uid)
        (launched Server.empty none .running) registerAna) :=
  inOrder_iff_writesFit Platform.transparent stamped_empty none .running registerAna

theorem registerAna_reverses_dates : ¬ EventRun.AllStates (ownStep Platform.transparent)
    (fun w => InOrder w.server Account.ana.uid
      (createdWith Server.empty Account.ana.uid w.journal))
    (launched Server.empty none .running) registerAna := by
  intro h
  obtain ⟨w, hrun, hcreated, hupdated⟩ := registerAna_run
  exact absurd (h.last hrun 2 1 hcreated hupdated).1 (by decide)

end GiveMeMovies.ProfileTimestamps
