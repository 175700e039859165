import RealTube.Extension.Hub

/-!
# What the worker tells

What a message is about comes from the browser and the server. Whose browser it is, is kept apart:

* The user id is shown to the extension's pages only. What content scripts and others are answered,
  what is requested, and what is stored is the same in every installation, but for the user id in
  requests (`anonymous_log_of_run`).
* The local id is shown to nobody, and leaves the worker only as its hash (`log_of_run`).
* Every state of a video that is answered or stored is one that the server has sent
  (`states_of_run`).

These are three uses of one relation of two workers (`Difference`), which no event destroys.
-/

open EventLoop Steps

namespace RealTube.Extension

/-! ### States of videos -/

/-- The states of videos in a body, whichever way it is read. -/
def Body.states (body : Body) : List (VideoID × VideoState) :=
  (body.videos.toOption.getD []).map (fun x ↦ (x.1, x.2.cached.state)) ++
    body.full.toOption.elim [] (fun data ↦ (fullVideos data).map fun x ↦ (x.1, x.2.state)) ++
    body.delta.toOption.elim [] fun data ↦
      (Replica.updated data.videoChanges).map fun x ↦ (x.1, x.2.state)

/-- The states of videos in a reply. -/
def Reply.states : Reply → List (VideoID × VideoState)
  | .thrown _ => []
  | .response _ body => body.states

namespace Reply

variable {r : Reply}

theorem exists_body_of_read {α : Type} {error : ℕ → Body → String} {f : Body → Except String α}
    {a : α} (h : r.read error f = .ok a) : ∃ status body, r = .response status body ∧
      f body = .ok a := by
  cases r with
  | thrown => cases h
  | response status body =>
    rw [read] at h
    split_ifs at h
    exact ⟨status, body, rfl, h⟩

/-- What the calls read of a reply has the states in it. -/
theorem mem_states_of_videos {videos : List (VideoID × VideoResult)} (h : r.videos = .ok videos) :
    ∀ x ∈ videos, (x.1, x.2.cached.state) ∈ r.states := by
  intro x hx
  unfold Reply.videos at h
  split at h
  · obtain rfl := Except.ok.inj h
    cases hx
  · obtain ⟨status, body, rfl, hbody⟩ := exists_body_of_read h
    refine List.mem_append_left _ (List.mem_append_left _ (List.mem_map.2 ⟨x, ?_, rfl⟩))
    rw [hbody]
    exact hx

theorem mem_states_of_full {data : SyncFullResponse} (h : r.full = .ok data) :
    ∀ x ∈ fullVideos data, (x.1, x.2.state) ∈ r.states := by
  intro x hx
  obtain ⟨status, body, rfl, hbody⟩ := exists_body_of_read h
  refine List.mem_append_left _ (List.mem_append_right _ ?_)
  rw [hbody]
  exact List.mem_map.2 ⟨x, hx, rfl⟩

theorem mem_states_of_delta {data : SyncDeltaResponse} (h : r.delta = .ok data) :
    ∀ x ∈ Replica.updated data.videoChanges, (x.1, x.2.state) ∈ r.states := by
  intro x hx
  obtain ⟨status, body, rfl, hbody⟩ := exists_body_of_read h
  refine List.mem_append_right _ ?_
  rw [hbody]
  exact List.mem_map.2 ⟨x, hx, rfl⟩

end Reply

/-- The states of videos in the answer to a message. -/
def MessageResponse.states : MessageResponse → List (VideoID × VideoState)
  | .success (.checked videos) => videos.map fun x ↦ (x.1, x.2.state)
  | .success (.found videos) => videos.map fun x ↦ (x.1, x.2.cached.state)
  | _ => []

/-! ### The relation -/

/-- What two workers may differ in: their ids are related in some way. And what the states of videos
have in common. -/
structure Difference (sha256 : List UInt8 → Digest) where
  localID : LocalID → LocalID → Prop
  userID : UserID → UserID → Prop
  state : VideoID × VideoState → Prop
  userID_of_localID : ∀ id id', localID id id' →
    userID (publicUserID (sha256Hex sha256) id) (publicUserID (sha256Hex sha256) id')

namespace Difference

variable {sha256 : List UInt8 → Digest} (d : Difference sha256)

/-- Every state of a video that is stored is one of those. -/
def Keeps (b : Browser) : Prop :=
  ∀ v video, b.cache.videos.lookup v = some video → d.state (v, video.state)

/-- The stores of the two. -/
structure Stores (s s' : HubStore) : Prop where
  localID : Option.Rel d.localID s.ids.localID s'.ids.localID
  cachedPublicUserID : Option.Rel d.userID s.ids.cachedPublicUserID s'.ids.cachedPublicUserID
  browser : s.browser = s'.browser
  keeps : d.Keeps s.browser

/-- The requests of the two. -/
inductive Requests : ApiCall → ApiCall → Prop
  | same (q : ApiCall) : Requests q q
  | submitVote (v : VideoID) (category : String) {u u' : UserID} (h : d.userID u u') :
      Requests (.submitVote v category u) (.submitVote v category u')
  | deleteVote (v : VideoID) {u u' : UserID} (h : d.userID u u') :
      Requests (.deleteVote v u) (.deleteVote v u')
  | getUserInfo {u u' : UserID} (h : d.userID u u') : Requests (.getUserInfo u) (.getUserInfo u')

/-- What the two answer to a message, if they may show the user id or not. -/
structure Answers (shown : Bool) (r r' : MessageResponse) : Prop where
  same : r = r' ∨ shown = true ∧ ∃ u u', d.userID u u' ∧ r = .success (.userID u) ∧
    r' = .success (.userID u')
  states : ∀ x ∈ r.states, d.state x

/-- Nothing else is different. -/
def relation : Relation hub where
  store := d.Stores
  request := d.Requests
  answer r r' := r = r' ∧ ∀ x ∈ r.states, d.state x
  item x x' := x = x' ∧ d.state (x.1, x.2.cached.state)
  error := Eq

variable {d} {α : Type} {P : α → α → Prop}

/-- The same results are related, whatever is known of the value. -/
theorem alikeResults_self {x : Except String α} {Γ : α → Prop} (h : ∀ a, x = .ok a → Γ a) :
    AlikeResults Eq (fun a a' ↦ a = a' ∧ Γ a) x x := by
  cases x with
  | error e => exact .error rfl
  | ok a => exact .ok ⟨rfl, h a rfl⟩

/-! ### Accesses -/

theorem alike_direct {f f' : HubStore → HubStore} {g g' : HubStore → α}
    (hf : ∀ s s', d.Stores s s' → d.Stores (f s) (f' s'))
    (hg : ∀ s s', d.Stores s s' → P (g s) (g' s')) :
    Action.Alike d.relation P (Hub.direct f g) (Hub.direct f' g') :=
  Action.alike_access hf fun s s' h ↦ .ok (hg s s' h)

/-- The clock is the same for both. -/
theorem alike_now :
    Action.Alike d.relation Eq (Hub.direct id fun s ↦ s.browser.now)
      (Hub.direct id fun s ↦ s.browser.now) :=
  alike_direct (fun _ _ h ↦ h) fun _ _ h ↦ congrArg Browser.now h.browser

theorem Stores.transact {s s' : HubStore} (h : d.Stores s s') {f : Browser → Browser}
    (hf : ∀ b, d.Keeps b → d.Keeps (f b)) : d.Stores { s with browser := s.browser.transact f }
      { s' with browser := s'.browser.transact f } := by
  refine ⟨h.localID, h.cachedPublicUserID, congrArg (Browser.transact f) h.browser, ?_⟩
  show d.Keeps (if _ then _ else _)
  split_ifs
  · exact hf _ h.keeps
  · exact h.keeps

/-- **A transaction**: both see the same. -/
theorem alike_transaction {f : Browser → Browser} {g : Browser → α}
    (hf : ∀ b, d.Keeps b → d.Keeps (f b)) :
    Action.Alike d.relation (fun a a' ↦ a = a' ∧ ∃ b, d.Keeps b ∧ a = g b)
      (Hub.transaction f g) (Hub.transaction f g) := by
  refine Action.alike_access (fun s s' h ↦ h.transact hf) fun s s' h ↦ ?_
  rw [← h.browser]
  refine alikeResults_self fun a ha ↦ ⟨s.browser, h.keeps, ?_⟩
  cases hdb : s.browser.dbError with
  | none =>
    rw [hdb] at ha
    exact (Except.ok.inj ha).symm
  | some e =>
    rw [hdb] at ha
    cases ha

/-- One that only reads. -/
theorem alike_query (g : Browser → α) :
    Action.Alike d.relation Eq (Hub.transaction id g) (Hub.transaction id g) :=
  (alike_transaction fun _ h ↦ h).mono fun _ _ h ↦ h.1

/-- One that does not write to the videos. -/
theorem alike_exec {f : Browser → Browser} (hf : ∀ b, (f b).cache.videos = b.cache.videos) :
    Action.Alike d.relation Eq (Hub.transaction f fun _ ↦ ()) (Hub.transaction f fun _ ↦ ()) := by
  refine (alike_transaction fun b hb v video hlookup ↦ ?_).mono fun _ _ h ↦ h.1
  rw [hf] at hlookup
  exact hb v video hlookup

/-- **A request** without the user id. -/
theorem alike_ask (q : ApiCall) {f : Reply → Except String α} {Γ : α → Prop}
    (hf : ∀ r a, (∀ x ∈ r.states, d.state x) → f r = .ok a → Γ a) :
    Action.Alike d.relation (fun a a' ↦ a = a' ∧ Γ a) (Action.ask q f) (Action.ask q f) := by
  refine Action.alike_ask (.same q) fun r r' h ↦ ?_
  obtain ⟨rfl, hstates⟩ := h
  exact alikeResults_self fun a ha ↦ hf r a hstates ha

/-- One with the user id. -/
theorem alike_askAs {q q' : ApiCall} (hq : d.Requests q q') (f : Reply → Except String α) :
    Action.Alike d.relation Eq (Action.ask q f) (Action.ask q' f) := by
  refine Action.alike_ask hq fun r r' h ↦ ?_
  obtain ⟨rfl, -⟩ := h
  cases f r with
  | error e => exact .error rfl
  | ok a => exact .ok rfl

/-! ### Ids -/

section IDs

variable {uuid uuid' : LocalID}

theorem alike_getLocalID (huuid : d.localID uuid uuid') :
    Action.Alike d.relation d.localID (Hub.getLocalID uuid) (Hub.getLocalID uuid') := by
  refine (alike_direct (P := Option.Rel d.localID) (fun _ _ h ↦ h) fun _ _ h ↦ h.localID).bind
    fun o o' ho ↦ ?_
  cases ho with
  | some hid => exact Action.alike_pure hid
  | none =>
    refine alike_direct (fun s s' h ↦ ?_) fun _ _ _ ↦ huuid
    exact ⟨.some huuid, h.cachedPublicUserID, h.browser, h.keeps⟩

theorem alike_getPublicUserID (huuid : d.localID uuid uuid') :
    Action.Alike d.relation d.userID (Hub.getPublicUserID sha256 uuid)
      (Hub.getPublicUserID sha256 uuid') :=
  (alike_getLocalID huuid).bind fun id id' hid ↦
    Action.alike_pure (d.userID_of_localID id id' hid)

theorem alike_ensurePublicUserID (huuid : d.localID uuid uuid') :
    Action.Alike d.relation d.userID (Hub.ensurePublicUserID sha256 uuid)
      (Hub.ensurePublicUserID sha256 uuid') := by
  refine (alike_direct (P := Option.Rel d.userID) (fun _ _ h ↦ h)
    fun _ _ h ↦ h.cachedPublicUserID).bind fun o o' ho ↦ ?_
  cases ho with
  | some hu => exact Action.alike_pure hu
  | none =>
    refine (alike_getPublicUserID huuid).bind fun u u' hu ↦ ?_
    exact alike_direct (fun s s' h ↦ ⟨h.localID, .some hu, h.browser, h.keeps⟩) fun _ _ _ ↦ hu

end IDs

/-! ### Syncs -/

/-- What a transaction puts. -/
def Puts (d : Difference sha256) : CacheTx → Prop
  | .videos (.put rows) => ∀ x ∈ rows, d.state (x.1, x.2.state)
  | _ => True

theorem Keeps.apply {b : Browser} (hb : d.Keeps b) {tx : CacheTx} (htx : d.Puts tx) :
    d.Keeps { b with cache := b.cache.apply tx } := by
  intro v video hlookup
  rcases tx with (k | rows | _) | _ | _ | _
  · change (b.cache.videos.erase k).lookup v = some video at hlookup
    rw [Table.lookup_erase] at hlookup
    split_ifs at hlookup
    exact hb v video hlookup
  · change (Replica.putAll b.cache.videos rows).lookup v = some video at hlookup
    rw [Replica.lookup_putAll] at hlookup
    cases hput : Replica.lastPut rows v with
    | none =>
      rw [hput] at hlookup
      exact hb v video hlookup
    | some video' =>
      rw [hput] at hlookup
      obtain rfl := Option.some.inj hlookup
      exact htx _ (Replica.mem_of_lastPut hput)
  · cases hlookup
  · exact hb v video hlookup
  · exact hb v video hlookup
  · exact hb v video hlookup

/-- **The transactions of a sync.** -/
theorem alike_applyAll {txs : List CacheTx} (htxs : ∀ tx ∈ txs, d.Puts tx) :
    Action.Alike d.relation Eq (Hub.applyAll txs) (Hub.applyAll txs) := by
  induction txs with
  | nil => exact Action.alike_pure rfl
  | cons tx txs ih =>
    have hrest := ih fun tx h ↦ htxs tx (List.mem_cons_of_mem _ h)
    rw [Hub.applyAll]
    split_ifs
    · exact (alike_transaction fun _ hb ↦ hb.apply (htxs tx List.mem_cons_self)).bind
        fun _ _ _ ↦ hrest
    · exact hrest

/-- The rows that the loop over changes puts. -/
theorem puts_applyChanges {cs : List (Replica.Change VideoID CachedVideo)}
    {rows : List (VideoID × CachedVideo)} (hcs : ∀ x ∈ Replica.updated cs, d.state (x.1, x.2.state))
    (hrows : ∀ x ∈ rows, d.state (x.1, x.2.state)) {op : Replica.Op VideoID CachedVideo}
    (hop : op ∈ Replica.applyChanges cs rows) : d.Puts (.videos op) := by
  induction cs generalizing rows with
  | nil =>
    obtain rfl := List.mem_singleton.1 hop
    exact hrows
  | cons c cs ih =>
    cases c with
    | remove k =>
      obtain rfl | hop := List.mem_cons.1 hop
      · trivial
      · exact ih hcs hrows hop
    | put k video =>
      refine ih (fun x hx ↦ hcs x (List.mem_cons_of_mem _ hx)) (fun x hx ↦ ?_) hop
      obtain hx | hx := List.mem_append.1 hx
      · exact hrows x hx
      · obtain rfl := List.mem_singleton.1 hx
        exact hcs _ List.mem_cons_self
    | skip => exact ih hcs hrows hop

theorem puts_performDeltaSync {data : SyncDeltaResponse}
    (h : ∀ x ∈ Replica.updated data.videoChanges, d.state (x.1, x.2.state)) :
    ∀ tx ∈ performDeltaSync data, d.Puts tx := by
  intro tx htx
  obtain htx | htx := List.mem_append.1 htx
  · obtain htx | htx := List.mem_append.1 htx
    · obtain ⟨op, hop, rfl⟩ := List.mem_map.1 htx
      exact puts_applyChanges h (fun _ hx ↦ (List.not_mem_nil hx).elim) hop
    · obtain ⟨op, -, rfl⟩ := List.mem_map.1 htx
      trivial
  · obtain rfl := List.mem_singleton.1 htx
    trivial

theorem puts_performFullSync {data : SyncFullResponse}
    (h : ∀ x ∈ fullVideos data, d.state (x.1, x.2.state)) :
    ∀ tx ∈ performFullSync data, d.Puts tx := by
  simp only [performFullSync, List.forall_mem_cons]
  exact ⟨trivial, trivial, h, trivial, trivial, trivial, by simp⟩

theorem alike_fetchDelta (since : Time) :
    Action.Alike d.relation (fun o o' ↦ o = o' ∧
        ∀ data, o = some data → ∀ x ∈ Replica.updated data.videoChanges, d.state (x.1, x.2.state))
      (Hub.performDeltaSync.fetch since) (Hub.performDeltaSync.fetch since) := by
  refine (alike_ask (.syncDelta since) fun r o hstates hr data hdata x hx ↦ ?_).tryCatch
    fun e e' he ↦ ?_
  · subst hdata
    cases hdelta : r.delta with
    | error e =>
      rw [hdelta] at hr
      cases hr
    | ok data' =>
      rw [hdelta] at hr
      obtain rfl := Option.some.inj (Except.ok.inj hr)
      exact hstates _ (Reply.mem_states_of_delta hdelta x hx)
  · obtain rfl : e = e' := he
    split_ifs
    · exact Action.alike_pure ⟨rfl, by simp⟩
    · exact .done (.error rfl)

theorem alike_performDeltaSync :
    Action.Alike d.relation Eq Hub.performDeltaSync Hub.performDeltaSync := by
  refine (alike_query _).bind fun t t' ht ↦ ?_
  subst ht
  refine (alike_fetchDelta _).bind fun o o' ho ↦ ?_
  obtain ⟨rfl, hdata⟩ := ho
  cases o with
  | none => exact Action.alike_pure rfl
  | some data =>
    exact (alike_applyAll (puts_performDeltaSync (hdata data rfl))).bind
      fun _ _ _ ↦ Action.alike_pure rfl

theorem alike_fetchFull :
    Action.Alike d.relation (fun o o' ↦ o = o' ∧
        ∀ data, o = some data → ∀ x ∈ fullVideos data, d.state (x.1, x.2.state))
      Hub.performFullSync.fetch Hub.performFullSync.fetch := by
  refine (alike_ask .syncFull fun r o hstates hr data hdata x hx ↦ ?_).tryCatch fun e e' he ↦ ?_
  · subst hdata
    cases hfull : r.full with
    | error e =>
      rw [hfull] at hr
      cases hr
    | ok data' =>
      rw [hfull] at hr
      obtain rfl := Option.some.inj (Except.ok.inj hr)
      exact hstates _ (Reply.mem_states_of_full hfull x hx)
  · obtain rfl : e = e' := he
    split_ifs
    · exact Action.alike_pure ⟨rfl, by simp⟩
    · exact .done (.error rfl)

theorem alike_performFullSync :
    Action.Alike d.relation Eq Hub.performFullSync Hub.performFullSync := by
  refine alike_fetchFull.bind fun o o' ho ↦ ?_
  obtain ⟨rfl, hdata⟩ := ho
  cases o with
  | none => exact Action.alike_pure rfl
  | some data =>
    exact (alike_applyAll (puts_performFullSync (hdata data rfl))).bind
      fun _ _ _ ↦ Action.alike_pure rfl

theorem alike_autoSync : Action.Alike d.relation Eq Hub.autoSync Hub.autoSync := by
  refine Action.Alike.tryCatch ?_ fun _ _ _ ↦ Action.alike_pure rfl
  refine (alike_query _).bind fun lastFull _ h ↦ ?_
  subst h
  refine alike_now.bind fun now _ h ↦ ?_
  subst h
  split_ifs
  · exact alike_performFullSync.bind fun _ _ _ ↦ Action.alike_pure rfl
  · exact alike_performDeltaSync.bind fun _ _ _ ↦ Action.alike_pure rfl

theorem alike_getSyncStatus :
    Action.Alike d.relation Eq Hub.getSyncStatus Hub.getSyncStatus := by
  refine (alike_query _).bind fun _ _ h₁ ↦ (alike_query _).bind fun _ _ h₂ ↦
    (alike_query _).bind fun _ _ h₃ ↦ (alike_query _).bind fun _ _ h₄ ↦ ?_
  subst h₁ h₂ h₃ h₄
  exact Action.alike_pure rfl

/-! ### Votes -/

section Votes

variable {order : Arrangement VideoID} {uuid uuid' : LocalID} {u u' : UserID}

theorem alike_enqueueVote (v : VideoID) (category : String) :
    Action.Alike d.relation Eq (Hub.enqueueVote v category) (Hub.enqueueVote v category) := by
  refine alike_now.bind fun now _ h ↦ ?_
  subst h
  exact alike_exec fun _ ↦ rfl

theorem alike_removePendingVote (v : VideoID) :
    Action.Alike d.relation Eq (Hub.removePendingVote v) (Hub.removePendingVote v) :=
  alike_exec fun _ ↦ rfl

/-- **The loop**: one vote after another. -/
theorem alike_flushLoop (hu : d.userID u u') (now : ℤ) (pending : List (VideoID × PendingVote))
    (sent : ℕ) : Action.Alike d.relation Eq (Hub.flushLoop u now pending sent)
      (Hub.flushLoop u' now pending sent) := by
  induction pending generalizing sent with
  | nil => exact Action.alike_pure rfl
  | cons x pending ih =>
    rw [Hub.flushLoop, Hub.flushLoop]
    split_ifs
    · exact (alike_removePendingVote x.1).bind fun _ _ _ ↦ ih sent
    · have hsubmit := Action.Alike.bind (alike_askAs (d := d)
        (.submitVote x.1 x.2.category hu) Reply.vote) fun _ _ _ ↦
          (alike_removePendingVote x.1).bind fun _ _ _ ↦ Action.alike_pure (rfl : true = true)
      refine (hsubmit.tryCatch fun _ _ _ ↦ Action.alike_pure rfl).bind fun accepted _ h ↦ ?_
      subst h
      split_ifs
      · exact ih (sent + 1)
      · exact Action.alike_pure rfl

theorem alike_flushPendingVotes (huuid : d.localID uuid uuid') :
    Action.Alike d.relation Eq (Hub.flushPendingVotes sha256 order uuid)
      (Hub.flushPendingVotes sha256 order uuid') := by
  have hflushing : Action.Alike d.relation Eq
      (Hub.direct (fun s ↦ { s with browser := { s.browser with isFlushing := true } })
        fun s ↦ s.browser.isFlushing)
      (Hub.direct (fun s ↦ { s with browser := { s.browser with isFlushing := true } })
        fun s ↦ s.browser.isFlushing) :=
    alike_direct (fun _ _ h ↦ ⟨h.localID, h.cachedPublicUserID,
      congrArg (fun b ↦ { b with isFlushing := true }) h.browser, h.keeps⟩)
      fun _ _ h ↦ congrArg Browser.isFlushing h.browser
  refine hflushing.bind fun flushing _ h ↦ ?_
  subst h
  split_ifs
  · exact Action.alike_pure rfl
  · refine Action.Alike.andFinally ?_ fun _ _ h ↦ ⟨h.localID, h.cachedPublicUserID,
      congrArg (fun b ↦ { b with isFlushing := false }) h.browser, h.keeps⟩
    refine (alike_query _).bind fun pending _ h ↦ ?_
    subst h
    split_ifs
    · exact Action.alike_pure rfl
    · refine (alike_getPublicUserID huuid).bind fun u u' hu ↦ alike_now.bind fun now _ h ↦ ?_
      subst h
      exact alike_flushLoop hu now pending 0

theorem alike_submitVote (huuid : d.localID uuid uuid') (v : VideoID) (category : String) :
    Action.Alike d.relation (fun r r' ↦ r = r' ∧ (MessageResponse.success r).states = [])
      (Hub.submitVote sha256 uuid v category) (Hub.submitVote sha256 uuid' v category) := by
  refine Action.Alike.tryCatch ?_ fun _ _ _ ↦
    (alike_enqueueVote v category).bind fun _ _ _ ↦ Action.alike_pure ⟨rfl, rfl⟩
  refine (alike_ensurePublicUserID huuid).bind fun u u' hu ↦ ?_
  exact (alike_askAs (.submitVote v category hu) _).bind fun result _ h ↦
    Action.alike_pure ⟨congrArg _ h, rfl⟩

end Votes

/-! ### Lookups -/

theorem alike_checkLoop (requested : List VideoID) {videos : List (VideoID × VideoResult)}
    (h : ∀ x ∈ videos, d.state (x.1, x.2.cached.state)) :
    Job.Alike d.relation (Hub.checkLoop requested videos) (Hub.checkLoop requested videos) := by
  induction videos with
  | nil => exact .done
  | cons x videos ih =>
    have hrest := ih fun y hy ↦ h y (List.mem_cons_of_mem _ hy)
    have hx : d.state (x.1, x.2.cached.state) := h x List.mem_cons_self
    rw [Hub.checkLoop]
    split_ifs
    · refine .push ⟨rfl, hx⟩ (.access (fun s s' hs ↦ ?_) fun s s' hs ↦ ?_)
      · refine hs.transact fun b hb ↦ hb.apply fun y hy ↦ ?_
        obtain rfl := List.mem_singleton.1 hy
        exact hx
      · rw [← hs.browser]
        split_ifs
        · exact hrest
        · exact .done
    · exact hrest

theorem alike_checkPrefix (requested : List VideoID) (p : String) :
    Job.Alike d.relation (Hub.checkPrefix requested p) (Hub.checkPrefix requested p) := by
  refine .ask (.same _) fun r r' hr ↦ ?_
  obtain ⟨rfl, hstates⟩ := hr
  cases hvideos : r.videos with
  | ok videos =>
    exact alike_checkLoop requested fun x hx ↦
      hstates _ (Reply.mem_states_of_videos hvideos x hx)
  | error e => exact .done

theorem alike_lookupLoop (requested : List VideoID) {videos : List (VideoID × VideoResult)}
    (h : ∀ x ∈ videos, d.state (x.1, x.2.cached.state)) :
    Job.Alike d.relation (Hub.lookupLoop requested videos)
      (Hub.lookupLoop requested videos) := by
  induction videos with
  | nil => exact .done
  | cons x videos ih =>
    have hrest := ih fun y hy ↦ h y (List.mem_cons_of_mem _ hy)
    rw [Hub.lookupLoop]
    split_ifs
    · exact .push ⟨rfl, h x List.mem_cons_self⟩ hrest
    · exact hrest

theorem alike_lookupPrefix (requested : List VideoID) (p : String) :
    Job.Alike d.relation (Hub.lookupPrefix requested p) (Hub.lookupPrefix requested p) := by
  refine .ask (.same _) fun r r' hr ↦ ?_
  obtain ⟨rfl, hstates⟩ := hr
  cases hvideos : r.videos with
  | ok videos =>
    exact alike_lookupLoop requested fun x hx ↦
      hstates _ (Reply.mem_states_of_videos hvideos x hx)
  | error e => exact .throw rfl

theorem eq_of_items {xs xs' : List (VideoID × VideoResult)}
    (h : List.Forall₂ d.relation.item xs xs') :
    xs = xs' ∧ ∀ x ∈ xs, d.state (x.1, x.2.cached.state) := by
  induction h with
  | nil => exact ⟨rfl, fun _ hx ↦ (List.not_mem_nil hx).elim⟩
  | cons hx _ ih => exact ⟨congrArg₂ _ hx.1 ih.1, List.forall_mem_cons.2 ⟨hx.2, ih.2⟩⟩

/-- **All prefixes at once.** -/
theorem alike_lookups {job : List VideoID → String → Job hub}
    (hjob : ∀ requested p, Job.Alike d.relation (job requested p) (job requested p))
    (ids : List VideoID) :
    Action.Alike d.relation
      (fun xs xs' ↦ xs = xs' ∧ ∀ x ∈ xs, d.state (x.1, x.2.cached.state))
      (Hub.lookups sha256 job ids) (Hub.lookups sha256 job ids) := by
  refine (Action.alike_all ?_).mono fun _ _ ↦ eq_of_items
  rw [List.forall₂_map_left_iff, List.forall₂_map_right_iff]
  exact List.forall₂_same.2 fun p _ ↦ hjob _ p

theorem alike_checkVideos (ids : List VideoID) :
    Action.Alike d.relation
      (fun r r' ↦ r = r' ∧ ∀ x ∈ (MessageResponse.success r).states, d.state x)
      (Hub.checkVideos sha256 ids) (Hub.checkVideos sha256 ids) := by
  refine (alike_transaction fun _ hb ↦ hb).bind fun cached _ h ↦ ?_
  obtain ⟨rfl, b, hb, hcached⟩ := h
  refine (alike_lookups alike_checkPrefix _).bind fun xs _ h ↦ ?_
  obtain ⟨rfl, hxs⟩ := h
  refine Action.alike_pure ⟨rfl, fun x hx ↦ ?_⟩
  obtain ⟨y, hy, rfl⟩ := List.mem_map.1 hx
  obtain hy | hy := List.mem_append.1 hy
  · rw [hcached] at hy
    obtain ⟨v, -, hv⟩ := List.mem_filterMap.1 hy
    obtain ⟨video, hlookup, rfl⟩ := Option.map_eq_some_iff.1 hv
    exact hb v video hlookup
  · obtain ⟨x', hx', rfl⟩ := List.mem_map.1 hy
    exact hxs x' hx'

/-! ### Messages -/

section Messages

variable {order : Arrangement VideoID} {uuid uuid' : LocalID}

/-- The same answer, without states of videos. -/
theorem answers_self {r : MessageResponse} (h : r.states = []) (shown : Bool) :
    d.Answers shown r r :=
  ⟨Or.inl rfl, by simp [h]⟩

/-- **Every message.** Only `GET_USER_ID` is answered with the user id. -/
theorem alike_handleMessage (huuid : d.localID uuid uuid') (m : Message) :
    Action.Alike d.relation (d.Answers m.isGetUserID)
      (Hub.handleMessage sha256 order uuid m) (Hub.handleMessage sha256 order uuid' m) := by
  cases m with
  | getUserID =>
    refine (alike_ensurePublicUserID huuid).bind fun u u' hu ↦ Action.alike_pure ?_
    exact ⟨Or.inr ⟨rfl, u, u', hu, rfl, rfl⟩, fun _ hx ↦ (List.not_mem_nil hx).elim⟩
  | getUserInfo =>
    refine (alike_ensurePublicUserID huuid).bind fun u u' hu ↦ ?_
    refine (alike_askAs (.getUserInfo hu) _).bind fun info _ h ↦ ?_
    subst h
    exact Action.alike_pure (answers_self rfl _)
  | checkVideos ids =>
    refine (alike_checkVideos ids).bind fun data _ h ↦ ?_
    obtain ⟨rfl, hstates⟩ := h
    exact Action.alike_pure ⟨Or.inl rfl, hstates⟩
  | lookupVideos ids =>
    refine (alike_lookups alike_lookupPrefix ids).bind fun videos _ h ↦ ?_
    obtain ⟨rfl, hvideos⟩ := h
    exact Action.alike_pure ⟨Or.inl rfl, List.forall_mem_map.2 hvideos⟩
  | submitVote v category =>
    refine (alike_submitVote huuid v category).bind fun data _ h ↦ ?_
    obtain ⟨rfl, hstates⟩ := h
    exact Action.alike_pure (answers_self hstates _)
  | deleteVote v =>
    refine (alike_ensurePublicUserID huuid).bind fun u u' hu ↦ ?_
    exact (alike_askAs (.deleteVote v hu) _).bind fun _ _ _ ↦
      Action.alike_pure (answers_self rfl _)
  | syncDelta =>
    refine alike_performDeltaSync.bind fun counts _ h ↦ ?_
    subst h
    exact Action.alike_pure (answers_self rfl _)
  | syncFull =>
    refine alike_performFullSync.bind fun counts _ h ↦ ?_
    subst h
    exact Action.alike_pure (answers_self rfl _)
  | getSyncStatus =>
    refine alike_getSyncStatus.bind fun status _ h ↦ ?_
    subst h
    exact Action.alike_pure (answers_self rfl _)
  | flushPendingVotes =>
    refine (alike_flushPendingVotes huuid).bind fun counts _ h ↦ ?_
    subst h
    exact Action.alike_pure (answers_self rfl _)
  | openPopup => exact Action.alike_pure (answers_self rfl _)
  | getStatus =>
    refine (alike_getLocalID huuid).bind fun id id' _ ↦ alike_getSyncStatus.bind fun status _ h ↦
      (alike_query _).bind fun pending _ h' ↦ ?_
    subst h h'
    have hid : decide (id.1 ≠ "") = decide (id'.1 ≠ "") := by
      rw [decide_eq_true id.2, decide_eq_true id'.2]
    rw [hid]
    exact Action.alike_pure (answers_self rfl _)
  | other type => exact Action.alike_pure (answers_self rfl _)
  | malformed error => exact .done (.error rfl)

/-- **The user id is for pages.** -/
theorem alike_onMessage (huuid : d.localID uuid uuid') (sender : Sender) (m : Message) :
    Program.Alike d.relation (d.Answers sender.isPage) (Hub.onMessage sha256 order uuid sender m)
      (Hub.onMessage sha256 order uuid' sender m) := by
  rw [Hub.onMessage, Hub.onMessage]
  split_ifs with hown hid
  · exact .done (answers_self rfl _)
  · exact .done (answers_self rfl _)
  · refine Program.Alike.bind (alike_handleMessage huuid m) fun x x' hx ↦ ?_
    cases hx with
    | error he =>
      obtain rfl : _ = _ := he
      exact .done (answers_self rfl _)
    | ok hr =>
      refine .done ⟨hr.same.imp_right fun h ↦ ⟨?_, h.2⟩, hr.states⟩
      have htab : sender.tab = false := by
        rw [h.1, Bool.true_or, Bool.true_and] at hid
        exact Bool.eq_false_of_not_eq_true hid
      have hown' : sender.own = true := by simpa using hown
      rw [Sender.isPage, htab, hown']
      rfl

/-- What the programs of a sender end with. -/
def Ends (d : Difference sha256) (sender : Sender) : Option MessageResponse →
    Option MessageResponse → Prop :=
  Option.Rel (d.Answers sender.isPage)

/-- **Every program.** -/
theorem alike_program (huuid : d.localID uuid uuid') (sender : Sender) (task : Hub.Task) :
    Program.Alike d.relation (d.Ends sender) (task.program sha256 order uuid sender)
      (task.program sha256 order uuid' sender) := by
  cases task with
  | message m => exact (alike_onMessage huuid sender m).bind fun _ _ h ↦ .done (.some h)
  | startup =>
    exact Program.Alike.bind (alike_ensurePublicUserID huuid) fun _ _ _ ↦ .done .none
  | flush =>
    exact Program.Alike.bind (alike_flushPendingVotes huuid) fun _ _ _ ↦ .done .none
  | autoSync => exact Program.Alike.bind alike_autoSync fun _ _ _ ↦ .done .none

end Messages

/-! ### Runs -/

section Runs

variable {ι : Type} [DecidableEq ι] {order : Arrangement VideoID} {sender : ι → Sender}
  {uuid uuid' : ι → LocalID} {s s' : HubStore} {es : List (Hub.HubEvent ι)}
  {t : Loop hub ι (Option MessageResponse)}

/-- The states of videos that the server sends. -/
def sent : Hub.HubEvent ι → List (VideoID × VideoState)
  | .answer _ r => r.states
  | .jobAnswer _ _ r => r.states
  | _ => []

omit [DecidableEq ι] in
/-- A change of the browser that leaves the videos. -/
theorem Stores.setBrowser {s s' : HubStore} (h : d.Stores s s') {f : Browser → Browser}
    (hf : ∀ b, (f b).cache = b.cache) :
    d.Stores { s with browser := f s.browser } { s' with browser := f s'.browser } where
  localID := h.localID
  cachedPublicUserID := h.cachedPublicUserID
  browser := congrArg f h.browser
  keeps v video hlookup := by
    change (f s.browser).cache.videos.lookup v = some video at hlookup
    rw [hf] at hlookup
    exact h.keeps v video hlookup

omit [DecidableEq ι] in
theorem alike_event (huuid : ∀ i, d.localID (uuid i) (uuid' i)) {e : Hub.HubEvent ι}
    (he : ∀ x ∈ sent e, d.state x) :
    Event.Alike d.relation (fun i ↦ d.Ends (sender i)) (e.event sha256 order sender uuid)
      (e.event sha256 order sender uuid') := by
  cases e with
  | start i task => exact .start i (alike_program (huuid i) (sender i) task)
  | access i => exact .access i
  | answer i r => exact .answer i ⟨rfl, he⟩
  | jobAccess i n => exact .jobAccess i n
  | jobAnswer i n r => exact .jobAnswer i n ⟨rfl, he⟩
  | setDate now => exact .outside fun _ _ h ↦ h.setBrowser (f := fun b ↦ { b with now }) fun _ ↦ rfl
  | setDBError dbError =>
    exact .outside fun _ _ h ↦ h.setBrowser (f := fun b ↦ { b with dbError }) fun _ ↦ rfl
  | restart =>
    refine .restart fun s s' h ↦ ?_
    have hbrowser := h.setBrowser (f := fun b ↦ { b with isFlushing := false }) fun _ ↦ rfl
    exact ⟨hbrowser.localID, .none, hbrowser.browser, hbrowser.keeps⟩

/-- **Two workers with the same messages and replies.** -/
theorem alike_run (huuid : ∀ i, d.localID (uuid i) (uuid' i)) (hs : d.Stores s s')
    (h : Run Loop.step Any (.init s) (es.map (Hub.HubEvent.event sha256 order sender uuid)) t)
    (hes : ∀ e ∈ es, ∀ x ∈ sent e, d.state x) :
    ∃ t', Run Loop.step Any (.init s')
        (es.map (Hub.HubEvent.event sha256 order sender uuid')) t' ∧
      Loop.Alike d.relation (fun i ↦ d.Ends (sender i)) t t' := by
  refine Loop.alike_run h hs ?_
  rw [List.forall₂_map_left_iff, List.forall₂_map_right_iff]
  exact List.forall₂_same.2 fun e he ↦ alike_event huuid (hes e he)

end Runs

end Difference

/-! ### The user id -/

/-- A request without the user id. -/
def ApiCall.anonymous : ApiCall → ApiCall
  | submitVote v category _ => submitVote v category ""
  | deleteVote v _ => deleteVote v ""
  | getUserInfo _ => getUserInfo ""
  | q => q

/-- An answer without the user id. -/
def MessageResponse.anonymous : MessageResponse → MessageResponse
  | success (.userID _) => success (.userID "")
  | r => r

section Log

variable {sha256 : List UInt8 → Digest} {ι : Type} [DecidableEq ι] {order : Arrangement VideoID}
  {sender : ι → Sender} {uuid uuid' : ι → LocalID} {s s' : HubStore}
  {es : List (Hub.HubEvent ι)} {t : Loop hub ι (Option MessageResponse)}

/-- An entry of the log without the user id, but with everything that others than the extension's
pages are answered. -/
def anonymous (sender : ι → Sender) :
    Entry hub ι (Option MessageResponse) → Entry hub ι (Option MessageResponse)
  | .request i q => .request i (ApiCall.anonymous q)
  | .response i r =>
    .response i (if (sender i).isPage then r.map MessageResponse.anonymous else r)

/-- Any two workers. -/
def Difference.ofUser (sha256 : List UInt8 → Digest) : Difference sha256 where
  localID _ _ := True
  userID _ _ := True
  state _ := True
  userID_of_localID _ _ _ := trivial

omit [DecidableEq ι] in
theorem anonymous_eq {x x' : Entry hub ι (Option MessageResponse)}
    (h : Entry.Alike (Difference.ofUser sha256).relation
      (fun i ↦ (Difference.ofUser sha256).Ends (sender i)) x x') :
    anonymous sender x = anonymous sender x' := by
  cases h with
  | request i hq =>
    cases hq with
    | same | submitVote | deleteVote | getUserInfo => rfl
  | response i hr =>
    obtain ⟨rfl, rfl⟩ | ⟨r, r', hanswers, rfl, rfl⟩ := eq_none_or_exists_of_rel hr
    · rfl
    · obtain rfl | ⟨hpage, u, u', -, rfl, rfl⟩ := hanswers.same
      · rfl
      · simp only [anonymous, if_pos hpage]
        rfl

/-- The one worker has ids where the other has. -/
def InstallationIDs.SameShape (ids ids' : InstallationIDs) : Prop :=
  ids.localID.isSome = ids'.localID.isSome ∧
    ids.cachedPublicUserID.isSome = ids'.cachedPublicUserID.isSome

/-- **What others can see does not depend on the user.** Two workers that have the same cache, and
get the same messages and replies, send the same requests in the same order, and answer the same,
but for the user id in requests and in what the extension's pages are answered. -/
theorem anonymous_log_of_run (hids : s.ids.SameShape s'.ids) (hbrowser : s.browser = s'.browser)
    (h : Run Loop.step Any (.init s) (es.map (Hub.HubEvent.event sha256 order sender uuid)) t) :
    ∃ t', Run Loop.step Any (.init s')
        (es.map (Hub.HubEvent.event sha256 order sender uuid')) t' ∧
      t'.store.browser = t.store.browser ∧
      t'.log.map (anonymous sender) = t.log.map (anonymous sender) := by
  have hrel {α : Type} {o o' : Option α} (h : o.isSome = o'.isSome) :
      Option.Rel (fun _ _ ↦ True) o o' := by
    cases o <;> cases o' <;> first | exact .none | exact .some trivial | cases h
  have hs : (Difference.ofUser sha256).Stores s s' :=
    ⟨hrel hids.1, hrel hids.2, hbrowser, fun _ _ _ ↦ trivial⟩
  have huuid (i : ι) : (Difference.ofUser sha256).localID (uuid i) (uuid' i) := trivial
  obtain ⟨t', hrun, halike⟩ := Difference.alike_run huuid hs h fun _ _ _ _ ↦ trivial
  refine ⟨t', hrun, halike.store.browser.symm, ?_⟩
  refine (List.forall₂_eq_eq_eq.le _ _ ?_).symm
  rw [List.forall₂_map_left_iff, List.forall₂_map_right_iff]
  exact halike.log.imp fun _ _ ↦ anonymous_eq

/-- A worker that knows its user, and has nothing cached. -/
def knowing (id : LocalID) (u : UserID) : HubStore :=
  ⟨⟨some id, some u⟩, ⟨.empty, ∅, false, 0, none⟩⟩

/-- The body of a vote that is accepted. -/
def acceptedVote : Body where
  videos := .error ""
  vote := .ok ⟨50, 1 / 2⟩
  delta := .error ""
  full := .error ""
  user := .error ""
  errorMessage := none

/-- A content script, and a page. -/
def tabAndPage (i : Bool) : Sender := ⟨true, i⟩

/-- A vote from a tab, and the user id for a page, where this id would be generated. -/
def voteFromTab (id : LocalID) : List (Event hub Bool (Option MessageResponse)) :=
  List.map (Hub.HubEvent.event LookupRun.firstByteDigest (.ascending _) tabAndPage fun _ ↦ id)
    [.start true (.message (.submitVote "v" "fully_ai")), .access true,
      .answer true (.response 200 acceptedVote), .start false (.message .getUserID),
      .access false]

/-- Two users, with ids that are all that is different. -/
theorem anonymous_log_voteFromTab : ∃ t t' : Loop hub Bool (Option MessageResponse),
    Run Loop.step Any (.init (knowing ⟨"2", by decide⟩ "b")) (voteFromTab ⟨"2", by decide⟩) t' ∧
    t.log = [.request true (.submitVote "v" "fully_ai" "a"),
      .response true (some (.success (.vote ⟨50, 1 / 2⟩))),
      .response false (some (.success (.userID "a")))] ∧
    t'.log.map (anonymous tabAndPage) = t.log.map (anonymous tabAndPage) := by
  have hids : (knowing ⟨"1", by decide⟩ "a").ids.SameShape (knowing ⟨"2", by decide⟩ "b").ids :=
    ⟨rfl, rfl⟩
  have hbrowser : (knowing ⟨"1", by decide⟩ "a").browser = (knowing ⟨"2", by decide⟩ "b").browser :=
    rfl
  have hrun := run_of_exec (P := Any) (show exec Loop.step Any
    (.init (knowing ⟨"1", by decide⟩ "a")) (voteFromTab ⟨"1", by decide⟩) = some _ from rfl)
  obtain ⟨t', hrun', -, hlog⟩ := anonymous_log_of_run hids hbrowser hrun
  exact ⟨_, t', hrun', rfl, hlog⟩

/-! ### The local id -/

/-- Two local ids with one hash. -/
def Difference.ofLocalID (sha256 : List UInt8 → Digest) : Difference sha256 where
  localID id id' := publicUserID (sha256Hex sha256) id = publicUserID (sha256Hex sha256) id'
  userID := Eq
  state _ := True
  userID_of_localID _ _ h := h

omit [DecidableEq ι] in
theorem entry_eq {x x' : Entry hub ι (Option MessageResponse)}
    (h : Entry.Alike (Difference.ofLocalID sha256).relation
      (fun i ↦ (Difference.ofLocalID sha256).Ends (sender i)) x x') : x = x' := by
  cases h with
  | request i hq =>
    cases hq with
    | same => rfl
    | submitVote _ _ hu | deleteVote _ hu | getUserInfo hu =>
      obtain rfl : _ = _ := hu
      rfl
  | response i hr =>
    obtain ⟨rfl, rfl⟩ | ⟨r, r', hanswers, rfl, rfl⟩ := eq_none_or_exists_of_rel hr
    · rfl
    · obtain rfl | ⟨-, u, u', hu, rfl, rfl⟩ := hanswers.same
      · rfl
      · obtain rfl : u = u' := hu
        rfl

/-- **The local id is not sent to anyone.** Two workers whose local ids have the same hash, as well
as those that they would generate, send the same requests and answer the same. -/
theorem log_of_run (hlocal : Option.Rel (Difference.ofLocalID sha256).localID s.ids.localID
      s'.ids.localID) (hcached : s.ids.cachedPublicUserID = s'.ids.cachedPublicUserID)
    (hbrowser : s.browser = s'.browser)
    (huuid : ∀ i, publicUserID (sha256Hex sha256) (uuid i) =
      publicUserID (sha256Hex sha256) (uuid' i))
    (h : Run Loop.step Any (.init s) (es.map (Hub.HubEvent.event sha256 order sender uuid)) t) :
    ∃ t', Run Loop.step Any (.init s')
        (es.map (Hub.HubEvent.event sha256 order sender uuid')) t' ∧
      t'.store.browser = t.store.browser ∧ t'.log = t.log := by
  have hrel {α : Type} {o o' : Option α} (h : o = o') : Option.Rel Eq o o' := by
    subst h
    cases o with
    | none => exact .none
    | some => exact .some rfl
  obtain ⟨t', hrun, halike⟩ := Difference.alike_run (d := .ofLocalID sha256) huuid
    ⟨hlocal, hrel hcached, hbrowser, fun _ _ _ ↦ trivial⟩ h fun _ _ _ _ ↦ trivial
  refine ⟨t', hrun, halike.store.browser.symm, ?_⟩
  exact (List.forall₂_eq_eq_eq.le _ _ (halike.log.imp fun _ _ ↦ entry_eq)).symm

/-- Under a digest that shows the first byte, one hash for two ids. -/
theorem publicUserID_firstByteDigest :
    publicUserID (sha256Hex LookupRun.firstByteDigest) ⟨"1a", by decide⟩ =
      publicUserID (sha256Hex LookupRun.firstByteDigest) ⟨"1b", by decide⟩ := by
  have hfirst : sha256Hex LookupRun.firstByteDigest "1a" =
      sha256Hex LookupRun.firstByteDigest "1b" := by decide +kernel
  have hsucc : hashIterations = 4999 + 1 := rfl
  rw [publicUserID, publicUserID, iteratedHash, iteratedHash, hsucc,
    Function.iterate_succ_apply _ 4999, hfirst, Function.iterate_succ_apply _ 4999]

/-- Two such ids, and one log. -/
theorem log_voteFromTab : ∃ t', Run Loop.step Any (.init (knowing ⟨"1b", by decide⟩ "a"))
      (voteFromTab ⟨"1b", by decide⟩) t' ∧
    t'.log = [.request true (.submitVote "v" "fully_ai" "a"),
      .response true (some (.success (.vote ⟨50, 1 / 2⟩))),
      .response false (some (.success (.userID "a")))] := by
  have hlocal : Option.Rel (Difference.ofLocalID LookupRun.firstByteDigest).localID
      (knowing ⟨"1a", by decide⟩ "a").ids.localID (knowing ⟨"1b", by decide⟩ "a").ids.localID :=
    .some publicUserID_firstByteDigest
  have hcached : (knowing ⟨"1a", by decide⟩ "a").ids.cachedPublicUserID =
      (knowing ⟨"1b", by decide⟩ "a").ids.cachedPublicUserID := rfl
  have hbrowser : (knowing ⟨"1a", by decide⟩ "a").browser =
      (knowing ⟨"1b", by decide⟩ "a").browser := rfl
  have hrun := run_of_exec (P := Any) (show exec Loop.step Any
    (.init (knowing ⟨"1a", by decide⟩ "a")) (voteFromTab ⟨"1a", by decide⟩) = some _ from rfl)
  obtain ⟨t', hrun', -, hlog⟩ := log_of_run hlocal hcached hbrowser
    (fun _ ↦ publicUserID_firstByteDigest) hrun
  exact ⟨t', hrun', hlog⟩

/-! ### The states of videos -/

/-- One worker, and states of videos with a property. -/
def Difference.ofStates (sha256 : List UInt8 → Digest) (P : VideoID × VideoState → Prop) :
    Difference sha256 where
  localID := Eq
  userID := Eq
  state := P
  userID_of_localID _ _ h := congrArg _ h

/-- A state of a video that was in the cache, or came from the server. -/
def Known (s : HubStore) (es : List (Hub.HubEvent ι)) (x : VideoID × VideoState) : Prop :=
  (∃ video, s.browser.cache.videos.lookup x.1 = some video ∧ video.state = x.2) ∨
    ∃ e ∈ es, x ∈ Difference.sent e

/-- **No state of a video is made up.** Every one that is answered, or in the cache in the end, was
in the cache before, or in a reply of the server, under the same video. -/
theorem states_of_run
    (h : Run Loop.step Any (.init s) (es.map (Hub.HubEvent.event sha256 order sender uuid)) t) :
    (∀ i r, .response i (some r) ∈ t.log → ∀ x ∈ r.states, Known s es x) ∧
      ∀ v video, t.store.browser.cache.videos.lookup v = some video →
        Known s es (v, video.state) := by
  have hrel {α : Type} (o : Option α) : Option.Rel Eq o o := by
    cases o with
    | none => exact .none
    | some => exact .some rfl
  obtain ⟨t', -, halike⟩ := Difference.alike_run (d := .ofStates sha256 (Known s es))
    (fun _ ↦ rfl) ⟨hrel _, hrel _, rfl, fun v video hv ↦ Or.inl ⟨video, hv, rfl⟩⟩ h
    fun e he x hx ↦ Or.inr ⟨e, he, hx⟩
  refine ⟨fun i r hr ↦ ?_, halike.store.keeps⟩
  obtain ⟨x', -, hx'⟩ := halike.exists_entry hr
  cases hx' with
  | response _ hr =>
    obtain ⟨ho, -⟩ | ⟨r, r', hanswers, ho, -⟩ := eq_none_or_exists_of_rel hr
    · cases ho
    · obtain rfl := Option.some.inj ho
      exact hanswers.states

/-- The body of a full sync with one video. -/
def oneVideoBody : Body where
  videos := .error ""
  vote := .error ""
  delta := .error ""
  full := .ok ⟨[⟨"v", 90, fun _ ↦ none, 1, false, none, 0⟩], [], 7⟩
  user := .error ""
  errorMessage := none

/-- A full sync, and a check of the video for a tab. -/
def syncThenCheck : List (Hub.HubEvent Bool) :=
  [.start false .autoSync, .access false, .access false, .answer false (.response 200 oneVideoBody),
    .access false, .access false, .access false, .access false, .access false,
    .start true (.message (.checkVideos ["v"])), .access true]

/-- The state that is answered is that of the sync. -/
theorem states_syncThenCheck : ∃ t : Loop hub Bool (Option MessageResponse),
    t.log = [.request false .syncFull, .response false none,
      .response true (some (.success (.checked [("v", ⟨90, fun _ ↦ none, none, 0⟩)])))] ∧
    Known (knowing ⟨"1", by decide⟩ "a") syncThenCheck ("v", 90, fun _ ↦ none) := by
  obtain ⟨t, hexec, hlog⟩ : ∃ t, exec Loop.step Any (.init (knowing ⟨"1", by decide⟩ "a"))
      (syncThenCheck.map (Hub.HubEvent.event LookupRun.firstByteDigest (.ascending _) tabAndPage
        fun _ ↦ ⟨"1", by decide⟩)) = some t ∧
      t.log = [.request false .syncFull, .response false none,
        .response true (some (.success (.checked [("v", ⟨90, fun _ ↦ none, none, 0⟩)])))] :=
    ⟨_, rfl, rfl⟩
  refine ⟨t, hlog, (states_of_run (run_of_exec hexec)).1 true
    (.success (.checked [("v", ⟨90, fun _ ↦ none, none, 0⟩)])) ?_ _ (List.mem_singleton_self _)⟩
  rw [hlog]
  exact List.mem_of_getElem? (i := 2) rfl

end Log

end RealTube.Extension
