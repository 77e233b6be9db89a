import MediasoupDemo.Protoo.Requests

/-!
# Requests that share an id

A request draws its id at random, and `request` does not look whether the id is
in use.  A request is pending as long as its timeout is armed.

* `LeftAlone` says what an event that belongs to another request must not do to
  a pending one, `NonInterfering` that no event does.
* `Posted` holds in every run: the timeouts are armed once, and a proxy is
  known by its `ref`.  `Separate` adds that the pending requests have distinct
  ids.
* `Collides` is a request that draws the id of a pending one.  The run up to
  it is separate.  Right after it the timeout of the older request removes the
  entry of the younger one.
-/

namespace MediasoupDemo.Protoo

open MediasoupDemo.Runtime Registry

namespace Peer

/-! ## Interference -/

/-- The events that belong to a request: its timeout, and a response with its
id. -/
def Event.Belongs (proxy : ClientRequestHandlerProxy) : Event → Prop
  | .timer ref => ref = proxy.ref
  | .message (.response response) => response.mId = proxy.mRequestId
  | _ => False

/-- A pending request is neither settled nor unregistered, and its timeout stays
armed. -/
structure LeftAlone (p p' : Peer) (proxy : ClientRequestHandlerProxy) : Prop where
  unsettled : p'.calls.filter (·.proxy = proxy) = p.calls.filter (·.proxy = proxy)
  registered : p.mSends.lookup proxy.mRequestId = some proxy →
    p'.mSends.lookup proxy.mRequestId = some proxy
  armed : proxy ∈ p'.timers

/-- Whatever belongs to one pending request leaves the others alone. -/
def NonInterfering (p : Peer) : Prop :=
  ∀ (e : Event) (proxy other : ClientRequestHandlerProxy),
    proxy ∈ p.timers → other ∈ p.timers → proxy ≠ other → e.Belongs proxy →
    LeftAlone p (p.next e) other

/-- A request is sent with the id of a pending one. -/
def Collides (p : Peer) (e : Event) : Prop :=
  p.transportClosed = false ∧ ∃ proxy ∈ p.timers, e.requestId? = some proxy.mRequestId

/-! ## Timeouts in every run -/

/-- The timeouts are those of proxies that were constructed, each armed once. -/
structure Posted (p : Peer) : Prop where
  known : ∀ proxy ∈ p.timers, proxy ∈ p.created
  refs : p.created.map ClientRequestHandlerProxy.ref = List.range p.created.length
  timersNodup : p.timers.Nodup

variable (transportClosed : Bool) {requestId : Int} {e : Event}

section Posted

variable {p p' : Peer} {proxy other : ClientRequestHandlerProxy}

/-- The next proxy is a new one. -/
theorem Posted.proxy_notMem (h : Posted p) (requestId : Int) (method : String)
    (handler : Option Nat) : p.proxy requestId method handler ∉ p.created := by
  intro hin
  have href := List.mem_map_of_mem (f := ClientRequestHandlerProxy.ref) hin
  rw [h.refs, List.mem_range] at href
  exact lt_irrefl _ href

theorem Posted.of_timers (h : Posted p) (hcreated : p'.created = p.created)
    (htimers : p'.timers.Sublist p.timers) : Posted p' := by
  refine ⟨?_, ?_, h.timersNodup.sublist htimers⟩
  · intro other hother
    rw [hcreated]
    exact h.known other (htimers.subset hother)
  · rw [hcreated]
    exact h.refs

theorem Posted.added (h : Posted p) {method : String} {handler : Option Nat}
    (hcreated : p'.created = p.created ++ [p.proxy requestId method handler])
    (htimers : p'.timers = p.timers ++ [p.proxy requestId method handler]) : Posted p' := by
  have hfresh := h.proxy_notMem requestId method handler
  refine ⟨?_, ?_, ?_⟩
  · intro other hother
    rw [htimers, mem_snoc] at hother
    rw [hcreated, mem_snoc]
    exact hother.imp_left (h.known other)
  · rw [hcreated, List.map_append, h.refs, List.length_append, List.length_singleton,
      List.range_succ]
    rfl
  · rw [htimers]
    exact nodup_snoc.mpr ⟨fun hin => hfresh (h.known _ hin), h.timersNodup⟩

theorem Posted.next_timer (h : Posted p) (hproxy : proxy ∈ p.timers) :
    p.next (.timer proxy.ref) =
      ((p.dequeue proxy).remove proxy.mRequestId).call proxy requestTimeout := by
  apply next_timer_armed
  exact find_of_key hproxy fun other hother href =>
    eq_of_ref h.refs (h.known other hother) (h.known proxy hproxy) href

theorem Posted.effect (h : Posted p) (heffect : Effect p e p') : Posted p' := by
  cases heffect with
  | unchanged hsame => exact h.of_timers hsame.created (by rw [hsame.timers])
  | added hproxy hsame =>
    subst hproxy
    exact h.added hsame.created hsame.timers
  | @answered response proxy outcome _ _ _ hsame =>
    have hfields := call_fields ((p.remove response.mId).cancel proxy) proxy outcome
    refine h.of_timers (hsame.created.trans hfields.2.1) ?_
    rw [hsame.timers, hfields.1]
    exact List.filter_sublist
  | failed _ _ _ _ hsame =>
    refine h.of_timers hsame.created ?_
    rw [hsame.timers]
    exact List.filter_sublist
  | @expired _ proxy _ _ _ hsame =>
    have hfields := call_fields ((p.dequeue proxy).remove proxy.mRequestId) proxy requestTimeout
    refine h.of_timers (hsame.created.trans hfields.2.1) ?_
    rw [hsame.timers, hfields.1]
    exact List.erase_sublist
  | closed _ hsame =>
    rw [cancelAll_eq] at hsame
    refine h.of_timers hsame.created ?_
    rw [hsame.timers]
    exact List.filter_sublist

end Posted

theorem posted_new : Posted (new transportClosed) := by
  cases transportClosed with
  | true => exact ⟨nofun, rfl, .nil⟩
  | false => exact ⟨nofun, rfl, .nil⟩

theorem posted_run (events : List Event) :
    Posted ((new transportClosed).run events) := by
  induction events using List.reverseRecOn with
  | nil => exact posted_new transportClosed
  | append_singleton events e ih =>
    rw [run_snoc]
    exact ih.effect (effect_next _ e)

/-! ## A collision -/

theorem call_mSends (p : Peer) (proxy : ClientRequestHandlerProxy) (outcome : Outcome) :
    (p.call proxy outcome).mSends = p.mSends := by
  unfold Peer.call
  cases proxy.mClientRequestHandler <;> rfl

/-- After a collision the timeout of the older request unregisters the younger
one. -/
theorem Posted.interfering_of_collides {p : Peer} (h : Posted p) (hcollides : Collides p e) :
    ¬ NonInterfering (p.next e) := by
  obtain ⟨hopen, older, holder, hid⟩ := hcollides
  have hposted := h.effect (effect_next p e)
  cases e with
  | request requestId method data handler =>
    obtain rfl : requestId = older.mRequestId := Option.some.inj hid
    have hnext := next_request hopen older.mRequestId method data handler
    have hne : older ≠ p.proxy older.mRequestId method handler := by
      intro heq
      exact h.proxy_notMem older.mRequestId method handler (heq ▸ h.known older holder)
    have holder' : older ∈ (p.next (.request older.mRequestId method data handler)).timers := by
      rw [hnext]
      exact mem_snoc.mpr (.inl holder)
    have hyounger : p.proxy older.mRequestId method handler ∈
        (p.next (.request older.mRequestId method data handler)).timers := by
      rw [hnext]
      exact mem_snoc.mpr (.inr rfl)
    intro hfree
    have halone := hfree (.timer older.ref) older _ holder' hyounger hne rfl
    rw [hposted.next_timer holder'] at halone
    have hregistered := halone.registered
      (by rw [hnext]; exact AList.lookup_insert p.mSends)
    rw [call_mSends] at hregistered
    exact absurd rfl (lookup_erase_eq_some.mp hregistered).1
  | notify | message | timer | close | onOpen | onFail | onDisconnected | onClose => cases hid

/-! ## Without a collision -/

/-- The pending requests have distinct ids, and an entry is that of a pending
request. -/
structure Separate (p : Peer) : Prop where
  posted : Posted p
  entry : ∀ {requestId proxy}, p.mSends.lookup requestId = some proxy →
    proxy.mRequestId = requestId ∧ proxy ∈ p.timers
  ids : ∀ {proxy other}, proxy ∈ p.timers → other ∈ p.timers →
    proxy.mRequestId = other.mRequestId → proxy = other

section Separate

variable {p p' : Peer} {proxy other : ClientRequestHandlerProxy}

theorem Separate.of_same (h : Separate p) (hsame : Same p p') : Separate p' := by
  refine ⟨h.posted.of_timers hsame.created (by rw [hsame.timers]), ?_, ?_⟩
  · rw [hsame.mSends, hsame.timers]
    exact h.entry
  · rw [hsame.timers]
    exact h.ids

theorem Separate.added (h : Separate p) {method : String} {handler : Option Nat}
    (hfresh : ∀ proxy ∈ p.timers, proxy.mRequestId ≠ requestId) :
    Separate ((p.construct (p.proxy requestId method handler)).put requestId
      (p.proxy requestId method handler)) := by
  refine ⟨h.posted.added rfl rfl, ?_, ?_⟩
  · intro id other hlookup
    rcases lookup_insert_eq_some.mp hlookup with ⟨rfl, rfl⟩ | ⟨-, hlookup⟩
    · exact ⟨rfl, mem_snoc.mpr (.inr rfl)⟩
    · exact ⟨(h.entry hlookup).1, mem_snoc.mpr (.inl (h.entry hlookup).2)⟩
  · intro first second hfirst hsecond hid
    rcases mem_snoc.mp hfirst with hfirst | rfl
    · rcases mem_snoc.mp hsecond with hsecond | rfl
      · exact h.ids hfirst hsecond hid
      · exact absurd hid (hfresh first hfirst)
    · rcases mem_snoc.mp hsecond with hsecond | rfl
      · exact absurd hid.symm (hfresh second hsecond)
      · rfl

/-- A pending request is taken out of the map and of the queue. -/
theorem Separate.removed (h : Separate p) (hproxy : proxy ∈ p.timers)
    (hcreated : p'.created = p.created) (htimers : p'.timers.Sublist p.timers)
    (hkept : ∀ other ∈ p.timers, other ≠ proxy → other ∈ p'.timers)
    (hsends : p'.mSends = p.mSends.erase proxy.mRequestId) : Separate p' := by
  refine ⟨h.posted.of_timers hcreated htimers, ?_, ?_⟩
  · intro id other hlookup
    rw [hsends, lookup_erase_eq_some] at hlookup
    obtain ⟨hid, hother⟩ := h.entry hlookup.2
    refine ⟨hid, hkept other hother ?_⟩
    rintro rfl
    exact hlookup.1 hid.symm
  · intro first second hfirst hsecond
    exact h.ids (htimers.subset hfirst) (htimers.subset hsecond)

theorem Separate.effect (h : Separate p) (heffect : Effect p e p')
    (hfresh : ∀ proxy ∈ p.timers, e.requestId? ≠ some proxy.mRequestId) : Separate p' := by
  cases heffect with
  | unchanged hsame => exact h.of_same hsame
  | added hproxy hsame =>
    subst hproxy
    refine (h.added fun proxy hproxy hid => ?_).of_same hsame
    exact hfresh proxy hproxy (congrArg some hid.symm)
  | @answered response proxy outcome _ hlookup _ hsame =>
    have hfields := call_fields ((p.remove response.mId).cancel proxy) proxy outcome
    obtain ⟨hid, hproxy⟩ := h.entry hlookup
    refine Separate.of_same (h.removed hproxy hfields.2.1 ?_ ?_ ?_) hsame
    · rw [hfields.1]
      exact List.filter_sublist
    · intro other hother hne
      rw [hfields.1]
      exact List.mem_filter.mpr ⟨hother, by simpa using hne⟩
    · rw [call_mSends, hid]
      rfl
  | @failed response proxy _ _ hlookup _ _ hsame =>
    obtain ⟨hid, hproxy⟩ := h.entry hlookup
    have hremoved : Separate ((p.remove response.mId).cancel proxy) := by
      refine h.removed hproxy rfl List.filter_sublist ?_ (by rw [hid]; rfl)
      intro other hother hne
      exact List.mem_filter.mpr ⟨hother, by simpa using hne⟩
    exact hremoved.of_same hsame
  | @expired _ proxy _ hproxy _ hsame =>
    have hfields := call_fields ((p.dequeue proxy).remove proxy.mRequestId) proxy requestTimeout
    refine Separate.of_same (h.removed hproxy hfields.2.1 ?_ ?_ ?_) hsame
    · rw [hfields.1]
      exact List.erase_sublist
    · intro other hother hne
      rw [hfields.1]
      exact (List.mem_erase_of_ne hne).mpr hother
    · rw [call_mSends]
      rfl
  | closed _ hsame =>
    rw [cancelAll_eq] at hsame
    have htimers : p'.timers.Sublist p.timers := by
      rw [hsame.timers]
      exact List.filter_sublist
    refine ⟨h.posted.of_timers hsame.created htimers, ?_, ?_⟩
    · rw [hsame.mSends]
      nofun
    · intro first second hfirst hsecond
      exact h.ids (htimers.subset hfirst) (htimers.subset hsecond)

/-- A call of the handler of one request is none of another. -/
theorem filter_calls_of_ne (h : proxy ≠ other) (p : Peer) (outcome : Outcome) :
    (p.call proxy outcome).calls.filter (·.proxy = other) =
      p.calls.filter (·.proxy = other) := by
  unfold Peer.call
  cases proxy.mClientRequestHandler with
  | none => rfl
  | some handler => simp [h]

theorem LeftAlone.refl (hother : other ∈ p.timers) : LeftAlone p p other :=
  ⟨rfl, id, hother⟩

theorem leftAlone_remove {q : Peer} (hid : other.mRequestId ≠ requestId)
    (hcalls : q.calls = p.calls) (harmed : other ∈ q.timers)
    (hsends : q.mSends = p.mSends.erase requestId) : LeftAlone p q other := by
  refine ⟨by rw [hcalls], ?_, harmed⟩
  intro hlookup
  rw [hsends, lookup_erase_eq_some]
  exact ⟨hid, hlookup⟩

/-- The handler of another request is called. -/
theorem LeftAlone.call {q : Peer} (h : LeftAlone p q other) (hne : proxy ≠ other)
    (outcome : Outcome) : LeftAlone p (q.call proxy outcome) other := by
  refine ⟨?_, ?_, ?_⟩
  · rw [filter_calls_of_ne hne, h.unsettled]
  · rw [call_mSends]
    exact h.registered
  · rw [(call_fields q proxy outcome).1]
    exact h.armed

theorem Separate.leftAlone_timer (h : Separate p) (hproxy : proxy ∈ p.timers)
    (hother : other ∈ p.timers) (hne : proxy ≠ other) :
    LeftAlone p (p.next (.timer proxy.ref)) other := by
  have hid : other.mRequestId ≠ proxy.mRequestId := fun hid => hne (h.ids hproxy hother hid.symm)
  have harmed : other ∈ p.timers.erase proxy := (List.mem_erase_of_ne hne.symm).mpr hother
  have hremoved : LeftAlone p ((p.dequeue proxy).remove proxy.mRequestId) other :=
    leftAlone_remove hid rfl harmed rfl
  rw [h.posted.next_timer hproxy]
  exact hremoved.call hne requestTimeout

theorem Separate.leftAlone_response (h : Separate p) (hproxy : proxy ∈ p.timers)
    (hother : other ∈ p.timers) (hne : proxy ≠ other) {response : Response}
    (hresponse : response.mId = proxy.mRequestId) :
    LeftAlone p (p.next (.message (.response response))) other := by
  have hid : other.mRequestId ≠ response.mId := by
    rw [hresponse]
    exact fun hid => hne (h.ids hproxy hother hid.symm)
  cases hclosed : p.mClosed with
  | true =>
    rw [next_message_closed hclosed]
    exact .refl hother
  | false =>
    cases hlookup : p.mSends.lookup response.mId with
    | none =>
      rw [next_response_unmatched hlookup]
      exact .refl hother
    | some sent =>
      -- The entry under the id is the request that the response belongs to.
      obtain ⟨hsent, harmed⟩ := h.entry hlookup
      obtain rfl : sent = proxy := h.ids harmed hproxy (hsent.trans hresponse)
      have hkept : other ∈ p.timers.filter (· ≠ sent) :=
        List.mem_filter.mpr ⟨hother, by simpa using hne.symm⟩
      have hremoved : LeftAlone p ((p.remove response.mId).cancel sent) other :=
        leftAlone_remove hid rfl hkept rfl
      rw [next_response_matched hclosed hlookup]
      cases outcomeOf response with
      | ok outcome => exact hremoved.call hne outcome
      | error ex => exact hremoved

/-- Pending requests with distinct ids do not interfere. -/
theorem Separate.nonInterfering (h : Separate p) : NonInterfering p := by
  intro e proxy other hproxy hother hne hbelongs
  cases e with
  | timer ref =>
    obtain rfl : ref = proxy.ref := hbelongs
    exact h.leftAlone_timer hproxy hother hne
  | message m =>
    cases m with
    | response response => exact h.leftAlone_response hproxy hother hne hbelongs
    | request | notification => cases hbelongs
  | request | notify | close | onOpen | onFail | onDisconnected | onClose => cases hbelongs

/-- The next state is separate, unless two requests collide. -/
theorem Separate.next (h : Separate p) (hfree : ¬ Collides p e) :
    Separate (p.next e) := by
  cases hclosed : p.transportClosed with
  | false =>
    refine h.effect (effect_next p e) fun proxy hproxy hid => ?_
    exact hfree ⟨hclosed, proxy, hproxy, hid⟩
  | true =>
    cases e with
    | request requestId method data handler =>
      rw [next_request_closed hclosed]
      exact h
    | notify | message | timer | close | onOpen | onFail | onDisconnected | onClose =>
      exact h.effect (effect_next p _) nofun

end Separate

theorem separate_new : Separate (new transportClosed) := by
  refine ⟨posted_new transportClosed, ?_, ?_⟩
  · cases transportClosed <;> nofun
  · cases transportClosed <;> nofun

/-- A run without a collision stays separate. -/
theorem separate_run {events : List Event}
    (hfree : ∀ before e after, events = before ++ e :: after →
      ¬ Collides ((new transportClosed).run before) e) :
    Separate ((new transportClosed).run events) := by
  induction events using List.reverseRecOn with
  | nil => exact separate_new transportClosed
  | append_singleton events e ih =>
    rw [run_snoc]
    refine Separate.next (ih ?_) (hfree events e [] rfl)
    rintro before e' after rfl
    exact hfree before e' (after ++ [e]) (by simp)

/-- In a run the pending requests never interfere if and only if no request is
sent with the id of a pending one. -/
theorem nonInterfering_run_iff (transportClosed : Bool) (events : List Event) :
    (∀ before after, events = before ++ after →
        NonInterfering ((new transportClosed).run before)) ↔
      ∀ before e after, events = before ++ e :: after →
        ¬ Collides ((new transportClosed).run before) e := by
  constructor
  · rintro hall before e after rfl hcollides
    refine (posted_run transportClosed before).interfering_of_collides hcollides ?_
    rw [← run_snoc]
    exact hall (before ++ [e]) after (by simp)
  · rintro hfree before after rfl
    refine (separate_run transportClosed ?_).nonInterfering
    rintro first e second rfl
    exact hfree first e (second ++ after) (by simp)

/-- Both requests draw 5.  The timeout of the first one makes the peer forget the
second, whose response is then dropped. -/
theorem interfering_sameId :
    let id := generateRandomNumber 5
    let p := (new false).run
      [.request id "produce" "audio" (some 0), .request id "produce" "video" (some 1)]
    p.timers.map ClientRequestHandlerProxy.mMethod = ["produce", "produce"] ∧
      ¬ NonInterfering p ∧
      (p.run [.timer 0]).mSends.lookup id = none ∧
      (p.run [.timer 0,
          .message (.response { mId := id, mOK := true, mData := some "ok" })]).calls =
        [⟨⟨0, id, "produce", some 0⟩, requestTimeout⟩] := by
  refine ⟨by decide, ?_, by decide, by decide⟩
  intro hfree
  have halone := hfree (.timer 0) ⟨0, 5, "produce", some 0⟩ ⟨1, 5, "produce", some 1⟩
    (by decide) (by decide) (by decide) rfl
  exact absurd (halone.registered (by decide)) (by decide)

end Peer

end MediasoupDemo.Protoo
