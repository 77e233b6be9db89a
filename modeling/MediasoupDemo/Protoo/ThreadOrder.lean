import MediasoupDemo.Protoo.Threads

/-!
# What holds in every order

`Tidy` is the invariant of the threads when no id is used twice.  Requests are
told apart by their ids, and a request that the server has not answered is on
its way to the map, or is in it, or its timeout is due.

There is one lemma per step, and `Tidy.run` puts them together.
-/

namespace MediasoupDemo.Protoo

open Registry

namespace Threads

/-- The ids of the requests that were sent. -/
def sendIds (actions : List Action) : List Int :=
  actions.filterMap fun
    | .send call => some call.requestId
    | _ => none

/-- Requests are told apart by their ids, and a request that the server has not
answered is on its way to the map, or is in it, or is due. -/
structure Tidy (s : Threads) (ids : List Int) : Prop where
  createdIds : (s.peer.created.map ClientRequestHandlerProxy.mRequestId).Nodup
  createdIssued : ∀ x ∈ s.peer.created, x.mRequestId ∈ ids
  handler : ∀ x ∈ s.peer.created, x.mClientRequestHandler ≠ none
  callersIds : (s.callers.map Caller.requestId).Nodup
  sent : ∀ call, .sent call ∈ s.callers →
    call.requestId ∈ ids ∧ ∀ x ∈ s.peer.created, x.mRequestId ≠ call.requestId
  constructed : ∀ x, .constructed x ∈ s.callers → x ∈ s.peer.created
  entry : ∀ id x, s.peer.mSends.lookup id = some x → x ∈ s.peer.created ∧ x.mRequestId = id
  timers : ∀ x ∈ s.peer.timers, x ∈ s.peer.created
  looper : ∀ x, s.looper.proxy? = some x → x ∈ s.peer.created ∧ x ∈ s.due
  socket : ∀ x, s.socket.proxy? = some x → x ∈ s.peer.created ∧ x.mRequestId ∉ s.server
  calls : ∀ c ∈ s.peer.calls, c.proxy ∈ s.peer.created ∧
    (c.proxy ∈ s.due ∨ c.proxy.mRequestId ∉ s.server)
  serverIds : s.server.Nodup
  serverIssued : ∀ id ∈ s.server, id ∈ ids
  unanswered : ∀ id ∈ s.server, (∃ c ∈ s.callers, c.requestId = id) ∨
    ∃ x, x.mRequestId = id ∧ (x ∈ s.due ∨ s.peer.mSends.lookup id = some x)

theorem tidy_new : Tidy {} [] := by
  refine ⟨.nil, nofun, nofun, .nil, nofun, nofun, nofun, nofun, nofun, nofun, nofun, .nil,
    nofun, nofun⟩

section Tidy

variable {s : Threads} {ids : List Int}

variable {x : ClientRequestHandlerProxy}

section

variable (h : s.Tidy ids)
include h

theorem Tidy.eq_of_id {y : ClientRequestHandlerProxy} (hx : x ∈ s.peer.created)
    (hy : y ∈ s.peer.created) (hid : x.mRequestId = y.mRequestId) :
    x = y :=
  List.inj_on_of_nodup_map h.createdIds hx hy hid

theorem Tidy.callerIssued {c : Caller} (hc : c ∈ s.callers) :
    c.requestId ∈ ids := by
  cases c with
  | sent call => exact (h.sent call hc).1
  | constructed x => exact h.createdIssued x (h.constructed x hc)

theorem Tidy.other_ids {c c' : Caller} (hc : c ∈ s.callers)
    (hc' : c' ∈ s.callers.erase c) : c'.requestId ≠ c.requestId := by
  have hperm := (List.perm_cons_erase hc).map Caller.requestId
  have hnodup := hperm.nodup_iff.mp h.callersIds
  rw [List.map_cons, List.nodup_cons] at hnodup
  intro heq
  apply hnodup.1
  rw [← heq]
  exact List.mem_map_of_mem hc'

theorem Tidy.send {call : RequestCall} (hnew : call.requestId ∉ ids) :
    (s.after (.send call)).Tidy (ids ++ [call.requestId]) := by
  have hserver : ∀ x ∈ s.peer.created, x.mRequestId ∉ s.server →
      x.mRequestId ∉ s.server ++ [call.requestId] := by
    intro x hx hnot hin
    rcases mem_snoc.mp hin with hin | heq
    · exact hnot hin
    · exact hnew (heq ▸ h.createdIssued x hx)
  exact
    { h with
      createdIssued := fun x hx => List.mem_append_left _ (h.createdIssued x hx)
      callersIds := by
        refine nodup_map_snoc.mpr ⟨?_, h.callersIds⟩
        intro c hc heq
        have hissued := h.callerIssued hc
        rw [heq] at hissued
        exact hnew hissued
      sent := by
        intro call' hin
        rcases mem_snoc.mp hin with hin | heq
        · exact ⟨List.mem_append_left _ (h.sent call' hin).1, (h.sent call' hin).2⟩
        · cases heq
          refine ⟨mem_snoc.mpr (.inr rfl), ?_⟩
          intro x hx heq
          exact hnew (heq ▸ h.createdIssued x hx)
      constructed := by
        intro x hin
        rcases mem_snoc.mp hin with hin | heq
        · exact h.constructed x hin
        · cases heq
      socket := fun x hx => ⟨(h.socket x hx).1, hserver x (h.socket x hx).1 (h.socket x hx).2⟩
      calls := by
        intro c hc
        obtain ⟨hcreated, hover⟩ := h.calls c hc
        exact ⟨hcreated, hover.imp_right (hserver c.proxy hcreated)⟩
      serverIds := nodup_snoc.mpr ⟨fun hin => hnew (h.serverIssued _ hin), h.serverIds⟩
      serverIssued := by
        intro id hin
        rcases mem_snoc.mp hin with hin | heq
        · exact List.mem_append_left _ (h.serverIssued id hin)
        · exact mem_snoc.mpr (.inr heq)
      unanswered := by
        intro id hin
        rcases mem_snoc.mp hin with hin | heq
        · rcases h.unanswered id hin with ⟨c, hc, hid⟩ | hright
          · exact .inl ⟨c, List.mem_append_left _ hc, hid⟩
          · exact .inr hright
        · exact .inl ⟨.sent call, mem_snoc.mpr (.inr rfl), heq.symm⟩ }

theorem Tidy.construct {call : RequestCall} (hcall : .sent call ∈ s.callers) :
    (s.after (.construct call)).Tidy ids := by
  obtain ⟨hissued, hnew⟩ := h.sent call hcall
  have hcreated : ∀ x ∈ s.peer.created, x ∈ s.peer.created ++ [proxyOf s.peer call] :=
    fun x hx => List.mem_append_left _ hx
  exact
    { h with
      createdIds := nodup_map_snoc.mpr ⟨hnew, h.createdIds⟩
      createdIssued := by
        intro x hx
        rcases mem_snoc.mp hx with hx | rfl
        · exact h.createdIssued x hx
        · exact hissued
      handler := by
        intro x hx
        rcases mem_snoc.mp hx with hx | rfl
        · exact h.handler x hx
        · nofun
      callersIds := by
        refine nodup_map_snoc.mpr ⟨?_, (List.erase_sublist.map _).nodup h.callersIds⟩
        intro c hc
        show c.requestId ≠ (Caller.sent call).requestId
        exact h.other_ids hcall hc
      sent := by
        intro call' hin
        rcases mem_snoc.mp hin with hin | heq
        · obtain ⟨hissued', hnew'⟩ := h.sent call' (List.mem_of_mem_erase hin)
          refine ⟨hissued', ?_⟩
          intro x hx
          rcases mem_snoc.mp hx with hx | rfl
          · exact hnew' x hx
          · exact (h.other_ids hcall hin).symm
        · cases heq
      constructed := by
        intro x hin
        rcases mem_snoc.mp hin with hin | heq
        · exact hcreated x (h.constructed x (List.mem_of_mem_erase hin))
        · cases heq
          exact mem_snoc.mpr (.inr rfl)
      entry := fun id x hx => ⟨hcreated x (h.entry id x hx).1, (h.entry id x hx).2⟩
      timers := by
        intro x hx
        rcases mem_snoc.mp hx with hx | heq
        · exact hcreated x (h.timers x hx)
        · exact mem_snoc.mpr (.inr heq)
      looper := fun x hx => ⟨hcreated x (h.looper x hx).1, (h.looper x hx).2⟩
      socket := fun x hx => ⟨hcreated x (h.socket x hx).1, (h.socket x hx).2⟩
      calls := fun c hc => ⟨hcreated c.proxy (h.calls c hc).1, (h.calls c hc).2⟩
      unanswered := by
        intro id hin
        rcases h.unanswered id hin with ⟨c, hc, hid⟩ | hright
        · -- The caller of this request has become another one with the same id.
          by_cases heq : c = .sent call
          · subst heq
            exact .inl ⟨_, mem_snoc.mpr (.inr rfl), hid⟩
          · exact .inl ⟨c, List.mem_append_left _ ((List.mem_erase_of_ne heq).mpr hc), hid⟩
        · exact .inr hright }

theorem Tidy.put (hx : .constructed x ∈ s.callers) : (s.after (.put x)).Tidy ids :=
  { h with
    callersIds := (List.erase_sublist.map _).nodup h.callersIds
    sent := fun call hin => h.sent call (List.mem_of_mem_erase hin)
    constructed := fun y hin => h.constructed y (List.mem_of_mem_erase hin)
    entry := by
      intro id y hy
      rcases lookup_insert_eq_some.mp hy with ⟨hid, rfl⟩ | ⟨-, hy⟩
      · exact ⟨h.constructed x hx, hid.symm⟩
      · exact h.entry id y hy
    unanswered := by
      intro id hin
      by_cases hid : id = x.mRequestId
      · exact .inr ⟨x, hid.symm, .inr (lookup_insert_eq_some.mpr (.inl ⟨hid, rfl⟩))⟩
      · rcases h.unanswered id hin with ⟨c, hc, hcid⟩ | ⟨y, hyid, hy⟩
        · refine .inl ⟨c, (List.mem_erase_of_ne ?_).mpr hc, hcid⟩
          rintro rfl
          exact hid hcid.symm
        · refine .inr ⟨y, hyid, hy.imp_right ?_⟩
          exact fun hlookup => lookup_insert_eq_some.mpr (.inr ⟨hid, hlookup⟩) }

theorem Tidy.elapse (x : ClientRequestHandlerProxy) :
    (s.after (.elapse x)).Tidy ids :=
  { h with
    looper := fun y hy => ⟨(h.looper y hy).1, List.mem_append_left _ (h.looper y hy).2⟩
    calls := fun c hc => ⟨(h.calls c hc).1, (h.calls c hc).2.imp_left (List.mem_append_left _)⟩
    unanswered := by
      intro id hin
      rcases h.unanswered id hin with hleft | ⟨y, hyid, hy⟩
      · exact .inl hleft
      · exact .inr ⟨y, hyid, hy.imp_left (List.mem_append_left _)⟩ }

theorem Tidy.start (hx : s.Enabled (.start x)) : (s.after (.start x)).Tidy ids :=
  { h with
    timers := fun y hy => h.timers y (List.mem_of_mem_erase hy)
    looper := by
      intro y hy
      cases hy
      exact ⟨h.timers x hx.2.1, hx.2.2⟩ }

theorem Tidy.unregister (hx : s.looper = .started x) :
    (s.after (.unregister x)).Tidy ids := by
  have hlooper := h.looper x (by rw [hx]; rfl)
  exact
    { h with
      entry := by
        intro id y hy
        exact h.entry id y (lookup_erase_eq_some.mp hy).2
      looper := by
        intro y hy
        cases hy
        exact hlooper
      unanswered := by
        intro id hin
        rcases h.unanswered id hin with hleft | ⟨y, hyid, hy⟩
        · exact .inl hleft
        · by_cases hid : id = x.mRequestId
          · exact .inr ⟨x, hid.symm, .inl hlooper.2⟩
          · refine .inr ⟨y, hyid, hy.imp_right ?_⟩
            exact fun hlookup => lookup_erase_eq_some.mpr ⟨hid, hlookup⟩ }

end

theorem call_eq {p : Peer} (hx : x.mClientRequestHandler ≠ none) (outcome : Outcome) :
    p.call x outcome = { p with calls := p.calls ++ [{ proxy := x, outcome }] } := by
  unfold Peer.call
  cases hhandler : x.mClientRequestHandler with
  | none => exact absurd hhandler hx
  | some handler => rfl

/-- The handler of a proxy is called by a thread that holds it. -/
theorem Tidy.called (h : s.Tidy ids) (hx : x ∈ s.peer.created)
    (hover : x ∈ s.due ∨ x.mRequestId ∉ s.server) (outcome : Outcome) :
    Tidy { s with peer := s.peer.call x outcome } ids := by
  rw [call_eq (h.handler x hx)]
  exact
    { h with
      calls := by
        intro c hc
        rcases mem_snoc.mp hc with hc | rfl
        · exact h.calls c hc
        · exact ⟨hx, hover⟩ }

theorem Tidy.reject (h : s.Tidy ids) (hx : s.looper = .unregistered x) :
    (s.after (.reject x)).Tidy ids := by
  obtain ⟨hcreated, hdue⟩ := h.looper x (by rw [hx]; rfl)
  exact { h.called hcreated (.inl hdue) Peer.requestTimeout with looper := nofun }

theorem Tidy.receive (h : s.Tidy ids) (response : Response) :
    (s.after (.receive response)).Tidy ids :=
  { h with
    entry := by
      intro id y hy
      exact h.entry id y (lookup_erase_eq_some.mp hy).2
    socket := by
      intro x hx
      change (matched s.peer response).proxy? = some x at hx
      rw [proxy?_matched] at hx
      obtain ⟨hcreated, hid⟩ := h.entry _ _ hx
      refine ⟨hcreated, ?_⟩
      rw [hid]
      exact h.serverIds.not_mem_erase
    calls := fun c hc => ⟨(h.calls c hc).1,
      (h.calls c hc).2.imp_right fun hnot hin => hnot (List.mem_of_mem_erase hin)⟩
    serverIds := h.serverIds.erase _
    serverIssued := fun id hin => h.serverIssued id (List.mem_of_mem_erase hin)
    unanswered := by
      intro id hin
      obtain ⟨hid, hin⟩ := h.serverIds.mem_erase_iff.mp hin
      rcases h.unanswered id hin with hleft | ⟨y, hyid, hy⟩
      · exact .inl hleft
      · refine .inr ⟨y, hyid, hy.imp_right ?_⟩
        exact fun hlookup => lookup_erase_eq_some.mpr ⟨hid, hlookup⟩ }

theorem Tidy.cancel (h : s.Tidy ids) {response : Response} (hx : s.socket = .removed x response) :
    (s.after (.cancel x response)).Tidy ids :=
  { h with
    timers := fun y hy => h.timers y (List.mem_filter.mp hy).1
    socket := by
      intro y hy
      cases hy
      exact h.socket x (by rw [hx]; rfl) }

theorem Tidy.deliver (h : s.Tidy ids) {response : Response}
    (hx : s.socket = .cancelled x response) : (s.after (.deliver x response)).Tidy ids := by
  obtain ⟨hcreated, hanswered⟩ := h.socket x (by rw [hx]; rfl)
  have hpeer : Tidy { s with peer := delivered s.peer x response } ids := by
    unfold delivered
    cases Peer.outcomeOf response with
    | ok outcome => exact h.called hcreated (.inr hanswered) outcome
    | error ex => exact h
  exact { hpeer with socket := nofun }

/-- The invariant after a step. -/
theorem Tidy.after (h : s.Tidy ids) {a : Action} (ha : s.Enabled a)
    (hids : (ids ++ sendIds [a]).Nodup) : (s.after a).Tidy (ids ++ sendIds [a]) := by
  cases a with
  | send call =>
    have hnew : (ids ++ [call.requestId]).Nodup := hids
    exact h.send (nodup_snoc.mp hnew).1
  | construct call => exact (List.append_nil ids).symm ▸ h.construct ha
  | put x => exact (List.append_nil ids).symm ▸ h.put ha
  | elapse x => exact (List.append_nil ids).symm ▸ h.elapse x
  | start x => exact (List.append_nil ids).symm ▸ h.start ha
  | unregister x => exact (List.append_nil ids).symm ▸ h.unregister ha
  | reject x => exact (List.append_nil ids).symm ▸ h.reject ha
  | receive response => exact (List.append_nil ids).symm ▸ h.receive response
  | cancel x response => exact (List.append_nil ids).symm ▸ h.cancel ha
  | deliver x response => exact (List.append_nil ids).symm ▸ h.deliver ha

end Tidy

theorem sendIds_cons (a : Action) (actions : List Action) :
    sendIds (a :: actions) = sendIds [a] ++ sendIds actions := by
  rw [sendIds, sendIds, sendIds, ← List.filterMap_append]
  rfl

/-- The invariant after any steps. -/
theorem Tidy.run {s s' : Threads} {ids : List Int} (h : s.Tidy ids) {actions : List Action}
    (hids : (ids ++ sendIds actions).Nodup) (hrun : Interleave.run step s actions = some s') :
    s'.Tidy (ids ++ sendIds actions) := by
  induction actions generalizing s ids with
  | nil =>
    cases hrun
    exact (List.append_nil ids).symm ▸ h
  | cons a actions ih =>
    obtain ⟨s₁, hstep, hrest⟩ := Interleave.run_cons_eq_some hrun
    obtain ⟨ha, rfl⟩ := step_eq_some hstep
    rw [sendIds_cons, ← List.append_assoc] at hids ⊢
    exact ih (h.after ha hids.of_append_left) hids hrest

end Threads

end MediasoupDemo.Protoo
