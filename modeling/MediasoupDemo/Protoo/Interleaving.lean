import MediasoupDemo.Protoo.ThreadOrder

/-!
# A response and the timeout of its request

There are two windows in which the order of the steps matters.  A response that
comes between `send` and `put` finds no entry and is thrown away.  A timeout
that starts between `receive` and `cancel` calls the handler, and so does the
response.

* `Tracked` follows a response that was matched with its request through the
  steps of all threads, in three phases.
* A response that hits neither window, and comes before the timeout is due, is
  matched (`Tidy.tracked`), stays tracked (`Tracked.run`), and settles its
  request, alone and once (`Tracked.settled`, `Tracked.finish`).
-/

namespace MediasoupDemo.Protoo

open Registry

namespace Threads

def callsFor (p : Peer) (requestId : Int) : List HandlerCall :=
  p.calls.filter fun c => c.proxy.mRequestId = requestId

theorem callsFor_call {p : Peer} {x : ClientRequestHandlerProxy}
    (hx : x.mClientRequestHandler ≠ none) (outcome : Outcome) (requestId : Int) :
    callsFor (p.call x outcome) requestId =
      callsFor p requestId ++
        if x.mRequestId = requestId then [{ proxy := x, outcome }] else [] := by
  rw [call_eq hx, callsFor, callsFor]
  show (p.calls ++ [_]).filter _ = _
  rw [List.filter_append]
  by_cases hid : x.mRequestId = requestId <;> simp [hid]

/-- How far the handling of a response has come. -/
inductive Phase (s : Threads) (x : ClientRequestHandlerProxy) (response : Response)
    (outcome : Outcome) : Prop
  | removed : s.socket = .removed x response → callsFor s.peer response.mId = [] →
      Phase s x response outcome
  | cancelled : s.socket = .cancelled x response → x ∉ s.peer.timers →
      callsFor s.peer response.mId = [] → Phase s x response outcome
  | settled : s.socket.proxy? ≠ some x → x ∉ s.peer.timers →
      callsFor s.peer response.mId = [{ proxy := x, outcome }] → Phase s x response outcome

/-- A response was received and matched with its request, whose timeout does not
run. -/
structure Tracked (s : Threads) (x : ClientRequestHandlerProxy) (response : Response)
    (outcome : Outcome) : Prop where
  id : x.mRequestId = response.mId
  created : x ∈ s.peer.created
  unlisted : s.peer.mSends.lookup response.mId = none
  registered : ∀ c ∈ s.callers, c.requestId ≠ response.mId
  notRun : s.looper.proxy? ≠ some x
  phase : Phase s x response outcome

section Tracked

variable {s : Threads} {ids : List Int} {x : ClientRequestHandlerProxy} {response : Response}
  {outcome : Outcome}

/-- A step that leaves the calls, the socket and the timeout of the proxy
alone. -/
theorem Phase.of_same {s' : Threads} (h : s.Phase x response outcome)
    (hsocket : s'.socket = s.socket) (htimers : x ∉ s.peer.timers → x ∉ s'.peer.timers)
    (hcalls : callsFor s'.peer response.mId = callsFor s.peer response.mId) :
    s'.Phase x response outcome := by
  cases h with
  | removed hs hc => exact .removed (hsocket.trans hs) (hcalls.trans hc)
  | cancelled hs ht hc => exact .cancelled (hsocket.trans hs) (htimers ht) (hcalls.trans hc)
  | settled hs ht hc => exact .settled (hsocket ▸ hs) (htimers ht) (hcalls.trans hc)

/-- A response that comes in time, after its request was registered, is matched
with it. -/
theorem Tidy.tracked (h : s.Tidy ids) (hserver : response.mId ∈ s.server)
    (htimely : ∀ y ∈ s.due, y.mRequestId ≠ response.mId)
    (hregistered : ∀ c ∈ s.callers, c.requestId ≠ response.mId) :
    ∃ x, s.peer.mSends.lookup response.mId = some x ∧
      ∀ outcome, (s.after (.receive response)).Tracked x response outcome := by
  -- Of the three places where an unanswered request can be, only the map is left.
  rcases h.unanswered _ hserver with ⟨c, hc, hid⟩ | ⟨x, hid, hx⟩
  · exact absurd hid (hregistered c hc)
  · have hnotDue : x ∉ s.due := fun hdue => htimely x hdue hid
    have hlookup := hx.resolve_left hnotDue
    refine ⟨x, hlookup, fun outcome => ?_⟩
    refine ⟨hid, (h.entry _ _ hlookup).1, AList.lookup_erase _ _,
      hregistered, fun hrun => hnotDue (h.looper x hrun).2, .removed ?_ ?_⟩
    · show matched s.peer response = _
      rw [matched, hlookup]
    · show s.peer.calls.filter _ = []
      rw [List.filter_eq_nil_iff]
      intro c hc hcid
      have hcid' : c.proxy.mRequestId = response.mId := by simpa using hcid
      rcases (h.calls c hc).2 with hdue | hanswered
      · exact htimely c.proxy hdue hcid'
      · exact hanswered (hcid' ▸ hserver)

variable {y : ClientRequestHandlerProxy} {response' : Response}
  (h : s.Tracked x response outcome)
include h

/-- Another proxy has another id. -/
theorem Tracked.id_ne (htidy : s.Tidy ids) (hy : y ∈ s.peer.created) (hne : y ≠ x) :
    y.mRequestId ≠ response.mId := by
  intro hid
  exact hne (htidy.eq_of_id hy h.created (hid.trans h.id.symm))

theorem Tracked.send (htidy : s.Tidy ids) {call : RequestCall}
    (hnew : call.requestId ∉ ids) : (s.after (.send call)).Tracked x response outcome := by
  have hid : call.requestId ≠ response.mId := by
    intro heq
    apply hnew
    rw [heq, ← h.id]
    exact htidy.createdIssued x h.created
  refine ⟨h.id, h.created, h.unlisted, ?_, h.notRun, h.phase.of_same rfl (fun ht => ht) rfl⟩
  intro c hc
  rcases mem_snoc.mp hc with hc | rfl
  · exact h.registered c hc
  · exact hid

theorem Tracked.construct {call : RequestCall}
    (hcall : .sent call ∈ s.callers) : (s.after (.construct call)).Tracked x response outcome := by
  have hid : call.requestId ≠ response.mId := h.registered _ hcall
  refine ⟨h.id, List.mem_append_left _ h.created, h.unlisted, ?_, h.notRun,
    h.phase.of_same rfl ?_ rfl⟩
  · intro c hc
    rcases mem_snoc.mp hc with hc | rfl
    · exact h.registered c (List.mem_of_mem_erase hc)
    · exact hid
  · intro hunarmed hin
    rcases mem_snoc.mp hin with hin | rfl
    · exact hunarmed hin
    · exact hid h.id

theorem Tracked.put (hy : .constructed y ∈ s.callers) :
    (s.after (.put y)).Tracked x response outcome := by
  have hid : response.mId ≠ y.mRequestId := fun heq => h.registered _ hy heq.symm
  refine ⟨h.id, h.created, ?_, ?_, h.notRun, h.phase.of_same rfl (fun ht => ht) rfl⟩
  · show AList.lookup response.mId (AList.insert y.mRequestId y s.peer.mSends) = none
    rw [AList.lookup_insert_ne hid]
    exact h.unlisted
  · exact fun c hc => h.registered c (List.mem_of_mem_erase hc)

theorem Tracked.start (hy : s.Enabled (.start y))
    (hwindow : y = x → s.socket ≠ .removed x response) :
    (s.after (.start y)).Tracked x response outcome := by
  -- Once the timeout is taken back it cannot start, and before that it is the window.
  have hne : y ≠ x := by
    rintro rfl
    cases h.phase with
    | removed hs _ => exact hwindow rfl hs
    | cancelled _ ht _ => exact ht hy.2.1
    | settled _ ht _ => exact ht hy.2.1
  refine ⟨h.id, h.created, h.unlisted, h.registered, ?_, h.phase.of_same rfl ?_ rfl⟩
  · show some y ≠ some x
    simpa using hne
  · exact fun ht hin => ht (List.mem_of_mem_erase hin)

theorem Tracked.unregister (hy : s.looper = .started y) :
    (s.after (.unregister y)).Tracked x response outcome := by
  have hrun := h.notRun
  rw [hy] at hrun
  exact ⟨h.id, h.created, lookup_erase_eq_none h.unlisted _, h.registered, hrun,
    h.phase.of_same rfl (fun ht => ht) rfl⟩

/-- The handler of another proxy is called. -/
theorem Tracked.called_other (htidy : s.Tidy ids)
    (hy : y ∈ s.peer.created) (hne : y ≠ x) (outcome' : Outcome) :
    Tracked { s with peer := s.peer.call y outcome' } x response outcome := by
  have hcalls : callsFor (s.peer.call y outcome') response.mId =
      callsFor s.peer response.mId := by
    rw [callsFor_call (htidy.handler y hy), if_neg (h.id_ne htidy hy hne), List.append_nil]
  rw [call_eq (htidy.handler y hy)] at hcalls ⊢
  exact ⟨h.id, h.created, h.unlisted, h.registered, h.notRun,
    h.phase.of_same rfl (fun ht => ht) hcalls⟩

theorem Tracked.reject (htidy : s.Tidy ids) (hy : s.looper = .unregistered y) :
    (s.after (.reject y)).Tracked x response outcome := by
  have hne : y ≠ x := by
    rintro rfl
    apply h.notRun
    rw [hy]
    rfl
  have hcreated := (htidy.looper y (by rw [hy]; rfl)).1
  have hcalled := h.called_other htidy hcreated hne Peer.requestTimeout
  exact { hcalled with notRun := nofun, phase := hcalled.phase.of_same rfl (fun ht => ht) rfl }

theorem Tracked.receive (htidy : s.Tidy ids) (hidle : s.socket = .idle) :
    (s.after (.receive response')).Tracked x response outcome := by
  refine ⟨h.id, h.created, lookup_erase_eq_none h.unlisted _, h.registered, h.notRun, ?_⟩
  cases h.phase with
  | removed hs _ => exact absurd (hidle.symm.trans hs) nofun
  | cancelled hs _ _ => exact absurd (hidle.symm.trans hs) nofun
  | settled _ ht hc =>
    refine .settled ?_ ht hc
    intro hx
    change (matched s.peer response').proxy? = some x at hx
    rw [proxy?_matched] at hx
    -- The entry is gone, also for a second response to the same request.
    rw [← (htidy.entry _ _ hx).2, h.id, h.unlisted] at hx
    cases hx

theorem Tracked.cancel (hy : s.socket = .removed y response') :
    (s.after (.cancel y response')).Tracked x response outcome := by
  refine ⟨h.id, h.created, h.unlisted, h.registered, h.notRun, ?_⟩
  cases h.phase with
  | removed hs hc =>
    cases hy.symm.trans hs
    refine .cancelled rfl ?_ hc
    show x ∉ s.peer.timers.filter _
    simp
  | cancelled hs _ _ => exact absurd (hy.symm.trans hs) nofun
  | settled hs ht hc =>
    rw [hy] at hs
    exact .settled hs (fun hin => ht (List.mem_filter.mp hin).1) hc

theorem Tracked.deliver (htidy : s.Tidy ids)
    (houtcome : Peer.outcomeOf response = .ok outcome) (hy : s.socket = .cancelled y response') :
    (s.after (.deliver y response')).Tracked x response outcome := by
  cases h.phase with
  | removed hs _ => exact absurd (hy.symm.trans hs) nofun
  | cancelled hs ht hc =>
    cases hy.symm.trans hs
    have hcalls : callsFor (s.peer.call x outcome) response.mId = [{ proxy := x, outcome }] := by
      rw [callsFor_call (htidy.handler x h.created), hc, if_pos h.id, List.nil_append]
    have hpeer : delivered s.peer x response = s.peer.call x outcome := by
      rw [delivered, houtcome]
    show Tracked { s with peer := delivered s.peer x response, socket := .idle } x response outcome
    rw [hpeer]
    rw [call_eq (htidy.handler x h.created)] at hcalls ⊢
    exact ⟨h.id, h.created, h.unlisted, h.registered, h.notRun,
      .settled nofun ht hcalls⟩
  | settled hs _ _ =>
    -- The socket is busy with another request by now.
    have hne : y ≠ x := by
      rintro rfl
      apply hs
      rw [hy]
      rfl
    have hcreated := (htidy.socket y (by rw [hy]; rfl)).1
    have hpeer : Tracked { s with peer := delivered s.peer y response' } x response outcome := by
      unfold delivered
      cases Peer.outcomeOf response' with
      | ok outcome' => exact h.called_other htidy hcreated hne outcome'
      | error ex => exact h
    refine { hpeer with phase := ?_ }
    cases hpeer.phase with
    | removed hs' _ => exact absurd (hy.symm.trans hs') nofun
    | cancelled hs' _ _ =>
      cases hy.symm.trans hs'
      exact absurd rfl hne
    | settled _ ht hc => exact .settled nofun ht hc

/-- The handling of the response goes on, whatever step is taken, unless it is
the start of the timeout in the window. -/
theorem Tracked.after (htidy : s.Tidy ids)
    (houtcome : Peer.outcomeOf response = .ok outcome) {a : Action} (ha : s.Enabled a)
    (hids : (ids ++ sendIds [a]).Nodup) (hwindow : a = .start x → s.socket ≠ .removed x response) :
    (s.after a).Tracked x response outcome := by
  cases a with
  | send call =>
    have hnew : (ids ++ [call.requestId]).Nodup := hids
    exact h.send htidy (nodup_snoc.mp hnew).1
  | construct call => exact h.construct ha
  | put y => exact h.put ha
  | elapse y => exact { h with phase := h.phase.of_same rfl (fun ht => ht) rfl }
  | start y => exact h.start ha fun heq => hwindow (by rw [heq])
  | unregister y => exact h.unregister ha
  | reject y => exact h.reject htidy ha
  | receive response' => exact h.receive htidy ha
  | cancel y response' => exact h.cancel ha
  | deliver y response' => exact h.deliver htidy houtcome ha

/-- And so it does over any steps. -/
theorem Tracked.run {s' : Threads} (htidy : s.Tidy ids)
    (houtcome : Peer.outcomeOf response = .ok outcome) {actions : List Action}
    (hids : (ids ++ sendIds actions).Nodup) (hrun : Interleave.run step s actions = some s')
    (hwindow : ∀ mid post s₁, actions = mid ++ .start x :: post →
      Interleave.run step s mid = some s₁ → s₁.socket ≠ .removed x response) :
    s'.Tracked x response outcome := by
  induction actions generalizing s ids with
  | nil =>
    cases hrun
    exact h
  | cons a actions ih =>
    obtain ⟨s₁, hstep, hrest⟩ := Interleave.run_cons_eq_some hrun
    obtain ⟨ha, rfl⟩ := step_eq_some hstep
    rw [sendIds_cons, ← List.append_assoc] at hids
    have hids' := hids.of_append_left
    have hnow : a = .start x → s.socket ≠ .removed x response := by
      rintro rfl
      exact hwindow [] actions s rfl rfl
    refine ih (h.after htidy houtcome ha hids' hnow) (htidy.after ha hids') hids hrest ?_
    rintro mid post s₂ rfl hmid
    apply hwindow (a :: mid) post s₂ rfl
    rw [Interleave.run_cons_of_step hstep]
    exact hmid

/-- When the socket is done with the response, the request is settled. -/
theorem Tracked.settled (hidle : s.socket = .idle) :
    callsFor s.peer response.mId = [{ proxy := x, outcome }] := by
  cases h.phase with
  | removed hs _ => exact absurd (hidle.symm.trans hs) nofun
  | cancelled hs _ _ => exact absurd (hidle.symm.trans hs) nofun
  | settled _ _ hc => exact hc

/-- The thread of the socket can always finish, with what is left of its
steps. -/
theorem Tracked.finish (htidy : s.Tidy ids) (houtcome : Peer.outcomeOf response = .ok outcome) :
    ∃ rest s', rest <:+ [.cancel x response, .deliver x response] ∧
      Interleave.run step s rest = some s' ∧
      callsFor s'.peer response.mId = [{ proxy := x, outcome }] := by
  cases h.phase with
  | settled _ _ hc => exact ⟨[], s, List.nil_suffix, rfl, hc⟩
  | cancelled hs _ _ =>
    refine ⟨[.deliver x response], s.after (.deliver x response), List.suffix_cons _ _, ?_, ?_⟩
    · exact Interleave.run_cons_of_step (step_of_enabled (a := .deliver x response) hs) []
    · exact (h.deliver htidy houtcome hs).settled rfl
  | removed hs _ =>
    let s₁ := s.after (.cancel x response)
    have hcancelled : s₁.socket = .cancelled x response := rfl
    refine ⟨_, s₁.after (.deliver x response), List.suffix_refl _, ?_, ?_⟩
    · rw [Interleave.run_cons_of_step (step_of_enabled (a := .cancel x response) hs)]
      exact Interleave.run_cons_of_step (step_of_enabled (a := .deliver x response) hcancelled) []
    · exact ((h.cancel hs).deliver (htidy.cancel hs) houtcome hcancelled).settled rfl

end Tracked

theorem outcomeOf_ok {response : Response} (h : response.mOK = true → response.mData ≠ none) :
    ∃ outcome, Peer.outcomeOf response = .ok outcome := by
  rcases Peer.outcomeOf_cases response with hok | ⟨-, hok, hdata⟩
  · exact hok
  · exact absurd hdata (h hok)

/-- In every order of the steps, with distinct ids: the first response to a
request, if it comes before the timeout of the request is due, after the request
was registered, and carries data or an error, is matched.  Unless the timeout
starts between the first two steps of the socket, the handler is called once,
with the outcome of the response, as soon as the socket is done with it. -/
theorem settled_once_by_response {before after : List Action} {response : Response}
    {s₀ s : Threads} (hids : (sendIds (before ++ .receive response :: after)).Nodup)
    (hbefore : run before = some s₀) (hrun : run (before ++ .receive response :: after) = some s)
    (hserver : response.mId ∈ s₀.server) (htimely : ∀ x ∈ s₀.due, x.mRequestId ≠ response.mId)
    (hregistered : ∀ c ∈ s₀.callers, c.requestId ≠ response.mId)
    (hdata : response.mOK = true → response.mData ≠ none)
    (hwindow : ∀ x mid post s₁, after = mid ++ .start x :: post →
      run (before ++ .receive response :: mid) = some s₁ → s₁.socket ≠ .removed x response) :
    ∃ x outcome, s₀.peer.mSends.lookup response.mId = some x ∧
      Peer.outcomeOf response = .ok outcome ∧
      (s.socket.proxy? ≠ some x → callsFor s.peer response.mId = [{ proxy := x, outcome }]) ∧
      (s.socket.proxy? = some x → callsFor s.peer response.mId = []) ∧
      ∃ rest s', rest <:+ [.cancel x response, .deliver x response] ∧
        Interleave.run step s rest = some s' ∧
        callsFor s'.peer response.mId = [{ proxy := x, outcome }] := by
  have happend : ∀ actions, run (before ++ actions) = Interleave.run step s₀ actions := by
    intro actions
    have hrun₀ : Interleave.run step {} before = some s₀ := hbefore
    rw [run, Interleave.run_append, hrun₀, Option.bind_some]
  have hsplit : sendIds (before ++ .receive response :: after) =
      sendIds before ++ sendIds after := by
    rw [sendIds, List.filterMap_append]
    rfl
  rw [hsplit] at hids
  rw [happend] at hrun
  obtain ⟨s₁, hstep, hafter⟩ := Interleave.run_cons_eq_some hrun
  obtain ⟨-, rfl⟩ := step_eq_some hstep
  have htidy₀ : s₀.Tidy (sendIds before) := tidy_new.run hids.of_append_left hbefore
  obtain ⟨outcome, houtcome⟩ := outcomeOf_ok hdata
  obtain ⟨x, hlookup, htracked⟩ := htidy₀.tracked hserver htimely hregistered
  have htidy₁ := htidy₀.receive response
  have hend : s.Tracked x response outcome := by
    refine (htracked outcome).run htidy₁ houtcome hids hafter ?_
    intro mid post s₂ hmid hrun₂
    apply hwindow x mid post s₂ hmid
    rw [happend, Interleave.run_cons_of_step hstep]
    exact hrun₂
  refine ⟨x, outcome, hlookup, houtcome, ?_, ?_, hend.finish (htidy₁.run hids hafter) houtcome⟩
  · intro hnot
    cases hend.phase with
    | removed hs _ => exact absurd (by rw [hs]; rfl) hnot
    | cancelled hs _ _ => exact absurd (by rw [hs]; rfl) hnot
    | settled _ _ hc => exact hc
  · intro hholds
    cases hend.phase with
    | removed _ hc => exact hc
    | cancelled _ _ hc => exact hc
    | settled hs _ _ => exact absurd hholds hs

/-- A request, its proxy and its response. -/
def join : RequestCall := ⟨7, "join", "data", 0⟩
@[inherit_doc join] def joinProxy : ClientRequestHandlerProxy := ⟨0, 7, "join", some 0⟩
@[inherit_doc join] def joined : Response := { mId := 7, mOK := true, mData := some "data" }

/-- The request is registered before the response comes, and the timeout is due
but does not start. -/
theorem settled_once_by_response_joined :
    ∃ s, run [.send join, .construct join, .put joinProxy, .receive joined, .elapse joinProxy,
        .cancel joinProxy joined, .deliver joinProxy joined] = some s ∧
      callsFor s.peer 7 = [⟨joinProxy, .resolve "data"⟩] := by
  have hwindow : ∀ (x : ClientRequestHandlerProxy) mid post (s₁ : Threads),
      [.elapse joinProxy, .cancel joinProxy joined, .deliver joinProxy joined] =
        mid ++ Action.start x :: post →
      run ([.send join, .construct join, .put joinProxy] ++ .receive joined :: mid) = some s₁ →
      s₁.socket ≠ .removed x joined := by
    intro x mid post s₁ heq
    have hmem : Action.start x ∈
        [.elapse joinProxy, .cancel joinProxy joined, .deliver joinProxy joined] := by
      rw [heq]
      simp
    simp at hmem
  obtain ⟨x, outcome, hlookup, houtcome, hdone, -⟩ :=
    @settled_once_by_response [.send join, .construct join, .put joinProxy]
      [.elapse joinProxy, .cancel joinProxy joined, .deliver joinProxy joined] joined _ _
      (by decide) rfl rfl (by decide) nofun nofun (by decide) hwindow
  cases hlookup
  cases houtcome
  exact ⟨_, rfl, hdone nofun⟩

/-- The response comes before the request is registered, and is thrown away; the
request times out.  The timeout starts between the first two steps of the
socket, and the handler is called twice. -/
theorem not_settled_once_by_response :
    (run [.send join]).map Threads.due = some [] ∧
    (run [.send join, .receive joined, .construct join, .put joinProxy, .elapse joinProxy,
      .start joinProxy, .unregister joinProxy, .reject joinProxy]).map
        (fun s => callsFor s.peer 7) = some [⟨joinProxy, Peer.requestTimeout⟩] ∧
    (run [.send join, .construct join, .put joinProxy]).map Threads.due = some [] ∧
    (run [.send join, .construct join, .put joinProxy, .receive joined, .elapse joinProxy,
      .start joinProxy, .unregister joinProxy, .reject joinProxy, .cancel joinProxy joined,
      .deliver joinProxy joined]).map (fun s => callsFor s.peer 7) =
        some [⟨joinProxy, Peer.requestTimeout⟩, ⟨joinProxy, .resolve "data"⟩] := by
  decide

end Threads

end MediasoupDemo.Protoo
