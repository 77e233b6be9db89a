import MediasoupDemo.Room.Producers

/-!
# The tasks that make a producer

`enableMicImpl`, `enableCamImpl` and `enableShareImpl` have the same parts, which
`enable_of_opens` lists.  This module says what each of the parts does to the store.

* `fetchProduceId` and `onProduce` answer the native library, which asks for the id of the
  producer that it makes.  A request that fails is answered with the empty id, and the
  producer is registered with it.
* A disconnect disposes of the device.  `enableShareImpl` looks whether there is one,
  `enableMicImpl` and `enableCamImpl` do not.
-/

namespace MediasoupDemo.Room

open MediasoupDemo.Runtime Protoo Method Trace

/-! ## Fewer producers -/

variable {kind : MediaKind} (s : Producing)

namespace Producing

/-- No producer of a kind was registered: the field and the store have at most the producers
that they had, and without a producer in the field the store is the same. -/
structure Fewer (kind : MediaKind) (s s' : Producing) : Prop where
  field : ∀ p, s'.producer kind = some p → s.producer kind = some p
  store : ∀ id w, s'.producers.lookup id = some w → s.producers.lookup id = some w
  unchanged : s.producer kind = none → s'.producers = s.producers

theorem Fewer.refl (kind : MediaKind) (s : Producing) : Fewer kind s s :=
  ⟨fun _ h => h, fun _ _ h => h, fun _ => rfl⟩

theorem fewer_close {s : Producing} {p : Producer} (hp : s.producer kind = some p) :
    Fewer kind s (((s.close p).removeProducer p.id).setProducer kind none) := by
  have hfield : (((s.close p).removeProducer p.id).setProducer kind none).producer kind = none := by
    cases kind <;> rfl
  have hstore : (((s.close p).removeProducer p.id).setProducer kind none).producers =
      s.producers.erase p.id := by
    cases kind <;> rfl
  refine ⟨fun q hq => ?_, fun id w hw => ?_, fun hnone => ?_⟩
  · rw [hfield] at hq
    cases hq
  · rw [hstore] at hw
    exact (Registry.lookup_erase_eq_some.mp hw).2
  · rw [hp] at hnone
    cases hnone

theorem produce_field (source : Source) (transport : Nat) (id : String) :
    (s.produce source transport id).producer source.kind =
      some ⟨s.created.length, id, source, transport⟩ := by
  cases source <;> rfl

theorem lookup_produce (source : Source) (transport : Nat) (id : String) :
    (s.produce source transport id).producers.lookup id =
      some ⟨⟨s.created.length, id, source, transport⟩, source.type⟩ := by
  unfold produce addProducer
  exact AList.lookup_insert _

end Producing

namespace SendingClient

variable {c : SendingClient} (lib : OrgJson) {source : Source} {script : EnableScript}

/-! ## The request for an id -/

/-- `fetchProduceId(generator)`.  The answer of `syncRequest` may be an exception. -/
def fetchProduceId (answer : Except JavaException String) : String :=
  match answer with
  | .error _ => ""
  | .ok response =>
      match lib.parse response with
      | none => ""
      | some object => object.optString lib "id"

/-- `onProduce(...)` of the listener of the send transport. -/
def onProduce (c : SendingClient) (answer : Except JavaException String) : String :=
  if c.mClosed then "" else fetchProduceId lib answer

/-- The server rejects the request, does not answer it, or its answer is no JSON. -/
def RequestFails (answer : Except JavaException String) : Prop :=
  ∀ response, answer = .ok response → lib.parse response = none

theorem onProduce_of_requestFails {lib : OrgJson} {answer : Except JavaException String}
    (h : RequestFails lib answer) (c : SendingClient) : c.onProduce lib answer = "" := by
  unfold onProduce fetchProduceId
  split
  · rfl
  · cases answer with
    | error e => rfl
    | ok response =>
      dsimp only
      rw [h response rfl]

/-- The native library makes a producer with the id that `onProduce` returns. -/
def asking (c : SendingClient) (script : EnableScript) (answer : Except JavaException String) :
    EnableScript :=
  { script with produce := .returns (c.onProduce lib answer) }

/-! ## What the parts do -/

theorem ClosesIf.fewer {can : Prop} {x : Method SendingClient Unit} (hx : ClosesIf can x c) :
    ∃ c', x.run c = .ok () c' ∧ c'.mMediasoupDevice = c.mMediasoupDevice ∧
      c'.mSendTransport = c.mSendTransport ∧ c'.created = c.created ∧
      Producing.Fewer .video c.toProducing c'.toProducing := by
  rcases hx with ⟨p, c', -, hp, ⟨r, _, _, _, -, rfl⟩, hrun⟩ | ⟨-, hrun⟩
  · have hfield : c.producer .video = some p := hp
    exact ⟨_, hrun, rfl, rfl, rfl, Producing.fewer_close hfield⟩
  · exact ⟨c, hrun, rfl, rfl, rfl, .refl _ _⟩

theorem run_closeOther (reply : Reply) (source : Source) (c : SendingClient) :
    ∃ c', (closeOther lib reply source).run c = .ok () c' ∧
      c'.mMediasoupDevice = c.mMediasoupDevice ∧ c'.mSendTransport = c.mSendTransport ∧
      c'.created = c.created ∧ Producing.Fewer source.kind c.toProducing c'.toProducing := by
  cases source with
  | mic => exact ⟨c, rfl, rfl, rfl, rfl, .refl _ _⟩
  | cam => exact (closesIf_disableShareImpl lib false reply c).fewer
  | share => exact (closesIf_disableCamImpl lib reply c).fewer

/-- The device and the send transport agree to a producer. -/
structure Admits (c : SendingClient) (kind : MediaKind) (script : EnableScript)
    (transport : Nat) : Prop where
  device : c.mMediasoupDevice = some ⟨true⟩
  canProduce : script.canProduce kind = .returns true
  transport : c.mSendTransport = some transport

theorem run_withSendTransport {transport : Nat} (h : c.Admits kind script transport)
    (rest : Nat → Method SendingClient Outcome) :
    (withSendTransport kind script rest).run c = (rest transport).run c := by
  rw [withSendTransport, run_get_bind, h.device]
  dsimp only
  rw [if_neg (by decide), h.canProduce, h.transport]

theorem final_withSendTransport_of_not (h : ∀ transport, ¬ c.Admits kind script transport)
    (rest : Nat → Method SendingClient Outcome) :
    final (withSendTransport kind script rest) c = c := by
  rw [withSendTransport, final_get_bind]
  cases hdevice : c.mMediasoupDevice with
  | none => rfl
  | some device =>
    cases hloaded : device.isLoaded with
    | false =>
      dsimp only
      rw [hloaded]
      rfl
    | true =>
      dsimp only
      rw [hloaded, if_neg (by decide)]
      cases hable : script.canProduce kind with
      | throws e => rfl
      | mediasoupException message => rfl
      | returns able =>
        cases able with
        | false => rfl
        | true =>
          cases htransport : c.mSendTransport with
          | none => rfl
          | some transport =>
            have hadmits : device = ⟨true⟩ := congrArg Device.mk hloaded
            rw [hadmits] at hdevice
            exact absurd ⟨hdevice, hable, htransport⟩ (h transport)

theorem producing_createTrack (script : TrackScript) (source : Source) (c : SendingClient) :
    (final (createTrack script source) c).toProducing = c.toProducing := by
  have hvideo (capturerType : VideoCapturerType) :
      (final (createVideoTrack capturerType script) c).toProducing = c.toProducing := by
    obtain ⟨_, _, ⟨hrun, -⟩ | ⟨e, hrun⟩⟩ := createVideoTrack_cases capturerType script c
    · rw [final, hrun]
    · rw [final, hrun]
  cases source with
  | mic =>
    show (final (createAudioTrack script) c).toProducing = _
    obtain ⟨_, hrun | ⟨e, hrun⟩⟩ := createAudioTrack_cases script c
    · rw [final, hrun]
    · rw [final, hrun]
  | cam => exact hvideo .camera
  | share => exact hvideo .screen

theorem producing_catchMediasoup (source : Source) (body : Method SendingClient Outcome)
    (c : SendingClient) :
    (final (catchMediasoup source body) c).toProducing = (final body c).toProducing := by
  rw [catchMediasoup]
  refine final_bind_of (P := fun c' : SendingClient =>
    c'.toProducing = (final body c).toProducing) rfl fun outcome => ?_
  cases outcome with
  | done => exact preserves_pure ()
  | mediasoupException message =>
    refine Preserves.bind (fun c' h => ?_) fun _ => ?_
    · rw [final_room]
      exact h
    · refine preserves_modify fun c' h => ?_
      cases source <;> exact h

/-! ## A request that fails -/

/-- The task comes to `mSendTransport.produce`. -/
structure ComesToProduce (lib : OrgJson) (c : SendingClient) (source : Source)
    (script : EnableScript) : Prop where
  opens : c.Opens source
  admits : ∃ transport, c.Admits source.kind script transport
  track : ∃ c', (createTrack script.track source).run
    (final (closeOther lib script.close source) c) = .ok () c'

/-- A task that comes to `produce` registers a producer with the id that it is given. -/
theorem registered_of_comes {lib : OrgJson} (h : c.ComesToProduce lib source script) {id : String}
    (hid : script.produce = .returns id) :
    ∃ p, p.id = id ∧ p.number = c.created.length ∧
      (final (enableImpl lib source script) c).producer source.kind = some p ∧
      (final (enableImpl lib source script) c).producers.lookup id = some ⟨p, source.type⟩ := by
  obtain ⟨c₁, hclose, hdevice, htransport, hcreated, -⟩ := run_closeOther lib script.close source c
  obtain ⟨transport, hadmits⟩ := h.admits
  obtain ⟨c₂, htrack⟩ := h.track
  have hadmits₁ : c₁.Admits source.kind script transport :=
    ⟨hdevice.trans hadmits.device, hadmits.canProduce, htransport.trans hadmits.transport⟩
  have hsame := producing_createTrack script.track source c₁
  rw [final, hclose] at htrack
  rw [final, htrack] at hsame
  have hnumber : c₂.created.length = c.created.length := by
    rw [← hcreated]
    exact congrArg (fun s : Producing => s.created.length) hsame
  have hrun : (enable lib source script).run c =
      .ok .done (c₂.withProducing fun s => s.produce source transport id) := by
    rw [enable_of_opens lib h.opens, enableOpen, run_bind_ok hclose, run_withSendTransport hadmits₁,
      run_bind_ok htrack, produce, hid]
    rfl
  have hfinal : (final (enableImpl lib source script) c).toProducing =
      c₂.toProducing.produce source transport id := by
    rw [enableImpl_eq, producing_catchMediasoup, final, hrun]
    rfl
  rw [hfinal]
  exact ⟨_, rfl, hnumber, Producing.produce_field _ _ _ _, Producing.lookup_produce _ _ _ _⟩

/-- A task that does not come to `produce` registers none. -/
theorem fewer_of_not_comes {lib : OrgJson} (h : ¬ c.ComesToProduce lib source script) :
    Producing.Fewer source.kind c.toProducing
      (final (enableImpl lib source script) c).toProducing := by
  rw [enableImpl_eq, producing_catchMediasoup]
  by_cases hopens : c.Opens source
  · obtain ⟨c₁, hclose, hdevice, htransport, -, hfewer⟩ :=
      run_closeOther lib script.close source c
    rw [final_enable_of_opens hopens hclose]
    by_cases hadmits : ∃ transport, c₁.Admits source.kind script transport
    · obtain ⟨transport, hadmits⟩ := hadmits
      -- The track is what fails.
      have hsame := producing_createTrack script.track source c₁
      cases htrack : (createTrack script.track source).run c₁ with
      | ok _ c₂ =>
        refine absurd ⟨hopens, ⟨transport, ?_⟩, c₂, ?_⟩ h
        · exact ⟨hdevice.symm.trans hadmits.device, hadmits.canProduce,
            htransport.symm.trans hadmits.transport⟩
        · rw [final, hclose]
          exact htrack
      | error e c₂ =>
        rw [final, htrack] at hsame
        rw [final, run_withSendTransport hadmits, run_bind_error htrack]
        dsimp only at hsame ⊢
        rw [hsame]
        exact hfewer
    · rw [final_withSendTransport_of_not (not_exists.mp hadmits)]
      exact hfewer
  · rw [final, enable_of_not_opens lib hopens]
    exact Producing.Fewer.refl _ _

/-- In every state, a task whose request `produce` fails registers no producer if it does
not come to `mSendTransport.produce`.  If it does, it registers one with the empty id. -/
theorem enableImpl_of_requestFails (lib : OrgJson) (c : SendingClient) (source : Source)
    (script : EnableScript) (answer : Except JavaException String)
    (hfails : RequestFails lib answer) :
    (¬ c.ComesToProduce lib source script →
      Producing.Fewer source.kind c.toProducing
        (final (enableImpl lib source (asking lib c script answer)) c).toProducing) ∧
    (c.ComesToProduce lib source script →
      ∃ p, p.id = "" ∧ p.number = c.created.length ∧
        (final (enableImpl lib source (asking lib c script answer)) c).producer source.kind =
          some p ∧
        (final (enableImpl lib source (asking lib c script answer)) c).producers.lookup "" =
          some ⟨p, source.type⟩) := by
  -- Whether the task comes to `produce` does not depend on the answer.
  have hcomes : c.ComesToProduce lib source (asking lib c script answer) ↔
      c.ComesToProduce lib source script := by
    constructor
    · rintro ⟨hopens, ⟨transport, hdevice, hable, htransport⟩, htrack⟩
      exact ⟨hopens, ⟨transport, hdevice, hable, htransport⟩, htrack⟩
    · rintro ⟨hopens, ⟨transport, hdevice, hable, htransport⟩, htrack⟩
      exact ⟨hopens, ⟨transport, hdevice, hable, htransport⟩, htrack⟩
  have hid : (asking lib c script answer).produce = .returns "" := by
    rw [asking, onProduce_of_requestFails hfails]
  constructor
  · intro h
    exact fewer_of_not_comes fun hc => h (hcomes.mp hc)
  · intro h
    exact registered_of_comes (hcomes.mpr h) hid

def joined : SendingClient :=
  step (OrgJson.sample []) { mPeerConnectionUtils := some {} } (.join joining)

theorem enableImpl_timedOutRequest :
    ∃ p, p.id = "" ∧ p.number = 0 ∧
      (final (enableImpl (OrgJson.sample []) .mic
        (asking (OrgJson.sample []) joined (enabling "m") (.error (.io "request timeout"))))
        joined).producer .audio = some p := by
  obtain ⟨p, hid, hnumber, hfield, -⟩ :=
    (enableImpl_of_requestFails (OrgJson.sample []) joined .mic (enabling "m")
      (.error (.io "request timeout")) (fun _ h => by cases h)).2
      ⟨⟨rfl, rfl, rfl, fun h => by cases h⟩, ⟨0, rfl, rfl, rfl⟩, _, rfl⟩
  exact ⟨p, hid, hnumber, hfield⟩

/-- The camera of a client without producers is registered, though the answer of the server
is no JSON. -/
theorem not_fewer_malformedAnswer :
    joined.mCamProducer = none ∧ joined.producers.keys = [] ∧
      RequestFails (OrgJson.sample []) (.ok "oops") ∧
      (final (enableCamImpl (OrgJson.sample [])
        (asking (OrgJson.sample []) joined (enabling "v") (.ok "oops"))) joined).mCamProducer =
          some ⟨0, "", .cam, 0⟩ ∧
      (final (enableCamImpl (OrgJson.sample [])
        (asking (OrgJson.sample []) joined (enabling "v") (.ok "oops"))) joined).producers.keys =
          [""] := by
  refine ⟨rfl, rfl, fun response h => ?_, rfl, rfl⟩
  cases h
  rfl

/-! ## A device that was disposed of -/

/-- Without a device the task returns and changes nothing.  Without a send transport it makes no
producer, and with a device it returns unless `canProduce` throws. -/
structure Guarded (lib : OrgJson) (c : SendingClient) (source : Source)
    (script : EnableScript) : Prop where
  device : c.mMediasoupDevice = none → (enableImpl lib source script).run c = .ok () c
  transport : c.mSendTransport = none →
    (final (enableImpl lib source script) c).created = c.created
  returns : c.mSendTransport = none → c.mMediasoupDevice ≠ none →
    (∀ e, script.canProduce source.kind ≠ .throws e) →
    ∃ c', (enableImpl lib source script).run c = .ok () c'

/-- The task asks a device that is not there. -/
structure AsksAbsent (c : SendingClient) (source : Source) : Prop where
  device : c.mMediasoupDevice = none
  opens : c.Opens source

theorem run_enableImpl_of_asksAbsent (h : c.AsksAbsent source) (script : EnableScript) :
    ∃ c', (enableImpl lib source script).run c = .error .nullPointer c' := by
  obtain ⟨c₁, hclose, hdevice, -⟩ := run_closeOther lib script.close source c
  refine ⟨c₁, ?_⟩
  have hrun : (enable lib source script).run c = .error .nullPointer c₁ := by
    rw [enable_of_opens lib h.opens, enableOpen, run_bind_ok hclose, withSendTransport,
      run_get_bind, hdevice.trans h.device]
    rfl
  rw [enableImpl_eq, catchMediasoup]
  exact run_bind_error hrun _

theorem run_enableImpl_of_not_opens (h : ¬ c.Opens source) (script : EnableScript) :
    (enableImpl lib source script).run c = .ok () c := by
  rw [enableImpl_eq, catchMediasoup, run_bind_ok (enable_of_not_opens lib h script)]
  rfl

theorem created_of_no_transport (source : Source) (script : EnableScript)
    (h : c.mSendTransport = none) :
    (final (enableImpl lib source script) c).created = c.created := by
  have hproducing : (final (enableImpl lib source script) c).toProducing.created =
      (final (enable lib source script) c).toProducing.created := by
    rw [enableImpl_eq, producing_catchMediasoup]
  rw [hproducing]
  by_cases hopens : c.Opens source
  · obtain ⟨c₁, hclose, -, htransport, hcreated, -⟩ := run_closeOther lib script.close source c
    have hnone : ∀ transport, ¬ c₁.Admits source.kind script transport := by
      intro transport hadmits
      have hsome := hadmits.transport
      rw [htransport, h] at hsome
      cases hsome
    rw [final_enable_of_opens hopens hclose, final_withSendTransport_of_not hnone]
    exact hcreated
  · rw [final, enable_of_not_opens lib hopens]

/-- The checks in front of the send transport end the block. -/
theorem run_withSendTransport_of_none (hnone : c.mSendTransport = none)
    (hdevice : c.mMediasoupDevice ≠ none) (hable : ∀ e, script.canProduce kind ≠ .throws e)
    (rest : Nat → Method SendingClient Outcome) :
    ∃ outcome, (withSendTransport kind script rest).run c = .ok outcome c := by
  obtain ⟨device, hdevice⟩ := Option.ne_none_iff_exists'.mp hdevice
  rw [withSendTransport, run_get_bind, hdevice]
  dsimp only
  split
  · exact ⟨_, rfl⟩
  · cases hcan : script.canProduce kind with
    | throws e => exact absurd hcan (hable e)
    | mediasoupException message => exact ⟨_, rfl⟩
    | returns able =>
      cases able with
      | false => exact ⟨_, rfl⟩
      | true =>
        rw [hnone]
        exact ⟨_, rfl⟩

theorem returns_of_no_transport (source : Source) (script : EnableScript)
    (hnone : c.mSendTransport = none) (hdevice : c.mMediasoupDevice ≠ none)
    (hable : ∀ e, script.canProduce source.kind ≠ .throws e) :
    ∃ c', (enableImpl lib source script).run c = .ok () c' := by
  by_cases hopens : c.Opens source
  · obtain ⟨c₁, hclose, hdevice₁, htransport, -⟩ := run_closeOther lib script.close source c
    obtain ⟨outcome, hrun⟩ := run_withSendTransport_of_none (htransport.trans hnone)
      (hdevice₁ ▸ hdevice) hable fun transport => do
        createTrack script.track source
        produce source script transport
    have hblock : (enable lib source script).run c = .ok outcome c₁ := by
      rw [enable_of_opens lib hopens, enableOpen, run_bind_ok hclose, hrun]
    rw [enableImpl_eq, catchMediasoup, run_bind_ok hblock]
    cases outcome <;> exact ⟨_, rfl⟩
  · exact ⟨c, run_enableImpl_of_not_opens lib hopens script⟩

theorem guarded_iff (c : SendingClient) (source : Source) (script : EnableScript) :
    Guarded lib c source script ↔ ¬ c.AsksAbsent source := by
  constructor
  · intro h hasks
    obtain ⟨c', hrun⟩ := run_enableImpl_of_asksAbsent lib hasks script
    have hreturns := h.device hasks.device
    rw [hrun] at hreturns
    cases hreturns
  · intro h
    refine ⟨fun hdevice => ?_, created_of_no_transport lib source script,
      returns_of_no_transport lib source script⟩
    exact run_enableImpl_of_not_opens lib (fun hopens => h ⟨hdevice, hopens⟩) script

/-- A task that makes a producer is guarded. -/
def GuardedTask (c : SendingClient) : SendTask → Prop
  | .enableMic script => c.Guarded lib .mic script
  | .enableCam script => c.Guarded lib .cam script
  | .enableShare script => c.Guarded lib .share script
  | .join _ | .disconnect _ _ | .disableMic _ | .disableCam _ | .disableShare _ => True

/-- A microphone or a camera is enabled without a device. -/
def EnabledWithoutDevice (c : SendingClient) : SendTask → Prop
  | .enableMic _ => c.AsksAbsent .mic
  | .enableCam _ => c.AsksAbsent .cam
  | _ => False

theorem guardedTask_iff (c : SendingClient) (task : SendTask) :
    c.GuardedTask lib task ↔ ¬ c.EnabledWithoutDevice task := by
  cases task with
  | enableMic script => exact guarded_iff lib c .mic script
  | enableCam script => exact guarded_iff lib c .cam script
  | enableShare script =>
    -- The device of a screen is looked for in front of the other checks.
    refine iff_of_true ((guarded_iff lib c .share script).mpr fun hasks => ?_) not_false
    have hsome := hasks.opens.device rfl
    rw [hasks.device] at hsome
    cases hsome
  | join _ | disconnect _ _ | disableMic _ | disableCam _ | disableShare _ =>
    exact iff_of_true trivial not_false

/-- In every run of the worker, every task that makes a producer is guarded, if and only if no
microphone and no camera is enabled without a device: by a client that is connecting, has its
`mPeerConnectionUtils`, and would make the producer. -/
theorem each_guarded_iff (lib : OrgJson) (c : SendingClient) (tasks : List SendTask) :
    Each (step lib) c (GuardedTask lib) tasks ↔
      Each (step lib) c (fun c task => ¬ c.EnabledWithoutDevice task) tasks := by
  constructor
  · exact fun h before task hbefore => (guardedTask_iff lib _ task).mp (h before task hbefore)
  · exact fun h before task hbefore => (guardedTask_iff lib _ task).mpr (h before task hbefore)

/-- The microphone that a join has posted is enabled after a disconnect. -/
theorem not_guarded_disconnected :
    (after (step (OrgJson.sample [])) { mPeerConnectionUtils := some {} }
        [.join joining, .disconnect [] []]).posted = [.enableMic, .enableCam] ∧
      ¬ Each (step (OrgJson.sample [])) { mPeerConnectionUtils := some {} }
        (GuardedTask (OrgJson.sample []))
        [.join joining, .disconnect [] [], .enableMic (enabling "m")] := by
  refine ⟨rfl, fun h => ?_⟩
  have hlast := h [.join joining, .disconnect [] []] (.enableMic (enabling "m")) (by simp)
  exact (guardedTask_iff _ _ _).mp hlast ⟨rfl, rfl, rfl, rfl, fun hshare => by cases hshare⟩

end SendingClient

end MediasoupDemo.Room
