import MediasoupDemo.Protoo.Json
import MediasoupDemo.Protoo.Effects

/-!
# `Message`: texts and messages

`Message.parse` makes a message of a text, and the `create...` methods make the
JSON object that is sent for one.  In a parsed message the data is an object
still; `toMessage` takes its text, which is how the peer passes it on.

* A text that was printed for a created object is parsed to the message again,
  with one exception: `parse` takes the id 0 for a missing id, and
  `generateRandomNumber` can return it.
* A response is delivered to the handler of its request, unless it is OK and
  has no data: the peer uses the data of such a response as an object.
-/

namespace MediasoupDemo.Protoo

open MediasoupDemo.Runtime Method

/-- A `Message` as `parse` makes it.  The two constructors of `Message.Response`
are kept apart. -/
inductive ParsedMessage where
  | request (mMethod : String) (mId : Int) (mData : Option JSONObject)
  | successResponse (mId : Int) (mData : Option JSONObject)
  | errorResponse (mId mErrorCode : Int) (mErrorReason : String)
  | notification (mMethod : String) (mData : Option JSONObject)

namespace ParsedMessage

/-- The message with the text of its data. -/
def toMessage (lib : OrgJson) : ParsedMessage → Message
  | request mMethod mId mData => .request { mMethod, mId, mData := mData.map lib.toString }
  | successResponse mId mData => .response { mId, mOK := true, mData := mData.map lib.toString }
  | errorResponse mId mErrorCode mErrorReason =>
      .response { mId, mOK := false, mErrorCode, mErrorReason := some mErrorReason }
  | notification mMethod mData => .notification { mMethod, mData := mData.map lib.toString }

def responseId? : ParsedMessage → Option Int
  | successResponse mId _ => some mId
  | errorResponse mId _ _ => some mId
  | _ => none

end ParsedMessage

namespace Message

/-! ## Reading -/

/-- `Message.parse`, on the object that was read. -/
def parseObject (lib : OrgJson) (object : JSONObject) : Option ParsedMessage :=
  if object.optBoolean "request" then
    let method := object.optString lib "method"
    let id := object.optLong lib "id"
    if method.isEmpty then none
    else if id = 0 then none
    else some (.request method id (object.optJSONObject "data"))
  else if object.optBoolean "response" then
    let id := object.optLong lib "id"
    if id = 0 then none
    else if object.optBoolean "ok" then
      some (.successResponse id (object.optJSONObject "data"))
    else
      some (.errorResponse id (object.optLong lib "errorCode") (object.optString lib "errorReason"))
  else if object.optBoolean "notification" then
    let method := object.optString lib "method"
    if method.isEmpty then none
    else some (.notification method (object.optJSONObject "data"))
  else none

/-- `Message.parse(raw)`, with `none` for `null`. -/
def parse (lib : OrgJson) (raw : String) : Option ParsedMessage :=
  match lib.parse raw with
  | none => none
  | some object => parseObject lib object

theorem parseObject_response {lib : OrgJson} {object : JSONObject} {message : ParsedMessage}
    {id : Int} (h : parseObject lib object = some message)
    (hresponse : message.responseId? = some id) :
    message =
      if object.optBoolean "ok" then .successResponse id (object.optJSONObject "data")
      else
        .errorResponse id (object.optLong lib "errorCode")
          (object.optString lib "errorReason") := by
  unfold parseObject at h
  simp only at h
  split_ifs at h with hrequest hempty hzero hresponseFlag hzero hok hnotification hempty
  -- The message is the one of the branch, which has no other id.
  all_goals
    cases h
    cases hresponse
  · rw [if_pos hok]
  · rw [if_neg hok]

/-! ## Writing -/

/-- The data of a message: an empty object for `null`. -/
def dataOrEmpty (data : Option JSONObject) : Json := .object (data.getD [])

/-- `createRequest(method, data)`, with the id that is drawn. -/
def createRequest (method : String) (id : Int) (data : Option JSONObject) : JSONObject :=
  (((JSONObject.put [] "request" (some (.bool true))).put "method" (some (.string method))).put
    "id" (some (.int id))).put "data" (some (dataOrEmpty data))

/-- `createSuccessResponse(request, data)`, for the id of the request. -/
def createSuccessResponse (id : Int) (data : Option JSONObject) : JSONObject :=
  (((JSONObject.put [] "response" (some (.bool true))).put "id" (some (.int id))).put
    "ok" (some (.bool true))).put "data" (some (dataOrEmpty data))

/-- `createErrorResponse(request, errorCode, errorReason)`, for the id of the
request. -/
def createErrorResponse (id errorCode : Int) (errorReason : Option String) : JSONObject :=
  ((((JSONObject.put [] "response" (some (.bool true))).put "id" (some (.int id))).put
    "ok" (some (.bool false))).put "errorCode" (some (.int errorCode))).put
    "errorReason" (errorReason.map .string)

def createNotification (method : String) (data : Option JSONObject) : JSONObject :=
  ((JSONObject.put [] "notification" (some (.bool true))).put "method"
    (some (.string method))).put "data" (some (dataOrEmpty data))

/-! ## The round trip -/

section RoundTrip

variable (lib : OrgJson) (id : Int) (data : Option JSONObject)

theorem parse_of_object {lib : OrgJson} {raw : String} {object : JSONObject}
    (h : lib.parse raw = some object) : parse lib raw = parseObject lib object := by
  rw [parse, h]

open JSONObject in
theorem parseObject_createRequest {method : String} (hmethod : method ≠ "") :
    parseObject lib (createRequest method id data) =
      if id = 0 then none else some (.request method id (some (data.getD []))) := by
  simp [parseObject, createRequest, optBoolean, optString, optLong, optJSONObject,
    OrgJson.valueOf, dataOrEmpty, hmethod]

open JSONObject in
theorem parseObject_createSuccessResponse :
    parseObject lib (createSuccessResponse id data) =
      if id = 0 then none else some (.successResponse id (some (data.getD []))) := by
  simp [parseObject, createSuccessResponse, optBoolean, optLong, optJSONObject, dataOrEmpty,
    opt_nil]

open JSONObject in
theorem parseObject_createErrorResponse (errorCode : Int) (errorReason : Option String) :
    parseObject lib (createErrorResponse id errorCode errorReason) =
      if id = 0 then none else some (.errorResponse id errorCode (errorReason.getD "")) := by
  cases errorReason with
  | none =>
    simp [parseObject, createErrorResponse, optBoolean, optString, optLong, opt_nil]
  | some reason =>
    simp [parseObject, createErrorResponse, optBoolean, optString, optLong, OrgJson.valueOf,
      opt_nil]

open JSONObject in
theorem parseObject_createNotification {method : String} (hmethod : method ≠ "") :
    parseObject lib (createNotification method data) =
      some (.notification method (some (data.getD []))) := by
  simp [parseObject, createNotification, optBoolean, optString, optJSONObject, OrgJson.valueOf,
    dataOrEmpty, opt_nil, hmethod]

end RoundTrip

/-- The objects that are created for one method, id and data. -/
def created (method : String) (id : Int) (data : JSONObject) (errorCode : Int)
    (errorReason : Option String) : List JSONObject :=
  [createRequest method id (some data), createSuccessResponse id (some data),
    createErrorResponse id errorCode errorReason, createNotification method (some data)]

/-- The texts of created messages are parsed to the same messages, except that
the id 0 is taken for a missing one.  A reason that is `null` becomes an empty
one. -/
theorem parse_created_iff (lib : OrgJson) (nextInt : Fin 10000000) (method : String)
    (data : JSONObject) (errorCode : Int) (errorReason : Option String) (hmethod : method ≠ "")
    (hlib : ∀ object ∈ created method (generateRandomNumber nextInt) data errorCode errorReason,
      lib.parse (lib.toString object) = some object) :
    let id := generateRandomNumber nextInt
    (parse lib (lib.toString (createRequest method id (some data))) =
        some (.request method id (some data)) ↔ id ≠ 0) ∧
      (parse lib (lib.toString (createSuccessResponse id (some data))) =
        some (.successResponse id (some data)) ↔ id ≠ 0) ∧
      ((∃ reason, errorReason = some reason ∧
        parse lib (lib.toString (createErrorResponse id errorCode errorReason)) =
          some (.errorResponse id errorCode reason)) ↔ id ≠ 0 ∧ errorReason ≠ none) ∧
      parse lib (lib.toString (createNotification method (some data))) =
        some (.notification method (some data)) := by
  intro id
  have hread : ∀ object ∈ created method id data errorCode errorReason,
      parse lib (lib.toString object) = parseObject lib object :=
    fun object hobject => parse_of_object (hlib object hobject)
  refine ⟨?_, ?_, ?_, ?_⟩
  · rw [hread _ (by simp [created]), parseObject_createRequest lib id _ hmethod]
    simp
  · rw [hread _ (by simp [created]), parseObject_createSuccessResponse]
    simp
  · rw [hread _ (by simp [created]), parseObject_createErrorResponse]
    cases errorReason with
    | none => simp
    | some reason => simp
  · rw [hread _ (by simp [created]), parseObject_createNotification lib _ hmethod]
    rfl

/-- A library for what is created with the id 4711. -/
theorem parse_created_join :
    (∀ object ∈ created "join" (generateRandomNumber 4711) [("device", .string "android")] 403
        (some "closed"),
      (OrgJson.sample (created "join" 4711 [("device", .string "android")] 403
        (some "closed"))).parse (Json.print (.object object)) = some object) ∧
      parse (OrgJson.sample (created "join" 4711 [("device", .string "android")] 403
          (some "closed")))
        (Json.print (.object (createRequest "join" 4711 (some [("device", .string "android")])))) =
          some (.request "join" 4711 (some [("device", .string "android")])) := by
  have hlib : ∀ object ∈ created "join" (generateRandomNumber 4711)
      [("device", .string "android")] 403 (some "closed"),
      (OrgJson.sample (created "join" 4711 [("device", .string "android")] 403
        (some "closed"))).parse (Json.print (.object object)) = some object := by
    simp only [created, List.forall_mem_cons]
    exact ⟨rfl, rfl, rfl, rfl, nofun⟩
  refine ⟨hlib, ?_⟩
  exact (parse_created_iff _ 4711 "join" _ 403 (some "closed") (by decide) hlib).1.mpr (by decide)

/-- A request that draws the id 0. -/
theorem parse_created_zero :
    let object := createRequest "join" (generateRandomNumber 0) (some [])
    (OrgJson.sample [object]).parse ((OrgJson.sample [object]).toString object) = some object ∧
      parse (OrgJson.sample [object]) ((OrgJson.sample [object]).toString object) = none := by
  exact ⟨rfl, rfl⟩

end Message

namespace Peer

/-! ## The replies to a server request -/

/-- `mTransport.sendMessage(response)` in a reply: what it throws is caught. -/
def sendReply (response : ParsedMessage) (lib : OrgJson) : Method Peer Unit :=
  catchException (sendMessage (response.toMessage lib)) fun _ => pure ()

/-- `ServerRequestHandler.accept(data)` for the request with this id. -/
def accept (lib : OrgJson) (id : Int) (data : Option String) : Method Peer Unit :=
  if (data.getD "").isEmpty then sendReply (.successResponse id (some [])) lib
  else
    match lib.parse (data.getD "") with
    -- The `JSONException` is caught.
    | none => pure ()
    | some object => sendReply (.successResponse id (some object)) lib

/-- `ServerRequestHandler.reject(code, errorReason)`. -/
def reject (lib : OrgJson) (id code : Int) (errorReason : String) : Method Peer Unit :=
  sendReply (.errorResponse id code errorReason) lib

theorem run_sendReply (response : ParsedMessage) (lib : OrgJson) (p : Peer) :
    (sendReply response lib).run p =
      .ok ()
        (if p.transportClosed then p
        else { p with sent := p.sent ++ [response.toMessage lib] }) := by
  by_cases hclosed : p.transportClosed = true
  · have hrun : (sendMessage (response.toMessage lib)).run p =
        .error (.illegalState "transport closed") p := by
      rw [sendMessage, run_get_bind, if_pos hclosed, run_throw]
    rw [sendReply, run_catchException_error hrun, run_pure, if_pos hclosed]
  · have hrun : (sendMessage (response.toMessage lib)).run p =
        .ok () { p with sent := p.sent ++ [response.toMessage lib] } := by
      rw [sendMessage, run_get_bind, if_neg hclosed, run_set]
    rw [sendReply, run_catchException_ok hrun, if_neg hclosed]

/-! ## Delivery of a response -/

/-- A message is delivered: its handler is called exactly once, and nothing is
thrown. -/
def DeliveredOnce (p : Peer) (message : Message) (proxy : ClientRequestHandlerProxy) : Prop :=
  ∃ p' outcome, (onMessage message).run p = .ok () p' ∧ p'.calls = p.calls ++ [⟨proxy, outcome⟩]

theorem not_deliveredOnce_closed {p : Peer} (hclosed : p.mClosed = true) (message : Message)
    (proxy : ClientRequestHandlerProxy) : ¬ DeliveredOnce p message proxy := by
  rintro ⟨p', outcome, hrun, hcalls⟩
  rw [onMessage, run_get_bind, if_pos hclosed, run_pure] at hrun
  cases hrun
  simp at hcalls

/-- A response is delivered if there is something to call the handler with. -/
theorem deliveredOnce_iff {p : Peer} (hopen : p.mClosed = false) {response : Response}
    {proxy : ClientRequestHandlerProxy} {handler : Nat}
    (hpending : p.mSends.lookup response.mId = some proxy)
    (hhandler : proxy.mClientRequestHandler = some handler) :
    DeliveredOnce p (.response response) proxy ↔
      response.mOK = false ∨ response.mData ≠ none := by
  have hrun := run_onMessage_matched hopen hpending
  constructor
  · rintro ⟨p', outcome, hok, -⟩
    by_contra hmissing
    rw [not_or, not_not] at hmissing
    rw [hrun, outcomeOf, if_pos (by simpa using hmissing.1), hmissing.2] at hok
    cases hok
  · intro h
    have houtcome : ∃ outcome, outcomeOf response = .ok outcome := by
      rcases outcomeOf_cases response with hok | ⟨-, hok, hdata⟩
      · exact hok
      · simp [hok, hdata] at h
    obtain ⟨outcome, houtcome⟩ := houtcome
    refine ⟨((p.remove response.mId).cancel proxy).call proxy outcome, outcome, ?_, ?_⟩
    · rw [hrun, houtcome]
      rfl
    · rw [Peer.call, hhandler]
      rfl

/-- A text that is parsed to the response of a pending request is delivered if
and only if the peer is open and the response is an error or has an object as its
data. -/
theorem parsed_deliveredOnce_iff (lib : OrgJson) (raw : String) (object : JSONObject)
    (message : ParsedMessage) (id : Int) (p : Peer) (proxy : ClientRequestHandlerProxy)
    (handler : Nat) (hobject : lib.parse raw = some object)
    (hparse : Message.parse lib raw = some message) (hresponse : message.responseId? = some id)
    (hpending : p.mSends.lookup id = some proxy)
    (hhandler : proxy.mClientRequestHandler = some handler) :
    DeliveredOnce p (message.toMessage lib) proxy ↔
      p.mClosed = false ∧
        (object.optBoolean "ok" = false ∨ ∃ data, object.opt "data" = some (.object data)) := by
  rw [Message.parse_of_object hobject] at hparse
  obtain rfl := Message.parseObject_response hparse hresponse
  cases hclosed : p.mClosed with
  | true =>
    have hnot := not_deliveredOnce_closed hclosed
    simp [hnot]
  | false =>
    cases hok : object.optBoolean "ok" with
    | true =>
      rw [if_pos rfl, ParsedMessage.toMessage, deliveredOnce_iff hclosed hpending hhandler,
        ← JSONObject.optJSONObject_ne_none]
      simp
    | false =>
      rw [if_neg (by decide), ParsedMessage.toMessage,
        deliveredOnce_iff hclosed hpending hhandler]
      simp

/-- A peer with one pending request. -/
theorem parsed_deliveredOnce_object :
    let object := Message.createSuccessResponse 7 (some [])
    let lib := OrgJson.sample [object]
    let raw := "\x7b\"response\":true,\"id\":7,\"ok\":true,\"data\":\x7b\x7d\x7d"
    let p := (new false).run [.request 7 "join" "data" (some 0)]
    lib.parse raw = some object ∧
      Message.parse lib raw = some (.successResponse 7 (some [])) ∧
      DeliveredOnce p ((ParsedMessage.successResponse 7 (some [])).toMessage lib)
        ⟨0, 7, "join", some 0⟩ := by
  intro object lib raw p
  have hobject : lib.parse raw = some object := rfl
  have hparse : Message.parse lib raw = some (.successResponse 7 (some [])) := rfl
  refine ⟨hobject, hparse, ?_⟩
  exact (parsed_deliveredOnce_iff lib raw object (.successResponse 7 (some [])) 7 p
    ⟨0, 7, "join", some 0⟩ 0 hobject hparse rfl (by decide) rfl).mpr ⟨by decide, .inr ⟨[], rfl⟩⟩

/-- A response that is OK and has no data: an exception escapes, the entry and
its timeout are gone, and the handler was not called. -/
theorem not_deliveredOnce_missingData :
    let object : JSONObject := [("response", .bool true), ("id", .int 7), ("ok", .bool true)]
    let lib := OrgJson.sample [object]
    let p := (new false).run [.request 7 "join" "data" (some 0)]
    let message := (ParsedMessage.successResponse 7 none).toMessage lib
    Message.parse lib "\x7b\"response\":true,\"id\":7,\"ok\":true\x7d" =
        some (.successResponse 7 none) ∧
      p.mSends.lookup 7 = some ⟨0, 7, "join", some 0⟩ ∧
      ¬ DeliveredOnce p message ⟨0, 7, "join", some 0⟩ ∧
      (p.next (.message message)).mSends.lookup 7 = none ∧
      (p.next (.message message)).timers = [] ∧ (p.next (.message message)).calls = [] := by
  refine ⟨rfl, by decide, ?_, by decide, by decide, by decide⟩
  rintro ⟨p', outcome, hrun, -⟩
  cases hrun

end Peer

end MediasoupDemo.Protoo
