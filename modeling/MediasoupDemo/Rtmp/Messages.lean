import MediasoupDemo.Rtmp.AmfWire
import MediasoupDemo.Rtmp.Packet

/-!
# Message bodies on the wire

`WireMessage` is a message as a server sends it: its type, the bytes of its body and
the packet body that the decoder is to make of them.

Three things decide whether `readBody` does so.

* Commands and data messages are read by a loop that takes a value before it looks for
  the end, so they need a value behind their name and transaction id (`Complete`).
* An end marker has to come in one bulk read (`marked`).
* An empty string at the end of a buffer is taken for the end of the stream
  (`endsEmpty`).

`readsIff_message` says that nothing else does, and that the last of them makes `readBody`
throw.  `fails_of_not_complete` says so of the first.
-/

namespace MediasoupDemo.Rtmp

open ByteCodec MediasoupDemo.Runtime InputStream Method

namespace AmfWire

theorem length_le_itemBytes (values : List AmfWire) :
    values.length ≤ (itemBytes values).length := by
  induction values with
  | nil => exact Nat.zero_le _
  | cons value values ih =>
    have hpos := value.length_bytes_pos
    rw [itemBytes, List.length_append, List.length_cons]
    omega

end AmfWire

open AmfWire

/-! ## Commands and data messages -/

variable {values : List AmfWire} {header : RtmpHeader} {message : WireMessage} {packetLength : Nat}

section

variable {whole : Prop}

/-- What the loop has counted behind a value of a message whose length is an `int`. -/
theorem int_add_getSize {bytesAlreadyRead : Nat} {value : AmfWire}
    (h : bytesAlreadyRead + value.bytes.length < 2 ^ 31) :
    int (bytesAlreadyRead + value.toData.getSize) =
      ((bytesAlreadyRead + value.bytes.length : Nat) : Int) := by
  rw [value.getSize_toData, int_add_int, int_eq_self ⟨by omega, by omega⟩, Int.natCast_add]

/-- The loop of `readVariableData` takes all values if there is at least one. -/
theorem readsIff_readVariableData (hint : packetLength < 2 ^ 31) (values : List AmfWire) :
    ∀ {turns bytesAlreadyRead : Nat}, values ≠ [] → values.length ≤ turns →
      WellFormedItems values → (itemsMarked values = true → whole) →
      bytesAlreadyRead + (itemBytes values).length = packetLength →
      ReadsIff whole (itemsEndEmpty values = false)
        (readVariableData packetLength turns bytesAlreadyRead) (itemBytes values)
        (itemData values) := by
  induction values with
  | nil => exact fun h => absurd rfl h
  | cons value values ih =>
    intro turns bytesAlreadyRead _ hturns hwell hmarked hlength
    obtain ⟨turns, rfl⟩ : ∃ n, turns = n + 1 :=
      ⟨turns - 1, by rw [List.length_cons] at hturns; omega⟩
    have hvalue :
        ReadsIff whole (value.endsEmpty = false) readFrom value.bytes value.toData := by
      apply value.readsIff_readFrom hwell.1
      intro h
      apply hmarked
      rw [itemsMarked, h]
      rfl
    rw [itemBytes, List.length_append] at hlength
    rw [readVariableData, itemBytes]
    have hcounted := @int_add_getSize bytesAlreadyRead value (by omega)
    cases values with
    | nil =>
      have hlast : ¬ int (bytesAlreadyRead + value.toData.getSize) < packetLength := by
        rw [itemBytes, List.length_nil] at hlength
        omega
      rw [itemBytes, List.append_nil]
      exact hvalue.bind_pure (if_neg hlast)
    | cons next values =>
      have hnext := next.length_bytes_pos
      have hmore : int (bytesAlreadyRead + value.toData.getSize) < packetLength := by
        rw [itemBytes, List.length_append] at hlength
        omega
      have hrest := @ih turns (bytesAlreadyRead + value.bytes.length) (List.cons_ne_nil _ _)
        (by rw [List.length_cons] at hturns; omega) hwell.2
        (fun h => hmarked (by rw [itemsMarked, h, Bool.or_true])) (by omega)
      have hne : itemBytes (next :: values) ≠ [] := by
        apply List.ne_nil_of_length_pos
        rw [itemBytes, List.length_append]
        omega
      refine hvalue.bind ?_ hne
      dsimp only
      rw [if_pos hmore, hcounted]
      exact hrest.map fun rest => value.toData :: rest

/-- The values at the end of a body, with as many turns as there are bytes. -/
theorem readsIff_values (hint : packetLength < 2 ^ 31) {bytesAlreadyRead : Nat}
    (hvalues : values ≠ []) (hwell : WellFormedItems values)
    (hmarked : itemsMarked values = true → whole)
    (hlength : bytesAlreadyRead + (itemBytes values).length = packetLength)
    (g : List AmfData → PacketBody) :
    ReadsIff whole (itemsEndEmpty values = false) (do
      let s ← get
      let items ← readVariableData packetLength (s.bytes.length + 1) bytesAlreadyRead
      pure (g items)) (itemBytes values) (g (itemData values)) := by
  apply readsIff_get_bind
  intro s hs
  have hle := length_le_itemBytes values
  exact (readsIff_readVariableData hint values hvalues (by omega) hwell hmarked hlength).map g

def commandBytes (commandName : List UInt8) (transactionId : BitVec 64) (values : List AmfWire) :
    List UInt8 :=
  [0x02] ++ (stringBytes commandName ++ ([0x00] ++
    (writeDouble transactionId ++ itemBytes values)))

/-- The bytes of a data message. -/
def dataBytes (type : List UInt8) (values : List AmfWire) : List UInt8 :=
  [0x02] ++ (stringBytes type ++ itemBytes values)

/-- What `Command.readBody` has counted before the values. -/
theorem length_commandBytes (commandName : List UInt8) (transactionId : BitVec 64)
    (values : List AmfWire) :
    sizeOfString (asciiString commandName) false + 9 + (itemBytes values).length =
      (commandBytes commandName transactionId values).length := by
  rw [commandBytes, sizeOfString, length_asciiString]
  simp only [List.length_append, length_stringBytes, length_writeDouble, List.length_singleton,
    Bool.false_eq_true, if_false]
  omega

/-- What `Data.readBody` has counted before the values. -/
theorem length_dataBytes (type : List UInt8) (values : List AmfWire) :
    sizeOfString (asciiString type) false + (itemBytes values).length =
      (dataBytes type values).length := by
  rw [dataBytes, sizeOfString, length_asciiString]
  simp only [List.length_append, length_stringBytes, List.length_singleton, Bool.false_eq_true,
    if_false]
  omega

theorem itemBytes_ne_nil (h : values ≠ []) :
    itemBytes values ≠ [] := by
  have hle := length_le_itemBytes values
  have hpos := List.length_pos_iff.mpr h
  exact List.ne_nil_of_length_pos (by omega)

theorem readsIff_command (htype : header.messageType = .commandAmf0) {commandName : List UInt8}
    {transactionId : BitVec 64} (hint : header.packetLength < 2 ^ 31)
    (hname : commandName.length < 2 ^ 16) (hvalues : values ≠ [])
    (hwell : WellFormedItems values) (hmarked : itemsMarked values = true → whole)
    (hlength : (commandBytes commandName transactionId values).length = header.packetLength) :
    ReadsIff whole (itemsEndEmpty values = false) (readBody header)
      (commandBytes commandName transactionId values)
      (.command (asciiString commandName) (doubleToInt (widened transactionId))
        (itemData values)) := by
  rw [← length_commandBytes] at hlength
  rw [commandBytes, readBody, htype]
  refine (reads_read 0x02).bind_readsIff ?_
  refine (readsIff_readString hname).bind ?_ (List.cons_ne_nil _ _)
  refine (reads_read 0x00).bind_readsIff ?_
  exact (reads_readDouble_widened transactionId).bind_readsIff
    (readsIff_values hint hvalues hwell hmarked hlength _)

theorem readsIff_data (htype : header.messageType = .dataAmf0) {type : List UInt8}
    (hint : header.packetLength < 2 ^ 31) (hname : type.length < 2 ^ 16) (hvalues : values ≠ [])
    (hwell : WellFormedItems values)
    (hmarked : itemsMarked values = true → whole)
    (hlength : (dataBytes type values).length = header.packetLength) :
    ReadsIff whole (itemsEndEmpty values = false) (readBody header)
      (dataBytes type values) (.data (asciiString type) (itemData values)) := by
  rw [← length_dataBytes] at hlength
  rw [dataBytes, readBody, htype]
  refine (reads_read 0x02).bind_readsIff ?_
  refine (readsIff_readString hname).bind ?_ (itemBytes_ne_nil hvalues)
  exact readsIff_values hint hvalues hwell hmarked hlength _

end

/-! ## Messages -/

/-- `UserControl.writeBody`. -/
def writeUserControl (type : UserControlType) (eventData : List Int) : List UInt8 :=
  writeUnsignedInt16 type.getIntValue ++ writeUnsignedInt32 (eventData.getD 0 0) ++
    if type = .SET_BUFFER_LENGTH then writeUnsignedInt32 (eventData.getD 1 0) else []

/-- A message that a server sends.  Names are bytes, of which the decoder makes characters. -/
inductive WireMessage where
  | abort (chunkStreamId : Int)
  | acknowledgement (sequenceNumber : Int)
  | userControl (type : UserControlType) (eventData : List Int)
  | windowAckSize (acknowledgementWindowSize : Int)
  | setPeerBandwidth (acknowledgementWindowSize : Int) (limitType : LimitType)
  | audio (content : List UInt8)
  | video (content : List UInt8)
  | command (commandName : List UInt8) (transactionId : BitVec 64) (values : List AmfWire)
  /-- a command without a transaction id -/
  | bareCommand (commandName : List UInt8)
  | data (type : List UInt8) (values : List AmfWire)

namespace WireMessage

def messageType : WireMessage → MessageType
  | abort _ => .abort
  | acknowledgement _ => .acknowledgement
  | userControl _ _ => .userControlMessage
  | windowAckSize _ => .windowAcknowledgementSize
  | setPeerBandwidth _ _ => .setPeerBandwidth
  | audio _ => .audio
  | video _ => .video
  | command _ _ _ | bareCommand _ => .commandAmf0
  | data _ _ => .dataAmf0

/-- The bytes of the body. -/
def bytes : WireMessage → List UInt8
  | abort value | acknowledgement value | windowAckSize value => writeUnsignedInt32 value
  | userControl type eventData => writeUserControl type eventData
  | setPeerBandwidth value limitType => writeUnsignedInt32 value ++ [limitType.getIntValue]
  | audio content | video content => content
  | command commandName transactionId values => commandBytes commandName transactionId values
  | bareCommand commandName => dataBytes commandName []
  | data type values => dataBytes type values

def value : WireMessage → PacketBody
  | abort chunkStreamId => .abort chunkStreamId
  | acknowledgement sequenceNumber => .acknowledgement sequenceNumber
  | userControl type eventData => .userControl (some type) eventData
  | windowAckSize acknowledgementWindowSize => .windowAckSize acknowledgementWindowSize
  | setPeerBandwidth acknowledgementWindowSize limitType =>
      .setPeerBandwidth acknowledgementWindowSize (some limitType)
  | audio content | video content => .content content
  | command commandName transactionId values =>
      .command (asciiString commandName) (doubleToInt (widened transactionId))
        (itemData values)
  | bareCommand commandName => .command (asciiString commandName) 0 []
  | data type values => .data (asciiString type) (itemData values)

/-- Numbers fit their fields, and a user control event has the payload of its kind. -/
def WellFormed : WireMessage → Prop
  | abort value | acknowledgement value | windowAckSize value => InInt value
  | userControl type eventData =>
      eventData.length = (if type = .SET_BUFFER_LENGTH then 2 else 1) ∧
        ∀ value ∈ eventData, InInt value
  | setPeerBandwidth value _ => InInt value
  | audio _ | video _ => True
  | command name _ values | data name values =>
      name.length < 2 ^ 16 ∧ WellFormedItems values
  | bareCommand commandName => commandName.length < 2 ^ 16

/-- A command has a transaction id and a value behind it, and a data message a value. -/
def Complete : WireMessage → Prop
  | command _ _ values | data _ values => values ≠ []
  | bareCommand _ => False
  | abort _ | acknowledgement _ | userControl _ _ | windowAckSize _ | setPeerBandwidth _ _
  | audio _ | video _ => True

/-- The message has an end marker. -/
def marked : WireMessage → Bool
  | command _ _ values | data _ values => itemsMarked values
  | abort _ | acknowledgement _ | userControl _ _ | windowAckSize _ | setPeerBandwidth _ _
  | audio _ | video _ | bareCommand _ => false

/-- The last read of the message is one of no bytes. -/
def endsEmpty : WireMessage → Bool
  | command _ _ values | data _ values => itemsEndEmpty values
  | audio content | video content => content.isEmpty
  | abort _ | acknowledgement _ | userControl _ _ | windowAckSize _ | setPeerBandwidth _ _
  | bareCommand _ => false

end WireMessage

theorem UserControlType.valueOf_getIntValue (type : UserControlType) :
    UserControlType.valueOf type.getIntValue = some type := by
  cases type <;> rfl

theorem LimitType.valueOf_getIntValue (limitType : LimitType) :
    LimitType.valueOf (some limitType.getIntValue) = some limitType := by
  cases limitType <;> rfl

section

variable {whole : Prop} {header : RtmpHeader}

/-- `UserControl.readBody` takes an event with the payload of its kind. -/
theorem reads_userControl (htype : header.messageType = .userControlMessage)
    {type : UserControlType} {eventData : List Int}
    (hwell : (WireMessage.userControl type eventData).WellFormed) :
    Reads whole (readBody header) (writeUserControl type eventData)
      (.userControl (some type) eventData) := by
  obtain ⟨hcount, hdata⟩ := hwell
  have htag : Reads whole readUnsignedInt16 (writeUnsignedInt16 type.getIntValue)
      type.getIntValue := reads_readUnsignedInt16 (by cases type <;> decide)
  rw [readBody, htype, writeUserControl, List.append_assoc]
  refine htag.bind ?_
  rw [type.valueOf_getIntValue]
  by_cases hbuffer : type = .SET_BUFFER_LENGTH
  · rw [if_pos hbuffer] at hcount ⊢
    obtain ⟨first, second, rfl⟩ := List.length_eq_two.mp hcount
    have hfirst : Reads whole readUnsignedInt32 (writeUnsignedInt32 first) first :=
      reads_readUnsignedInt32 (hdata first (by simp))
    have hsecond : Reads whole readUnsignedInt32 (writeUnsignedInt32 second) second :=
      reads_readUnsignedInt32 (hdata second (by simp))
    refine hfirst.bind ?_
    rw [if_pos (congrArg some hbuffer)]
    exact hsecond.map fun second => PacketBody.userControl (some type) [first, second]
  · rw [if_neg hbuffer] at hcount ⊢
    obtain ⟨first, rfl⟩ := List.length_eq_one_iff.mp hcount
    have hfirst : Reads whole readUnsignedInt32 (writeUnsignedInt32 first) first :=
      reads_readUnsignedInt32 (hdata first (by simp))
    refine hfirst.bind ?_
    rw [if_neg fun h => hbuffer (Option.some.inj h)]
    exact reads_pure _

/-- Audio and video bodies are the bytes that the header counts. -/
theorem readsIff_content
    (htype : header.messageType = .audio ∨ header.messageType = .video) {content : List UInt8}
    (hlength : content.length = header.packetLength) :
    ReadsIff whole (content.isEmpty = false) (readBody header) content (.content content) := by
  have hread : ReadsIff whole (content ≠ []) (readBytesUntilFull header.packetLength) content
      content := by
    rw [← hlength]
    exact readsIff_readBytesUntilFull content
  rw [List.isEmpty_eq_false_iff]
  rcases htype with htype | htype
  · rw [readBody, htype]
    exact hread.map PacketBody.content
  · rw [readBody, htype]
    exact hread.map PacketBody.content

theorem readsIff_message (hwell : message.WellFormed) (hcomplete : message.Complete)
    (htype : header.messageType = message.messageType)
    (hlength : message.bytes.length = header.packetLength) (hint : header.packetLength < 2 ^ 31)
    (hmarked : message.marked = true → whole) :
    ReadsIff whole (message.endsEmpty = false) (readBody header) message.bytes
      message.value := by
  cases message with
  | abort chunkStreamId =>
    rw [readBody, htype]
    exact ((reads_readUnsignedInt32 hwell).map PacketBody.abort).readsIff rfl
  | acknowledgement sequenceNumber =>
    rw [readBody, htype]
    exact ((reads_readUnsignedInt32 hwell).map PacketBody.acknowledgement).readsIff rfl
  | userControl type eventData => exact (reads_userControl htype hwell).readsIff rfl
  | windowAckSize acknowledgementWindowSize =>
    rw [readBody, htype]
    exact ((reads_readUnsignedInt32 hwell).map PacketBody.windowAckSize).readsIff rfl
  | setPeerBandwidth acknowledgementWindowSize limitType =>
    have hlimit := (@reads_read limitType.getIntValue whole).map fun b =>
      PacketBody.setPeerBandwidth acknowledgementWindowSize (LimitType.valueOf b)
    rw [limitType.valueOf_getIntValue] at hlimit
    rw [readBody, htype]
    exact ((reads_readUnsignedInt32 hwell).bind hlimit).readsIff rfl
  | audio content => exact readsIff_content (.inl htype) hlength
  | video content => exact readsIff_content (.inr htype) hlength
  | command commandName transactionId values =>
    exact readsIff_command htype hint hwell.1 hcomplete hwell.2 hmarked hlength
  | bareCommand commandName => exact hcomplete.elim
  | data type values => exact readsIff_data htype hint hwell.1 hcomplete hwell.2 hmarked hlength

end

/-! ## Messages that are not read -/

/-- What fails at the end of a stream fails behind a name at its end. -/
theorem fails_name {β : Type} {name : List UInt8} (hname : name.length < 2 ^ 16)
    {f : String → Method InputStream β} {segments : Segments}
    (hf : ∀ segments', Fails (f (asciiString name)) ⟨[], segments'⟩) :
    Fails (readString >>= f) ⟨stringBytes name, segments⟩ := by
  by_cases hempty : name = [] ∧ segments = .array
  · obtain ⟨rfl, rfl⟩ := hempty
    exact ((@readsIff_readString False [] hname).fails fun h => h rfl).bind f
  · have hread := (@readsIff_readString False name hname).before
    have hfails : Fails (readString >>= f) ⟨stringBytes name ++ [], segments⟩ :=
      hread.fails_bind False.elim (fun harray => .inl fun hnil => hempty ⟨hnil, harray⟩)
        fun segments' _ => hf segments'
    rw [List.append_nil] at hfails
    exact hfails

/-- The loop takes a value before it looks for the end of the message. -/
theorem fails_of_not_complete (hwell : message.WellFormed) (hcomplete : ¬ message.Complete)
    (htype : header.messageType = message.messageType) (segments : Segments) :
    Fails (readBody header) ⟨message.bytes, segments⟩ := by
  cases message with
  | abort | acknowledgement | userControl | windowAckSize | setPeerBandwidth | audio | video =>
    exact absurd trivial hcomplete
  | command commandName transactionId values =>
    have hnil : values = [] := not_not.mp hcomplete
    subst hnil
    rw [readBody, htype]
    refine (reads_read 0x02).fails_bind fun _ _ => ?_
    refine (readsIff_readString hwell.1).before.fails_bind False.elim
      (fun _ => .inr (List.cons_ne_nil _ _)) fun _ _ => ?_
    refine (reads_read 0x00).fails_bind fun _ _ => ?_
    exact (reads_readDouble_widened transactionId).fails_bind fun segments' _ =>
      ⟨.nullPointer, ⟨[], segments'⟩, rfl⟩
  | bareCommand commandName =>
    rw [readBody, htype]
    refine (reads_read 0x02).fails_bind fun segments' _ => ?_
    show Fails _ ⟨stringBytes commandName ++ [], segments'⟩
    rw [List.append_nil]
    exact fails_name hwell fun segments' => ⟨.nullPointer, ⟨[], segments'⟩, rfl⟩
  | data type values =>
    have hnil : values = [] := not_not.mp hcomplete
    subst hnil
    rw [readBody, htype]
    refine (reads_read 0x02).fails_bind fun segments' _ => ?_
    show Fails _ ⟨stringBytes type ++ [], segments'⟩
    rw [List.append_nil]
    exact fails_name hwell.1 fun segments' => ⟨.nullPointer, ⟨[], segments'⟩, rfl⟩

end MediasoupDemo.Rtmp
