import MediasoupDemo.Lib.Regex
import MediasoupDemo.Runtime.Basic
import Mathlib.Data.List.DropRight

/-!
# The URL of a connection

`RtmpConnection.connect` takes the parts of its URL from two places.  The host, the port, the
application and the stream are groups of a regular expression.  `tcUrl`, the URL of the
application, is what stands before the last slash.

`RtmpUrl` is a text of the form that the expression describes.  `exists_rtmpUrl` says that
there is no other text that matches, and `wholeMatch_text` which groups it gives.  The
expression lets the stream contain slashes, and then the two places disagree.
-/

namespace MediasoupDemo.Rtmp

open MediasoupDemo.Runtime Regex

/-! ## The code -/

/-- The line terminators of `java.util.regex`, which `.` does not match. -/
def isLineTerminator (c : Char) : Bool :=
  ['\n', '\r', '\u0085', '\u2028', '\u2029'].contains c

/-- `$`: the end of the input, or a line terminator at its end. -/
def atEnd (rest : List Char) : Bool :=
  rest.isEmpty || rest == ['\r', '\n'] || (rest.length == 1 && rest.all isLineTerminator)

/-- `[^/:]`. -/
def isHostChar (c : Char) : Bool := c != '/' && c != ':'

/-- `[^/]`. -/
def isAppChar (c : Char) : Bool := c != '/'

/-- `rtmp://`. -/
def scheme : List Char := "rtmp://".toList

/-- `^rtmp://([^/:]+)(:(\d+))*/([^/]+)(/(.*))*$`. -/
def rtmpUrlPattern : Regex Char :=
  .seq (.assert fun atStart _ => atStart) <|
  .seq (.literal scheme) <|
  .seq (.group 1 (.plus (.char isHostChar))) <|
  .seq (.star (.group 2 (.seq (.char (· == ':')) (.group 3 (.plus (.char Char.isDigit)))))) <|
  .seq (.char (· == '/')) <|
  .seq (.group 4 (.plus (.char isAppChar))) <|
  .seq (.star (.group 5 (.seq (.char (· == '/'))
    (.group 6 (.star (.char fun c => !isLineTerminator c)))))) <|
  .assert fun _ rest => atEnd rest

/-- The number that decimal digits spell. -/
def decimal (digits : List Char) : Nat :=
  digits.foldl (fun n c => 10 * n + (c.toNat - '0'.toNat)) 0

/-- `Integer.parseInt` of digits. -/
def parseInt (digits : List Char) : Except JavaException Int :=
  if decimal digits < 2 ^ 31 then pure (decimal digits)
  else throw (.illegalArgument ("For input string: " ++ String.ofList digits))

/-- The check of `new InetSocketAddress(host, port)`. -/
def checkPort (port : Int) : Except JavaException Unit :=
  if port < 0 ∨ 0xffff < port then throw (.illegalArgument ("port out of range:" ++ toString port))
  else pure ()

/-- The fields that `connect` sets. -/
structure ConnectFields where
  tcUrl : List Char
  host : List Char
  port : Int
  appName : List Char
  streamName : List Char
  deriving DecidableEq

/-- `url.substring(0, url.lastIndexOf('/'))`. -/
def beforeLastSlash (url : List Char) : List Char := (url.rdropWhile (· != '/')).dropLast

/-- `RtmpConnection.connect` up to the socket: `none` is a call that has returned `false`, `some`
one that goes on to connect.  The host is a group of every match. -/
def connect (url : List Char) : Except JavaException (Option ConnectFields) :=
  match rtmpUrlPattern.wholeMatch url with
  | none => pure none
  | some groups => do
      let tcUrl := beforeLastSlash url
      let host := (groups 1).getD []
      let port ← ((groups 3).map parseInt).getD (pure 1935)
      match groups 6, groups 4 with
      | some streamName, some appName =>
          checkPort port
          pure (some { tcUrl, host, port, appName, streamName })
      | _, _ => pure none

/-! ## Texts of the form of the pattern -/

/-- The parts of a text `rtmp://host[:port]*/appName[/streamName]`. -/
structure RtmpUrl where
  host : List Char
  ports : List (List Char)
  appName : List Char
  streamName : Option (List Char)
  host_ne_nil : host ≠ []
  host_chars : ∀ c ∈ host, isHostChar c = true
  ports_ne_nil : ∀ port ∈ ports, port ≠ []
  ports_digits : ∀ port ∈ ports, ∀ c ∈ port, c.isDigit = true
  appName_ne_nil : appName ≠ []
  appName_chars : ∀ c ∈ appName, isAppChar c = true
  streamName_chars : ∀ stream, streamName = some stream → ∀ c ∈ stream, isLineTerminator c = false

namespace RtmpUrl

/-- The ports, each behind a colon. -/
def portText (ports : List (List Char)) : List Char := ports.flatMap fun port => ':' :: port

/-- The stream name behind a slash, if there is one. -/
def streamText (streamName : Option (List Char)) : List Char :=
  (streamName.map fun stream => '/' :: stream).getD []

/-- The text up to the application. -/
def appUrl (u : RtmpUrl) : List Char :=
  scheme ++ (u.host ++ (portText u.ports ++ '/' :: u.appName))

def text (u : RtmpUrl) : List Char := u.appUrl ++ streamText u.streamName

/-- The last port, or the default one. -/
def port (u : RtmpUrl) : Nat := (u.ports.getLast?.map decimal).getD 1935

end RtmpUrl

/-- The groups after the ports: every port replaces the one before. -/
def portGroups (groups : Nat → Option (List Char)) : List (List Char) → Nat → Option (List Char)
  | [] => groups
  | port :: ports =>
      portGroups
        (Function.update (Function.update groups 3 (some port)) 2 (some (':' :: port))) ports

theorem portGroups_of_ne {n : Nat} (h2 : n ≠ 2) (h3 : n ≠ 3) (ports : List (List Char)) :
    ∀ groups, portGroups groups ports n = groups n := by
  induction ports with
  | nil => exact fun _ => rfl
  | cons port ports ih =>
    intro groups
    rw [portGroups, ih, Function.update_of_ne h2, Function.update_of_ne h3]

theorem portGroups_three (ports : List (List Char)) :
    ∀ groups, portGroups groups ports 3 = ports.getLast?.or (groups 3) := by
  induction ports with
  | nil => exact fun _ => rfl
  | cons port ports ih =>
    intro groups
    rw [portGroups, ih]
    cases ports with
    | nil => rfl
    | cons next ports =>
      rw [List.getLast?_cons_cons, List.getLast?_cons]
      rfl

/-- The loop over the ports stops at a slash. -/
theorem first_ports {ports : List (List Char)} (hne : ∀ port ∈ ports, port ≠ [])
    (hdigits : ∀ port ∈ ports, ∀ c ∈ port, c.isDigit = true) (rest : List Char) :
    ∀ groups, First
      (.star (.group 2 (.seq (.char (· == ':')) (.group 3 (.plus (.char Char.isDigit))))))
      ⟨false, RtmpUrl.portText ports ++ '/' :: rest, groups⟩
      ⟨false, '/' :: rest, portGroups groups ports⟩ := by
  induction ports with
  | nil =>
    intro groups
    refine first_star_nil fun β k => ?_
    rfl
  | cons port ports ih =>
    intro groups
    have hsplit : RtmpUrl.portText (port :: ports) ++ '/' :: rest =
        ':' :: (port ++ (RtmpUrl.portText ports ++ '/' :: rest)) := by
      simp [RtmpUrl.portText]
    -- Behind a port comes the colon of the next one or the slash.
    have hafter : ∀ c rest', RtmpUrl.portText ports ++ '/' :: rest = c :: rest' →
        c.isDigit = false := by
      intro c rest' heq
      cases ports with
      | nil =>
        cases heq
        rfl
      | cons next ports =>
        cases heq
        rfl
    have hcolon : First (.char (· == ':'))
        ⟨false, ':' :: (port ++ (RtmpUrl.portText ports ++ '/' :: rest)), groups⟩
        ⟨false, port ++ (RtmpUrl.portText ports ++ '/' :: rest), groups⟩ := first_char rfl _ _
    have hport : First (.group 3 (.plus (.char Char.isDigit)))
        ⟨false, port ++ (RtmpUrl.portText ports ++ '/' :: rest), groups⟩
        ⟨false, RtmpUrl.portText ports ++ '/' :: rest, Function.update groups 3 (some port)⟩ :=
      First.group (first_plus_char (hne port List.mem_cons_self) (hdigits port List.mem_cons_self)
        hafter) rfl
    have hturn := (hcolon.seq hport).group (n := 2) (w := ':' :: port) rfl
    rw [hsplit, portGroups]
    refine First.star_cons hturn ?_ (ih (fun p hp => hne p (List.mem_cons_of_mem _ hp))
      (fun p hp => hdigits p (List.mem_cons_of_mem _ hp)) _)
    simp only [List.length_cons, List.length_append]
    omega

/-- The groups after the stream name, which is taken in one turn. -/
def streamGroups (groups : Nat → Option (List Char)) (streamName : Option (List Char)) :
    Nat → Option (List Char) :=
  (streamName.map fun stream =>
    Function.update (Function.update groups 6 (some stream)) 5 (some ('/' :: stream))).getD groups

theorem streamGroups_none (groups : Nat → Option (List Char)) : streamGroups groups none = groups :=
  rfl

theorem streamGroups_some (groups : Nat → Option (List Char)) (stream : List Char) :
    streamGroups groups (some stream) =
      Function.update (Function.update groups 6 (some stream)) 5 (some ('/' :: stream)) := rfl

/-- The loop over the stream names takes all that is left. -/
theorem first_stream {streamName : Option (List Char)}
    (hchars : ∀ stream, streamName = some stream → ∀ c ∈ stream, isLineTerminator c = false)
    (groups : Nat → Option (List Char)) :
    First (.star (.group 5 (.seq (.char (· == '/'))
        (.group 6 (.star (.char fun c => !isLineTerminator c))))))
      ⟨false, RtmpUrl.streamText streamName, groups⟩
      ⟨false, [], streamGroups groups streamName⟩ := by
  have hend : ∀ groups, First (.star (.group 5 (.seq (.char (· == '/'))
      (.group 6 (.star (.char fun c => !isLineTerminator c)))))) ⟨false, [], groups⟩
      ⟨false, [], groups⟩ := fun groups => first_star_nil fun β k => rfl
  cases streamName with
  | none => exact hend groups
  | some stream =>
    have hslash : First (.char (· == '/')) ⟨false, '/' :: (stream ++ []), groups⟩
        ⟨false, stream ++ [], groups⟩ := first_char rfl _ _
    have hdots : First (.group 6 (.star (.char fun c => !isLineTerminator c)))
        ⟨false, stream ++ [], groups⟩ ⟨false, [], Function.update groups 6 (some stream)⟩ := by
      refine First.group (first_star_char ?_ ?_) rfl
      · intro c hc
        rw [hchars stream rfl c hc]
        rfl
      · intro c rest heq
        cases heq
    have hturn := (hslash.seq hdots).group (n := 5) (w := '/' :: stream)
      (by rw [List.append_nil, List.append_nil])
    rw [List.append_nil] at hturn
    rw [streamGroups_some]
    refine First.star_cons hturn ?_ (hend _)
    exact Nat.succ_pos _

variable {u : RtmpUrl} {url : List Char}

namespace RtmpUrl

variable (u : RtmpUrl)

theorem text_eq :
    u.text = scheme ++ (u.host ++ (portText u.ports ++
      '/' :: (u.appName ++ streamText u.streamName))) := by
  rw [text, appUrl]
  simp only [List.append_assoc, List.cons_append]

/-- The groups of the text. -/
def groups (u : RtmpUrl) : Nat → Option (List Char) :=
  streamGroups (Function.update
    (portGroups (Function.update (fun _ => none) 1 (some u.host)) u.ports) 4 (some u.appName))
    u.streamName

theorem wholeMatch_text : rtmpUrlPattern.wholeMatch u.text = some u.groups := by
  have hhost : ∀ rest, First (.group 1 (.plus (.char isHostChar)))
      ⟨false, u.host ++ (portText u.ports ++ '/' :: rest), fun _ => none⟩
      ⟨false, portText u.ports ++ '/' :: rest,
        Function.update (fun _ => none) 1 (some u.host)⟩ := by
    intro rest
    refine First.group (first_plus_char u.host_ne_nil u.host_chars ?_) rfl
    intro c rest' heq
    cases hports : u.ports with
    | nil =>
      rw [hports] at heq
      cases heq
      rfl
    | cons port ports =>
      rw [hports] at heq
      cases heq
      rfl
  have happ : ∀ groups, First (.group 4 (.plus (.char isAppChar)))
      ⟨false, u.appName ++ streamText u.streamName, groups⟩
      ⟨false, streamText u.streamName, Function.update groups 4 (some u.appName)⟩ := by
    intro groups
    refine First.group (first_plus_char u.appName_ne_nil u.appName_chars ?_) rfl
    intro c rest' heq
    cases hstream : u.streamName with
    | none =>
      rw [hstream] at heq
      cases heq
    | some stream =>
      rw [hstream] at heq
      cases heq
      rfl
  have hall : First rtmpUrlPattern ⟨true, u.text, fun _ => none⟩ ⟨false, [], u.groups⟩ := by
    rw [text_eq, rtmpUrlPattern]
    refine First.seq (first_assert rfl) ?_
    refine First.seq (first_literal (by decide) true _) ?_
    refine First.seq (hhost _) ?_
    refine First.seq (first_ports u.ports_ne_nil u.ports_digits _ _) ?_
    refine First.seq (first_char rfl false _) ?_
    refine First.seq (happ _) ?_
    exact First.seq (first_stream u.streamName_chars _) (first_assert rfl)
  exact wholeMatch_eq_some hall

/-- What the code uses of the groups. -/
theorem groups_eq :
    u.groups 1 = some u.host ∧ u.groups 3 = u.ports.getLast? ∧ u.groups 4 = some u.appName ∧
      u.groups 6 = u.streamName := by
  have hstream : ∀ (groups : Nat → Option (List Char)) (n : Nat), n ≠ 5 → n ≠ 6 →
      streamGroups groups u.streamName n = groups n := by
    intro groups n h5 h6
    cases u.streamName with
    | none => rw [streamGroups_none]
    | some stream => rw [streamGroups_some, Function.update_of_ne h5, Function.update_of_ne h6]
  refine ⟨?_, ?_, ?_, ?_⟩
  · rw [groups, hstream _ 1 (by decide) (by decide), Function.update_of_ne (by decide),
      portGroups_of_ne (by decide) (by decide), Function.update_self]
  · rw [groups, hstream _ 3 (by decide) (by decide), Function.update_of_ne (by decide),
      portGroups_three, Function.update_of_ne (by decide), Option.or_none]
  · rw [groups, hstream _ 4 (by decide) (by decide), Function.update_self]
  · rw [groups]
    cases u.streamName with
    | none =>
      rw [streamGroups_none, Function.update_of_ne (by decide),
        portGroups_of_ne (by decide) (by decide), Function.update_of_ne (by decide)]
    | some stream =>
      rw [streamGroups_some, Function.update_of_ne (by decide), Function.update_self]

end RtmpUrl

/-- Every port of a word of the loop stands behind a colon. -/
theorem exists_ports {words : List (List Char)}
    (h : ∀ word ∈ words, word ∈ (Regex.group 2 (.seq (.char (· == ':'))
      (.group 3 (.plus (.char Char.isDigit))))).language) :
    ∃ ports : List (List Char), words.flatten = RtmpUrl.portText ports ∧
      (∀ port ∈ ports, port ≠ []) ∧ ∀ port ∈ ports, ∀ c ∈ port, c.isDigit = true := by
  induction words with
  | nil => exact ⟨[], rfl, by simp, by simp⟩
  | cons word words ih =>
    obtain ⟨ports, hports, hne, hdigits⟩ := ih fun w hw => h w (List.mem_cons_of_mem _ hw)
    obtain ⟨port, hport, rfl⟩ :=
      exists_of_mem_seq_char (mem_language_group.mp (h word List.mem_cons_self))
    obtain ⟨hport_ne, hport_digits⟩ := of_mem_plus_char (mem_language_group.mp hport)
    refine ⟨port :: ports, ?_, ?_, ?_⟩
    · rw [List.flatten_cons, hports]
      rfl
    · exact List.forall_mem_cons.mpr ⟨hport_ne, hne⟩
    · exact List.forall_mem_cons.mpr ⟨hport_digits, hdigits⟩

/-- A word of the loop over the stream names is one stream name. -/
theorem exists_stream {words : List (List Char)}
    (h : ∀ word ∈ words, word ∈ (Regex.group 5 (.seq (.char (· == '/'))
      (.group 6 (.star (.char fun c => !isLineTerminator c))))).language) :
    ∃ streamName : Option (List Char), words.flatten = RtmpUrl.streamText streamName ∧
      ∀ stream, streamName = some stream → ∀ c ∈ stream, isLineTerminator c = false := by
  have hchars : ∀ c ∈ words.flatten, isLineTerminator c = false := by
    intro c hc
    obtain ⟨word, hword, hmem⟩ := List.mem_flatten.mp hc
    obtain ⟨b, hb, rfl⟩ := exists_of_mem_seq_char (mem_language_group.mp (h word hword))
    rcases List.mem_cons.mp hmem with rfl | hmem
    · rfl
    · have hdot := forall_of_mem_star_char (mem_language_group.mp hb) c hmem
      simpa using hdot
  cases words with
  | nil => exact ⟨none, rfl, by simp⟩
  | cons word words =>
    obtain ⟨b, hb, rfl⟩ :=
      exists_of_mem_seq_char (mem_language_group.mp (h word List.mem_cons_self))
    refine ⟨some (b ++ words.flatten), rfl, ?_⟩
    intro stream heq c hc
    cases heq
    exact hchars c (List.mem_cons_of_mem _ hc)

/-- A text that matches has the form of the pattern. -/
theorem exists_rtmpUrl {groups : Nat → Option (List Char)}
    (h : rtmpUrlPattern.wholeMatch url = some groups) : ∃ u : RtmpUrl, url = u.text := by
  have hword := mem_language_of_wholeMatch h
  rw [rtmpUrlPattern] at hword
  obtain ⟨start, hstart, w₁, hw₁, rfl⟩ := mem_language_seq.mp hword
  obtain ⟨front, hfront, w₂, hw₂, rfl⟩ := mem_language_seq.mp hw₁
  obtain ⟨host, hhost, w₃, hw₃, rfl⟩ := mem_language_seq.mp hw₂
  obtain ⟨portWord, hports, w₄, hw₄, rfl⟩ := mem_language_seq.mp hw₃
  obtain ⟨w₅, hw₅, rfl⟩ := exists_of_mem_seq_char hw₄
  obtain ⟨appName, happ, w₆, hw₆, rfl⟩ := mem_language_seq.mp hw₅
  obtain ⟨streamWord, hstream, finish, hfinish, rfl⟩ := mem_language_seq.mp hw₆
  obtain ⟨hhost_ne, hhost_chars⟩ := of_mem_plus_char (mem_language_group.mp hhost)
  obtain ⟨happ_ne, happ_chars⟩ := of_mem_plus_char (mem_language_group.mp happ)
  obtain ⟨portWords, rfl, hportWords⟩ := mem_language_star.mp hports
  obtain ⟨ports, hports, hports_ne, hports_digits⟩ := exists_ports hportWords
  obtain ⟨streamWords, rfl, hstreamWords⟩ := mem_language_star.mp hstream
  obtain ⟨streamName, hstreamName, hstream_chars⟩ := exists_stream hstreamWords
  refine ⟨⟨host, ports, appName, streamName, hhost_ne, hhost_chars, hports_ne, hports_digits,
    happ_ne, happ_chars, hstream_chars⟩, ?_⟩
  rw [RtmpUrl.text_eq, mem_language_assert.mp hstart, eq_of_mem_literal hfront, hports,
    hstreamName, mem_language_assert.mp hfinish, List.append_nil]
  rfl

/-! ## The parts -/

theorem beforeLastSlash_append (front : List Char) {last : List Char} (h : '/' ∉ last) :
    beforeLastSlash (front ++ '/' :: last) = front := by
  have hdrop : (front ++ '/' :: last).rdropWhile (· != '/') = front ++ ['/'] := by
    have hreverse : (front ++ '/' :: last).reverse = last.reverse ++ '/' :: front.reverse := by simp
    have hlast : ∀ c ∈ last.reverse, (c != '/') = true := by
      intro c hc
      rw [bne_iff_ne]
      rintro rfl
      exact h (List.mem_reverse.mp hc)
    rw [List.rdropWhile, hreverse, List.dropWhile_append_of_pos hlast]
    simp
  rw [beforeLastSlash, hdrop, List.dropLast_concat]

/-- A text with a slash is cut at its last one. -/
theorem exists_beforeLastSlash (h : '/' ∈ url) :
    ∃ last, url = beforeLastSlash url ++ '/' :: last ∧ '/' ∉ last := by
  obtain ⟨last, front, hnot, hreverse⟩ :=
    List.eq_append_cons_of_mem (List.mem_reverse.mpr h)
  have hurl : url = front.reverse ++ '/' :: last.reverse := by
    rw [← List.reverse_reverse url, hnot]
    simp
  have hlast : '/' ∉ last.reverse := fun hmem => hreverse (List.mem_reverse.mp hmem)
  refine ⟨last.reverse, ?_, hlast⟩
  rw [hurl, beforeLastSlash_append _ hlast]

/-- The call on a text of the form of the pattern. -/
theorem connect_text (u : RtmpUrl) :
    connect u.text = (do
      let port ← (u.ports.getLast?.map parseInt).getD (pure 1935)
      u.streamName.elim (pure none) fun streamName => do
        checkPort port
        pure (some ⟨beforeLastSlash u.text, u.host, port, u.appName, streamName⟩)) := by
  obtain ⟨hhost, hport, happ, hstream⟩ := u.groups_eq
  rw [connect, u.wholeMatch_text]
  simp only [hhost, hport, happ, hstream]
  cases u.streamName with
  | none => rfl
  | some stream => rfl

theorem connect_of_not_text (h : ∀ u : RtmpUrl, url ≠ u.text) :
    connect url = .ok none := by
  cases hmatch : rtmpUrlPattern.wholeMatch url with
  | none =>
    rw [connect, hmatch]
    rfl
  | some groups =>
    obtain ⟨u, hu⟩ := exists_rtmpUrl hmatch
    exact absurd hu (h u)

namespace RtmpUrl

theorem parse_port (h : u.port < 2 ^ 31) :
    (u.ports.getLast?.map parseInt).getD (pure 1935) = .ok (u.port : Int) := by
  rw [port] at h ⊢
  cases hlast : u.ports.getLast? with
  | none => rfl
  | some digits =>
    rw [hlast] at h
    exact if_pos h

theorem parse_port_error (h : ¬ u.port < 2 ^ 31) :
    ∃ e, (u.ports.getLast?.map parseInt).getD (pure 1935) = .error e := by
  rw [port] at h
  cases hlast : u.ports.getLast? with
  | none =>
    rw [hlast] at h
    exact absurd (by decide) h
  | some digits =>
    rw [hlast] at h
    exact ⟨_, if_neg h⟩

end RtmpUrl

/-- The call is rejected, or the parts fit together and the port is one. -/
def PartsFit (url : List Char) : Prop :=
  connect url = .ok none ∨
    ∃ fields : ConnectFields, connect url = .ok (some fields) ∧
      url = fields.tcUrl ++ '/' :: fields.streamName ∧
      '/' :: fields.appName <:+ fields.tcUrl ∧ '/' ∉ fields.appName ∧
      0 ≤ fields.port ∧ fields.port ≤ 65535

/-- The stream name has no slash and the port is one; without a stream name the port only has to
be an `int`. -/
def RtmpUrl.Acceptable (u : RtmpUrl) : Prop :=
  (u.streamName = none → u.port < 2 ^ 31) ∧
    ∀ stream ∈ u.streamName, '/' ∉ stream ∧ u.port ≤ 65535

namespace RtmpUrl

/-- A call that does not throw has read the port. -/
theorem port_lt_of_connect {result : Option ConnectFields} (h : connect u.text = .ok result) :
    u.port < 2 ^ 31 := by
  by_contra hport
  obtain ⟨e, he⟩ := u.parse_port_error hport
  rw [connect_text, he] at h
  cases h

theorem connect_of_none (hstream : u.streamName = none) (hport : u.port < 2 ^ 31) :
    connect u.text = .ok none := by
  rw [connect_text, u.parse_port hport, hstream]
  rfl

variable {stream : List Char}

theorem connect_of_some (hstream : u.streamName = some stream) (hport : u.port ≤ 65535) :
    connect u.text =
      .ok (some ⟨beforeLastSlash u.text, u.host, u.port, u.appName, stream⟩) := by
  have hcheck : checkPort (u.port : Int) = .ok () := if_neg (by omega)
  rw [connect_text, u.parse_port (by omega), hstream]
  simp only [Option.elim_some, bind, Except.bind, hcheck]
  rfl

theorem port_le_of_connect {result : Option ConnectFields} (hstream : u.streamName = some stream)
    (h : connect u.text = .ok result) : u.port ≤ 65535 := by
  by_contra hport
  have hread := u.port_lt_of_connect h
  have hcheck : checkPort (u.port : Int) =
      .error (.illegalArgument ("port out of range:" ++ toString (u.port : Int))) :=
    if_pos (by omega)
  rw [connect_text, u.parse_port hread, hstream] at h
  simp only [Option.elim_some, bind, Except.bind, hcheck] at h
  cases h

theorem slash_mem_text (u : RtmpUrl) : '/' ∈ u.text := by
  rw [text_eq]
  simp

theorem slash_notMem_appName (u : RtmpUrl) : '/' ∉ u.appName := by
  intro hmem
  cases u.appName_chars '/' hmem

/-- Two cuts of a text that leave the same front: the stream is what follows the last slash. -/
theorem slash_notMem_of_cut (h : u.text = beforeLastSlash u.text ++ '/' :: stream) :
    '/' ∉ stream := by
  obtain ⟨last, hcut, hlast⟩ := exists_beforeLastSlash u.slash_mem_text
  have hsame := List.append_cancel_left (h.symm.trans hcut)
  rw [(List.cons_eq_cons.mp hsame).2]
  exact hlast

theorem acceptable_of_partsFit (h : PartsFit u.text) : u.Acceptable := by
  cases hstream : u.streamName with
  | none =>
    have hread : u.port < 2 ^ 31 := by
      rcases h with hrejected | ⟨fields, hfields, -⟩
      · exact u.port_lt_of_connect hrejected
      · exact u.port_lt_of_connect hfields
    refine ⟨fun _ => hread, ?_⟩
    intro stream hmem
    rw [hstream] at hmem
    cases hmem
  | some stream =>
    have hparts : u.port ≤ 65535 ∧ '/' ∉ stream := by
      rcases h with hrejected | ⟨fields, hfields, hurl, -⟩
      · have hport := u.port_le_of_connect hstream hrejected
        rw [u.connect_of_some hstream hport] at hrejected
        cases hrejected
      · have hport := u.port_le_of_connect hstream hfields
        rw [u.connect_of_some hstream hport] at hfields
        cases hfields
        exact ⟨hport, slash_notMem_of_cut hurl⟩
    refine ⟨?_, ?_⟩
    · intro hnone
      rw [hstream] at hnone
      cases hnone
    · intro stream' hmem
      rw [hstream] at hmem
      cases hmem
      exact hparts.symm

theorem partsFit_of_acceptable (h : u.Acceptable) : PartsFit u.text := by
  cases hstream : u.streamName with
  | none => exact .inl (u.connect_of_none hstream (h.1 hstream))
  | some stream =>
    obtain ⟨hslash, hport⟩ := h.2 stream hstream
    have htext : u.text = u.appUrl ++ '/' :: stream := by
      rw [text, hstream]
      rfl
    have htcUrl : beforeLastSlash u.text = u.appUrl := by
      rw [htext, beforeLastSlash_append _ hslash]
    refine .inr ⟨_, u.connect_of_some hstream hport, ?_, ?_, u.slash_notMem_appName, ?_, ?_⟩
    · rw [htcUrl, htext]
    · rw [htcUrl, appUrl, ← List.append_assoc, ← List.append_assoc]
      exact List.suffix_append _ _
    · exact Int.natCast_nonneg _
    · exact Int.ofNat_le.mpr hport

end RtmpUrl

/-- The parts fit for every text but a URL whose stream name holds a slash or whose
port is out of range. -/
theorem partsFit_iff (url : List Char) :
    PartsFit url ↔ ∀ u : RtmpUrl, url = u.text → u.Acceptable := by
  constructor
  · rintro h u rfl
    exact u.acceptable_of_partsFit h
  · intro h
    by_cases hform : ∃ u : RtmpUrl, url = u.text
    · obtain ⟨u, rfl⟩ := hform
      exact u.partsFit_of_acceptable (h u rfl)
    · exact .inl (connect_of_not_text fun u hu => hform ⟨u, hu⟩)

/-- A stream name with a slash in it: `tcUrl` takes a part of the stream name.  A port above the
largest one: the exception of `InetSocketAddress` leaves the call. -/
theorem not_partsFit_slash_port :
    (connect "rtmp://h/a/b/c".toList =
        .ok (some ⟨"rtmp://h/a/b".toList, ['h'], 1935, ['a'], ['b', '/', 'c']⟩) ∧
      ¬ PartsFit "rtmp://h/a/b/c".toList) ∧
    connect "rtmp://h:70000/a/b".toList = .error (.illegalArgument "port out of range:70000") ∧
      ¬ PartsFit "rtmp://h:70000/a/b".toList := by
  have hslash : connect "rtmp://h/a/b/c".toList =
      .ok (some ⟨"rtmp://h/a/b".toList, ['h'], 1935, ['a'], ['b', '/', 'c']⟩) := by
    decide +kernel
  have hport : connect "rtmp://h:70000/a/b".toList =
      .error (.illegalArgument "port out of range:70000") := by
    decide +kernel
  refine ⟨⟨hslash, ?_⟩, hport, ?_⟩
  · rintro (hrejected | ⟨fields, hfields, hurl, -⟩)
    · rw [hslash] at hrejected
      cases hrejected
    · rw [hslash] at hfields
      cases hfields
      exact absurd hurl (by decide)
  · rintro (hrejected | ⟨fields, hfields, -⟩)
    · rw [hport] at hrejected
      cases hrejected
    · rw [hport] at hfields
      cases hfields

end MediasoupDemo.Rtmp
