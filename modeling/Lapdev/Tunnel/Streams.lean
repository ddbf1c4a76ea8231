import Lapdev.Logic.Run
import Lapdev.Tunnel.Message

/-!
# The streams of a tunnel

A client opens a stream with a request and waits for the response (`connect_with_protocol` of
`tunnel/src/client.rs`); the server reads the request, connects to the target, responds, and copies
between the stream and the target (`handle_stream` of `tunnel/src/server.rs`). The bytes of each
direction arrive in order, in parts of any size. `stream_of_run` says that a stream that the client
has opened is connected to the target it asked for, and that what comes out at either end is what went
in at the other, without the bytes of the messages.
-/

namespace Lapdev

open RustStd RustStd.Utf8 Runs

namespace Tunnel

/-! ## Reads of a stream that is still arriving -/

/-- A read that has come to a result does not change it when more bytes arrive: neither what was read
nor a refusal. -/
def ReadStream.Stable {α : Type} (read : ReadStream α) : Prop := ∀ bytes more,
  (∀ a rest, read bytes = .ok (a, rest) → read (bytes ++ more) = .ok (a, rest ++ more)) ∧
  ∀ reason, read bytes = .error (.remote reason) → read (bytes ++ more) = .error (.remote reason)

namespace ReadStream.Stable

variable {α β : Type}

/-- A value that is returned does not depend on bytes that come later. -/
protected theorem pure (a : α) : (pure a : ReadStream α).Stable := by
  intro bytes more
  refine ⟨?_, by rintro _ ⟨⟩⟩
  rintro _ _ ⟨⟩
  rfl

/-- Nor does an error. -/
protected theorem throw (e : TunnelError) : (throw e : ReadStream α).Stable := by
  intro bytes more
  refine ⟨by rintro _ _ ⟨⟩, ?_⟩
  rintro _ ⟨⟩
  rfl

/-- Two readers that do not, one after the other. -/
protected theorem bind {read : ReadStream α} {next : α → ReadStream β} (h : read.Stable)
    (hnext : ∀ a, (next a).Stable) : (read >>= next).Stable := by
  intro bytes more
  have hbind : ∀ bytes, (read >>= next) bytes = (read bytes).bind fun p => next p.1 p.2 :=
    fun _ => rfl
  rw [hbind, hbind]
  cases hread : read bytes with
  | error e =>
    refine ⟨by rintro _ _ ⟨⟩, ?_⟩
    rintro _ ⟨⟩
    rw [(h bytes more).2 _ hread]
    rfl
  | ok p =>
    rw [(h bytes more).1 _ _ hread]
    exact hnext p.1 p.2 more

/-- Nor does a choice between two such readers. -/
protected theorem ite {p : Prop} [Decidable p] {read read' : ReadStream α} (h : read.Stable)
    (h' : read'.Stable) : (if p then read else read').Stable := by
  split
  · exact h
  · exact h'

/-- A byte that is read does not depend on those that come later. -/
theorem readU8 : Tunnel.readU8.Stable := by
  intro bytes more
  cases bytes with
  | nil => exact ⟨by rintro _ _ ⟨⟩, by rintro _ ⟨⟩⟩
  | cons b rest =>
    refine ⟨?_, by rintro _ ⟨⟩⟩
    rintro _ _ ⟨⟩
    rfl

/-- Nor does a number of two bytes. -/
theorem readU16 : Tunnel.readU16.Stable := by
  intro bytes more
  obtain _ | ⟨b, _ | ⟨b', rest⟩⟩ := bytes
  · exact ⟨by rintro _ _ ⟨⟩, by rintro _ ⟨⟩⟩
  · exact ⟨by rintro _ _ ⟨⟩, by rintro _ ⟨⟩⟩
  · refine ⟨?_, by rintro _ ⟨⟩⟩
    rintro _ _ ⟨⟩
    rfl

/-- Nor do bytes of a given number. -/
theorem readExactInto (len : Nat) : (Tunnel.readExactInto len).Stable := by
  intro bytes more
  unfold Tunnel.readExactInto
  by_cases hlen : len ≤ bytes.length
  · rw [if_pos hlen, if_pos (by rw [List.length_append]; omega)]
    refine ⟨?_, by rintro _ ⟨⟩⟩
    rintro _ _ ⟨⟩
    rw [List.take_append_of_le_length hlen, List.drop_append_of_le_length hlen]
  · rw [if_neg hlen]
    exact ⟨by rintro _ _ ⟨⟩, by rintro _ ⟨⟩⟩

/-- Nor does a request. -/
theorem readStreamOpenRequest : Tunnel.readStreamOpenRequest.Stable := by
  refine .bind readU8 fun byte => ?_
  cases Protocol.tryFrom byte with
  | none => exact .throw _
  | some protocol =>
    refine .bind readU16 fun hostLen => .ite (.throw _) (.bind (readExactInto _) fun hostBytes => ?_)
    cases fromUtf8 hostBytes with
    | none => exact .throw _
    | some host => exact .bind readU16 fun port => .pure _

/-- Nor does a response. -/
theorem readStreamOpenResponse : Tunnel.readStreamOpenResponse.Stable :=
  .bind readU8 fun _ => .ite (.pure _)
    (.bind readU16 fun _ => .ite (.throw _) (.bind (readExactInto _) fun _ => .pure _))

end ReadStream.Stable

/-! ## The two sides -/

/-- Source: `server.rs`. -/
def unsupportedProtocol : Str := "protocol not supported".toList

/-- What the server says of a request it cannot read. -/
def badRequestText : Str := "bad request".toList

/-- The bytes of one direction of a stream that were written and not read. -/
structure Wire where
  arrived : List UInt8
  inFlight : List UInt8

namespace Wire

/-- All of them, in order. -/
def all (wire : Wire) : List UInt8 := wire.arrived ++ wire.inFlight

/-- Bytes are written. -/
def write (wire : Wire) (bytes : List UInt8) : Wire := { wire with inFlight := wire.inFlight ++ bytes }

/-- Some bytes arrive. -/
def deliver (wire : Wire) (count : Nat) : Wire :=
  ⟨wire.arrived ++ wire.inFlight.take count, wire.inFlight.drop count⟩

/-- What is written comes after what is on the wire. -/
@[simp] theorem all_write (wire : Wire) (bytes : List UInt8) :
    (wire.write bytes).all = wire.all ++ bytes := by
  rw [all, write, all, List.append_assoc]

/-- A delivery loses nothing of what is on the wire. -/
@[simp] theorem all_deliver (wire : Wire) (count : Nat) : (wire.deliver count).all = wire.all := by
  rw [all, deliver, all, List.append_assoc, List.take_append_drop]

end Wire

/-- `connect_with_protocol` and the stream it returns. -/
inductive StreamClient
  | idle
  /-- The request is written. -/
  | requested
  /-- The stream is returned. -/
  | opened
  /-- `TunnelError::Remote` is returned. -/
  | refused (reason : Str)
  | failed

/-- What `connect_with_protocol` returns for a response. -/
def StreamClient.ofResponse (response : StreamOpenResponse) : StreamClient :=
  if response.success then .opened else .refused (response.error.getD remoteOpenFailed)

/-- `handle_stream`, between two of its steps. -/
inductive StreamServer
  /-- In `read_stream_open_request`. -/
  | reading
  /-- In `connect`. -/
  | connecting (target : TunnelTarget)
  /-- In `pipe_streams`. -/
  | piping (target : TunnelTarget)
  | ended

/-- No response has been read. -/
def StreamClient.Waiting : StreamClient → Prop
  | idle | requested => True
  | _ => False

/-- A client that has read a response has sent its request. -/
theorem StreamClient.ofResponse_ne_idle (response : StreamOpenResponse) :
    ofResponse response ≠ idle := by
  rw [ofResponse]
  split
  · rintro ⟨⟩
  · rintro ⟨⟩

/-- A client that has read a response does not wait for one. -/
theorem StreamClient.not_waiting_ofResponse (response : StreamOpenResponse) :
    ¬(ofResponse response).Waiting := by
  rw [ofResponse]
  split
  · exact id
  · exact id

/-- No response has been written. -/
def StreamServer.Pending : StreamServer → Prop
  | reading | connecting _ => True
  | _ => False

/-- A stream, its two sides, and what the server has read from the stream for the target and from the
target for the stream. -/
structure TunnelStream where
  client : StreamClient
  server : StreamServer
  toServer : Wire
  toClient : Wire
  toTarget : List UInt8
  fromTarget : List UInt8

/-- One step of somebody. -/
inductive StreamAction
  | request (protocol : Protocol) (target : TunnelTarget)
  | deliverUp (count : Nat)
  | deliverDown (count : Nat)
  | readRequest
  | connect (target : TunnelTarget)
  | refuse (reason : Str)
  | readResponse
  | badResponse
  | write (bytes : List UInt8)
  | read (bytes : List UInt8)
  | fill (bytes : List UInt8)
  | drain (bytes : List UInt8)
  | emit (bytes : List UInt8)
  | flush (bytes : List UInt8)
  | loseClient
  | loseServer

namespace TunnelStream

/-- A new stream. -/
def new : TunnelStream := ⟨.idle, .reading, ⟨[], []⟩, ⟨[], []⟩, [], []⟩

/-- Why the server refuses: it cannot read the request, or the client goes away before all of it has
arrived; it does not support the protocol; or the connection to the target fails, with any text. -/
inductive Refuses (stream : TunnelStream) : Str → Prop
  | badRequest {reason} : stream.server = .reading →
      readStreamOpenRequest stream.toServer.arrived = .error (.remote reason) →
      Refuses stream badRequestText
  | cutOff : stream.server = .reading → stream.client = .failed → Refuses stream badRequestText
  | unsupported {request rest} : stream.server = .reading →
      readStreamOpenRequest stream.toServer.arrived = .ok (request, rest) →
      request.protocol ≠ .tcp → Refuses stream unsupportedProtocol
  | connectError {target reason} : stream.server = .connecting target → Refuses stream reason

/-- A server that refuses has not answered yet. -/
theorem Refuses.pending {stream : TunnelStream} {reason : Str} (h : stream.Refuses reason) :
    stream.server.Pending := by
  cases h with
  | badRequest hserver _ | cutOff hserver _ | unsupported hserver _ _ | connectError hserver =>
    rw [hserver]
    exact trivial

/-- A step. A read waits for all the bytes of a message; either side may be lost at any time. -/
inductive Step : TunnelStream → StreamAction → TunnelStream → Prop
  | request {stream : TunnelStream} {protocol target bytes} : stream.client = .idle →
      writeStreamOpenRequest protocol target = .ok bytes → Step stream (.request protocol target)
        { stream with client := .requested, toServer := stream.toServer.write bytes }
  | deliverUp {stream : TunnelStream} {count} : Step stream (.deliverUp count)
      { stream with toServer := stream.toServer.deliver count }
  | deliverDown {stream : TunnelStream} {count} : Step stream (.deliverDown count)
      { stream with toClient := stream.toClient.deliver count }
  | readRequest {stream : TunnelStream} {request rest} : stream.server = .reading →
      readStreamOpenRequest stream.toServer.arrived = .ok (request, rest) →
      request.protocol = .tcp → Step stream .readRequest
        { stream with
          server := .connecting request.target
          toServer := { stream.toServer with arrived := rest } }
  | connect {stream : TunnelStream} {target} : stream.server = .connecting target →
      Step stream (.connect target)
        { stream with
          server := .piping target
          toClient := stream.toClient.write (writeStreamOpenResponse true none) }
  | refuse {stream : TunnelStream} {reason} : stream.Refuses reason → Step stream (.refuse reason)
      { stream with
        server := .ended
        toClient := stream.toClient.write (writeStreamOpenResponse false (some reason)) }
  | readResponse {stream : TunnelStream} {response rest} : stream.client = .requested →
      readStreamOpenResponse stream.toClient.arrived = .ok (response, rest) →
      Step stream .readResponse
        { stream with
          client := .ofResponse response
          toClient := { stream.toClient with arrived := rest } }
  | badResponse {stream : TunnelStream} {reason} : stream.client = .requested →
      readStreamOpenResponse stream.toClient.arrived = .error (.remote reason) →
      Step stream .badResponse { stream with client := .failed }
  | write {stream : TunnelStream} {bytes} : stream.client = .opened → Step stream (.write bytes)
      { stream with toServer := stream.toServer.write bytes }
  | read {stream : TunnelStream} {bytes rest} : stream.client = .opened →
      stream.toClient.arrived = bytes ++ rest → Step stream (.read bytes)
        { stream with toClient := { stream.toClient with arrived := rest } }
  | fill {stream : TunnelStream} {target bytes rest} : stream.server = .piping target →
      stream.toServer.arrived = bytes ++ rest → Step stream (.fill bytes)
        { stream with
          toServer := { stream.toServer with arrived := rest }
          toTarget := stream.toTarget ++ bytes }
  | drain {stream : TunnelStream} {target bytes rest} : stream.server = .piping target →
      stream.toTarget = bytes ++ rest → Step stream (.drain bytes) { stream with toTarget := rest }
  | emit {stream : TunnelStream} {target bytes} : stream.server = .piping target →
      Step stream (.emit bytes) { stream with fromTarget := stream.fromTarget ++ bytes }
  | flush {stream : TunnelStream} {target bytes rest} : stream.server = .piping target →
      stream.fromTarget = bytes ++ rest → Step stream (.flush bytes)
        { stream with fromTarget := rest, toClient := stream.toClient.write bytes }
  | loseClient {stream : TunnelStream} : Step stream .loseClient { stream with client := .failed }
  | loseServer {stream : TunnelStream} : Step stream .loseServer { stream with server := .ended }

/-! ## What a run has done -/

/-- The request and what came of it, what the client wrote and read, what the target received and sent,
and what of the latter the server has written to the stream. -/
structure History where
  request : Option StreamOpenRequest
  outcome : Option (Except Str TunnelTarget)
  written : List UInt8
  received : List UInt8
  emitted : List UInt8
  flushed : List UInt8
  read : List UInt8

/-- Before the first step. -/
def History.empty : History := ⟨none, none, [], [], [], [], []⟩

/-- A history after a step. -/
def History.record (h : History) : StreamAction → History
  | .request protocol target => { h with request := some ⟨protocol, target⟩ }
  | .connect target => { h with outcome := some (.ok target) }
  | .refuse reason => { h with outcome := some (.error reason) }
  | .write bytes => { h with written := h.written ++ bytes }
  | .drain bytes => { h with received := h.received ++ bytes }
  | .emit bytes => { h with emitted := h.emitted ++ bytes }
  | .flush bytes => { h with flushed := h.flushed ++ bytes }
  | .read bytes => { h with read := h.read ++ bytes }
  | _ => h

/-- The history of a run. -/
def history (actions : List StreamAction) : History := actions.foldl History.record .empty

/-- What the server has written to the stream. -/
def History.replied (h : History) : List UInt8 :=
  match h.outcome with
  | none => []
  | some (.ok _) => writeStreamOpenResponse true none ++ h.flushed
  | some (.error reason) => writeStreamOpenResponse false (some reason)

/-- What is sent to the client of an open stream is the response, and then the target's bytes. -/
theorem History.replied_of_ok {h : History} {target : TunnelTarget}
    (houtcome : h.outcome = some (.ok target)) :
    h.replied = writeStreamOpenResponse true none ++ h.flushed := by
  rw [replied, houtcome]

/-- The reason of a refusal as the client reads it. -/
def readReason (reason : Str) : Str :=
  (fromUtf8 ((encode reason).take maxErrorLen)).getD remoteOpenFailed

/-- A reason that fits is read as it is written. -/
theorem readReason_of_length_le {reason : Str} (h : (encode reason).length ≤ maxErrorLen) :
    readReason reason = reason := by
  rw [readReason, List.take_of_length_le h, fromUtf8_eq_some.2 rfl]
  rfl

/-- What holds on the way to the target. -/
structure Upstream (stream : TunnelStream) (h : History) : Prop where
  idle : stream.client = .idle → h.request = none
  waiting : stream.client.Waiting → h.written = []
  silent : h.request = none → stream.toServer.all = []
  reading : stream.server = .reading → h.received = [] ∧ stream.toTarget = [] ∧
    ∀ request, h.request = some request → ∃ bytes,
      writeStreamOpenRequest request.protocol request.target = .ok bytes ∧
      stream.toServer.all = bytes ++ h.written
  connecting : ∀ target, stream.server = .connecting target → h.request = some ⟨.tcp, target⟩ ∧
    h.received = [] ∧ stream.toTarget = [] ∧ stream.toServer.all = h.written
  piping : ∀ target, stream.server = .piping target → h.request = some ⟨.tcp, target⟩ ∧
    h.received ++ (stream.toTarget ++ stream.toServer.all) = h.written
  received : h.received <+: h.written

/-- What holds on the way back. -/
structure Downstream (stream : TunnelStream) (h : History) : Prop where
  waiting : stream.client.Waiting → stream.toClient.all = h.replied ∧ h.read = []
  opened : stream.client = .opened → (∃ target, h.outcome = some (.ok target)) ∧
    h.read ++ stream.toClient.all = h.flushed
  refused : ∀ reason, stream.client = .refused reason →
    ∃ why, h.outcome = some (.error why) ∧ reason = readReason why
  pending : stream.server.Pending →
    h.outcome = none ∧ h.flushed = [] ∧ h.emitted = [] ∧ stream.fromTarget = []
  piping : ∀ target, stream.server = .piping target → h.outcome = some (.ok target) ∧
    h.flushed ++ stream.fromTarget = h.emitted
  connected : ∀ target, h.outcome = some (.ok target) → h.request = some ⟨.tcp, target⟩
  denied : stream.client ≠ .failed → ∀ why, h.outcome = some (.error why) →
    ∃ request, h.request = some request ∧ (request.protocol = .udp → why = unsupportedProtocol)
  read : h.read <+: h.flushed
  flushed : h.flushed <+: h.emitted

section
variable {stream stream' : TunnelStream} {h : History} {a : StreamAction}

/-- Nothing is written to a stream before its request. -/
theorem Upstream.waiting_of_idle (hs : Upstream stream h) (hclient : stream.client = .idle) :
    h.written = [] := by
  refine hs.waiting ?_
  rw [hclient]
  exact trivial

/-- What the server has read of the request is the request, and what is left was written after it. -/
theorem Upstream.request_read (hs : Upstream stream h) (hserver : stream.server = .reading)
    {request : StreamOpenRequest} {rest : List UInt8}
    (hread : readStreamOpenRequest stream.toServer.arrived = .ok (request, rest)) :
    h.request = some request ∧ rest ++ stream.toServer.inFlight = h.written := by
  have hall := (ReadStream.Stable.readStreamOpenRequest _ stream.toServer.inFlight).1 _ _ hread
  change readStreamOpenRequest stream.toServer.all = _ at hall
  obtain ⟨-, -, hrequest⟩ := hs.reading hserver
  cases hsome : h.request with
  | none =>
    rw [hs.silent hsome] at hall
    cases hall
  | some request' =>
    obtain ⟨bytes, hwrite, heq⟩ := hrequest request' hsome
    rw [heq, readStreamOpenRequest_write hwrite] at hall
    obtain ⟨rfl, hrest⟩ := Prod.mk.inj (Except.ok.inj hall)
    exact ⟨rfl, hrest.symm⟩

/-- The server can always read the request of a client. -/
theorem Upstream.not_badRequest (hs : Upstream stream h) (hserver : stream.server = .reading)
    {reason : String} :
    readStreamOpenRequest stream.toServer.arrived ≠ .error (.remote reason) := by
  intro hread
  have hall := (ReadStream.Stable.readStreamOpenRequest _ stream.toServer.inFlight).2 _ hread
  change readStreamOpenRequest stream.toServer.all = _ at hall
  obtain ⟨-, -, hrequest⟩ := hs.reading hserver
  cases hsome : h.request with
  | none =>
    rw [hs.silent hsome] at hall
    cases hall
  | some request' =>
    obtain ⟨bytes, hwrite, heq⟩ := hrequest request' hsome
    rw [heq, readStreamOpenRequest_write hwrite] at hall
    cases hall

/-- The server refuses the request of a client, and datagrams in any case. -/
theorem Upstream.denied (hs : Upstream stream h) {reason : Str} (hrefuses : stream.Refuses reason)
    (hclient : stream.client ≠ .failed) :
    ∃ request, h.request = some request ∧ (request.protocol = .udp → reason = unsupportedProtocol) := by
  cases hrefuses with
  | badRequest hserver hread => exact absurd hread (hs.not_badRequest hserver)
  | cutOff _ hfailed => exact absurd hfailed hclient
  | @unsupported request rest hserver hread hne =>
    exact ⟨request, (hs.request_read hserver hread).1, fun _ => rfl⟩
  | @connectError target reason hserver =>
    refine ⟨_, (hs.connecting target hserver).1, ?_⟩
    rintro ⟨⟩

/-- A step that moves nothing on the way to the target. -/
theorem Upstream.of_same (hs : Upstream stream h) {h' : History}
    (hall : stream'.toServer.all = stream.toServer.all) (htarget : stream'.toTarget = stream.toTarget)
    (hserver : stream'.server = stream.server ∨ stream'.server = .ended)
    (hidle : stream'.client = .idle → stream.client = .idle)
    (hwaiting : stream'.client.Waiting → stream.client.Waiting)
    (hrequest : h'.request = h.request) (hwritten : h'.written = h.written)
    (hreceived : h'.received = h.received) : Upstream stream' h' := by
  have hback : ∀ {server}, server ≠ .ended → stream'.server = server → stream.server = server := by
    intro server hne hserver'
    rcases hserver with hsame | hended
    · exact hsame.symm.trans hserver'
    · exact absurd (hserver'.symm.trans hended) hne
  constructor
  · exact fun hclient => hrequest.trans (hs.idle (hidle hclient))
  · exact fun hclient => hwritten.trans (hs.waiting (hwaiting hclient))
  · exact fun hsilent => hall.trans (hs.silent (hrequest.symm.trans hsilent))
  · intro hserver'
    rw [hreceived, htarget, hrequest, hall, hwritten]
    exact hs.reading (hback (by rintro ⟨⟩) hserver')
  · intro target hserver'
    rw [hrequest, hreceived, htarget, hall, hwritten]
    exact hs.connecting target (hback (by rintro ⟨⟩) hserver')
  · intro target hserver'
    rw [hrequest, hreceived, htarget, hall, hwritten]
    exact hs.piping target (hback (by rintro ⟨⟩) hserver')
  · rw [hreceived, hwritten]
    exact hs.received

/-- While the server reads the request, nothing has come from a target. -/
theorem Downstream.pending_of_reading (hd : Downstream stream h) (hserver : stream.server = .reading) :
    h.outcome = none ∧ h.flushed = [] ∧ h.emitted = [] ∧ stream.fromTarget = [] := by
  refine hd.pending ?_
  rw [hserver]
  exact trivial

/-- Nor has it while the server connects. -/
theorem Downstream.pending_of_connecting (hd : Downstream stream h) {target : TunnelTarget}
    (hserver : stream.server = .connecting target) :
    h.outcome = none ∧ h.flushed = [] ∧ h.emitted = [] ∧ stream.fromTarget = [] := by
  refine hd.pending ?_
  rw [hserver]
  exact trivial

/-- While the client waits, the wire holds all that was sent to it. -/
theorem Downstream.waiting_of_requested (hd : Downstream stream h)
    (hclient : stream.client = .requested) : stream.toClient.all = h.replied ∧ h.read = [] := by
  refine hd.waiting ?_
  rw [hclient]
  exact trivial

/-- What the client has read of the response is the response, and what is left was written after it. -/
theorem Downstream.response_read (hd : Downstream stream h) (hclient : stream.client = .requested)
    {response : StreamOpenResponse} {rest : List UInt8}
    (hread : readStreamOpenResponse stream.toClient.arrived = .ok (response, rest)) :
    (response = ⟨true, none⟩ ∧ (∃ target, h.outcome = some (.ok target)) ∧
      rest ++ stream.toClient.inFlight = h.flushed) ∨
    ∃ why, h.outcome = some (.error why) ∧ response = ⟨false, some (readReason why)⟩ := by
  have hall := (ReadStream.Stable.readStreamOpenResponse _ stream.toClient.inFlight).1 _ _ hread
  change readStreamOpenResponse stream.toClient.all = _ at hall
  rw [(hd.waiting_of_requested hclient).1, History.replied] at hall
  rcases houtcome : h.outcome with _ | why | target
  · rw [houtcome] at hall
    cases hall
  · rw [houtcome] at hall
    dsimp only at hall
    rw [← List.append_nil (writeStreamOpenResponse ..), readStreamOpenResponse_failure] at hall
    obtain ⟨hresponse, -⟩ := Prod.mk.inj (Except.ok.inj hall)
    exact .inr ⟨why, rfl, hresponse.symm⟩
  · rw [houtcome] at hall
    dsimp only at hall
    rw [readStreamOpenResponse_success] at hall
    obtain ⟨hresponse, hrest⟩ := Prod.mk.inj (Except.ok.inj hall)
    exact .inl ⟨hresponse.symm, ⟨target, rfl⟩, hrest.symm⟩

/-- The client can always read the response of the server. -/
theorem Downstream.not_badResponse (hd : Downstream stream h) (hclient : stream.client = .requested)
    {reason : String} :
    readStreamOpenResponse stream.toClient.arrived ≠ .error (.remote reason) := by
  intro hread
  have hall := (ReadStream.Stable.readStreamOpenResponse _ stream.toClient.inFlight).2 _ hread
  change readStreamOpenResponse stream.toClient.all = _ at hall
  rw [(hd.waiting_of_requested hclient).1, History.replied] at hall
  rcases houtcome : h.outcome with _ | why | target
  · rw [houtcome] at hall
    cases hall
  · rw [houtcome] at hall
    dsimp only at hall
    rw [← List.append_nil (writeStreamOpenResponse ..), readStreamOpenResponse_failure] at hall
    cases hall
  · rw [houtcome] at hall
    dsimp only at hall
    rw [readStreamOpenResponse_success] at hall
    cases hall

/-- A step that moves nothing on the way back. -/
theorem Downstream.of_same (hd : Downstream stream h) {h' : History}
    (hall : stream'.toClient.all = stream.toClient.all)
    (hfrom : stream'.fromTarget = stream.fromTarget)
    (hpending : stream'.server.Pending → stream.server.Pending)
    (hpiping : ∀ target, stream'.server = .piping target → stream.server = .piping target)
    (hclient : stream'.client = stream.client ∨ stream'.client = .failed)
    (hrequest : h'.request = h.request) (houtcome : h'.outcome = h.outcome)
    (hflushed : h'.flushed = h.flushed) (hemitted : h'.emitted = h.emitted)
    (hread : h'.read = h.read) : Downstream stream' h' := by
  have hreplied : h'.replied = h.replied := by
    rw [History.replied, History.replied, houtcome, hflushed]
  constructor
  · intro hwaiting
    rw [hall, hreplied, hread]
    rcases hclient with hsame | hfailed
    · rw [hsame] at hwaiting
      exact hd.waiting hwaiting
    · rw [hfailed] at hwaiting
      exact hwaiting.elim
  · intro hopened
    rw [houtcome, hread, hall, hflushed]
    rcases hclient with hsame | hfailed
    · exact hd.opened (hsame.symm.trans hopened)
    · cases hopened.symm.trans hfailed
  · intro reason hrefused
    rw [houtcome]
    rcases hclient with hsame | hfailed
    · exact hd.refused reason (hsame.symm.trans hrefused)
    · cases hrefused.symm.trans hfailed
  · rw [houtcome, hflushed, hemitted, hfrom]
    exact fun hserver => hd.pending (hpending hserver)
  · rw [houtcome, hflushed, hemitted, hfrom]
    exact fun target hserver => hd.piping target (hpiping target hserver)
  · rw [houtcome, hrequest]
    exact hd.connected
  · rw [houtcome, hrequest]
    rcases hclient with hsame | hfailed
    · rw [hsame]
      exact hd.denied
    · exact fun hne => absurd hfailed hne
  · rw [hread, hflushed]
    exact hd.read
  · rw [hflushed, hemitted]
    exact hd.flushed

/-- Every step keeps the way to the target. -/
theorem Upstream.step (hs : Upstream stream h) (hd : Downstream stream h)
    (hstep : Step stream a stream') : Upstream stream' (h.record a) := by
  cases hstep with
  | @request protocol target bytes hclient hwrite =>
    have hnone := hs.idle hclient
    refine ⟨by rintro ⟨⟩, fun _ => hs.waiting_of_idle hclient, by rintro ⟨⟩, ?_, ?_, ?_, hs.received⟩
    · intro hserver
      obtain ⟨hreceived, htarget, -⟩ := hs.reading hserver
      refine ⟨hreceived, htarget, ?_⟩
      rintro _ ⟨⟩
      refine ⟨bytes, hwrite, ?_⟩
      change (stream.toServer.write bytes).all = bytes ++ h.written
      rw [Wire.all_write, hs.silent hnone, hs.waiting_of_idle hclient, List.append_nil,
        List.nil_append]
    · intro target' hserver
      cases hnone.symm.trans (hs.connecting target' hserver).1
    · intro target' hserver
      cases hnone.symm.trans (hs.piping target' hserver).1
  | deliverUp => exact hs.of_same (Wire.all_deliver ..) rfl (.inl rfl) id id rfl rfl rfl
  | deliverDown => exact hs.of_same rfl rfl (.inl rfl) id id rfl rfl rfl
  | @readRequest request rest hserver hread htcp =>
    obtain ⟨hrequest, hrest⟩ := hs.request_read hserver hread
    obtain ⟨hreceived, htarget, -⟩ := hs.reading hserver
    refine ⟨hs.idle, hs.waiting, ?_, by rintro ⟨⟩, ?_, by rintro _ ⟨⟩, hs.received⟩
    · intro hnone
      cases hrequest.symm.trans hnone
    · rintro _ ⟨⟩
      refine ⟨?_, hreceived, htarget, hrest⟩
      rw [← htcp]
      exact hrequest
  | @connect target hserver =>
    obtain ⟨hrequest, hreceived, htarget, hall⟩ := hs.connecting target hserver
    refine ⟨hs.idle, hs.waiting, hs.silent, by rintro ⟨⟩, by rintro _ ⟨⟩, ?_, hs.received⟩
    rintro _ ⟨⟩
    refine ⟨hrequest, ?_⟩
    change h.received ++ (stream.toTarget ++ stream.toServer.all) = h.written
    rw [hreceived, htarget, hall]
    rfl
  | refuse _ => exact hs.of_same rfl rfl (.inr rfl) id id rfl rfl rfl
  | @readResponse response rest _ _ =>
    refine hs.of_same rfl rfl (.inl rfl) ?_ ?_ rfl rfl rfl
    · exact fun hidle => absurd hidle (StreamClient.ofResponse_ne_idle response)
    · exact fun hwaiting => absurd hwaiting (StreamClient.not_waiting_ofResponse response)
  | badResponse _ _ | loseClient =>
    exact hs.of_same rfl rfl (.inl rfl) (by rintro ⟨⟩) False.elim rfl rfl rfl
  | @write bytes hclient =>
    obtain ⟨⟨target, houtcome⟩, -⟩ := hd.opened hclient
    have hsome := hd.connected target houtcome
    constructor
    · intro hidle
      cases hclient.symm.trans hidle
    · intro hwaiting
      change stream.client.Waiting at hwaiting
      rw [hclient] at hwaiting
      exact hwaiting.elim
    · intro hnone
      cases hsome.symm.trans hnone
    · intro hserver
      cases (hd.pending_of_reading hserver).1.symm.trans houtcome
    · intro target' hserver
      cases (hd.pending_of_connecting hserver).1.symm.trans houtcome
    · intro target' hserver
      obtain ⟨hrequest, hall⟩ := hs.piping target' hserver
      refine ⟨hrequest, ?_⟩
      change h.received ++ (stream.toTarget ++ (stream.toServer.write bytes).all) =
        h.written ++ bytes
      rw [Wire.all_write, ← hall]
      simp only [List.append_assoc]
    · exact hs.received.trans (List.prefix_append _ _)
  | read _ _ => exact hs.of_same rfl rfl (.inl rfl) id id rfl rfl rfl
  | @fill target bytes rest hserver harrived =>
    obtain ⟨hrequest, hall⟩ := hs.piping target hserver
    have hmoved : stream.toTarget ++ bytes ++ (rest ++ stream.toServer.inFlight) =
        stream.toTarget ++ stream.toServer.all := by
      rw [Wire.all, harrived]
      simp only [List.append_assoc]
    refine ⟨hs.idle, hs.waiting, ?_, ?_, ?_, ?_, hs.received⟩
    · intro hnone
      cases hrequest.symm.trans hnone
    · intro hreading
      cases hserver.symm.trans hreading
    · intro target' hconnecting
      cases hserver.symm.trans hconnecting
    · intro target' hpiping
      refine ⟨(hs.piping target' hpiping).1, ?_⟩
      change h.received ++ (stream.toTarget ++ bytes ++ (rest ++ stream.toServer.inFlight)) = _
      rw [hmoved]
      exact hall
  | @drain target bytes rest hserver htarget =>
    obtain ⟨hrequest, hall⟩ := hs.piping target hserver
    have hmoved : h.received ++ bytes ++ (rest ++ stream.toServer.all) = h.written := by
      rw [← hall, htarget]
      simp only [List.append_assoc]
    refine ⟨hs.idle, hs.waiting, hs.silent, ?_, ?_, ?_, ?_⟩
    · intro hreading
      cases hserver.symm.trans hreading
    · intro target' hconnecting
      cases hserver.symm.trans hconnecting
    · intro target' hpiping
      exact ⟨(hs.piping target' hpiping).1, hmoved⟩
    · change h.received ++ bytes <+: h.written
      rw [← hmoved]
      exact List.prefix_append _ _
  | emit _ | flush _ _ => exact hs.of_same rfl rfl (.inl rfl) id id rfl rfl rfl
  | loseServer => exact hs.of_same rfl rfl (.inr rfl) id id rfl rfl rfl

/-- Every step keeps the way to the client. -/
theorem Downstream.step (hs : Upstream stream h) (hd : Downstream stream h)
    (hstep : Step stream a stream') : Downstream stream' (h.record a) := by
  cases hstep with
  | @request protocol target bytes hclient _ =>
    have hnone := hs.idle hclient
    have hwaiting : stream.client.Waiting := by
      rw [hclient]
      exact trivial
    refine ⟨fun _ => hd.waiting hwaiting, by rintro ⟨⟩, by rintro _ ⟨⟩, hd.pending, hd.piping, ?_, ?_,
      hd.read, hd.flushed⟩
    · intro target' houtcome
      cases hnone.symm.trans (hd.connected target' houtcome)
    · intro _ why houtcome
      have hne : stream.client ≠ .failed := by
        rw [hclient]
        rintro ⟨⟩
      obtain ⟨request, hsome, -⟩ := hd.denied hne why houtcome
      cases hnone.symm.trans hsome
  | deliverUp => exact hd.of_same rfl rfl id (fun _ => id) (.inl rfl) rfl rfl rfl rfl rfl
  | deliverDown =>
    exact hd.of_same (Wire.all_deliver ..) rfl id (fun _ => id) (.inl rfl) rfl rfl rfl rfl rfl
  | @readRequest request rest hserver _ _ =>
    have hpending : stream.server.Pending := by
      rw [hserver]
      exact trivial
    exact hd.of_same rfl rfl (fun _ => hpending) (by rintro _ ⟨⟩) (.inl rfl) rfl rfl rfl rfl rfl
  | @connect target hserver =>
    obtain ⟨houtcome, hflushed, hemitted, hfrom⟩ := hd.pending_of_connecting hserver
    obtain ⟨hrequest, -⟩ := hs.connecting target hserver
    have hreplied : h.replied = [] := by rw [History.replied, houtcome]
    constructor
    · intro hwaiting
      obtain ⟨hall, hread⟩ := hd.waiting hwaiting
      refine ⟨?_, hread⟩
      change (stream.toClient.write _).all = writeStreamOpenResponse true none ++ h.flushed
      rw [Wire.all_write, hall, hreplied, hflushed]
      rfl
    · intro hopened
      obtain ⟨⟨target', houtcome'⟩, -⟩ := hd.opened hopened
      cases houtcome.symm.trans houtcome'
    · intro reason hrefused
      obtain ⟨why, houtcome', -⟩ := hd.refused reason hrefused
      cases houtcome.symm.trans houtcome'
    · exact False.elim
    · rintro _ ⟨⟩
      refine ⟨rfl, ?_⟩
      change h.flushed ++ stream.fromTarget = h.emitted
      rw [hflushed, hfrom, hemitted]
      rfl
    · rintro _ ⟨⟩
      exact hrequest
    · rintro _ _ ⟨⟩
    · exact hd.read
    · exact hd.flushed
  | @refuse reason hrefuses =>
    obtain ⟨houtcome, hflushed, hemitted, hfrom⟩ := hd.pending hrefuses.pending
    have hreplied : h.replied = [] := by rw [History.replied, houtcome]
    refine ⟨?_, ?_, ?_, False.elim, by rintro _ ⟨⟩, by rintro _ ⟨⟩, ?_, hd.read, hd.flushed⟩
    · intro hwaiting
      obtain ⟨hall, hread⟩ := hd.waiting hwaiting
      refine ⟨?_, hread⟩
      change (stream.toClient.write _).all = writeStreamOpenResponse false (some reason)
      rw [Wire.all_write, hall, hreplied]
      rfl
    · intro hopened
      obtain ⟨⟨target, houtcome'⟩, -⟩ := hd.opened hopened
      cases houtcome.symm.trans houtcome'
    · intro reason' hrefused
      obtain ⟨why, houtcome', -⟩ := hd.refused reason' hrefused
      cases houtcome.symm.trans houtcome'
    · rintro hne _ ⟨⟩
      exact hs.denied hrefuses hne
  | @readResponse response rest hclient hread =>
    have hne : stream.client ≠ .failed := by
      rw [hclient]
      rintro ⟨⟩
    refine ⟨?_, ?_, ?_, hd.pending, hd.piping, hd.connected, fun _ => hd.denied hne, hd.read,
      hd.flushed⟩
    · exact fun hwaiting => absurd hwaiting (StreamClient.not_waiting_ofResponse response)
    · intro hopened
      rcases hd.response_read hclient hread with ⟨-, houtcome, hrest⟩ | ⟨why, -, rfl⟩
      · refine ⟨houtcome, ?_⟩
        change h.read ++ (rest ++ stream.toClient.inFlight) = h.flushed
        rw [(hd.waiting_of_requested hclient).2, hrest]
        rfl
      · cases hopened
    · intro reason hrefused
      rcases hd.response_read hclient hread with ⟨rfl, -⟩ | ⟨why, houtcome, rfl⟩
      · cases hrefused
      · cases hrefused
        exact ⟨why, houtcome, rfl⟩
  | badResponse _ _ | loseClient =>
    exact hd.of_same rfl rfl id (fun _ => id) (.inr rfl) rfl rfl rfl rfl rfl
  | write _ => exact hd.of_same rfl rfl id (fun _ => id) (.inl rfl) rfl rfl rfl rfl rfl
  | @read bytes rest hclient harrived =>
    obtain ⟨houtcome, hall⟩ := hd.opened hclient
    have hmoved : h.read ++ bytes ++ (rest ++ stream.toClient.inFlight) = h.flushed := by
      rw [← hall, Wire.all, harrived]
      simp only [List.append_assoc]
    refine ⟨?_, fun _ => ⟨houtcome, hmoved⟩, ?_, hd.pending, hd.piping, hd.connected, hd.denied, ?_,
      hd.flushed⟩
    · intro hwaiting
      change stream.client.Waiting at hwaiting
      rw [hclient] at hwaiting
      exact hwaiting.elim
    · exact hd.refused
    · change h.read ++ bytes <+: h.flushed
      rw [← hmoved]
      exact List.prefix_append _ _
  | fill _ _ | drain _ _ => exact hd.of_same rfl rfl id (fun _ => id) (.inl rfl) rfl rfl rfl rfl rfl
  | @emit target bytes hserver =>
    obtain ⟨houtcome, hall⟩ := hd.piping target hserver
    have hnot : ¬stream.server.Pending := by
      rw [hserver]
      exact id
    refine ⟨hd.waiting, hd.opened, hd.refused, fun hpending => absurd hpending hnot, ?_, hd.connected,
      hd.denied, hd.read, hd.flushed.trans (List.prefix_append _ _)⟩
    intro target' hserver'
    refine ⟨(hd.piping target' hserver').1, ?_⟩
    change h.flushed ++ (stream.fromTarget ++ bytes) = h.emitted ++ bytes
    rw [← hall, List.append_assoc]
  | @flush target bytes rest hserver hfrom =>
    obtain ⟨houtcome, hall⟩ := hd.piping target hserver
    have hnot : ¬stream.server.Pending := by
      rw [hserver]
      exact id
    have hmoved : h.flushed ++ bytes ++ rest = h.emitted := by
      rw [← hall, hfrom, List.append_assoc]
    refine ⟨?_, ?_, hd.refused, fun hpending => absurd hpending hnot,
      fun target' hserver' => ⟨(hd.piping target' hserver').1, hmoved⟩, hd.connected, hd.denied,
      hd.read.trans (List.prefix_append _ _), ?_⟩
    · intro hwaiting
      obtain ⟨hall', hread⟩ := hd.waiting hwaiting
      refine ⟨?_, hread⟩
      change (stream.toClient.write bytes).all = (h.record (.flush bytes)).replied
      rw [Wire.all_write, hall', History.replied_of_ok houtcome,
        (h.record (.flush bytes)).replied_of_ok houtcome]
      exact List.append_assoc ..
    · intro hopened
      obtain ⟨houtcome', hall'⟩ := hd.opened hopened
      refine ⟨houtcome', ?_⟩
      change h.read ++ (stream.toClient.write bytes).all = h.flushed ++ bytes
      rw [Wire.all_write, ← hall', List.append_assoc]
    · change h.flushed ++ bytes <+: h.emitted
      rw [← hmoved]
      exact List.prefix_append _ _
  | loseServer => exact hd.of_same rfl rfl False.elim (by rintro _ ⟨⟩) (.inl rfl) rfl rfl rfl rfl rfl

/-- A new stream has sent nothing to a target. -/
theorem Upstream.new : Upstream .new .empty := by
  refine ⟨fun _ => rfl, fun _ => rfl, fun _ => rfl, ?_, by rintro _ ⟨⟩, by rintro _ ⟨⟩,
    List.prefix_refl _⟩
  exact fun _ => ⟨rfl, rfl, by rintro _ ⟨⟩⟩

/-- A new stream has sent nothing to a client. -/
theorem Downstream.new : Downstream .new .empty := by
  refine ⟨fun _ => ⟨rfl, rfl⟩, by rintro ⟨⟩, by rintro _ ⟨⟩, fun _ => ⟨rfl, rfl, rfl, rfl⟩,
    by rintro _ ⟨⟩, by rintro _ ⟨⟩, by rintro _ _ ⟨⟩, List.prefix_refl _, List.prefix_refl _⟩

/-- Both ways are kept by every run. -/
theorem streams_of_run {actions : List StreamAction} (hrun : Run Step .new actions stream) :
    Upstream stream (history actions) ∧ Downstream stream (history actions) := by
  refine Run.invariant_foldl History.record (fun stream h => Upstream stream h ∧ Downstream stream h)
    ?_ hrun ⟨.new, .new⟩
  exact fun _ _ _ _ hstep hs => ⟨hs.1.step hs.2 hstep, hs.2.step hs.1 hstep⟩

/-- **The stream.** A target is connected only if it was asked for. What the target has received the
client has written, and what the client has read the target has sent, in order and from the first
byte on; while the server copies no byte is missing on either way. The client has a stream only if
the server is connected to what the client asked for, and then no byte is missing between the two.
A refused client has the server's reason, up to the limit of the message, and a client that asks for
datagrams is told that they are not supported or nothing. Neither side ever reads a message it cannot
understand. -/
theorem stream_of_run {actions : List StreamAction} (hrun : Run Step .new actions stream) :
    let h := history actions
    (∀ target, h.outcome = some (.ok target) → h.request = some ⟨.tcp, target⟩) ∧
    h.received <+: h.written ∧ h.read <+: h.flushed ∧ h.flushed <+: h.emitted ∧
    (∀ target, stream.server = .piping target → h.outcome = some (.ok target) ∧
      h.received ++ (stream.toTarget ++ stream.toServer.all) = h.written ∧
      h.flushed ++ stream.fromTarget = h.emitted) ∧
    (stream.client = .opened → (∃ target, h.outcome = some (.ok target)) ∧
      h.read ++ stream.toClient.all = h.flushed) ∧
    (∀ reason, stream.client = .refused reason →
      ∃ why, h.outcome = some (.error why) ∧ reason = readReason why ∧
        ((encode why).length ≤ maxErrorLen → reason = why)) ∧
    (∀ target outcome, stream.client ≠ .failed → h.request = some ⟨.udp, target⟩ →
      h.outcome = some outcome → outcome = .error unsupportedProtocol) ∧
    (∀ reason, stream.server = .reading →
      readStreamOpenRequest stream.toServer.arrived ≠ .error (.remote reason)) ∧
    ∀ reason, stream.client = .requested →
      readStreamOpenResponse stream.toClient.arrived ≠ .error (.remote reason) := by
  obtain ⟨hs, hd⟩ := streams_of_run hrun
  refine ⟨hd.connected, hs.received, hd.read, hd.flushed, ?_, hd.opened, ?_, ?_,
    fun _ hserver => hs.not_badRequest hserver, fun _ hclient => hd.not_badResponse hclient⟩
  · intro target hserver
    exact ⟨(hd.piping target hserver).1, (hs.piping target hserver).2, (hd.piping target hserver).2⟩
  · intro reason hrefused
    obtain ⟨why, houtcome, rfl⟩ := hd.refused reason hrefused
    exact ⟨why, houtcome, rfl, readReason_of_length_le⟩
  · intro target outcome hne hrequest houtcome
    cases outcome with
    | ok target' => cases hrequest.symm.trans (hd.connected target' houtcome)
    | error why =>
      obtain ⟨request, hsome, hudp⟩ := hd.denied hne why houtcome
      cases hrequest.symm.trans hsome
      rw [hudp rfl]

end

/-- A stream to a host of one letter, and a byte to it. -/
theorem stream_of_run_byte :
    ∃ (actions : List StreamAction) (stream : TunnelStream), Run Step .new actions stream ∧
      (history actions).request = some ⟨.tcp, ⟨['h'], 80⟩⟩ ∧
      [5] ++ (stream.toTarget ++ stream.toServer.all) = [5] := by
  have hwrite : writeStreamOpenRequest .tcp ⟨['h'], 80⟩ = .ok [0, 0, 1, 104, 0, 80] := by decide
  have hread : readStreamOpenRequest [0, 0, 1, 104, 0, 80] = .ok (⟨.tcp, ⟨['h'], 80⟩⟩, []) :=
    @readStreamOpenRequest_write ⟨.tcp, ⟨['h'], 80⟩⟩ _ hwrite []
  obtain ⟨stream, hrun, hserver⟩ : ∃ stream, Run Step .new
      [.request .tcp ⟨['h'], 80⟩, .deliverUp 6, .readRequest, .connect ⟨['h'], 80⟩, .deliverDown 1,
        .readResponse, .write [5], .deliverUp 1, .fill [5], .drain [5]] stream ∧
      stream.server = .piping ⟨['h'], 80⟩ :=
    ⟨_, .cons (.request rfl hwrite) <| .cons .deliverUp <| .cons (.readRequest rfl hread rfl) <|
      .cons (.connect rfl) <| .cons .deliverDown <| .cons (.readResponse rfl rfl) <|
      .cons (.write rfl) <| .cons .deliverUp <| .cons (.fill rfl rfl) <|
      .cons (.drain rfl rfl) .nil, rfl⟩
  exact ⟨_, stream, hrun, rfl, ((stream_of_run hrun).2.2.2.2.1 _ hserver).2.1⟩

end TunnelStream

end Tunnel

end Lapdev
