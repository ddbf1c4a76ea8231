import Lapdev.Rpc.ChannelTransport

/-!
# Two transports over one link

`spawn_twoway` of `rpc/src/lib.rs`: a reader task takes the messages of a link and hands them to the
two halves, and a writer task takes what the halves send and writes it to the link.
-/

namespace Lapdev

open RustStd

/-- Source: `rpc/src/lib.rs`. A `tarpc::ClientMessage` or a `tarpc::Response`. -/
inductive TwoWayMessage (ClientMessage Response : Type)
  | clientMessage (msg : ClientMessage)
  | response (resp : Response)
  deriving DecidableEq

/-- Source: `rpc/src/lib.rs`. -/
def rpcChannelCapacity : Nat := 32

/-- The reader task. -/
inductive LinkReader (Req Resp : Type)
  /-- In front of `while !loop_abort.is_aborted()`. -/
  | checking
  /-- In `transport_stream.next().await`. -/
  | waiting
  /-- In `server_in_tx.send(Ok(req)).await`. -/
  | sendingRequest (req : Req)
  /-- In `client_in_tx.send(Ok(resp)).await`. -/
  | sendingResponse (resp : Resp)
  /-- In `server_in_tx.send(Err(err)).await`, with the clone for the client. -/
  | failingServer (err cloned : IoError)
  /-- In `client_in_tx.send(Err(cloned)).await`. -/
  | failingClient (cloned : IoError)
  /-- After the loop, with the senders dropped. -/
  | leaving
  /-- After `abort_on_exit.abort()`. -/
  | done

/-- The writer task. -/
inductive LinkWriter (Req Resp : Type)
  /-- In `select!`. -/
  | selecting
  /-- In `transport_sink.send(..).await`, before the link has taken the message. -/
  | sending (message : TwoWayMessage Req Resp)
  /-- In `transport_sink.send(..).await`, after it. -/
  | flushing
  /-- In `close().await`. -/
  | closing
  /-- The link is closed. -/
  | closed
  /-- The task has ended with an error, or it was aborted. -/
  | ended

/-- The writer task is over. -/
def LinkWriter.isOver {Req Resp : Type} : LinkWriter Req Resp → Bool
  | .closed | .ended => true
  | _ => false

/-- What the writer task does next, or what becomes of it. -/
inductive WriterAction
  /-- `select!` takes a response of the server half. -/
  | takeResponse
  /-- `select!` takes a message of the client half. -/
  | takeMessage
  /-- `select!` finds both channels closed. -/
  | finish
  /-- The link takes the message. -/
  | startSend
  | flush
  | close
  /-- The link fails. -/
  | fail
  /-- `Abortable` finds the flag set at its next poll. A poll that has begun may go on before. -/
  | abort

/-- A link with the two tasks and the two halves: the server half gets requests `Req₁` and sends
responses `Resp₁`, the client half gets responses `Resp₂` and sends requests `Req₂`. -/
structure TwoWay (Req₁ Resp₁ Req₂ Resp₂ : Type) where
  server : ChannelTransport Req₁ Resp₁
  client : ChannelTransport Resp₂ Req₂
  reader : LinkReader Req₁ Resp₂
  writer : LinkWriter Req₂ Resp₁
  /-- The flag of the abort handle. -/
  aborted : Bool
  /-- The user has called `abort` on the handle. -/
  userAborted : Bool
  /-- What has come in on the link and was not taken yet. -/
  inbound : List (Except IoError (TwoWayMessage Req₁ Resp₂))
  /-- Nothing more comes in. -/
  hungUp : Bool
  /-- What the reader has taken from the link. -/
  taken : List (Except IoError (TwoWayMessage Req₁ Resp₂))
  /-- What the link has taken from the writer. -/
  written : List (TwoWayMessage Req₂ Resp₁)

/-- What happens next. -/
inductive LinkAction (Req₁ Resp₁ Req₂ Resp₂ : Type)
  | arrive (item : Except IoError (TwoWayMessage Req₁ Resp₂))
  | hangUp
  | read
  | write (action : WriterAction)
  | server (action : HalfAction Resp₁)
  | client (action : HalfAction Req₂)
  | abort

namespace TwoWay

variable {Req₁ Resp₁ Req₂ Resp₂ : Type}

/-- Source: `spawn_twoway`. -/
def spawnTwoway : TwoWay Req₁ Resp₁ Req₂ Resp₂ where
  server := ⟨.new rpcChannelCapacity, .new rpcChannelCapacity⟩
  client := ⟨.new rpcChannelCapacity, .new rpcChannelCapacity⟩
  reader := .checking
  writer := .selecting
  aborted := false
  userAborted := false
  inbound := []
  hungUp := false
  taken := []
  written := []

/-- The reader leaves its loop, and the senders go. -/
def leave (s : TwoWay Req₁ Resp₁ Req₂ Resp₂) : TwoWay Req₁ Resp₁ Req₂ Resp₂ :=
  { s with
    server := { s.server with receiver := s.server.receiver.dropSender }
    client := { s.client with receiver := s.client.receiver.dropSender }
    reader := .leaving }

/-- The arm of the reader's `match` for an item. -/
def handle : Except IoError (TwoWayMessage Req₁ Resp₂) → LinkReader Req₁ Resp₂
  | .ok (.clientMessage req) => .sendingRequest req
  | .ok (.response resp) => .sendingResponse resp
  | .error err => .failingServer err (cloneIoError err)

/-- The server half's channel gets an item. -/
def setServer (s : TwoWay Req₁ Resp₁ Req₂ Resp₂) (receiver : Channel (Except IoError Req₁))
    (reader : LinkReader Req₁ Resp₂) : TwoWay Req₁ Resp₁ Req₂ Resp₂ :=
  { s with server := { s.server with receiver }, reader }

/-- The client half's channel gets an item. -/
def setClient (s : TwoWay Req₁ Resp₁ Req₂ Resp₂) (receiver : Channel (Except IoError Resp₂))
    (reader : LinkReader Req₁ Resp₂) : TwoWay Req₁ Resp₁ Req₂ Resp₂ :=
  { s with client := { s.client with receiver }, reader }

/-- The next step of the reader; `none` while it has to wait. -/
def read (s : TwoWay Req₁ Resp₁ Req₂ Resp₂) : Option (TwoWay Req₁ Resp₁ Req₂ Resp₂) :=
  match s.reader with
  | .checking => some (if s.aborted then s.leave else { s with reader := .waiting })
  | .waiting =>
    match s.inbound with
    | item :: inbound =>
      some { s with inbound, taken := s.taken ++ [item], reader := handle item }
    | [] => if s.hungUp then some s.leave else none
  | .sendingRequest req =>
    (s.server.receiver.send (.ok req)).map fun
      | .ok receiver => s.setServer receiver .checking
      | .error () => s.leave
  | .sendingResponse resp =>
    (s.client.receiver.send (.ok resp)).map fun
      | .ok receiver => s.setClient receiver .checking
      | .error () => s.leave
  | .failingServer err cloned =>
    (s.server.receiver.send (.error err)).map fun
      | .ok receiver => s.setServer receiver (.failingClient cloned)
      | .error () => { s with reader := .failingClient cloned }
  | .failingClient cloned =>
    (s.client.receiver.send (.error cloned)).map fun
      | .ok receiver => (s.setClient receiver .leaving).leave
      | .error () => s.leave
  | .leaving => some { s with reader := .done, aborted := true }
  | .done => none

/-- The writer's task ends, and its receivers go. -/
def endWriter (s : TwoWay Req₁ Resp₁ Req₂ Resp₂) (writer : LinkWriter Req₂ Resp₁) :
    TwoWay Req₁ Resp₁ Req₂ Resp₂ :=
  { s with
    server := { s.server with sender := s.server.sender.dropReceiver }
    client := { s.client with sender := s.client.sender.dropReceiver }
    writer }

/-- A step of the writer, if that is what can happen next. -/
def write (s : TwoWay Req₁ Resp₁ Req₂ Resp₂) :
    WriterAction → Option (TwoWay Req₁ Resp₁ Req₂ Resp₂)
  | .takeResponse =>
    match s.writer with
    | .selecting => s.server.sender.recv.map fun (resp, sender) =>
        { s with server := { s.server with sender }, writer := .sending (.response resp) }
    | _ => none
  | .takeMessage =>
    match s.writer with
    | .selecting => s.client.sender.recv.map fun (msg, sender) =>
        { s with client := { s.client with sender }, writer := .sending (.clientMessage msg) }
    | _ => none
  | .finish =>
    match s.writer with
    | .selecting =>
      if s.server.sender.isFinished && s.client.sender.isFinished then
        some { s with writer := .closing }
      else none
    | _ => none
  | .startSend =>
    match s.writer with
    | .sending message => some { s with written := s.written ++ [message], writer := .flushing }
    | _ => none
  | .flush =>
    match s.writer with
    | .flushing => some { s with writer := .selecting }
    | _ => none
  | .close =>
    match s.writer with
    | .closing => some (s.endWriter .closed)
    | _ => none
  | .fail =>
    match s.writer with
    | .sending _ | .flushing | .closing => some (s.endWriter .ended)
    | _ => none
  | .abort => if s.aborted && !s.writer.isOver then some (s.endWriter .ended) else none

/-- The link after an action; `none` if it cannot happen. -/
def next (s : TwoWay Req₁ Resp₁ Req₂ Resp₂) :
    LinkAction Req₁ Resp₁ Req₂ Resp₂ → Option (TwoWay Req₁ Resp₁ Req₂ Resp₂)
  | .arrive item => if s.hungUp then none else some { s with inbound := s.inbound ++ [item] }
  | .hangUp => some { s with hungUp := true }
  | .read => s.read
  | .write action => s.write action
  | .server action => (s.server.act action).map fun server => { s with server }
  | .client action => (s.client.act action).map fun client => { s with client }
  | .abort => some { s with aborted := true, userAborted := true }

/-- The step relation of a link. -/
def Step (s : TwoWay Req₁ Resp₁ Req₂ Resp₂) (action : LinkAction Req₁ Resp₁ Req₂ Resp₂)
    (s' : TwoWay Req₁ Resp₁ Req₂ Resp₂) : Prop := s.next action = some s'

end TwoWay

end Lapdev
