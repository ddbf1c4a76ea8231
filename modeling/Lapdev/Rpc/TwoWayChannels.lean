import Lapdev.Rpc.TwoWaySteps

/-!
# The channels of a two-way link

The reader fills the channel that each half receives from (`Hands`), and the writer empties the one
that each half sends into (`Forwards`). `TwoWay.Inbound` and `TwoWay.Outbound` say what the state of a
link has of its past, and every step keeps them.
-/

namespace Lapdev

open RustStd

variable {Req₁ Resp₁ Req₂ Resp₂ : Type}

/-! ## The messages of each half -/

/-- A client message for the other side. -/
def TwoWayMessage.clientMessage? {Req Resp : Type} : TwoWayMessage Req Resp → Option Req
  | .clientMessage msg => some msg
  | .response _ => none

/-- A response for the other side. -/
def TwoWayMessage.response? {Req Resp : Type} : TwoWayMessage Req Resp → Option Resp
  | .clientMessage _ => none
  | .response resp => some resp

/-- What the server half should get of an item of the link. -/
def requestOf {Req Resp : Type} :
    Except IoError (TwoWayMessage Req Resp) → Option (Except IoError Req)
  | .ok (.clientMessage req) => some (.ok req)
  | .ok (.response _) => none
  | .error err => some (.error err)

/-- What the client half should get of an item of the link. -/
def responseOf {Req Resp : Type} :
    Except IoError (TwoWayMessage Req Resp) → Option (Except IoError Resp)
  | .ok (.clientMessage _) => none
  | .ok (.response resp) => some (.ok resp)
  | .error err => some (.error (cloneIoError err))

/-- What the reader has in hand for the server half. -/
def LinkReader.forServer : LinkReader Req₁ Resp₂ → List (Except IoError Req₁)
  | .sendingRequest req => [.ok req]
  | .failingServer err _ => [.error err]
  | _ => []

/-- What the reader has in hand for the client half. -/
def LinkReader.forClient : LinkReader Req₁ Resp₂ → List (Except IoError Resp₂)
  | .sendingResponse resp => [.ok resp]
  | .failingServer _ cloned => [.error cloned]
  | .failingClient cloned => [.error cloned]
  | _ => []

/-- How many sends the reader has in hand. -/
def LinkReader.work : LinkReader Req₁ Resp₂ → Nat
  | .sendingRequest _ | .sendingResponse _ | .failingClient _ => 1
  | .failingServer _ _ => 2
  | _ => 0

/-- How many messages the reader has in hand or waits for. -/
def LinkReader.upcoming : LinkReader Req₁ Resp₂ → Nat
  | .waiting | .sendingRequest _ | .sendingResponse _ => 1
  | _ => 0

/-- How many items the reader waits for. -/
def LinkReader.awaited : LinkReader Req₁ Resp₂ → Nat
  | .waiting => 1
  | _ => 0

/-- The reader has left its loop. -/
def LinkReader.hasLeft : LinkReader Req₁ Resp₂ → Bool
  | .leaving | .done => true
  | _ => false

/-- The reader hands out an error. -/
def LinkReader.isFailing : LinkReader Req₁ Resp₂ → Bool
  | .failingServer _ _ | .failingClient _ => true
  | _ => false

/-- The writer has found both channels closed. -/
def LinkWriter.isFinishing : LinkWriter Req₂ Resp₁ → Bool
  | .closing | .closed => true
  | _ => false

/-- What the writer has in hand of the server half. -/
def LinkWriter.responses : LinkWriter Req₂ Resp₁ → List Resp₁
  | .sending message => message.response?.toList
  | _ => []

/-- What the writer has in hand of the client half. -/
def LinkWriter.messages : LinkWriter Req₂ Resp₁ → List Req₂
  | .sending message => message.clientMessage?.toList
  | _ => []

/-! ## A channel that the reader fills -/

/-- What has gone into a channel and what the reader has in hand for it is all there is for it,
unless the receiver is gone. -/
def Hands {β : Type} (c : Channel β) (hand all : List β) : Prop :=
  c.sent ++ hand = all ∨ c.receiver = false ∧ c.sent <+: all

namespace Hands

variable {β : Type} {c c' : Channel β} {hand all : List β} {x : β}

/-- What was sent is a start of all. -/
theorem sent_prefix (h : Hands c hand all) : c.sent <+: all := by
  rcases h with rfl | ⟨-, hsent⟩
  · exact List.prefix_append _ _
  · exact hsent

/-- While the receiver is there, nothing is lost between the hand and the channel. -/
theorem eq_of_receiver (h : Hands c hand all) (hthere : c.receiver = true) :
    c.sent ++ hand = all := by
  rcases h with h | ⟨hgone, -⟩
  · exact h
  · rw [hthere] at hgone
    cases hgone

theorem user (h : Hands c hand all) (hstep : Channel.ReceiverStep c c') : Hands c' hand all := by
  rw [Hands, hstep.sent]
  rcases h with h | ⟨hgone, hsent⟩
  · exact .inl h
  · refine .inr ⟨Bool.eq_false_iff.2 fun hthere => ?_, hsent⟩
    rw [hstep.receiver hthere] at hgone
    cases hgone

/-- The reader has taken something for the channel. -/
theorem take (h : Hands c [] all) (xs : List β) : Hands c xs (all ++ xs) := by
  rcases h with h | ⟨hgone, hsent⟩
  · rw [List.append_nil] at h
    exact .inl (h ▸ rfl)
  · exact .inr ⟨hgone, hsent.trans (List.prefix_append _ _)⟩

/-- What the reader has in hand goes into the channel. -/
theorem push (h : Hands c [x] all) (hsend : c.send x = some (.ok c')) : Hands c' [] all := by
  obtain ⟨hthere, -, hsent, -⟩ := Channel.send_eq_ok hsend
  rw [Hands, hsent, List.append_nil]
  exact .inl (h.eq_of_receiver hthere)

/-- What the reader has in hand is lost with the receiver. -/
theorem skip (h : Hands c hand all) (hsend : c.send x = some (.error ())) : Hands c [] all :=
  .inr ⟨Channel.send_eq_error hsend, h.sent_prefix⟩

end Hands

/-! ## A channel that the writer empties -/

/-- The writer has written what it has taken out of a channel, but for what it has in hand, and all
that went in if it has found the channel closed. -/
structure Forwards {β : Type} (writer : LinkWriter Req₂ Resp₁) (p : PollSender β)
    (out hand : List β) : Prop where
  written : out <+: p.channel.received
  pulled : writer.isOver = false →
    out ++ hand = p.channel.received ∧ p.channel.receiver = true
  finished : writer.isFinishing = true →
    p.channel.senderGone = true ∧ out = p.channel.sent

namespace Forwards

variable {β : Type} {writer : LinkWriter Req₂ Resp₁} {p p' : PollSender β} {out hand : List β}

theorem user (h : Forwards writer p out hand) (hstep : PollSender.Step p p') :
    Forwards writer p' out hand where
  written := by
    rw [hstep.channel.received]
    exact h.written
  pulled hover := by
    rw [hstep.channel.received, hstep.channel.receiver]
    exact h.pulled hover
  finished hfinished := by
    obtain ⟨hgone, hwritten⟩ := h.finished hfinished
    obtain ⟨hgone', hsent⟩ := hstep.gone hgone
    exact ⟨hgone', hwritten.trans hsent.symm⟩

/-- The writer's task ends. -/
theorem stop (h : Forwards writer p out hand) {writer' : LinkWriter Req₂ Resp₁}
    (hover : writer'.isOver = true)
    (hclosed : writer'.isFinishing = true → writer.isFinishing = true) :
    Forwards writer' p.dropReceiver out [] where
  written := h.written
  pulled hover' := by
    rw [hover] at hover'
    cases hover'
  finished hfinished := by
    obtain ⟨hgone, hwritten⟩ := h.finished (hclosed hfinished)
    exact ⟨hgone, hwritten.trans (Channel.sent_dropReceiver _).symm⟩

/-- The writer finds the channel closed. -/
theorem finish (h : Forwards writer p out []) (hover : writer.isOver = false)
    (hfinished : p.isFinished = true) : Forwards (.closing : LinkWriter Req₂ Resp₁) p out [] := by
  obtain ⟨hpulled, hthere⟩ := h.pulled hover
  rw [PollSender.isFinished, Bool.and_eq_true, List.isEmpty_iff] at hfinished
  obtain ⟨hqueue, hgone⟩ := hfinished
  refine ⟨h.written, fun _ => ⟨hpulled, hthere⟩, fun _ => ⟨hgone, ?_⟩⟩
  rw [Channel.sent_of_receiver hthere, hqueue, ← hpulled, List.append_nil, List.append_nil]

/-- The writer goes on, and what it has in hand is written. -/
theorem startSend (h : Forwards writer p out hand) (hover : writer.isOver = false)
    {writer' : LinkWriter Req₂ Resp₁} (hsending : writer'.isFinishing = false) :
    Forwards writer' p (out ++ hand) [] := by
  obtain ⟨hpulled, hthere⟩ := h.pulled hover
  refine ⟨hpulled ▸ List.prefix_rfl, fun _ => ⟨?_, hthere⟩, fun hfinished => ?_⟩
  · rw [hpulled, List.append_nil]
  · rw [hsending] at hfinished
    cases hfinished

/-- The writer goes on with nothing in hand. -/
theorem move (h : Forwards writer p out []) (hover : writer.isOver = false)
    {writer' : LinkWriter Req₂ Resp₁} (hsending : writer'.isFinishing = false) :
    Forwards writer' p out [] := by
  have hmoved := h.startSend hover hsending
  rwa [List.append_nil] at hmoved

/-- The writer takes a value out of the channel. -/
theorem recv (h : Forwards writer p out []) (hover : writer.isOver = false) {x : β}
    (hrecv : p.recv = some (x, p')) {writer' : LinkWriter Req₂ Resp₁}
    (hsending : writer'.isFinishing = false) : Forwards writer' p' out [x] := by
  obtain ⟨hpulled, hthere⟩ := h.pulled hover
  obtain ⟨-, hreceived, -, -, -, -, hreceiver⟩ :=
    Channel.recv_eq_some (PollSender.recv_eq_some hrecv)
  rw [List.append_nil] at hpulled
  refine ⟨?_, fun _ => ⟨?_, ?_⟩, fun hfinished => ?_⟩
  · rw [hreceived, hpulled]
    exact List.prefix_append _ _
  · rw [hreceived, hpulled]
  · rw [hreceiver, hthere]
  · rw [hsending] at hfinished
    cases hfinished

end Forwards

namespace TwoWay

/-! ## What the halves get -/

/-- One element more. -/
theorem filterMap_concat {β γ : Type} (f : β → Option γ) (l : List β) (x : β) :
    (l ++ [x]).filterMap f = l.filterMap f ++ (f x).toList := by
  rw [List.filterMap_append]
  cases h : f x <;> simp [h]

/-- The arm for an item has it in hand for the halves it is for. -/
theorem forServer_handle (item : Except IoError (TwoWayMessage Req₁ Resp₂)) :
    (handle item).forServer = (requestOf item).toList := by
  rcases item with _ | (_ | _) <;> rfl

/-- A response is for the client. -/
theorem forClient_handle (item : Except IoError (TwoWayMessage Req₁ Resp₂)) :
    (handle item).forClient = (responseOf item).toList := by
  rcases item with _ | (_ | _) <;> rfl

/-- With an item in its hand the reader has not left. -/
theorem hasLeft_handle (item : Except IoError (TwoWayMessage Req₁ Resp₂)) :
    (handle item).hasLeft = false := by
  rcases item with _ | (_ | _) <;> rfl

/-- The state of the reader and of the channels that it fills. -/
structure Inbound (s : TwoWay Req₁ Resp₁ Req₂ Resp₂) : Prop where
  server : Hands s.server.receiver s.reader.forServer (s.taken.filterMap requestOf)
  client : Hands s.client.receiver s.reader.forClient (s.taken.filterMap responseOf)
  /-- An error is the last item that is taken. -/
  failure : (∃ messages : List (TwoWayMessage Req₁ Resp₂),
      s.taken = messages.map .ok ∧ s.reader.isFailing = false) ∨
    ∃ (messages : List (TwoWayMessage Req₁ Resp₂)) (err : IoError),
      s.taken = messages.map .ok ++ [.error err] ∧
        (s.reader.isFailing = true ∨ s.reader.hasLeft = true)
  /-- Why the reader has left. -/
  left : s.reader.hasLeft = true → s.userAborted = true ∨ s.hungUp = true ∧ s.inbound = [] ∨
    (∃ err, .error err ∈ s.taken) ∨ s.server.isHeld = false ∨ s.client.isHeld = false
  flag : s.aborted = true → s.userAborted = true ∨ s.reader = .done

/-- At the start nothing has come in. -/
theorem inbound_spawnTwoway :
    Inbound (spawnTwoway : TwoWay Req₁ Resp₁ Req₂ Resp₂) where
  server := .inl rfl
  client := .inl rfl
  failure := .inl ⟨[], rfl, rfl⟩
  left h := by cases h
  flag h := by cases h

section
variable {s s' : TwoWay Req₁ Resp₁ Req₂ Resp₂}

/-- A reader that hands out an error has taken it. -/
theorem Inbound.exists_error (h : Inbound s) (hfailing : s.reader.isFailing = true) :
    ∃ err, .error err ∈ s.taken := by
  obtain ⟨-, -, hnone⟩ | ⟨messages, err, htaken, -⟩ := h.failure
  · rw [hnone] at hfailing
    cases hfailing
  · exact ⟨err, htaken ▸ List.mem_append_right _ List.mem_cons_self⟩

/-- What is read hands requests to the server. -/
theorem Reads.hands_server (hreads : Reads s s')
    (h : Hands s.server.receiver s.reader.forServer (s.taken.filterMap requestOf)) :
    Hands s'.server.receiver s'.reader.forServer (s'.taken.filterMap requestOf) := by
  cases hreads with
  | wait hreader | stop hreader | hangUp hreader | response hreader | responseGone hreader
  | failClient hreader | failClientGone hreader | exit hreader =>
    rw [hreader] at h
    exact h
  | take hreader hinbound =>
    rw [hreader] at h
    dsimp only
    rw [filterMap_concat, forServer_handle]
    exact h.take _
  | request hreader hsend | failServer hreader hsend =>
    rw [hreader] at h
    exact h.push hsend
  | requestGone hreader hsend | failServerGone hreader hsend =>
    rw [hreader] at h
    exact h.skip hsend

/-- What is read hands responses to the client. -/
theorem Reads.hands_client (hreads : Reads s s')
    (h : Hands s.client.receiver s.reader.forClient (s.taken.filterMap responseOf)) :
    Hands s'.client.receiver s'.reader.forClient (s'.taken.filterMap responseOf) := by
  cases hreads with
  | wait hreader | stop hreader | hangUp hreader | request hreader | requestGone hreader
  | failServer hreader | failServerGone hreader | exit hreader =>
    rw [hreader] at h
    exact h
  | take hreader hinbound =>
    rw [hreader] at h
    dsimp only
    rw [filterMap_concat, forClient_handle]
    exact h.take _
  | response hreader hsend | failClient hreader hsend =>
    rw [hreader] at h
    have hpushed := h.push hsend
    exact hpushed
  | responseGone hreader hsend | failClientGone hreader hsend =>
    rw [hreader] at h
    exact h.skip hsend

/-- The reader keeps the state of the channels that it fills. -/
theorem Inbound.reads (h : Inbound s) (hreads : Reads s s') : Inbound s' := by
  refine ⟨hreads.hands_server h.server, hreads.hands_client h.client, ?_, ?_, ?_⟩
  · obtain ⟨messages, htaken, hfailing⟩ | ⟨messages, err, htaken, hafter⟩ := h.failure
    · cases hreads with
      | wait | stop | hangUp | request | requestGone | response | responseGone | exit =>
        exact .inl ⟨messages, htaken, rfl⟩
      | @take item inbound hreader hinbound =>
        cases item with
        | ok message =>
          refine .inl ⟨messages ++ [message], ?_, ?_⟩
          · dsimp only
            rw [htaken, List.map_append]
            rfl
          · cases message <;> rfl
        | error err => exact .inr ⟨messages, err, congrArg (· ++ _) htaken, .inl rfl⟩
      | failServer hreader | failServerGone hreader | failClient hreader
      | failClientGone hreader =>
        rw [hreader] at hfailing
        cases hfailing
    · refine .inr ⟨messages, err, ?_⟩
      cases hreads with
      | wait hreader | stop hreader | take hreader | hangUp hreader | request hreader
      | requestGone hreader | response hreader | responseGone hreader =>
        rw [hreader] at hafter
        rcases hafter with hafter | hafter <;> cases hafter
      | failServer | failServerGone => exact ⟨htaken, .inl rfl⟩
      | failClient | failClientGone | exit => exact ⟨htaken, .inr rfl⟩
  · intro hleft
    cases hreads with
    | wait | request | response | failServer | failServerGone => cases hleft
    | take => rw [hasLeft_handle] at hleft; cases hleft
    | stop hreader haborted =>
      rcases h.flag haborted with huser | hdone
      · exact .inl huser
      · rw [hreader] at hdone
        cases hdone
    | hangUp hreader hinbound hhungUp => exact .inr (.inl ⟨hhungUp, hinbound⟩)
    | requestGone hreader hsend =>
      have hgone : s.server.receiver.receiver = false := Channel.send_eq_error hsend
      exact .inr (.inr (.inr (.inl hgone)))
    | responseGone hreader hsend =>
      have hgone : s.client.receiver.receiver = false := Channel.send_eq_error hsend
      exact .inr (.inr (.inr (.inr hgone)))
    | failClient hreader | failClientGone hreader =>
      exact .inr (.inr (.inl (h.exists_error (hreader ▸ rfl))))
    | exit hreader => exact h.left (hreader ▸ rfl)
  · intro haborted
    cases hreads with
    | exit => exact .inr rfl
    | wait hreader | stop hreader | take hreader | hangUp hreader | request hreader
    | requestGone hreader | response hreader | responseGone hreader | failServer hreader
    | failServerGone hreader | failClient hreader | failClientGone hreader =>
      rcases h.flag haborted with huser | hdone
      · exact .inl huser
      · rw [hreader] at hdone
        cases hdone

/-- Whoever else takes a step keeps the state of the channels too. -/
theorem Inbound.frame (h : Inbound s) (hreader : s'.reader = s.reader) (htaken : s'.taken = s.taken)
    (hserver : Channel.ReceiverStep s.server.receiver s'.server.receiver)
    (hclient : Channel.ReceiverStep s.client.receiver s'.client.receiver)
    (hlink : s.hungUp = true → s'.hungUp = true ∧ s'.inbound = s.inbound)
    (huser : s.userAborted = true → s'.userAborted = true)
    (hflag : s'.aborted = true → s.aborted = true ∨ s'.userAborted = true) : Inbound s' where
  server := by
    rw [hreader, htaken]
    exact h.server.user hserver
  client := by
    rw [hreader, htaken]
    exact h.client.user hclient
  failure := by
    rw [hreader, htaken]
    exact h.failure
  left hleft := by
    rw [hreader] at hleft
    rw [htaken]
    rcases h.left hleft with hcalled | ⟨hhungUp, hinbound⟩ | herror | hgone | hgone
    · exact .inl (huser hcalled)
    · obtain ⟨hhungUp', hinbound'⟩ := hlink hhungUp
      exact .inr (.inl ⟨hhungUp', hinbound'.trans hinbound⟩)
    · exact .inr (.inr (.inl herror))
    · refine .inr (.inr (.inr (.inl (Bool.eq_false_iff.2 fun hheld => ?_))))
      rw [ChannelTransport.isHeld, hserver.receiver hheld] at hgone
      cases hgone
    · refine .inr (.inr (.inr (.inr (Bool.eq_false_iff.2 fun hheld => ?_))))
      rw [ChannelTransport.isHeld, hclient.receiver hheld] at hgone
      cases hgone
  flag haborted := by
    rw [hreader]
    rcases hflag haborted with haborted | hcalled
    · exact (h.flag haborted).imp_left huser
    · exact .inl hcalled

/-- Every step keeps the state of the reader and of its channels. -/
theorem Inbound.step {a : LinkAction Req₁ Resp₁ Req₂ Resp₂} (h : Inbound s) (hstep : Step s a s') :
    Inbound s' := by
  unfold Step next at hstep
  cases a with
  | arrive item =>
    dsimp only at hstep
    split at hstep
    · cases hstep
    · next hopen =>
      cases hstep
      exact h.frame rfl rfl (.refl _) (.refl _) (fun hhungUp => absurd hhungUp hopen) id .inl
  | hangUp =>
    cases hstep
    exact h.frame rfl rfl (.refl _) (.refl _) (fun _ => ⟨rfl, rfl⟩) id .inl
  | read => exact h.reads (reads_of_read hstep)
  | write action =>
    obtain ⟨server, client, writer, written, rfl⟩ := (writes_of_write hstep).frame
    exact h.frame rfl rfl (.refl _) (.refl _) (fun hhungUp => ⟨hhungUp, rfl⟩) id .inl
  | server action =>
    obtain ⟨server, hact, rfl⟩ := Option.map_eq_some_iff.1 hstep
    exact h.frame rfl rfl (ChannelTransport.step_act hact).1 (.refl _)
      (fun hhungUp => ⟨hhungUp, rfl⟩) id .inl
  | client action =>
    obtain ⟨client, hact, rfl⟩ := Option.map_eq_some_iff.1 hstep
    exact h.frame rfl rfl (.refl _) (ChannelTransport.step_act hact).1
      (fun hhungUp => ⟨hhungUp, rfl⟩) id .inl
  | abort =>
    cases hstep
    exact h.frame rfl rfl (.refl _) (.refl _) (fun hhungUp => ⟨hhungUp, rfl⟩) (fun _ => rfl)
      fun _ => .inr rfl

end

/-! ## What the link gets -/

/-- The state of the writer and of the channels that it empties. -/
structure Outbound (s : TwoWay Req₁ Resp₁ Req₂ Resp₂) : Prop where
  server : Forwards s.writer s.server.sender (s.written.filterMap TwoWayMessage.response?)
    s.writer.responses
  client : Forwards s.writer s.client.sender (s.written.filterMap TwoWayMessage.clientMessage?)
    s.writer.messages

/-- At the start nothing has gone out. -/
theorem outbound_spawnTwoway : Outbound (spawnTwoway : TwoWay Req₁ Resp₁ Req₂ Resp₂) where
  server := ⟨List.nil_prefix, fun _ => ⟨rfl, rfl⟩, fun h => by cases h⟩
  client := ⟨List.nil_prefix, fun _ => ⟨rfl, rfl⟩, fun h => by cases h⟩

section
variable {s s' : TwoWay Req₁ Resp₁ Req₂ Resp₂}

/-- The writer keeps the state of the channels that it empties. -/
theorem Outbound.writes (h : Outbound s) (hwrites : Writes s s') : Outbound s' := by
  obtain ⟨hserver, hclient⟩ := h
  cases hwrites with
  | takeResponse hwriter hrecv =>
    rw [hwriter] at hserver hclient
    exact ⟨hserver.recv rfl hrecv rfl, hclient.move rfl rfl⟩
  | takeMessage hwriter hrecv =>
    rw [hwriter] at hserver hclient
    exact ⟨hserver.move rfl rfl, hclient.recv rfl hrecv rfl⟩
  | finish hwriter hserverFinished hclientFinished =>
    rw [hwriter] at hserver hclient
    exact ⟨hserver.finish rfl hserverFinished, hclient.finish rfl hclientFinished⟩
  | startSend hwriter =>
    rw [hwriter] at hserver hclient
    refine ⟨?_, ?_⟩
    · dsimp only
      rw [filterMap_concat]
      exact hserver.startSend rfl rfl
    · dsimp only
      rw [filterMap_concat]
      exact hclient.startSend rfl rfl
  | flush hwriter =>
    rw [hwriter] at hserver hclient
    exact ⟨hserver.move rfl rfl, hclient.move rfl rfl⟩
  | close hwriter =>
    have hfinishing : s.writer.isFinishing = true := hwriter ▸ rfl
    exact ⟨hserver.stop rfl fun _ => hfinishing, hclient.stop rfl fun _ => hfinishing⟩
  | stop hover =>
    have hended : (.ended : LinkWriter Req₂ Resp₁).isFinishing = true → s.writer.isFinishing = true :=
      fun hfinishing => by cases hfinishing
    exact ⟨hserver.stop rfl hended, hclient.stop rfl hended⟩

/-- Every step keeps the state of the writer and of its channels. -/
theorem Outbound.step {a : LinkAction Req₁ Resp₁ Req₂ Resp₂} (h : Outbound s)
    (hstep : Step s a s') : Outbound s' := by
  unfold Step next at hstep
  cases a with
  | arrive item =>
    dsimp only at hstep
    split at hstep
    · cases hstep
    · cases hstep
      exact ⟨h.server, h.client⟩
  | hangUp =>
    cases hstep
    exact ⟨h.server, h.client⟩
  | read =>
    obtain ⟨hserver, hclient, hwriter, hwritten⟩ := (reads_of_read hstep).frame
    refine ⟨?_, ?_⟩
    · rw [hserver, hwriter, hwritten]
      exact h.server
    · rw [hclient, hwriter, hwritten]
      exact h.client
  | write action => exact h.writes (writes_of_write hstep)
  | server action =>
    obtain ⟨server, hact, rfl⟩ := Option.map_eq_some_iff.1 hstep
    exact ⟨h.server.user (ChannelTransport.step_act hact).2, h.client⟩
  | client action =>
    obtain ⟨client, hact, rfl⟩ := Option.map_eq_some_iff.1 hstep
    exact ⟨h.server, h.client.user (ChannelTransport.step_act hact).2⟩
  | abort =>
    cases hstep
    exact ⟨h.server, h.client⟩

end

end TwoWay

end Lapdev
