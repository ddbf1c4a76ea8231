import Lapdev.Rpc.TwoWay

/-!
# The steps of the two tasks of a link

`TwoWay.Reads` and `TwoWay.Writes` have one case for each thing that the reader and the writer can do,
with the state in which they do it.
-/

namespace Lapdev

open RustStd

variable {Req₁ Resp₁ Req₂ Resp₂ : Type}

namespace TwoWay

/-! ## The steps of the reader -/

/-- What the reader does in one step. -/
inductive Reads (s : TwoWay Req₁ Resp₁ Req₂ Resp₂) : TwoWay Req₁ Resp₁ Req₂ Resp₂ → Prop
  | wait : s.reader = .checking → s.aborted = false → Reads s { s with reader := .waiting }
  | stop : s.reader = .checking → s.aborted = true → Reads s s.leave
  | take {item : Except IoError (TwoWayMessage Req₁ Resp₂)}
      {inbound : List (Except IoError (TwoWayMessage Req₁ Resp₂))} :
      s.reader = .waiting → s.inbound = item :: inbound →
      Reads s { s with inbound, taken := s.taken ++ [item], reader := handle item }
  | hangUp : s.reader = .waiting → s.inbound = [] → s.hungUp = true → Reads s s.leave
  | request {req : Req₁} {receiver : Channel (Except IoError Req₁)} :
      s.reader = .sendingRequest req → s.server.receiver.send (.ok req) = some (.ok receiver) →
      Reads s (s.setServer receiver .checking)
  | requestGone {req : Req₁} : s.reader = .sendingRequest req →
      s.server.receiver.send (.ok req) = some (.error ()) → Reads s s.leave
  | response {resp : Resp₂} {receiver : Channel (Except IoError Resp₂)} :
      s.reader = .sendingResponse resp → s.client.receiver.send (.ok resp) = some (.ok receiver) →
      Reads s (s.setClient receiver .checking)
  | responseGone {resp : Resp₂} : s.reader = .sendingResponse resp →
      s.client.receiver.send (.ok resp) = some (.error ()) → Reads s s.leave
  | failServer {err cloned : IoError} {receiver : Channel (Except IoError Req₁)} :
      s.reader = .failingServer err cloned →
      s.server.receiver.send (.error err) = some (.ok receiver) →
      Reads s (s.setServer receiver (.failingClient cloned))
  | failServerGone {err cloned : IoError} : s.reader = .failingServer err cloned →
      s.server.receiver.send (.error err) = some (.error ()) →
      Reads s { s with reader := .failingClient cloned }
  | failClient {cloned : IoError} {receiver : Channel (Except IoError Resp₂)} :
      s.reader = .failingClient cloned →
      s.client.receiver.send (.error cloned) = some (.ok receiver) →
      Reads s (s.setClient receiver .leaving).leave
  | failClientGone {cloned : IoError} : s.reader = .failingClient cloned →
      s.client.receiver.send (.error cloned) = some (.error ()) → Reads s s.leave
  | exit : s.reader = .leaving → Reads s { s with reader := .done, aborted := true }

theorem reads_of_read {s s' : TwoWay Req₁ Resp₁ Req₂ Resp₂} (h : s.read = some s') :
    Reads s s' := by
  unfold read at h
  cases hreader : s.reader with
  | checking =>
    rw [hreader] at h
    cases h
    split
    · next haborted => exact .stop hreader haborted
    · next haborted => exact .wait hreader (Bool.eq_false_iff.2 haborted)
  | waiting =>
    rw [hreader] at h
    cases hinbound : s.inbound with
    | nil =>
      simp only [hinbound] at h
      split at h
      · next hhungUp =>
        cases h
        exact .hangUp hreader hinbound hhungUp
      · cases h
    | cons item inbound =>
      simp only [hinbound] at h
      cases h
      exact .take hreader hinbound
  | sendingRequest req =>
    rw [hreader] at h
    obtain ⟨result, hsend, rfl⟩ := Option.map_eq_some_iff.1 h
    cases result with
    | ok receiver => exact .request hreader hsend
    | error _ => exact .requestGone hreader hsend
  | sendingResponse resp =>
    rw [hreader] at h
    obtain ⟨result, hsend, rfl⟩ := Option.map_eq_some_iff.1 h
    cases result with
    | ok receiver => exact .response hreader hsend
    | error _ => exact .responseGone hreader hsend
  | failingServer err cloned =>
    rw [hreader] at h
    obtain ⟨result, hsend, rfl⟩ := Option.map_eq_some_iff.1 h
    cases result with
    | ok receiver => exact .failServer hreader hsend
    | error _ => exact .failServerGone hreader hsend
  | failingClient cloned =>
    rw [hreader] at h
    obtain ⟨result, hsend, rfl⟩ := Option.map_eq_some_iff.1 h
    cases result with
    | ok receiver => exact .failClient hreader hsend
    | error _ => exact .failClientGone hreader hsend
  | leaving =>
    rw [hreader] at h
    cases h
    exact .exit hreader
  | done =>
    rw [hreader] at h
    cases h

/-- The reader does not touch what the writer works on. -/
theorem Reads.frame {s s' : TwoWay Req₁ Resp₁ Req₂ Resp₂} (h : Reads s s') :
    s'.server.sender = s.server.sender ∧ s'.client.sender = s.client.sender ∧
      s'.writer = s.writer ∧ s'.written = s.written := by
  cases h <;> exact ⟨rfl, rfl, rfl, rfl⟩

/-! ## The steps of the writer -/

/-- What the writer does in one step, or what becomes of it. -/
inductive Writes (s : TwoWay Req₁ Resp₁ Req₂ Resp₂) : TwoWay Req₁ Resp₁ Req₂ Resp₂ → Prop
  | takeResponse {resp : Resp₁} {sender : PollSender Resp₁} :
      s.writer = .selecting → s.server.sender.recv = some (resp, sender) →
      Writes s { s with server := { s.server with sender }, writer := .sending (.response resp) }
  | takeMessage {msg : Req₂} {sender : PollSender Req₂} :
      s.writer = .selecting → s.client.sender.recv = some (msg, sender) →
      Writes s { s with client := { s.client with sender }, writer := .sending (.clientMessage msg) }
  | finish : s.writer = .selecting → s.server.sender.isFinished = true →
      s.client.sender.isFinished = true → Writes s { s with writer := .closing }
  | startSend {message : TwoWayMessage Req₂ Resp₁} : s.writer = .sending message →
      Writes s { s with written := s.written ++ [message], writer := .flushing }
  | flush : s.writer = .flushing → Writes s { s with writer := .selecting }
  | close : s.writer = .closing → Writes s (s.endWriter .closed)
  | stop : s.writer.isOver = false → Writes s (s.endWriter .ended)

theorem writes_of_write {s s' : TwoWay Req₁ Resp₁ Req₂ Resp₂} {a : WriterAction}
    (h : s.write a = some s') : Writes s s' := by
  unfold write at h
  cases a with
  | takeResponse =>
    dsimp only at h
    split at h
    · next hwriter =>
      obtain ⟨⟨resp, sender⟩, hrecv, rfl⟩ := Option.map_eq_some_iff.1 h
      exact .takeResponse hwriter hrecv
    · cases h
  | takeMessage =>
    dsimp only at h
    split at h
    · next hwriter =>
      obtain ⟨⟨msg, sender⟩, hrecv, rfl⟩ := Option.map_eq_some_iff.1 h
      exact .takeMessage hwriter hrecv
    · cases h
  | finish =>
    dsimp only at h
    split at h
    · next hwriter =>
      split at h
      · next hfinished =>
        cases h
        rw [Bool.and_eq_true] at hfinished
        exact .finish hwriter hfinished.1 hfinished.2
      · cases h
    · cases h
  | startSend =>
    dsimp only at h
    split at h
    · next hwriter =>
      cases h
      exact .startSend hwriter
    · cases h
  | flush =>
    dsimp only at h
    split at h
    · next hwriter =>
      cases h
      exact .flush hwriter
    · cases h
  | close =>
    dsimp only at h
    split at h
    · next hwriter =>
      cases h
      exact .close hwriter
    · cases h
  | fail =>
    dsimp only at h
    split at h
    · next hwriter =>
      cases h
      exact .stop (hwriter ▸ rfl)
    · next hwriter =>
      cases h
      exact .stop (hwriter ▸ rfl)
    · next hwriter =>
      cases h
      exact .stop (hwriter ▸ rfl)
    · cases h
  | abort =>
    dsimp only at h
    split at h
    · next hover =>
      cases h
      rw [Bool.and_eq_true, Bool.not_eq_true'] at hover
      exact .stop hover.2
    · cases h

/-- The writer does not touch what the reader works on. -/
theorem Writes.frame {s s' : TwoWay Req₁ Resp₁ Req₂ Resp₂} (h : Writes s s') :
    ∃ server client writer written, s' = { s with
      server := { s.server with sender := server }
      client := { s.client with sender := client }
      writer, written } := by
  cases h <;> exact ⟨_, _, _, _, rfl⟩

end TwoWay

end Lapdev
