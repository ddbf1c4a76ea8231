import Lapdev.Logic.Run
import Lapdev.Tunnel.Credentials
import Lapdev.Tunnel.Message

/-!
# The handshake of a direct tunnel

`tunnel/src/direct/handshake.rs` and the two sides of it in `direct/endpoint.rs`. A client writes its
token on the first stream of a connection and waits for an acknowledgement
(`establish_client_connection`); the server reads a token, takes it out of the store, acknowledges it
and serves the connection (`handle_incoming`). A peer may also be any other program, which writes what
it likes. `handshake_of_run` says what holds in every state of a run, whoever the peers are.
-/

namespace Lapdev

open RustStd RustStd.Utf8 Runs

namespace Tunnel

/-! ## Messages -/

def handshakeMaxTokenLen : Nat := 65535

/-- Source: `handshake.rs`; the bytes that are written. -/
def writeToken (token : Str) : Except TunnelError (List UInt8) :=
  let tokenBytes := encode token
  if tokenBytes.length > handshakeMaxTokenLen then .error (.remote "direct credential too long")
  else .ok (writeU16 (UInt16.ofNat tokenBytes.length) ++ tokenBytes)

/-- Source: `handshake.rs`. -/
def readToken : ReadStream Str := fun bytes =>
  match readU16 bytes with
  | .error _ => .error (.transport .other)
  | .ok (len, rest) =>
    if len.toNat ≤ rest.length then
      match fromUtf8 (rest.take len.toNat) with
      | some token => .ok (token, rest.drop len.toNat)
      | none => .error (.remote "invalid credential encoding")
    else .error (.transport .other)

/-- Source: `handshake.rs`; the bytes that are written. -/
def writeServerAck : List UInt8 := [1]

/-- Source: `handshake.rs`. -/
def readServerAck : ReadStream Unit := fun bytes =>
  match bytes with
  | [] => .error (.transport .other)
  | ack :: rest =>
    if ack = 1 then .ok ((), rest) else .error (.remote "direct server rejected credential")

theorem readU16_eq_ok {bytes rest : List UInt8} {n : UInt16} (h : readU16 bytes = .ok (n, rest)) :
    bytes = writeU16 n ++ rest := by
  obtain _ | ⟨b, _ | ⟨b', rest'⟩⟩ := bytes
  · cases h
  · cases h
  · cases h
    have hb := b.toNat_lt
    have hb' := b'.toNat_lt
    have hn : (UInt16.ofNat (b.toNat * 256 + b'.toNat)).toNat = b.toNat * 256 + b'.toNat :=
      toNat_ofNat_of_le (by omega)
    have hhigh : (b.toNat * 256 + b'.toNat) / 256 = b.toNat := by omega
    have hlow : UInt8.ofNat (b.toNat * 256 + b'.toNat) = b' := by
      refine UInt8.toNat_inj.1 ?_
      rw [UInt8.toNat_ofNat']
      omega
    rw [writeU16, hn, hhigh, hlow, UInt8.ofNat_toNat]
    rfl

/-- A token is read exactly if its bytes are there. -/
theorem readToken_eq_ok {bytes rest : List UInt8} {token : Str} :
    readToken bytes = .ok (token, rest) ↔
      ∃ written, writeToken token = .ok written ∧ bytes = written ++ rest := by
  unfold readToken writeToken
  constructor
  · intro h
    split at h
    · cases h
    · next len rest' hlen =>
      split at h
      · next hle =>
        split at h
        · next text htext =>
          cases h
          have hbytes := fromUtf8_eq_some.1 htext
          have hlength : (encode token).length = len.toNat := by
            rw [hbytes, List.length_take, Nat.min_eq_left hle]
          have hlt := len.toNat_lt
          refine ⟨_, if_neg ?_, ?_⟩
          · rw [hlength]
            exact Nat.not_lt.2 (Nat.le_of_lt_succ hlt)
          · rw [readU16_eq_ok hlen, hlength, UInt16.ofNat_toNat, hbytes, List.append_assoc,
              List.take_append_drop]
        · cases h
      · cases h
  · rintro ⟨written, hwritten, rfl⟩
    dsimp only at hwritten
    split at hwritten
    · cases hwritten
    · next hlen =>
      cases hwritten
      have hnat := toNat_ofNat_of_le (Nat.not_lt.1 hlen)
      rw [List.append_assoc, readU16_writeU16]
      dsimp only
      rw [hnat, if_pos (by simp), List.take_left, List.drop_left, fromUtf8_eq_some.2 rfl]

/-- Two tokens whose bytes begin the same stream are one. -/
theorem writeToken_inj {token token' : Str} {written written' rest rest' : List UInt8}
    (h : writeToken token = .ok written) (h' : writeToken token' = .ok written')
    (heq : written ++ rest = written' ++ rest') : token = token' := by
  have hread : readToken (written ++ rest) = .ok (token, rest) := readToken_eq_ok.2 ⟨_, h, rfl⟩
  rw [heq, readToken_eq_ok.2 ⟨written', h', rfl⟩] at hread
  cases hread
  rfl

/-! ## The two sides -/

/-- `establish_client_connection`, between two of its steps. -/
inductive ClientState
  /-- The token is written. -/
  | waiting (token : Str)
  /-- The acknowledgement is read. -/
  | connected (token : Str)
  | failed

/-- `handle_incoming`, between two of its steps. -/
inductive ServerState
  /-- In `read_token`. -/
  | reading
  /-- In front of `remove`. -/
  | presented (token : Str)
  /-- In front of `write_server_ack`. -/
  | authenticated (token : Str)
  /-- In `run_tunnel_server`. -/
  | serving (token : Str)
  | ended

/-- A connection: what its peer has written on the first stream and the server has not read, in part
not arrived yet, and what the server has written and the peer has not read. The peer is a client, or
another program. -/
structure Connection where
  inFlight : List UInt8
  arrived : List UInt8
  toClient : List UInt8
  client : Option ClientState
  server : ServerState

/-- The server lets the peer pass, with this token. -/
def ServerState.Admits (token : Str) : ServerState → Prop
  | .authenticated token' | .serving token' => token' = token
  | _ => False

/-- A direct endpoint and its incoming connections. -/
structure DirectEndpoint (I : Type) where
  credential : DirectCredentialStore.Traced
  connections : I → Option Connection

/-- A step of somebody. -/
inductive DirectAction (I : Type)
  | call (call : DirectCredentialStore.Call)
  | dial (i : I)
  | connect (i : I) (token : Str)
  | send (i : I) (bytes : List UInt8)
  | deliver (i : I) (count : Nat)
  | readToken (i : I)
  | refuse (i : I)
  | letIn (i : I) (token : Str) (now later : DateTime)
  | reject (i : I) (now later : DateTime)
  | writeServerAck (i : I)
  | readServerAck (i : I)
  | loseClient (i : I)
  | loseServer (i : I)

namespace DirectEndpoint

section
variable {I : Type}

/-- A new endpoint. -/
def new (clock : DateTime) : DirectEndpoint I := ⟨.new clock, fun _ => none⟩

variable [DecidableEq I]

/-- The endpoint after a step of a connection. -/
def setConnection (endpoint : DirectEndpoint I) (i : I) (c : Connection) : DirectEndpoint I :=
  { endpoint with connections := Function.update endpoint.connections i (some c) }

/-- A step. The store is also called by others; the two sides of a connection may be lost at any
time, each for itself. -/
inductive Step : DirectEndpoint I → DirectAction I → DirectEndpoint I → Prop
  | call {endpoint : DirectEndpoint I} {call} : Step endpoint (.call call)
      { endpoint with credential := endpoint.credential.apply call }
  | dial {endpoint : DirectEndpoint I} {i} : endpoint.connections i = none →
      Step endpoint (.dial i) (endpoint.setConnection i ⟨[], [], [], none, .reading⟩)
  | connect {endpoint : DirectEndpoint I} {i token bytes} : endpoint.connections i = none →
      writeToken token = .ok bytes → Step endpoint (.connect i token)
        (endpoint.setConnection i ⟨bytes, [], [], some (.waiting token), .reading⟩)
  | send {endpoint : DirectEndpoint I} {i c bytes} : endpoint.connections i = some c →
      c.client = none → Step endpoint (.send i bytes)
        (endpoint.setConnection i { c with inFlight := c.inFlight ++ bytes })
  | deliver {endpoint : DirectEndpoint I} {i c count} : endpoint.connections i = some c →
      Step endpoint (.deliver i count) (endpoint.setConnection i
        { c with inFlight := c.inFlight.drop count, arrived := c.arrived ++ c.inFlight.take count })
  | readToken {endpoint : DirectEndpoint I} {i c token rest} : endpoint.connections i = some c →
      c.server = .reading → Tunnel.readToken c.arrived = .ok (token, rest) →
      Step endpoint (.readToken i)
        (endpoint.setConnection i { c with arrived := rest, server := .presented token })
  | refuse {endpoint : DirectEndpoint I} {i c reason} : endpoint.connections i = some c →
      c.server = .reading → Tunnel.readToken c.arrived = .error (.remote reason) →
      Step endpoint (.refuse i) (endpoint.setConnection i { c with server := .ended })
  | letIn {endpoint : DirectEndpoint I} {i c token now later} :
      endpoint.connections i = some c → c.server = .presented token →
      (endpoint.credential.store.remove token now later).1 = true →
      Step endpoint (.letIn i token now later)
        (setConnection { endpoint with
          credential := endpoint.credential.apply (.remove token now later) } i
          { c with server := .authenticated token })
  | reject {endpoint : DirectEndpoint I} {i c token now later} :
      endpoint.connections i = some c → c.server = .presented token →
      (endpoint.credential.store.remove token now later).1 = false →
      Step endpoint (.reject i now later)
        (setConnection { endpoint with
          credential := endpoint.credential.apply (.remove token now later) } i
          { c with server := .ended })
  | writeServerAck {endpoint : DirectEndpoint I} {i c token} :
      endpoint.connections i = some c → c.server = .authenticated token →
      Step endpoint (.writeServerAck i) (endpoint.setConnection i
        { c with toClient := c.toClient ++ writeServerAck, server := .serving token })
  | readServerAck {endpoint : DirectEndpoint I} {i c token rest} :
      endpoint.connections i = some c → c.client = some (.waiting token) →
      Tunnel.readServerAck c.toClient = .ok ((), rest) →
      Step endpoint (.readServerAck i)
        (endpoint.setConnection i { c with toClient := rest, client := some (.connected token) })
  | loseClient {endpoint : DirectEndpoint I} {i c} : endpoint.connections i = some c →
      Step endpoint (.loseClient i)
        (endpoint.setConnection i { c with client := c.client.map fun _ => .failed })
  | loseServer {endpoint : DirectEndpoint I} {i c} : endpoint.connections i = some c →
      Step endpoint (.loseServer i) (endpoint.setConnection i { c with server := .ended })

end

/-! ## What a run has done -/

/-- What the peers have written, and which of them were let in, with which token and when. -/
structure History (I : Type) where
  sent : I → List UInt8
  admitted : List (I × Str × DateTime)

section
variable {I : Type}

/-- Before the first step. -/
def History.empty : History I := ⟨fun _ => [], []⟩

variable [DecidableEq I]

/-- A history after a step. -/
def History.record (h : History I) : DirectAction I → History I
  | .connect i token =>
    match writeToken token with
    | .ok bytes => { h with sent := Function.update h.sent i bytes }
    | .error _ => h
  | .send i bytes => { h with sent := Function.update h.sent i (h.sent i ++ bytes) }
  | .letIn i token _ later => { h with admitted := h.admitted ++ [(i, token, later)] }
  | _ => h

/-- The history of a run. -/
def history (actions : List (DirectAction I)) : History I := actions.foldl History.record .empty

omit [DecidableEq I] in
/-- The peer of a connection was let in with a token. -/
def History.Admitted (h : History I) (i : I) (token : Str) : Prop :=
  ∃ later, (i, token, later) ∈ h.admitted

omit [DecidableEq I] in
/-- The peer of a connection has written a token first. -/
def History.Presented (h : History I) (i : I) (token : Str) : Prop :=
  ∃ written rest, writeToken token = .ok written ∧ h.sent i = written ++ rest

/-- What holds of a connection: what was sent is what is still to be read and, once it was read, the
token; a token that passes was admitted, and nothing else makes the server write. -/
structure ConnectionSound (h : History I) (i : I) (c : Connection) : Prop where
  reading : c.server = .reading → h.sent i = c.arrived ++ c.inFlight
  presented : ∀ token, c.server = .presented token → h.Presented i token
  admits : ∀ token, c.server.Admits token → h.Admitted i token
  acknowledged : c.toClient ≠ [] → ∃ token, h.Admitted i token
  waiting : ∀ token, c.client = some (.waiting token) → writeToken token = .ok (h.sent i)
  connected : ∀ token, c.client = some (.connected token) → h.Admitted i token

/-- What holds of an endpoint and its history. -/
structure Sound (endpoint : DirectEndpoint I) (h : History I) : Prop where
  credential : endpoint.credential.Sound
  uses : ∀ token, h.admitted.countP (fun a => a.2.1 = token) ≤
    endpoint.credential.events.countP (Tickets.Event.uses token)
  admitted : ∀ i token later, (i, token, later) ∈ h.admitted →
    h.Presented i token ∧ ∃ expiry, .issue token expiry ∈ endpoint.credential.events ∧ later ≤ expiry
  connections : ∀ i c, endpoint.connections i = some c → ConnectionSound h i c
  fresh : ∀ i, endpoint.connections i = none → h.sent i = []

variable {endpoint endpoint' : DirectEndpoint I} {h h' : History I} {i : I} {c c' : Connection}
  {token : Str}

omit [DecidableEq I] in
theorem Sound.new (clock : DateTime) : Sound (DirectEndpoint.new clock : DirectEndpoint I) .empty where
  credential := .new clock
  uses _ := Nat.zero_le _
  admitted _ _ _ hmem := absurd hmem List.not_mem_nil
  connections _ _ hc := by cases hc
  fresh _ _ := rfl

omit [DecidableEq I] in
theorem History.Admitted.mono (hsub : h.admitted ⊆ h'.admitted) (ha : h.Admitted i token) :
    h'.Admitted i token :=
  ha.imp fun _ hmem => hsub hmem

omit [DecidableEq I] in
/-- Of a connection that sends nothing, when more peers are let in. -/
theorem ConnectionSound.mono (hc : ConnectionSound h i c) (hsent : h'.sent i = h.sent i)
    (hsub : h.admitted ⊆ h'.admitted) : ConnectionSound h' i c where
  reading hserver := hsent.trans (hc.reading hserver)
  presented token hserver := by
    obtain ⟨written, rest, hwritten, heq⟩ := hc.presented token hserver
    exact ⟨written, rest, hwritten, hsent.trans heq⟩
  admits token hserver := (hc.admits token hserver).mono hsub
  acknowledged hne := (hc.acknowledged hne).imp fun _ ha => ha.mono hsub
  waiting token hclient := hsent ▸ hc.waiting token hclient
  connected token hclient := (hc.connected token hclient).mono hsub

theorem setConnection_eq_none {j : I} (hj : (endpoint.setConnection i c).connections j = none) :
    j ≠ i ∧ endpoint.connections j = none := by
  have hne : j ≠ i := by
    rintro rfl
    have hself : (endpoint.setConnection j c).connections j = some c := Function.update_self ..
    rw [hself] at hj
    cases hj
  have hother : (endpoint.setConnection i c).connections j = endpoint.connections j :=
    Function.update_of_ne hne ..
  exact ⟨hne, hother.symm.trans hj⟩

/-- A step of one connection, in which nobody is let in. -/
theorem Sound.setConnection (hs : Sound endpoint h) (hadmitted : h'.admitted = h.admitted)
    (hsent : ∀ j, j ≠ i → h'.sent j = h.sent j)
    (hpresented : ∀ token, h.Presented i token → h'.Presented i token)
    (hc : ConnectionSound h' i c) : Sound (endpoint.setConnection i c) h' where
  credential := hs.credential
  uses token := hadmitted ▸ hs.uses token
  admitted j token later hmem := by
    obtain ⟨hpres, hissued⟩ := hs.admitted j token later (hadmitted ▸ hmem)
    refine ⟨?_, hissued⟩
    by_cases hj : j = i
    · exact hj ▸ hpresented token (hj ▸ hpres)
    · obtain ⟨written, rest, hwritten, heq⟩ := hpres
      exact ⟨written, rest, hwritten, (hsent j hj).trans heq⟩
  connections j d hj := by
    rcases update_eq_some hj with ⟨rfl, heq⟩ | ⟨hne, hj⟩
    · cases heq
      exact hc
    · exact (hs.connections j d hj).mono (hsent j hne) (hadmitted ▸ List.Subset.refl _)
  fresh j hj := by
    obtain ⟨hne, hj⟩ := setConnection_eq_none hj
    exact (hsent j hne).trans (hs.fresh j hj)

/-- A step of one connection that leaves the history. -/
theorem Sound.setConnection' (hs : Sound endpoint h) (hc : ConnectionSound h i c) :
    Sound (endpoint.setConnection i c) h :=
  hs.setConnection rfl (fun _ _ => rfl) (fun _ => id) hc

omit [DecidableEq I] in
/-- A call of the store. -/
theorem Sound.call (hs : Sound endpoint h) (call : DirectCredentialStore.Call) :
    Sound { endpoint with credential := endpoint.credential.apply call } h where
  credential := hs.credential.apply call
  uses token := by
    refine (hs.uses token).trans ?_
    change _ ≤ (endpoint.credential.events ++ _).countP _
    rw [List.countP_append]
    exact Nat.le_add_right _ _
  admitted j token later hmem := by
    obtain ⟨hpres, expiry, hissued, hlater⟩ := hs.admitted j token later hmem
    exact ⟨hpres, expiry, List.mem_append_left _ hissued, hlater⟩
  connections := hs.connections
  fresh := hs.fresh

/-- A peer is let in. -/
theorem Sound.letIn {now later : DateTime} (hs : Sound endpoint h)
    (hi : endpoint.connections i = some c) (hserver : c.server = .presented token)
    (hremove : (endpoint.credential.store.remove token now later).1 = true) :
    Sound (DirectEndpoint.setConnection { endpoint with
        credential := endpoint.credential.apply (.remove token now later) } i
        { c with server := .authenticated token }) (h.record (.letIn i token now later)) := by
  have hsub : h.admitted ⊆ (h.record (.letIn i token now later)).admitted :=
    List.subset_append_left _ _
  have hi' : (i, token, later) ∈ (h.record (.letIn i token now later)).admitted :=
    List.mem_append_right _ List.mem_cons_self
  have hevents : (endpoint.credential.apply (.remove token now later)).events =
      endpoint.credential.events ++ [.use token later] := by
    change _ ++ (if _ then _ else _) = _
    rw [if_pos hremove]
  have hc : ConnectionSound (h.record (.letIn i token now later)) i c :=
    (hs.connections i c hi).mono rfl hsub
  constructor
  · exact hs.credential.apply _
  · intro token'
    change (h.admitted ++ [_]).countP _ ≤
      (endpoint.credential.apply (.remove token now later)).events.countP _
    rw [hevents, List.countP_append, List.countP_append]
    exact Nat.add_le_add (hs.uses token') (Nat.le_refl _)
  · intro j token' later' hmem
    change _ ∧ ∃ expiry, _ ∈ (endpoint.credential.apply (.remove token now later)).events ∧ _
    rw [hevents]
    rcases List.mem_append.1 hmem with hmem | hmem
    · obtain ⟨hpres, expiry, hissued, hlater⟩ := hs.admitted j token' later' hmem
      exact ⟨hpres, expiry, List.mem_append_left _ hissued, hlater⟩
    · cases List.mem_singleton.1 hmem
      obtain ⟨expiry, hstored, -, hgood⟩ := DirectCredentialStore.remove_eq_true.1 hremove
      exact ⟨(hs.connections _ c hi).presented _ hserver, expiry, List.mem_append_left _
        (Tickets.issued_of_after (hs.credential.kept.of_table hstored)), hgood⟩
  · intro j d hj
    rcases update_eq_some hj with ⟨rfl, heq⟩ | ⟨-, hj⟩
    · cases heq
      refine ⟨by rintro ⟨⟩, by rintro _ ⟨⟩, ?_, hc.acknowledged, hc.waiting, hc.connected⟩
      rintro _ rfl
      exact ⟨later, hi'⟩
    · have hd := hs.connections j d hj
      exact hd.mono rfl hsub
  · intro j hj
    exact hs.fresh j (setConnection_eq_none hj).2

/-- A connection begins. -/
theorem Sound.open (hs : Sound endpoint h) (hi : endpoint.connections i = none)
    (hadmitted : h'.admitted = h.admitted) (hsent : ∀ j, j ≠ i → h'.sent j = h.sent j)
    (hc : ConnectionSound h' i c) : Sound (endpoint.setConnection i c) h' := by
  refine hs.setConnection hadmitted hsent ?_ hc
  rintro token ⟨written, rest, hwritten, heq⟩
  -- the bytes of a token are not empty, so nothing was sent before
  have hread : readToken (written ++ rest) = .ok (token, rest) :=
    readToken_eq_ok.2 ⟨_, hwritten, rfl⟩
  rw [← heq, hs.fresh i hi] at hread
  cases hread

/-- Every step keeps it. -/
theorem Sound.step {a : DirectAction I} (hs : Sound endpoint h) (hstep : Step endpoint a endpoint') :
    Sound endpoint' (h.record a) := by
  cases hstep with
  | call => exact hs.call _
  | dial hi =>
    refine hs.open hi rfl (fun _ _ => rfl) ⟨fun _ => hs.fresh _ hi, ?_, ?_, ?_, ?_, ?_⟩
    · rintro _ ⟨⟩
    · rintro _ ⟨⟩
    · exact fun hne => absurd rfl hne
    · rintro _ ⟨⟩
    · rintro _ ⟨⟩
  | @connect i token bytes hi hwrite =>
    have hrecord : h.record (.connect i token) =
        { h with sent := Function.update h.sent i bytes } := by
      rw [History.record, hwrite]
    have hself : (h.record (.connect i token)).sent i = bytes := by
      rw [hrecord]
      exact Function.update_self ..
    refine hs.open hi (by rw [hrecord]) ?_ ⟨fun _ => hself, ?_, ?_, ?_, ?_, ?_⟩
    · intro j hj
      rw [hrecord]
      exact Function.update_of_ne hj ..
    · rintro _ ⟨⟩
    · rintro _ ⟨⟩
    · exact fun hne => absurd rfl hne
    · rintro _ ⟨⟩
      rw [hself]
      exact hwrite
    · rintro _ ⟨⟩
  | @send i c bytes hi hclient =>
    have hc := hs.connections i c hi
    have hself : (h.record (.send i bytes)).sent i = h.sent i ++ bytes := Function.update_self ..
    have hgrows : ∀ token, h.Presented i token → (h.record (.send i bytes)).Presented i token := by
      rintro token ⟨written, rest, hwritten, heq⟩
      exact ⟨written, rest ++ bytes, hwritten, by rw [hself, heq, List.append_assoc]⟩
    refine hs.setConnection rfl (fun j hj => Function.update_of_ne hj ..) hgrows
      ⟨?_, fun token hserver => hgrows token (hc.presented token hserver), hc.admits,
        hc.acknowledged, ?_, ?_⟩
    · intro hserver
      rw [hself, hc.reading hserver, List.append_assoc]
    · intro token hwaiting
      exact absurd (hclient.symm.trans hwaiting) (by rintro ⟨⟩)
    · intro token hconnected
      exact absurd (hclient.symm.trans hconnected) (by rintro ⟨⟩)
  | @deliver i c count hi =>
    have hc := hs.connections i c hi
    refine hs.setConnection' ⟨?_, hc.presented, hc.admits, hc.acknowledged, hc.waiting,
      hc.connected⟩
    intro hserver
    rw [hc.reading hserver, List.append_assoc, List.take_append_drop]
  | @readToken i c token rest hi hserver hread =>
    have hc := hs.connections i c hi
    refine hs.setConnection' ⟨by rintro ⟨⟩, ?_, by rintro _ ⟨⟩, hc.acknowledged, hc.waiting,
      hc.connected⟩
    rintro _ ⟨⟩
    obtain ⟨written, hwritten, heq⟩ := readToken_eq_ok.1 hread
    exact ⟨written, rest ++ c.inFlight, hwritten,
      by rw [hc.reading hserver, heq, List.append_assoc]⟩
  | @refuse i c reason hi _ _ =>
    have hc := hs.connections i c hi
    exact hs.setConnection' ⟨by rintro ⟨⟩, by rintro _ ⟨⟩, by rintro _ ⟨⟩, hc.acknowledged,
      hc.waiting, hc.connected⟩
  | letIn hi hserver hremove => exact hs.letIn hi hserver hremove
  | @reject i c token now later hi _ _ =>
    have hc := hs.connections i c hi
    exact (hs.call (.remove token now later)).setConnection' ⟨by rintro ⟨⟩, by rintro _ ⟨⟩,
      by rintro _ ⟨⟩, hc.acknowledged, hc.waiting, hc.connected⟩
  | @writeServerAck i c token hi hserver =>
    have hc := hs.connections i c hi
    have hadmitted : h.Admitted i token := by
      refine hc.admits token ?_
      rw [hserver]
      rfl
    refine hs.setConnection' ⟨by rintro ⟨⟩, by rintro _ ⟨⟩, ?_, fun _ => ⟨token, hadmitted⟩,
      hc.waiting, hc.connected⟩
    rintro _ rfl
    exact hadmitted
  | @readServerAck i c token rest hi hclient hread =>
    have hc := hs.connections i c hi
    have hne : c.toClient ≠ [] := by
      intro hempty
      rw [hempty] at hread
      cases hread
    -- the server wrote for a token that this peer presented, and it presented one only
    obtain ⟨token', later, hmem⟩ := hc.acknowledged hne
    obtain ⟨⟨written, rest', hwritten, heq⟩, -⟩ := hs.admitted i token' later hmem
    have heq' : written ++ rest' = h.sent i ++ [] := by rw [← heq, List.append_nil]
    have hsame : token' = token := writeToken_inj hwritten (hc.waiting token hclient) heq'
    subst hsame
    refine hs.setConnection' ⟨hc.reading, hc.presented, hc.admits, fun _ => ⟨_, later, hmem⟩,
      by rintro _ ⟨⟩, ?_⟩
    rintro _ ⟨⟩
    exact ⟨later, hmem⟩
  | @loseClient i c hi =>
    have hc := hs.connections i c hi
    refine hs.setConnection' ⟨hc.reading, hc.presented, hc.admits, hc.acknowledged, ?_, ?_⟩
    · intro token hwaiting
      obtain ⟨_, -, hfailed⟩ := Option.map_eq_some_iff.1 hwaiting
      cases hfailed
    · intro token hconnected
      obtain ⟨_, -, hfailed⟩ := Option.map_eq_some_iff.1 hconnected
      cases hfailed
  | @loseServer i c hi =>
    have hc := hs.connections i c hi
    exact hs.setConnection' ⟨by rintro ⟨⟩, by rintro _ ⟨⟩, by rintro _ ⟨⟩, hc.acknowledged,
      hc.waiting, hc.connected⟩

omit [DecidableEq I] in
/-- A token that was issued once has let in one peer at most. -/
theorem Sound.unique (hs : Sound endpoint h) {j : I}
    (honce : endpoint.credential.events.countP (Tickets.Event.issues token) ≤ 1)
    (hi : h.Admitted i token) (hj : h.Admitted j token) : i = j := by
  obtain ⟨later, hi⟩ := hi
  obtain ⟨later', hj⟩ := hj
  have hcount := (hs.uses token).trans
    ((Tickets.uses_le_issues hs.credential.fair token).trans honce)
  rw [List.countP_eq_length_filter] at hcount
  have hi' : (i, token, later) ∈ h.admitted.filter fun a => a.2.1 = token :=
    List.mem_filter.2 ⟨hi, decide_eq_true rfl⟩
  have hj' : (j, token, later') ∈ h.admitted.filter fun a => a.2.1 = token :=
    List.mem_filter.2 ⟨hj, decide_eq_true rfl⟩
  generalize h.admitted.filter (fun a => a.2.1 = token) = admitted at hcount hi' hj'
  obtain _ | ⟨a, _ | ⟨b, rest⟩⟩ := admitted
  · cases hi'
  · cases List.mem_singleton.1 hi'
    cases List.mem_singleton.1 hj'
    rfl
  · rw [List.length_cons, List.length_cons] at hcount
    omega

/-- **The handshake.** In every state of every run, with any peers and any clock: no token has let in
more peers than it was issued for, so a token that was issued once lets in one peer; whoever was let
in has written the bytes of the token first, and the token was issued and had not expired; a
connection that passes was let in with its token; and a client that is connected was let in with its
own token. -/
theorem handshake_of_run {clock : DateTime} {actions : List (DirectAction I)}
    (hrun : Run Step (.new clock) actions endpoint) :
    (∀ token, (history actions).admitted.countP (fun a => a.2.1 = token) ≤
      endpoint.credential.events.countP (Tickets.Event.issues token)) ∧
    (∀ token, endpoint.credential.events.countP (Tickets.Event.issues token) ≤ 1 →
      ∀ i j, (history actions).Admitted i token → (history actions).Admitted j token → i = j) ∧
    (∀ i token later, (i, token, later) ∈ (history actions).admitted →
      (∃ written rest, writeToken token = .ok written ∧
        (history actions).sent i = written ++ rest) ∧
      ∃ expiry, .issue token expiry ∈ endpoint.credential.events ∧ later ≤ expiry) ∧
    (∀ i c, endpoint.connections i = some c →
      (∀ token, c.server.Admits token → (history actions).Admitted i token) ∧
      ∀ token, c.client = some (.connected token) → (history actions).Admitted i token) := by
  have hs : Sound endpoint (history actions) :=
    Run.invariant_foldl History.record Sound (fun _ _ _ _ hstep hs => hs.step hstep) hrun
      (.new clock)
  refine ⟨fun token => ?_, fun token honce i j => hs.unique honce, hs.admitted, fun i c hi => ?_⟩
  · exact (hs.uses token).trans (Tickets.uses_le_issues hs.credential.fair token)
  · exact ⟨(hs.connections i c hi).admits, (hs.connections i c hi).connected⟩

end

/-- A client gets through. -/
theorem handshake_of_run_client :
    ∃ (actions : List (DirectAction Unit)) (endpoint : DirectEndpoint Unit),
      Run Step (.new 0) actions endpoint ∧ (history actions).Admitted () ['t'] := by
  have hwrite : writeToken ['t'] = .ok [0, 1, 116] := by decide
  obtain ⟨endpoint, hrun, c, hi, hclient⟩ : ∃ endpoint,
      Run Step (.new 0 : DirectEndpoint Unit) [.call (.insert ['t'] 120 0), .connect () ['t'],
        .deliver () 3, .readToken (), .letIn () ['t'] 5 5, .writeServerAck (), .readServerAck ()]
        endpoint ∧ ∃ c, endpoint.connections () = some c ∧ c.client = some (.connected ['t']) :=
    ⟨_, .cons .call <| .cons (.connect rfl hwrite) <| .cons (.deliver rfl) <|
      .cons (.readToken rfl rfl (readToken_eq_ok.2 ⟨_, hwrite, rfl⟩)) <|
      .cons (.letIn rfl rfl (by decide)) <| .cons (.writeServerAck rfl rfl) <|
      .cons (.readServerAck rfl rfl rfl) .nil, _, rfl, rfl⟩
  exact ⟨_, endpoint, hrun, ((handshake_of_run hrun).2.2.2 () c hi).2 ['t'] hclient⟩

end DirectEndpoint

end Tunnel

end Lapdev
