import Lapdev.RustStd.AsyncRead
import Lapdev.RustStd.Utf8

/-!
# The open messages of a tunnel stream

`tunnel/src/message.rs`: the request that opens a stream and the response to it, written to and read
from the bytes of the stream. A request is read back as it was written. A response is too, unless the
limit on its message cuts a character in two (`codec_faithful_iff`).
-/

namespace Lapdev

open RustStd RustStd.Utf8

namespace Tunnel

/-- Source: `error.rs`. -/
inductive TunnelError
  | transport (kind : ErrorKind)
  | connectionClosed
  | remote (reason : String)
  deriving DecidableEq

/-- Source: `message.rs`. -/
structure TunnelTarget where
  host : Str
  port : UInt16
  deriving DecidableEq

/-- Source: `message.rs`. -/
inductive Protocol
  | tcp
  | udp
  deriving DecidableEq

/-- Source: `message.rs`. -/
def Protocol.asU8 : Protocol → UInt8
  | tcp => 0
  | udp => 1

/-- Source: `message.rs`. -/
def Protocol.tryFrom : UInt8 → Option Protocol
  | 0 => some tcp
  | 1 => some udp
  | _ => none

/-- Source: `message.rs`. -/
structure StreamOpenRequest where
  protocol : Protocol
  target : TunnelTarget
  deriving DecidableEq

/-- Source: `message.rs`. -/
structure StreamOpenResponse where
  success : Bool
  error : Option Str
  deriving DecidableEq

def maxHostLen : Nat := 65535

def maxErrorLen : Nat := 65535

/-! ## Streams -/

/-- The bytes of a number, the high one first. -/
def writeU16 (n : UInt16) : List UInt8 := [UInt8.ofNat (n.toNat / 256), UInt8.ofNat n.toNat]

/-- A read takes bytes off those that are still to come. -/
abbrev ReadStream (α : Type) := StateT (List UInt8) (Except TunnelError) α

def readU8 : ReadStream UInt8
  | b :: rest => .ok (b, rest)
  | [] => .error (.transport .unexpectedEof)

def readU16 : ReadStream UInt16
  | b :: b' :: rest => .ok (UInt16.ofNat (b.toNat * 256 + b'.toNat), rest)
  | _ => .error (.transport .unexpectedEof)

/-- Source: `message.rs`. -/
def readExactInto (len : Nat) : ReadStream (List UInt8) := fun bytes =>
  if len ≤ bytes.length then .ok (bytes.take len, bytes.drop len) else .error .connectionClosed

/-! ## Messages -/

/-- Source: `message.rs`; the bytes that are written. -/
def writeStreamOpenRequest (protocol : Protocol) (target : TunnelTarget) :
    Except TunnelError (List UInt8) :=
  let hostBytes := encode target.host
  if hostBytes.length > maxHostLen then .error (.remote "target host too long")
  else
    .ok (protocol.asU8 :: (writeU16 (UInt16.ofNat hostBytes.length) ++ (hostBytes ++
      writeU16 target.port)))

/-- Source: `message.rs`. -/
def readStreamOpenRequest : ReadStream StreamOpenRequest := do
  let byte ← readU8
  match Protocol.tryFrom byte with
  | none => throw (.remote "unsupported protocol")
  | some protocol => do
    let hostLen ← readU16
    if hostLen.toNat > maxHostLen then throw (.remote "target host too large")
    else
      let hostBytes ← readExactInto hostLen.toNat
      match fromUtf8 hostBytes with
      | none => throw (.remote "invalid target host encoding")
      | some host => do
        let port ← readU16
        pure ⟨protocol, ⟨host, port⟩⟩

/-- What stands for a message that is missing or cannot be read. -/
def remoteOpenFailed : Str := "remote open failed".toList

/-- Source: `message.rs`; the bytes that are written. -/
def writeStreamOpenResponse (success : Bool) (error : Option Str) : List UInt8 :=
  if success then [1]
  else
    let reasonBytes := encode (error.getD remoteOpenFailed)
    let len := min reasonBytes.length maxErrorLen
    0 :: (writeU16 (UInt16.ofNat len) ++ reasonBytes.take len)

/-- Source: `message.rs`. -/
def readStreamOpenResponse : ReadStream StreamOpenResponse := do
  let byte ← readU8
  if byte ≠ 0 then pure ⟨true, none⟩
  else
    let len ← readU16
    if len.toNat > maxErrorLen then throw (.remote "error message too large")
    else
      let buf ← readExactInto len.toNat
      pure ⟨false, some ((fromUtf8 buf).getD remoteOpenFailed)⟩

/-! ## Reading back -/

/-- A read goes on after a read. -/
theorem ReadStream.bind_of_ok {α β : Type} {r : ReadStream α} {f : α → ReadStream β}
    {bytes rest : List UInt8} {a : α} (h : r bytes = .ok (a, rest)) :
    (r >>= f) bytes = f a rest := by
  change Except.bind (r bytes) _ = _
  rw [h]
  rfl

theorem readU16_writeU16 (n : UInt16) (rest : List UInt8) :
    readU16 (writeU16 n ++ rest) = .ok (n, rest) := by
  have hlt : n.toNat < 65536 := n.toNat_lt
  have hnat : (UInt8.ofNat (n.toNat / 256)).toNat * 256 + (UInt8.ofNat n.toNat).toNat = n.toNat := by
    rw [UInt8.toNat_ofNat', UInt8.toNat_ofNat']
    omega
  simp only [writeU16, List.cons_append, List.nil_append, readU16]
  rw [hnat, UInt16.ofNat_toNat]

theorem readExactInto_append (bytes rest : List UInt8) :
    readExactInto bytes.length (bytes ++ rest) = .ok (bytes, rest) := by
  simp [readExactInto]

/-- A length that fits is read back, and the bytes it announces. -/
theorem toNat_ofNat_of_le {n : Nat} (h : n ≤ 65535) : (UInt16.ofNat n).toNat = n := by
  rw [UInt16.toNat_ofNat']
  omega

theorem Protocol.tryFrom_asU8 (protocol : Protocol) : tryFrom protocol.asU8 = some protocol := by
  cases protocol <;> rfl

/-- A request is read back, and nothing after it. -/
theorem readStreamOpenRequest_write {request : StreamOpenRequest} {bytes : List UInt8}
    (h : writeStreamOpenRequest request.protocol request.target = .ok bytes) (rest : List UInt8) :
    readStreamOpenRequest (bytes ++ rest) = .ok (request, rest) := by
  obtain ⟨protocol, host, port⟩ := request
  rw [writeStreamOpenRequest] at h
  dsimp only at h
  split at h
  · cases h
  · next hlen =>
    cases h
    have hnat := toNat_ofNat_of_le (not_lt.1 hlen)
    have hhost := readExactInto_append (encode host) (writeU16 port ++ rest)
    rw [readStreamOpenRequest, List.cons_append, ReadStream.bind_of_ok (a := protocol.asU8) rfl]
    rw [Protocol.tryFrom_asU8]
    dsimp only
    rw [List.append_assoc, List.append_assoc, ReadStream.bind_of_ok (readU16_writeU16 _ _), hnat,
      if_neg hlen, ReadStream.bind_of_ok hhost, fromUtf8_eq_some.2 rfl]
    dsimp only
    rw [ReadStream.bind_of_ok (readU16_writeU16 _ _)]
    rfl

/-- A response that succeeds is read back without an error. -/
theorem readStreamOpenResponse_success (error : Option Str) (rest : List UInt8) :
    readStreamOpenResponse (writeStreamOpenResponse true error ++ rest) =
      .ok (⟨true, none⟩, rest) := rfl

/-- Of a response that fails the cut message is decoded. -/
theorem readStreamOpenResponse_failure (error : Option Str) (rest : List UInt8) :
    readStreamOpenResponse (writeStreamOpenResponse false error ++ rest) =
      .ok (⟨false, some ((fromUtf8 ((encode (error.getD remoteOpenFailed)).take maxErrorLen)).getD
        remoteOpenFailed)⟩, rest) := by
  generalize hbytes : encode (error.getD remoteOpenFailed) = reasonBytes
  have hmin : min reasonBytes.length maxErrorLen ≤ maxErrorLen := Nat.min_le_right _ _
  have htake : reasonBytes.take (min reasonBytes.length maxErrorLen) =
      reasonBytes.take maxErrorLen := by
    rw [List.take_eq_take_iff]
    omega
  have hlen : (reasonBytes.take maxErrorLen).length = min reasonBytes.length maxErrorLen := by
    rw [List.length_take, Nat.min_comm]
  have hread := readExactInto_append (reasonBytes.take maxErrorLen) rest
  rw [hlen] at hread
  rw [writeStreamOpenResponse, if_neg Bool.false_ne_true]
  dsimp only
  rw [hbytes, readStreamOpenResponse, List.cons_append, ReadStream.bind_of_ok (a := 0) rfl,
    if_neg (not_not_intro rfl), List.append_assoc, htake,
    ReadStream.bind_of_ok (readU16_writeU16 _ _), toNat_ofNat_of_le hmin, if_neg (not_lt.2 hmin),
    ReadStream.bind_of_ok hread]
  rfl

/-! ## Faithful responses -/

/-- The bytes of the message are cut between two characters. -/
def CutsBetween (limit : Nat) (message : Str) : Prop :=
  ∃ start, start <+: message ∧ encode start = (encode message).take limit

/-- The text of cut bytes is the longest start that fits, if there is one. -/
theorem fromUtf8_take_eq_some {limit : Nat} {message text : Str} :
    fromUtf8 ((encode message).take limit) = some text ↔
      CutsBetween limit message ∧ text = fit limit message := by
  rw [fromUtf8_eq_some]
  have heq : ∀ {start}, start <+: message → encode start = (encode message).take limit →
      start = fit limit message := by
    intro start hstart hbytes
    have hlen := congrArg List.length hbytes
    rw [List.length_take] at hlen
    have hfit := prefix_fit hstart (hlen ▸ Nat.min_le_left _ _)
    have hfit' : fit limit message <+: start := by
      have hmessage := encode_prefix_iff.2 (fit_isStart limit message)
      refine encode_prefix_iff.1 (List.prefix_of_prefix_length_le hmessage
        (encode_prefix_iff.2 hstart) ?_)
      rw [hlen]
      exact Nat.le_min.2 ⟨length_encode_fit_le limit message, hmessage.length_le⟩
    exact hfit.sublist.antisymm hfit'.sublist
  constructor
  · intro hbytes
    have hstart : text <+: message := encode_prefix_iff.1 (hbytes ▸ List.take_prefix _ _)
    exact ⟨⟨text, hstart, hbytes⟩, heq hstart hbytes⟩
  · rintro ⟨⟨start, hstart, hbytes⟩, rfl⟩
    rw [← heq hstart hbytes, hbytes]

/-- The response as it is read, if the format keeps it: of a message the longest start that fits. -/
def StreamOpenResponse.fitted (response : StreamOpenResponse) : StreamOpenResponse :=
  { response with error := response.error.map (fit maxErrorLen) }

/-- The response is a success without an error, or a failure with a message that is cut between two
characters. -/
def StreamOpenResponse.Faithful (response : StreamOpenResponse) : Prop :=
  match response.success, response.error with
  | true, none => True
  | false, some message => CutsBetween maxErrorLen message
  | _, _ => False

/-- What is read of a response is what was written, up to the limit, exactly if it is faithful. -/
theorem readStreamOpenResponse_write_iff (response : StreamOpenResponse) (rest : List UInt8) :
    readStreamOpenResponse (writeStreamOpenResponse response.success response.error ++ rest) =
      .ok (response.fitted, rest) ↔ response.Faithful := by
  obtain ⟨success, error⟩ := response
  cases success with
  | true =>
    rw [readStreamOpenResponse_success]
    cases error <;> simp [StreamOpenResponse.fitted, StreamOpenResponse.Faithful]
  | false =>
    rw [readStreamOpenResponse_failure]
    cases error with
    | none => simp [StreamOpenResponse.fitted, StreamOpenResponse.Faithful]
    | some message =>
      simp only [StreamOpenResponse.fitted, StreamOpenResponse.Faithful, Option.getD_some,
        Option.map_some, Except.ok.injEq, Prod.mk.injEq, StreamOpenResponse.mk.injEq, true_and,
        and_true, Option.some.injEq]
      constructor
      · intro hread
        cases hdecode : fromUtf8 ((encode message).take maxErrorLen) with
        | some text => exact (fromUtf8_take_eq_some.1 hdecode).1
        | none =>
          -- a message that is cut has more bytes than the text that stands for it
          rw [hdecode, Option.getD_none] at hread
          have hlt : maxErrorLen < (encode message).length := by
            by_contra hle
            rw [List.take_of_length_le (not_lt.1 hle), fromUtf8_eq_some.2 rfl] at hdecode
            cases hdecode
          have hfit := limit_lt_length_encode_fit hlt
          rw [← hread] at hfit
          exact absurd hfit (by decide)
      · intro hcut
        rw [fromUtf8_take_eq_some.2 ⟨hcut, rfl⟩, Option.getD_some]

/-- **The codec.** A request whose host fits is read back, and nothing after it. Of a response what
was written is read, of a long message the longest start that fits, exactly if it is faithful. -/
theorem codec_faithful_iff (request : StreamOpenRequest)
    (hhost : (encode request.target.host).length ≤ maxHostLen) (response : StreamOpenResponse)
    (rest : List UInt8) :
    (∃ bytes, writeStreamOpenRequest request.protocol request.target = .ok bytes ∧
      readStreamOpenRequest (bytes ++ rest) = .ok (request, rest)) ∧
    (readStreamOpenResponse (writeStreamOpenResponse response.success response.error ++ rest) =
      .ok (response.fitted, rest) ↔ response.Faithful) := by
  refine ⟨?_, readStreamOpenResponse_write_iff response rest⟩
  obtain ⟨bytes, hbytes⟩ : ∃ bytes,
      writeStreamOpenRequest request.protocol request.target = .ok bytes :=
    ⟨_, if_neg (not_lt.2 hhost)⟩
  exact ⟨bytes, hbytes, readStreamOpenRequest_write hbytes rest⟩

theorem codec_faithful_localhost :
    (∃ bytes, writeStreamOpenRequest .tcp ⟨"localhost".toList, 8080⟩ = .ok bytes ∧
      readStreamOpenRequest (bytes ++ [7]) = .ok (⟨.tcp, ⟨"localhost".toList, 8080⟩⟩, [7])) ∧
    (readStreamOpenResponse (writeStreamOpenResponse false (some "refused".toList) ++ [7]) =
      .ok (⟨false, some "refused".toList⟩, [7]) ↔
        StreamOpenResponse.Faithful ⟨false, some "refused".toList⟩) :=
  codec_faithful_iff ⟨.tcp, ⟨"localhost".toList, 8080⟩⟩ (by decide) ⟨false, some "refused".toList⟩ [7]

/-- A message of 65534 letters and a character of two bytes, which the limit cuts in two. -/
def cutMessage : Str := List.replicate 65534 'a' ++ ['é']

theorem length_encode_replicate (n : Nat) : (encode (List.replicate n 'a')).length = n := by
  induction n with
  | zero => rfl
  | succ n ih =>
    rw [List.replicate_succ, encode_cons, List.length_append, ih]
    exact Nat.add_comm 1 n

/-- The message is lost: what is read says only that the open failed. -/
theorem cutMessage_lost :
    ¬∀ (response : StreamOpenResponse) (rest : List UInt8),
      readStreamOpenResponse (writeStreamOpenResponse response.success response.error ++ rest) =
        .ok (response.fitted, rest) := by
  intro h
  have hcut : CutsBetween maxErrorLen cutMessage :=
    (readStreamOpenResponse_write_iff ⟨false, some cutMessage⟩ []).1 (h _ _)
  have hfit : fit maxErrorLen cutMessage = List.replicate 65534 'a' := by
    have happend := fit_append (List.replicate 65534 'a') 1 ['é']
    rw [length_encode_replicate] at happend
    exact happend.trans (List.append_nil _)
  -- the cut has a byte more than the letters
  have hbytes := fromUtf8_eq_some.1 (fromUtf8_take_eq_some.2 ⟨hcut, rfl⟩)
  have hlen := congrArg List.length hbytes
  rw [hfit, length_encode_replicate, List.length_take, cutMessage, encode_append,
    List.length_append, length_encode_replicate] at hlen
  exact absurd hlen (by decide)

end Tunnel

end Lapdev
