import Lapdev.RustStd.AsyncRead
import Lapdev.RustStd.Str

/-!
# Protocol detection

`kube-sidecar-proxy/src/protocol_detector.rs`, with the loop of `kube-rpc/src/http_parser.rs` that
reads the rest of the headers: the first bytes of a connection are read until the first line is
complete and decide between HTTP/1, HTTP/2 and TCP. No byte is lost, however they arrive. How they
arrive decides only about streams that start with the first line of the HTTP/2 preface and go on
differently (`detection_faithful_iff`).
-/

namespace Lapdev

open RustStd RustStd.Utf8

/-! ## Headers -/

namespace HttpParser

def maxHeaderSize : Nat := 8192

def readChunkSize : Nat := 1024

def headerEndMarker : List UInt8 := [13, 10, 13, 10]

/-- Source: `http_parser.rs`. -/
inductive HeaderReadStatus
  | complete
  | timedOut
  deriving DecidableEq

/-- Source: `http_parser.rs`. -/
def headersComplete (buffer marker : List UInt8) : Bool :=
  buffer.tails.any fun window => marker.isPrefixOf window

/-- Source: `http_parser.rs`; the buffer is kept also where the read fails. -/
def readHttpHeadersWithDeadline (buffer : List UInt8) (hasDeadline : Bool) (reader : Reader) :
    Except ErrorKind HeaderReadStatus × List UInt8 × Reader :=
  if headersComplete buffer headerEndMarker then (.ok .complete, buffer, reader)
  else
    match reader.fill maxHeaderSize readChunkSize
      (fun prev buffer =>
        headersComplete (buffer.drop (prev.length - (headerEndMarker.length - 1))) headerEndMarker)
      hasDeadline buffer with
    | (.enough, buffer, reader) => (.ok .complete, buffer, reader)
    | (.timedOut, buffer, reader) => (.ok .timedOut, buffer, reader)
    | (.eof, buffer, reader) => (.error .unexpectedEof, buffer, reader)
    | (.full, buffer, reader) => (.error .invalidData, buffer, reader)
    | (.failed kind, buffer, reader) => (.error kind, buffer, reader)

end HttpParser

/-! ## Detection -/

namespace ProtocolDetector

def maxDetectionBytes : Nat := 8192

def readChunkSize : Nat := 1024

/-- `b"PRI * HTTP/2.0\r\n\r\nSM\r\n\r\n"`. -/
def http2Preface : List UInt8 :=
  [80, 82, 73, 32, 42, 32, 72, 84, 84, 80, 47, 50, 46, 48, 13, 10, 13, 10, 83, 77, 13, 10, 13, 10]

/-- Source: `protocol_detector.rs`. -/
inductive ProtocolType
  | http (method path : Str)
  | http2
  | tcp
  deriving DecidableEq

/-- Source: `protocol_detector.rs`. -/
structure ProtocolDetectionResult where
  protocol : ProtocolType
  buffer : List UInt8
  timedOut : Bool

/-- Source: `protocol_detector.rs`. -/
def getRequestLine (buffer : List UInt8) : Option Str :=
  if buffer.any fun b => b = 13 || b = 10 then
    fromUtf8 (buffer.takeWhile fun b => !(b = 13 || b = 10))
  else none

/-- Source: `protocol_detector.rs`. -/
def parseRequestLine (line : Str) : Option (Str × Str) :=
  match Str.splitWhitespace line with
  | method :: path :: _ => some (method, path)
  | _ => none

/-- Source: `protocol_detector.rs`. -/
def detectHttpInBuffer (buffer : List UInt8) : Option ProtocolType :=
  (getRequestLine buffer).bind fun line =>
    (parseRequestLine line).bind fun parts =>
      if parts.1.all Char.isUpper then some (.http parts.1 parts.2) else none

/-- The buffer starts with the preface, or is a start of it. -/
def startsPreface (buffer : List UInt8) : Bool :=
  http2Preface.isPrefixOf buffer ||
    (buffer.length < http2Preface.length && buffer.isPrefixOf http2Preface)

/-- The loop of `detect_protocol`, which stops once the first line has been seen. -/
def readFirstLine (hasDeadline : Bool) (reader : Reader) : Reader.FillEnd × List UInt8 × Reader :=
  reader.fill maxDetectionBytes readChunkSize (fun _ buffer => buffer.any (· = 10)) hasDeadline []

/-- Source: `protocol_detector.rs`. -/
def detectProtocol (hasDeadline : Bool) (reader : Reader) :
    Except ErrorKind (ProtocolDetectionResult × Reader) :=
  match readFirstLine hasDeadline reader with
  | (.failed kind, _, _) => .error kind
  | (ending, buffer, reader) =>
    let timedOut : Bool := ending = .timedOut
    if buffer.isEmpty then .ok (⟨.tcp, buffer, timedOut⟩, reader)
    else if startsPreface buffer then .ok (⟨.http2, buffer, timedOut⟩, reader)
    else
      match detectHttpInBuffer buffer with
      | some protocol =>
        match HttpParser.readHttpHeadersWithDeadline buffer hasDeadline reader with
        | (.ok .timedOut, buffer, reader) => .ok (⟨protocol, buffer, true⟩, reader)
        | (.ok .complete, buffer, reader) => .ok (⟨protocol, buffer, timedOut⟩, reader)
        | (.error .invalidData, buffer, reader) | (.error .unexpectedEof, buffer, reader) =>
          .ok (⟨protocol, buffer, timedOut⟩, reader)
        | (.error kind, _, _) => .error kind
      | none => .ok (⟨.tcp, buffer, timedOut⟩, reader)

end ProtocolDetector

/-! ## What was read comes first -/

/-- Source: `http2_proxy.rs`. -/
structure PrefacedStream where
  buffer : List UInt8
  position : Nat
  inner : Reader

namespace PrefacedStream

/-- Source: `http2_proxy.rs`. -/
def new (inner : Reader) (buffer : List UInt8) : PrefacedStream := ⟨buffer, 0, inner⟩

/-- `poll_read` with room for `len` bytes. -/
def read (len : Nat) (stream : PrefacedStream) :
    Except ErrorKind (Option (List UInt8)) × PrefacedStream :=
  if stream.position < stream.buffer.length then
    let remaining := stream.buffer.length - stream.position
    let bytesToCopy := min remaining len
    (.ok (some ((stream.buffer.drop stream.position).take bytesToCopy)),
      { stream with position := stream.position + bytesToCopy })
  else
    let (outcome, inner) := stream.inner.read len false
    (outcome, { stream with inner })

/-- The bytes that are still to come. -/
def rest (stream : PrefacedStream) : List UInt8 :=
  stream.buffer.drop stream.position ++ stream.inner.rest

/-- What is read comes off the front. -/
theorem read_append {len : Nat} {stream stream' : PrefacedStream}
    {outcome : Except ErrorKind (Option (List UInt8))} (h : stream.read len = (outcome, stream')) :
    Reader.delivered outcome ++ stream'.rest = stream.rest := by
  rw [read] at h
  split at h
  · cases h
    rw [Reader.delivered, rest, rest, ← List.append_assoc, ← List.drop_drop]
    rw [List.take_append_drop]
  · next hend =>
    cases h
    have hread : Reader.delivered (stream.inner.read len false).1 ++
        (stream.inner.read len false).2.rest = stream.inner.rest := Reader.read_append rfl
    have hnil : stream.buffer.drop stream.position = [] := List.drop_eq_nil_of_le (not_lt.1 hend)
    rw [rest, rest, hnil]
    exact hread

end PrefacedStream

/-! ## No byte is lost -/

theorem HttpParser.readHttpHeaders_append {buffer buffer' : List UInt8} {hasDeadline : Bool}
    {reader reader' : Reader} {status : Except ErrorKind HeaderReadStatus}
    (h : readHttpHeadersWithDeadline buffer hasDeadline reader = (status, buffer', reader')) :
    buffer' ++ reader'.rest = buffer ++ reader.rest := by
  rw [readHttpHeadersWithDeadline] at h
  split at h
  · cases h
    rfl
  · split at h <;> cases h <;> exact Reader.fill_append ‹_›

namespace ProtocolDetector

variable {hasDeadline : Bool} {reader reader' : Reader} {result : ProtocolDetectionResult}

/-- The buffer and the bytes to come are the stream, whatever the reads have met. -/
theorem detectProtocol_append (h : detectProtocol hasDeadline reader = .ok (result, reader')) :
    result.buffer ++ reader'.rest = reader.rest := by
  rw [detectProtocol] at h
  split at h
  · cases h
  · next ending buffer reader₁ _ hline =>
    have hline' : buffer ++ reader₁.rest = reader.rest := Reader.fill_append hline
    dsimp only at h
    split at h
    · cases h
      exact hline'
    · split at h
      · cases h
        exact hline'
      · split at h
        · have hheaders {status buffer₂ reader₂}
              (hread : HttpParser.readHttpHeadersWithDeadline buffer hasDeadline reader₁ =
                (status, buffer₂, reader₂)) : buffer₂ ++ reader₂.rest = reader.rest :=
            (HttpParser.readHttpHeaders_append hread).trans hline'
          split at h <;> cases h <;> exact hheaders ‹_›
        · cases h
          exact hline'

/-! ## What is detected -/

/-- The protocol of a buffer. -/
def classify (buffer : List UInt8) : ProtocolType :=
  if buffer.isEmpty then .tcp
  else if startsPreface buffer then .http2
  else (detectHttpInBuffer buffer).getD .tcp

theorem readHttpHeaders_of_quiet (buffer : List UInt8) (hasDeadline : Bool) (h : reader.Quiet) :
    ∃ status buffer' reader',
      HttpParser.readHttpHeadersWithDeadline buffer hasDeadline reader = (status, buffer', reader') ∧
        (status = .ok .complete ∨ status = .error .invalidData ∨ status = .error .unexpectedEof) := by
  rw [HttpParser.readHttpHeadersWithDeadline]
  split
  · exact ⟨_, _, _, rfl, .inl rfl⟩
  · rcases Nat.lt_or_ge HttpParser.maxHeaderSize buffer.length with hlong | hlen
    · rw [Reader.fill, if_pos hlong.le]
      exact ⟨_, _, _, rfl, .inr (.inl rfl)⟩
    · obtain ⟨ending, buffer', reader₁, hfill, -, hend⟩ :=
        Reader.fill_of_quiet HttpParser.maxHeaderSize HttpParser.readChunkSize
          (fun prev buffer => HttpParser.headersComplete
            (buffer.drop (prev.length - (HttpParser.headerEndMarker.length - 1)))
            HttpParser.headerEndMarker)
          hasDeadline (by decide) h hlen
      rw [hfill]
      rcases hend with ⟨rfl, -⟩ | ⟨rfl | rfl, -⟩
      · exact ⟨_, _, _, rfl, .inl rfl⟩
      · exact ⟨_, _, _, rfl, .inr (.inl rfl)⟩
      · exact ⟨_, _, _, rfl, .inr (.inr rfl)⟩

/-- Without deadlines and errors the protocol is that of the buffer the loop ends with. -/
theorem detectProtocol_of_readFirstLine {reader₁ : Reader} {ending : Reader.FillEnd}
    {buffer : List UInt8} (hline : readFirstLine hasDeadline reader = (ending, buffer, reader₁))
    (hending : ∀ kind, ending ≠ .failed kind) (hquiet : reader₁.Quiet) :
    ∃ result reader', detectProtocol hasDeadline reader = .ok (result, reader') ∧
      result.protocol = classify buffer := by
  have hdetect : detectProtocol hasDeadline reader =
      let timedOut : Bool := ending = .timedOut
      if buffer.isEmpty then .ok (⟨.tcp, buffer, timedOut⟩, reader₁)
      else if startsPreface buffer then .ok (⟨.http2, buffer, timedOut⟩, reader₁)
      else
        match detectHttpInBuffer buffer with
        | some protocol =>
          match HttpParser.readHttpHeadersWithDeadline buffer hasDeadline reader₁ with
          | (.ok .timedOut, buffer, reader) => .ok (⟨protocol, buffer, true⟩, reader)
          | (.ok .complete, buffer, reader) => .ok (⟨protocol, buffer, timedOut⟩, reader)
          | (.error .invalidData, buffer, reader) | (.error .unexpectedEof, buffer, reader) =>
            .ok (⟨protocol, buffer, timedOut⟩, reader)
          | (.error kind, _, _) => .error kind
        | none => .ok (⟨.tcp, buffer, timedOut⟩, reader₁) := by
    rw [detectProtocol, hline]
    split
    · next kind _ _ heq =>
      cases heq
      exact absurd rfl (hending kind)
    · next heq =>
      cases heq
      rfl
  rw [hdetect, classify]
  dsimp only
  split
  · exact ⟨_, _, rfl, rfl⟩
  · split
    · exact ⟨_, _, rfl, rfl⟩
    · cases detectHttpInBuffer buffer with
      | none => exact ⟨_, _, rfl, rfl⟩
      | some protocol =>
        obtain ⟨status, buffer', reader', hheaders, hstatus⟩ :=
          readHttpHeaders_of_quiet buffer hasDeadline hquiet
        dsimp only
        rw [hheaders]
        rcases hstatus with rfl | rfl | rfl <;> exact ⟨_, _, rfl, rfl⟩

/-- The loop ends with a start of the stream that holds the first line, or all that is read at
most. -/
theorem readFirstLine_of_quiet (hasDeadline : Bool) (h : reader.Quiet) :
    ∃ ending buffer reader₁, readFirstLine hasDeadline reader = (ending, buffer, reader₁) ∧
      (∀ kind, ending ≠ .failed kind) ∧ reader₁.Quiet ∧
      buffer <+: reader.rest.take maxDetectionBytes ∧
      (10 ∈ buffer ∨ buffer = reader.rest.take maxDetectionBytes) := by
  obtain ⟨ending, buffer, reader₁, hfill, hquiet, hend⟩ :=
    Reader.fill_of_quiet maxDetectionBytes readChunkSize (fun _ buffer => buffer.any (· = 10))
      hasDeadline (by decide) h (show ([] : List UInt8).length ≤ _ from Nat.zero_le _)
  have hstart : buffer <+: reader.rest.take maxDetectionBytes :=
    List.prefix_take_iff.2 ⟨⟨reader₁.rest, Reader.fill_append hfill⟩,
      Reader.length_fill_le (Nat.zero_le _) hfill⟩
  refine ⟨ending, buffer, reader₁, hfill, ?_, hquiet, hstart, ?_⟩
  · rcases hend with ⟨rfl, -⟩ | ⟨rfl | rfl, -⟩ <;> exact nofun
  · refine hend.imp (fun h => ?_) And.right
    obtain ⟨-, -, hany⟩ := h
    obtain ⟨b, hb, heq⟩ := List.any_eq_true.1 hany
    rwa [of_decide_eq_true heq] at hb

/-! ## How the bytes arrive -/

/-- The first line of the HTTP/2 preface, with its end. -/
def prefaceLine : List UInt8 := http2Preface.take 16

/-- The stream starts with the first line of the preface and goes on differently. -/
def LeavesPreface (stream : List UInt8) : Prop :=
  prefaceLine <+: stream ∧ ¬stream <+: http2Preface ∧ ¬http2Preface <+: stream

theorem startsPreface_iff {buffer : List UInt8} :
    startsPreface buffer = true ↔ http2Preface <+: buffer ∨ buffer <+: http2Preface := by
  rw [startsPreface, Bool.or_eq_true, Bool.and_eq_true, decide_eq_true_eq, List.isPrefixOf_iff_prefix,
    List.isPrefixOf_iff_prefix]
  constructor
  · exact Or.imp_right And.right
  · rintro (h | h)
    · exact .inl h
    · rcases h.length_le.lt_or_eq with hlt | heq
      · exact .inr ⟨hlt, h⟩
      · exact .inl (h.eq_of_length heq ▸ List.prefix_refl _)

/-- Where the first line is complete, the rest of the stream does not matter, unless the stream
leaves the preface. -/
theorem startsPreface_prefix {buffer stream : List UInt8} (hstart : buffer <+: stream)
    (hline : 10 ∈ buffer) (hleaves : ¬LeavesPreface stream) :
    startsPreface buffer = startsPreface stream := by
  rw [Bool.eq_iff_iff, startsPreface_iff, startsPreface_iff]
  constructor
  · rintro (h | h)
    · exact .inl (h.trans hstart)
    · by_contra hno
      have hlines : prefaceLine <+: buffer := by
        refine List.prefix_of_prefix_length_le (List.take_prefix ..) h ?_
        by_contra hshort
        have hsub : buffer <+: http2Preface.take 15 := by
          refine List.prefix_of_prefix_length_le h (List.take_prefix ..) ?_
          have : prefaceLine.length = 16 := rfl
          have : (http2Preface.take 15).length = 15 := rfl
          omega
        exact absurd (hsub.subset hline) (by decide)
      exact hleaves ⟨hlines.trans hstart, fun h => hno (.inr h), fun h => hno (.inl h)⟩
  · rintro (h | h)
    · rcases List.prefix_or_prefix_of_prefix h hstart with h | h
      · exact .inl h
      · exact .inr h
    · exact .inr (hstart.trans h)

/-- A request line is that of the whole stream. -/
theorem detectHttpInBuffer_prefix {buffer stream : List UInt8} (hstart : buffer <+: stream)
    (hline : 10 ∈ buffer) : detectHttpInBuffer buffer = detectHttpInBuffer stream := by
  have hany : ∀ {bytes : List UInt8}, 10 ∈ bytes → bytes.any (fun b => b = 13 || b = 10) := by
    intro bytes h
    exact List.any_eq_true.2 ⟨10, h, by decide⟩
  have hlines : getRequestLine buffer = getRequestLine stream := by
    rw [getRequestLine, getRequestLine, if_pos (hany hline), if_pos (hany (hstart.subset hline))]
    obtain ⟨rest, rfl⟩ := hstart
    rw [List.takeWhile_append, if_neg]
    intro hlen
    have hall := (List.takeWhile_prefix _).eq_of_length hlen
    have hmem := List.mem_takeWhile_imp (hall ▸ hline)
    cases hmem
  rw [detectHttpInBuffer, hlines, detectHttpInBuffer]

/-- The protocol of a start of the stream with the first line is that of the stream. -/
theorem classify_prefix {buffer stream : List UInt8} (hstart : buffer <+: stream)
    (hline : 10 ∈ buffer) (hleaves : ¬LeavesPreface stream) :
    classify buffer = classify stream := by
  have hbuffer : buffer.isEmpty = false := List.isEmpty_eq_false_iff_exists_mem.2 ⟨10, hline⟩
  have hstream : stream.isEmpty = false :=
    List.isEmpty_eq_false_iff_exists_mem.2 ⟨10, hstart.subset hline⟩
  rw [classify, classify, hbuffer, hstream, startsPreface_prefix hstart hline hleaves,
    detectHttpInBuffer_prefix hstart hline]

/-- No byte of the stream is lost, whatever its reads meet. -/
def Lossless (stream : List UInt8) : Prop :=
  ∀ hasDeadline events result reader',
    detectProtocol hasDeadline ⟨stream, events⟩ = .ok (result, reader') →
      (PrefacedStream.new reader' result.buffer).rest = stream

/-- A protocol is detected, and it is the same however the bytes arrive. -/
def ArrivalIndependent (stream : List UInt8) : Prop :=
  ∃ protocol, ∀ hasDeadline events, Reader.Quiet ⟨stream, events⟩ →
    ∃ result reader', detectProtocol hasDeadline ⟨stream, events⟩ = .ok (result, reader') ∧
      result.protocol = protocol

theorem arrivalIndependent_of_not_leavesPreface {stream : List UInt8}
    (hleaves : ¬LeavesPreface stream) : ArrivalIndependent stream := by
  refine ⟨if 10 ∈ stream.take maxDetectionBytes then classify stream
    else classify (stream.take maxDetectionBytes), fun hasDeadline events hquiet => ?_⟩
  obtain ⟨ending, buffer, reader₁, hline, hending, hquiet₁, hstart, hbuffer⟩ :=
    readFirstLine_of_quiet hasDeadline hquiet
  obtain ⟨result, reader', hdetect, hprotocol⟩ :=
    detectProtocol_of_readFirstLine hline hending hquiet₁
  refine ⟨result, reader', hdetect, hprotocol.trans ?_⟩
  have hdecided : ∀ h : 10 ∈ buffer, classify buffer = classify stream := fun h =>
    classify_prefix (hstart.trans (List.take_prefix ..)) h hleaves
  split
  · next hin => exact hdecided (hbuffer.elim id fun hall => hall ▸ hin)
  · next hout =>
    exact congrArg classify (hbuffer.resolve_left fun h => hout (hstart.subset h))

/-- The protocol where the first `n + 1` bytes arrive together and have the first line. -/
theorem exists_detectProtocol_arrived {stream : List UInt8} {n : Nat} (hn : n < readChunkSize)
    (hline : 10 ∈ stream.take (n + 1)) :
    ∃ result reader', detectProtocol false ⟨stream, [.arrived n]⟩ = .ok (result, reader') ∧
      result.protocol = classify (stream.take (n + 1)) := by
  have hmin : min (min maxDetectionBytes readChunkSize) (n + 1) = n + 1 := by
    have : min maxDetectionBytes readChunkSize = readChunkSize := rfl
    omega
  have hread : Reader.read (min (maxDetectionBytes - ([] : List UInt8).length) readChunkSize) false
      ⟨stream, [.arrived n]⟩ = (.ok (some (stream.take (n + 1))), ⟨stream.drop (n + 1), []⟩) := by
    rw [Reader.read]
    dsimp only [List.length_nil, Nat.sub_zero]
    rw [hmin]
  have hfill := Reader.fill_of_read (fun _ buffer => buffer.any (· = 10)) (by decide)
    (List.ne_nil_of_mem hline) hread (List.any_eq_true.2 ⟨10, hline, rfl⟩)
  exact detectProtocol_of_readFirstLine hfill (fun _ h => by cases h) fun _ h => by cases h

/-- A stream that leaves the preface is HTTP/2 if its first line arrives alone, and HTTP/1 if more
arrives with it. -/
theorem not_arrivalIndependent_of_leavesPreface {stream : List UInt8}
    (hleaves : LeavesPreface stream) : ¬ArrivalIndependent stream := by
  rintro ⟨protocol, h⟩
  obtain ⟨⟨rest, rfl⟩, hshort, hlong⟩ := hleaves
  have hquiet : ∀ n, Reader.Quiet ⟨prefaceLine ++ rest, [.arrived n]⟩ := fun n event hevent =>
    ⟨n, List.mem_singleton.1 hevent⟩
  have hprotocol : ∀ n < readChunkSize, 10 ∈ (prefaceLine ++ rest).take (n + 1) →
      classify ((prefaceLine ++ rest).take (n + 1)) = protocol := by
    intro n hn hline
    obtain ⟨result, reader', hdetect, hresult⟩ := h false _ (hquiet n)
    obtain ⟨result', reader'', hdetect', hresult'⟩ := exists_detectProtocol_arrived hn hline
    rw [hdetect'] at hdetect
    cases hdetect
    exact hresult'.symm.trans hresult
  -- the first line alone
  have hfirst : (prefaceLine ++ rest).take (15 + 1) = prefaceLine := rfl
  have hhttp2 := hprotocol 15 (by decide) (by rw [hfirst]; decide)
  rw [hfirst, show classify prefaceLine = .http2 from rfl] at hhttp2
  -- the first chunk whole
  have hchunk : prefaceLine <+: (prefaceLine ++ rest).take (1023 + 1) :=
    List.prefix_take_iff.2 ⟨List.prefix_append .., by decide⟩
  have hline : 10 ∈ (prefaceLine ++ rest).take (1023 + 1) := hchunk.subset (by decide)
  have hhttp1 := hprotocol 1023 (by decide) hline
  have hpreface : startsPreface ((prefaceLine ++ rest).take (1023 + 1)) = false := by
    rw [← Bool.not_eq_true, startsPreface_iff]
    rintro (h | h)
    · exact hlong (h.trans (List.take_prefix ..))
    · have hlen := h.length_le
      have hpreface : http2Preface.length = 24 := rfl
      rw [List.length_take] at hlen
      rw [List.take_of_length_le (by omega)] at h
      exact hshort h
  rw [← hhttp2, classify, if_neg (by simp [List.ne_nil_of_mem hline]), hpreface,
    ← detectHttpInBuffer_prefix hchunk (by decide)] at hhttp1
  cases hhttp1

/-- **Protocol detection** loses no byte of a stream and does not depend on how its bytes arrive,
exactly if the stream does not start with the first line of the HTTP/2 preface and go on
differently. -/
theorem detection_faithful_iff (stream : List UInt8) :
    Lossless stream ∧ ArrivalIndependent stream ↔ ¬LeavesPreface stream := by
  constructor
  · exact fun h hleaves => not_arrivalIndependent_of_leavesPreface hleaves h.2
  · intro hleaves
    refine ⟨?_, arrivalIndependent_of_not_leavesPreface hleaves⟩
    intro hasDeadline events result reader' h
    exact detectProtocol_append h

/-- A request line `PRI * HTTP/2.0` that is followed by a header. -/
def priStream : List UInt8 := prefaceLine ++ [72, 111, 115, 116, 58, 32, 97, 13, 10, 13, 10]

/-- How its bytes arrive decides about `priStream`. -/
theorem priStream_arrival : ¬∀ stream, Lossless stream ∧ ArrivalIndependent stream := by
  intro h
  refine not_arrivalIndependent_of_leavesPreface ?_ (h priStream).2
  exact ⟨List.prefix_append .., by decide, by decide⟩

end ProtocolDetector

end Lapdev
