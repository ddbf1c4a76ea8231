import Lapdev.Sidecar.ProtocolDetector
import Mathlib.Data.List.Infix

/-!
# Reading the headers of a request

`read_http_headers` of `kube-rpc/src/http_parser.rs` looks for the end of the headers after each
chunk, and only where the chunk can have brought it. That finds what a search of the whole buffer
finds, so the headers are complete exactly if their end lies within the limit, however the bytes
arrive.
-/

namespace Lapdev

open RustStd

namespace HttpParser

/-- Source: `http_parser.rs`. -/
def readHttpHeaders (buffer : List UInt8) (reader : Reader) :
    Except ErrorKind Unit × List UInt8 × Reader :=
  match readHttpHeadersWithDeadline buffer false reader with
  | (.ok _, buffer, reader) => (.ok (), buffer, reader)
  | (.error kind, buffer, reader) => (.error kind, buffer, reader)

/-! ## The search for the marker -/

/-- Where the marker starts, the first time. -/
def markerPosition (buffer marker : List UInt8) : Option Nat :=
  buffer.tails.findIdx? fun window => marker.isPrefixOf window

/-- Where the search after a chunk starts. -/
def searchStart (prevLen : Nat) : Nat := prevLen - (headerEndMarker.length - 1)

section
variable {buffer marker : List UInt8}

theorem headersComplete_eq : headersComplete buffer marker = (markerPosition buffer marker).isSome := by
  rw [headersComplete, markerPosition, List.findIdx?_isSome]

theorem headersComplete_iff : headersComplete buffer marker = true ↔ marker <:+: buffer := by
  rw [headersComplete, List.any_eq_true, List.infix_iff_prefix_suffix]
  constructor
  · rintro ⟨window, hwindow, hprefix⟩
    exact ⟨window, List.isPrefixOf_iff_prefix.1 hprefix, (List.mem_tails _ _).1 hwindow⟩
  · rintro ⟨window, hprefix, hsuffix⟩
    exact ⟨window, (List.mem_tails _ _).2 hsuffix, List.isPrefixOf_iff_prefix.2 hprefix⟩

theorem drop_tails {n : Nat} (h : n ≤ buffer.length) :
    buffer.tails.drop n = (buffer.drop n).tails := by
  induction n generalizing buffer with
  | zero => rfl
  | succ n ih =>
    cases buffer with
    | nil => exact absurd h (Nat.not_succ_le_zero n)
    | cons b bytes => exact ih (Nat.le_of_succ_le_succ h)

/-- A marker that starts before a position that its length keeps within the front stands there. -/
theorem infix_of_prefix_drop {prev bytes : List UInt8} {i : Nat}
    (hle : i + marker.length ≤ prev.length) (h : marker <+: (prev ++ bytes).drop i) :
    marker <:+: prev := by
  rw [List.drop_append_of_le_length (by omega)] at h
  have hprefix : marker <+: prev.drop i :=
    List.prefix_of_prefix_length_le h (List.prefix_append _ _) (by rw [List.length_drop]; omega)
  exact hprefix.isInfix.trans (List.drop_suffix i prev).isInfix

/-- **The incremental search.** Where the marker is not in the buffer before a chunk, the search from
a marker's length before the chunk finds the position that a search of the whole buffer finds. -/
theorem markerPosition_drop {prev : List UInt8} (bytes : List UInt8)
    (hprev : headersComplete prev headerEndMarker = false) :
    (markerPosition ((prev ++ bytes).drop (searchStart prev.length)) headerEndMarker).map
        (· + searchStart prev.length) =
      markerPosition (prev ++ bytes) headerEndMarker := by
  have hstart : searchStart prev.length ≤ (prev ++ bytes).length := by
    rw [searchStart, List.length_append]
    omega
  have hnone : ((prev ++ bytes).tails.take (searchStart prev.length)).findIdx?
      (fun window => headerEndMarker.isPrefixOf window) = none := by
    rw [List.findIdx?_eq_none_iff]
    intro window hwindow
    by_contra hmarker
    obtain ⟨i, hi, rfl⟩ := List.getElem_of_mem hwindow
    rw [List.length_take] at hi
    rw [List.getElem_take, List.getElem_tails, Bool.not_eq_false,
      List.isPrefixOf_iff_prefix] at hmarker
    have hle : i + headerEndMarker.length ≤ prev.length := by
      have : i < prev.length - (headerEndMarker.length - 1) := by
        rw [searchStart] at hi
        omega
      have hlen : headerEndMarker.length = 4 := rfl
      omega
    rw [headersComplete_iff.2 (infix_of_prefix_drop hle hmarker)] at hprev
    cases hprev
  rw [markerPosition, markerPosition, ← drop_tails hstart]
  conv_rhs => rw [← List.take_append_drop (searchStart prev.length) (prev ++ bytes).tails]
  rw [List.findIdx?_append, hnone, Option.none_or, List.length_take, List.length_tails,
    Nat.min_eq_left (by omega)]

end

/-! ## The loop -/

/-- The loop with a search of the whole buffer after each chunk. -/
def readHttpHeadersSearchingAll (buffer : List UInt8) (reader : Reader) :
    Except ErrorKind Unit × List UInt8 × Reader :=
  if headersComplete buffer headerEndMarker then (.ok (), buffer, reader)
  else
    match reader.fill maxHeaderSize readChunkSize
      (fun _ buffer => headersComplete buffer headerEndMarker) false buffer with
    | (.enough, buffer, reader) => (.ok (), buffer, reader)
    | (.timedOut, buffer, reader) => (.ok (), buffer, reader)
    | (.eof, buffer, reader) => (.error .unexpectedEof, buffer, reader)
    | (.full, buffer, reader) => (.error .invalidData, buffer, reader)
    | (.failed kind, buffer, reader) => (.error kind, buffer, reader)

/-- Searching behind each chunk is searching the whole buffer. -/
theorem readHttpHeaders_eq (buffer : List UInt8) (reader : Reader) :
    readHttpHeaders buffer reader = readHttpHeadersSearchingAll buffer reader := by
  have henough : ∀ prev bytes, headersComplete prev headerEndMarker = false →
      headersComplete ((prev ++ bytes).drop (prev.length - (headerEndMarker.length - 1)))
        headerEndMarker = headersComplete (prev ++ bytes) headerEndMarker := by
    intro prev bytes hprev
    rw [headersComplete_eq, headersComplete_eq, ← markerPosition_drop bytes hprev, Option.isSome_map]
    rfl
  rw [readHttpHeaders, readHttpHeadersWithDeadline, readHttpHeadersSearchingAll]
  cases hbuffer : headersComplete buffer headerEndMarker with
  | true => rfl
  | false =>
    rw [if_neg Bool.false_ne_true, if_neg Bool.false_ne_true,
      Reader.fill_eq_of_search (p := fun b => headersComplete b headerEndMarker) henough hbuffer]
    rcases reader.fill maxHeaderSize readChunkSize
      (fun _ buffer => headersComplete buffer headerEndMarker) false buffer with
      ⟨_ | _ | _ | _ | kind, buffer', reader'⟩ <;> rfl

/-- The headers are complete exactly if the marker stands in the part of the stream that the limit
allows, or in the buffer at the start. -/
theorem readHttpHeadersSearchingAll_iff {buffer buffer' : List UInt8} {reader reader' : Reader}
    {outcome : Except ErrorKind Unit} (hquiet : reader.Quiet)
    (h : readHttpHeadersSearchingAll buffer reader = (outcome, buffer', reader')) :
    outcome = .ok () ↔
      headerEndMarker <:+: (buffer ++ reader.rest).take (max maxHeaderSize buffer.length) := by
  rw [readHttpHeadersSearchingAll] at h
  cases hbuffer : headersComplete buffer headerEndMarker with
  | true =>
    rw [hbuffer, if_pos rfl] at h
    cases h
    refine iff_of_true rfl ((headersComplete_iff.1 hbuffer).trans (List.IsPrefix.isInfix ?_))
    exact List.prefix_take_iff.2 ⟨List.prefix_append _ _, Nat.le_max_right _ _⟩
  | false =>
    rw [hbuffer, if_neg Bool.false_ne_true] at h
    have hbuffer' : ¬headerEndMarker <:+: buffer := by
      rw [← headersComplete_iff, hbuffer]
      exact Bool.false_ne_true
    rcases Nat.lt_or_ge maxHeaderSize buffer.length with hlong | hlen
    · rw [Reader.fill, if_pos hlong.le] at h
      cases h
      rw [Nat.max_eq_right hlong.le, List.take_left']
      · exact iff_of_false (fun h => by cases h) hbuffer'
      · rfl
    · obtain ⟨ending, buffer₁, reader₁, hfill, -, hend⟩ :=
        Reader.fill_of_quiet maxHeaderSize readChunkSize
          (fun _ buffer => headersComplete buffer headerEndMarker) false (by decide) hquiet hlen
      have henough := Reader.fill_enough_iff (p := fun b => headersComplete b headerEndMarker)
        hbuffer hfill
      rw [hfill] at h
      rw [Nat.max_eq_left hlen]
      rcases hend with ⟨rfl, -⟩ | ⟨hending, htake⟩
      · cases h
        have hread : buffer' <+: buffer ++ reader.rest :=
          ⟨reader'.rest, Reader.fill_append hfill⟩
        refine iff_of_true rfl ((headersComplete_iff.1 (henough.1 rfl)).trans
          (List.IsPrefix.isInfix ?_))
        exact List.prefix_take_iff.2 ⟨hread, Reader.length_fill_le hlen hfill⟩
      · have hnone : ¬headerEndMarker <:+: (buffer ++ reader.rest).take maxHeaderSize := by
          rw [← htake, ← headersComplete_iff, ← henough]
          rcases hending with rfl | rfl <;> exact fun h => by cases h
        rcases hending with rfl | rfl <;> cases h <;>
          exact iff_of_false (fun h => by cases h) hnone

/-- Headers that are complete have the marker in the buffer. -/
theorem infix_of_readHttpHeadersSearchingAll {buffer buffer' : List UInt8}
    {reader reader' : Reader} (hquiet : reader.Quiet)
    (h : readHttpHeadersSearchingAll buffer reader = (.ok (), buffer', reader')) :
    headerEndMarker <:+: buffer' := by
  rw [readHttpHeadersSearchingAll] at h
  cases hbuffer : headersComplete buffer headerEndMarker with
  | true =>
    rw [hbuffer, if_pos rfl] at h
    cases h
    exact headersComplete_iff.1 hbuffer
  | false =>
    rw [hbuffer, if_neg Bool.false_ne_true] at h
    rcases Nat.lt_or_ge maxHeaderSize buffer.length with hlong | hlen
    · rw [Reader.fill, if_pos hlong.le] at h
      cases h
    · -- No deadline passes while the reader is quiet, so the search has found the marker.
      obtain ⟨ending, buffer₁, reader₁, hfill, -, hend⟩ :=
        Reader.fill_of_quiet maxHeaderSize readChunkSize
          (fun _ buffer => headersComplete buffer headerEndMarker) false (by decide) hquiet hlen
      have henough := Reader.fill_enough_iff (p := fun b => headersComplete b headerEndMarker)
        hbuffer hfill
      rw [hfill] at h
      rcases hend with ⟨rfl, -⟩ | ⟨rfl | rfl, -⟩ <;> cases h
      exact headersComplete_iff.1 (henough.1 rfl)

/-- **Reading the headers.** However the bytes of a stream arrive, the buffer is a start of the
stream, the headers are complete exactly if their end lies within the limit, and then it is in the
buffer; searching behind each chunk finds what searching the whole buffer finds. -/
theorem readHttpHeaders_spec (buffer : List UInt8) {reader : Reader} (hquiet : reader.Quiet) :
    ∃ outcome buffer' reader', readHttpHeaders buffer reader = (outcome, buffer', reader') ∧
      buffer' <+: buffer ++ reader.rest ∧
      (outcome = .ok () ↔
        headerEndMarker <:+: (buffer ++ reader.rest).take (max maxHeaderSize buffer.length)) ∧
      (outcome = .ok () → headerEndMarker <:+: buffer') ∧
      readHttpHeaders buffer reader = readHttpHeadersSearchingAll buffer reader ∧
      ∀ prev bytes, headersComplete prev headerEndMarker = false →
        (markerPosition ((prev ++ bytes).drop (searchStart prev.length)) headerEndMarker).map
            (· + searchStart prev.length) =
          markerPosition (prev ++ bytes) headerEndMarker := by
  rcases hread : readHttpHeaders buffer reader with ⟨outcome, buffer', reader'⟩
  have hall : readHttpHeadersSearchingAll buffer reader = (outcome, buffer', reader') := by
    rw [← readHttpHeaders_eq, hread]
  refine ⟨outcome, buffer', reader', rfl, ⟨reader'.rest, ?_⟩,
    readHttpHeadersSearchingAll_iff hquiet hall, ?_, hall.symm, fun prev => markerPosition_drop⟩
  · rw [readHttpHeaders] at hread
    split at hread <;> cases hread <;> exact readHttpHeaders_append ‹_›
  · rintro rfl
    exact infix_of_readHttpHeadersSearchingAll hquiet hall

/-- The marker arrives in two reads. -/
theorem readHttpHeaders_spec_split :
    ∃ outcome buffer' reader',
      readHttpHeaders [] ⟨headerEndMarker, [.arrived 1]⟩ = (outcome, buffer', reader') ∧
        outcome = .ok () ∧ headerEndMarker <:+: buffer' := by
  have hquiet : (⟨headerEndMarker, [.arrived 1]⟩ : Reader).Quiet := by
    intro event hevent
    exact ⟨1, List.mem_singleton.1 hevent⟩
  obtain ⟨outcome, buffer', reader', hread, -, hiff, hmarker, -⟩ := readHttpHeaders_spec [] hquiet
  have hok := hiff.2 (List.infix_refl _)
  exact ⟨outcome, buffer', reader', hread, hok, hmarker hok⟩

end HttpParser

end Lapdev
