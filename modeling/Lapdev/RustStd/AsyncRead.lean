import Mathlib.Data.List.Basic

/-!
# Reads from a stream

A stream is the bytes that are still to come and what its reads will meet: how many bytes have
arrived, a deadline that passes first, or an error. A read loop fills a buffer up to a limit until it
has seen enough (`Reader.fill`); whatever the reads meet, the buffer and the bytes to come are the
stream (`fill_append`), and without deadlines and errors the buffer is enough, or all the limit allows
(`fill_of_quiet`).
-/

namespace RustStd

/-- `io::ErrorKind`, as far as reads have it. -/
inductive ErrorKind
  | unexpectedEof
  | invalidData
  | invalidInput
  | other
  deriving DecidableEq

/-- What a read meets. -/
inductive ReadEvent
  /-- One byte and `more` others have arrived. -/
  | arrived (more : Nat)
  /-- The deadline passes before a byte arrives. -/
  | timedOut
  /-- The stream fails. -/
  | failed (kind : ErrorKind)

/-- `AsyncRead`. When no more events are left, all bytes have arrived. -/
structure Reader where
  rest : List UInt8
  events : List ReadEvent

namespace Reader

/-- No deadline passes and the stream does not fail. -/
def Quiet (reader : Reader) : Prop :=
  ∀ event ∈ reader.events, ∃ more, event = .arrived more

/-- A read of at most `len` bytes, `none` where its deadline passes. A read that times out or fails
takes no bytes. -/
def read (len : Nat) (hasDeadline : Bool) (reader : Reader) :
    Except ErrorKind (Option (List UInt8)) × Reader :=
  match reader.events with
  | [] => (.ok (some (reader.rest.take len)), ⟨reader.rest.drop len, []⟩)
  | .arrived more :: events =>
    (.ok (some (reader.rest.take (min len (more + 1)))),
      ⟨reader.rest.drop (min len (more + 1)), events⟩)
  | .timedOut :: events =>
    if hasDeadline then (.ok none, ⟨reader.rest, events⟩)
    else (.ok (some (reader.rest.take len)), ⟨reader.rest.drop len, events⟩)
  | .failed kind :: events => (.error kind, ⟨reader.rest, events⟩)

/-- How a loop of reads ends. -/
inductive FillEnd
  | enough
  | full
  | eof
  | timedOut
  | failed (kind : ErrorKind)
  deriving DecidableEq

/-- A loop that reads chunks of at most `chunk` bytes into a buffer until the buffer has `limit`
bytes, the stream ends or fails, the deadline passes, or a chunk makes the buffer enough; `enough` is
asked about the buffer before the chunk and after it. -/
def fill (limit chunk : Nat) (enough : List UInt8 → List UInt8 → Bool) (hasDeadline : Bool)
    (buffer : List UInt8) (reader : Reader) : FillEnd × List UInt8 × Reader :=
  if limit ≤ buffer.length then (.full, buffer, reader)
  else
    match reader.read (min (limit - buffer.length) chunk) hasDeadline with
    | (.error kind, reader) => (.failed kind, buffer, reader)
    | (.ok none, reader) => (.timedOut, buffer, reader)
    | (.ok (some []), reader) => (.eof, buffer, reader)
    | (.ok (some (b :: bytes)), reader) =>
      if enough buffer (buffer ++ b :: bytes) then (.enough, buffer ++ b :: bytes, reader)
      else fill limit chunk enough hasDeadline (buffer ++ b :: bytes) reader
termination_by limit - buffer.length
decreasing_by
  simp only [List.length_append, List.length_cons]
  omega

section
variable {len : Nat} {hasDeadline : Bool} {reader reader' : Reader}

/-- The bytes that a read delivered. -/
def delivered : Except ErrorKind (Option (List UInt8)) → List UInt8
  | .ok (some bytes) => bytes
  | _ => []

/-- What is read comes off the stream. -/
theorem read_append {outcome : Except ErrorKind (Option (List UInt8))}
    (h : reader.read len hasDeadline = (outcome, reader')) :
    delivered outcome ++ reader'.rest = reader.rest := by
  rw [read] at h
  split at h
  · cases h
    exact List.take_append_drop ..
  · cases h
    exact List.take_append_drop ..
  · split at h
    · cases h
      rfl
    · cases h
      exact List.take_append_drop ..
  · cases h
    rfl

theorem length_delivered_le {outcome : Except ErrorKind (Option (List UInt8))}
    (h : reader.read len hasDeadline = (outcome, reader')) : (delivered outcome).length ≤ len := by
  rw [read] at h
  split at h
  · cases h
    exact List.length_take_le ..
  · cases h
    exact Nat.le_trans (List.length_take_le ..) (Nat.min_le_left ..)
  · split at h
    · cases h
      exact Nat.zero_le _
    · cases h
      exact List.length_take_le ..
  · cases h
    exact Nat.zero_le _

/-- A quiet read takes some of the bytes to come. -/
theorem read_of_quiet (len : Nat) (hasDeadline : Bool) (h : reader.Quiet) (hlen : 0 < len) :
    ∃ n reader', reader.read len hasDeadline = (.ok (some (reader.rest.take n)), reader') ∧
      0 < n ∧ n ≤ len ∧ reader'.rest = reader.rest.drop n ∧ reader'.Quiet := by
  obtain ⟨rest, events⟩ := reader
  cases events with
  | nil => exact ⟨len, _, rfl, hlen, Nat.le_refl len, rfl, h⟩
  | cons event events =>
    obtain ⟨more, rfl⟩ := h event List.mem_cons_self
    refine ⟨min len (more + 1), _, rfl, by omega, Nat.min_le_left _ _, rfl, ?_⟩
    exact fun event hevent => h event (List.mem_cons_of_mem _ hevent)

end

section
variable {limit chunk : Nat} {enough : List UInt8 → List UInt8 → Bool} {hasDeadline : Bool}

/-- The buffer grows by what comes off the stream. -/
theorem fill_append {buffer buffer' : List UInt8} {reader reader' : Reader} {ending : FillEnd}
    (h : reader.fill limit chunk enough hasDeadline buffer = (ending, buffer', reader')) :
    buffer' ++ reader'.rest = buffer ++ reader.rest := by
  fun_induction fill limit chunk enough hasDeadline buffer reader with
  | case1 buffer reader hfull =>
    cases h
    rfl
  | case2 buffer reader hroom kind reader₁ hread =>
    cases h
    exact congrArg (_ ++ ·) (read_append hread)
  | case3 buffer reader hroom reader₁ hread =>
    cases h
    exact congrArg (_ ++ ·) (read_append hread)
  | case4 buffer reader hroom reader₁ hread =>
    cases h
    exact congrArg (_ ++ ·) (read_append hread)
  | case5 buffer reader hroom b bytes reader₁ hread henough =>
    cases h
    rw [List.append_assoc]
    exact congrArg (buffer ++ ·) (read_append hread)
  | case6 buffer reader hroom b bytes reader₁ hread henough ih =>
    rw [ih h, List.append_assoc]
    exact congrArg (buffer ++ ·) (read_append hread)

/-- The buffer keeps to the limit. -/
theorem length_fill_le {buffer buffer' : List UInt8} {reader reader' : Reader} {ending : FillEnd}
    (hlen : buffer.length ≤ limit)
    (h : reader.fill limit chunk enough hasDeadline buffer = (ending, buffer', reader')) :
    buffer'.length ≤ limit := by
  have hchunk : ∀ {buffer bytes : List UInt8} {reader reader₁ : Reader}, ¬limit ≤ buffer.length →
      reader.read (min (limit - buffer.length) chunk) hasDeadline = (.ok (some bytes), reader₁) →
        (buffer ++ bytes).length ≤ limit := by
    intro buffer bytes reader reader₁ hroom hread
    have : bytes.length ≤ min (limit - buffer.length) chunk := length_delivered_le hread
    rw [List.length_append]
    omega
  fun_induction fill limit chunk enough hasDeadline buffer reader with
  | case1 | case2 | case3 | case4 =>
    cases h
    exact hlen
  | case5 buffer reader hroom b bytes reader₁ hread henough =>
    cases h
    exact hchunk hroom hread
  | case6 buffer reader hroom b bytes reader₁ hread henough ih => exact ih (hchunk hroom hread) h

/-- A first chunk that is enough ends the loop. -/
theorem fill_of_read (enough : List UInt8 → List UInt8 → Bool) {buffer bytes : List UInt8}
    {reader reader' : Reader}
    (hlen : buffer.length < limit) (hbytes : bytes ≠ [])
    (hread : reader.read (min (limit - buffer.length) chunk) hasDeadline =
      (.ok (some bytes), reader')) (henough : enough buffer (buffer ++ bytes)) :
    reader.fill limit chunk enough hasDeadline buffer = (.enough, buffer ++ bytes, reader') := by
  obtain ⟨b, bytes, rfl⟩ := List.exists_cons_of_ne_nil hbytes
  rw [fill, if_neg (Nat.not_le.2 hlen), hread]
  exact if_pos henough

/-- Without deadlines and errors the loop ends with a buffer that is enough, or with all bytes that
the limit allows. -/
theorem fill_of_quiet (limit chunk : Nat) (enough : List UInt8 → List UInt8 → Bool)
    (hasDeadline : Bool) (hchunk : 0 < chunk) {buffer : List UInt8} {reader : Reader}
    (hquiet : reader.Quiet) (hlen : buffer.length ≤ limit) :
    ∃ ending buffer' reader',
      reader.fill limit chunk enough hasDeadline buffer = (ending, buffer', reader') ∧
      reader'.Quiet ∧
      (ending = .enough ∧ (∃ prev, enough prev buffer' = true) ∨
        (ending = .full ∨ ending = .eof) ∧ buffer' = (buffer ++ reader.rest).take limit) := by
  have hread : ∀ {buffer : List UInt8} {reader : Reader}, reader.Quiet → ¬limit ≤ buffer.length →
      ∃ n reader', reader.read (min (limit - buffer.length) chunk) hasDeadline =
        (.ok (some (reader.rest.take n)), reader') ∧ 0 < n ∧ n ≤ limit - buffer.length ∧
          reader'.rest = reader.rest.drop n ∧ reader'.Quiet := by
    intro buffer reader hquiet hroom
    obtain ⟨n, reader', hread, hpos, hle, hrest⟩ :=
      read_of_quiet (min (limit - buffer.length) chunk) hasDeadline hquiet (by omega)
    exact ⟨n, reader', hread, hpos, Nat.le_trans hle (Nat.min_le_left _ _), hrest⟩
  fun_induction fill limit chunk enough hasDeadline buffer reader with
  | case1 buffer reader hfull =>
    refine ⟨_, _, _, rfl, hquiet, .inr ⟨.inl rfl, ?_⟩⟩
    rw [List.take_append_of_le_length (by omega), List.take_of_length_le hlen]
  | case2 buffer reader hroom kind reader₁ hfailed =>
    obtain ⟨n, reader', hok, -⟩ := hread hquiet hroom
    rw [hok] at hfailed
    cases hfailed
  | case3 buffer reader hroom reader₁ htimedOut =>
    obtain ⟨n, reader', hok, -⟩ := hread hquiet hroom
    rw [hok] at htimedOut
    cases htimedOut
  | case4 buffer reader hroom reader₁ heof =>
    obtain ⟨n, reader', hok, hpos, -, hrest, hquiet'⟩ := hread hquiet hroom
    rw [hok, Prod.mk.injEq, Except.ok.injEq, Option.some.injEq] at heof
    obtain ⟨hnil, rfl⟩ := heof
    refine ⟨_, _, _, rfl, hquiet', .inr ⟨.inr rfl, ?_⟩⟩
    have hend : reader.rest = [] := by
      rw [List.take_eq_nil_iff] at hnil
      exact hnil.resolve_left (by omega)
    rw [hend, List.append_nil, List.take_of_length_le hlen]
  | case5 buffer reader hroom b bytes reader₁ hok henough =>
    obtain ⟨n, reader', hok', -, -, -, hquiet'⟩ := hread hquiet hroom
    rw [hok', Prod.mk.injEq] at hok
    obtain ⟨-, rfl⟩ := hok
    exact ⟨_, _, _, rfl, hquiet', .inl ⟨rfl, buffer, henough⟩⟩
  | case6 buffer reader hroom b bytes reader₁ hok henough ih =>
    obtain ⟨n, reader', hok', -, hle, -, hquiet'⟩ := hread hquiet hroom
    have hrest := read_append hok
    rw [hok', Prod.mk.injEq, Except.ok.injEq, Option.some.injEq] at hok
    obtain ⟨hbytes, rfl⟩ := hok
    have hlen' : (buffer ++ b :: bytes).length ≤ limit := by
      rw [← hbytes, List.length_append, List.length_take]
      omega
    obtain ⟨ending, buffer', reader₂, hfill, hquiet₂, hend⟩ := ih hquiet' hlen'
    refine ⟨ending, buffer', reader₂, hfill, hquiet₂, hend.imp_right fun h => ⟨h.1, h.2.trans ?_⟩⟩
    rw [List.append_assoc, ← hrest]
    rfl

/-- A loop that asks about each chunk what another one asks about the whole buffer, as long as the
buffer before it is not enough, is that loop. -/
theorem fill_eq_of_search {p : List UInt8 → Bool}
    (henough : ∀ prev bytes, p prev = false → enough prev (prev ++ bytes) = p (prev ++ bytes))
    {buffer : List UInt8} (hbuffer : p buffer = false) (reader : Reader) :
    reader.fill limit chunk enough hasDeadline buffer =
      reader.fill limit chunk (fun _ buffer => p buffer) hasDeadline buffer := by
  fun_induction fill limit chunk enough hasDeadline buffer reader with
  | case1 buffer reader hfull => rw [fill, if_pos hfull]
  | case2 buffer reader hroom kind reader₁ hread => rw [fill, if_neg hroom, hread]
  | case3 buffer reader hroom reader₁ hread => rw [fill, if_neg hroom, hread]
  | case4 buffer reader hroom reader₁ hread => rw [fill, if_neg hroom, hread]
  | case5 buffer reader hroom b bytes reader₁ hread hmet =>
    rw [henough _ _ hbuffer] at hmet
    rw [fill, if_neg hroom, hread]
    exact (if_pos hmet).symm
  | case6 buffer reader hroom b bytes reader₁ hread hmet ih =>
    rw [henough _ _ hbuffer] at hmet
    conv_rhs => rw [fill, if_neg hroom, hread]
    exact (ih (Bool.eq_false_iff.2 hmet)).trans (if_neg hmet).symm

/-- A loop that asks about the whole buffer ends with enough exactly if its buffer is. -/
theorem fill_enough_iff {p : List UInt8 → Bool} {buffer buffer' : List UInt8}
    {reader reader' : Reader} {ending : FillEnd} (hbuffer : p buffer = false)
    (h : reader.fill limit chunk (fun _ buffer => p buffer) hasDeadline buffer =
      (ending, buffer', reader')) :
    ending = .enough ↔ p buffer' = true := by
  fun_induction fill limit chunk (fun _ buffer => p buffer) hasDeadline buffer reader with
  | case1 | case2 | case3 | case4 =>
    cases h
    simp [hbuffer]
  | case5 buffer reader hroom b bytes reader₁ hread hmet =>
    cases h
    simp [hmet]
  | case6 buffer reader hroom b bytes reader₁ hread hmet ih => exact ih (Bool.eq_false_iff.2 hmet) h

end

end Reader

end RustStd
