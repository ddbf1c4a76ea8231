import Lapdev.Http.HeaderMap
import Lapdev.RustStd.AsyncRead
import Lapdev.RustStd.Lossy
import Lapdev.Sidecar.RoutingContext

/-!
# The tracestate of a request over HTTP/2

`ensure_environment_tracestate` of `kube-sidecar-proxy/src/http2_proxy.rs` gives a request the
environment it is forwarded for. It always succeeds, the sidecar behind it reads that environment,
and doing it again changes nothing. It reads the first `tracestate` header and replaces them all:
`keepsTrace_iff` says which lists survive that.
-/

namespace Lapdev

open RustStd RustStd.Utf8 Http OtelRouting

namespace Http2Proxy

/-- `HeaderName::from_static(TRACESTATE_HEADER)`. -/
def tracestate : HeaderName := ⟨tracestateHeader, by decide⟩

/-- What the code reads of a header's value. -/
def text (v : HeaderValue) : Str := v.toStr.getD (fromUtf8Lossy v.bytes)

/-- `header_map_to_vec`. -/
def headerMapToVec (headers : HeaderMap) : List (Str × Str) :=
  headers.iter.map fun h => (h.1.text, text h.2)

/-- The loop of `ensure_environment_tracestate`. -/
def keptEntries (existing : Str) : List Str :=
  ((Str.split ',' existing).map Str.trim).filter fun entry =>
    entry ≠ [] && !isEnvironmentEntry entry

/-- `ensure_environment_tracestate`. -/
def ensureEnvironmentTracestate (headers : HeaderMap) (environmentId : Uuid) :
    Except ErrorKind HeaderMap :=
  let newValue :=
    match headers.get tracestate with
    | some existing =>
      Str.join [','] (keptEntries (text existing) ++ [environmentEntry environmentId])
    | none => environmentEntry environmentId
  match HeaderValue.fromStr newValue with
  | some headerValue => .ok (headers.insert tracestate headerValue)
  | none => .error .invalidInput

/-! ## The new value -/

/-- The entries of the first `tracestate` header that are kept. -/
def kept (headers : HeaderMap) : List Str :=
  ((headers.get tracestate).map fun v => keptEntries (text v)).getD []

/-- The new value. -/
def newText (headers : HeaderMap) (environmentId : Uuid) : Str :=
  Str.join [','] (kept headers ++ [environmentEntry environmentId])

theorem ensureEnvironmentTracestate_eq (headers : HeaderMap) (environmentId : Uuid) :
    ensureEnvironmentTracestate headers environmentId =
      match HeaderValue.fromStr (newText headers environmentId) with
      | some headerValue => .ok (headers.insert tracestate headerValue)
      | none => .error .invalidInput := by
  rw [ensureEnvironmentTracestate, newText, kept]
  cases headers.get tracestate with
  | some v => rfl
  | none =>
    rw [Option.map_none, Option.getD_none, List.nil_append, Str.join_singleton]

/-- A value is read as its bytes are. -/
theorem text_eq (v : HeaderValue) : text v = fromUtf8Lossy v.bytes := by
  rw [text, HeaderValue.toStr]
  split
  · next hall =>
    have hascii : ∀ b ∈ v.bytes, b < 128 := by
      intro b hb
      have hvisible := List.all_eq_true.1 hall b hb
      simp only [isVisibleAscii, Bool.or_eq_true, Bool.and_eq_true, decide_eq_true_eq] at hvisible
      rcases hvisible with rfl | ⟨-, hlt⟩
      · decide
      · exact UInt8.lt_trans hlt (by decide)
    rw [Option.getD_some]
    have hbytes := fromUtf8Lossy_encode (asciiText v.bytes)
    rw [encode_asciiText hascii] at hbytes
    exact hbytes.symm
  · rfl

/-- An entry that is kept is a trimmed piece of the value, and not the environment's. -/
theorem mem_keptEntries {existing entry : Str} (h : entry ∈ keptEntries existing) :
    entry ≠ [] ∧ isEnvironmentEntry entry = false ∧ Str.trim entry = entry ∧ ',' ∉ entry ∧
      entry ⊆ existing := by
  obtain ⟨hmem, hcond⟩ := List.mem_filter.1 h
  obtain ⟨piece, hpiece, rfl⟩ := List.mem_map.1 hmem
  obtain ⟨hsep, hsub⟩ := Str.mem_split piece hpiece
  rw [Bool.and_eq_true, decide_eq_true_eq, Bool.not_eq_true'] at hcond
  exact ⟨hcond.1, hcond.2, Str.trim_trim piece, fun hc => hsep (Str.trim_subset piece hc),
    fun c hc => hsub (Str.trim_subset piece hc)⟩

/-- A byte that is not ASCII may stand in a value. -/
theorem isFieldText_of_le {b : UInt8} (h : 128 ≤ b) : isFieldText b = true := by
  have hle : 128 ≤ b.toNat := h
  simp only [isFieldText, Bool.or_eq_true, Bool.and_eq_true, decide_eq_true_eq,
    UInt8.le_iff_toNat_le, ne_eq, ← UInt8.toNat_inj, UInt8.reduceToNat]
  omega

/-- A visible ASCII character may, too. -/
theorem isFieldText_of_visible {c : Char} (hlow : 33 ≤ c.toNat) (hhigh : c.toNat < 127) :
    ∀ b ∈ String.utf8EncodeChar c, isFieldText b = true := by
  intro b hb
  rcases utf8EncodeChar_cases c with ⟨b', hlt, rfl, hbytes⟩ | hbytes
  · rw [hbytes, List.mem_singleton] at hb
    subst hb
    rw [asciiChar_val hlt] at hlow hhigh
    simp only [isFieldText, Bool.or_eq_true, Bool.and_eq_true, decide_eq_true_eq,
      UInt8.le_iff_toNat_le, ne_eq, ← UInt8.toNat_inj, UInt8.reduceToNat]
    omega
  · exact isFieldText_of_le (hbytes b hb)

/-- The bytes of the new value may all stand in a value. -/
theorem isFieldText_newText (headers : HeaderMap) (environmentId : Uuid) :
    ∀ b ∈ encode (newText headers environmentId), isFieldText b := by
  intro b hb
  obtain ⟨c, hc, hbc⟩ := List.mem_flatMap.1 hb
  rcases Str.mem_join hc with rfl | ⟨entry, hentry, hc⟩
  · exact isFieldText_of_visible (by decide) (by decide) b hbc
  rcases List.mem_append.1 hentry with hentry | hentry
  · -- a character that the value of a header has already
    cases hget : headers.get tracestate with
    | none => rw [kept, hget] at hentry; cases hentry
    | some v =>
      rw [kept, hget, Option.map_some, Option.getD_some] at hentry
      have hmem := (mem_keptEntries hentry).2.2.2.2 hc
      rw [text_eq] at hmem
      rcases mem_of_mem_encode_fromUtf8Lossy (List.mem_flatMap.2 ⟨c, hmem, hbc⟩) with h | h
      · exact v.valid b h
      · exact isFieldText_of_le h
  · cases List.mem_singleton.1 hentry
    obtain ⟨hlow, hhigh, -⟩ := mem_environmentEntry hc
    exact isFieldText_of_visible hlow hhigh b hbc

/-- The new value as a value. -/
def newHeaderValue (headers : HeaderMap) (environmentId : Uuid) : HeaderValue :=
  ⟨encode (newText headers environmentId), isFieldText_newText headers environmentId⟩

/-- The function always succeeds. -/
theorem ensureEnvironmentTracestate_eq_ok (headers : HeaderMap) (environmentId : Uuid) :
    ensureEnvironmentTracestate headers environmentId =
      .ok (headers.insert tracestate (newHeaderValue headers environmentId)) := by
  rw [ensureEnvironmentTracestate_eq, HeaderValue.fromStr,
    dif_pos (isFieldText_newText headers environmentId)]
  rfl

/-- The new value is read as its text. -/
theorem text_newHeaderValue (headers : HeaderMap) (environmentId : Uuid) :
    text (newHeaderValue headers environmentId) = newText headers environmentId := by
  rw [text_eq, newHeaderValue, fromUtf8Lossy_encode]

theorem mem_kept {headers : HeaderMap} {entry : Str} (h : entry ∈ kept headers) :
    entry ≠ [] ∧ isEnvironmentEntry entry = false ∧ Str.trim entry = entry ∧ ',' ∉ entry := by
  rw [kept] at h
  cases hget : headers.get tracestate with
  | none => rw [hget] at h; cases h
  | some v =>
    rw [hget] at h
    obtain ⟨hne, henv, htrim, hsep, -⟩ := mem_keptEntries h
    exact ⟨hne, henv, htrim, hsep⟩

/-- It is a list of the entries that are kept, and the environment's. -/
theorem split_newText (headers : HeaderMap) (environmentId : Uuid) :
    Str.split ',' (newText headers environmentId) =
      kept headers ++ [environmentEntry environmentId] := by
  refine Str.split_join (fun entry hentry hc => ?_) (by simp)
  rcases List.mem_append.1 hentry with hentry | hentry
  · exact (mem_kept hentry).2.2.2 hc
  · cases List.mem_singleton.1 hentry
    exact (mem_environmentEntry hc).2.2 rfl

/-! ## What the sidecar reads -/

/-- The sidecar reads the first `tracestate`. -/
theorem getHeaderValue_headerMapToVec (headers : HeaderMap) :
    getHeaderValue (headerMapToVec headers) tracestateHeader =
      (headers.get tracestate).map text := by
  have hfind : ((headerMapToVec headers).find? fun h => Str.eqIgnoreAsciiCase h.1 tracestateHeader) =
      (headers.iter.find? fun h => h.1 = tracestate).map fun h => (h.1.text, text h.2) := by
    rw [headerMapToVec, List.find?_map]
    congr 2
    funext h
    exact Bool.eq_iff_iff.2
      ((@HeaderName.eqIgnoreAsciiCase h.1 tracestate).trans decide_eq_true_iff.symm)
  rw [getHeaderValue, hfind, HeaderMap.find?_iter]
  cases headers.get tracestate <;> rfl

/-- The environment is read back. -/
theorem lapdevEnvironmentId_insert (uuids : UuidParser) (headers : HeaderMap)
    (environmentId : Uuid) :
    (extractRoutingContext uuids (headerMapToVec
      (headers.insert tracestate (newHeaderValue headers environmentId)))).lapdevEnvironmentId =
      some environmentId := by
  rw [lapdevEnvironmentId_extractRoutingContext, getHeaderValue_headerMapToVec,
    HeaderMap.get_insert_self, Option.map_some, text_newHeaderValue, extractLapdevEnvironmentId,
    Option.bind_some, split_newText, List.findSome?_append]
  have hnone : (kept headers).findSome? (environmentOfEntry uuids) = none := by
    refine List.findSome?_eq_none_iff.2 fun entry hentry => ?_
    obtain ⟨-, henv, htrim, -⟩ := mem_kept hentry
    exact environmentOfEntry_eq_none uuids (htrim.symm ▸ henv)
  rw [hnone, Option.none_or, List.findSome?_cons, environmentOfEntry_environmentEntry]

/-- The entries that are kept are kept again. -/
theorem kept_insert (headers : HeaderMap) (environmentId : Uuid) :
    kept (headers.insert tracestate (newHeaderValue headers environmentId)) = kept headers := by
  rw [kept, HeaderMap.get_insert_self, Option.map_some, Option.getD_some, text_newHeaderValue,
    keptEntries, split_newText, List.map_append, List.filter_append, List.map_singleton,
    trim_environmentEntry, List.filter_cons, isEnvironmentEntry_environmentEntry, Bool.not_true,
    Bool.and_false, if_neg Bool.false_ne_true, List.filter_nil, List.append_nil]
  have hmap : (kept headers).map Str.trim = kept headers :=
    (List.map_congr_left fun entry hentry => (mem_kept hentry).2.2.1).trans (List.map_id _)
  rw [hmap, List.filter_eq_self]
  intro entry hentry
  obtain ⟨hne, henv, -, -⟩ := mem_kept hentry
  rw [henv, Bool.not_false, Bool.and_true]
  exact decide_eq_true hne

/-- Doing it again changes nothing. -/
theorem ensureEnvironmentTracestate_insert (headers : HeaderMap) (environmentId : Uuid) :
    ensureEnvironmentTracestate
        (headers.insert tracestate (newHeaderValue headers environmentId)) environmentId =
      .ok (headers.insert tracestate (newHeaderValue headers environmentId)) := by
  have hagain : newHeaderValue (headers.insert tracestate (newHeaderValue headers environmentId))
      environmentId = newHeaderValue headers environmentId := by
    refine HeaderValue.ext (congrArg encode ?_)
    rw [newText, kept_insert, newText]
  rw [ensureEnvironmentTracestate_eq_ok, hagain,
    HeaderMap.insert_of_getAll (HeaderMap.getAll_insert_self _ _ _)]

/-! ## The members of the lists -/

/-- The members of a list that name no environment. -/
def otherMembers (v : HeaderValue) : List (List UInt8) :=
  v.members.filter fun m => !isEnvironmentEntry (Str.trim (fromUtf8Lossy m))

/-- Those of all `tracestate` headers. -/
def traceMembers (headers : HeaderMap) : List (List UInt8) :=
  (headers.getAll tracestate).flatMap otherMembers

/-- The bytes of a trimmed text. -/
def Readable (m : List UInt8) : Prop := ∃ s : Str, Str.trim s = s ∧ encode s = m

theorem readable_iff {m : List UInt8} : Readable m ↔ encode (Str.trim (fromUtf8Lossy m)) = m := by
  constructor
  · rintro ⟨s, hs, rfl⟩
    rw [fromUtf8Lossy_encode, hs]
  · exact fun h => ⟨_, Str.trim_trim _, h⟩

/-- What is kept of a header, member by member. -/
theorem keptEntries_text (v : HeaderValue) :
    keptEntries (text v) =
      ((otherMembers v).map fun m => Str.trim (fromUtf8Lossy m)).filter fun entry => entry ≠ [] := by
  have hsplit : (Str.split ',' (text v)).map Str.trim =
      ((v.bytes.splitOn 44).map trimBlanks).map fun m => Str.trim (fromUtf8Lossy m) := by
    have hcomma : ',' = asciiChar 44 := rfl
    rw [text_eq, Str.split, hcomma, splitOn_fromUtf8Lossy (by decide), List.map_map, List.map_map]
    exact List.map_congr_left fun piece _ => (trim_fromUtf8Lossy_trimBlanks piece).symm
  rw [keptEntries, hsplit, otherMembers, HeaderValue.members]
  generalize (v.bytes.splitOn 44).map trimBlanks = pieces
  rw [List.filter_map, List.filter_map, List.filter_filter, List.filter_filter]
  refine congrArg _ (List.filter_congr fun m _ => ?_)
  have hnil : m = [] → Str.trim (fromUtf8Lossy m) = [] := by
    rintro rfl
    rw [fromUtf8Lossy]
    rfl
  by_cases hm : m = []
  · simp [hnil hm]
  · simp [hm]

/-- What is kept is what the new header has. -/
theorem traceMembers_insert (headers : HeaderMap) (environmentId : Uuid) :
    traceMembers (headers.insert tracestate (newHeaderValue headers environmentId)) =
      (kept headers).map encode := by
  have hcomma : ',' = asciiChar 44 := rfl
  have hpieces : ((newHeaderValue headers environmentId).bytes.splitOn 44).map trimBlanks =
      (kept headers ++ [environmentEntry environmentId]).map encode := by
    rw [newHeaderValue, splitOn_encode (by decide), ← hcomma, ← Str.split, split_newText,
      List.map_map]
    refine List.map_congr_left fun entry hentry => trimBlanks_encode ?_
    rcases List.mem_append.1 hentry with hentry | hentry
    · exact (mem_kept hentry).2.2.1
    · cases List.mem_singleton.1 hentry
      exact trim_environmentEntry environmentId
  rw [traceMembers, HeaderMap.getAll_insert_self, List.flatMap_singleton, otherMembers,
    HeaderValue.members, hpieces, List.filter_filter, List.map_append, List.filter_append]
  have hkept : ((kept headers).map encode).filter (fun m =>
      !isEnvironmentEntry (Str.trim (fromUtf8Lossy m)) && decide (m ≠ [])) =
        (kept headers).map encode := by
    refine List.filter_eq_self.2 fun m hm => ?_
    obtain ⟨entry, hentry, rfl⟩ := List.mem_map.1 hm
    obtain ⟨hne, henv, htrim, -⟩ := mem_kept hentry
    have hbytes : encode entry ≠ [] := fun h => hne (encode_injective h)
    simp [fromUtf8Lossy_encode, htrim, henv, hbytes]
  have henvironment : ([environmentEntry environmentId].map encode).filter (fun m =>
      !isEnvironmentEntry (Str.trim (fromUtf8Lossy m)) && decide (m ≠ [])) = [] := by
    simp [fromUtf8Lossy_encode, trim_environmentEntry, isEnvironmentEntry_environmentEntry]
  rw [hkept, henvironment, List.append_nil]

/-- Members are all still there exactly if there are no others, and each is read as it is. -/
theorem sublist_iff {l rest : List (List UInt8)} {p : Str → Bool} (hl : ∀ m ∈ l, m ≠ [])
    (hp : ∀ entry, p entry = true ↔ entry ≠ []) :
    (l ++ rest).Sublist (((l.map fun m => Str.trim (fromUtf8Lossy m)).filter p).map encode) ↔
      rest = [] ∧ ∀ m ∈ l, Readable m := by
  constructor
  · intro h
    have hfilter := List.length_filter_le p (l.map fun m => Str.trim (fromUtf8Lossy m))
    have hlength := h.length_le
    rw [List.length_append, List.length_map] at hlength
    rw [List.length_map] at hfilter
    have hrest : rest = [] := List.eq_nil_of_length_eq_zero (by omega)
    subst hrest
    rw [List.append_nil] at h
    have hall : (l.map fun m => Str.trim (fromUtf8Lossy m)).filter p =
        l.map fun m => Str.trim (fromUtf8Lossy m) :=
      List.filter_sublist.eq_of_length (by rw [List.length_map]; omega)
    rw [hall, List.map_map] at h
    have heq : l.map id = l.map (encode ∘ fun m => Str.trim (fromUtf8Lossy m)) :=
      (List.map_id l).trans (h.eq_of_length (by rw [List.length_map]))
    exact ⟨rfl, fun m hm => readable_iff.2 (List.map_inj_left.1 heq m hm).symm⟩
  · rintro ⟨rfl, hread⟩
    have hall : (l.map fun m => Str.trim (fromUtf8Lossy m)).filter p =
        l.map fun m => Str.trim (fromUtf8Lossy m) := by
      refine List.filter_eq_self.2 fun entry hentry => ?_
      obtain ⟨m, hm, rfl⟩ := List.mem_map.1 hentry
      refine (hp _).2 fun hnil => hl m hm ?_
      rw [← readable_iff.1 (hread m hm), hnil]
      rfl
    have heq : l.map (encode ∘ fun m => Str.trim (fromUtf8Lossy m)) = l.map id :=
      List.map_congr_left fun m hm => readable_iff.1 (hread m hm)
    rw [hall, List.map_map, heq, List.map_id, List.append_nil]

/-- The members are in the first header, and each is the bytes of a trimmed text. -/
def SingleList (headers : HeaderMap) : Prop :=
  ∀ first later, headers.getAll tracestate = first :: later →
    (∀ v ∈ later, otherMembers v = []) ∧ ∀ m ∈ otherMembers first, Readable m

/-- The members survive exactly if they are in the first header and readable. -/
theorem traceMembers_sublist_iff (headers : HeaderMap) (environmentId : Uuid) :
    (traceMembers headers).Sublist (traceMembers
      (headers.insert tracestate (newHeaderValue headers environmentId))) ↔ SingleList headers := by
  rw [traceMembers_insert, kept, HeaderMap.get_eq_head?_getAll, traceMembers]
  cases hall : headers.getAll tracestate with
  | nil => exact iff_of_true (List.Sublist.refl _) fun first later h => by rw [hall] at h; cases h
  | cons first later =>
    have hne : ∀ m ∈ otherMembers first, m ≠ [] := fun m hm =>
      of_decide_eq_true (List.mem_filter.1 (List.mem_filter.1 hm).1).2
    rw [List.head?_cons, Option.map_some, Option.getD_some, keptEntries_text, List.flatMap_cons,
      sublist_iff hne fun entry => decide_eq_true_iff, List.flatMap_eq_nil_iff]
    constructor
    · intro h first' later' h'
      rw [hall] at h'
      cases h'
      exact h
    · exact fun h => h first later hall

/-! ## The theorem -/

/-- A request names an environment, and is as it was otherwise. -/
structure KeepsTrace (uuids : UuidParser) (environmentId : Uuid) (headers headers' : HeaderMap) :
    Prop where
  environment : (extractRoutingContext uuids (headerMapToVec headers')).lapdevEnvironmentId =
    some environmentId
  members : (traceMembers headers).Sublist (traceMembers headers')
  others : (headers'.iter.filter fun h => h.1 ≠ tracestate) =
    headers.iter.filter fun h => h.1 ≠ tracestate
  again : ensureEnvironmentTracestate headers' environmentId = .ok headers'

/-- `ensure_environment_tracestate` keeps the trace exactly if the members of the lists are all in
the first `tracestate` header, and each is the bytes of a trimmed text. -/
theorem keepsTrace_iff (uuids : UuidParser) (headers : HeaderMap) (environmentId : Uuid) :
    (∀ headers', ensureEnvironmentTracestate headers environmentId = .ok headers' →
      KeepsTrace uuids environmentId headers headers') ↔ SingleList headers := by
  rw [ensureEnvironmentTracestate_eq_ok]
  constructor
  · intro h
    exact (traceMembers_sublist_iff headers environmentId).1 (h _ rfl).members
  · rintro h _ ⟨⟩
    exact ⟨lapdevEnvironmentId_insert uuids headers environmentId,
      (traceMembers_sublist_iff headers environmentId).2 h,
      HeaderMap.filter_iter_insert headers tracestate _,
      ensureEnvironmentTracestate_insert headers environmentId⟩

/-! ## Two headers -/

/-- Two `tracestate` headers, with one member each. -/
def twoHeaders : HeaderMap :=
  ⟨[(tracestate, ⟨encode "a=1".toList, List.all_eq_true.1 rfl⟩,
    [⟨encode "b=2".toList, List.all_eq_true.1 rfl⟩])], List.pairwise_singleton _ _⟩

/-- The second member is lost. -/
theorem not_keepsTrace_twoHeaders :
    ¬∀ headers', ensureEnvironmentTracestate twoHeaders 1 = .ok headers' →
      KeepsTrace UuidParser.hyphenated 1 twoHeaders headers' := by
  intro h
  have hmembers := (h _ (ensureEnvironmentTracestate_eq_ok twoHeaders 1)).members
  rw [traceMembers_sublist_iff] at hmembers
  have hnone := (hmembers _ _ rfl).1 _ List.mem_cons_self
  have hone : otherMembers ⟨encode "b=2".toList, List.all_eq_true.1 rfl⟩ =
      [encode "b=2".toList] := by
    have hmember : HeaderValue.members ⟨encode "b=2".toList, List.all_eq_true.1 rfl⟩ =
        [encode "b=2".toList] := rfl
    rw [otherMembers, hmember, List.filter_cons, fromUtf8Lossy_encode]
    rfl
  rw [hone] at hnone
  cases hnone

end Http2Proxy

end Lapdev
