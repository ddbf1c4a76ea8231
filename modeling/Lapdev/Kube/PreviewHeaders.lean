import Lapdev.Http.HeadLines
import Lapdev.Http.RequestParser
import Lapdev.Sidecar.Tracestate

/-!
# The headers of a preview request

`add_environment_id_to_headers` of `kube/src/http_proxy.rs` goes over the lines of a request's head:
it appends the environment to the `tracestate` and has connections closed that are not upgraded. The
lines of a head that no empty line stands before become those of another head (`rewriteLines_head`);
where one does, what comes out is no head at all (`rewriteLines_of_empty`).
-/

namespace Lapdev

open RustStd RustStd.Utf8 Http OtelRouting

namespace PreviewUrlProxy

/-! ## The function -/

/-- The variables of the loop. -/
structure Rewriter where
  modifiedHeaders : Str
  tracestateAdded : Bool
  connectionHeaderWritten : Bool
  isUpgradeRequest : Bool

/-- Before the loop. -/
def Rewriter.new : Rewriter := ⟨[], false, false, false⟩

/-- `push_str` of a line and its end. -/
def Rewriter.pushLine (s : Rewriter) (line : Str) : Rewriter :=
  { s with modifiedHeaders := s.modifiedHeaders ++ (line ++ ['\r', '\n']) }

/-- The new value of a `tracestate` header. -/
def extended (existingValue environmentTracestate : Str) : Str :=
  if existingValue = [] then environmentTracestate
  else existingValue ++ ',' :: environmentTracestate

/-- The line of a `tracestate` header. -/
def tracestateLine (existingValue environmentTracestate : Str) : Str :=
  "tracestate: ".toList ++ extended existingValue environmentTracestate

/-- The line that has a connection closed. -/
def connectionLine : Str := "connection: close".toList

/-- The name of the `Connection` header. -/
def connectionHeader : Str := "connection".toList

/-- The name of the `Upgrade` header. -/
def upgradeHeader : Str := "upgrade".toList

/-- `starts_with` the name of a header and its colon. -/
def startsWithName (name lower : Str) : Bool := (name ++ [':']).isPrefixOf lower

/-- A `tracestate` header, where there is none yet. -/
def Rewriter.addTracestate (environmentTracestate : Str) (s : Rewriter) : Rewriter :=
  if !s.tracestateAdded then
    { s.pushLine (tracestateLine [] environmentTracestate) with tracestateAdded := true }
  else s

/-- A `connection` header, where there is none yet. -/
def Rewriter.addConnection (s : Rewriter) : Rewriter :=
  if !s.connectionHeaderWritten && !s.isUpgradeRequest then
    { s.pushLine connectionLine with connectionHeaderWritten := true }
  else s

/-- The headers that are added behind the others where they are missing. -/
def Rewriter.addMissing (environmentTracestate : Str) (s : Rewriter) : Rewriter :=
  (s.addTracestate environmentTracestate).addConnection

/-- One round of the loop. -/
def Rewriter.rewriteLine (lowercase : Str.Lowercase) (environmentTracestate : Str) (s : Rewriter)
    (line : Str) : Rewriter :=
  let lower := lowercase.toLowercase line
  if startsWithName tracestateHeader lower then
    { s.pushLine (tracestateLine (Str.trim (line.drop 11)) environmentTracestate) with
      tracestateAdded := true }
  else if startsWithName connectionHeader lower then
    if Str.contains lower upgradeHeader then
      { s.pushLine line with connectionHeaderWritten := true, isUpgradeRequest := true }
    else { s.pushLine connectionLine with connectionHeaderWritten := true }
  else if startsWithName upgradeHeader lower then { s.pushLine line with isUpgradeRequest := true }
  else if line = [] then (s.addMissing environmentTracestate).pushLine []
  else s.pushLine line

/-- `add_environment_id_to_headers`; it fails where the headers are not UTF-8. -/
def addEnvironmentIdToHeaders (lowercase : Str.Lowercase) (requestData : List UInt8)
    (headersLen : Nat) (environmentId : Uuid) : Option (List UInt8) :=
  let headersPart := requestData.take headersLen
  let bodyPart := requestData.drop headersLen
  (fromUtf8 headersPart).map fun headersStr =>
    let environmentTracestate := environmentEntry environmentId
    let s := (Str.lines headersStr).foldl
      (Rewriter.rewriteLine lowercase environmentTracestate) .new
    encode (s.addMissing environmentTracestate).modifiedHeaders ++ bodyPart

/-! ## The names of fields -/

/-- The name of a field in lower case. -/
def lowerName (field : Field) : Str := (asciiText field.name).map Char.toLower

section
variable {field : Field} {line name : Str} {lowercase : Str.Lowercase}

/-- The lowercase of a letter is a letter. -/
theorem toLower_ne {c d : Char} (hd : d.toNat < 65) (hc : c ≠ d) : c.toLower ≠ d := by
  unfold Char.toLower
  split
  · next hupper =>
    rintro rfl
    have hA : 'A'.val.toNat = 65 := rfl
    have hZ : 'Z'.val.toNat = 90 := rfl
    have hoffset : ('a'.val - 'A'.val).toNat = 32 := rfl
    simp only [ge_iff_le, UInt32.le_iff_toNat_le] at hupper
    have hval : (c.val + ('a'.val - 'A'.val)).toNat < 65 := hd
    simp only [UInt32.toNat_add] at hval
    omega
  · exact hc

/-- Some bytes without an ASCII byte have a lowercase without its character. -/
theorem notMem_map_toLower {bytes : List UInt8} {b : UInt8} (hascii : ∀ b ∈ bytes, b < 128)
    (hb : b < 65) (h : b ∉ bytes) : asciiChar b ∉ (asciiText bytes).map Char.toLower := by
  have hlt : b < 128 := UInt8.lt_trans hb (by decide)
  intro hmem
  obtain ⟨c, hc, heq⟩ := List.mem_map.1 hmem
  obtain ⟨b', hb', rfl⟩ := List.mem_map.1 hc
  refine toLower_ne ?_ ?_ heq
  · rw [asciiChar_val hlt]
    exact UInt8.lt_iff_toNat_lt.1 hb
  · intro hchar
    have hval := congrArg Char.toNat hchar
    rw [asciiChar_val (hascii b' hb'), asciiChar_val hlt] at hval
    exact h (UInt8.toNat_inj.1 hval ▸ hb')

/-- The name of a header has no colon. -/
theorem colon_notMem_lowerName (field : Field) : ':' ∉ lowerName field :=
  notMem_map_toLower (b := 58) (fun b hb => isToken_lt (field.name_token b hb)) (by decide)
    fun hmem => absurd (field.name_token 58 hmem) (by decide)

/-- The text of a field's line. -/
theorem exists_line_eq (h : encode line = field.line) :
    ∃ u, line = asciiText field.name ++ ':' :: u ∧ encode u = field.raw := by
  obtain ⟨t, u, rfl, ht, hu⟩ := exists_encode_eq (b := 58) (by decide) h
  have hname := encode_asciiText fun b hb => isToken_lt (field.name_token b hb)
  exact ⟨u, by rw [encode_injective (ht.trans hname.symm)]; rfl, hu⟩

/-- Two texts that end with a character they do not hold before. -/
theorem prefix_concat_inj {s t l : Str} {c : Char} (hs : c ∉ s) (ht : c ∉ t)
    (hsl : s ++ [c] <+: l) : t ++ [c] <+: l ↔ s = t := by
  constructor
  · intro htl
    rcases List.prefix_or_prefix_of_prefix hsl htl with h | h
    · rcases List.prefix_concat_iff.1 h with heq | hprefix
      · exact List.append_cancel_right heq
      · exact absurd ( hprefix.subset (by simp)) ht
    · rcases List.prefix_concat_iff.1 h with heq | hprefix
      · exact (List.append_cancel_right heq).symm
      · exact absurd ( hprefix.subset (by simp)) hs
  · rintro rfl
    exact hsl

/-- A line that starts with ASCII text starts with its lowercase in lower case. -/
theorem prefix_lower {bytes : List UInt8} {c : Char} (hascii : ∀ b ∈ bytes, b < 128)
    (hc : c.toNat < 128) (hlower : c.toLower = c) (u : Str) :
    (asciiText bytes).map Char.toLower ++ [c] <+:
      lowercase.toLowercase (asciiText bytes ++ c :: u) := by
  have hstart : ∀ c' ∈ asciiText bytes ++ [c], c'.toNat < 128 := by
    intro c' hc'
    rcases List.mem_append.1 hc' with hc' | hc'
    · obtain ⟨b, hb, rfl⟩ := List.mem_map.1 hc'
      rw [asciiChar_val (hascii b hb)]
      exact UInt8.lt_iff_toNat_lt.1 (hascii b hb)
    · rw [List.mem_singleton.1 hc']
      exact hc
  have hprefix := lowercase.ascii_prefix _ u hstart
  rw [List.map_append, List.append_assoc, List.map_singleton, hlower] at hprefix
  exact hprefix

/-- A field's line starts with its name. -/
theorem startsWithName_field (h : encode line = field.line) (hname : ':' ∉ name) :
    startsWithName name (lowercase.toLowercase line) = true ↔ lowerName field = name := by
  obtain ⟨u, rfl, -⟩ := exists_line_eq h
  rw [startsWithName, List.isPrefixOf_iff_prefix]
  exact prefix_concat_inj (colon_notMem_lowerName field) hname
    (prefix_lower (fun b hb => isToken_lt (field.name_token b hb)) (by decide) rfl u)

/-- The request line starts with no name and colon. -/
theorem startsWithName_requestLine {syn : TargetSyntax} {head : Head syn}
    (h : encode line = head.requestLine) (hname : ' ' ∉ name) :
    startsWithName name (lowercase.toLowercase line) = false := by
  have hascii : ∀ b ∈ head.method, b < 128 := fun b hb => isToken_lt (head.method_token b hb)
  obtain ⟨t, u, rfl, ht, -⟩ := exists_encode_eq (b := 32) (by decide) h
  rw [encode_injective (ht.trans (encode_asciiText hascii).symm)]
  have hmethod := @prefix_lower lowercase head.method ' ' hascii (by decide) rfl u
  have hcolon : ':' ∉ (asciiText head.method).map Char.toLower :=
    notMem_map_toLower (b := 58) hascii (by decide)
      fun hmem => absurd (head.method_token 58 hmem) (by decide)
  rw [Bool.eq_false_iff]
  intro hstarts
  rw [startsWithName, List.isPrefixOf_iff_prefix] at hstarts
  rcases List.prefix_or_prefix_of_prefix hmethod hstarts with hle | hle
  · rcases List.mem_append.1 (hle.subset (List.mem_append_right _ List.mem_cons_self)) with hmem | hmem
    · exact hname hmem
    · exact absurd (List.mem_singleton.1 hmem) (by decide)
  · rcases List.mem_append.1 (hle.subset (List.mem_append_right _ List.mem_cons_self)) with hmem | hmem
    · exact hcolon hmem
    · exact absurd (List.mem_singleton.1 hmem) (by decide)

end

/-! ## The fields of the new head -/

/-- What stands in a field for the environment is visible. -/
theorem isFieldText_extended {raw : List UInt8} (hraw : ∀ b ∈ raw, isFieldText b)
    (environmentId : Uuid) :
    ∀ b ∈ encode (extended (Str.trim (fromUtf8Lossy raw)) (environmentEntry environmentId)),
      isFieldText b := by
  have hentry : ∀ b ∈ encode (environmentEntry environmentId), isFieldText b := by
    intro b hb
    obtain ⟨c, hc, hb⟩ := List.mem_flatMap.1 hb
    obtain ⟨hlow, hhigh, -⟩ := mem_environmentEntry hc
    exact Http2Proxy.isFieldText_of_visible hlow hhigh b hb
  rw [extended]
  split
  · exact hentry
  · intro b hb
    rw [encode_append, encode_cons] at hb
    rcases List.mem_append.1 hb with hb | hb
    · obtain ⟨c, hc, hb⟩ := List.mem_flatMap.1 hb
      rcases mem_of_mem_encode_fromUtf8Lossy
        (List.mem_flatMap.2 ⟨c, Str.trim_subset _ hc, hb⟩) with hb | hb
      · exact hraw b hb
      · exact Http2Proxy.isFieldText_of_le hb
    · rcases List.mem_append.1 hb with hb | hb
      · exact Http2Proxy.isFieldText_of_visible (by decide) (by decide) b hb
      · exact hentry b hb

/-- The name of a `tracestate` header. -/
def tracestateName : List UInt8 := [116, 114, 97, 99, 101, 115, 116, 97, 116, 101]

/-- The name of a `connection` header. -/
def connectionName : List UInt8 := [99, 111, 110, 110, 101, 99, 116, 105, 111, 110]

/-- The `tracestate` header in place of one with some text after its colon. -/
def tracestateField (raw : List UInt8) (hraw : ∀ b ∈ raw, isFieldText b) (environmentId : Uuid) :
    Field where
  name := tracestateName
  raw := 32 :: encode (extended (Str.trim (fromUtf8Lossy raw)) (environmentEntry environmentId))
  newline := .crlf
  name_ne_nil := by decide
  name_token := List.all_eq_true.1 rfl
  raw_text := List.forall_mem_cons.2 ⟨by decide, isFieldText_extended hraw environmentId⟩

/-- The header that has a connection closed. -/
def closeField : Field where
  name := connectionName
  raw := [32, 99, 108, 111, 115, 101]
  newline := .crlf
  name_ne_nil := by decide
  name_token := List.all_eq_true.1 rfl
  raw_text := List.all_eq_true.1 rfl

/-- The bytes of the line that closes a connection. -/
theorem encode_connectionLine : encode connectionLine = closeField.line := by
  have hascii : closeField.line.all (fun b => decide (b < 128)) = true := rfl
  exact encode_asciiText fun b hb => of_decide_eq_true (List.all_eq_true.1 hascii b hb)

/-- The line of the field speaks of an upgrade. -/
def speaksOfUpgrade (lowercase : Str.Lowercase) (field : Field) : Bool :=
  Str.contains (lowercase.toLowercase (fromUtf8Lossy field.line)) upgradeHeader

/-- A field after the loop. -/
def rewriteField (lowercase : Str.Lowercase) (environmentId : Uuid) (field : Field) : Field :=
  if lowerName field = tracestateHeader then
    tracestateField field.raw field.raw_text environmentId
  else if lowerName field = connectionHeader && !speaksOfUpgrade lowercase field then closeField
  else { field with newline := .crlf }

/-- The field has the request upgraded. -/
def isUpgrade (lowercase : Str.Lowercase) (field : Field) : Bool :=
  (lowerName field = connectionHeader && speaksOfUpgrade lowercase field) ||
    lowerName field = upgradeHeader

/-- The fields that are missing. -/
def missingFields (lowercase : Str.Lowercase) (environmentId : Uuid) (fields : List Field) :
    List Field :=
  (if fields.any fun field => lowerName field = tracestateHeader then []
    else [tracestateField [] (by simp) environmentId]) ++
  (if (fields.any fun field => lowerName field = connectionHeader) ||
      fields.any (isUpgrade lowercase) then []
    else [closeField])

/-- The head after the loop. -/
def rewritten {syn : TargetSyntax} (lowercase : Str.Lowercase) (environmentId : Uuid)
    (head : Head syn) : Head syn :=
  { head with
    empties := []
    newline := .crlf
    fields := head.fields.map (rewriteField lowercase environmentId) ++
      missingFields lowercase environmentId head.fields
    last := .crlf }

/-! ## The loop -/

section
variable {lowercase : Str.Lowercase} {environmentId : Uuid} {s : Rewriter} {field : Field} {line : Str}

/-- A line is written with its ending. -/
theorem encode_pushLine (s : Rewriter) (line : Str) :
    encode (s.pushLine line).modifiedHeaders = encode s.modifiedHeaders ++ (encode line ++ [13, 10]) := by
  rw [Rewriter.pushLine, encode_append, encode_append]
  rfl

/-- The bytes of a `tracestate` that is extended. -/
theorem encode_tracestateLine (raw : List UInt8) (hraw : ∀ b ∈ raw, isFieldText b)
    (environmentId : Uuid) :
    encode (tracestateLine (Str.trim (fromUtf8Lossy raw)) (environmentEntry environmentId)) =
      (tracestateField raw hraw environmentId).line := by
  have hascii : (tracestateName ++ [58, 32]).all (fun b => decide (b < 128)) = true := rfl
  have hname : encode "tracestate: ".toList = tracestateName ++ [58, 32] :=
    encode_asciiText fun b hb => of_decide_eq_true (List.all_eq_true.1 hascii b hb)
  calc encode (tracestateLine (Str.trim (fromUtf8Lossy raw)) (environmentEntry environmentId))
      = encode "tracestate: ".toList ++ encode (extended (Str.trim (fromUtf8Lossy raw))
          (environmentEntry environmentId)) := encode_append _ _
    _ = tracestateName ++ [58, 32] ++ encode (extended (Str.trim (fromUtf8Lossy raw))
          (environmentEntry environmentId)) := congrArg (· ++ _) hname
    _ = (tracestateField raw hraw environmentId).line := List.append_assoc ..

/-- The bytes of a `tracestate` that is added. -/
theorem encode_tracestateLine_nil (environmentId : Uuid) :
    encode (tracestateLine [] (environmentEntry environmentId)) =
      (tracestateField [] (by simp) environmentId).line := by
  have hnil : Str.trim (fromUtf8Lossy []) = [] := by
    rw [fromUtf8Lossy]
    rfl
  have hline := encode_tracestateLine [] (by simp) environmentId
  rwa [hnil] at hline

/-- A line with its ending is the header on its line. -/
theorem encode_line_crlf (h : encode line = field.line) :
    encode line ++ [13, 10] = ({ field with newline := .crlf } : Field).render := by
  rw [h, Field.render_eq]
  rfl

/-- A round for a field. -/
theorem rewriteLine_field (h : encode line = field.line) :
    let s' := s.rewriteLine lowercase (environmentEntry environmentId) line
    encode s'.modifiedHeaders =
      encode s.modifiedHeaders ++ (rewriteField lowercase environmentId field).render ∧
    s'.tracestateAdded = (s.tracestateAdded || decide (lowerName field = tracestateHeader)) ∧
    s'.connectionHeaderWritten =
      (s.connectionHeaderWritten || decide (lowerName field = connectionHeader)) ∧
    s'.isUpgradeRequest = (s.isUpgradeRequest || isUpgrade lowercase field) := by
  have htext : fromUtf8Lossy field.line = line := by rw [← h, fromUtf8Lossy_encode]
  have hnames : ∀ {name}, ':' ∉ name →
      (startsWithName name (lowercase.toLowercase line) = true ↔ lowerName field = name) :=
    startsWithName_field h
  have hne : line ≠ [] := by
    obtain ⟨u, rfl, -⟩ := exists_line_eq h
    exact List.append_ne_nil_of_right_ne_nil _ (List.cons_ne_nil _ _)
  dsimp only
  rw [Rewriter.rewriteLine, rewriteField, isUpgrade, speaksOfUpgrade, htext]
  dsimp only
  by_cases htrace : lowerName field = tracestateHeader
  · have hexisting : Str.trim (line.drop 11) = Str.trim (fromUtf8Lossy field.raw) := by
      obtain ⟨u, rfl, hu⟩ := exists_line_eq h
      have hlength : (asciiText field.name).length = 10 := by
        have := congrArg List.length htrace
        rwa [lowerName, List.length_map] at this
      rw [List.drop_append, hlength, List.drop_of_length_le (by omega), ← hu, fromUtf8Lossy_encode]
      rfl
    rw [if_pos ((hnames (by decide)).2 htrace), if_pos htrace, htrace, hexisting]
    refine ⟨?_, (Bool.or_true _).symm, (Bool.or_false _).symm, (Bool.or_false _).symm⟩
    exact (encode_pushLine _ _).trans (congrArg _ (congrArg (· ++ _) (encode_tracestateLine ..)))
  rw [if_neg (mt (hnames (by decide)).1 htrace), if_neg htrace, decide_eq_false htrace, Bool.or_false]
  have hkept : encode (s.pushLine line).modifiedHeaders =
      encode s.modifiedHeaders ++ ({ field with newline := .crlf } : Field).render := by
    rw [encode_pushLine, encode_line_crlf h]
  by_cases hconnection : lowerName field = connectionHeader
  · rw [if_pos ((hnames (by decide)).2 hconnection), hconnection]
    cases hspeaks : Str.contains (lowercase.toLowercase line) upgradeHeader with
    | true => exact ⟨hkept, rfl, (Bool.or_true _).symm, (Bool.or_true _).symm⟩
    | false =>
      refine ⟨?_, rfl, (Bool.or_true _).symm, (Bool.or_false _).symm⟩
      exact (encode_pushLine _ _).trans (congrArg _ (congrArg (· ++ _) encode_connectionLine))
  rw [if_neg (mt (hnames (by decide)).1 hconnection), decide_eq_false hconnection, Bool.or_false,
    Bool.false_and, Bool.false_and, Bool.false_or, if_neg Bool.false_ne_true]
  by_cases hupgrade : lowerName field = upgradeHeader
  · rw [if_pos ((hnames (by decide)).2 hupgrade), hupgrade]
    exact ⟨hkept, rfl, rfl, (Bool.or_true _).symm⟩
  · rw [if_neg (mt (hnames (by decide)).1 hupgrade), if_neg hne, decide_eq_false hupgrade,
      Bool.or_false]
    exact ⟨hkept, rfl, rfl, rfl⟩

/-- The rounds for some fields. -/
theorem rewriteLines_fields {lines : List Str} {fields : List Field}
    (h : lines.map encode = fields.map Field.line) :
    let s' := lines.foldl (Rewriter.rewriteLine lowercase (environmentEntry environmentId)) s
    encode s'.modifiedHeaders = encode s.modifiedHeaders ++
      (fields.map (rewriteField lowercase environmentId)).flatMap Field.render ∧
    s'.tracestateAdded =
      (s.tracestateAdded || fields.any fun field => lowerName field = tracestateHeader) ∧
    s'.connectionHeaderWritten =
      (s.connectionHeaderWritten || fields.any fun field => lowerName field = connectionHeader) ∧
    s'.isUpgradeRequest = (s.isUpgradeRequest || fields.any (isUpgrade lowercase)) := by
  induction fields generalizing lines s with
  | nil =>
    cases List.map_eq_nil_iff.1 h
    exact ⟨(List.append_nil _).symm, (Bool.or_false _).symm, (Bool.or_false _).symm,
      (Bool.or_false _).symm⟩
  | cons field fields ih =>
    obtain ⟨line, lines, rfl, hline, hlines⟩ := List.map_eq_cons_iff.1 h
    obtain ⟨hbytes, htrace, hconnection, hupgrade⟩ :=
      @rewriteLine_field lowercase environmentId s field line hline
    obtain ⟨hbytes', htrace', hconnection', hupgrade'⟩ := ih hlines
    refine ⟨hbytes'.trans ?_, htrace'.trans ?_, hconnection'.trans ?_, hupgrade'.trans ?_⟩
    · rw [hbytes, List.append_assoc]
      rfl
    · rw [htrace, Bool.or_assoc]
      rfl
    · rw [hconnection, Bool.or_assoc]
      rfl
    · rw [hupgrade, Bool.or_assoc]
      rfl

/-- A `tracestate` is added exactly if there was none. -/
theorem encode_addTracestate (s : Rewriter) :
    let s' := s.addTracestate (environmentEntry environmentId)
    encode s'.modifiedHeaders = encode s.modifiedHeaders ++
      (if s.tracestateAdded then [] else [tracestateField [] (by simp) environmentId]).flatMap
        Field.render ∧
    s'.tracestateAdded = true ∧ s'.connectionHeaderWritten = s.connectionHeaderWritten ∧
    s'.isUpgradeRequest = s.isUpgradeRequest := by
  dsimp only
  rw [Rewriter.addTracestate]
  cases hadded : s.tracestateAdded with
  | true => exact ⟨(List.append_nil _).symm, hadded, rfl, rfl⟩
  | false =>
    refine ⟨?_, rfl, rfl, rfl⟩
    refine (encode_pushLine s _).trans ?_
    rw [encode_tracestateLine_nil, if_neg Bool.false_ne_true, List.flatMap_singleton, Field.render_eq]
    rfl

/-- A `Connection` is added exactly if there was none and nothing is upgraded. -/
theorem encode_addConnection (s : Rewriter) :
    encode s.addConnection.modifiedHeaders = encode s.modifiedHeaders ++
      (if s.connectionHeaderWritten || s.isUpgradeRequest then [] else [closeField]).flatMap
        Field.render ∧
    s.addConnection.tracestateAdded = s.tracestateAdded ∧
    (s.addConnection.connectionHeaderWritten || s.addConnection.isUpgradeRequest) = true := by
  rw [Rewriter.addConnection, ← Bool.not_or]
  cases hmore : s.connectionHeaderWritten || s.isUpgradeRequest with
  | true => exact ⟨(List.append_nil _).symm, rfl, hmore⟩
  | false =>
    refine ⟨(encode_pushLine s _).trans ?_, rfl, rfl⟩
    rw [encode_connectionLine, if_neg Bool.false_ne_true, List.flatMap_singleton, Field.render_eq]
    rfl

/-- What is missing is added, once. -/
theorem encode_addMissing {fields : List Field}
    (htrace : s.tracestateAdded = fields.any fun field => lowerName field = tracestateHeader)
    (hconnection : s.connectionHeaderWritten =
      fields.any fun field => lowerName field = connectionHeader)
    (hupgrade : s.isUpgradeRequest = fields.any (isUpgrade lowercase)) :
    let s' := s.addMissing (environmentEntry environmentId)
    encode s'.modifiedHeaders = encode s.modifiedHeaders ++
      (missingFields lowercase environmentId fields).flatMap Field.render ∧
    ∀ line, (s'.pushLine line).addMissing (environmentEntry environmentId) = s'.pushLine line := by
  obtain ⟨hbytes, hadded, hsame, hsame'⟩ := @encode_addTracestate environmentId s
  obtain ⟨hbytes', hadded', hwritten⟩ :=
    encode_addConnection (s.addTracestate (environmentEntry environmentId))
  refine ⟨?_, fun line => ?_⟩
  · rw [missingFields, ← htrace, ← hconnection, ← hupgrade, List.flatMap_append, ← List.append_assoc,
      ← hbytes, ← hsame, ← hsame']
    exact hbytes'
  · have hdone : ∀ s : Rewriter, s.tracestateAdded = true →
        s.addTracestate (environmentEntry environmentId) = s := by
      intro s htrace
      rw [Rewriter.addTracestate, htrace]
      rfl
    have hdone' : ∀ s : Rewriter, (s.connectionHeaderWritten || s.isUpgradeRequest) = true →
        s.addConnection = s := by
      intro s hmore
      rw [Rewriter.addConnection, ← Bool.not_or, hmore]
      rfl
    have hagain := hdone ((s.addMissing (environmentEntry environmentId)).pushLine line)
      (hadded'.trans hadded)
    rw [Rewriter.addMissing, hagain]
    exact hdone' _ hwritten

/-- The first line is left. -/
theorem rewriteLine_requestLine {syn : TargetSyntax} {head : Head syn}
    (h : encode line = head.requestLine) :
    s.rewriteLine lowercase (environmentEntry environmentId) line = s.pushLine line := by
  have hne : line ≠ [] := by
    rintro rfl
    obtain ⟨b, method, hmethod⟩ := List.exists_cons_of_ne_nil head.method_ne_nil
    rw [Head.requestLine, hmethod] at h
    cases h
  rw [Rewriter.rewriteLine]
  dsimp only
  rw [startsWithName_requestLine h (by decide), startsWithName_requestLine h (by decide),
    startsWithName_requestLine h (by decide), if_neg hne]
  rfl

/-- The round for an empty line. -/
theorem rewriteLine_nil (hnil : lowercase.toLowercase [] = []) :
    s.rewriteLine lowercase (environmentEntry environmentId) [] =
      (s.addMissing (environmentEntry environmentId)).pushLine [] := by
  rw [Rewriter.rewriteLine]
  dsimp only
  rw [hnil]
  rfl

/-- The loop over the lines of a head. -/
theorem rewriteLines_head {syn : TargetSyntax} {head : Head syn} {text : Str}
    (hnil : lowercase.toLowercase [] = []) (hempties : head.empties = [])
    (htext : encode text = head.render) :
    let s' := (Str.lines text).foldl
      (Rewriter.rewriteLine lowercase (environmentEntry environmentId)) .new
    encode (s'.addMissing (environmentEntry environmentId)).modifiedHeaders =
      (rewritten lowercase environmentId head).render := by
  have hrender : encode text = renderLines head.lines := by
    rw [htext, head.render_eq_lines, hempties]
    rfl
  have hlines := map_encode_lines head.isLine_of_mem_lines hrender
  rw [Head.lines, List.map_cons, List.map_append, List.map_map] at hlines
  obtain ⟨line, lines, hsplit, hline, hlines⟩ := List.map_eq_cons_iff.1 hlines
  obtain ⟨fieldLines, lastLines, rfl, hfields, hlast⟩ := List.map_eq_append_iff.1 hlines
  obtain ⟨lastLine, _, rfl, hlastLine, hnone⟩ := List.map_eq_cons_iff.1 hlast
  cases List.map_eq_nil_iff.1 hnone
  have hempty : lastLine = [] := encode_injective hlastLine
  obtain ⟨hbytes, htrace, hconnection, hupgrade⟩ :=
    @rewriteLines_fields lowercase environmentId (Rewriter.new.pushLine line) fieldLines head.fields
      hfields
  obtain ⟨hbytes', hdone⟩ :=
    @encode_addMissing lowercase environmentId _ head.fields htrace hconnection hupgrade
  dsimp only
  rw [hsplit, List.foldl_cons, List.foldl_append, List.foldl_cons, List.foldl_nil, hempty,
    rewriteLine_requestLine hline, rewriteLine_nil hnil, hdone [], encode_pushLine, hbytes',
    hbytes, encode_pushLine, hline]
  simp [rewritten, Head.render, Head.requestLine, Rewriter.new, Newline.bytes]

/-! ## Heads with an empty line in front -/

/-- A line is written behind the others. -/
theorem prefix_pushLine (s : Rewriter) (line : Str) :
    s.modifiedHeaders <+: (s.pushLine line).modifiedHeaders := List.prefix_append _ _

/-- So is a `tracestate` that is added. -/
theorem prefix_addTracestate (s : Rewriter) (entry : Str) :
    s.modifiedHeaders <+: (s.addTracestate entry).modifiedHeaders := by
  rw [Rewriter.addTracestate]
  split
  · exact prefix_pushLine _ _
  · exact List.prefix_refl _

/-- So is a `Connection` that is added. -/
theorem prefix_addConnection (s : Rewriter) :
    s.modifiedHeaders <+: s.addConnection.modifiedHeaders := by
  rw [Rewriter.addConnection]
  split
  · exact prefix_pushLine _ _
  · exact List.prefix_refl _

/-- So are the headers that are missing. -/
theorem prefix_addMissing (s : Rewriter) (entry : Str) :
    s.modifiedHeaders <+: (s.addMissing entry).modifiedHeaders :=
  (prefix_addTracestate s entry).trans (prefix_addConnection _)

/-- A round takes nothing back. -/
theorem prefix_rewriteLine (entry : Str) (s : Rewriter) (line : Str) :
    s.modifiedHeaders <+: (s.rewriteLine lowercase entry line).modifiedHeaders := by
  rw [Rewriter.rewriteLine]
  dsimp only
  repeat' split
  all_goals first
    | exact prefix_pushLine _ _
    | exact (prefix_addMissing _ _).trans (prefix_pushLine _ _)

/-- So are the rewritten lines. -/
theorem prefix_rewriteLines (entry : Str) (s : Rewriter) (lines : List Str) :
    s.modifiedHeaders <+: (lines.foldl (Rewriter.rewriteLine lowercase entry) s).modifiedHeaders := by
  induction lines generalizing s with
  | nil => exact List.prefix_refl _
  | cons line lines ih => exact (prefix_rewriteLine entry s line).trans (ih _)

/-- Of a head with an empty line in front the new headers start with a `tracestate`. -/
theorem rewriteLines_of_empty {syn : TargetSyntax} {head : Head syn} {text : Str}
    (hnil : lowercase.toLowercase [] = []) (hempties : head.empties ≠ [])
    (htext : encode text = head.render) :
    let s' := (Str.lines text).foldl
      (Rewriter.rewriteLine lowercase (environmentEntry environmentId)) .new
    ∃ more, encode (s'.addMissing (environmentEntry environmentId)).modifiedHeaders =
      tracestateName ++ 58 :: more := by
  obtain ⟨newline, empties, hcons⟩ := List.exists_cons_of_ne_nil hempties
  rw [Head.render, hcons, List.flatMap_cons, List.append_assoc] at htext
  obtain ⟨t, u, ht, -, hsplit⟩ :=
    @exists_line text [] _ newline ⟨List.not_mem_nil, List.not_mem_nil⟩ htext
  have hempty : t = [] := encode_injective ht
  have hnew : tracestateLine [] (environmentEntry environmentId) <+:
      ((Rewriter.new.addMissing (environmentEntry environmentId)).pushLine []).modifiedHeaders :=
    (List.prefix_append _ ['\r', '\n']).trans
      ((prefix_addConnection (Rewriter.new.addTracestate (environmentEntry environmentId))).trans
        (prefix_pushLine _ _))
  have hlines := (hnew.trans (@prefix_rewriteLines lowercase (environmentEntry environmentId) _
    (Str.lines u))).trans (prefix_addMissing _ (environmentEntry environmentId))
  obtain ⟨more, hmore⟩ := encode_prefix_iff.2 hlines
  rw [encode_tracestateLine_nil] at hmore
  refine ⟨(tracestateField [] (by simp) environmentId).raw ++ more, ?_⟩
  rw [hsplit, List.foldl_cons, hempty, rewriteLine_nil hnil, ← hmore]
  exact List.append_assoc ..

end

end PreviewUrlProxy

end Lapdev
