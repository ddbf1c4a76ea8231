import Lapdev.Kube.PreviewHeaders

/-!
# Rewritten preview requests

What is read of a request whose headers `add_environment_id_to_headers` of `kube/src/http_proxy.rs`
has rewritten: the same method, path and version, the same other headers, and the same bytes behind
(`rewriting_iff`). The environment is appended behind what the client wrote, and the sidecar takes
the first that it finds (`environment_of_rewriting`).
-/

namespace Lapdev

open RustStd RustStd.Utf8 Http OtelRouting

namespace PreviewUrlProxy

/-! ## What is read of the new request -/

/-- A header of a name. -/
def isNamed (name : Str) (header : Str × List UInt8) : Bool := Str.eqIgnoreAsciiCase header.1 name

/-- The values of a name. -/
def valuesOf (name : Str) (request : Request) : List (List UInt8) :=
  (request.headers.filter (isNamed name)).map Prod.snd

/-- The number of headers that are added. -/
def missingHeaders (request : Request) : Nat :=
  (if request.headers.any (isNamed tracestateHeader) then 0 else 1) +
    if request.headers.any (isNamed connectionHeader) || request.headers.any (isNamed upgradeHeader) then 0
    else 1

/-- The new value of a `tracestate` header. -/
def extendedValue (environmentId : Uuid) (value : List UInt8) : List UInt8 :=
  encode (extended (Str.trim (fromUtf8Lossy value)) (environmentEntry environmentId))

/-- The value that has a connection closed. -/
def closeValue : List UInt8 := [99, 108, 111, 115, 101]

/-- What a request is rewritten to: nothing but the `tracestate` and `connection` headers changes,
every `tracestate` has the environment appended, and there is one; a connection is closed, unless its
header or another speaks of an upgrade. -/
structure Rewrites (lowercase : Str.Lowercase) (environmentId : Uuid) (request request' : Request) :
    Prop where
  method : request'.method = request.method
  path : request'.path = request.path
  version : request'.version = request.version
  others : (request'.headers.filter fun h =>
      !isNamed tracestateHeader h && !isNamed connectionHeader h) =
    request.headers.filter fun h => !isNamed tracestateHeader h && !isNamed connectionHeader h
  tracestate : valuesOf tracestateHeader request' =
    if valuesOf tracestateHeader request = [] then [encode (environmentEntry environmentId)]
    else (valuesOf tracestateHeader request).map (extendedValue environmentId)
  connection : ∀ h ∈ request'.headers, isNamed connectionHeader h = true →
    h.2 = closeValue ∨ h ∈ request.headers ∧ ∃ raw, trimBlanks raw = h.2 ∧
      Str.contains (lowercase.toLowercase (h.1 ++ ':' :: fromUtf8Lossy raw)) upgradeHeader = true
  closed : (∃ h ∈ request'.headers, isNamed connectionHeader h = true) ∨
    ∃ h ∈ request.headers, isNamed upgradeHeader h = true

section
variable {lowercase : Str.Lowercase} {environmentId : Uuid} {field : Field} {name : Str}

/-- What is read of a field. -/
def header (field : Field) : Str × List UInt8 := (asciiText field.name, field.value)

/-- A header has a name exactly if its field has it in lower case. -/
theorem isNamed_header (hname : name.map Char.toLower = name) :
    isNamed name (header field) = decide (lowerName field = name) := by
  rw [isNamed, Str.eqIgnoreAsciiCase, hname]
  rfl

/-- Two trimmed texts have no whitespace around them. -/
theorem trim_append_cons {s t : Str} {c : Char} (hs : Str.trim s = s) (hsne : s ≠ [])
    (ht : Str.trim t = t) (htne : t ≠ []) : Str.trim (s ++ c :: t) = s ++ c :: t := by
  have hdrop : (s ++ c :: t).dropWhile Str.isWhitespace = s ++ c :: t := by
    obtain ⟨c', tail, rfl⟩ := List.exists_cons_of_ne_nil hsne
    have hhead : Str.isWhitespace c' = false := Str.head_trim (by rw [hs]; rfl)
    rw [List.cons_append, List.dropWhile_cons, hhead, if_neg Bool.false_ne_true]
  have hlast : t.rdropWhile Str.isWhitespace = t := by
    rw [← ht]
    exact List.rdropWhile_idempotent _ _
  rw [Str.trim, hdrop, List.rdropWhile_eq_self_iff]
  intro hne
  have hgetLast : (s ++ c :: t).getLast hne = t.getLast htne := by
    rw [List.getLast_append_of_ne_nil _ (List.cons_ne_nil c t), List.getLast_cons htne]
  rw [hgetLast]
  exact List.rdropWhile_eq_self_iff.1 hlast htne

/-- An extended value is trimmed already. -/
theorem trim_extended (t : Str) (environmentId : Uuid) :
    Str.trim (extended (Str.trim t) (environmentEntry environmentId)) =
      extended (Str.trim t) (environmentEntry environmentId) := by
  rw [extended]
  split
  · exact trim_environmentEntry environmentId
  · next hne =>
    refine trim_append_cons (Str.trim_trim t) hne (trim_environmentEntry environmentId) ?_
    exact List.append_ne_nil_of_right_ne_nil _ (List.cons_ne_nil _ _)

/-- The value of an extended `tracestate`. -/
theorem value_tracestateField (raw : List UInt8) (hraw : ∀ b ∈ raw, isFieldText b) :
    (tracestateField raw hraw environmentId).value = extendedValue environmentId (trimBlanks raw) := by
  rw [extendedValue, trim_fromUtf8Lossy_trimBlanks]
  exact trimBlanks_encode (trim_extended _ environmentId)

/-- The value that closes a connection. -/
theorem value_closeField : closeField.value = closeValue := rfl

/-- An extended `tracestate` is a `tracestate`, and no `Connection`. -/
theorem header_tracestateField (raw : List UInt8) (hraw : ∀ b ∈ raw, isFieldText b) :
    isNamed tracestateHeader (header (tracestateField raw hraw environmentId)) = true ∧
      isNamed connectionHeader (header (tracestateField raw hraw environmentId)) = false :=
  ⟨rfl, rfl⟩

/-- The header that closes a connection is a `Connection`, and no `tracestate`. -/
theorem header_closeField : isNamed tracestateHeader (header closeField) = false ∧
    isNamed connectionHeader (header closeField) = true := ⟨rfl, rfl⟩

/-- What becomes of a field. -/
theorem rewriteField_cases (lowercase : Str.Lowercase) (environmentId : Uuid) (field : Field) :
    (lowerName field = tracestateHeader ∧
      rewriteField lowercase environmentId field = tracestateField field.raw field.raw_text environmentId) ∨
    (lowerName field = connectionHeader ∧
      rewriteField lowercase environmentId field = closeField) ∨
    lowerName field ≠ tracestateHeader ∧
      (lowerName field = connectionHeader → speaksOfUpgrade lowercase field = true) ∧
      header (rewriteField lowercase environmentId field) = header field := by
  rw [rewriteField]
  split
  · next htrace => exact .inl ⟨htrace, rfl⟩
  · next htrace =>
    split
    · next hclose =>
      rw [Bool.and_eq_true, decide_eq_true_eq] at hclose
      exact .inr (.inl ⟨hclose.1, rfl⟩)
    · next hkept =>
      refine .inr (.inr ⟨htrace, fun hconnection => ?_, rfl⟩)
      rw [decide_eq_true hconnection, Bool.true_and, Bool.not_eq_true, Bool.not_eq_false'] at hkept
      exact hkept

/-- A rewritten header has its old name. -/
theorem lowerName_rewriteField (lowercase : Str.Lowercase) (environmentId : Uuid) (field : Field) :
    lowerName (rewriteField lowercase environmentId field) = lowerName field := by
  rcases rewriteField_cases lowercase environmentId field with ⟨hname, heq⟩ | ⟨hname, heq⟩ | ⟨-, -, heq⟩
  · rw [heq, hname]
    rfl
  · rw [heq, hname]
    rfl
  · rw [lowerName, lowerName]
    exact congrArg (List.map Char.toLower) (congrArg Prod.fst heq)

/-- Or any name that it had. -/
theorem isNamed_rewriteField (hname : name.map Char.toLower = name) (field : Field) :
    isNamed name (header (rewriteField lowercase environmentId field)) = isNamed name (header field) := by
  rw [isNamed_header hname, isNamed_header hname, lowerName_rewriteField]

/-- The headers of a name among the rewritten ones. -/
theorem filter_rewriteField {p : Str × List UInt8 → Bool} (fields : List Field)
    (hp : ∀ field, p (header (rewriteField lowercase environmentId field)) = p (header field)) :
    ((fields.map (rewriteField lowercase environmentId)).map header).filter p =
      (fields.filter fun field => p (header field)).map
        fun field => header (rewriteField lowercase environmentId field) := by
  rw [List.map_map, List.filter_map]
  refine congrArg _ (List.filter_congr fun field _ => ?_)
  exact hp field

/-- The text of a line is its name, a colon and its value. -/
theorem fromUtf8Lossy_line (field : Field) :
    fromUtf8Lossy field.line = asciiText field.name ++ ':' :: fromUtf8Lossy field.raw := by
  have hascii : ∀ b ∈ field.name ++ [58], b < 128 := by
    intro b hb
    rcases List.mem_append.1 hb with hb | hb
    · exact isToken_lt (field.name_token b hb)
    · rw [List.mem_singleton.1 hb]
      decide
  have hline : field.line = (field.name ++ [58]) ++ field.raw := by
    rw [Field.line, List.append_assoc]
    rfl
  rw [hline, fromUtf8Lossy_asciiText_append hascii, asciiText, List.map_append, List.append_assoc]
  rfl

/-- The values of a name are those of the fields with it. -/
theorem valuesOf_eq (fields : List Field) {request : Request}
    (hrequest : request.headers = fields.map header) (hname : name.map Char.toLower = name) :
    valuesOf name request =
      (fields.filter fun field => lowerName field = name).map Field.value := by
  rw [valuesOf, hrequest, List.filter_map, List.map_map]
  congr 1
  refine List.filter_congr fun field _ => ?_
  exact isNamed_header hname

/-- The missing fields. -/
theorem mem_missingFields {fields : List Field}
    (h : field ∈ missingFields lowercase environmentId fields) :
    field = tracestateField [] (by simp) environmentId ∨ field = closeField := by
  rw [missingFields] at h
  rcases List.mem_append.1 h with h | h
  · split at h
    · cases h
    · exact .inl (List.mem_singleton.1 h)
  · split at h
    · cases h
    · exact .inr (List.mem_singleton.1 h)

end

section
variable {syn : TargetSyntax} (lowercase : Str.Lowercase) (environmentId : Uuid) (head : Head syn)

/-- The headers of a rewritten head are the rewritten ones and those that were missing. -/
theorem headers_rewritten : (rewritten lowercase environmentId head).request.headers =
    (head.fields.map (rewriteField lowercase environmentId)).map header ++
      (missingFields lowercase environmentId head.fields).map header := List.map_append

/-- The other headers are not changed. -/
theorem others_rewritten :
    ((rewritten lowercase environmentId head).request.headers.filter fun h =>
      !isNamed tracestateHeader h && !isNamed connectionHeader h) =
    head.request.headers.filter fun h =>
      !isNamed tracestateHeader h && !isNamed connectionHeader h := by
  have hmissing : ((missingFields lowercase environmentId head.fields).map header).filter (fun h =>
      !isNamed tracestateHeader h && !isNamed connectionHeader h) = [] := by
    rw [List.filter_eq_nil_iff]
    intro h hh
    obtain ⟨field, hfield, rfl⟩ := List.mem_map.1 hh
    rcases mem_missingFields hfield with rfl | rfl
    · rw [(header_tracestateField [] (by simp)).1]
      exact Bool.false_ne_true
    · rw [header_closeField.2, Bool.not_true, Bool.and_false]
      exact Bool.false_ne_true
  rw [headers_rewritten, List.filter_append, hmissing, List.append_nil, filter_rewriteField]
  · change _ = (head.fields.map header).filter _
    rw [List.filter_map]
    refine List.map_congr_left fun field hfield => ?_
    obtain ⟨-, hother⟩ := List.mem_filter.1 hfield
    rw [isNamed_header rfl, isNamed_header rfl, Bool.and_eq_true, Bool.not_eq_true',
      Bool.not_eq_true', decide_eq_false_iff_not, decide_eq_false_iff_not] at hother
    rcases rewriteField_cases lowercase environmentId field with ⟨hname, -⟩ | ⟨hname, -⟩ | ⟨-, -, heq⟩
    · exact absurd hname hother.1
    · exact absurd hname hother.2
    · exact heq
  · intro field
    rw [isNamed_rewriteField rfl, isNamed_rewriteField rfl]

/-- Every `tracestate` has the environment appended, and there is one. -/
theorem tracestate_rewritten :
    valuesOf tracestateHeader (rewritten lowercase environmentId head).request =
      if valuesOf tracestateHeader head.request = [] then [encode (environmentEntry environmentId)]
      else (valuesOf tracestateHeader head.request).map (extendedValue environmentId) := by
  have hkept : ((head.fields.map (rewriteField lowercase environmentId)).filter fun field =>
      lowerName field = tracestateHeader).map Field.value =
      (valuesOf tracestateHeader head.request).map (extendedValue environmentId) := by
    have hsame : ((fun field => decide (lowerName field = tracestateHeader)) ∘
        rewriteField lowercase environmentId) = fun field => decide (lowerName field = tracestateHeader) :=
      funext fun field => by rw [Function.comp_apply, lowerName_rewriteField]
    rw [valuesOf_eq head.fields rfl rfl, List.filter_map, hsame, List.map_map, List.map_map]
    refine List.map_congr_left fun field hfield => ?_
    have hname := of_decide_eq_true (List.mem_filter.1 hfield).2
    rw [Function.comp_apply, rewriteField, if_pos hname, value_tracestateField]
    rfl
  have hempty : valuesOf tracestateHeader head.request = [] ↔
      (head.fields.any fun field => lowerName field = tracestateHeader) = false := by
    rw [valuesOf_eq head.fields rfl rfl, List.map_eq_nil_iff, List.filter_eq_nil_iff, List.any_eq_false]
  have hmissing : ((missingFields lowercase environmentId head.fields).filter fun field =>
      lowerName field = tracestateHeader).map Field.value =
      if valuesOf tracestateHeader head.request = [] then [encode (environmentEntry environmentId)]
      else [] := by
    have hclose : ∀ b : Bool, ((if b then [] else [closeField]).filter fun field =>
        lowerName field = tracestateHeader) = [] := by
      intro b
      cases b <;> rfl
    rw [missingFields, List.filter_append, hclose, List.append_nil]
    cases hany : head.fields.any fun field => lowerName field = tracestateHeader with
    | true =>
      rw [if_pos rfl, if_neg fun hnil => ?_]
      · rfl
      · cases hany.symm.trans (hempty.1 hnil)
    | false =>
      rw [if_neg Bool.false_ne_true, if_pos (hempty.2 hany)]
      change [(tracestateField [] (by simp) environmentId).value] = _
      rw [value_tracestateField, extendedValue, extended, if_pos]
      have hnil : Str.trim (fromUtf8Lossy []) = [] := by
        rw [fromUtf8Lossy]
        rfl
      exact hnil
  rw [valuesOf_eq (rewritten lowercase environmentId head).fields rfl rfl, rewritten, List.filter_append,
    List.map_append, hkept, hmissing]
  split
  · next hnil => rw [hnil]; rfl
  · rw [List.append_nil]

/-- A connection is closed, or its header speaks of an upgrade. -/
theorem connection_rewritten : ∀ h ∈ (rewritten lowercase environmentId head).request.headers,
    isNamed connectionHeader h = true →
    h.2 = closeValue ∨ h ∈ head.request.headers ∧ ∃ raw, trimBlanks raw = h.2 ∧
      Str.contains (lowercase.toLowercase (h.1 ++ ':' :: fromUtf8Lossy raw)) upgradeHeader = true := by
  intro h hh hconnection
  rw [headers_rewritten] at hh
  rcases List.mem_append.1 hh with hh | hh
  · obtain ⟨_, hmem, rfl⟩ := List.mem_map.1 hh
    obtain ⟨field, hfield, rfl⟩ := List.mem_map.1 hmem
    rw [isNamed_rewriteField rfl, isNamed_header rfl, decide_eq_true_eq] at hconnection
    rcases rewriteField_cases lowercase environmentId field with
      ⟨hname, -⟩ | ⟨-, heq⟩ | ⟨-, hspeaks, heq⟩
    · rw [hname] at hconnection
      exact absurd hconnection (by decide)
    · rw [heq]
      exact .inl value_closeField
    · rw [heq]
      refine .inr ⟨List.mem_map_of_mem hfield, field.raw, rfl, ?_⟩
      have hline := hspeaks hconnection
      rw [speaksOfUpgrade, fromUtf8Lossy_line] at hline
      exact hline
  · obtain ⟨field, hfield, rfl⟩ := List.mem_map.1 hh
    rcases mem_missingFields hfield with rfl | rfl
    · rw [(header_tracestateField [] (by simp)).2] at hconnection
      cases hconnection
    · exact .inl value_closeField

/-- There is a `connection` header, unless there is an `upgrade` header. -/
theorem closed_rewritten :
    (∃ h ∈ (rewritten lowercase environmentId head).request.headers,
      isNamed connectionHeader h = true) ∨
    ∃ h ∈ head.request.headers, isNamed upgradeHeader h = true := by
  have hkept : ∀ field ∈ head.fields, lowerName field = connectionHeader →
      ∃ h ∈ (rewritten lowercase environmentId head).request.headers,
        isNamed connectionHeader h = true := by
    intro field hfield hname
    refine ⟨header (rewriteField lowercase environmentId field), ?_, ?_⟩
    · rw [headers_rewritten]
      exact List.mem_append_left _ (List.mem_map_of_mem (List.mem_map_of_mem hfield))
    · rw [isNamed_rewriteField rfl, isNamed_header rfl]
      exact decide_eq_true hname
  cases hany : (head.fields.any fun field => lowerName field = connectionHeader) ||
    head.fields.any (isUpgrade lowercase) with
  | false =>
    refine .inl ⟨header closeField, ?_, header_closeField.2⟩
    rw [headers_rewritten, missingFields, hany]
    exact List.mem_append_right _ (List.mem_map_of_mem (List.mem_append_right _ List.mem_cons_self))
  | true =>
    rcases Bool.or_eq_true_iff.1 hany with hany | hany
    · obtain ⟨field, hfield, hname⟩ := List.any_eq_true.1 hany
      exact .inl (hkept field hfield (of_decide_eq_true hname))
    · obtain ⟨field, hfield, hupgrade⟩ := List.any_eq_true.1 hany
      rw [isUpgrade, Bool.or_eq_true, Bool.and_eq_true, decide_eq_true_eq, decide_eq_true_eq]
        at hupgrade
      rcases hupgrade with ⟨hname, -⟩ | hname
      · exact .inl (hkept field hfield hname)
      · refine .inr ⟨header field, List.mem_map_of_mem hfield, ?_⟩
        rw [isNamed_header rfl]
        exact decide_eq_true hname

/-- As many headers are added as are missing. -/
theorem length_missingFields :
    (missingFields lowercase environmentId head.fields).length = missingHeaders head.request := by
  have hany : ∀ {name : Str}, name.map Char.toLower = name →
      head.request.headers.any (isNamed name) = head.fields.any fun field => lowerName field = name := by
    intro name hname
    change (head.fields.map header).any _ = _
    rw [List.any_map]
    exact congrArg head.fields.any (funext fun field => isNamed_header hname)
  have hupgrade : ((head.fields.any fun field => lowerName field = connectionHeader) ||
      head.fields.any (isUpgrade lowercase)) =
      ((head.fields.any fun field => lowerName field = connectionHeader) ||
        head.fields.any fun field => lowerName field = upgradeHeader) := by
    cases hconnection : head.fields.any fun field => lowerName field = connectionHeader with
    | true => rfl
    | false =>
      rw [Bool.false_or, Bool.false_or, Bool.eq_iff_iff, List.any_eq_true, List.any_eq_true]
      refine exists_congr fun field => and_congr_right fun hfield => ?_
      have hnot := List.any_eq_false.1 hconnection field hfield
      rw [isUpgrade, Bool.eq_false_iff.2 hnot, Bool.false_and, Bool.false_or]
  rw [missingFields, missingHeaders, hany rfl, hany rfl, hany rfl, hupgrade, List.length_append]
  congr 1
  · split <;> rfl
  · split <;> rfl

/-- The rewritten head is what the request is to be rewritten to. -/
theorem rewrites_rewritten :
    Rewrites lowercase environmentId head.request (rewritten lowercase environmentId head).request where
  method := rfl
  path := rfl
  version := rfl
  others := others_rewritten lowercase environmentId head
  tracestate := tracestate_rewritten lowercase environmentId head
  connection := connection_rewritten lowercase environmentId head
  closed := closed_rewritten lowercase environmentId head

end

section
variable {lowercase : Str.Lowercase} {environmentId : Uuid} {buffer output : List UInt8}
  {request : Request} {headersLen : Nat}

/-- A head that is text, and that no empty line stands before, becomes the rewritten one. -/
theorem addEnvironmentIdToHeaders_head {syn : TargetSyntax} {head : Head syn} {text : Str}
    (hnil : lowercase.toLowercase [] = []) (hempties : head.empties = [])
    (htext : encode text = head.render) (rest : List UInt8) (environmentId : Uuid) :
    addEnvironmentIdToHeaders lowercase (head.render ++ rest) head.render.length environmentId =
      some ((rewritten lowercase environmentId head).render ++ rest) := by
  rw [addEnvironmentIdToHeaders]
  dsimp only
  rw [List.take_left, List.drop_left, fromUtf8_eq_some.2 htext, Option.map_some,
    rewriteLines_head hnil hempties htext]

/-- **Rewriting.** The new request is read exactly if no empty line stands before the old one and
there is room for the headers that are added. Then it is the old one but for its `tracestate` and
`connection` headers, and the same bytes follow. -/
theorem rewriting_iff (httparse : HeadParser) (hnil : lowercase.toLowercase [] = [])
    (h : httparse.parse HttpParser.maxHeaders buffer = .ok (some (request, headersLen)))
    (hout : addEnvironmentIdToHeaders lowercase buffer headersLen environmentId = some output) :
    ((∃ result, httparse.parse HttpParser.maxHeaders output = .ok (some result)) ↔
      takeNewline buffer = none ∧
        request.headers.length + missingHeaders request ≤ HttpParser.maxHeaders) ∧
    ∀ request' headersLen', httparse.parse HttpParser.maxHeaders output =
        .ok (some (request', headersLen')) →
      Rewrites lowercase environmentId request request' ∧
        output.drop headersLen' = buffer.drop headersLen := by
  obtain ⟨head, rest, rfl⟩ := httparse.exists_head h
  rw [httparse.parse_render] at h
  split at h
  · next hlength =>
    obtain ⟨rfl, rfl⟩ := Prod.mk.inj (Option.some.inj (Except.ok.inj h))
    rw [addEnvironmentIdToHeaders] at hout
    dsimp only at hout
    rw [List.take_left, List.drop_left] at hout
    obtain ⟨text, htext, rfl⟩ := Option.map_eq_some_iff.1 hout
    rw [fromUtf8_eq_some] at htext
    rw [Head.takeNewline_render, List.drop_left]
    by_cases hempties : head.empties = []
    · have hroom : (rewritten lowercase environmentId head).fields.length =
          head.request.headers.length + missingHeaders head.request := by
        rw [← length_missingFields lowercase environmentId]
        change (head.fields.map _ ++ _).length = (head.fields.map header).length + _
        rw [List.length_append, List.length_map, List.length_map]
      rw [rewriteLines_head hnil hempties htext, httparse.parse_render, hroom]
      split
      · next hfits =>
        refine ⟨iff_of_true ⟨_, rfl⟩ ⟨hempties, hfits⟩, fun request' headersLen' h' => ?_⟩
        obtain ⟨rfl, rfl⟩ := Prod.mk.inj (Option.some.inj (Except.ok.inj h'))
        exact ⟨rewrites_rewritten lowercase environmentId head, List.drop_left⟩
      · next hfull =>
        refine ⟨iff_of_false ?_ fun hboth => hfull hboth.2, fun _ _ h' => ?_⟩
        · rintro ⟨_, ⟨⟩⟩
        · cases h'
    · obtain ⟨more, hmore⟩ := @rewriteLines_of_empty lowercase environmentId _ head text hnil hempties htext
      have hnone : ∀ {result}, httparse.parse HttpParser.maxHeaders
          (tracestateName ++ 58 :: more ++ rest) ≠ .ok (some result) := by
        intro result hresult
        obtain ⟨head', rest', heq⟩ := httparse.exists_head hresult
        rw [List.append_assoc, List.cons_append] at heq
        exact Head.render_append_ne (tracestateField [] (by simp) environmentId).name_token head' rest' _
          heq.symm
      rw [hmore]
      refine ⟨iff_of_false ?_ fun hboth => hempties hboth.1, fun _ _ h' => absurd h' hnone⟩
      rintro ⟨result, hresult⟩
      exact hnone hresult
  · cases h

/-! ## The environment that the sidecar reads -/

/-- An entry is read as it is trimmed. -/
theorem environmentOfEntry_trim (uuids : UuidParser) (entry : Str) :
    environmentOfEntry uuids (Str.trim entry) = environmentOfEntry uuids entry := by
  rw [environmentOfEntry, environmentOfEntry, Str.trim_trim]

/-- The entries of a list are found as they are trimmed. -/
theorem findSome?_trim (uuids : UuidParser) (s : Str) :
    (Str.split ',' (Str.trim s)).findSome? (environmentOfEntry uuids) =
      (Str.split ',' s).findSome? (environmentOfEntry uuids) := by
  have htrim : ∀ pieces : List Str, pieces.findSome? (environmentOfEntry uuids) =
      (pieces.map Str.trim).findSome? (environmentOfEntry uuids) := by
    intro pieces
    rw [List.findSome?_map]
    exact congrArg (List.findSome? · pieces) (funext fun entry => (environmentOfEntry_trim uuids entry).symm)
  rw [htrim, Str.map_trim_split (by decide), ← htrim]

/-- An appended entry is read only where no other names an environment. -/
theorem extractLapdevEnvironmentId_extended (uuids : UuidParser) (s : Str) (environmentId : Uuid) :
    extractLapdevEnvironmentId uuids (some (extended (Str.trim s) (environmentEntry environmentId))) =
      some ((extractLapdevEnvironmentId uuids (some s)).getD environmentId) := by
  have hentry : (Str.split ',' (environmentEntry environmentId)).findSome? (environmentOfEntry uuids) =
      some environmentId := by
    have hsplit : Str.split ',' (environmentEntry environmentId) = [environmentEntry environmentId] :=
      List.splitOn_eq_singleton fun hc => (mem_environmentEntry hc).2.2 rfl
    rw [hsplit, List.findSome?_cons, environmentOfEntry_environmentEntry]
  rw [extractLapdevEnvironmentId, extractLapdevEnvironmentId, Option.bind_some, Option.bind_some,
    ← findSome?_trim uuids s, extended]
  split
  · next hnil =>
    rw [hentry, hnil]
    rfl
  · rw [Str.split_append_cons, List.findSome?_append, hentry]
    cases (Str.split ',' (Str.trim s)).findSome? (environmentOfEntry uuids) <;> rfl

/-- The sidecar reads the first `tracestate`. -/
theorem getHeaderValue_parsedHttpRequest (request : Request) :
    getHeaderValue (HttpParser.parsedHttpRequest request).headers tracestateHeader =
      ((valuesOf tracestateHeader request).head?).map fromUtf8Lossy := by
  rw [getHeaderValue, HttpParser.parsedHttpRequest, List.find?_map, valuesOf, List.head?_map,
    List.head?_filter, Option.map_map, Option.map_map]
  rfl

/-- A rewritten request names the environment that the old one named, or that of the preview. -/
theorem Rewrites.environment (uuids : UuidParser) {request' : Request}
    (h : Rewrites lowercase environmentId request request') :
    (extractRoutingContext uuids
        (HttpParser.parsedHttpRequest request').headers).lapdevEnvironmentId =
      some ((extractRoutingContext uuids
        (HttpParser.parsedHttpRequest request).headers).lapdevEnvironmentId.getD environmentId) := by
  rw [lapdevEnvironmentId_extractRoutingContext, lapdevEnvironmentId_extractRoutingContext,
    getHeaderValue_parsedHttpRequest, getHeaderValue_parsedHttpRequest, h.tracestate]
  cases hvalues : valuesOf tracestateHeader request with
  | nil =>
    have hnew := extractLapdevEnvironmentId_extended uuids [] environmentId
    rw [if_pos rfl, List.head?_cons, Option.map_some, fromUtf8Lossy_encode]
    exact hnew
  | cons value values =>
    rw [if_neg (List.cons_ne_nil _ _), List.map_cons, List.head?_cons, Option.map_some, extendedValue,
      fromUtf8Lossy_encode]
    exact extractLapdevEnvironmentId_extended uuids (fromUtf8Lossy value) environmentId

/-- **The environment of a preview.** The sidecar routes a rewritten request to the environment that
the first `tracestate` of the client names, and to that of the preview only if it names none. -/
theorem environment_of_rewriting (httparse : HeadParser) (uuids : UuidParser)
    (hnil : lowercase.toLowercase [] = []) {parsed parsed' : HttpParser.ParsedHttpRequest}
    {headersLen' : Nat}
    (h : HttpParser.parseHttpRequestFromBuffer httparse buffer = .ok (parsed, headersLen))
    (hout : addEnvironmentIdToHeaders lowercase buffer headersLen environmentId = some output)
    (h' : HttpParser.parseHttpRequestFromBuffer httparse output = .ok (parsed', headersLen')) :
    (extractRoutingContext uuids parsed'.headers).lapdevEnvironmentId =
      some ((extractRoutingContext uuids parsed.headers).lapdevEnvironmentId.getD environmentId) := by
  obtain ⟨request, hread, rfl⟩ := HttpParser.parseHttpRequestFromBuffer_eq_ok h
  obtain ⟨request', hread', rfl⟩ := HttpParser.parseHttpRequestFromBuffer_eq_ok h'
  exact ((rewriting_iff httparse hnil hread hout).2 _ _ hread').1.environment uuids

/-! ## A request -/

/-- Targets of visible characters. -/
def graphicTargets : TargetSyntax where
  accepts target := target.all isGraphic
  graphic h := List.all_eq_true.1 h

/-- `GET / HTTP/1.1` with a host. -/
def plainHead : Head graphicTargets where
  empties := []
  method := [71, 69, 84]
  target := [47]
  version := .http11
  newline := .crlf
  fields := [⟨[104, 111, 115, 116], [32, 97], .crlf, by decide, List.all_eq_true.1 rfl,
    List.all_eq_true.1 rfl⟩]
  last := .crlf
  method_ne_nil := by decide
  method_token := List.all_eq_true.1 rfl
  target_ok := rfl

/-- A head of ASCII characters is text. -/
theorem exists_text {syn : TargetSyntax} {head : Head syn}
    (hascii : head.render.all (fun b => decide (b < 128)) = true) :
    ∃ text, encode text = head.render :=
  ⟨_, encode_asciiText fun b hb => of_decide_eq_true (List.all_eq_true.1 hascii b hb)⟩

/-- The request after a preview has rewritten it. -/
def tracedHead : Head graphicTargets := rewritten .ascii 7 plainHead

/-- The request is rewritten. -/
theorem addEnvironmentIdToHeaders_plainHead :
    addEnvironmentIdToHeaders .ascii (plainHead.render ++ [7]) plainHead.render.length 7 =
      some (tracedHead.render ++ [7]) := by
  obtain ⟨text, htext⟩ : ∃ text, encode text = plainHead.render := exists_text rfl
  exact addEnvironmentIdToHeaders_head rfl rfl htext [7] 7

/-- It is text, so it can be rewritten again. -/
theorem addEnvironmentIdToHeaders_tracedHead (environmentId : Uuid) :
    addEnvironmentIdToHeaders .ascii (tracedHead.render ++ [7]) tracedHead.render.length
      environmentId = some ((rewritten .ascii environmentId tracedHead).render ++ [7]) := by
  obtain ⟨text, htext⟩ : ∃ text, encode text = plainHead.render := exists_text rfl
  exact addEnvironmentIdToHeaders_head rfl rfl (rewriteLines_head rfl rfl htext) [7] environmentId

end

/-- The request is read. -/
theorem parse_plainHead : (HeadParser.reference graphicTargets).parse HttpParser.maxHeaders
    (plainHead.render ++ [7]) = .ok (some (plainHead.request, plainHead.render.length)) :=
  (HeadParser.reference graphicTargets).parse_render HttpParser.maxHeaders plainHead [7]

/-- So is the rewritten one. -/
theorem parse_tracedHead : (HeadParser.reference graphicTargets).parse HttpParser.maxHeaders
    (tracedHead.render ++ [7]) = .ok (some (tracedHead.request, tracedHead.render.length)) :=
  (HeadParser.reference graphicTargets).parse_render HttpParser.maxHeaders tracedHead [7]

/-- It is read after it is rewritten. -/
theorem rewriting_iff_plain :
    ∃ output, addEnvironmentIdToHeaders .ascii (plainHead.render ++ [7]) plainHead.render.length 7 =
      some output ∧
      ∃ result, (HeadParser.reference graphicTargets).parse HttpParser.maxHeaders output =
        .ok (some result) := by
  exact ⟨_, addEnvironmentIdToHeaders_plainHead, (rewriting_iff (HeadParser.reference graphicTargets)
    rfl parse_plainHead addEnvironmentIdToHeaders_plainHead).1.2 ⟨rfl, by decide⟩⟩

/-- A request that is read is parsed. -/
theorem parseHttpRequestFromBuffer_of_parse {httparse : HeadParser}
    (h : httparse.parse HttpParser.maxHeaders buffer = .ok (some (request, headersLen))) :
    HttpParser.parseHttpRequestFromBuffer httparse buffer =
      .ok (HttpParser.parsedHttpRequest request, headersLen) := by
  rw [HttpParser.parseHttpRequestFromBuffer, h]

/-- It is routed to the environment of the preview, also where another preview rewrites it again. -/
theorem environment_of_rewriting_plain :
    ∃ (parsed parsed' : HttpParser.ParsedHttpRequest) (output : List UInt8),
      HttpParser.parseHttpRequestFromBuffer (.reference graphicTargets) (tracedHead.render ++ [7]) =
        .ok (parsed, tracedHead.render.length) ∧
      (extractRoutingContext .hyphenated parsed.headers).lapdevEnvironmentId = some 7 ∧
      addEnvironmentIdToHeaders .ascii (tracedHead.render ++ [7]) tracedHead.render.length 9 =
        some output ∧
      (∃ headersLen', HttpParser.parseHttpRequestFromBuffer (.reference graphicTargets) output =
        .ok (parsed', headersLen')) ∧
      (extractRoutingContext .hyphenated parsed'.headers).lapdevEnvironmentId = some 7 := by
  have hplain := parseHttpRequestFromBuffer_of_parse parse_plainHead
  have htraced := parseHttpRequestFromBuffer_of_parse parse_tracedHead
  have hseven := environment_of_rewriting (HeadParser.reference graphicTargets) .hyphenated rfl hplain
    addEnvironmentIdToHeaders_plainHead htraced
  have hnone : (extractRoutingContext .hyphenated
      (HttpParser.parsedHttpRequest plainHead.request).headers).lapdevEnvironmentId = none := rfl
  rw [hnone, Option.getD_none] at hseven
  -- The second preview has another environment, and adds no header.
  have hout := addEnvironmentIdToHeaders_tracedHead 9
  obtain ⟨⟨request', headersLen'⟩, hread⟩ := (rewriting_iff (HeadParser.reference graphicTargets) rfl
    parse_tracedHead hout).1.2 ⟨rfl, by decide⟩
  have hparsed := parseHttpRequestFromBuffer_of_parse hread
  have hagain := environment_of_rewriting (HeadParser.reference graphicTargets) .hyphenated rfl htraced
    hout hparsed
  rw [hseven, Option.getD_some] at hagain
  exact ⟨_, _, _, htraced, hseven, hout, ⟨headersLen', hparsed⟩, hagain⟩

end PreviewUrlProxy

end Lapdev
