import Lapdev.RustStd.Str

/-!
# Heads of HTTP/1 requests

The grammar of a request head: empty lines, the request line, header fields, and an empty line; a
line ends with CRLF or with a bare LF. A parser of heads is a `HeadParser`: it reads what a head
renders to, whatever follows, and nothing else. `HeadParser.reference` is one, so that a text starts
with at most one head.
-/

namespace Http

open RustStd RustStd.Utf8

/-! ## The grammar -/

/-- The end of a line. -/
inductive Newline
  | lf
  | crlf
  deriving DecidableEq, Repr

/-- The bytes of a line ending. -/
def Newline.bytes : Newline → List UInt8
  | lf => [10]
  | crlf => [13, 10]

/-- `tchar`. -/
def isToken (b : UInt8) : Bool :=
  b = 33 || (35 ≤ b && b ≤ 39) || b = 42 || b = 43 || b = 45 || b = 46 || (48 ≤ b && b ≤ 57) ||
    (65 ≤ b && b ≤ 90) || (94 ≤ b && b ≤ 122) || b = 124 || b = 126

/-- A byte of a field's content or of the blanks around it. -/
def isFieldText (b : UInt8) : Bool := b = 9 || (32 ≤ b && b ≠ 127)

/-- A visible byte, or a byte that is not ASCII. -/
def isGraphic (b : UInt8) : Bool := 33 ≤ b && b ≠ 127

/-- A space or a tab. -/
def isBlank (b : UInt8) : Bool := b = 32 || b = 9

/-- A byte of a token is ASCII. -/
theorem isToken_lt {b : UInt8} (h : isToken b) : b < 128 := by
  simp only [isToken, Bool.or_eq_true, Bool.and_eq_true, decide_eq_true_eq,
    UInt8.le_iff_toNat_le, ← UInt8.toNat_inj, UInt8.reduceToNat] at h
  rw [UInt8.lt_iff_toNat_lt]
  change b.toNat < 128
  omega

/-- The request targets that a parser takes. -/
structure TargetSyntax where
  accepts : List UInt8 → Bool
  graphic : ∀ {target}, accepts target → ∀ b ∈ target, isGraphic b

/-- The versions that a request can have. -/
inductive Version
  | http10
  | http11
  deriving DecidableEq, Repr

/-- The bytes of a version. -/
def Version.bytes : Version → List UInt8
  | http10 => [72, 84, 84, 80, 47, 49, 46, 48]
  | http11 => [72, 84, 84, 80, 47, 49, 46, 49]

/-- A header field; `raw` is all that stands between the colon and the end of the line. -/
structure Field where
  name : List UInt8
  raw : List UInt8
  newline : Newline
  name_ne_nil : name ≠ []
  name_token : ∀ b ∈ name, isToken b
  raw_text : ∀ b ∈ raw, isFieldText b

/-- The content, without the blanks around it. -/
def Field.value (field : Field) : List UInt8 := (field.raw.dropWhile isBlank).rdropWhile isBlank

/-- A header on its line. -/
def Field.render (field : Field) : List UInt8 :=
  field.name ++ 58 :: (field.raw ++ field.newline.bytes)

/-- The head of a request. -/
structure Head (syn : TargetSyntax) where
  empties : List Newline
  method : List UInt8
  target : List UInt8
  version : Version
  newline : Newline
  fields : List Field
  last : Newline
  method_ne_nil : method ≠ []
  method_token : ∀ b ∈ method, isToken b
  target_ok : syn.accepts target

/-- What a parser reads off a head. -/
structure Request where
  method : Str
  path : Str
  version : Version
  headers : List (Str × List UInt8)

namespace Head

variable {syn : TargetSyntax} (head : Head syn)

/-- The first line, without its ending. -/
def requestLine : List UInt8 := head.method ++ 32 :: (head.target ++ 32 :: head.version.bytes)

/-- The bytes of a head. -/
def render : List UInt8 :=
  head.empties.flatMap Newline.bytes ++ (head.requestLine ++ (head.newline.bytes ++
    (head.fields.flatMap Field.render ++ head.last.bytes)))

/-- What a parser reads off the head. -/
def request : Request where
  method := asciiText head.method
  path := fromUtf8Lossy head.target
  version := head.version
  headers := head.fields.map fun field => (asciiText field.name, field.value)

end Head

/-- A parser of heads with at most `max` fields: `Ok(Some(..))` is a complete head and its length,
`Ok(None)` a part of one. -/
structure HeadParser where
  syn : TargetSyntax
  parse : (max : Nat) → List UInt8 → Except String (Option (Request × Nat))
  parse_render : ∀ max (head : Head syn) rest,
    parse max (head.render ++ rest) =
      if head.fields.length ≤ max then .ok (some (head.request, head.render.length))
      else .error "too many headers"
  exists_head : ∀ {max buffer result}, parse max buffer = .ok (some result) →
    ∃ (head : Head syn) (rest : List UInt8), buffer = head.render ++ rest

/-! ## Reading bytes -/

/-- A run of bytes that ends before one of another kind. -/
theorem takeWhile_run {p : UInt8 → Bool} {run : List UInt8} (h : ∀ b ∈ run, p b)
    {b : UInt8} (hb : p b = false) (rest : List UInt8) :
    (run ++ b :: rest).takeWhile p = run ∧ (run ++ b :: rest).dropWhile p = b :: rest := by
  have hrest : (b :: rest).takeWhile p = [] ∧ (b :: rest).dropWhile p = b :: rest := by
    simp [hb]
  refine ⟨?_, ?_⟩
  · rw [List.takeWhile_append_of_pos h, hrest.1, List.append_nil]
  · rw [List.dropWhile_append_of_pos h, hrest.2]

/-- The end of a line is taken off. -/
def takeNewline : List UInt8 → Option (Newline × List UInt8)
  | 10 :: rest => some (.lf, rest)
  | 13 :: 10 :: rest => some (.crlf, rest)
  | _ => none

/-- A line ending is taken back. -/
theorem takeNewline_bytes (newline : Newline) (rest : List UInt8) :
    takeNewline (newline.bytes ++ rest) = some (newline, rest) := by
  cases newline <;> rfl

/-- What is taken as a line ending are its bytes. -/
theorem takeNewline_eq_some {buffer rest : List UInt8} {newline : Newline}
    (h : takeNewline buffer = some (newline, rest)) : buffer = newline.bytes ++ rest := by
  unfold takeNewline at h
  split at h
  · cases h
    rfl
  · cases h
    rfl
  · cases h

/-- No line ending starts with a token or with field text. -/
theorem takeNewline_of_token {b : UInt8} (hb : isToken b) (rest : List UInt8) :
    takeNewline (b :: rest) = none := by
  unfold takeNewline
  split
  · next heq =>
    cases heq
    cases hb
  · next heq =>
    cases heq
    cases hb
  · rfl

/-- The first byte of a line ending. -/
theorem exists_newline_bytes (newline : Newline) : ∃ b bs, newline.bytes = b :: bs ∧
    isFieldText b = false ∧ isToken b = false := by
  cases newline
  · exact ⟨10, [], rfl, rfl, rfl⟩
  · exact ⟨13, [10], rfl, rfl, rfl⟩

/-- Empty lines are taken off. -/
def takeEmpties : List UInt8 → List Newline × List UInt8
  | 10 :: rest => (.lf :: (takeEmpties rest).1, (takeEmpties rest).2)
  | 13 :: 10 :: rest => (.crlf :: (takeEmpties rest).1, (takeEmpties rest).2)
  | buffer => ([], buffer)

/-- A line that starts with a token is not empty. -/
theorem takeEmpties_of_token {b : UInt8} (hb : isToken b) (rest : List UInt8) :
    takeEmpties (b :: rest) = ([], b :: rest) := by
  unfold takeEmpties
  split
  · next heq =>
    cases heq
    cases hb
  · next heq =>
    cases heq
    cases hb
  · rfl

/-- The empty lines in front of a token are taken back. -/
theorem takeEmpties_bytes (empties : List Newline) {b : UInt8} (hb : isToken b)
    (rest : List UInt8) :
    takeEmpties (empties.flatMap Newline.bytes ++ b :: rest) = (empties, b :: rest) := by
  induction empties with
  | nil => exact takeEmpties_of_token hb rest
  | cons newline empties ih => cases newline <;> simp [Newline.bytes, takeEmpties, ih]

/-- Nothing is lost of a buffer whose empty lines are taken. -/
theorem takeEmpties_eq (buffer : List UInt8) :
    buffer = (takeEmpties buffer).1.flatMap Newline.bytes ++ (takeEmpties buffer).2 := by
  fun_induction takeEmpties buffer with
  | case1 rest ih => simpa [Newline.bytes] using ih
  | case2 rest ih => simpa [Newline.bytes] using ih
  | case3 buffer => rfl

/-! ## Fields -/

/-- One field is read. -/
def parseField (buffer : List UInt8) : Option (Field × List UInt8) :=
  match buffer.dropWhile isToken with
  | 58 :: rest =>
    match takeNewline (rest.dropWhile isFieldText) with
    | some (newline, rest') =>
      if h : buffer.takeWhile isToken ≠ [] then
        some (⟨buffer.takeWhile isToken, rest.takeWhile isFieldText, newline, h,
          fun _ hb => List.mem_takeWhile_imp hb, fun _ hb => List.mem_takeWhile_imp hb⟩, rest')
      else none
    | none => none
  | _ => none

/-- A header that is written is read back. -/
theorem parseField_render (field : Field) (rest : List UInt8) :
    parseField (field.render ++ rest) = some (field, rest) := by
  obtain ⟨b, bs, hbytes, htext, -⟩ := exists_newline_bytes field.newline
  obtain ⟨htakeName, hdropName⟩ := takeWhile_run field.name_token (b := 58) rfl
    (field.raw ++ (field.newline.bytes ++ rest))
  obtain ⟨htakeRaw, hdropRaw⟩ := takeWhile_run field.raw_text htext (bs ++ rest)
  have hnewline : field.newline.bytes ++ rest = b :: (bs ++ rest) := by rw [hbytes]; rfl
  rw [← hnewline] at htakeRaw hdropRaw
  have hrender : field.render ++ rest =
      field.name ++ 58 :: (field.raw ++ (field.newline.bytes ++ rest)) := by
    simp [Field.render]
  rw [hrender]
  unfold parseField
  simp only [hdropName]
  rw [hdropRaw, takeNewline_bytes]
  dsimp only
  have hne : (field.name ++ 58 :: (field.raw ++ (field.newline.bytes ++ rest))).takeWhile isToken ≠
      [] := by
    rw [htakeName]
    exact field.name_ne_nil
  rw [dif_pos hne]
  obtain ⟨name, raw, newline, _, _, _⟩ := field
  simp only [htakeName, htakeRaw]

/-- What is read as a header is what is written of it. -/
theorem parseField_eq_some {buffer rest : List UInt8} {field : Field}
    (h : parseField buffer = some (field, rest)) : buffer = field.render ++ rest := by
  unfold parseField at h
  split at h
  · next rest₁ hname =>
    split at h
    · next newline rest₂ hraw =>
      split at h
      · cases h
        calc buffer = buffer.takeWhile isToken ++ 58 :: rest₁ := by
              rw [← hname, List.takeWhile_append_dropWhile]
          _ = buffer.takeWhile isToken ++
              58 :: (rest₁.takeWhile isFieldText ++ (newline.bytes ++ rest)) := by
              rw [← takeNewline_eq_some hraw, List.takeWhile_append_dropWhile]
          _ = _ := by simp [Field.render]
      · cases h
    · cases h
  · cases h

/-- Fields are read up to an empty line; there are no more fields than fuel. -/
def parseFields : Nat → List UInt8 → Option (List Field × Newline × List UInt8)
  | 0, _ => none
  | fuel + 1, buffer =>
    match takeNewline buffer with
    | some (last, rest) => some ([], last, rest)
    | none =>
      (parseField buffer).bind fun r =>
        (parseFields fuel r.2).map fun r' => (r.1 :: r'.1, r'.2.1, r'.2.2)

/-- Headers that are written are read back, with the empty line behind them. -/
theorem parseFields_render {fuel : Nat} (fields : List Field) (last : Newline) (rest : List UInt8)
    (hfuel : fields.length < fuel) :
    parseFields fuel (fields.flatMap Field.render ++ (last.bytes ++ rest)) =
      some (fields, last, rest) := by
  induction fields generalizing fuel with
  | nil =>
    obtain ⟨fuel, rfl⟩ := Nat.exists_eq_succ_of_ne_zero (Nat.ne_of_gt hfuel)
    rw [List.flatMap_nil, List.nil_append, parseFields, takeNewline_bytes]
  | cons field fields ih =>
    obtain ⟨fuel, rfl⟩ := Nat.exists_eq_succ_of_ne_zero (Nat.ne_of_gt (Nat.zero_lt_of_lt hfuel))
    obtain ⟨b, name, hname⟩ := List.exists_cons_of_ne_nil field.name_ne_nil
    have htoken : isToken b := field.name_token b (by rw [hname]; simp)
    have hnone : takeNewline (field.render ++ (fields.flatMap Field.render ++
        (last.bytes ++ rest))) = none := by
      rw [Field.render, hname]
      exact takeNewline_of_token htoken _
    rw [List.flatMap_cons, List.append_assoc, parseFields, hnone]
    dsimp only
    rw [parseField_render, Option.bind_some, ih (Nat.lt_of_succ_lt_succ hfuel), Option.map_some]

/-- What is read as headers is what is written of them. -/
theorem parseFields_eq_some {fuel : Nat} {buffer rest : List UInt8} {fields : List Field}
    {last : Newline} (h : parseFields fuel buffer = some (fields, last, rest)) :
    buffer = fields.flatMap Field.render ++ (last.bytes ++ rest) := by
  induction fuel generalizing buffer fields with
  | zero => cases h
  | succ fuel ih =>
    unfold parseFields at h
    split at h
    · next hnewline =>
      cases h
      exact takeNewline_eq_some hnewline
    · obtain ⟨⟨field, buffer'⟩, hfield, hrest⟩ := Option.bind_eq_some_iff.1 h
      obtain ⟨⟨fields', last', rest'⟩, hfields, heq⟩ := Option.map_eq_some_iff.1 hrest
      cases heq
      rw [List.flatMap_cons, List.append_assoc, ← ih hfields]
      exact parseField_eq_some hfield

/-! ## Heads -/

/-- Reading a version. -/
def parseVersion : List UInt8 → Option (Version × List UInt8)
  | 72 :: 84 :: 84 :: 80 :: 47 :: 49 :: 46 :: 48 :: rest => some (.http10, rest)
  | 72 :: 84 :: 84 :: 80 :: 47 :: 49 :: 46 :: 49 :: rest => some (.http11, rest)
  | _ => none

/-- A version that is written is read back. -/
theorem parseVersion_bytes (version : Version) (rest : List UInt8) :
    parseVersion (version.bytes ++ rest) = some (version, rest) := by
  cases version <;> rfl

/-- What is read as a version is what is written of it. -/
theorem parseVersion_eq_some {buffer rest : List UInt8} {version : Version}
    (h : parseVersion buffer = some (version, rest)) : buffer = version.bytes ++ rest := by
  unfold parseVersion at h
  split at h
  · cases h
    rfl
  · cases h
    rfl
  · cases h

variable {syn : TargetSyntax}

/-- The head that a text starts with, and what follows it. -/
def parseHead (syn : TargetSyntax) (buffer : List UInt8) : Option (Head syn × List UInt8) :=
  let start := takeEmpties buffer
  match start.2.dropWhile isToken with
  | 32 :: afterMethod =>
    match afterMethod.dropWhile isGraphic with
    | 32 :: afterTarget =>
      (parseVersion afterTarget).bind fun version =>
        (takeNewline version.2).bind fun newline =>
          (parseFields (newline.2.length + 1) newline.2).bind fun fields =>
            if h : start.2.takeWhile isToken ≠ [] ∧ syn.accepts (afterMethod.takeWhile isGraphic) then
              some (⟨start.1, start.2.takeWhile isToken, afterMethod.takeWhile isGraphic, version.1,
                newline.1, fields.1, fields.2.1, h.1, fun _ hb => List.mem_takeWhile_imp hb, h.2⟩,
                fields.2.2)
            else none
    | _ => none
  | _ => none

/-- There are no more fields than bytes. -/
theorem length_fields_le (fields : List Field) :
    fields.length ≤ (fields.flatMap Field.render).length := by
  induction fields with
  | nil => exact Nat.le_refl 0
  | cons field fields ih =>
    rw [List.flatMap_cons, List.length_append, List.length_cons]
    have : 0 < field.render.length := by simp [Field.render]
    omega

/-- A head that is written is read back. -/
theorem parseHead_render (head : Head syn) (rest : List UInt8) :
    parseHead syn (head.render ++ rest) = some (head, rest) := by
  obtain ⟨b, method, hmethod⟩ := List.exists_cons_of_ne_nil head.method_ne_nil
  have htoken : isToken b := head.method_token b (by rw [hmethod]; simp)
  have hrender : head.render ++ rest = head.empties.flatMap Newline.bytes ++
      (head.method ++ 32 :: (head.target ++ 32 :: (head.version.bytes ++ (head.newline.bytes ++
        (head.fields.flatMap Field.render ++ (head.last.bytes ++ rest)))))) := by
    simp [Head.render, Head.requestLine]
  have hempties := takeEmpties_bytes head.empties htoken
  have hstart : takeEmpties (head.render ++ rest) = (head.empties,
      head.method ++ 32 :: (head.target ++ 32 :: (head.version.bytes ++ (head.newline.bytes ++
        (head.fields.flatMap Field.render ++ (head.last.bytes ++ rest)))))) := by
    rw [hrender, hmethod]
    exact hempties _
  have hmethodRun := takeWhile_run head.method_token (b := 32) rfl (head.target ++
    32 :: (head.version.bytes ++ (head.newline.bytes ++
      (head.fields.flatMap Field.render ++ (head.last.bytes ++ rest)))))
  have htargetRun := takeWhile_run (syn.graphic head.target_ok) (b := 32) rfl
    (head.version.bytes ++ (head.newline.bytes ++
      (head.fields.flatMap Field.render ++ (head.last.bytes ++ rest))))
  have hfuel : head.fields.length <
      (head.fields.flatMap Field.render ++ (head.last.bytes ++ rest)).length + 1 := by
    have := length_fields_le head.fields
    rw [List.length_append]
    omega
  unfold parseHead
  simp only [hstart, hmethodRun.2, htargetRun.2, parseVersion_bytes, Option.bind_some,
    takeNewline_bytes, parseFields_render _ _ _ hfuel, hmethodRun.1, htargetRun.1]
  rw [dif_pos ⟨head.method_ne_nil, head.target_ok⟩]

/-- What is read as a head is what is written of it. -/
theorem parseHead_eq_some {buffer rest : List UInt8} {head : Head syn}
    (h : parseHead syn buffer = some (head, rest)) : buffer = head.render ++ rest := by
  unfold parseHead at h
  dsimp only at h
  split at h
  · next afterMethod hmethod =>
    split at h
    · next afterTarget htarget =>
      obtain ⟨⟨version, r₁⟩, hversion, h⟩ := Option.bind_eq_some_iff.1 h
      obtain ⟨⟨newline, r₂⟩, hnewline, h⟩ := Option.bind_eq_some_iff.1 h
      obtain ⟨⟨fields, last, r₃⟩, hfields, h⟩ := Option.bind_eq_some_iff.1 h
      split at h
      · next hok =>
        cases h
        have hafterTarget : afterTarget = version.bytes ++ (newline.bytes ++
            (fields.flatMap Field.render ++ (last.bytes ++ r₃))) := by
          have hrest : r₁ = newline.bytes ++ r₂ := takeNewline_eq_some hnewline
          have hrest' : r₂ = fields.flatMap Field.render ++ (last.bytes ++ r₃) :=
            parseFields_eq_some hfields
          rw [parseVersion_eq_some hversion, hrest, hrest']
        have hafterMethod : afterMethod = afterMethod.takeWhile isGraphic ++ 32 :: afterTarget := by
          rw [← htarget, List.takeWhile_append_dropWhile]
        have hstart : (takeEmpties buffer).2 =
            (takeEmpties buffer).2.takeWhile isToken ++ 32 :: afterMethod := by
          rw [← hmethod, List.takeWhile_append_dropWhile]
        calc buffer = (takeEmpties buffer).1.flatMap Newline.bytes ++ (takeEmpties buffer).2 :=
              takeEmpties_eq buffer
          _ = (takeEmpties buffer).1.flatMap Newline.bytes ++
              ((takeEmpties buffer).2.takeWhile isToken ++
                32 :: (afterMethod.takeWhile isGraphic ++ 32 :: afterTarget)) := by
              rw [← hafterMethod, ← hstart]
          _ = _ := by
              rw [hafterTarget]
              simp [Head.render, Head.requestLine]
      · cases h
    · cases h
  · cases h

/-- A parser of heads. A text that does not start with one is taken for a part of one. -/
def HeadParser.reference (syn : TargetSyntax) : HeadParser where
  syn := syn
  parse max buffer :=
    match parseHead syn buffer with
    | some (head, _) =>
      if head.fields.length ≤ max then .ok (some (head.request, head.render.length))
      else .error "too many headers"
    | none => .ok none
  parse_render max head rest := by rw [parseHead_render]
  exists_head {max buffer result} h := by
    split at h
    · next head rest hhead => exact ⟨head, rest, parseHead_eq_some hhead⟩
    · cases h

end Http
