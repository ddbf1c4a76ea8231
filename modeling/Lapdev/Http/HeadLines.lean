import Lapdev.Http.HeaderMap

/-!
# The lines of a head

A head is its lines with their ends (`Head.render_eq_lines`), and the lines of its text are those
lines (`map_encode_lines`). Its end is the only empty line, and where all lines end with CRLF it is
the first CRLFCRLF.
-/

namespace Http

open RustStd RustStd.Utf8

/-! ## Lines and their ends -/

/-- A line that holds no end of a line. -/
def IsLine (line : List UInt8) : Prop := 10 ∉ line ∧ 13 ∉ line

theorem IsLine.of_class {p : UInt8 → Bool} (hlf : p 10 = false) (hcr : p 13 = false)
    {bytes : List UInt8} (h : ∀ b ∈ bytes, p b) : IsLine bytes := by
  refine ⟨fun hmem => ?_, fun hmem => ?_⟩
  · rw [h 10 hmem] at hlf
    cases hlf
  · rw [h 13 hmem] at hcr
    cases hcr

theorem IsLine.append {line line' : List UInt8} (h : IsLine line) (h' : IsLine line') :
    IsLine (line ++ line') :=
  ⟨fun hmem => (List.mem_append.1 hmem).elim h.1 h'.1,
    fun hmem => (List.mem_append.1 hmem).elim h.2 h'.2⟩

theorem IsLine.cons {b : UInt8} {line : List UInt8} (hlf : b ≠ 10) (hcr : b ≠ 13)
    (h : IsLine line) : IsLine (b :: line) :=
  ⟨List.not_mem_cons_of_ne_of_not_mem hlf.symm h.1,
    List.not_mem_cons_of_ne_of_not_mem hcr.symm h.2⟩

/-- Some lines with their ends. -/
def renderLines (lines : List (List UInt8 × Newline)) : List UInt8 :=
  lines.flatMap fun l => l.1 ++ l.2.bytes

/-- The first line of a text, and its rest. -/
theorem exists_line {s : Str} {line rest : List UInt8} {newline : Newline} (hline : IsLine line)
    (h : encode s = line ++ (newline.bytes ++ rest)) :
    ∃ t u, encode t = line ∧ encode u = rest ∧ Str.lines s = t :: Str.lines u := by
  have hlf : '\n' = asciiChar 10 := rfl
  have hcr : '\r' = asciiChar 13 := rfl
  cases newline with
  | lf =>
    obtain ⟨t, u, rfl, ht, hu⟩ := exists_encode_eq (b := 10) (by decide) h
    have hnl : '\n' ∉ t := by
      rw [hlf, ← mem_encode_of_ascii (by decide), ht]
      exact hline.1
    have hnr : '\r' ∉ t := by
      rw [hcr, ← mem_encode_of_ascii (by decide), ht]
      exact hline.2
    refine ⟨t, u, ht, hu, ?_⟩
    rw [← hlf, Str.lines_append hnl, Str.stripCr_of_ne hnr]
  | crlf =>
    have h' : encode s = (line ++ [13]) ++ 10 :: rest := by
      rw [h]
      simp [Newline.bytes]
    obtain ⟨t, u, rfl, ht, hu⟩ := exists_encode_eq (b := 10) (by decide) h'
    have hnl : '\n' ∉ t := by
      rw [hlf, ← mem_encode_of_ascii (by decide), ht, List.mem_append]
      exact fun hmem => hmem.elim hline.1 (by decide)
    obtain ⟨t', u', rfl, ht', hu'⟩ := exists_encode_eq (b := 13) (by decide) ht
    have hnil : u' = [] := encode_injective hu'
    refine ⟨t', u, ht', hu, ?_⟩
    rw [← hlf, Str.lines_append hnl, hnil, ← hcr, Str.stripCr_concat]

/-- The lines of a text are those it was put together from. -/
theorem map_encode_lines {lines : List (List UInt8 × Newline)} (hlines : ∀ l ∈ lines, IsLine l.1)
    {s : Str} (h : encode s = renderLines lines) :
    (Str.lines s).map encode = lines.map Prod.fst := by
  induction lines generalizing s with
  | nil =>
    have hnil : s = [] := encode_injective h
    rw [hnil]
    rfl
  | cons l lines ih =>
    rw [renderLines, List.flatMap_cons, List.append_assoc] at h
    obtain ⟨t, u, ht, hu, hsplit⟩ := exists_line (hlines l List.mem_cons_self) h
    rw [hsplit, List.map_cons, ht, ih (fun l' hl' => hlines l' (List.mem_cons_of_mem _ hl')) hu]
    rfl

/-! ## The lines of a head -/

/-- A field without the end of its line. -/
def Field.line (field : Field) : List UInt8 := field.name ++ 58 :: field.raw

theorem Field.isLine_line (field : Field) : IsLine field.line :=
  (IsLine.of_class rfl rfl field.name_token).append
    (.cons (by decide) (by decide) (.of_class rfl rfl field.raw_text))

theorem Field.render_eq (field : Field) : field.render = field.line ++ field.newline.bytes := by
  simp [Field.render, Field.line]

namespace Head

variable {syn : TargetSyntax}

/-- The lines of a head after the empty ones in front of it. -/
def lines (head : Head syn) : List (List UInt8 × Newline) :=
  (head.requestLine, head.newline) ::
    (head.fields.map (fun field => (field.line, field.newline)) ++ [([], head.last)])

theorem render_eq_lines (head : Head syn) :
    head.render = head.empties.flatMap Newline.bytes ++ renderLines head.lines := by
  have hfields : head.fields.flatMap Field.render =
      renderLines (head.fields.map fun field => (field.line, field.newline)) := by
    rw [renderLines, List.flatMap_map]
    exact List.flatMap_congr fun field _ => field.render_eq
  rw [render, hfields, lines, renderLines, renderLines, List.flatMap_cons, List.flatMap_append,
    List.flatMap_singleton, List.append_assoc, List.nil_append]

theorem isLine_requestLine (head : Head syn) : IsLine head.requestLine := by
  have hmethod : IsLine head.method := .of_class rfl rfl head.method_token
  have htarget : IsLine head.target := .of_class rfl rfl (syn.graphic head.target_ok)
  have hversion : IsLine head.version.bytes := by
    cases head.version <;> exact ⟨by decide, by decide⟩
  exact hmethod.append (.cons (by decide) (by decide) (htarget.append
    (.cons (by decide) (by decide) hversion)))

theorem isLine_of_mem_lines (head : Head syn) : ∀ l ∈ head.lines, IsLine l.1 := by
  intro l hl
  rcases List.mem_cons.1 hl with rfl | hl
  · exact head.isLine_requestLine
  rcases List.mem_append.1 hl with hl | hl
  · obtain ⟨field, -, rfl⟩ := List.mem_map.1 hl
    exact field.isLine_line
  · cases List.mem_singleton.1 hl
    exact ⟨List.not_mem_nil, List.not_mem_nil⟩

/-! ## Texts that are no heads -/

/-- A head starts with no empty line exactly if it has none in front. -/
theorem takeNewline_render {head : Head syn} (rest : List UInt8) :
    takeNewline (head.render ++ rest) = none ↔ head.empties = [] := by
  cases hempties : head.empties with
  | nil =>
    obtain ⟨b, method, hmethod⟩ := List.exists_cons_of_ne_nil head.method_ne_nil
    have htoken : isToken b := head.method_token b (by rw [hmethod]; exact List.mem_cons_self)
    rw [render, requestLine, hempties, hmethod]
    exact iff_of_true (takeNewline_of_token htoken _) rfl
  | cons newline empties =>
    rw [render, hempties, List.flatMap_cons, List.append_assoc, List.append_assoc, List.append_assoc,
      takeNewline_bytes]
    exact iff_of_false (fun h => by cases h) (List.cons_ne_nil _ _)

/-- A name and a colon are no start of a head. -/
theorem render_append_ne {name : List UInt8} (hname : ∀ b ∈ name, isToken b) (head : Head syn)
    (rest more : List UInt8) : head.render ++ rest ≠ name ++ 58 :: more := by
  intro heq
  have hcolon : (head.render ++ rest).dropWhile isToken = 58 :: more := by
    rw [heq]
    exact (takeWhile_run hname rfl more).2
  cases hempties : head.empties with
  | nil =>
    rw [render, requestLine, hempties, List.flatMap_nil, List.nil_append, List.append_assoc,
      List.append_assoc, List.cons_append, (takeWhile_run head.method_token rfl _).2] at hcolon
    cases hcolon
  | cons newline empties =>
    rw [render, hempties, List.flatMap_cons] at hcolon
    cases newline <;> cases hcolon

end Head

end Http
