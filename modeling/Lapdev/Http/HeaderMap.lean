import Lapdev.Http.Head
import Lapdev.RustStd.Lossy
import Mathlib.Data.FinEnum
import Mathlib.Data.List.Nodup

/-!
# Header maps

`http::HeaderMap`: each name once, with its values in the order they came in. Names are in lower
case, and values hold no control characters but the tab, so a text is a value unless it has one.
-/

namespace Http

open RustStd RustStd.Utf8

/-! ## Names and values -/

/-- `HeaderName`: a name in lower case. -/
structure HeaderName where
  text : Str
  lower : text.map Char.toLower = text

theorem HeaderName.ext_text {n n' : HeaderName} (h : n.text = n'.text) : n = n' := by
  cases n
  cases n'
  cases h
  rfl

instance : DecidableEq HeaderName := fun _ _ =>
  decidable_of_iff _ ⟨HeaderName.ext_text, fun h => congrArg HeaderName.text h⟩

/-- A name that is compared without case is compared in lower case. -/
theorem HeaderName.eqIgnoreAsciiCase {n n' : HeaderName} :
    Str.eqIgnoreAsciiCase n.text n'.text = true ↔ n = n' := by
  rw [Str.eqIgnoreAsciiCase, n.lower, n'.lower, decide_eq_true_iff]
  exact ⟨HeaderName.ext_text, fun h => congrArg HeaderName.text h⟩

/-- `HeaderValue`. -/
@[ext]
structure HeaderValue where
  bytes : List UInt8
  valid : ∀ b ∈ bytes, isFieldText b
  deriving DecidableEq

/-- A byte of a text that `to_str` gives. -/
def isVisibleAscii (b : UInt8) : Bool := b = 9 || (32 ≤ b && b < 127)

/-- `HeaderValue::to_str`. -/
def HeaderValue.toStr (v : HeaderValue) : Option Str :=
  if v.bytes.all isVisibleAscii then some (asciiText v.bytes) else none

/-- `HeaderValue::from_str`. -/
def HeaderValue.fromStr (s : Str) : Option HeaderValue :=
  if h : ∀ b ∈ encode s, isFieldText b then some ⟨encode s, h⟩ else none

/-! ## Lists -/

/-- A member of a list without the blanks around it. -/
def trimBlanks (bytes : List UInt8) : List UInt8 :=
  (bytes.dropWhile isBlank).rdropWhile isBlank

/-- The members of a value that is a list with commas; some may be empty. -/
def HeaderValue.members (v : HeaderValue) : List (List UInt8) :=
  ((v.bytes.splitOn 44).map trimBlanks).filter fun m => m ≠ []

/-- The blanks around some bytes. -/
theorem exists_trimBlanks (bytes : List UInt8) :
    ∃ u w, (∀ b ∈ u, isBlank b) ∧ (∀ b ∈ w, isBlank b) ∧ bytes = u ++ (trimBlanks bytes ++ w) := by
  refine ⟨bytes.takeWhile isBlank, (bytes.dropWhile isBlank).rtakeWhile isBlank,
    fun b hb => List.mem_takeWhile_imp hb, fun b hb => List.mem_rtakeWhile_imp hb, ?_⟩
  rw [trimBlanks, List.rdropWhile_append_rtakeWhile, List.takeWhile_append_dropWhile]

/-- A blank is ASCII, and whitespace. -/
theorem blank_ascii {b : UInt8} (h : isBlank b = true) :
    b < 128 ∧ Str.isWhitespace (asciiChar b) = true := by
  rw [isBlank, Bool.or_eq_true, decide_eq_true_eq, decide_eq_true_eq] at h
  rcases h with rfl | rfl <;> exact ⟨by decide, rfl⟩

/-- What is read of some bytes has the blanks around them around it. -/
theorem exists_fromUtf8Lossy (bytes : List UInt8) :
    ∃ u w, Str.Blank u ∧ Str.Blank w ∧
      fromUtf8Lossy bytes = u ++ (fromUtf8Lossy (trimBlanks bytes) ++ w) ∧
      (u = [] → w = [] → trimBlanks bytes = bytes) := by
  obtain ⟨u, w, hu, hw, hbytes⟩ := exists_trimBlanks bytes
  have hblank : ∀ {bs : List UInt8}, (∀ b ∈ bs, isBlank b) → Str.Blank (asciiText bs) := by
    intro bs hbs c hc
    obtain ⟨b, hb, rfl⟩ := List.mem_map.1 hc
    exact (blank_ascii (hbs b hb)).2
  refine ⟨asciiText u, asciiText w, hblank hu, hblank hw, ?_, fun hu' hw' => ?_⟩
  · conv_lhs => rw [hbytes]
    rw [fromUtf8Lossy_asciiText_append fun b hb => (blank_ascii (hu b hb)).1,
      fromUtf8Lossy_append_asciiText _ fun b hb => (blank_ascii (hw b hb)).1]
  · rw [List.map_eq_nil_iff.1 hu', List.map_eq_nil_iff.1 hw', List.nil_append, List.append_nil]
      at hbytes
    exact hbytes.symm

/-- Reading and trimming a member is reading and trimming it with its blanks. -/
theorem trim_fromUtf8Lossy_trimBlanks (bytes : List UInt8) :
    Str.trim (fromUtf8Lossy (trimBlanks bytes)) = Str.trim (fromUtf8Lossy bytes) := by
  obtain ⟨u, w, hu, hw, hread, -⟩ := exists_fromUtf8Lossy bytes
  rw [hread, Str.trim_append_left hu, Str.trim_append_right hw]

/-- The bytes of a trimmed text have no blanks around them. -/
theorem trimBlanks_encode {s : Str} (h : Str.trim s = s) : trimBlanks (encode s) = encode s := by
  obtain ⟨u, w, -, -, hread, hnone⟩ := exists_fromUtf8Lossy (encode s)
  have htrim := trim_fromUtf8Lossy_trimBlanks (encode s)
  rw [fromUtf8Lossy_encode, h] at htrim
  rw [fromUtf8Lossy_encode] at hread
  have hlength := Str.length_trim_le (fromUtf8Lossy (trimBlanks (encode s)))
  have hsum := congrArg List.length hread
  rw [List.length_append, List.length_append] at hsum
  rw [htrim] at hlength
  exact hnone (List.eq_nil_of_length_eq_zero (by omega)) (List.eq_nil_of_length_eq_zero (by omega))

/-! ## Maps -/

/-- `HeaderMap`: the entries are in the order of iteration. -/
structure HeaderMap where
  entries : List (HeaderName × HeaderValue × List HeaderValue)
  nodup : (entries.map Prod.fst).Nodup

namespace HeaderMap

/-- `HeaderMap::new`. -/
def new : HeaderMap := ⟨[], .nil⟩

/-- `HeaderMap::get`: the first value of a name. -/
def get (m : HeaderMap) (name : HeaderName) : Option HeaderValue :=
  (m.entries.find? fun e => e.1 = name).map fun e => e.2.1

/-- `HeaderMap::get_all`. -/
def getAll (m : HeaderMap) (name : HeaderName) : List HeaderValue :=
  ((m.entries.find? fun e => e.1 = name).map fun e => e.2.1 :: e.2.2).getD []

/-- `HeaderMap::iter`. -/
def iter (m : HeaderMap) : List (HeaderName × HeaderValue) :=
  m.entries.flatMap fun e => (e.2.1 :: e.2.2).map fun v => (e.1, v)

/-- One entry of a map with another value for a name. -/
def replace (name : HeaderName) (value : HeaderValue)
    (e : HeaderName × HeaderValue × List HeaderValue) :
    HeaderName × HeaderValue × List HeaderValue :=
  if e.1 = name then (name, value, []) else e

theorem replace_fst (name : HeaderName) (value : HeaderValue)
    (e : HeaderName × HeaderValue × List HeaderValue) : (replace name value e).1 = e.1 := by
  rw [replace]
  split
  · next h => exact h.symm
  · rfl

/-- `HeaderMap::insert`: the values of a name that is there are replaced, and another name is put
last. -/
def insert (m : HeaderMap) (name : HeaderName) (value : HeaderValue) : HeaderMap :=
  if h : name ∈ m.entries.map Prod.fst then
    ⟨m.entries.map (replace name value), by
      rw [List.map_map, show Prod.fst ∘ replace name value = Prod.fst from
        funext (replace_fst name value)]
      exact m.nodup⟩
  else
    ⟨m.entries ++ [(name, value, [])], by
      rw [List.map_append]
      exact List.Nodup.append m.nodup (List.nodup_singleton name)
        (List.disjoint_singleton.2 h)⟩

/-! ## Lookups -/

section
variable {m : HeaderMap} {name : HeaderName} {value : HeaderValue}

theorem eq_of_entries {m m' : HeaderMap} (h : m.entries = m'.entries) : m = m' := by
  cases m
  cases m'
  cases h
  rfl

theorem get_eq_head?_getAll (m : HeaderMap) (name : HeaderName) :
    m.get name = (m.getAll name).head? := by
  rw [get, getAll]
  cases m.entries.find? fun e => e.1 = name <;> rfl

/-- The first header of a name. -/
theorem find?_iter (m : HeaderMap) (name : HeaderName) :
    (m.iter.find? fun h => h.1 = name) = (m.get name).map fun v => (name, v) := by
  rw [iter, get]
  induction m.entries with
  | nil => rfl
  | cons e entries ih =>
    by_cases he : e.1 = name
    · simp [he]
    · have hnone : (((e.2.1 :: e.2.2).map fun v => (e.1, v)).find? fun h => h.1 = name) = none := by
        simp [he]
      rw [List.flatMap_cons, List.find?_append, hnone, Option.none_or, ih,
        List.find?_cons_of_neg (by simpa using he)]

/-- Where an insertion takes place. -/
theorem entries_insert (m : HeaderMap) (name : HeaderName) (value : HeaderValue) :
    (∃ before old after, m.entries = before ++ (name, old) :: after ∧
      (∀ e ∈ before, e.1 ≠ name) ∧ (∀ e ∈ after, e.1 ≠ name) ∧
      (m.insert name value).entries = before ++ (name, value, []) :: after) ∨
    (∀ e ∈ m.entries, e.1 ≠ name) ∧
      (m.insert name value).entries = m.entries ++ [(name, value, [])] := by
  rw [insert]
  split
  · next hmem =>
    obtain ⟨e, he, hname⟩ := List.mem_map.1 hmem
    obtain ⟨before, after, heq⟩ := List.append_of_mem he
    rw [show e = (name, e.2) from Prod.ext hname rfl] at heq
    have hnodup := m.nodup
    rw [heq, List.map_append, List.map_cons, List.nodup_append] at hnodup
    have hbefore : ∀ e ∈ before, e.1 ≠ name := fun e he' h =>
      hnodup.2.2 e.1 (List.mem_map_of_mem he') name List.mem_cons_self h
    have hafter : ∀ e ∈ after, e.1 ≠ name := fun e he' h =>
      (List.nodup_cons.1 hnodup.2.1).1 (List.mem_map.2 ⟨e, he', h⟩)
    have hkeep : ∀ {entries : List (HeaderName × HeaderValue × List HeaderValue)},
        (∀ e ∈ entries, e.1 ≠ name) → entries.map (replace name value) = entries := by
      intro entries hentries
      refine (List.map_congr_left fun e he' => ?_).trans (List.map_id entries)
      exact if_neg (hentries e he')
    refine .inl ⟨before, e.2, after, heq, hbefore, hafter, ?_⟩
    dsimp only
    rw [heq, List.map_append, List.map_cons, hkeep hbefore, hkeep hafter, replace, if_pos rfl]
  · next hnot => exact .inr ⟨fun e he h => hnot (h ▸ List.mem_map_of_mem he), rfl⟩

/-- Entries of other names are passed over. -/
theorem find?_append_entry {entries : List (HeaderName × HeaderValue × List HeaderValue)}
    (h : ∀ e ∈ entries, e.1 ≠ name) (old : HeaderValue × List HeaderValue)
    (after : List (HeaderName × HeaderValue × List HeaderValue)) :
    ((entries ++ (name, old) :: after).find? fun e => e.1 = name) = some (name, old) := by
  rw [List.find?_append, List.find?_eq_none.2 fun e he => by simpa using h e he, Option.none_or,
    List.find?_cons_of_pos (by simp)]

theorem getAll_insert_self (m : HeaderMap) (name : HeaderName) (value : HeaderValue) :
    (m.insert name value).getAll name = [value] := by
  rcases entries_insert m name value with ⟨before, old, after, -, hbefore, -, heq⟩ | ⟨hnot, heq⟩
  · rw [getAll, heq, find?_append_entry hbefore]
    rfl
  · rw [getAll, heq, find?_append_entry hnot]
    rfl

theorem get_insert_self (m : HeaderMap) (name : HeaderName) (value : HeaderValue) :
    (m.insert name value).get name = some value := by
  rw [get_eq_head?_getAll, getAll_insert_self]
  rfl

/-- The only value of a name is put there again. -/
theorem insert_of_getAll (h : m.getAll name = [value]) : m.insert name value = m := by
  refine eq_of_entries ?_
  rcases entries_insert m name value with ⟨before, old, after, hm, hbefore, -, heq⟩ | ⟨hnot, -⟩
  · rw [getAll, hm, find?_append_entry hbefore] at h
    obtain ⟨hvalue, hmore⟩ := List.cons.inj h
    rw [heq, hm, ← hvalue, ← hmore]
  · rw [getAll, List.find?_eq_none.2 fun e he => by simpa using hnot e he] at h
    cases h

/-- The other headers are not touched. -/
theorem filter_iter_insert (m : HeaderMap) (name : HeaderName) (value : HeaderValue) :
    ((m.insert name value).iter.filter fun h => h.1 ≠ name) =
      m.iter.filter fun h => h.1 ≠ name := by
  have hnone : ∀ values : List HeaderValue,
      ((values.map fun v => (name, v)).filter fun h => h.1 ≠ name) = [] := by
    intro values
    simp
  rcases entries_insert m name value with ⟨before, old, after, hm, -, -, heq⟩ | ⟨-, heq⟩
  · rw [iter, iter, heq, hm]
    simp only [List.flatMap_append, List.flatMap_cons, List.filter_append, hnone]
  · rw [iter, iter, heq]
    simp only [List.flatMap_append, List.flatMap_cons, List.flatMap_nil, List.append_nil,
      List.filter_append, hnone]

end

end HeaderMap

end Http
