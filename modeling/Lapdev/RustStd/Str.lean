import Lapdev.RustStd.Utf8
import Mathlib.Data.List.DropRight

/-!
# Operations on texts

What the code calls on a `str`: its lines, trimming, splitting, and comparison without the case of
ASCII letters. Whitespace around a text is invisible to a split whose pieces are trimmed
(`map_trim_split`).
-/

namespace RustStd

namespace Str

/-- `char::is_whitespace`: the property `White_Space`. -/
def isWhitespace (c : Char) : Bool :=
  (0x09 ≤ c.toNat && c.toNat ≤ 0x0D) || (0x2000 ≤ c.toNat && c.toNat ≤ 0x200A) ||
    c.toNat ∈ [0x20, 0x85, 0xA0, 0x1680, 0x2028, 0x2029, 0x202F, 0x205F, 0x3000]

/-- `str::trim`. -/
def trim (s : Str) : Str := (s.dropWhile isWhitespace).rdropWhile isWhitespace

/-- `str::split` at a character. -/
def split (sep : Char) (s : Str) : List Str := s.splitOn sep

/-- `str::split_whitespace`. -/
def splitWhitespace (s : Str) : List Str := (s.splitOnP isWhitespace).filter (· ≠ [])

/-- `str::split_once` at a character. -/
def splitOnce (sep : Char) (s : Str) : Option (Str × Str) :=
  match s.dropWhile fun c => c ≠ sep with
  | [] => none
  | _ :: rest => some (s.takeWhile fun c => c ≠ sep, rest)

/-- `[str]::join`. -/
def join (sep : Str) (texts : List Str) : Str := sep.intercalate texts

/-- `str::eq_ignore_ascii_case`. -/
def eqIgnoreAsciiCase (s t : Str) : Bool := s.map Char.toLower = t.map Char.toLower

/-- `str::contains` with a text. -/
def contains (s pattern : Str) : Bool := s.tails.any fun tail => pattern.isPrefixOf tail

/-- A line without the carriage return before its line feed. -/
def stripCr (line : Str) : Str := if line.getLast? = some '\r' then line.dropLast else line

/-- `str::lines`. A text that ends with a line feed has no line after it. -/
def lines (s : Str) : List Str :=
  let pieces := s.splitOn '\n'
  pieces.dropLast.map stripCr ++ (pieces.getLast?.filter fun last => last ≠ []).toList

/-- `str::to_lowercase`. The code compares its results with ASCII texts only, so of Unicode no more
is asked than that a text that starts with ASCII has a lowercase that starts with its lowercase. -/
structure Lowercase where
  toLowercase : Str → Str
  ascii_prefix : ∀ s t : Str, (∀ c ∈ s, c.toNat < 128) →
    s.map Char.toLower <+: toLowercase (s ++ t)

/-- The lowercase of ASCII letters. -/
def Lowercase.ascii : Lowercase where
  toLowercase := List.map Char.toLower
  ascii_prefix _ t _ := ⟨t.map Char.toLower, (List.map_append ..).symm⟩

/-! ## Trimming -/

section
variable {s t : Str}

/-- Every character is whitespace. -/
def Blank (s : Str) : Prop := ∀ c ∈ s, isWhitespace c

theorem trim_append_left (ht : Blank t) : trim (t ++ s) = trim s := by
  unfold trim
  rw [List.dropWhile_append_of_pos ht]

theorem trim_append_right (ht : Blank t) : trim (s ++ t) = trim s := by
  have hdrop : ∀ u : Str, (u ++ t).rdropWhile isWhitespace = u.rdropWhile isWhitespace := by
    intro u
    induction t using List.reverseRecOn with
    | nil => rw [List.append_nil]
    | append_singleton t c ih =>
      rw [← List.append_assoc, List.rdropWhile_concat_pos _ _ _ (ht c (by simp))]
      exact ih fun c hc => ht c (by simp [hc])
  unfold trim
  rw [List.dropWhile_append]
  split
  · next hs =>
    rw [List.isEmpty_iff.1 hs, List.dropWhile_eq_nil_iff.2 ht]
  · exact hdrop _

/-- What trimming takes off. -/
theorem exists_trim (s : Str) : ∃ u w, Blank u ∧ Blank w ∧ s = u ++ trim s ++ w := by
  refine ⟨s.takeWhile isWhitespace, (s.dropWhile isWhitespace).rtakeWhile isWhitespace,
    fun c hc => List.mem_takeWhile_imp hc, fun c hc => List.mem_rtakeWhile_imp hc, ?_⟩
  rw [trim, List.append_assoc, List.rdropWhile_append_rtakeWhile, List.takeWhile_append_dropWhile]

/-- A trimmed text starts with no whitespace. -/
theorem head_trim {c : Char} (h : (trim s).head? = some c) : isWhitespace c = false := by
  have hstart : trim s <+: s.dropWhile isWhitespace := List.rdropWhile_prefix _ _
  obtain ⟨rest, hrest⟩ := hstart
  cases htrim : trim s with
  | nil =>
    rw [htrim] at h
    cases h
  | cons c' tail =>
    rw [htrim] at h hrest
    cases h
    have := List.head_dropWhile_not isWhitespace (l := s) (by rw [← hrest]; simp)
    simpa [← hrest] using this

/-- A trimmed text is not trimmed further. -/
theorem trim_trim (s : Str) : trim (trim s) = trim s := by
  have hdrop : (trim s).dropWhile isWhitespace = trim s := by
    cases htrim : trim s with
    | nil => rfl
    | cons c tail =>
      rw [List.dropWhile_cons, head_trim (s := s) (by rw [htrim]; rfl), if_neg Bool.false_ne_true]
  conv_lhs => rw [trim, hdrop]
  exact List.rdropWhile_idempotent _ _

theorem trim_subset (s : Str) : trim s ⊆ s := fun _ hc =>
  (List.dropWhile_suffix _).subset ((List.rdropWhile_prefix _ _).subset hc)

theorem length_trim_le (s : Str) : (trim s).length ≤ s.length :=
  ((List.rdropWhile_prefix _ _).length_le).trans (List.dropWhile_suffix _).length_le

/-- A text without whitespace is not trimmed. -/
theorem trim_eq_self (h : ∀ c ∈ s, isWhitespace c = false) : trim s = s := by
  have hdrop : s.dropWhile isWhitespace = s := by
    cases s with
    | nil => rfl
    | cons c s => rw [List.dropWhile_cons, h c List.mem_cons_self, if_neg Bool.false_ne_true]
  rw [trim, hdrop, List.rdropWhile_eq_self_iff]
  intro hne hlast
  rw [h _ (List.getLast_mem hne)] at hlast
  cases hlast

/-! ## Splitting -/

variable {sep : Char}

/-- A text that is put before another one is put before its first piece. -/
theorem split_append_left (ht : sep ∉ t) :
    split sep (t ++ s) = (split sep s).modifyHead (t ++ ·) := by
  induction t with
  | nil =>
    cases hs : split sep s <;> simp [hs]
  | cons c t ih =>
    have hc : (c == sep) = false := by
      rw [beq_eq_false_iff_ne]
      rintro rfl
      exact ht List.mem_cons_self
    unfold split at ih ⊢
    rw [List.cons_append, List.splitOn_cons_eq_if_modifyHead, hc, ih fun h => ht (by simp [h])]
    cases s.splitOn sep <;> simp

/-- A text without the separator that is put behind another one is put behind its last piece. -/
theorem split_append_right (ht : sep ∉ t) :
    ∃ init last, split sep s = init ++ [last] ∧ split sep (s ++ t) = init ++ [last ++ t] := by
  induction s with
  | nil => exact ⟨[], [], by simp [split], by simp [split, List.splitOn_eq_singleton ht]⟩
  | cons c s ih =>
    obtain ⟨init, last, hs, hst⟩ := ih
    unfold split at hs hst ⊢
    rw [List.cons_append, List.splitOn_cons_eq_if_modifyHead, List.splitOn_cons_eq_if_modifyHead,
      hs, hst]
    by_cases hc : (c == sep) = true
    · simp only [hc, if_true]
      exact ⟨[] :: init, last, rfl, rfl⟩
    · rw [if_neg hc, if_neg hc]
      cases init with
      | nil => exact ⟨[], c :: last, rfl, rfl⟩
      | cons first init => exact ⟨(c :: first) :: init, last, rfl, rfl⟩

/-- Two texts around a separator are split on their own. -/
theorem split_append_cons (s t : Str) : split sep (s ++ sep :: t) = split sep s ++ split sep t := by
  unfold split
  exact List.splitOn_append_cons_self s t

/-- Trimmed pieces do not see the whitespace around the text. -/
theorem map_trim_split (hsep : isWhitespace sep = false) (s : Str) :
    (split sep (trim s)).map trim = (split sep s).map trim := by
  obtain ⟨u, w, hu, hw, hs⟩ := exists_trim s
  have hnot : ∀ {v : Str}, Blank v → sep ∉ v := by
    intro v hv hmem
    rw [hv sep hmem] at hsep
    cases hsep
  obtain ⟨init, last, hsplit, happend⟩ := split_append_right (s := trim s) (hnot hw)
  have hright : (split sep (trim s ++ w)).map trim = (split sep (trim s)).map trim := by
    rw [hsplit, happend, List.map_append, List.map_append, List.map_singleton, List.map_singleton,
      trim_append_right hw]
  have hleft : (split sep (u ++ (trim s ++ w))).map trim = (split sep (trim s ++ w)).map trim := by
    rw [split_append_left (hnot hu)]
    cases split sep (trim s ++ w) with
    | nil => rfl
    | cons first rest => simp [trim_append_left hu]
  rw [← hright, ← hleft, ← List.append_assoc, ← hs]

/-- The pieces of a text are parts of it, without the separator. -/
theorem mem_split : ∀ p ∈ split sep s, sep ∉ p ∧ p ⊆ s := by
  induction s with
  | nil => simp [split]
  | cons c s ih =>
    intro p hp
    unfold split at ih hp
    rw [List.splitOn_cons_eq_if_modifyHead] at hp
    split at hp
    · rcases List.mem_cons.1 hp with rfl | hp
      · exact ⟨List.not_mem_nil, List.nil_subset _⟩
      · exact ⟨(ih p hp).1, List.subset_cons_of_subset c (ih p hp).2⟩
    · next hc =>
      have hne : sep ≠ c := fun h => hc (beq_iff_eq.2 h.symm)
      cases hs : s.splitOn sep with
      | nil => exact absurd hs (List.splitOn_ne_nil _ _)
      | cons first pieces =>
        rw [hs] at ih hp
        rcases List.mem_cons.1 hp with rfl | hp
        · have hfirst := ih first List.mem_cons_self
          refine ⟨fun h => ?_, List.cons_subset_cons c hfirst.2⟩
          exact (List.mem_cons.1 h).elim hne hfirst.1
        · have hpiece := ih p (List.mem_cons_of_mem _ hp)
          exact ⟨hpiece.1, List.subset_cons_of_subset c hpiece.2⟩

/-- Joined texts are split into themselves. -/
theorem split_join {texts : List Str} (h : ∀ t ∈ texts, sep ∉ t) (hne : texts ≠ []) :
    split sep (join [sep] texts) = texts :=
  List.splitOn_intercalate sep h hne

theorem join_singleton (t : Str) : join [sep] [t] = t := by
  simp [join, List.intercalate]

theorem join_cons_cons (t t' : Str) (texts : List Str) :
    join [sep] (t :: t' :: texts) = t ++ sep :: join [sep] (t' :: texts) := by
  simp [join, List.intercalate, List.intersperse]

/-- The characters of joined texts. -/
theorem mem_join {texts : List Str} {c : Char} (h : c ∈ join [sep] texts) :
    c = sep ∨ ∃ t ∈ texts, c ∈ t := by
  induction texts with
  | nil => simp [join, List.intercalate] at h
  | cons t texts ih =>
    cases texts with
    | nil =>
      rw [join_singleton] at h
      exact .inr ⟨t, List.mem_cons_self, h⟩
    | cons t' texts =>
      rw [join_cons_cons, List.mem_append, List.mem_cons] at h
      rcases h with h | rfl | h
      · exact .inr ⟨t, List.mem_cons_self, h⟩
      · exact .inl rfl
      · exact (ih h).imp_right fun ⟨t'', ht, hc⟩ => ⟨t'', List.mem_cons_of_mem _ ht, hc⟩

/-- A text is split once at its first separator. -/
theorem splitOnce_append (ht : sep ∉ t) (s : Str) : splitOnce sep (t ++ sep :: s) = some (t, s) := by
  have hrun : ∀ c ∈ t, decide (c ≠ sep) = true := fun c hc =>
    decide_eq_true fun h => ht (h ▸ hc)
  unfold splitOnce
  rw [List.dropWhile_append_of_pos hrun, List.takeWhile_append_of_pos hrun]
  simp

/-! ## Lines -/

/-- The first line ends at its line feed. -/
theorem lines_append {line : Str} (hline : '\n' ∉ line) (rest : Str) :
    lines (line ++ '\n' :: rest) = stripCr line :: lines rest := by
  have hsplit : (line ++ '\n' :: rest).splitOn '\n' = line :: rest.splitOn '\n' := by
    rw [List.splitOn_append_cons_self, List.splitOn_eq_singleton hline]
    rfl
  unfold lines
  rw [hsplit]
  cases hrest : rest.splitOn '\n' with
  | nil => exact absurd hrest (List.splitOn_ne_nil _ _)
  | cons first pieces => rfl

@[simp] theorem lines_nil : lines [] = [] := rfl

theorem stripCr_of_ne {line : Str} (h : '\r' ∉ line) : stripCr line = line := by
  unfold stripCr
  rw [if_neg fun hlast => h (List.mem_of_getLast? hlast)]

theorem stripCr_concat (line : Str) : stripCr (line ++ ['\r']) = line := by
  simp [stripCr]

end

end Str

end RustStd
