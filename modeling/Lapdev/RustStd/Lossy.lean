import Lapdev.RustStd.Utf8

/-!
# Lossy decoding between ASCII bytes

An ASCII byte belongs to no other character, and to no start of one that is cut off. So the text of
some bytes can be read piece by piece between their ASCII bytes (`fromUtf8Lossy_append_ascii`).
-/

namespace RustStd

namespace Utf8

section
variable {b : UInt8} {bytes before after : List UInt8}

/-- Bytes start with a character if they start with its bytes. -/
theorem decodeChar_eq_some {c : Char} :
    decodeChar bytes = some c ↔ String.utf8EncodeChar c <+: bytes := by
  constructor
  · intro h
    obtain ⟨rest, hrest⟩ := ByteArray.exists_of_utf8DecodeChar?_eq_some h
    have hbytes := congrArg (fun b => b.data.toList) hrest
    exact ⟨rest.data.toList, by simpa using hbytes.symm⟩
  · rintro ⟨rest, rfl⟩
    exact decodeChar_encode c rest

/-- The bytes of a character that stand before an ASCII byte do not reach it. -/
theorem prefix_of_ascii {c : Char} (hb : b < 128) (hne : before ≠ [])
    (h : String.utf8EncodeChar c <+: before ++ b :: after) : String.utf8EncodeChar c <+: before := by
  obtain ⟨rest, hrest⟩ := h
  rcases List.append_eq_append_iff.1 hrest with ⟨rest', hbefore, -⟩ | ⟨rest', hchar, htail⟩
  · exact ⟨rest', hbefore.symm⟩
  · cases rest' with
    | nil =>
      rw [List.append_nil] at hchar
      exact hchar ▸ List.prefix_rfl
    | cons b' rest' =>
      obtain ⟨rfl, -⟩ := List.cons.inj htail
      rcases utf8EncodeChar_cases c with ⟨b', -, -, hbytes⟩ | hbytes
      · rw [hbytes] at hchar
        cases before with
        | nil => exact absurd rfl hne
        | cons b'' before => simp at hchar
      · exact absurd hb (UInt8.not_lt.2 (hbytes b (by rw [hchar]; simp)))

theorem decodeChar_append_ascii (hb : b < 128) (hne : before ≠ []) :
    decodeChar (before ++ b :: after) = decodeChar before := by
  refine Option.ext fun c => ?_
  rw [decodeChar_eq_some, decodeChar_eq_some]
  exact ⟨prefix_of_ascii hb hne, fun h => h.trans (List.prefix_append _ _)⟩

theorem startsCharacter_ascii (hb : b < 128) (b₀ : UInt8) : startsCharacter b₀ b = false := by
  have hlt : b.toNat < 128 := hb
  rw [Bool.eq_false_iff]
  intro h
  simp only [startsCharacter, Bool.or_eq_true, Bool.and_eq_true, decide_eq_true_eq,
    UInt8.le_iff_toNat_le, UInt8.reduceToNat] at h
  omega

/-- A character that is cut off ends before an ASCII byte. -/
theorem invalidLength_append_ascii (hb : b < 128) (hne : before ≠ []) :
    invalidLength (before ++ b :: after) = invalidLength before := by
  have hlt : b.toNat < 128 := hb
  have hthird : ¬(0x80 : UInt8) ≤ b := UInt8.not_le.2 hb
  match before, hne with
  | [b₀], _ => cases after <;> simp [invalidLength, startsCharacter_ascii hb]
  | [b₀, b₁], _ => simp [invalidLength, hthird]
  | b₀ :: b₁ :: b₂ :: rest, _ => rfl

theorem invalidLength_le (hne : bytes ≠ []) : invalidLength bytes ≤ bytes.length := by
  match bytes, hne with
  | [b₀], _ => exact Nat.le_refl 1
  | [b₀, b₁], _ =>
    rw [invalidLength]
    split <;> simp
  | b₀ :: b₁ :: b₂ :: rest, _ =>
    rw [invalidLength]
    split
    · split <;> simp
    · simp

/-- An ASCII byte is a character of its own. -/
theorem fromUtf8Lossy_cons_ascii (hb : b < 128) (bytes : List UInt8) :
    fromUtf8Lossy (b :: bytes) = asciiChar b :: fromUtf8Lossy bytes := by
  have hchar := utf8EncodeChar_asciiChar hb
  have hdecode := decodeChar_encode (asciiChar b) bytes
  have hsize : (asciiChar b).utf8Size = 1 := by
    rw [← String.length_utf8EncodeChar, hchar]
    rfl
  rw [hchar, List.singleton_append] at hdecode
  rw [fromUtf8Lossy, hdecode]
  dsimp only
  rw [hsize]
  rfl

/-- **Lossy decoding between ASCII bytes.** -/
theorem fromUtf8Lossy_append_ascii (hb : b < 128) (before after : List UInt8) :
    fromUtf8Lossy (before ++ b :: after) =
      fromUtf8Lossy before ++ asciiChar b :: fromUtf8Lossy after := by
  induction before using fromUtf8Lossy.induct with
  | case1 =>
    rw [List.nil_append, fromUtf8Lossy_cons_ascii hb, fromUtf8Lossy]
    rfl
  | case2 b' bs c hdecode ih =>
    have hsize : c.utf8Size ≤ (b' :: bs).length := by
      rw [← String.length_utf8EncodeChar]
      exact (decodeChar_eq_some.1 hdecode).length_le
    have hdecode' : decodeChar (b' :: (bs ++ b :: after)) = some c :=
      (decodeChar_append_ascii hb (List.cons_ne_nil b' bs)).trans hdecode
    rw [List.cons_append, fromUtf8Lossy, hdecode', fromUtf8Lossy, hdecode]
    dsimp only
    rw [← List.cons_append, List.drop_append_of_le_length hsize, ih, List.cons_append]
  | case3 b' bs hdecode ih =>
    have hdecode' : decodeChar (b' :: (bs ++ b :: after)) = none :=
      (decodeChar_append_ascii hb (List.cons_ne_nil b' bs)).trans hdecode
    have hlength : invalidLength (b' :: (bs ++ b :: after)) = invalidLength (b' :: bs) :=
      invalidLength_append_ascii hb (List.cons_ne_nil b' bs)
    rw [List.cons_append, fromUtf8Lossy, hdecode', fromUtf8Lossy, hdecode]
    dsimp only
    rw [hlength, ← List.cons_append,
      List.drop_append_of_le_length (invalidLength_le (List.cons_ne_nil b' bs)), ih, List.cons_append]

/-- ASCII bytes before others. -/
theorem fromUtf8Lossy_asciiText_append (h : ∀ b ∈ before, b < 128) (after : List UInt8) :
    fromUtf8Lossy (before ++ after) = asciiText before ++ fromUtf8Lossy after := by
  induction before with
  | nil => rfl
  | cons b before ih =>
    rw [List.cons_append, fromUtf8Lossy_cons_ascii (h b List.mem_cons_self),
      ih fun b' hb' => h b' (List.mem_cons_of_mem _ hb')]
    rfl

/-- ASCII bytes behind others. -/
theorem fromUtf8Lossy_append_asciiText (before : List UInt8) (h : ∀ b ∈ after, b < 128) :
    fromUtf8Lossy (before ++ after) = fromUtf8Lossy before ++ asciiText after := by
  cases after with
  | nil => simp [asciiText]
  | cons b after =>
    have hafter := fromUtf8Lossy_asciiText_append (fun b' hb' => h b' (List.mem_cons_of_mem _ hb')) []
    rw [List.append_nil, fromUtf8Lossy, List.append_nil] at hafter
    rw [fromUtf8Lossy_append_ascii (h b List.mem_cons_self), hafter]
    rfl

/-! ## The bytes of a text -/

/-- An ASCII byte of a text is one of its characters. -/
theorem mem_encode_of_ascii {s : Str} (hb : b < 128) : b ∈ encode s ↔ asciiChar b ∈ s := by
  constructor
  · intro h
    obtain ⟨before, after, heq⟩ := List.append_of_mem h
    obtain ⟨t, u, rfl, -, -⟩ := exists_encode_eq hb heq
    simp
  · intro h
    obtain ⟨t, u, rfl⟩ := List.append_of_mem h
    rw [encode_append, encode_cons, utf8EncodeChar_asciiChar hb]
    simp

/-- Lossy decoding makes up no ASCII byte. -/
theorem mem_of_mem_encode_fromUtf8Lossy (h : b ∈ encode (fromUtf8Lossy bytes)) :
    b ∈ bytes ∨ 128 ≤ b := by
  induction bytes using fromUtf8Lossy.induct with
  | case1 =>
    rw [fromUtf8Lossy] at h
    cases h
  | case2 b' bs c hdecode ih =>
    rw [fromUtf8Lossy, hdecode] at h
    dsimp only at h
    rw [encode_cons, List.mem_append] at h
    rcases h with h | h
    · exact .inl ((decodeChar_eq_some.1 hdecode).subset h)
    · exact (ih h).imp_left fun hmem => List.drop_subset _ _ hmem
  | case3 b' bs hdecode ih =>
    rw [fromUtf8Lossy, hdecode] at h
    dsimp only at h
    rw [encode_cons, List.mem_append] at h
    rcases h with h | h
    · have hbytes : (String.utf8EncodeChar '\uFFFD').all (fun b => decide (128 ≤ b)) = true := rfl
      exact .inr (of_decide_eq_true (List.all_eq_true.1 hbytes b h))
    · exact (ih h).imp_left fun hmem => List.drop_subset _ _ hmem

/-- The bytes of a text are split where the text is. -/
theorem splitOn_encode (hb : b < 128) (s : Str) :
    (encode s).splitOn b = (s.splitOn (asciiChar b)).map encode := by
  induction hn : s.length using Nat.strong_induction_on generalizing s with
  | _ n ih =>
    by_cases hmem : asciiChar b ∈ s
    · obtain ⟨t, u, rfl, ht⟩ := List.eq_append_cons_of_mem hmem
      rw [encode_append, encode_cons, utf8EncodeChar_asciiChar hb, List.singleton_append,
        List.splitOn_append_cons_self_of_not_mem (mt (mem_encode_of_ascii hb).1 ht),
        List.splitOn_append_cons_self_of_not_mem ht, ih u.length (by simp [← hn]; omega) u rfl]
      rfl
    · rw [List.splitOn_eq_singleton hmem, List.splitOn_eq_singleton (mt (mem_encode_of_ascii hb).1 hmem)]
      rfl

/-- Bytes are split where the text read from them is. -/
theorem splitOn_fromUtf8Lossy (hb : b < 128) (bytes : List UInt8) :
    (fromUtf8Lossy bytes).splitOn (asciiChar b) = (bytes.splitOn b).map fromUtf8Lossy := by
  have hnot : ∀ piece : List UInt8, b ∉ piece → asciiChar b ∉ fromUtf8Lossy piece := by
    intro piece hpiece hmem
    rcases mem_of_mem_encode_fromUtf8Lossy ((mem_encode_of_ascii hb).2 hmem) with h | h
    · exact hpiece h
    · exact absurd hb (UInt8.not_lt.2 h)
  induction hn : bytes.length using Nat.strong_induction_on generalizing bytes with
  | _ n ih =>
    by_cases hmem : b ∈ bytes
    · obtain ⟨piece, rest, rfl, hpiece⟩ := List.eq_append_cons_of_mem hmem
      rw [fromUtf8Lossy_append_ascii hb, List.splitOn_append_cons_self_of_not_mem hpiece,
        List.splitOn_append_cons_self_of_not_mem (hnot piece hpiece),
        ih rest.length (by simp [← hn]; omega) rest rfl]
      rfl
    · rw [List.splitOn_eq_singleton hmem, List.splitOn_eq_singleton (hnot bytes hmem)]
      rfl

end

end Utf8

end RustStd
