import Mathlib.Data.String.Basic
import Mathlib.Data.List.Basic

/-!
# Texts and their bytes

A `str` is the list of its characters. `encode` gives its bytes; `fromUtf8` reads them back, and
`fromUtf8Lossy` reads any bytes, with U+FFFD for each part that is no character. A text whose bytes
are split before an ASCII byte is split there itself (`exists_encode_eq`): no other byte of a
character is an ASCII byte.
-/

namespace RustStd

/-- `str`. -/
abbrev Str := List Char

namespace Utf8

/-- The bytes of a text. -/
def encode (s : Str) : List UInt8 := s.flatMap String.utf8EncodeChar

@[simp] theorem encode_nil : encode [] = [] := rfl

@[simp] theorem encode_cons (c : Char) (s : Str) :
    encode (c :: s) = String.utf8EncodeChar c ++ encode s := List.flatMap_cons

@[simp] theorem encode_append (s t : Str) : encode (s ++ t) = encode s ++ encode t :=
  List.flatMap_append

/-- The bytes are those of the string. -/
theorem toByteArray_encode (s : Str) : (encode s).toByteArray = s.utf8Encode := rfl

/-- `str::from_utf8`, without the error. -/
def fromUtf8 (bytes : List UInt8) : Option Str :=
  (String.fromUTF8? bytes.toByteArray).map String.toList

/-- A list of bytes is what its array holds. -/
theorem toByteArray_injective {l l' : List UInt8} (h : l.toByteArray = l'.toByteArray) : l = l' := by
  have := congrArg (fun b => b.data.toList) h
  simpa using this

/-- Bytes are the text whose encoding they are. -/
theorem fromUtf8_eq_some {bytes : List UInt8} {s : Str} :
    fromUtf8 bytes = some s ↔ encode s = bytes := by
  unfold fromUtf8 String.fromUTF8?
  constructor
  · intro h
    split at h
    · next hvalid =>
      rw [Option.map_some, Option.some.injEq] at h
      subst h
      refine toByteArray_injective ?_
      rw [toByteArray_encode, String.utf8Encode_toList]
      rfl
    · cases h
  · rintro rfl
    rw [dif_pos (toByteArray_encode s ▸ ByteArray.isValidUTF8_utf8Encode), Option.map_some,
      Option.some.injEq]
    have : String.fromUTF8 (encode s).toByteArray
        (toByteArray_encode s ▸ ByteArray.isValidUTF8_utf8Encode) = String.ofList s := by
      rw [← String.toByteArray_inj, String.toByteArray_ofList]
      rfl
    rw [this, String.toList_ofList]

/-- A text is determined by its bytes. -/
theorem encode_injective : Function.Injective encode := by
  intro s t h
  exact Option.some.inj ((fromUtf8_eq_some.2 rfl).symm.trans (fromUtf8_eq_some.2 h.symm))

/-! ## ASCII -/

/-- The character of an ASCII byte. -/
def asciiChar (b : UInt8) : Char := Char.ofNat b.toNat

/-- The text of ASCII bytes. -/
def asciiText (bytes : List UInt8) : Str := bytes.map asciiChar

/-- An ASCII character has the value of its byte. -/
theorem asciiChar_val {b : UInt8} (h : b < 128) : (asciiChar b).toNat = b.toNat := by
  have hlt : b.toNat < 128 := h
  rw [asciiChar, Char.ofNat, dif_pos (.inl (by omega))]
  rfl

/-- It is encoded as that byte. -/
theorem utf8EncodeChar_asciiChar {b : UInt8} (h : b < 128) :
    String.utf8EncodeChar (asciiChar b) = [b] := by
  have hval : (asciiChar b).val.toNat = b.toNat := asciiChar_val h
  have hlt : b.toNat < 128 := h
  unfold String.utf8EncodeChar
  dsimp only
  rw [if_pos (by omega), hval, UInt8.ofNat_toNat]

/-- ASCII bytes are the encoding of their text. -/
theorem encode_asciiText {bytes : List UInt8} (h : ∀ b ∈ bytes, b < 128) :
    encode (asciiText bytes) = bytes := by
  induction bytes with
  | nil => rfl
  | cons b bytes ih =>
    rw [asciiText, List.map_cons, encode_cons, utf8EncodeChar_asciiChar (h b List.mem_cons_self)]
    exact congrArg (b :: ·) (ih fun b' hb' => h b' (List.mem_cons_of_mem _ hb'))

/-- The bytes of a character are one ASCII byte, or none of them is ASCII. -/
theorem utf8EncodeChar_cases (c : Char) :
    (∃ b : UInt8, b < 128 ∧ c = asciiChar b ∧ String.utf8EncodeChar c = [b]) ∨
      ∀ b ∈ String.utf8EncodeChar c, 128 ≤ b := by
  by_cases hc : c.toNat ≤ 0x7f
  · have hnat : (UInt8.ofNat c.toNat).toNat = c.toNat := by
      rw [UInt8.toNat_ofNat']
      omega
    have hlt : UInt8.ofNat c.toNat < 128 := by
      rw [UInt8.lt_iff_toNat_lt, hnat]
      exact Nat.lt_succ_of_le hc
    have hchar : c = asciiChar (UInt8.ofNat c.toNat) := by
      rw [asciiChar, hnat, Char.ofNat_toNat]
    exact .inl ⟨_, hlt, hchar, (congrArg _ hchar).trans (utf8EncodeChar_asciiChar hlt)⟩
  · refine .inr ?_
    have hc' : ¬c.val.toNat ≤ 0x7f := hc
    have hbyte : ∀ n m : Nat, 128 ≤ m → m < 256 → n = m → 128 ≤ UInt8.ofNat n := by
      rintro n m hm hm' rfl
      rw [UInt8.le_iff_toNat_le, UInt8.toNat_ofNat']
      change 128 ≤ _
      omega
    unfold String.utf8EncodeChar
    dsimp only
    rw [if_neg hc']
    split
    · simp only [List.forall_mem_cons]
      exact ⟨hbyte _ _ (by omega) (by omega) rfl, hbyte _ _ (by omega) (by omega) rfl, by simp⟩
    · split
      · simp only [List.forall_mem_cons]
        exact ⟨hbyte _ _ (by omega) (by omega) rfl, hbyte _ _ (by omega) (by omega) rfl,
          hbyte _ _ (by omega) (by omega) rfl, by simp⟩
      · simp only [List.forall_mem_cons]
        exact ⟨hbyte _ _ (by omega) (by omega) rfl, hbyte _ _ (by omega) (by omega) rfl,
          hbyte _ _ (by omega) (by omega) rfl, hbyte _ _ (by omega) (by omega) rfl, by simp⟩

/-- A text whose bytes are split before an ASCII byte is split before its character. -/
theorem exists_encode_eq {s : Str} {before after : List UInt8} {b : UInt8} (hb : b < 128)
    (h : encode s = before ++ b :: after) :
    ∃ t u, s = t ++ asciiChar b :: u ∧ encode t = before ∧ encode u = after := by
  induction s generalizing before with
  | nil => simp at h
  | cons c s ih =>
    rw [encode_cons] at h
    rcases utf8EncodeChar_cases c with ⟨b', -, rfl, hbytes⟩ | hbytes
    · rw [hbytes] at h
      cases before with
      | nil =>
        obtain ⟨rfl, hrest⟩ := List.cons.inj h
        exact ⟨[], s, rfl, rfl, hrest⟩
      | cons b'' before =>
        obtain ⟨rfl, hrest⟩ := List.cons.inj h
        obtain ⟨t, u, rfl, ht, hu⟩ := ih hrest
        exact ⟨asciiChar b' :: t, u, rfl, by rw [encode_cons, hbytes, ht]; rfl, hu⟩
    · -- the bytes of `c` are not ASCII, so all of them stand before `b`
      obtain ⟨rest, hbefore, hrest⟩ :
          ∃ rest, before = String.utf8EncodeChar c ++ rest ∧ encode s = rest ++ b :: after := by
        rcases List.append_eq_append_iff.1 h with ⟨rest, hbefore, hrest⟩ | ⟨rest, hchar, hrest⟩
        · exact ⟨rest, hbefore, hrest⟩
        · cases rest with
          | nil => exact ⟨[], by rw [hchar]; simp, hrest.symm⟩
          | cons b' rest =>
            obtain ⟨rfl, -⟩ := List.cons.inj hrest
            have := hbytes b (by rw [hchar]; simp)
            exact absurd hb (UInt8.not_lt.2 this)
      obtain ⟨t, u, rfl, ht, hu⟩ := ih hrest
      exact ⟨c :: t, u, rfl, by rw [encode_cons, ht, hbefore], hu⟩

/-! ## Prefixes -/

/-- The first character of some bytes. -/
def decodeChar (bytes : List UInt8) : Option Char := bytes.toByteArray.utf8DecodeChar? 0

/-- A character that is encoded is read back. -/
theorem decodeChar_encode (c : Char) (rest : List UInt8) :
    decodeChar (String.utf8EncodeChar c ++ rest) = some c := by
  rw [decodeChar, List.toByteArray_append]
  exact ByteArray.utf8DecodeChar?_utf8EncodeChar_append

/-- A text whose bytes start those of another one starts it. -/
theorem encode_prefix_iff {s t : Str} : encode s <+: encode t ↔ s <+: t := by
  constructor
  · intro h
    induction s generalizing t with
    | nil => exact List.nil_prefix
    | cons c s ih =>
      obtain ⟨rest, hrest⟩ := h
      rw [encode_cons, List.append_assoc] at hrest
      cases t with
      | nil => exact absurd (List.append_eq_nil_iff.1 hrest).1 String.utf8EncodeChar_ne_nil
      | cons d t =>
        rw [encode_cons] at hrest
        have hchar := congrArg decodeChar hrest
        rw [decodeChar_encode, decodeChar_encode] at hchar
        obtain rfl := Option.some.inj hchar
        exact List.cons_prefix_cons.2 ⟨rfl, ih ⟨rest, List.append_cancel_left hrest⟩⟩
  · rintro ⟨rest, rfl⟩
    exact ⟨encode rest, (encode_append s rest).symm⟩

/-- The longest start of a text that has at most `limit` bytes. -/
def fit (limit : Nat) : Str → Str
  | [] => []
  | c :: s => if c.utf8Size ≤ limit then c :: fit (limit - c.utf8Size) s else []

/-- What fits is a start of the text. -/
theorem fit_isStart (limit : Nat) (s : Str) : fit limit s <+: s := by
  induction s generalizing limit with
  | nil => exact List.nil_prefix
  | cons c s ih =>
    rw [fit]
    split
    · exact List.cons_prefix_cons.2 ⟨rfl, ih _⟩
    · exact List.nil_prefix

/-- It fits. -/
theorem length_encode_fit_le (limit : Nat) (s : Str) : (encode (fit limit s)).length ≤ limit := by
  induction s generalizing limit with
  | nil => exact Nat.zero_le _
  | cons c s ih =>
    rw [fit]
    split
    · have := ih (limit - c.utf8Size)
      rw [encode_cons, List.length_append, String.length_utf8EncodeChar]
      omega
    · exact Nat.zero_le _

/-- No longer start fits. -/
theorem prefix_fit {limit : Nat} {s t : Str} (ht : t <+: s) (hlen : (encode t).length ≤ limit) :
    t <+: fit limit s := by
  induction s generalizing limit t with
  | nil => exact ht
  | cons c s ih =>
    cases t with
    | nil => exact List.nil_prefix
    | cons d t =>
      obtain ⟨rfl, hrest⟩ := List.cons_prefix_cons.1 ht
      rw [encode_cons, List.length_append, String.length_utf8EncodeChar] at hlen
      rw [fit, if_pos (by omega)]
      exact List.cons_prefix_cons.2 ⟨rfl, ih hrest (by omega)⟩

/-- A start that fits is taken whole. -/
theorem fit_append (s : Str) (limit : Nat) (t : Str) :
    fit ((encode s).length + limit) (s ++ t) = s ++ fit limit t := by
  induction s with
  | nil => rw [encode_nil, List.length_nil, Nat.zero_add, List.nil_append, List.nil_append]
  | cons c s ih =>
    rw [encode_cons, List.length_append, String.length_utf8EncodeChar, List.cons_append, fit,
      if_pos (by omega), Nat.add_assoc, Nat.add_sub_cancel_left, ih, List.cons_append]

/-- What is left out would not have fitted: only the bytes of one character may be unused. -/
theorem limit_lt_length_encode_fit {limit : Nat} {s : Str} (h : limit < (encode s).length) :
    limit < (encode (fit limit s)).length + 4 := by
  induction s generalizing limit with
  | nil => exact absurd h (Nat.not_lt_zero _)
  | cons c s ih =>
    rw [encode_cons, List.length_append, String.length_utf8EncodeChar] at h
    rw [fit]
    split
    · have := @ih (limit - c.utf8Size) (by omega)
      rw [encode_cons, List.length_append, String.length_utf8EncodeChar]
      omega
    · have := c.utf8Size_le_four
      change limit < 0 + 4
      omega

/-! ## Lossy decoding -/

/-- The second byte may follow the first one in a character of three or four bytes. -/
def startsCharacter (b₀ b₁ : UInt8) : Bool :=
  (b₀ = 0xE0 && 0xA0 ≤ b₁ && b₁ ≤ 0xBF) || (0xE1 ≤ b₀ && b₀ ≤ 0xEC && 0x80 ≤ b₁ && b₁ ≤ 0xBF) ||
    (b₀ = 0xED && 0x80 ≤ b₁ && b₁ ≤ 0x9F) || (0xEE ≤ b₀ && b₀ ≤ 0xEF && 0x80 ≤ b₁ && b₁ ≤ 0xBF) ||
    (b₀ = 0xF0 && 0x90 ≤ b₁ && b₁ ≤ 0xBF) || (0xF1 ≤ b₀ && b₀ ≤ 0xF3 && 0x80 ≤ b₁ && b₁ ≤ 0xBF) ||
    (b₀ = 0xF4 && 0x80 ≤ b₁ && b₁ ≤ 0x8F)

/-- The length of what U+FFFD stands for: the longest start of a character, or one byte. -/
def invalidLength : List UInt8 → Nat
  | b₀ :: b₁ :: b₂ :: _ =>
    if startsCharacter b₀ b₁ then if 0xF0 ≤ b₀ && 0x80 ≤ b₂ && b₂ ≤ 0xBF then 3 else 2 else 1
  | [b₀, b₁] => if startsCharacter b₀ b₁ then 2 else 1
  | _ => 1

/-- A sequence that is not valid takes at least one byte. -/
theorem invalidLength_pos (bytes : List UInt8) : 0 < invalidLength bytes := by
  unfold invalidLength
  split <;> grind

/-- `String::from_utf8_lossy`. -/
def fromUtf8Lossy (bytes : List UInt8) : Str :=
  match bytes with
  | [] => []
  | b :: bs =>
    match decodeChar (b :: bs) with
    | some c => c :: fromUtf8Lossy ((b :: bs).drop c.utf8Size)
    | none => '\uFFFD' :: fromUtf8Lossy ((b :: bs).drop (invalidLength (b :: bs)))
termination_by bytes.length
decreasing_by
  · have := c.utf8Size_pos
    simp only [List.length_drop, List.length_cons]
    omega
  · have := invalidLength_pos (b :: bs)
    simp only [List.length_drop, List.length_cons]
    omega

/-- The bytes of a text are read back. -/
@[simp] theorem fromUtf8Lossy_encode (s : Str) : fromUtf8Lossy (encode s) = s := by
  induction s with
  | nil => rw [encode_nil, fromUtf8Lossy]
  | cons c s ih =>
    have hdecode := decodeChar_encode c (encode s)
    have hdrop : (String.utf8EncodeChar c ++ encode s).drop c.utf8Size = encode s := by
      rw [← String.length_utf8EncodeChar, List.drop_left]
    rw [encode_cons]
    cases hbytes : String.utf8EncodeChar c ++ encode s with
    | nil => exact absurd (List.append_eq_nil_iff.1 hbytes).1 String.utf8EncodeChar_ne_nil
    | cons b bs =>
      rw [hbytes] at hdecode hdrop
      rw [fromUtf8Lossy, hdecode]
      dsimp only
      rw [hdrop, ih]

end Utf8

end RustStd
