import Lapdev.RustStd.Str
import Lapdev.RustStd.Uuid
import Mathlib.Tactic.IntervalCases

/-!
# Reading UUIDs

A `UuidParser` is `Uuid::parse_str` as far as the code relies on it: it reads back what `Display`
writes. `UuidParser.hyphenated` is one.
-/

namespace RustStd

/-- `Uuid::parse_str`. -/
structure UuidParser where
  parseStr : Str → Option Uuid
  parseStr_hyphenated : ∀ u : Uuid, parseStr u.hyphenated.toList = some u

namespace Uuid

/-- The value of a hexadecimal digit. -/
def hexValue (c : Char) : Option Nat :=
  if '0' ≤ c ∧ c ≤ '9' then some (c.toNat - '0'.toNat)
  else if 'a' ≤ c ∧ c ≤ 'f' then some (c.toNat - 'a'.toNat + 10)
  else if 'A' ≤ c ∧ c ≤ 'F' then some (c.toNat - 'A'.toNat + 10)
  else none

theorem hexValue_hexDigit {n : Nat} (h : n < 16) : hexValue (hexDigit n) = some n := by
  interval_cases n <;> rfl

/-- The value of some digits, after those that gave `n`. -/
def parseDigits (n : Nat) : List Char → Option Nat
  | [] => some n
  | c :: digits => (hexValue c).bind fun d => parseDigits (16 * n + d) digits

theorem parseDigits_append {n m : Nat} {digits : List Char} (h : parseDigits n digits = some m)
    (digits' : List Char) : parseDigits n (digits ++ digits') = parseDigits m digits' := by
  induction digits generalizing n with
  | nil =>
    cases h
    rfl
  | cons c digits ih =>
    obtain ⟨d, hd, hrest⟩ := Option.bind_eq_some_iff.1 h
    rw [List.cons_append, parseDigits, hd, Option.bind_some, ih hrest]

/-- The last digits of a number are read back. -/
theorem parseDigits_range (n k : Nat) :
    parseDigits 0 ((List.range k).map fun i => hexDigit (n / 16 ^ (k - 1 - i) % 16)) =
      some (n % 16 ^ k) := by
  induction k generalizing n with
  | zero => simp [parseDigits, Nat.mod_one]
  | succ k ih =>
    have hfirst : (List.range k).map (fun i => hexDigit (n / 16 ^ (k + 1 - 1 - i) % 16)) =
        (List.range k).map fun i => hexDigit (n / 16 / 16 ^ (k - 1 - i) % 16) := by
      refine List.map_congr_left fun i hi => ?_
      have hlt := List.mem_range.1 hi
      rw [Nat.div_div_eq_div_mul, ← Nat.pow_succ', show k + 1 - 1 - i = k - 1 - i + 1 by omega]
    have hlast : n / 16 ^ (k + 1 - 1 - k) % 16 = n % 16 := by
      rw [Nat.add_sub_cancel, Nat.sub_self, Nat.pow_zero, Nat.div_one]
    rw [List.range_succ, List.map_append, hfirst, parseDigits_append (ih (n / 16)), List.map_singleton,
      hlast, parseDigits, hexValue_hexDigit (Nat.mod_lt n (by decide)), Option.bind_some, parseDigits,
      Nat.pow_succ', Nat.mod_mul]
    congr 1
    omega

/-- A hyphenated UUID. -/
def parseHyphenated (s : Str) : Option Uuid :=
  let groups := s.splitOn '-'
  if groups.map List.length = [8, 4, 4, 4, 12] then
    (parseDigits 0 groups.flatten).map (BitVec.ofNat 128)
  else none

theorem length_digits (u : Uuid) : (digits u).length = 32 := by
  rw [digits, List.length_map, List.length_range]

theorem mem_digits {u : Uuid} {c : Char} (h : c ∈ digits u) : ∃ n < 16, c = hexDigit n := by
  obtain ⟨i, -, rfl⟩ := List.mem_map.1 h
  exact ⟨_, Nat.mod_lt _ (by decide), rfl⟩

theorem parseDigits_digits (u : Uuid) : parseDigits 0 (digits u) = some u.toNat := by
  have hrange := parseDigits_range u.toNat 32
  rwa [Nat.mod_eq_of_lt (by exact u.isLt)] at hrange

/-- The five groups of the digits. -/
def groups (u : Uuid) : List (List Char) :=
  [(digits u).take 8, ((digits u).drop 8).take 4, ((digits u).drop 12).take 4,
    ((digits u).drop 16).take 4, (digits u).drop 20]

theorem hyphenated_eq (u : Uuid) : u.hyphenated.toList = ['-'].intercalate (groups u) := by
  simp [hyphenated, groups, List.intercalate, List.intersperse]

theorem flatten_groups (u : Uuid) : (groups u).flatten = digits u := by
  have hgroup : ∀ n, ((digits u).drop n).take 4 ++ (digits u).drop (n + 4) = (digits u).drop n := by
    intro n
    rw [← List.drop_drop, List.take_append_drop]
  simp only [groups, List.flatten_cons, List.flatten_nil, List.append_nil]
  rw [hgroup 16, hgroup 12, hgroup 8, List.take_append_drop]

theorem mem_of_mem_groups {u : Uuid} {g : List Char} (hg : g ∈ groups u) :
    ∀ c ∈ g, c ∈ digits u := by
  intro c hc
  rw [← flatten_groups]
  exact List.mem_flatten_of_mem hg hc

/-- A UUID is written with digits and hyphens. -/
theorem mem_hyphenated {u : Uuid} {c : Char} (h : c ∈ u.hyphenated.toList) :
    c = '-' ∨ ∃ n < 16, c = hexDigit n := by
  rw [hyphenated_eq] at h
  refine (Str.mem_join h).imp_right ?_
  rintro ⟨g, hg, hc⟩
  exact mem_digits (mem_of_mem_groups hg c hc)

theorem parseHyphenated_hyphenated (u : Uuid) :
    parseHyphenated u.hyphenated.toList = some u := by
  have hsplit : u.hyphenated.toList.splitOn '-' = groups u := by
    rw [hyphenated_eq]
    refine List.splitOn_intercalate '-' (fun g hg hmem => ?_) (List.cons_ne_nil _ _)
    obtain ⟨n, hn, heq⟩ := mem_digits (mem_of_mem_groups hg _ hmem)
    interval_cases n <;> cases heq
  have hlengths : (groups u).map List.length = [8, 4, 4, 4, 12] := by
    simp [groups, length_digits]
  unfold parseHyphenated
  dsimp only
  rw [hsplit, if_pos hlengths, flatten_groups, parseDigits_digits, Option.map_some,
    BitVec.ofNat_toNat, BitVec.setWidth_eq]

end Uuid

/-- A parser of hyphenated UUIDs. -/
def UuidParser.hyphenated : UuidParser :=
  ⟨Uuid.parseHyphenated, Uuid.parseHyphenated_hyphenated⟩

end RustStd
