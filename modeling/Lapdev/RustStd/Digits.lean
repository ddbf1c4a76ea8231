import Lapdev.RustStd.Net
import Lapdev.RustStd.Str

/-!
# Numbers and addresses as texts

`Display` of unsigned integers and of addresses, and `FromStr` of `u16`, which also takes a sign in
front. A number is read back from its digits (`Str.parseU16_ofNat`).
-/

namespace RustStd

namespace Str

/-- `Display` of an unsigned integer. -/
def ofNat (n : Nat) : Str := Nat.toDigits 10 n

/-- `LowerHex` of an unsigned integer. -/
def ofNatHex (n : Nat) : Str := Nat.toDigits 16 n

/-- A number without the sign that it may have in front. -/
def stripPlus : Str → Str
  | '+' :: rest => rest
  | s => s

/-- `str::parse::<u16>`. -/
def parseU16 (s : Str) : Option UInt16 :=
  let digits := stripPlus s
  if digits ≠ [] ∧ digits.all Char.isDigit then
    let n := Nat.ofDigitChars 10 digits 0
    if n < 2 ^ 16 then some (UInt16.ofNat n) else none
  else none

theorem isDigit_of_mem_ofNat {n : Nat} {c : Char} (h : c ∈ ofNat n) : c.isDigit = true :=
  Nat.isDigit_of_mem_toDigits (by decide) (by decide) h

theorem ofNat_ne_nil (n : Nat) : ofNat n ≠ [] := Nat.toDigits_ne_nil

theorem stripPlus_of_ne {s : Str} (h : s.head? ≠ some '+') : stripPlus s = s := by
  unfold stripPlus
  split
  · exact absurd rfl h
  · rfl

/-- A port is read back from its digits. -/
theorem parseU16_ofNat (n : UInt16) : parseU16 (ofNat n.toNat) = some n := by
  have hplus : (ofNat n.toNat).head? ≠ some '+' := by
    intro h
    have := isDigit_of_mem_ofNat (List.mem_of_mem_head? h)
    cases this
  have hall : (ofNat n.toNat).all Char.isDigit := List.all_eq_true.2 fun c => isDigit_of_mem_ofNat
  have hvalue : Nat.ofDigitChars 10 (ofNat n.toNat) 0 = n.toNat :=
    Nat.ofDigitChars_toDigits (by decide) (by decide)
  simp only [parseU16, stripPlus_of_ne hplus, hvalue]
  rw [if_pos ⟨ofNat_ne_nil _, hall⟩, if_pos n.toNat_lt, UInt16.ofNat_toNat]

end Str

/-- `Display for Ipv4Addr`. -/
def Ipv4Addr.display (ip : Ipv4Addr) : Str :=
  Str.join ['.'] ([ip.a, ip.b, ip.c, ip.d].map fun octet => Str.ofNat octet.toNat)

/-- The eight segments of an `Ipv6Addr`. -/
def ipv6Segments (bits : BitVec 128) : List Nat :=
  (List.range 8).map fun i => bits.toNat / 2 ^ (16 * (7 - i)) % 2 ^ 16

/-- The start and the length of the first longest run of segments that are `0`, of runs that start
at an index. -/
def longestZeros (segments : List Nat) : Nat × Nat :=
  let (longest, _, _) := segments.foldl
    (fun (longest, current, i) segment =>
      if segment = 0 then
        let current := if current.2 = 0 then (i, 1) else (current.1, current.2 + 1)
        (if longest.2 < current.2 then current else longest, current, i + 1)
      else (longest, (0, 0), i + 1))
    ((0, 0), (0, 0), 0)
  longest

/-- `Display for Ipv6Addr`: an address that stands for one of the old ones by its octets, and
otherwise the longest run of zeros left out where it has more than one. -/
def displayIpv6 (bits : BitVec 128) : Str :=
  let segments := ipv6Segments bits
  let text := fun segments : List Nat => Str.join [':'] (segments.map Str.ofNatHex)
  if bits.toNat / 2 ^ 32 = 0xFFFF then
    "::ffff:".toList ++ Ipv4Addr.display ⟨(bits >>> 24).toNat.toUInt8, (bits >>> 16).toNat.toUInt8,
      (bits >>> 8).toNat.toUInt8, bits.toNat.toUInt8⟩
  else
    let (start, length) := longestZeros segments
    if 1 < length then
      text (segments.take start) ++ "::".toList ++ text (segments.drop (start + length))
    else text segments

/-- `Display for IpAddr`. -/
def IpAddr.display : IpAddr → Str
  | .v4 ip => ip.display
  | .v6 bits => displayIpv6 bits

end RustStd
