import Mathlib.Data.BitVec

/-!
# UUIDs

A UUID is its 128 bits; `Display` writes it as 32 lowercase hexadecimal digits in five groups.
-/

namespace RustStd

/-- `uuid::Uuid`. -/
abbrev Uuid := BitVec 128

instance instLawfulBEqUuid : LawfulBEq Uuid := inferInstance

namespace Uuid

/-- A lowercase hexadecimal digit. -/
def hexDigit (n : Nat) : Char :=
  if n < 10 then Char.ofNat ('0'.toNat + n) else Char.ofNat ('a'.toNat + (n - 10))

/-- The 32 digits of a UUID, the most significant first. -/
def digits (u : Uuid) : List Char :=
  (List.range 32).map fun i => hexDigit ((u.toNat / 16 ^ (31 - i)) % 16)

/-- `Display`: the digits in groups of 8, 4, 4, 4 and 12. -/
def hyphenated (u : Uuid) : String :=
  let d := digits u
  String.ofList (d.take 8 ++ '-' :: (d.drop 8).take 4 ++ '-' :: (d.drop 12).take 4 ++
    '-' :: (d.drop 16).take 4 ++ '-' :: d.drop 20)

end Uuid

end RustStd
