import Lapdev.RustStd.HashMap

/-!
# Addresses, and sets that are walked over

An `Ipv4Addr` is its octets. A `HashSet` whose walk is observed is a table without values, and
`HashSet.next` is the first element of a walk in the order of a seed.
-/

namespace RustStd

/-- `Ipv4Addr`. -/
structure Ipv4Addr where
  a : UInt8
  b : UInt8
  c : UInt8
  d : UInt8
  deriving DecidableEq

/-- `IpAddr`. -/
inductive IpAddr
  | v4 (ip : Ipv4Addr)
  | v6 (segments : BitVec 128)
  deriving DecidableEq

/-- `SocketAddr`. An address of version 6 has a flow label and a scope as well. -/
inductive SocketAddr
  | v4 (ip : Ipv4Addr) (port : UInt16)
  | v6 (segments : BitVec 128) (port : UInt16) (flowinfo scopeId : UInt32)
  deriving DecidableEq

/-- `SocketAddr::new`. -/
def SocketAddr.new : IpAddr → UInt16 → SocketAddr
  | .v4 ip, port => .v4 ip port
  | .v6 segments, port => .v6 segments port 0 0

/-- `SocketAddr::ip`. -/
def SocketAddr.ip : SocketAddr → IpAddr
  | .v4 ip _ => .v4 ip
  | .v6 segments .. => .v6 segments

/-- `SocketAddr::port`. -/
def SocketAddr.port : SocketAddr → UInt16
  | .v4 _ port => port
  | .v6 _ port .. => port

/-- `u16::saturating_sub`. -/
def saturatingSub (m n : UInt16) : UInt16 := if m < n then 0 else m - n

/-- A number of two bytes is put together from them again. -/
theorem bytes_or (n : UInt16) :
    (n >>> 8).toUInt8.toUInt16 <<< 8 ||| (n &&& 0xFF).toUInt8.toUInt16 = n := by
  have hn := n.toNat_lt
  have hhigh : ((n >>> 8).toUInt8.toUInt16 <<< 8).toNat = (n.toNat / 256) <<< 8 := by
    have : n.toNat / 256 % 256 * 256 % 65536 = n.toNat / 256 * 256 := by omega
    simpa [Nat.shiftRight_eq_div_pow, Nat.shiftLeft_eq] using this
  have hlow : (n &&& 0xFF).toUInt8.toUInt16.toNat = n.toNat % 256 := by
    have := Nat.and_two_pow_sub_one_eq_mod (n.toNat % 256) 8
    simpa using this
  have hlt : n.toNat % 256 < 2 ^ 8 := Nat.mod_lt _ (by decide)
  apply UInt16.toNat_inj.1
  rw [UInt16.toNat_or, hhigh, hlow, ← Nat.shiftLeft_add_eq_or_of_lt hlt, Nat.shiftLeft_eq]
  omega

universe u

/-- `HashSet<T>` as a table that is walked over. -/
abbrev HashSet (T : Type u) := HashTable T Unit

section
variable {T : Type u}

/-- `set.iter().next()` in the order of a seed. -/
def HashSet.next (rs : RandomState T) (s : HashSet T) : Option T := (rs.arrange s.keys).head?

theorem HashSet.mem_of_next {rs : RandomState T} {s : HashSet T} {x : T} (h : s.next rs = some x) :
    x ∈ s := by
  have := List.mem_of_mem_head? (Option.mem_def.2 h)
  rwa [RandomState.mem_arrange] at this

theorem HashSet.next_eq_none {rs : RandomState T} {s : HashSet T} (h : s.next rs = none) (x : T) :
    x ∉ s := by
  have hnil := List.head?_eq_none_iff.1 h
  intro hx
  have : x ∈ rs.arrange s.keys := rs.mem_arrange.2 hx
  rw [hnil] at this
  cases this

end

end RustStd
