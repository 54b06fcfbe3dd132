import Mathlib
import MatchPlane.Library.AddressBlocks

/-!
# Addresses of providers

A provider is only called at an address that the filter does not forbid.  The filter names
blocks of addresses, and tests them by masks and by segments.
-/

namespace MatchPlane.Payments

open MatchPlane.Library

/-! ## Addresses -/

structure Ipv4Addr where
  a : UInt8
  b : UInt8
  c : UInt8
  d : UInt8
  deriving DecidableEq, Repr

structure Ipv6Addr where
  a : UInt16
  b : UInt16
  c : UInt16
  d : UInt16
  e : UInt16
  f : UInt16
  g : UInt16
  h : UInt16
  deriving DecidableEq, Repr

inductive IpAddr where
  | v4 (address : Ipv4Addr)
  | v6 (address : Ipv6Addr)
  deriving DecidableEq, Repr

namespace Ipv4Addr

variable (address : Ipv4Addr)

def number : Nat :=
  ((address.a.toNat * 256 + address.b.toNat) * 256 + address.c.toNat) * 256 + address.d.toNat

/-- `u32::from_be_bytes` of the octets. -/
def value : UInt32 := UInt32.ofNat address.number

def isPrivate : Bool :=
  address.a = 10 || (address.a = 172 && 16 ≤ address.b && address.b ≤ 31) ||
    (address.a = 192 && address.b = 168)

def isLoopback : Bool := address.a = 127

def isLinkLocal : Bool := address.a = 169 && address.b = 254

def isUnspecified : Bool := address = ⟨0, 0, 0, 0⟩

end Ipv4Addr

namespace Ipv6Addr

variable (address : Ipv6Addr)

def number : Nat :=
  ((((((address.a.toNat * 65536 + address.b.toNat) * 65536 + address.c.toNat) * 65536 +
    address.d.toNat) * 65536 + address.e.toNat) * 65536 + address.f.toNat) * 65536 +
    address.g.toNat) * 65536 + address.h.toNat

def isLoopback : Bool := address = ⟨0, 0, 0, 0, 0, 0, 0, 1⟩

def isUnspecified : Bool := address = ⟨0, 0, 0, 0, 0, 0, 0, 0⟩

def isUniqueLocal : Bool := address.a &&& 0xfe00 = 0xfc00

def isUnicastLinkLocal : Bool := address.a &&& 0xffc0 = 0xfe80

/-- `to_ipv4`: the last two segments, after five that are zero and one that is zero or full. -/
def toIpv4 : Option Ipv4Addr :=
  if address.a = 0 ∧ address.b = 0 ∧ address.c = 0 ∧ address.d = 0 ∧ address.e = 0 ∧
      (address.f = 0 ∨ address.f = 0xffff) then
    some ⟨(address.g >>> 8).toUInt8, address.g.toUInt8, (address.h >>> 8).toUInt8,
      address.h.toUInt8⟩
  else none

end Ipv6Addr

/-! ## The filter -/

def inIpv4Range (value network prefix_ : UInt32) : Bool :=
  let mask : UInt32 := if prefix_ = 0 then 0 else 0xffffffff <<< (32 - prefix_)
  value &&& mask = network &&& mask

def isForbiddenIpv4 (address : Ipv4Addr) : Bool :=
  let value := address.value
  address.isPrivate || address.isLoopback || address.isLinkLocal || address.isUnspecified ||
    value = 0xffffffff ||
    inIpv4Range value 0 8 || -- 0.0.0.0/8
    inIpv4Range value 0x64400000 10 || -- 100.64.0.0/10
    inIpv4Range value 0xc0000000 24 || -- 192.0.0.0/24
    inIpv4Range value 0xc0000200 24 || -- 192.0.2.0/24
    inIpv4Range value 0xc01fc400 24 || -- 192.31.196.0/24
    inIpv4Range value 0xc034c100 24 || -- 192.52.193.0/24
    inIpv4Range value 0xc0af3000 24 || -- 192.175.48.0/24
    inIpv4Range value 0xc0586300 24 || -- 192.88.99.0/24
    inIpv4Range value 0xc6120000 15 || -- 198.18.0.0/15
    inIpv4Range value 0xc6336400 24 || -- 198.51.100.0/24
    inIpv4Range value 0xcb007100 24 || -- 203.0.113.0/24
    inIpv4Range value 0xe0000000 4 || -- 224.0.0.0/4
    inIpv4Range value 0xf0000000 4 || -- 240.0.0.0/4
    value = 0xa83f8110 -- 168.63.129.16

def isForbiddenIpv6 (address : Ipv6Addr) : Bool :=
  let ⟨a, b, c, d, e, f, g, h⟩ := address
  address.isLoopback || address.isUniqueLocal || address.isUnicastLinkLocal ||
    address.isUnspecified || address.toIpv4.isSome || a = 0 ||
    a &&& 0xfe00 = 0xfc00 || -- fc00::/7
    a &&& 0xffc0 = 0xfe80 || -- fe80::/10
    a &&& 0xff00 = 0xff00 || -- ff00::/8
    (a = 0x2001 && b = 0x0db8) || -- 2001:db8::/32
    (a = 0x2001 && b = 0x0002 && c = 0) || -- 2001:2::/48
    (a = 0x2001 && b &&& 0xfff0 = 0x0010) || -- 2001:10::/28
    (a = 0x2001 && b &&& 0xfff0 = 0x0020) || -- 2001:20::/28
    (a = 0x0100 && [b, c, d, e, f, g, h].all (· = 0)) || -- 100::/64
    a &&& 0xffc0 = 0xfec0 || -- fec0::/10
    (a = 0x0064 && b = 0xff9b && [c, d, e, f].all (· = 0)) || -- 64:ff9b::/96
    (a = 0x0064 && b = 0xff9b && c = 1) || -- 64:ff9b:1::/48
    a = 0x2002 || -- 2002::/16
    (a = 0x2001 && b = 0) || -- 2001::/32
    (a = 0x3fff && b &&& 0xfff0 = 0x0) -- 3fff::/20

def isForbiddenProviderAddress : IpAddr → Bool
  | .v4 address => isForbiddenIpv4 address
  | .v6 address => isForbiddenIpv6 address

/-! ## The blocks that the filter names -/

/-- The blocks of the comments, and the one address that is named by itself. -/
def listedIpv4 : List (AddressBlock 32) :=
  [⟨0, 8⟩, ⟨0x64400000, 10⟩, ⟨0xc0000000, 24⟩, ⟨0xc0000200, 24⟩, ⟨0xc01fc400, 24⟩,
    ⟨0xc034c100, 24⟩, ⟨0xc0af3000, 24⟩, ⟨0xc0586300, 24⟩, ⟨0xc6120000, 15⟩, ⟨0xc6336400, 24⟩,
    ⟨0xcb007100, 24⟩, ⟨0xe0000000, 4⟩, ⟨0xf0000000, 4⟩, ⟨0xa83f8110, 32⟩]

/-- Private, loopback and link-local addresses. -/
def localIpv4 : List (AddressBlock 32) :=
  [⟨0x0a000000, 8⟩, ⟨0xac100000, 12⟩, ⟨0xc0a80000, 16⟩, ⟨0x7f000000, 8⟩, ⟨0xa9fe0000, 16⟩]

/-- The blocks of the comments. -/
def listedIpv6 : List (AddressBlock 128) :=
  [⟨0xfc00 <<< 112, 7⟩, ⟨0xfe80 <<< 112, 10⟩, ⟨0xff00 <<< 112, 8⟩, ⟨0x20010db8 <<< 96, 32⟩,
    ⟨0x200100020000 <<< 80, 48⟩, ⟨0x20010010 <<< 96, 28⟩, ⟨0x20010020 <<< 96, 28⟩,
    ⟨0x0100 <<< 112, 64⟩, ⟨0xfec0 <<< 112, 10⟩, ⟨0x0064ff9b <<< 96, 96⟩,
    ⟨0x0064ff9b0001 <<< 80, 48⟩, ⟨0x2002 <<< 112, 16⟩, ⟨0x20010000 <<< 96, 32⟩,
    ⟨0x3fff <<< 112, 20⟩]

/-- The blocks that the segments test: two of them are smaller than in their comments. -/
def testedIpv6 : List (AddressBlock 128) :=
  [⟨0xfc00 <<< 112, 7⟩, ⟨0xfe80 <<< 112, 10⟩, ⟨0xff00 <<< 112, 8⟩, ⟨0x20010db8 <<< 96, 32⟩,
    ⟨0x200100020000 <<< 80, 48⟩, ⟨0x20010010 <<< 96, 28⟩, ⟨0x20010020 <<< 96, 28⟩,
    ⟨0x0100 <<< 112, 128⟩, ⟨0xfec0 <<< 112, 10⟩, ⟨0x0064ff9b <<< 96, 96⟩,
    ⟨0x0064ff9b0001 <<< 80, 48⟩, ⟨0x2002 <<< 112, 16⟩, ⟨0x20010000 <<< 96, 32⟩,
    ⟨0x3fff <<< 112, 28⟩]

section Ipv4

variable {address : Ipv4Addr}

theorem Ipv4Addr.number_lt (address : Ipv4Addr) : address.number < 2 ^ 32 := by
  have ha := address.a.toNat_lt
  have hb := address.b.toNat_lt
  have hc := address.c.toNat_lt
  have hd := address.d.toNat_lt
  unfold Ipv4Addr.number
  omega

theorem Ipv4Addr.toNat_value (address : Ipv4Addr) : address.value.toNat = address.number :=
  UInt32.toNat_ofNat_of_lt' address.number_lt

/-- The masked test is the one of the block. -/
theorem inIpv4Range_iff {network prefix_ : UInt32} (hfirst : 0 < prefix_.toNat)
    (hlast : prefix_.toNat ≤ 32) : inIpv4Range address.value network prefix_ = true ↔
      (⟨network.toNat, prefix_.toNat⟩ : AddressBlock 32).Contains address.number := by
  have hmask : (if prefix_ = 0 then (0 : UInt32) else 0xffffffff <<< (32 - prefix_)).toNat =
      2 ^ 32 - 2 ^ (32 - prefix_.toNat) := by
    obtain ⟨bits, hbits⟩ : ∃ bits, prefix_.toNat = bits := ⟨_, rfl⟩
    obtain rfl : prefix_ = UInt32.ofNat bits := by rw [← hbits, UInt32.ofNat_toNat]
    rw [hbits] at hfirst hlast ⊢
    interval_cases bits <;> rfl
  rw [inIpv4Range, decide_eq_true_eq, ← UInt32.toNat_inj, UInt32.toNat_and, UInt32.toNat_and,
    hmask, address.toNat_value]
  exact and_mask_eq_iff (Nat.sub_le _ _) address.number_lt network.toNat_lt

theorem isLocal_iff : (address.isPrivate = true ∨ address.isLoopback = true ∨
    address.isLinkLocal = true) ↔ ∃ block ∈ localIpv4, block.Contains address.number := by
  have ha := address.a.toNat_lt
  have hb := address.b.toNat_lt
  have hc := address.c.toNat_lt
  have hd := address.d.toNat_lt
  simp only [Ipv4Addr.isPrivate, Ipv4Addr.isLoopback, Ipv4Addr.isLinkLocal, Bool.or_eq_true,
    Bool.and_eq_true, decide_eq_true_eq, ← UInt8.toNat_inj, UInt8.le_iff_toNat_le, localIpv4,
    List.mem_cons, List.not_mem_nil, or_false, exists_eq_or_imp, exists_eq_left,
    AddressBlock.Contains, AddressBlock.hostBits, Ipv4Addr.number, UInt8.reduceToNat]
  omega

theorem isForbiddenIpv4_iff : isForbiddenIpv4 address = true ↔
    (∃ block ∈ listedIpv4, block.Contains address.number) ∨
      ∃ block ∈ localIpv4, block.Contains address.number := by
  have hunspecified : address.isUnspecified = true →
      (⟨0, 8⟩ : AddressBlock 32).Contains address.number := by
    intro h
    rw [Ipv4Addr.isUnspecified, decide_eq_true_eq] at h
    subst h
    decide
  have hbroadcast : address.value = 0xffffffff →
      (⟨0xf0000000, 4⟩ : AddressBlock 32).Contains address.number := by
    intro h
    rw [← address.toNat_value, h]
    decide
  have hsingle : address.value = 0xa83f8110 ↔
      (⟨0xa83f8110, 32⟩ : AddressBlock 32).Contains address.number := by
    rw [← UInt32.toNat_inj, address.toNat_value]
    simp [AddressBlock.Contains, AddressBlock.hostBits]
  rw [← isLocal_iff, or_comm]
  simp (disch := decide) only [isForbiddenIpv4, Bool.or_eq_true, decide_eq_true_eq, hsingle,
    inIpv4Range_iff, UInt32.reduceToNat, listedIpv4, List.mem_cons, List.not_mem_nil, or_false,
    exists_eq_or_imp, exists_eq_left, or_assoc]
  constructor
  · rintro (hlocal | hlocal | hlocal | hzero | hlast | hlisted)
    · simp [hlocal]
    · simp [hlocal]
    · simp [hlocal]
    · simp [hunspecified hzero]
    · simp [hbroadcast hlast]
    · exact .inr (.inr (.inr hlisted))
  · rintro (hlocal | hlocal | hlocal | hlisted)
    · simp [hlocal]
    · simp [hlocal]
    · simp [hlocal]
    · exact .inr (.inr (.inr (.inr (.inr hlisted))))

end Ipv4

section Ipv6

variable {address : Ipv6Addr}

/-- The test of a masked segment is the one of a block of segments. -/
theorem masked_eq_iff {segment network mask : UInt16} {host : Nat} (hhost : host ≤ 16)
    (hmask : mask.toNat = 2 ^ 16 - 2 ^ host) (hnetwork : network &&& mask = network) :
    segment &&& mask = network ↔ segment.toNat / 2 ^ host = network.toNat / 2 ^ host := by
  have hmasked : segment &&& mask = network ↔ segment &&& mask = network &&& mask := by
    rw [hnetwork]
  rw [hmasked, ← UInt16.toNat_inj, UInt16.toNat_and, UInt16.toNat_and, hmask]
  exact and_mask_eq_iff hhost segment.toNat_lt network.toNat_lt

/-- The bits of an address above a segment are those of the segments before it. -/
theorem Ipv6Addr.number_div (address : Ipv6Addr) :
    address.number / 2 ^ 112 = address.a.toNat ∧
      address.number / 2 ^ 96 = address.a.toNat * 2 ^ 16 + address.b.toNat ∧
      address.number / 2 ^ 80 =
        address.a.toNat * 2 ^ 32 + address.b.toNat * 2 ^ 16 + address.c.toNat ∧
      address.number % 2 ^ 96 / 2 ^ 32 = address.c.toNat * 2 ^ 48 + address.d.toNat * 2 ^ 32 +
        address.e.toNat * 2 ^ 16 + address.f.toNat := by
  have hb := address.b.toNat_lt
  have hc := address.c.toNat_lt
  have hd := address.d.toNat_lt
  have he := address.e.toNat_lt
  have hf := address.f.toNat_lt
  have hg := address.g.toNat_lt
  have hh := address.h.toNat_lt
  unfold Ipv6Addr.number
  omega

/-- The addresses of the blocks 100::/64 and 3fff::/20 that the segments do not test. -/
def Ipv6Addr.InHole (address : Ipv6Addr) : Prop :=
  ((⟨0x0100 <<< 112, 64⟩ : AddressBlock 128).Contains address.number ∧
      address.number ≠ 0x0100 <<< 112) ∨
    ((⟨0x3fff <<< 112, 20⟩ : AddressBlock 128).Contains address.number ∧
      ¬ (⟨0x3fff <<< 112, 28⟩ : AddressBlock 128).Contains address.number)

/-- A test of the first segment. -/
theorem firstSegment_iff {network mask : UInt16} {host : Nat} (hhost : host ≤ 16)
    (hmask : mask.toNat = 2 ^ 16 - 2 ^ host) (hnetwork : network &&& mask = network) :
    address.a &&& mask = network ↔
      (⟨network.toNat <<< 112, 16 - host⟩ : AddressBlock 128).Contains address.number := by
  have hbits : 128 - (16 - host) = 112 + host := by omega
  rw [masked_eq_iff hhost hmask hnetwork, AddressBlock.Contains, AddressBlock.hostBits, hbits,
    pow_add, ← Nat.div_div_eq_div_mul, ← Nat.div_div_eq_div_mul, address.number_div.1,
    Nat.shiftLeft_eq, Nat.mul_div_cancel _ (Nat.two_pow_pos 112)]

/-- A test of the first two segments, where the second one is masked. -/
theorem secondSegment_iff {first network : UInt16} (hnetwork : network &&& 0xfff0 = network) :
    (address.a = first ∧ address.b &&& 0xfff0 = network) ↔
      (⟨(first.toNat * 2 ^ 16 + network.toNat) <<< 96, 28⟩ : AddressBlock 128).Contains
        address.number := by
  have hlow := address.b.toNat_lt
  have hnetworkLow := network.toNat_lt
  have hdiv := address.number_div.2.1
  rw [@masked_eq_iff _ _ _ 4 (by decide) rfl hnetwork]
  simp only [← UInt16.toNat_inj, AddressBlock.Contains, AddressBlock.hostBits, Nat.shiftLeft_eq]
  omega

/-- A test of whole segments. -/
theorem wholeSegments_iff {first second third : UInt16} :
    (address.a = first ↔
      (⟨first.toNat <<< 112, 16⟩ : AddressBlock 128).Contains address.number) ∧
    (address.a = first ∧ address.b = second ↔
      (⟨(first.toNat * 2 ^ 16 + second.toNat) <<< 96, 32⟩ : AddressBlock 128).Contains
        address.number) ∧
    (address.a = first ∧ address.b = second ∧ address.c = third ↔
      (⟨(first.toNat * 2 ^ 32 + second.toNat * 2 ^ 16 + third.toNat) <<< 80, 48⟩ :
        AddressBlock 128).Contains address.number) := by
  have hsecond := second.toNat_lt
  have hthird := third.toNat_lt
  have hb := address.b.toNat_lt
  have hc := address.c.toNat_lt
  obtain ⟨hdivFirst, hdivSecond, hdivThird, -⟩ := address.number_div
  simp only [← UInt16.toNat_inj, AddressBlock.Contains, AddressBlock.hostBits, Nat.shiftLeft_eq]
  refine ⟨?_, ?_, ?_⟩
  · omega
  · omega
  · omega

/-- A test of the first segments that leaves zeros. -/
theorem zeroSegments_iff :
    (address.a = 0x0100 ∧ address.b = 0 ∧ address.c = 0 ∧ address.d = 0 ∧ address.e = 0 ∧
        address.f = 0 ∧ address.g = 0 ∧ address.h = 0 ↔
      (⟨0x0100 <<< 112, 128⟩ : AddressBlock 128).Contains address.number) ∧
    (address.a = 0x0064 ∧ address.b = 0xff9b ∧ address.c = 0 ∧ address.d = 0 ∧ address.e = 0 ∧
        address.f = 0 ↔
      (⟨0x0064ff9b <<< 96, 96⟩ : AddressBlock 128).Contains address.number) := by
  have ha := address.a.toNat_lt
  have hb := address.b.toNat_lt
  have hc := address.c.toNat_lt
  have hd := address.d.toNat_lt
  have he := address.e.toNat_lt
  have hf := address.f.toNat_lt
  have hg := address.g.toNat_lt
  have hh := address.h.toNat_lt
  simp only [← UInt16.toNat_inj, AddressBlock.Contains, AddressBlock.hostBits, Nat.shiftLeft_eq,
    Ipv6Addr.number, UInt16.reduceToNat]
  constructor
  · omega
  · omega

/-- The filter forbids the blocks that it tests, and ::/16. -/
theorem isForbiddenIpv6_iff : isForbiddenIpv6 address = true ↔
    (⟨0, 16⟩ : AddressBlock 128).Contains address.number ∨
      ∃ block ∈ testedIpv6, block.Contains address.number := by
  have hfirst : address.a = 0 ↔ (⟨0, 16⟩ : AddressBlock 128).Contains address.number :=
    (@wholeSegments_iff address 0 0 0).1
  have hloopback : address.isLoopback = true → address.a = 0 := by
    intro h
    rw [Ipv6Addr.isLoopback, decide_eq_true_eq] at h
    rw [h]
  have hunspecified : address.isUnspecified = true → address.a = 0 := by
    intro h
    rw [Ipv6Addr.isUnspecified, decide_eq_true_eq] at h
    rw [h]
  have hmapped : address.toIpv4.isSome = true → address.a = 0 := by
    intro h
    rw [Ipv6Addr.toIpv4] at h
    split at h
    · next hzero => exact hzero.1
    · simp at h
  simp only [isForbiddenIpv6, Ipv6Addr.isUniqueLocal, Ipv6Addr.isUnicastLinkLocal,
    Bool.or_eq_true, Bool.and_eq_true, decide_eq_true_eq, List.all_cons, List.all_nil,
    Bool.and_true,
    @firstSegment_iff address 0xfc00 0xfe00 9 (by decide) rfl rfl,
    @firstSegment_iff address 0xfe80 0xffc0 6 (by decide) rfl rfl,
    @firstSegment_iff address 0xff00 0xff00 8 (by decide) rfl rfl,
    @firstSegment_iff address 0xfec0 0xffc0 6 (by decide) rfl rfl,
    @secondSegment_iff address 0x2001 0x0010 rfl,
    @secondSegment_iff address 0x2001 0x0020 rfl,
    @secondSegment_iff address 0x3fff 0 rfl,
    (@wholeSegments_iff address 0x2002 0 0).1,
    (@wholeSegments_iff address 0x2001 0 0).2.1,
    (@wholeSegments_iff address 0x2001 0x0db8 0).2.1,
    (@wholeSegments_iff address 0x2001 0x0002 0).2.2,
    (@wholeSegments_iff address 0x0064 0xff9b 1).2.2,
    zeroSegments_iff.1, zeroSegments_iff.2, testedIpv6, List.mem_cons, List.not_mem_nil, or_false,
    exists_eq_or_imp, exists_eq_left, UInt16.reduceToNat, Nat.reduceMul, Nat.reducePow,
    Nat.reduceAdd, Nat.reduceSub, Nat.reduceShiftLeft, ← hfirst, and_assoc, or_assoc]
  constructor
  · rintro (hzero | hblock | hblock | hzero | hzero | hzero | hblock)
    · exact .inl (hloopback hzero)
    · exact .inr (.inl hblock)
    · exact .inr (.inr (.inl hblock))
    · exact .inl (hunspecified hzero)
    · exact .inl (hmapped hzero)
    · exact .inl hzero
    · exact .inr hblock
  · rintro (hzero | hblock)
    · simp [hzero]
    · exact .inr (.inr (.inr (.inr (.inr (.inr hblock)))))

/-- The tested blocks are the named ones without the hole. -/
theorem tested_iff : (∃ block ∈ testedIpv6, block.Contains address.number) ↔
    (∃ block ∈ listedIpv6, block.Contains address.number) ∧ ¬ address.InHole := by
  simp only [testedIpv6, listedIpv6, List.mem_cons, List.not_mem_nil, or_false,
    exists_eq_or_imp, exists_eq_left, Ipv6Addr.InHole, AddressBlock.Contains, AddressBlock.hostBits,
    Nat.reduceShiftLeft]
  omega

end Ipv6

/-! ## What the filter covers -/

/-- Every address of a block is forbidden, and every other global unicast address outside
::/16 is not. -/
def FilterCovers : IpAddr → Prop
  | .v4 address =>
    ((∃ block ∈ listedIpv4, block.Contains address.number) →
        isForbiddenProviderAddress (.v4 address) = true) ∧
      ((¬ ∃ block ∈ localIpv4, block.Contains address.number) →
        (¬ ∃ block ∈ listedIpv4, block.Contains address.number) →
          isForbiddenProviderAddress (.v4 address) = false)
  | .v6 address =>
    ((∃ block ∈ listedIpv6, block.Contains address.number) →
        isForbiddenProviderAddress (.v6 address) = true) ∧
      (¬ (⟨0, 16⟩ : AddressBlock 128).Contains address.number →
        (¬ ∃ block ∈ listedIpv6, block.Contains address.number) →
          isForbiddenProviderAddress (.v6 address) = false)

/-- The addresses of a named block that the filter misses. -/
def IpAddr.InHole : IpAddr → Prop
  | .v4 _ => False
  | .v6 address => address.InHole

/-- The filter covers exactly the addresses outside the hole. -/
theorem filterCovers_iff (address : IpAddr) : FilterCovers address ↔ ¬ address.InHole := by
  cases address with
  | v4 address =>
    simp only [FilterCovers, isForbiddenProviderAddress, ← Bool.not_eq_true, isForbiddenIpv4_iff,
      IpAddr.InHole, not_false_eq_true, iff_true]
    constructor
    · intro hlisted
      exact .inl hlisted
    · rintro hlocal hlisted (h | h)
      · exact hlisted h
      · exact hlocal h
  | v6 address =>
    have hlisted : address.InHole → ∃ block ∈ listedIpv6, block.Contains address.number := by
      rintro (⟨hblock, -⟩ | ⟨hblock, -⟩)
      · exact ⟨_, by simp [listedIpv6], hblock⟩
      · exact ⟨_, by simp [listedIpv6], hblock⟩
    have houtside : address.InHole → ¬ (⟨0, 16⟩ : AddressBlock 128).Contains address.number := by
      simp only [Ipv6Addr.InHole, AddressBlock.Contains, AddressBlock.hostBits, Nat.reduceShiftLeft]
      omega
    simp only [FilterCovers, isForbiddenProviderAddress, ← Bool.not_eq_true, isForbiddenIpv6_iff,
      tested_iff, IpAddr.InHole]
    constructor
    · rintro ⟨hcovers, -⟩ hhole
      rcases hcovers (hlisted hhole) with hzero | ⟨-, hnot⟩
      · exact houtside hhole hzero
      · exact hnot hhole
    · intro hnot
      constructor
      · intro h
        exact .inr ⟨h, hnot⟩
      · rintro hzero hunlisted (h | ⟨h, -⟩)
        · exact hzero h
        · exact hunlisted h

/-- 100::1 lies in 100::/64, and is not forbidden. -/
theorem filterCovers_fails : ¬ FilterCovers (.v6 ⟨0x0100, 0, 0, 0, 0, 0, 0, 1⟩) := by
  intro hcovers
  have hforbidden := hcovers.1 (by decide +kernel)
  revert hforbidden
  decide +kernel

end MatchPlane.Payments
