import Mathlib

/-!
# Blocks of addresses

An address is a number of a fixed width.  A block has all addresses that share the first
bits of its network; a mask keeps these bits.
-/

namespace MatchPlane.Library

/-- The addresses with the first `bits` bits of the network. -/
structure AddressBlock (width : Nat) where
  network : Nat
  bits : Nat
  deriving DecidableEq, Repr

namespace AddressBlock

variable {width : Nat}

/-- The bits of an address that are not those of the block. -/
def hostBits (block : AddressBlock width) : Nat := width - block.bits

def Contains (block : AddressBlock width) (address : Nat) : Prop :=
  address / 2 ^ block.hostBits = block.network / 2 ^ block.hostBits

instance (block : AddressBlock width) (address : Nat) : Decidable (block.Contains address) :=
  inferInstanceAs (Decidable (_ = _))

end AddressBlock

/-- The mask keeps the bits above the host, and clears the others. -/
theorem and_mask {width host value : Nat} (hhost : host ≤ width) (hvalue : value < 2 ^ width) :
    value &&& (2 ^ width - 2 ^ host) = value / 2 ^ host * 2 ^ host := by
  have hmask : 2 ^ width - 2 ^ host = (2 ^ (width - host) - 1) <<< host := by
    rw [Nat.shiftLeft_eq, Nat.sub_mul, one_mul, ← pow_add, Nat.sub_add_cancel hhost]
  rw [hmask, ← Nat.shiftRight_eq_div_pow, ← Nat.shiftLeft_eq]
  apply Nat.eq_of_testBit_eq
  intro bit
  rw [Nat.testBit_and, Nat.testBit_shiftLeft, Nat.testBit_shiftLeft, Nat.testBit_two_pow_sub_one,
    Nat.testBit_shiftRight]
  by_cases hbit : host ≤ bit
  · rw [Nat.add_sub_cancel' hbit]
    by_cases hhigh : bit < width
    · have hlow : bit - host < width - host := by omega
      simp [hbit, hlow]
    · have hzero : value.testBit bit = false :=
        Nat.testBit_lt_two_pow (hvalue.trans_le (Nat.pow_le_pow_right two_pos (by omega)))
      simp [hzero]
  · simp [hbit]

/-- Two numbers agree under a mask if they agree above the host. -/
theorem and_mask_eq_iff {width host value network : Nat} (hhost : host ≤ width)
    (hvalue : value < 2 ^ width) (hnetwork : network < 2 ^ width) :
    value &&& (2 ^ width - 2 ^ host) = network &&& (2 ^ width - 2 ^ host) ↔
      value / 2 ^ host = network / 2 ^ host := by
  rw [and_mask hhost hvalue, and_mask hhost hnetwork]
  exact Nat.mul_left_inj (Nat.two_pow_pos host).ne'

end MatchPlane.Library
