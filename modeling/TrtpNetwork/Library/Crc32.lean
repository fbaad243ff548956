import Mathlib.Logic.Function.Iterate
import Mathlib.Tactic.Common

/-!
# CRC-32

The checksum zlib's `crc32` computes, bit by bit from the reflected polynomial.  The packet format
is proved correct for an arbitrary function in its place; this definition is what concrete
datagrams are built with.

One property of a CRC is more than that it is a function: it notices when one byte of a string is
replaced (`DetectsByteChange`).  For CRC-32 the reason is that a step can be undone.  The top bit of
a state says whether the polynomial was added to it (`testBit_crcBit`), so two states that differ go
on differing as long as they take the same bytes.
-/

namespace TrtpNetwork

/-- One bit of the division by the reflected polynomial. -/
def crcBit (c : UInt32) : UInt32 :=
  if c &&& 1 = 1 then (c >>> 1) ^^^ 0xEDB88320 else c >>> 1

/-- One byte: eight bits, the lowest first. -/
def crcByte (c : UInt32) (b : UInt8) : UInt32 :=
  crcBit (crcBit (crcBit (crcBit (crcBit (crcBit (crcBit (crcBit (c ^^^ b.toUInt32))))))))

/-- The CRC-32 of a string of bytes. -/
def zlibCrc32 (bytes : List UInt8) : UInt32 :=
  ~~~(bytes.foldl crcByte 0xFFFFFFFF)

/-- The check value of the algorithm: the digits `1` to `9`. -/
example : zlibCrc32 [49, 50, 51, 52, 53, 54, 55, 56, 57] = 0xCBF43926 := by decide +kernel

/-! ## A replaced byte is noticed -/

/-- A checksum that is different for two strings of one length that differ in exactly one byte. -/
def DetectsByteChange (crc : List UInt8 → UInt32) : Prop :=
  ∀ (pre post : List UInt8) (b b' : UInt8), b ≠ b' →
    crc (pre ++ b :: post) ≠ crc (pre ++ b' :: post)

theorem and_one_eq_one_iff (c : UInt32) : c &&& 1 = 1 ↔ c.toNat % 2 = 1 := by
  rw [← UInt32.toNat_inj, UInt32.toNat_and]
  simp [Nat.and_one_is_mod]

theorem toNat_shiftRight_one (c : UInt32) : (c >>> 1).toNat = c.toNat / 2 := by
  simp [UInt32.toNat_shiftRight, Nat.shiftRight_eq_div_pow]

/-- The top bit says whether the polynomial was added. -/
theorem testBit_crcBit (c : UInt32) : (crcBit c).toNat.testBit 31 = decide (c.toNat % 2 = 1) := by
  have hc : c.toNat < 2 ^ 32 := c.toNat_lt
  have htop : (c >>> 1).toNat.testBit 31 = false := by
    apply Nat.testBit_lt_two_pow
    rw [toNat_shiftRight_one]
    omega
  have hpoly : (0xEDB88320 : UInt32).toNat.testBit 31 = true := by decide
  unfold crcBit
  by_cases hlow : c.toNat % 2 = 1
  · rw [if_pos ((and_one_eq_one_iff c).mpr hlow), UInt32.toNat_xor, Nat.testBit_xor, htop, hpoly,
      decide_eq_true hlow]
    rfl
  · rw [if_neg (mt (and_one_eq_one_iff c).mp hlow), htop, decide_eq_false hlow]

/-- **A step can be undone**: the top bit gives the bit that was shifted out. -/
theorem crcBit_injective : Function.Injective crcBit := by
  intro c d h
  have hlow : c.toNat % 2 = 1 ↔ d.toNat % 2 = 1 := by
    have htop := congrArg (fun x => x.toNat.testBit 31) h
    simpa [testBit_crcBit] using htop
  have hhalf : c >>> 1 = d >>> 1 := by
    unfold crcBit at h
    simp only [and_one_eq_one_iff] at h
    by_cases hd : d.toNat % 2 = 1
    · rw [if_pos (hlow.mpr hd), if_pos hd] at h
      exact (UInt32.xor_left_inj _).mp h
    · rwa [if_neg (mt hlow.mp hd), if_neg hd] at h
  have hnat := congrArg UInt32.toNat hhalf
  rw [toNat_shiftRight_one, toNat_shiftRight_one] at hnat
  apply UInt32.toNat_inj.mp
  omega

theorem crcByte_left_injective (b : UInt8) : Function.Injective fun c => crcByte c b := by
  intro c d h
  have hxor := crcBit_injective.iterate 8 h
  exact (UInt32.xor_left_inj _).mp hxor

theorem crcByte_right_injective (c : UInt32) : Function.Injective (crcByte c) := by
  intro b b' h
  have hxor := crcBit_injective.iterate 8 h
  exact UInt8.toUInt32_inj.mp ((UInt32.xor_right_inj _).mp hxor)

theorem foldl_crcByte_injective (bs : List UInt8) :
    Function.Injective fun c => bs.foldl crcByte c := by
  induction bs with
  | nil => exact fun _ _ h => h
  | cons b bs ih => exact fun _ _ h => crcByte_left_injective b (ih h)

/-- **CRC-32 notices a replaced byte.** -/
theorem zlibCrc32_detectsByteChange : DetectsByteChange zlibCrc32 := by
  intro pre post b b' hne h
  have hstate := UInt32.not_inj.mp h
  rw [List.foldl_append, List.foldl_append] at hstate
  exact hne (crcByte_right_injective _ (foldl_crcByte_injective post hstate))

end TrtpNetwork
