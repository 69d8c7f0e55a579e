import CyclePerfectGameboy.Cartridge.CartridgeHeader
import CyclePerfectGameboy.Foundations.Checksum
import Mathlib.Algebra.BigOperators.Intervals
import Mathlib.Algebra.Order.Interval.Finset.SuccPred
import Mathlib.Data.List.GetD

/-!
# The header checksum

The loop over the copied header is a statement about the exact sum of the
bytes `0x134` to `0x14D` of the image, the check byte among them.
-/

namespace CyclePerfectGameboy

open Checksum

/-- The verdict on an image after `parse_data`. -/
def checksumValid (image : List Byte) (enough : 0x150 ≤ image.length) :
    Bool :=
  (CartridgeHeader.parseData image enough).validateHeaderChecksum

/-- The exact sum of the bytes of an image from one address to another, both
included. -/
def byteSum (image : List Byte) (first last : Nat) : Nat :=
  ∑ addr ∈ Finset.Icc first last, (image.getD addr 0).toNat

theorem byteSum_succ
    (image : List Byte) {first last : Nat} (ordered : first ≤ last + 1) :
    byteSum image first (last + 1) =
      byteSum image first last + (image.getD (last + 1) 0).toNat := by
  rw [byteSum, byteSum, ← Finset.Ico_add_one_right_eq_Icc,
    ← Finset.Ico_add_one_right_eq_Icc, Finset.sum_Ico_succ_top ordered]

/-- The header holds the bytes of the image. -/
theorem parseData_eq_getD
    {image : List Byte} (enough : 0x150 ≤ image.length) (i : Fin 0x50) :
    (CartridgeHeader.parseData image enough).headerData i =
      image.getD (0x100 + i.val) 0 := by
  rw [CartridgeHeader.parseData, List.getD_eq_getElem _ _ (by omega)]
  simp only [List.get_eq_getElem, Nat.add_comm]

/-- The checksum is valid exactly if the exact sum of the bytes `0x134` to
`0x14C`, 25 and the byte `0x14D` is a multiple of 256. -/
theorem checksumValid_iff
    {image : List Byte} (enough : 0x150 ≤ image.length) :
    checksumValid image enough = true ↔
      256 ∣ byteSum image 0x134 0x14C + 25 + (image.getD 0x14D 0).toNat := by
  let header := CartridgeHeader.parseData image enough
  let words : Fin 25 → Byte :=
    fun i => header.headerData ⟨0x34 + i.val, by omega⟩
  have verdict :
      checksumValid image enough = true ↔
        runningDifference 25 words = header.headerData 0x4D :=
    beq_iff_eq
  have sum : byteSum image 0x134 0x14C = ∑ index, (words index).toNat := by
    rw [byteSum, ← Finset.Ico_add_one_right_eq_Icc,
      Finset.sum_Ico_eq_sum_range, Finset.sum_range]
    refine Finset.sum_congr rfl (fun i _ => ?_)
    change _ = (header.headerData _).toNat
    rw [parseData_eq_getD enough]
    congr 2
    change 0x134 + i.val = 0x100 + (0x34 + i.val)
    omega
  rw [verdict, runningDifference_eq_iff, sum,
    show header.headerData 0x4D = image.getD 0x14D 0 from
      parseData_eq_getD enough 0x4D]
  rfl

/-- The check byte is one more byte of the sum. -/
theorem checksumValid_iff_byteSum
    {image : List Byte} (enough : 0x150 ≤ image.length) :
    checksumValid image enough = true ↔
      256 ∣ byteSum image 0x134 0x14D + 25 := by
  rw [checksumValid_iff, byteSum_succ image (show 0x134 ≤ 0x14C + 1 by omega),
    Nat.add_right_comm]

/-- Only the bytes `0x134` to `0x14D` count. -/
theorem checksumValid_congr
    {image other : List Byte} (enough : 0x150 ≤ image.length)
    (otherEnough : 0x150 ≤ other.length)
    (same :
      ∀ addr, 0x134 ≤ addr → addr ≤ 0x14D → other[addr]? = image[addr]?) :
    checksumValid other otherEnough = checksumValid image enough := by
  have sums : byteSum other 0x134 0x14D = byteSum image 0x134 0x14D := by
    refine Finset.sum_congr rfl (fun addr member => ?_)
    rcases Finset.mem_Icc.mp member with ⟨first, last⟩
    rw [List.getD_eq_getElem?_getD, List.getD_eq_getElem?_getD,
      same addr first last]
  rw [Bool.eq_iff_iff, checksumValid_iff_byteSum,
    checksumValid_iff_byteSum, sums]

/-- A changed byte among them is found. -/
theorem checksumValid_set
    {image : List Byte} (enough : 0x150 ≤ image.length)
    (valid : checksumValid image enough = true)
    {addr : Nat} (first : 0x134 ≤ addr) (last : addr ≤ 0x14D)
    {value : Byte} (different : image[addr]? ≠ some value)
    (setEnough : 0x150 ≤ (image.set addr value).length) :
    checksumValid (image.set addr value) setEnough = false := by
  rw [Bool.eq_false_iff]
  intro stillValid
  rw [checksumValid_iff_byteSum] at valid stillValid
  have inside : addr ∈ Finset.Icc 0x134 0x14D :=
    Finset.mem_Icc.mpr ⟨first, last⟩
  have elsewhere :
      ∀ other ∈ Finset.Icc 0x134 0x14D, other ≠ addr →
        (image.set addr value).getD other 0 = image.getD other 0 := by
    intro other _ apart
    rw [List.getD_eq_getElem?_getD, List.getD_eq_getElem?_getD,
      List.getElem?_set_ne (Ne.symm apart)]
  have same := eq_of_dvd_sum inside elsewhere valid stillValid
  rw [List.getD_eq_getElem?_getD, List.getElem?_set_self (by omega),
    List.getD_eq_getElem _ _ (by omega)] at same
  rw [List.getElem?_eq_getElem (by omega)] at different
  exact different (congrArg some same.symm)

/-- What the checksum of an image says: `checked` are the addresses at which
a changed byte makes a valid image invalid, and elsewhere no change counts. -/
structure ChecksumGuards (image : List Byte) (enough : 0x150 ≤ image.length)
    (checked : Nat → Prop) : Prop where
  exact :
    checksumValid image enough = true ↔
      256 ∣ byteSum image 0x134 0x14C + 25 + (image.getD 0x14D 0).toNat
  detects :
    checksumValid image enough = true →
      ∀ addr value, checked addr → image[addr]? ≠ some value →
        ∀ stillEnough,
          checksumValid (image.set addr value) stillEnough = false
  ignores :
    ∀ (other : List Byte) (otherEnough : 0x150 ≤ other.length),
      (∀ addr, checked addr → other[addr]? = image[addr]?) →
        checksumValid other otherEnough = checksumValid image enough

/-- The checksum guards the bytes `0x134` to `0x14D`. -/
theorem checksum_guards_header
    (image : List Byte) (enough : 0x150 ≤ image.length) :
    ChecksumGuards image enough
      (fun addr => 0x134 ≤ addr ∧ addr ≤ 0x14D) where
  exact := checksumValid_iff enough
  detects := by
    intro valid addr value checked different stillEnough
    exact
      checksumValid_set enough valid checked.1 checked.2 different
        stillEnough
  ignores := by
    intro other otherEnough same
    exact
      checksumValid_congr enough otherEnough
        (fun addr first last => same addr ⟨first, last⟩)

/-- An image of zeros but for its check byte. -/
def blankImage (check : Byte) : List Byte :=
  List.replicate 0x14D 0 ++ [check, 0, 0]

theorem blankImage_length (check : Byte) :
    (blankImage check).length = 0x150 := by
  rw [blankImage, List.length_append, List.length_replicate]
  rfl

/-- In a blank image with the right check byte a changed title is found. -/
theorem checksum_guards_title :
    checksumValid ((blankImage 0xE7).set 0x134 0x01)
      (by rw [List.length_set, blankImage_length]) = false := by
  have guards :=
    checksum_guards_header (blankImage 0xE7) (blankImage_length _).ge
  exact
    guards.detects (by decide +kernel) 0x134 0x01 (by decide)
      (by decide +kernel) _

end CyclePerfectGameboy
