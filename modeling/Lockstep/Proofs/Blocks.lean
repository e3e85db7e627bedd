import Lockstep.BlockNumber
import Lockstep.Packet

/-!
# Blocks of a stream

A stream of bytes is cut into full blocks and one shorter block at its end, which may be empty. The
blocks are counted by natural numbers here; a packet carries only sixteen bits of that number.
Within half of the ring the sixteen bits still tell which of two blocks is the earlier one.
-/

namespace Lockstep

namespace BlockNumber

/-- What the subtraction of two wrapped numbers yields. -/
theorem toNat_ofNat_sub (expected received : Nat) :
    (UInt16.ofNat expected - UInt16.ofNat received).toNat =
      (65536 - received % 65536 + expected % 65536) % 65536 := by
  simp only [UInt16.toNat_sub, UInt16.toNat_ofNat']

/-- The window is faithful to the unwrapped numbers as long as they are half a ring apart. -/
theorem isStale_ofNat {received expected : Nat} (behind : expected < received + 32768)
    (ahead : received ≤ expected + 32768) :
    isStale (UInt16.ofNat received) (UInt16.ofNat expected) = decide (received < expected) := by
  have hsub := toNat_ofNat_sub expected received
  have hzero : UInt16.ofNat expected - UInt16.ofNat received = 0 ↔
      (65536 - received % 65536 + expected % 65536) % 65536 = 0 := by
    rw [← hsub, ← UInt16.toNat_inj]
    rfl
  have hhalf : UInt16.ofNat expected - UInt16.ofNat received < 0x8000 ↔
      (65536 - received % 65536 + expected % 65536) % 65536 < 32768 := by
    rw [← hsub, UInt16.lt_iff_toNat_lt]
    rfl
  have hiff : isStale (UInt16.ofNat received) (UInt16.ofNat expected) = true ↔
      received < expected := by
    simp only [isStale, Bool.and_eq_true, bne_iff_ne, ne_eq, hzero, decide_eq_true_eq, hhalf]
    omega
  rw [Bool.eq_iff_iff, hiff, decide_eq_true_eq]

theorem ofNat_eq_iff {received expected : Nat} (behind : expected < received + 32768)
    (ahead : received ≤ expected + 32768) :
    UInt16.ofNat received = UInt16.ofNat expected ↔ received = expected := by
  constructor
  · intro h
    have hmod := congrArg UInt16.toNat h
    simp only [UInt16.toNat_ofNat'] at hmod
    omega
  · intro h
    rw [h]

theorem ofNat_succ (number : Nat) :
    UInt16.ofNat (number + 1) = (UInt16.ofNat number : BlockNumber) + 1 :=
  UInt16.ofNat_add number 1

theorem add_ofNat_succ (block : BlockNumber) (count : Nat) :
    block + UInt16.ofNat count + 1 = block + UInt16.ofNat (count + 1) := by
  rw [ofNat_succ, UInt16.add_assoc]

end BlockNumber

/-! ## The blocks of a stream -/

/-- The number of blocks that a stream is cut into. -/
def blockCount (wire : Bytes) : Nat :=
  wire.length / blockSize + 1

/-- The block that follows `index` others. -/
def chunk (wire : Bytes) (index : Nat) : Bytes :=
  (wire.drop (blockSize * index)).take blockSize

theorem length_chunk (wire : Bytes) (index : Nat) :
    (chunk wire index).length = min blockSize (wire.length - blockSize * index) := by
  simp only [chunk, List.length_take, List.length_drop]

theorem length_chunk_le (wire : Bytes) (index : Nat) : (chunk wire index).length ≤ blockSize := by
  rw [length_chunk]
  exact Nat.min_le_left _ _

theorem length_chunk_lt_iff {wire : Bytes} {index : Nat} :
    (chunk wire index).length < blockSize ↔ blockCount wire ≤ index + 1 := by
  rw [length_chunk]
  simp only [blockCount, blockSize]
  omega

/-- All blocks but the last one are full. -/
theorem length_chunk_of_lt {wire : Bytes} {index : Nat} (h : index + 1 < blockCount wire) :
    (chunk wire index).length = blockSize := by
  have hle := length_chunk_le wire index
  have hlt := mt length_chunk_lt_iff.mp (Nat.not_le.mpr h)
  omega

theorem isLastPayload_chunk (wire : Bytes) (index : Nat) :
    Packet.isLastPayload (chunk wire index) = decide (blockCount wire ≤ index + 1) := by
  simp only [Packet.isLastPayload, length_chunk_lt_iff]

/-- The bytes of the first blocks, and of one more. -/
theorem take_append_chunk (wire : Bytes) (index : Nat) :
    wire.take (blockSize * index) ++ chunk wire index = wire.take (blockSize * (index + 1)) := by
  rw [Nat.mul_succ, List.take_add]
  rfl

theorem length_take_of_lt {wire : Bytes} {index : Nat} (h : index < blockCount wire) :
    (wire.take (blockSize * index)).length = blockSize * index := by
  simp only [List.length_take, blockCount, blockSize] at h ⊢
  omega

/-- The blocks together are the stream. -/
theorem take_blockCount (wire : Bytes) : wire.take (blockSize * blockCount wire) = wire := by
  apply List.take_of_length_le
  simp only [blockCount, blockSize]
  omega

/-- The full blocks and the last one make up the length of the stream. -/
theorem length_before_last {wire : Bytes} {index : Nat} (hlast : index + 1 = blockCount wire) :
    blockSize * index + (chunk wire index).length = wire.length := by
  have hlt : index < blockCount wire := by omega
  calc
    _ = (wire.take (blockSize * index)).length + (chunk wire index).length := by
      rw [length_take_of_lt hlt]
    _ = (wire.take (blockSize * (index + 1))).length := by
      rw [← List.length_append, take_append_chunk]
    _ = wire.length := by rw [hlast, take_blockCount]

end Lockstep
