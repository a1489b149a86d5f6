import Mathlib.Tactic.IntervalCases
import NexalinkTunnel.Lib.Bytes

/-!
Contract: variable-length integers as QUIC encodes them.

Owns the interface a protocol decoder relies on, with the laws as fields:
values below `2 ^ 62` are written in the shortest of four sizes, what was
written is read back with the rest of the buffer untouched, and whatever is
read consumed at least as many bytes as the shortest form takes. Longer forms
of a small value are legal input.

Also owns one codec that satisfies the laws, with the length in the top two
bits of the first byte.
-/

namespace NexalinkTunnel.Lib.VarInt

def size (value : Nat) : Nat :=
  if value < 2 ^ 6 then 1
  else if value < 2 ^ 14 then 2
  else if value < 2 ^ 30 then 4
  else 8

def bound : Nat := 2 ^ 62

/-- A variable-length integer codec. `decode` gives the value and what is left
of the buffer, or nothing when the buffer ends too early. -/
structure Codec where
  encode : Nat → Bytes
  decode : Bytes → Option (Nat × Bytes)
  encode_length : ∀ value, value < bound → (encode value).length = size value
  decode_encode :
    ∀ value rest, value < bound → decode (encode value ++ rest) = some (value, rest)
  decode_split :
    ∀ buffer value rest, decode buffer = some (value, rest) →
      value < bound ∧ ∃ used, buffer = used ++ rest ∧ size value ≤ used.length

namespace Codec

variable (codec : Codec)

/-- A decoded buffer is never shorter than the shortest form of its value
followed by the rest. -/
theorem encode_length_le_of_decode {buffer rest : Bytes} {value : Nat}
    (decoded : codec.decode buffer = some (value, rest)) :
    (codec.encode value).length + rest.length ≤ buffer.length := by
  obtain ⟨valueLt, used, split, shortest⟩ := codec.decode_split buffer value rest decoded
  rw [codec.encode_length value valueLt, split, List.length_append]
  omega

end Codec

/-- The two bits that announce a size of `2 ^ sizeTag` bytes. -/
def sizeTag (value : Nat) : Nat :=
  if value < 2 ^ 6 then 0
  else if value < 2 ^ 14 then 1
  else if value < 2 ^ 30 then 2
  else 3

/-- Bits left for the value in an encoding with tag `tag`. -/
def valueBits (tag : Nat) : Nat := 8 * 2 ^ tag - 2

def encodeTagged (tag value : Nat) : Bytes :=
  Bytes.putBe (2 ^ tag) (tag * 2 ^ valueBits tag + value)

def decodeTagged : Bytes → Option (Nat × Bytes)
  | [] => none
  | first :: rest =>
      let tag := first.toNat / 64
      if 2 ^ tag ≤ rest.length + 1 then
        some (Bytes.beNat ((first :: rest).take (2 ^ tag)) % 2 ^ valueBits tag,
          (first :: rest).drop (2 ^ tag))
      else none

private theorem size_eq_two_pow_sizeTag (value : Nat) : size value = 2 ^ sizeTag value := by
  unfold size sizeTag
  split_ifs <;> rfl

private theorem sizeTag_lt (value : Nat) : sizeTag value < 4 := by
  unfold sizeTag
  split_ifs <;> omega

private theorem lt_of_sizeTag {value : Nat} (small : value < bound) :
    value < 2 ^ valueBits (sizeTag value) := by
  unfold bound at small
  unfold sizeTag valueBits
  split_ifs <;> simp only [Nat.reducePow, Nat.reduceMul, Nat.reduceSub] at * <;> omega

private theorem size_le_of_lt {tag value : Nat} (tagLt : tag < 4)
    (fits : value < 2 ^ valueBits tag) : size value ≤ 2 ^ tag := by
  unfold size
  interval_cases tag <;> simp only [valueBits, Nat.reducePow, Nat.reduceMul, Nat.reduceSub] at * <;>
    split_ifs <;> omega

private theorem encodeTagged_head {tag value : Nat} (tagLt : tag < 4)
    (fits : value < 2 ^ valueBits tag) :
    ∃ first rest, encodeTagged tag value = first :: rest ∧ first.toNat / 64 = tag := by
  have split : (2 : Nat) ^ tag = (2 ^ tag - 1) + 1 := by
    have := Nat.two_pow_pos tag
    omega
  unfold encodeTagged
  rw [split, Bytes.putBe]
  refine ⟨_, _, rfl, ?_⟩
  rw [UInt8.toNat_ofNat']
  interval_cases tag <;> simp only [valueBits, Nat.reducePow, Nat.reduceMul, Nat.reduceSub] at * <;>
    omega

private theorem decodeTagged_encodeTagged {tag value : Nat} (rest : Bytes) (tagLt : tag < 4)
    (fits : value < 2 ^ valueBits tag) :
    decodeTagged (encodeTagged tag value ++ rest) = some (value, rest) := by
  obtain ⟨first, tail, shape, firstTag⟩ := encodeTagged_head tagLt fits
  have length : (encodeTagged tag value).length = 2 ^ tag := Bytes.putBe_length _ _
  have word : Bytes.beNat (encodeTagged tag value) = tag * 2 ^ valueBits tag + value := by
    apply Bytes.beNat_putBe_of_lt
    interval_cases tag <;>
      simp only [valueBits, Nat.reducePow, Nat.reduceMul, Nat.reduceSub] at * <;> omega
  rw [shape] at length word ⊢
  have enough : 2 ^ tag ≤ (tail ++ rest).length + 1 := by
    simp only [List.length_cons, List.length_append] at length ⊢
    omega
  simp only [List.cons_append, decodeTagged, firstTag, enough, ↓reduceIte, Option.some.injEq,
    Prod.mk.injEq]
  rw [← List.cons_append, ← length, List.take_left, List.drop_left, word]
  refine ⟨?_, rfl⟩
  rw [Nat.mul_comm, Nat.mul_add_mod, Nat.mod_eq_of_lt fits]

private theorem decodeTagged_split {buffer rest : Bytes} {value : Nat}
    (decoded : decodeTagged buffer = some (value, rest)) :
    value < bound ∧ ∃ used, buffer = used ++ rest ∧ size value ≤ used.length := by
  cases buffer with
  | nil => simp [decodeTagged] at decoded
  | cons first tail =>
      have tagLt : first.toNat / 64 < 4 := by
        have := first.toNat_lt
        omega
      simp only [decodeTagged] at decoded
      split at decoded
      next enough =>
        simp only [Option.some.injEq, Prod.mk.injEq] at decoded
        obtain ⟨valueEq, restEq⟩ := decoded
        have fits : value < 2 ^ valueBits (first.toNat / 64) := by
          rw [← valueEq]
          exact Nat.mod_lt _ (Nat.two_pow_pos _)
        refine ⟨?_, (first :: tail).take (2 ^ (first.toNat / 64)), ?_, ?_⟩
        · refine lt_of_lt_of_le fits (Nat.pow_le_pow_right (by decide) ?_)
          generalize first.toNat / 64 = tag at tagLt
          interval_cases tag <;> decide
        · rw [← restEq, List.take_append_drop]
        · rw [List.length_take, List.length_cons, Nat.min_eq_left enough]
          exact size_le_of_lt tagLt fits
      next short => simp at decoded

/-- The codec of QUIC version 1: one, two, four or eight bytes, big-endian, with
the size in the top two bits. -/
def quic : Codec where
  encode := fun value => encodeTagged (sizeTag value) value
  decode := decodeTagged
  encode_length := by
    intro value small
    rw [encodeTagged, Bytes.putBe_length, size_eq_two_pow_sizeTag]
  decode_encode := by
    intro value rest small
    exact decodeTagged_encodeTagged rest (sizeTag_lt value) (lt_of_sizeTag small)
  decode_split := by
    intro buffer value rest decoded
    exact decodeTagged_split decoded

example : quic.decode [0x40, 0x09, 0x2a] = some (9, [0x2a]) := by decide

end NexalinkTunnel.Lib.VarInt
