import Mathlib.Data.Vector.Basic
import NexalinkTunnel.Lib.Outcome

/-!
Contract: byte buffers as the wire code reads and writes them.

Owns slicing and fixed-size reads that panic when the buffer is too short, and
big-endian words of any width and UTF-8 text with their round trips.

Does not own: any message layout. Widths and offsets come from the callers.
-/

namespace NexalinkTunnel.Lib

abbrev Bytes := List UInt8

namespace Bytes

variable {ε : Type}

def sliceTo (bytes : Bytes) (count : Nat) : Outcome ε Bytes :=
  if count ≤ bytes.length then .ok (bytes.take count) else .panicked

def sliceFrom (bytes : Bytes) (count : Nat) : Outcome ε Bytes :=
  if count ≤ bytes.length then .ok (bytes.drop count) else .panicked

def copyFromSlice (count : Nat) (bytes : Bytes) : Outcome ε (List.Vector UInt8 count) :=
  if same : bytes.length = count then .ok ⟨bytes, same⟩ else .panicked

def tryIntoArray (count : Nat) (bytes : Bytes) : Option (List.Vector UInt8 count) :=
  if same : bytes.length = count then some ⟨bytes, same⟩ else none

/-- `bytes.get_u8()`: the first byte and what is left. -/
def getU8 : Bytes → Outcome ε (UInt8 × Bytes)
  | byte :: rest => .ok (byte, rest)
  | [] => .panicked

theorem sliceTo_of_le {bytes : Bytes} {count : Nat} (enough : count ≤ bytes.length) :
    (sliceTo bytes count : Outcome ε Bytes) = .ok (bytes.take count) := by
  simp [sliceTo, enough]

theorem sliceFrom_of_le {bytes : Bytes} {count : Nat} (enough : count ≤ bytes.length) :
    (sliceFrom bytes count : Outcome ε Bytes) = .ok (bytes.drop count) := by
  simp [sliceFrom, enough]

theorem returns_sliceTo {bytes : Bytes} {count : Nat} :
    (sliceTo bytes count : Outcome ε Bytes).Returns ↔ count ≤ bytes.length := by
  by_cases enough : count ≤ bytes.length <;> simp [sliceTo, enough]

theorem sliceTo_eq_ok {bytes slice : Bytes} {count : Nat} :
    (sliceTo bytes count : Outcome ε Bytes) = .ok slice ↔
      count ≤ bytes.length ∧ bytes.take count = slice := by
  by_cases enough : count ≤ bytes.length <;> simp [sliceTo, enough]

theorem sliceFrom_eq_ok {bytes slice : Bytes} {count : Nat} :
    (sliceFrom bytes count : Outcome ε Bytes) = .ok slice ↔
      count ≤ bytes.length ∧ bytes.drop count = slice := by
  by_cases enough : count ≤ bytes.length <;> simp [sliceFrom, enough]

theorem sliceTo_append {front : Bytes} {count : Nat} (rest : Bytes)
    (width : front.length = count) :
    (sliceTo (front ++ rest) count : Outcome ε Bytes) = .ok front := by
  subst width
  simp [sliceTo]

theorem sliceFrom_append {front : Bytes} {count : Nat} (rest : Bytes)
    (width : front.length = count) :
    (sliceFrom (front ++ rest) count : Outcome ε Bytes) = .ok rest := by
  subst width
  simp [sliceFrom]

@[simp] theorem copyFromSlice_of_length {count : Nat} {bytes : Bytes}
    (same : bytes.length = count) :
    (copyFromSlice count bytes : Outcome ε (List.Vector UInt8 count)) = .ok ⟨bytes, same⟩ := by
  simp [copyFromSlice, same]

@[simp] theorem sliceTo_toList {count : Nat} (array : List.Vector UInt8 count) :
    (sliceTo array.toList count : Outcome ε Bytes) = .ok array.toList := by
  simp [sliceTo, List.take_of_length_le]

@[simp] theorem tryIntoArray_of_length {count : Nat} {bytes : Bytes}
    (same : bytes.length = count) : tryIntoArray count bytes = some ⟨bytes, same⟩ := by
  simp [tryIntoArray, same]

def beNat : Bytes → Nat
  | [] => 0
  | byte :: rest => byte.toNat * 256 ^ rest.length + beNat rest

/-- The `width` lowest bytes of `value`, most significant first. -/
def putBe : Nat → Nat → Bytes
  | 0, _ => []
  | width + 1, value => UInt8.ofNat (value / 256 ^ width) :: putBe width value

@[simp] theorem putBe_length (width value : Nat) : (putBe width value).length = width := by
  induction width with
  | zero => rfl
  | succ width inductionHypothesis => simp [putBe, inductionHypothesis]

theorem beNat_lt (bytes : Bytes) : beNat bytes < 256 ^ bytes.length := by
  induction bytes with
  | nil => simp [beNat]
  | cons byte rest inductionHypothesis =>
      have byteLt : byte.toNat ≤ 255 := Nat.le_of_lt_succ byte.toNat_lt
      have scaled := Nat.mul_le_mul_right (256 ^ rest.length) byteLt
      simp only [beNat, List.length_cons, Nat.pow_succ]
      omega

private theorem beNat_putBe (width value : Nat) :
    beNat (putBe width value) = value % 256 ^ width := by
  induction width with
  | zero => simp [putBe, beNat, Nat.mod_one]
  | succ width inductionHypothesis =>
      have split : value % 256 ^ (width + 1) =
          value % 256 ^ width + 256 ^ width * (value / 256 ^ width % 256) := by
        rw [Nat.pow_succ, Nat.mod_mul]
      simp only [putBe, beNat, putBe_length, inductionHypothesis, UInt8.toNat_ofNat']
      rw [split, Nat.add_comm, Nat.mul_comm]

theorem beNat_putBe_of_lt {width value : Nat} (fits : value < 256 ^ width) :
    beNat (putBe width value) = value := by
  rw [beNat_putBe, Nat.mod_eq_of_lt fits]

private theorem beNat_injective {left right : Bytes} (length : left.length = right.length)
    (same : beNat left = beNat right) : left = right := by
  induction left generalizing right with
  | nil => exact (List.length_eq_zero_iff.mp length.symm).symm
  | cons byte rest inductionHypothesis =>
      obtain _ | ⟨other, others⟩ := right
      · simp at length
      · simp only [List.length_cons, Nat.add_right_cancel_iff] at length
        have restLt : beNat rest < 256 ^ others.length := length ▸ beNat_lt rest
        have othersLt := beNat_lt others
        have positive : 0 < 256 ^ others.length := Nat.zero_lt_of_lt restLt
        simp only [beNat, length, Nat.mul_comm _ (256 ^ others.length)] at same
        -- the first byte is the quotient, the rest is the remainder
        have heads := congrArg (· / 256 ^ others.length) same
        have tails := congrArg (· % 256 ^ others.length) same
        simp only [Nat.mul_add_div positive, Nat.mul_add_mod, Nat.div_eq_of_lt restLt,
          Nat.div_eq_of_lt othersLt, Nat.mod_eq_of_lt restLt, Nat.mod_eq_of_lt othersLt,
          Nat.add_zero] at heads tails
        rw [UInt8.toNat_inj.mp heads, inductionHypothesis length tails]

theorem putBe_beNat {width : Nat} {bytes : Bytes} (length : bytes.length = width) :
    putBe width (beNat bytes) = bytes := by
  apply beNat_injective (by rw [putBe_length, length])
  rw [beNat_putBe_of_lt (length ▸ beNat_lt bytes)]

/-- Byte strings of one length are in the order of the numbers they spell. -/
theorem lt_iff_beNat_lt {left right : Bytes} (length : left.length = right.length) :
    left < right ↔ beNat left < beNat right := by
  induction left generalizing right with
  | nil => simp [List.length_eq_zero_iff.mp length.symm]
  | cons byte rest inductionHypothesis =>
      obtain _ | ⟨other, others⟩ := right
      · simp at length
      · simp only [List.length_cons, Nat.add_right_cancel_iff] at length
        have restLt : beNat rest < 256 ^ others.length := length ▸ beNat_lt rest
        have othersLt := beNat_lt others
        rw [List.cons_lt_cons_iff, inductionHypothesis length, UInt8.lt_iff_toNat_lt,
          ← UInt8.toNat_inj, beNat, beNat, length]
        constructor
        · rintro (less | ⟨same, less⟩)
          · have scaled := Nat.mul_le_mul_right (256 ^ others.length) (Nat.succ_le_of_lt less)
            rw [Nat.succ_mul] at scaled
            omega
          · rw [same]
            omega
        · intro less
          rcases Nat.lt_trichotomy byte.toNat other.toNat with before | same | after
          · exact .inl before
          · rw [same] at less
            exact .inr ⟨same, by omega⟩
          · have scaled := Nat.mul_le_mul_right (256 ^ others.length) (Nat.succ_le_of_lt after)
            rw [Nat.succ_mul] at scaled
            omega

/-- `bytes.get_u16()`: the first two bytes as a number and what is left. -/
def getU16 (bytes : Bytes) : Outcome ε (UInt16 × Bytes) :=
  if 2 ≤ bytes.length then .ok (UInt16.ofNat (beNat (bytes.take 2)), bytes.drop 2)
  else .panicked

def putU16 (value : UInt16) : Bytes := putBe 2 value.toNat

@[simp] theorem putU16_length (value : UInt16) : (putU16 value).length = 2 := putBe_length _ _

@[simp] theorem getU16_putU16 (value : UInt16) (rest : Bytes) :
    (getU16 (putU16 value ++ rest) : Outcome ε (UInt16 × Bytes)) = .ok (value, rest) := by
  have length : (putU16 value).length = 2 := putU16_length value
  have word : beNat (putU16 value) = value.toNat :=
    beNat_putBe_of_lt (lt_of_lt_of_le value.toNat_lt (by decide))
  rw [getU16, if_pos (by rw [List.length_append]; omega), ← length, List.take_left,
    List.drop_left, word, UInt16.ofNat_toNat]

theorem getU16_of_le {bytes : Bytes} (enough : 2 ≤ bytes.length) :
    (getU16 bytes : Outcome ε (UInt16 × Bytes)) =
      .ok (UInt16.ofNat (beNat (bytes.take 2)), bytes.drop 2) := by
  rw [getU16, if_pos enough]

def ofString (text : String) : Bytes := text.toUTF8.data.toList

def toString? (bytes : Bytes) : Option String := String.fromUTF8? ⟨bytes.toArray⟩

@[simp] theorem toString?_ofString (text : String) : toString? (ofString text) = some text := by
  have valid : text.toByteArray.IsValidUTF8 := text.isValidUTF8
  simp [toString?, ofString, String.fromUTF8?, valid, String.fromUTF8]

theorem ofString_of_toString? {bytes : Bytes} {text : String}
    (parsed : toString? bytes = some text) : ofString text = bytes := by
  unfold toString? String.fromUTF8? at parsed
  split at parsed
  next valid =>
    rw [← Option.some.inj parsed]
    simp [ofString, String.fromUTF8]
  next invalid => simp at parsed

@[simp] theorem ofString_length (text : String) : (ofString text).length = text.utf8ByteSize := by
  simp [ofString]

end Bytes

end NexalinkTunnel.Lib
