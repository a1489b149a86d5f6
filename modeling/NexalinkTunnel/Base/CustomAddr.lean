import NexalinkTunnel.Base.Encodings
import NexalinkTunnel.Base.EndpointAddr
import NexalinkTunnel.Lib.Numerals
import NexalinkTunnel.Lib.Text

/-!
Contract: the encodings of custom addresses.

Owns the two representations of the data, the binary and the text encoding with their
parsers, all ways to come by an address, and which addresses are the only ones with their
id and data.

Does not own: any format of `serde`. The derived deserialisation takes whatever values of
the fields a format gives it.
-/

namespace NexalinkTunnel.Base

open Lib

namespace CustomAddrBytes

def len : CustomAddrBytes → Nat
  | .inlined size _ => size.toNat
  | .heap data => data.length

def asBytes : CustomAddrBytes → Outcome Empty Bytes
  | .inlined size data => Bytes.sliceTo data.toList size.toNat
  | .heap data => .ok data

/-- Data that is short enough, with zero bytes behind it. -/
def padded (data : Bytes) (short : data.length ≤ 30) : List.Vector UInt8 30 :=
  ⟨data ++ List.replicate (30 - data.length) 0, by
    rw [List.length_append, List.length_replicate]; omega⟩

def copyFromSlice (data : Bytes) : CustomAddrBytes :=
  if short : data.length ≤ 30 then .inlined (UInt8.ofNat data.length) (padded data short)
  else .heap data

/-- What `copy_from_slice` makes: zero bytes behind inline data, and only long data on the
heap. -/
def Canonical : CustomAddrBytes → Prop
  | .inlined size data =>
      size.toNat ≤ 30 ∧ data.toList.drop size.toNat = List.replicate (30 - size.toNat) 0
  | .heap data => 30 < data.length

theorem toNat_size {data : Bytes} (short : data.length ≤ 30) :
    (UInt8.ofNat data.length).toNat = data.length := by
  rw [UInt8.toNat_ofNat', Nat.mod_eq_of_lt (by omega)]

private theorem canonical_copyFromSlice (data : Bytes) : (copyFromSlice data).Canonical := by
  unfold copyFromSlice
  split
  next short =>
    rw [Canonical, toNat_size short]
    exact ⟨short, by simp [padded]⟩
  next long => exact Nat.lt_of_not_le long

private theorem asBytes_copyFromSlice (data : Bytes) : (copyFromSlice data).asBytes = .ok data := by
  unfold copyFromSlice
  split
  next short =>
    rw [asBytes, toNat_size short]
    exact Bytes.sliceTo_append _ rfl
  next => rfl

private theorem Canonical.exists_copyFromSlice {bytes : CustomAddrBytes}
    (canonical : bytes.Canonical) :
    ∃ data, bytes = copyFromSlice data := by
  match bytes with
  | .heap data => exact ⟨data, by rw [copyFromSlice, dif_neg (Nat.not_le_of_lt canonical)]⟩
  | .inlined size data =>
      obtain ⟨short, zeros⟩ := canonical
      have length : (data.toList.take size.toNat).length = size.toNat := by simpa using short
      refine ⟨data.toList.take size.toNat, ?_⟩
      rw [copyFromSlice, dif_pos (by rw [length]; exact short)]
      congr 1
      · rw [length, UInt8.ofNat_toNat]
      · apply List.Vector.eq
        rw [padded, List.Vector.toList_mk, length, ← zeros, List.take_append_drop]

private theorem length_of_asBytes {bytes : CustomAddrBytes} {data : Bytes}
    (defined : bytes.asBytes = .ok data) : data.length = bytes.len := by
  cases bytes with
  | heap heap =>
      cases defined
      rfl
  | inlined size inline =>
      obtain ⟨fits, rfl⟩ := Bytes.sliceTo_eq_ok.mp defined
      simpa [len] using fits

end CustomAddrBytes

inductive CustomAddrParseError where
  | missingSeparator
  | invalidId
  | invalidData
deriving DecidableEq

/-- The number that hexadecimal digits spell, unless it is too large. -/
def u64OfDigits (digits : List Char) : Option UInt64 :=
  (Numerals.readDigits 16 digits).bind fun value =>
    if value < 2 ^ 64 then some (UInt64.ofNat value) else none

/-- `u64::from_str_radix` in base 16, which takes a plus sign and upper-case digits as well. -/
def u64FromHex (text : String) : Option UInt64 :=
  match text.toList with
  | [] => none
  | ['+'] => none
  | '+' :: digits => u64OfDigits digits
  | digits => u64OfDigits digits

namespace CustomAddr

def fromParts (id : UInt64) (data : Bytes) : CustomAddr := ⟨id, .copyFromSlice data⟩

def dataBytes (addr : CustomAddr) : Outcome Empty Bytes := addr.data.asBytes

def idBytes (id : UInt64) : Bytes := (Bytes.putBe 8 id.toNat).reverse

def toVec (addr : CustomAddr) : Outcome Empty Bytes := do
  let data ← addr.dataBytes
  let copied ← Bytes.copyFromSlice addr.data.len data
  return idBytes addr.id ++ copied.toList

def fromBytes (data : Bytes) : Outcome String CustomAddr := do
  Outcome.ensure (8 ≤ data.length) "data too short"
  let id ← Bytes.sliceTo data 8
  let rest ← Bytes.sliceFrom data 8
  return fromParts (UInt64.ofNat (Bytes.beNat id.reverse)) rest

def Canonical (addr : CustomAddr) : Prop := addr.data.Canonical

theorem canonical_fromParts (id : UInt64) (data : Bytes) : (fromParts id data).Canonical :=
  CustomAddrBytes.canonical_copyFromSlice data

theorem Canonical.exists_fromParts {addr : CustomAddr} (canonical : addr.Canonical) :
    ∃ data, addr = fromParts addr.id data := by
  obtain ⟨data, copied⟩ := CustomAddrBytes.Canonical.exists_copyFromSlice canonical
  exact ⟨data, by rw [fromParts, ← copied]⟩

theorem dataBytes_fromParts (id : UInt64) (data : Bytes) :
    (fromParts id data).dataBytes = .ok data :=
  CustomAddrBytes.asBytes_copyFromSlice data

theorem canonical_of_fromBytes {data : Bytes} {addr : CustomAddr}
    (parsed : fromBytes data = .ok addr) : addr.Canonical := by
  simp only [fromBytes, Outcome.bind_eq_ok] at parsed
  obtain ⟨-, -, id, -, rest, -, made⟩ := parsed
  cases made
  exact canonical_fromParts _ _

private theorem toVec_fromParts (id : UInt64) (data : Bytes) :
    (fromParts id data).toVec = .ok (idBytes id ++ data) := by
  have length := CustomAddrBytes.length_of_asBytes (dataBytes_fromParts id data)
  rw [toVec, dataBytes_fromParts]
  change Outcome.bind (Bytes.copyFromSlice _ data) _ = _
  rw [Bytes.copyFromSlice_of_length length]
  rfl

private theorem ofNat_idBytes (id : UInt64) :
    UInt64.ofNat (Bytes.beNat (idBytes id).reverse) = id := by
  rw [idBytes, List.reverse_reverse, Bytes.beNat_putBe_of_lt id.toNat_lt, UInt64.ofNat_toNat]

private theorem fromBytes_append (id : UInt64) (data : Bytes) :
    fromBytes (idBytes id ++ data) = .ok (fromParts id data) := by
  have length : (idBytes id).length = 8 := by simp [idBytes]
  have enough : 8 ≤ (idBytes id ++ data).length := by
    rw [List.length_append, length]
    omega
  rw [fromBytes, Outcome.ensure, if_pos enough, Bytes.sliceTo_append data length,
    Bytes.sliceFrom_append data length]
  change Outcome.ok (fromParts (UInt64.ofNat (Bytes.beNat (idBytes id).reverse)) data) = _
  rw [ofNat_idBytes]

private theorem digitChar_ne :
    ∀ digit < 16, Nat.digitChar digit ≠ '_' ∧ Nat.digitChar digit ≠ '+' := by
  decide

theorem ne_of_mem_toDigits {number : Nat} {char : Char} (inside : char ∈ Nat.toDigits 16 number) :
    char ≠ '_' ∧ char ≠ '+' := by
  obtain ⟨digit, small, rfl⟩ := Numerals.exists_digitChar_of_mem_toDigits (by decide) inside
  exact digitChar_ne digit small

private theorem u64OfDigits_toDigits (id : UInt64) :
    u64OfDigits (Nat.toDigits 16 id.toNat) = some id := by
  rw [u64OfDigits, Numerals.readDigits_toDigits id.toNat (by decide) (by decide),
    Option.bind_some, if_pos id.toNat_lt, UInt64.ofNat_toNat]

private theorem u64FromHex_toDigits (id : UInt64) :
    u64FromHex (String.ofList (Nat.toDigits 16 id.toNat)) = some id := by
  rw [← u64OfDigits_toDigits id, u64FromHex, String.toList_ofList]
  split
  next empty => exact absurd empty (Nat.toDigits_ne_nil)
  next plus => exact absurd rfl (ne_of_mem_toDigits (plus ▸ List.mem_singleton_self _)).2
  next plus => exact absurd rfl (ne_of_mem_toDigits (plus ▸ List.mem_cons_self)).2
  next => rfl

private theorem Canonical.eq_iff {left right : CustomAddr} (canonicalLeft : left.Canonical)
    (canonicalRight : right.Canonical) :
    left = right ↔ left.id = right.id ∧ left.dataBytes = right.dataBytes := by
  obtain ⟨dataLeft, madeLeft⟩ := canonicalLeft.exists_fromParts
  obtain ⟨dataRight, madeRight⟩ := canonicalRight.exists_fromParts
  constructor
  · rintro rfl
    exact ⟨rfl, rfl⟩
  · rintro ⟨sameId, sameData⟩
    rw [madeLeft, madeRight, dataBytes_fromParts, dataBytes_fromParts] at sameData
    cases sameData
    rw [madeLeft, madeRight, sameId]

/-! ## Coming by an address -/

/-- The ways to come by an address. The derived deserialisation takes any values of the fields. -/
inductive Origin where
  | fromParts (id : UInt64) (data : Bytes)
  | fromBytes (data : Bytes)
  | fromStr (s : String)
  | deserialize (id : UInt64) (data : CustomAddrBytes)

section Texts

open Encodings

variable [Encodings]

def display (addr : CustomAddr) : Outcome Empty String := do
  let data ← addr.dataBytes
  return String.ofList (Nat.toDigits 16 addr.id.toNat) ++ "_" ++ hexLower.encode data

def fromStr (s : String) : Except CustomAddrParseError CustomAddr :=
  match Text.splitOnce '_' s with
  | none => .error .missingSeparator
  | some (idStr, dataStr) =>
      match u64FromHex idStr with
      | none => .error .invalidId
      | some id =>
          match hexLower.decode dataStr with
          | none => .error .invalidData
          | some data => .ok (fromParts id data)

def Origin.obtain : Origin → Option CustomAddr
  | .fromParts id data => some (CustomAddr.fromParts id data)
  | .fromBytes data => (CustomAddr.fromBytes data).toOption
  | .fromStr s => (CustomAddr.fromStr s).toOption
  | .deserialize id data => some ⟨id, data⟩

/-- The methods of an address return, and both encodings are read back. -/
structure RoundTrips (addr : CustomAddr) : Prop where
  data : ∃ data, addr.dataBytes = .ok data
  binary : ∃ bytes, addr.toVec = .ok bytes ∧ fromBytes bytes = .ok addr
  text : ∃ text, addr.display = .ok text ∧ fromStr text = .ok addr

/-- Two addresses are the same if their ids and data are, and both round trip. -/
structure BehaveCanonically (left right : CustomAddr) : Prop where
  leftTrips : left.RoundTrips
  rightTrips : right.RoundTrips
  eq_iff : left = right ↔ left.id = right.id ∧ left.dataBytes = right.dataBytes

private theorem canonical_of_fromStr {s : String} {addr : CustomAddr}
    (parsed : fromStr s = .ok addr) :
    addr.Canonical := by
  unfold fromStr at parsed
  split at parsed
  · cases parsed
  · split at parsed
    · cases parsed
    · split at parsed
      · cases parsed
      · cases parsed
        exact canonical_fromParts _ _

/-- Only the derived deserialisation makes addresses that are not canonical. -/
theorem canonical_of_obtain {origin : Origin} {addr : CustomAddr}
    (obtained : origin.obtain = some addr)
    (checked : ∀ id data, origin ≠ .deserialize id data) : addr.Canonical := by
  cases origin with
  | fromParts id data =>
      cases obtained
      exact canonical_fromParts id data
  | fromBytes data => exact canonical_of_fromBytes (Outcome.toOption_eq_some.mp obtained)
  | fromStr s =>
      rw [Origin.obtain] at obtained
      cases parsed : CustomAddr.fromStr s with
      | error error =>
          rw [parsed] at obtained
          cases obtained
      | ok value =>
          rw [parsed] at obtained
          cases obtained
          exact canonical_of_fromStr parsed
  | deserialize id data => exact absurd rfl (checked id data)

private theorem fromStr_display (id : UInt64) (data : Bytes) :
    fromStr (String.ofList (Nat.toDigits 16 id.toNat) ++ "_" ++ hexLower.encode data) =
      .ok (fromParts id data) := by
  have free : '_' ∉ (String.ofList (Nat.toDigits 16 id.toNat)).toList := by
    rw [String.toList_ofList]
    exact fun inside => (ne_of_mem_toDigits inside).1 rfl
  have separator : "_" = String.singleton '_' := rfl
  rw [fromStr, separator, Text.splitOnce_append free]
  dsimp only
  rw [u64FromHex_toDigits]
  dsimp only
  rw [hexLower.decode_encode]

private theorem roundTrips_fromParts (id : UInt64) (data : Bytes) :
    (fromParts id data).RoundTrips where
  data := ⟨data, dataBytes_fromParts id data⟩
  binary := ⟨idBytes id ++ data, toVec_fromParts id data, fromBytes_append id data⟩
  text := by
    refine ⟨_, ?_, fromStr_display id data⟩
    rw [display, dataBytes_fromParts]
    rfl

private theorem Canonical.roundTrips {addr : CustomAddr} (canonical : addr.Canonical) :
    addr.RoundTrips := by
  obtain ⟨data, made⟩ := canonical.exists_fromParts
  rw [made]
  exact roundTrips_fromParts addr.id data

private theorem RoundTrips.canonical {addr : CustomAddr} (trips : addr.RoundTrips) :
    addr.Canonical := by
  obtain ⟨bytes, -, parsed⟩ := trips.binary
  exact canonical_of_fromBytes parsed

/-- Two addresses behave as canonical ones if and only if they are, as all addresses are that were
not deserialised. -/
theorem behaveCanonically_iff (left right : CustomAddr) :
    BehaveCanonically left right ↔ left.Canonical ∧ right.Canonical := by
  constructor
  · intro behave
    exact ⟨behave.leftTrips.canonical, behave.rightTrips.canonical⟩
  · rintro ⟨canonicalLeft, canonicalRight⟩
    exact ⟨canonicalLeft.roundTrips, canonicalRight.roundTrips,
      canonicalLeft.eq_iff canonicalRight⟩

end Texts

attribute [local instance] Encodings.strict

def oversized : CustomAddr := ⟨1, .inlined 31 (List.Vector.replicate 30 0)⟩

def shortOnHeap : CustomAddr := ⟨1, .heap [7]⟩

/-- Deserialised addresses may panic, and may differ from others with the same id and data. -/
theorem deserialized_not_canonical :
    (Origin.deserialize 1 (.inlined 31 (List.Vector.replicate 30 0))).obtain = some oversized ∧
      oversized.dataBytes = .panicked ∧ oversized.toVec = .panicked ∧
      (Origin.deserialize 1 (.heap [7])).obtain = some shortOnHeap ∧
      shortOnHeap.id = (fromParts 1 [7]).id ∧
      shortOnHeap.dataBytes = (fromParts 1 [7]).dataBytes ∧ shortOnHeap ≠ fromParts 1 [7] := by
  decide

end CustomAddr

end NexalinkTunnel.Base
