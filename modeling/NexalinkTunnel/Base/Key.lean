import NexalinkTunnel.Lib.Bytes

/-!
Contract: public keys of `iroh-base`.

Owns `PublicKey` as 32 bytes that decompress to a curve point, with the two
ways the relay parses one, and `EndpointId` as another name for it.

Does not own: the curve. Which 32 bytes are a point is `ed25519_dalek`'s
decision and enters as a parameter.
-/

namespace NexalinkTunnel.Base

open Lib

def publicKeyLength : Nat := 32

abbrev KeyBytes := List.Vector UInt8 publicKeyLength

/-- What the key type asks of `ed25519_dalek`: whether
`VerifyingKey::from_bytes` accepts a byte array. -/
structure Ed25519 where
  accepts : List.Vector UInt8 publicKeyLength → Bool

inductive KeyParsingError where
  | failedToDecodeHex
  | failedToDecodeBase32
  | invalidLength
  | invalidKeyData
deriving DecidableEq, Repr

/-- A public key. It is verified to decompress into a valid key when created. -/
structure PublicKey (ed : Ed25519) where
  bytes : List.Vector UInt8 publicKeyLength
  valid : ed.accepts bytes = true

abbrev EndpointId := PublicKey

namespace PublicKey

variable {ed : Ed25519}

@[ext] theorem ext {left right : PublicKey ed} (same : left.bytes = right.bytes) :
    left = right := by
  cases left
  cases right
  simp only at same
  subst same
  rfl

instance : DecidableEq (PublicKey ed) := fun left right =>
  decidable_of_iff (left.bytes = right.bytes) ⟨ext, fun same => by rw [same]⟩

def asBytes (key : PublicKey ed) : Bytes := key.bytes.toList

def fromBytes (bytes : List.Vector UInt8 publicKeyLength) :
    Except KeyParsingError (PublicKey ed) :=
  if valid : ed.accepts bytes = true then .ok ⟨bytes, valid⟩ else .error .invalidKeyData

/-- `TryFrom<&[u8]>`: a slice of any other length is refused as well. -/
def tryFrom (slice : Bytes) : Except KeyParsingError (PublicKey ed) :=
  match Bytes.tryIntoArray publicKeyLength slice with
  | some bytes => fromBytes bytes
  | none => .error .invalidKeyData

@[simp] theorem asBytes_length (key : PublicKey ed) : key.asBytes.length = publicKeyLength :=
  key.bytes.2

@[simp] theorem fromBytes_bytes (key : PublicKey ed) : fromBytes key.bytes = .ok key := by
  simp [fromBytes, key.valid]

theorem fromBytes_eq_ok {bytes : List.Vector UInt8 publicKeyLength} {key : PublicKey ed} :
    fromBytes bytes = .ok key ↔ key.bytes = bytes := by
  constructor
  · intro parsed
    unfold fromBytes at parsed
    split at parsed
    next valid => rw [← Except.ok.inj parsed]
    next invalid => simp at parsed
  · rintro rfl
    exact fromBytes_bytes key

/-- A slice parses to a key exactly when it is that key's bytes. -/
theorem tryFrom_eq_ok {slice : Bytes} {key : PublicKey ed} :
    tryFrom slice = .ok key ↔ key.asBytes = slice := by
  by_cases length : slice.length = publicKeyLength
  · simp only [tryFrom, Bytes.tryIntoArray_of_length length]
    exact fromBytes_eq_ok.trans Subtype.ext_iff
  · constructor
    · intro parsed
      simp [tryFrom, Bytes.tryIntoArray, length] at parsed
    · intro same
      exact absurd (same ▸ asBytes_length key) length

@[simp] theorem tryFrom_asBytes (key : PublicKey ed) : tryFrom key.asBytes = .ok key :=
  tryFrom_eq_ok.mpr rfl

end PublicKey

end NexalinkTunnel.Base
