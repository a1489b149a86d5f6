import NexalinkTunnel.Base.Encodings

/-!
Contract: public keys as z-base-32 text, the labels of their DNS zones.

Owns `to_z32` and `from_z32`, and that a key is read back from its own text.
-/

namespace NexalinkTunnel.Base

open Lib Encodings

namespace PublicKey

variable [Encodings] {ed : Ed25519}

def toZ32 (key : PublicKey ed) : String := zBase32.encode key.asBytes

def fromZ32 (text : String) : Except KeyParsingError (PublicKey ed) :=
  match zBase32.decode text with
  | some bytes => tryFrom bytes
  | none => .error .failedToDecodeBase32

@[simp] theorem fromZ32_toZ32 (key : PublicKey ed) : fromZ32 key.toZ32 = .ok key := by
  simp only [fromZ32, toZ32, zBase32.decode_encode, tryFrom_asBytes]

theorem not_mem_toZ32 (key : PublicKey ed) {char : Char}
    (foreign : char ∉ zBase32Alphabet.symbols) : char ∉ key.toZ32.toList :=
  fun inside => foreign (zBase32.mem_symbols inside)

end PublicKey

end NexalinkTunnel.Base
