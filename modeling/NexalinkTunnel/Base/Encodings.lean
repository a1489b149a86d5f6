import NexalinkTunnel.Base.Key
import NexalinkTunnel.Lib.SymbolEncoding

/-!
Contract: the text encodings that keys and addresses are written in.

Owns the alphabets, and what is relied on of the encoders and decoders of `data_encoding`
and `z32`.

Does not own: how the two crates encode and decode. Whatever keeps the laws is admitted, and
`z32` is asked for the length of keys only.
-/

namespace NexalinkTunnel.Base

open Lib

def hexLowerAlphabet : Alphabet where
  bits := 4
  symbols := ['0', '1', '2', '3', '4', '5', '6', '7', '8', '9', 'a', 'b', 'c', 'd', 'e', 'f']
  positive := by decide
  small := by decide
  count := by decide
  distinct := by decide

def base32NopadAlphabet : Alphabet where
  bits := 5
  symbols := ['A', 'B', 'C', 'D', 'E', 'F', 'G', 'H', 'I', 'J', 'K', 'L', 'M', 'N', 'O', 'P',
    'Q', 'R', 'S', 'T', 'U', 'V', 'W', 'X', 'Y', 'Z', '2', '3', '4', '5', '6', '7']
  positive := by decide
  small := by decide
  count := by decide
  distinct := by decide

def base32DnssecAlphabet : Alphabet where
  bits := 5
  symbols := ['0', '1', '2', '3', '4', '5', '6', '7', '8', '9', 'a', 'b', 'c', 'd', 'e', 'f',
    'g', 'h', 'i', 'j', 'k', 'l', 'm', 'n', 'o', 'p', 'q', 'r', 's', 't', 'u', 'v']
  positive := by decide
  small := by decide
  count := by decide
  distinct := by decide

def zBase32Alphabet : Alphabet where
  bits := 5
  symbols := ['y', 'b', 'n', 'd', 'r', 'f', 'g', '8', 'e', 'j', 'k', 'm', 'c', 'p', 'q', 'x',
    'o', 't', '1', 'u', 'w', 'i', 's', 'z', 'a', '3', '4', '5', 'h', '7', '6', '9']
  positive := by decide
  small := by decide
  count := by decide
  distinct := by decide

/-- The encodings of `data_encoding` and `z32`. -/
class Encodings where
  hexLower : SymbolEncoding hexLowerAlphabet fun _ => True
  base32Nopad : SymbolEncoding base32NopadAlphabet fun _ => True
  /-- `BASE32_NOPAD.decode_len`. -/
  base32NopadLen : Nat → Option Nat
  base32NopadLen_symbolCount : ∀ byteCount,
    base32NopadLen (base32NopadAlphabet.symbolCount byteCount) = some byteCount
  /-- Nothing is exact here, since letters of both cases are read. -/
  base32Dnssec : SymbolEncoding base32DnssecAlphabet fun _ => False
  zBase32 : SymbolEncoding zBase32Alphabet (· = publicKeyLength)

/-- Decoders that read nothing but what the encoders write. -/
@[reducible] def Encodings.strict : Encodings where
  hexLower := hexLowerAlphabet.encoding
  base32Nopad := base32NopadAlphabet.encoding
  base32NopadLen := fun symbolCount => some (5 * symbolCount / 8)
  base32NopadLen_symbolCount := by
    intro byteCount
    have symbols : base32NopadAlphabet.symbolCount byteCount = (8 * byteCount + 4) / 5 := rfl
    rw [symbols, Option.some_inj]
    omega
  base32Dnssec := base32DnssecAlphabet.encoding
  zBase32 := zBase32Alphabet.encoding

end NexalinkTunnel.Base
