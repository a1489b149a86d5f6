import NexalinkTunnel.Base.Encodings
import NexalinkTunnel.Lib.Text

/-!
Contract: keys as hexadecimal and base32 text.

Owns `decode_base32_hex` with its errors, the text that a key is displayed as, and which
texts are parsed to a key.
-/

namespace NexalinkTunnel.Base

open Lib

def KeyParsingError.display : KeyParsingError → String
  | .failedToDecodeHex => "failed to decode hex string"
  | .failedToDecodeBase32 => "failed to decode base32 string"
  | .invalidLength => "invalid length"
  | .invalidKeyData => "data is not a valid public key"

variable {alphabet : Alphabet} {Exact : Nat → Prop}

/-- The text is decoded into an array of the length of a key, which has to be filled. -/
def decodeArray (encoding : SymbolEncoding alphabet Exact) (error : KeyParsingError)
    (text : String) : Except KeyParsingError KeyBytes :=
  match encoding.decode text with
  | none => .error error
  | some bytes =>
      match Bytes.tryIntoArray publicKeyLength bytes with
      | some key => .ok key
      | none => .error .invalidLength

private theorem decodeArray_eq_ok {encoding : SymbolEncoding alphabet Exact}
    (exact : Exact publicKeyLength) {error : KeyParsingError} {text : String} {key : KeyBytes} :
    decodeArray encoding error text = .ok key ↔ text = encoding.encode key.toList := by
  have length : key.toList.length = publicKeyLength := key.2
  constructor
  · intro parsed
    unfold decodeArray at parsed
    split at parsed
    next => cases parsed
    next bytes decoded =>
      split at parsed
      next found =>
        cases parsed
        unfold Bytes.tryIntoArray at found
        split at found
        next filled => cases found; exact (encoding.encode_of_decode (filled ▸ exact) decoded).symm
        next => cases found
      next => cases parsed
  · rintro rfl
    unfold decodeArray
    rw [encoding.decode_encode]
    dsimp only
    rw [Bytes.tryIntoArray_of_length length]
    rfl

theorem ascii_encode (encoding : SymbolEncoding alphabet Exact)
    (ascii : alphabet.symbols.all (fun char => char.toNat < 128) = true)
    (bytes : Bytes) : ∀ char ∈ (encoding.encode bytes).toList, char.toNat < 128 :=
  fun char inside => of_decide_eq_true
    (List.all_eq_true.mp ascii char (encoding.mem_symbols inside))

private theorem utf8ByteSize_encode (encoding : SymbolEncoding alphabet Exact)
    (ascii : alphabet.symbols.all (fun char => char.toNat < 128) = true) (bytes : Bytes) :
    (encoding.encode bytes).utf8ByteSize = alphabet.symbolCount bytes.length := by
  have size := Text.utf8ByteSize_of_ascii (ascii_encode encoding ascii bytes)
  rwa [String.ofList_toList, encoding.length_encode] at size

private theorem utf8ByteSize_of_toAsciiUppercase {text upper : String}
    (same : Text.toAsciiUppercase text = upper)
    (ascii : ∀ char ∈ upper.toList, char.toNat < 128) :
    text.utf8ByteSize = upper.utf8ByteSize := by
  subst same
  have chars : (Text.toAsciiUppercase text).toList = text.toList.map Char.toUpper :=
    String.toList_ofList
  rw [chars, List.forall_mem_map] at ascii
  have own := Text.utf8ByteSize_of_ascii fun char inside =>
    Text.toUpper_ascii.mp (ascii char inside)
  have mapped := Text.utf8ByteSize_of_ascii (List.forall_mem_map.mpr ascii)
  rw [String.ofList_toList] at own
  rw [own, Text.toAsciiUppercase, mapped, List.length_map]

open Encodings

variable [Encodings]

def decodeBase32Hex (text : String) : Except KeyParsingError KeyBytes :=
  if text.utf8ByteSize = publicKeyLength * 2 then decodeArray hexLower .failedToDecodeHex text
  else
    let input := Text.toAsciiUppercase text
    if base32NopadLen input.utf8ByteSize = some publicKeyLength then
      decodeArray base32Nopad .failedToDecodeBase32 input
    else .error .invalidLength

/-- The texts of a key: its hexadecimal digits in lower case, or its base32 symbols in any case. -/
theorem decodeBase32Hex_eq_ok {text : String} {key : KeyBytes} :
    decodeBase32Hex text = .ok key ↔ text = hexLower.encode key.toList ∨
      Text.toAsciiUppercase text = base32Nopad.encode key.toList := by
  have length : key.toList.length = publicKeyLength := key.2
  have hexSize : (hexLower.encode key.toList).utf8ByteSize = publicKeyLength * 2 := by
    rw [utf8ByteSize_encode _ rfl, length]
    rfl
  have base32Size : (base32Nopad.encode key.toList).utf8ByteSize = 52 := by
    rw [utf8ByteSize_encode _ rfl, length]
    rfl
  unfold decodeBase32Hex
  split
  next hex =>
    have other : Text.toAsciiUppercase text ≠ base32Nopad.encode key.toList := by
      intro same
      rw [utf8ByteSize_of_toAsciiUppercase same (ascii_encode base32Nopad rfl _), base32Size] at hex
      exact absurd hex (by decide)
    rw [or_iff_left other]
    exact decodeArray_eq_ok trivial
  next short =>
    have other : text ≠ hexLower.encode key.toList := by
      rintro rfl
      exact short hexSize
    rw [or_iff_right other]
    dsimp only
    split
    next fits => exact decodeArray_eq_ok trivial
    next misfit =>
      constructor
      · intro parsed
        cases parsed
      · intro same
        rw [same, base32Size] at misfit
        exact absurd (base32NopadLen_symbolCount publicKeyLength) misfit

def PublicKey.display {ed : Ed25519} (key : PublicKey ed) : String := hexLower.encode key.asBytes

def PublicKey.fromStr {ed : Ed25519} (text : String) : Except KeyParsingError (PublicKey ed) := do
  let bytes ← decodeBase32Hex text
  fromBytes bytes

/-- A text is parsed to a key exactly if it is what the key is displayed as, or its base32 symbols
in any case. -/
theorem PublicKey.fromStr_eq_ok_iff {ed : Ed25519} (text : String) (key : PublicKey ed) :
    fromStr text = .ok key ↔ text = key.display ∨
      Text.toAsciiUppercase text = base32Nopad.encode key.asBytes := by
  refine Iff.trans ?_ decodeBase32Hex_eq_ok
  unfold fromStr
  cases decoded : decodeBase32Hex text with
  | error error =>
      constructor <;> intro parsed <;> cases parsed
  | ok bytes =>
      refine fromBytes_eq_ok.trans ?_
      rw [Except.ok.injEq]
      exact eq_comm

/-- A curve on which every array of bytes is a point. -/
def everyKey : Ed25519 := ⟨fun _ => true⟩

end NexalinkTunnel.Base
