import Mathlib.Data.List.Nodup
import Mathlib.Tactic.Ring
import NexalinkTunnel.Lib.Bytes

/-!
Contract: texts that spell bytes with an alphabet of a power of two symbols.

Owns what an encoder and a decoder without padding symbols promise, digits of a fixed
width in any base, and a pair that keeps the promise.

In that pair the bits of the bytes, followed by as many zero bits as fill up the last
symbol, are read as one number, whose digits are the symbols. The decoder refuses a text
with a symbol too many and one whose last symbol does not end in zero bits.
-/

namespace NexalinkTunnel.Lib

namespace Digits

def put (base : Nat) : Nat → Nat → List Nat
  | 0, _ => []
  | width + 1, value => value / base ^ width % base :: put base width value

def read (base : Nat) : List Nat → Nat
  | [] => 0
  | digit :: rest => digit * base ^ rest.length + read base rest

@[simp] theorem length_put (base width value : Nat) : (put base width value).length = width := by
  induction width with
  | zero => rfl
  | succ width inductionHypothesis => rw [put, List.length_cons, inductionHypothesis]

theorem lt_of_mem_put {base width value digit : Nat} (positive : 0 < base)
    (inside : digit ∈ put base width value) : digit < base := by
  induction width with
  | zero => simp [put] at inside
  | succ width inductionHypothesis =>
      rw [put, List.mem_cons] at inside
      rcases inside with rfl | inside
      · exact Nat.mod_lt _ positive
      · exact inductionHypothesis inside

private theorem read_put (base width value : Nat) :
    read base (put base width value) = value % base ^ width := by
  induction width with
  | zero => simp [put, read, Nat.mod_one]
  | succ width inductionHypothesis =>
      rw [put, read, length_put, inductionHypothesis, pow_succ, Nat.mod_mul]
      ring

theorem read_lt {base : Nat} {digits : List Nat} (small : ∀ digit ∈ digits, digit < base) :
    read base digits < base ^ digits.length := by
  induction digits with
  | nil => simp [read]
  | cons digit rest inductionHypothesis =>
      obtain ⟨first, others⟩ := List.forall_mem_cons.mp small
      have scaled := Nat.mul_le_mul_right (base ^ rest.length) (Nat.succ_le_of_lt first)
      have below := inductionHypothesis others
      rw [Nat.succ_mul] at scaled
      rw [read, List.length_cons, pow_succ, Nat.mul_comm (base ^ rest.length)]
      omega

private theorem put_add_mul (base width value factor : Nat) :
    put base width (factor * base ^ width + value) = put base width value := by
  induction width generalizing factor value with
  | zero => rfl
  | succ width inductionHypothesis =>
      have split : factor * base ^ (width + 1) + value = factor * base * base ^ width + value := by
        rw [pow_succ, Nat.mul_comm (base ^ width), Nat.mul_assoc]
      rw [put, put, split, inductionHypothesis]
      congr 1
      rcases Nat.eq_zero_or_pos (base ^ width) with zero | positive
      · rw [zero]
        simp
      · rw [Nat.mul_comm (factor * base), Nat.mul_add_div positive, Nat.mul_comm factor,
          Nat.mul_add_mod]

private theorem put_read {base : Nat} {digits : List Nat} (small : ∀ digit ∈ digits, digit < base) :
    put base digits.length (read base digits) = digits := by
  induction digits with
  | nil => rfl
  | cons digit rest inductionHypothesis =>
      obtain ⟨first, others⟩ := List.forall_mem_cons.mp small
      have below := read_lt others
      rw [List.length_cons, put, read, put_add_mul, inductionHypothesis others,
        Nat.mul_comm digit, Nat.mul_add_div (Nat.zero_lt_of_lt below), Nat.div_eq_of_lt below,
        Nat.add_zero, Nat.mod_eq_of_lt first]

end Digits

/-- An alphabet whose symbols stand for `bits` bits each. -/
structure Alphabet where
  bits : Nat
  symbols : List Char
  positive : 0 < bits
  small : bits ≤ 8
  count : symbols.length = 2 ^ bits
  distinct : symbols.Nodup

namespace Alphabet

variable (alphabet : Alphabet)

def symbolCount (byteCount : Nat) : Nat :=
  (8 * byteCount + (alphabet.bits - 1)) / alphabet.bits

def padding (byteCount : Nat) : Nat :=
  alphabet.bits * alphabet.symbolCount byteCount - 8 * byteCount

def symbol (digit : Nat) : Char := alphabet.symbols.getD digit default

def encode (bytes : Bytes) : String :=
  let digits := Digits.put (2 ^ alphabet.bits) (alphabet.symbolCount bytes.length)
    (Bytes.beNat bytes * 2 ^ alphabet.padding bytes.length)
  String.ofList (digits.map alphabet.symbol)

def decode (text : String) : Option Bytes := do
  let digits ← text.toList.mapM alphabet.symbols.idxOf?
  let padding := alphabet.bits * digits.length % 8
  let value := Digits.read (2 ^ alphabet.bits) digits
  if alphabet.bits ≤ padding then none
  else if value % 2 ^ padding ≠ 0 then none
  else some (Bytes.putBe (alphabet.bits * digits.length / 8) (value / 2 ^ padding))

private theorem bits_mul_symbolCount (byteCount : Nat) :
    alphabet.bits * alphabet.symbolCount byteCount = 8 * byteCount + alphabet.padding byteCount ∧
      alphabet.padding byteCount < alphabet.bits := by
  have positive := alphabet.positive
  have split := Nat.div_add_mod (8 * byteCount + (alphabet.bits - 1)) alphabet.bits
  have rest := Nat.mod_lt (8 * byteCount + (alphabet.bits - 1)) positive
  unfold padding symbolCount
  omega

private theorem length_encode (bytes : Bytes) :
    (alphabet.encode bytes).toList.length = alphabet.symbolCount bytes.length := by
  simp [encode]

variable {alphabet}

private theorem symbol_eq_getElem {digit : Nat} (small : digit < alphabet.symbols.length) :
    alphabet.symbol digit = alphabet.symbols[digit] := by
  simp [symbol, small]

private theorem symbol_mem {digit : Nat} (small : digit < 2 ^ alphabet.bits) :
    alphabet.symbol digit ∈ alphabet.symbols := by
  rw [← alphabet.count] at small
  rw [symbol_eq_getElem small]
  exact List.getElem_mem small

private theorem idxOf?_symbol {digit : Nat} (small : digit < 2 ^ alphabet.bits) :
    alphabet.symbols.idxOf? (alphabet.symbol digit) = some digit := by
  rw [← alphabet.count] at small
  rw [symbol_eq_getElem small, List.idxOf?_eq_some_iff]
  refine ⟨small, rfl, ?_⟩
  intro other earlier same
  exact absurd (alphabet.distinct.getElem_inj_iff.mp same) (Nat.ne_of_lt earlier)

private theorem mem_symbols_of_mem_encode {bytes : Bytes} {char : Char}
    (inside : char ∈ (alphabet.encode bytes).toList) : char ∈ alphabet.symbols := by
  rw [encode, String.toList_ofList, List.mem_map] at inside
  obtain ⟨digit, isDigit, rfl⟩ := inside
  exact symbol_mem (Digits.lt_of_mem_put (Nat.two_pow_pos _) isDigit)

private theorem mapM_idxOf?_symbol {digits : List Nat}
    (small : ∀ digit ∈ digits, digit < 2 ^ alphabet.bits) :
    (digits.map alphabet.symbol).mapM alphabet.symbols.idxOf? = some digits := by
  induction digits with
  | nil => rfl
  | cons digit digits inductionHypothesis =>
      have rest := inductionHypothesis fun other inside =>
        small other (List.mem_cons_of_mem _ inside)
      simp [idxOf?_symbol (small digit List.mem_cons_self), rest]

private theorem symbol_of_idxOf? {char : Char} {digit : Nat}
    (found : alphabet.symbols.idxOf? char = some digit) :
    alphabet.symbol digit = char ∧ digit < 2 ^ alphabet.bits := by
  obtain ⟨inside, same, -⟩ := List.idxOf?_eq_some_iff.mp found
  rw [← alphabet.count]
  exact ⟨(symbol_eq_getElem inside).trans same, inside⟩

private theorem map_symbol_of_mapM {chars : List Char} {digits : List Nat}
    (found : chars.mapM alphabet.symbols.idxOf? = some digits) :
    digits.map alphabet.symbol = chars ∧ ∀ digit ∈ digits, digit < 2 ^ alphabet.bits := by
  induction chars generalizing digits with
  | nil =>
      cases found
      simp
  | cons char chars inductionHypothesis =>
      simp only [List.mapM_cons, Option.bind_eq_bind, Option.bind_eq_some_iff, Option.pure_def,
        Option.some.injEq] at found
      obtain ⟨digit, first, rest, others, rfl⟩ := found
      obtain ⟨same, small⟩ := symbol_of_idxOf? first
      obtain ⟨sames, smalls⟩ := inductionHypothesis others
      exact ⟨by rw [List.map_cons, same, sames], List.forall_mem_cons.mpr ⟨small, smalls⟩⟩

private theorem encode_of_decode {text : String} {bytes : Bytes}
    (decoded : alphabet.decode text = some bytes) : alphabet.encode bytes = text := by
  simp only [decode, Option.bind_eq_bind, Option.bind_eq_some_iff] at decoded
  obtain ⟨digits, found, decoded⟩ := decoded
  obtain ⟨symbols, small⟩ := map_symbol_of_mapM found
  split at decoded
  next => cases decoded
  next short =>
    split at decoded
    next => cases decoded
    next zeros =>
      cases decoded
      have positive := alphabet.positive
      -- the bits of the symbols are those of the bytes and of the padding
      have total := Nat.div_add_mod (alphabet.bits * digits.length) 8
      have symbolCount : alphabet.symbolCount (alphabet.bits * digits.length / 8) =
          digits.length := by
        rw [Alphabet.symbolCount]
        apply Nat.div_eq_of_lt_le
        · rw [Nat.mul_comm digits.length]
          omega
        · rw [Nat.mul_comm (digits.length + 1), Nat.mul_succ]
          omega
      have padding : alphabet.padding (alphabet.bits * digits.length / 8) =
          alphabet.bits * digits.length % 8 := by
        rw [Alphabet.padding, symbolCount]
        omega
      have whole : 2 ^ (alphabet.bits * digits.length % 8) ∣
          Digits.read (2 ^ alphabet.bits) digits :=
        Nat.dvd_of_mod_eq_zero (Decidable.not_not.mp zeros)
      have below : Digits.read (2 ^ alphabet.bits) digits /
          2 ^ (alphabet.bits * digits.length % 8) <
            256 ^ (alphabet.bits * digits.length / 8) := by
        apply Nat.div_lt_of_lt_mul
        have bound := Digits.read_lt small
        rw [← pow_mul] at bound
        rw [show (256 : Nat) = 2 ^ 8 from rfl, ← pow_mul, ← pow_add, Nat.add_comm, total]
        exact bound
      rw [encode, Bytes.putBe_length, symbolCount, padding, Bytes.beNat_putBe_of_lt below,
        Nat.div_mul_cancel whole, Digits.put_read small, symbols, String.ofList_toList]

private theorem decode_encode (bytes : Bytes) :
    alphabet.decode (alphabet.encode bytes) = some bytes := by
  obtain ⟨total, short⟩ := alphabet.bits_mul_symbolCount bytes.length
  have digitSmall : ∀ digit ∈ Digits.put (2 ^ alphabet.bits) (alphabet.symbolCount bytes.length)
      (Bytes.beNat bytes * 2 ^ alphabet.padding bytes.length), digit < 2 ^ alphabet.bits :=
    fun digit => Digits.lt_of_mem_put (Nat.two_pow_pos _)
  have underEight : alphabet.padding bytes.length < 8 := lt_of_lt_of_le short alphabet.small
  have paddingEq : alphabet.bits * alphabet.symbolCount bytes.length % 8 =
      alphabet.padding bytes.length := by
    omega
  have lengthEq : alphabet.bits * alphabet.symbolCount bytes.length / 8 = bytes.length := by
    omega
  -- the number fits into its digits
  have fits : Bytes.beNat bytes * 2 ^ alphabet.padding bytes.length <
      (2 ^ alphabet.bits) ^ alphabet.symbolCount bytes.length := by
    have bound := Bytes.beNat_lt bytes
    rw [show (256 : Nat) = 2 ^ 8 from rfl, ← pow_mul] at bound
    rw [← pow_mul, total, pow_add]
    exact Nat.mul_lt_mul_of_pos_right bound (Nat.two_pow_pos _)
  simp only [decode, encode, String.toList_ofList, mapM_idxOf?_symbol digitSmall,
    Option.bind_eq_bind, Option.bind_some, Digits.length_put, Digits.read_put,
    Nat.mod_eq_of_lt fits, paddingEq, lengthEq]
  rw [if_neg (by omega), if_neg (by simp), Nat.mul_div_cancel _ (Nat.two_pow_pos _),
    Bytes.putBe_beNat rfl]

end Alphabet

/-- An encoder and a decoder. If `Exact` holds of their number, bytes are decoded from no other
text than the one that encodes them. -/
structure SymbolEncoding (alphabet : Alphabet) (Exact : Nat → Prop) where
  encode : Bytes → String
  decode : String → Option Bytes
  length_encode : ∀ bytes, (encode bytes).toList.length = alphabet.symbolCount bytes.length
  mem_symbols : ∀ {bytes char}, char ∈ (encode bytes).toList → char ∈ alphabet.symbols
  decode_encode : ∀ bytes, decode (encode bytes) = some bytes
  encode_of_decode : ∀ {text bytes}, Exact bytes.length → decode text = some bytes →
    encode bytes = text

/-- A text is decoded only if it is the one that encodes its bytes. -/
def Alphabet.encoding (alphabet : Alphabet) {Exact : Nat → Prop} :
    SymbolEncoding alphabet Exact where
  encode := alphabet.encode
  decode := alphabet.decode
  length_encode := alphabet.length_encode
  mem_symbols := mem_symbols_of_mem_encode
  decode_encode := decode_encode
  encode_of_decode := fun _ => encode_of_decode

end NexalinkTunnel.Lib
