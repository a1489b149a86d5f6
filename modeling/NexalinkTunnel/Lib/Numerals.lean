import Mathlib.Data.Nat.Digits.Defs
import NexalinkTunnel.Lib.Bytes

/-!
Contract: numbers that are written in digits, without leading zeros.

Owns reading the digits of any base up to sixteen as programs do, that written digits
are read back, and that a number in front of a delimiter can be told from the rest.
-/

namespace NexalinkTunnel.Lib

namespace Bytes

theorem ofString_append (left right : String) :
    ofString (left ++ right) = ofString left ++ ofString right := by
  simp [ofString, String.toByteArray_append]

private theorem ofString_eq_flatMap (text : String) :
    ofString text = text.toList.flatMap String.utf8EncodeChar := by
  have encoded : text.toUTF8 = text.toList.utf8Encode := String.utf8Encode_toList.symm
  rw [ofString, encoded, List.utf8Encode]
  simp

private theorem ofString_injective {left right : String} (same : ofString left = ofString right) :
    left = right := by
  have parsed := toString?_ofString left
  rw [same, toString?_ofString] at parsed
  exact (Option.some.inj parsed).symm

end Bytes

namespace Numerals

def digitValue (char : Char) : Option Nat :=
  if '0' ≤ char ∧ char ≤ '9' then some (char.toNat - 48)
  else if 'a' ≤ char ∧ char ≤ 'z' then some (char.toNat - 87)
  else if 'A' ≤ char ∧ char ≤ 'Z' then some (char.toNat - 55)
  else none

def toDigit (radix : Nat) (char : Char) : Option Nat := (digitValue char).filter (· < radix)

def readDigits (radix : Nat) (chars : List Char) : Option Nat :=
  chars.foldlM (fun value char => (toDigit radix char).map (value * radix + ·)) 0

variable {radix : Nat}

private theorem digitValue_digitChar :
    ∀ digit < 16, digitValue (Nat.digitChar digit) = some digit := by
  decide

private theorem toDigit_digitChar {digit : Nat} (small : digit < radix) (known : radix ≤ 16) :
    toDigit radix (Nat.digitChar digit) = some digit := by
  rw [toDigit, digitValue_digitChar digit (by omega), Option.filter_some, decide_eq_true small]
  rfl

theorem readDigits_toDigits (number : Nat) (several : 1 < radix) (known : radix ≤ 16) :
    readDigits radix (Nat.toDigits radix number) = some number := by
  induction number using Nat.strong_induction_on with
  | _ number inductionHypothesis =>
      rw [Nat.toDigits_eq_if several]
      split
      next small => simp [readDigits, toDigit_digitChar small known]
      next large =>
        have last : number % radix < radix := Nat.mod_lt _ (by omega)
        have front := inductionHypothesis (number / radix)
          (Nat.div_lt_self (by omega) several)
        unfold readDigits at front ⊢
        rw [List.foldlM_append, front]
        simp only [Option.bind_eq_bind, Option.bind_some, List.foldlM_cons, List.foldlM_nil,
          toDigit_digitChar last known, Option.map_some]
        exact congrArg some (Nat.div_add_mod' number radix)

private theorem toDigits_injective {left right : Nat} (several : 1 < radix) (known : radix ≤ 16)
    (same : Nat.toDigits radix left = Nat.toDigits radix right) : left = right := by
  have read := readDigits_toDigits left several known
  rw [same, readDigits_toDigits right several known] at read
  exact (Option.some.inj read).symm

theorem exists_digitChar_of_mem_toDigits {number : Nat} {char : Char} (several : 1 < radix)
    (written : char ∈ Nat.toDigits radix number) :
    ∃ digit < radix, char = Nat.digitChar digit := by
  induction number using Nat.strong_induction_on with
  | _ number inductionHypothesis =>
      rw [Nat.toDigits_eq_if several] at written
      split at written
      next small => exact ⟨number, small, List.mem_singleton.mp written⟩
      next large =>
        rcases List.mem_append.mp written with front | last
        · exact inductionHypothesis (number / radix) (Nat.div_lt_self (by omega) several) front
        · exact ⟨number % radix, Nat.mod_lt _ (by omega), List.mem_singleton.mp last⟩

private theorem append_cons_inj {Item : Type} {delimiter : Item} {left right back rest : List Item}
    (leftFree : delimiter ∉ left) (rightFree : delimiter ∉ right)
    (same : left ++ delimiter :: back = right ++ delimiter :: rest) :
    left = right ∧ back = rest := by
  induction left generalizing right with
  | nil =>
      cases right with
      | nil => exact ⟨rfl, (List.cons.inj same).2⟩
      | cons first others =>
          have found : delimiter = first := (List.cons.inj same).1
          exact absurd (found ▸ List.mem_cons_self) rightFree
  | cons first others inductionHypothesis =>
      cases right with
      | nil =>
          have found : first = delimiter := (List.cons.inj same).1
          exact absurd (found ▸ List.mem_cons_self) leftFree
      | cons second remaining =>
          obtain ⟨rfl, tails⟩ := List.cons.inj same
          obtain ⟨rfl, rfl⟩ := inductionHypothesis (fun inside => leftFree (.tail _ inside))
            (fun inside => rightFree (.tail _ inside)) tails
          exact ⟨rfl, rfl⟩

def decimal (number : Nat) : Bytes := Bytes.ofString (toString number)

private theorem decimal_injective {left right : Nat} (same : decimal left = decimal right) :
    left = right := by
  have texts := Bytes.ofString_injective same
  rw [Nat.toString_eq_ofList_toDigits, Nat.toString_eq_ofList_toDigits] at texts
  exact toDigits_injective (by decide) (by decide) (String.ofList_injective texts)

private theorem digit_of_mem_utf8EncodeChar : ∀ digit < 10,
    ∀ byte ∈ String.utf8EncodeChar (Nat.digitChar digit), 48 ≤ byte ∧ byte ≤ 57 := by
  decide +kernel

private theorem digit_of_mem_decimal {number : Nat} {byte : UInt8}
    (inside : byte ∈ decimal number) :
    48 ≤ byte ∧ byte ≤ 57 := by
  rw [decimal, Bytes.ofString_eq_flatMap, Nat.toString_eq_ofList_toDigits, String.toList_ofList]
    at inside
  obtain ⟨char, written, encoded⟩ := List.mem_flatMap.mp inside
  obtain ⟨digit, small, rfl⟩ := exists_digitChar_of_mem_toDigits (by decide) written
  exact digit_of_mem_utf8EncodeChar digit small byte encoded

/-- A decimal number in front of a byte that is no digit can be told from the rest. -/
theorem decimal_append_cons_inj {left right : Nat} {delimiter : UInt8} {back rest : Bytes}
    (foreign : ¬ (48 ≤ delimiter ∧ delimiter ≤ 57))
    (same : decimal left ++ delimiter :: back = decimal right ++ delimiter :: rest) :
    left = right ∧ back = rest := by
  obtain ⟨numbers, rests⟩ := append_cons_inj (fun inside => foreign (digit_of_mem_decimal inside))
    (fun inside => foreign (digit_of_mem_decimal inside)) same
  exact ⟨decimal_injective numbers, rests⟩

end Numerals

end NexalinkTunnel.Lib
