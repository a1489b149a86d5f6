import Mathlib.Logic.Basic

/-!
Contract: cutting a text at a separator, and its ASCII letters.

Owns `split` and `split_once` as programs use them on strings, the parts of a text whose
front has no separator, when the first part is the whole text, and the case of ASCII letters
with the size of a text in bytes.
-/

namespace NexalinkTunnel.Lib.Text

def split (separator : Char) (text : String) : List String :=
  (text.toList.splitOn separator).map String.ofList

/-- The text before the first separator, the whole text if there is none. -/
def firstPart (separator : Char) (text : String) : String :=
  (split separator text).headD ""

variable {separator : Char}

theorem split_of_not_mem {text : String} (free : separator ∉ text.toList) :
    split separator text = [text] := by
  rw [split, List.splitOn_eq_singleton free, List.map_singleton, String.ofList_toList]

theorem split_append {front : String} (free : separator ∉ front.toList) (rest : String) :
    split separator (front ++ String.singleton separator ++ rest) =
      front :: split separator rest := by
  have cut : (front ++ String.singleton separator ++ rest).toList =
      front.toList ++ separator :: rest.toList := by
    simp only [String.toList_append, String.toList_singleton, List.append_assoc,
      List.singleton_append]
  rw [split, cut, List.splitOn_append_cons_self_of_not_mem free, List.map_cons,
    String.ofList_toList, split]

theorem exists_split_eq_cons (text : String) :
    ∃ rest, split separator text = firstPart separator text :: rest := by
  cases parts : split separator text with
  | nil => exact absurd (List.map_eq_nil_iff.mp parts) (List.splitOn_ne_nil _ _)
  | cons first rest => exact ⟨rest, by rw [firstPart, parts, List.headD_cons]⟩

theorem firstPart_of_not_mem {text : String} (free : separator ∉ text.toList) :
    firstPart separator text = text := by
  rw [firstPart, split_of_not_mem free, List.headD_cons]

theorem not_mem_firstPart (text : String) : separator ∉ (firstPart separator text).toList := by
  by_cases inside : separator ∈ text.toList
  · obtain ⟨front, rest, cut, free⟩ := List.eq_append_cons_of_mem inside
    rw [firstPart, split, cut, List.splitOn_append_cons_self_of_not_mem free, List.map_cons,
      List.headD_cons, String.toList_ofList]
    exact free
  · rw [firstPart_of_not_mem inside]
    exact inside

theorem firstPart_eq_self_iff {text : String} :
    firstPart separator text = text ↔ separator ∉ text.toList :=
  ⟨fun same => same ▸ not_mem_firstPart text, firstPart_of_not_mem⟩

def splitOnce (separator : Char) (text : String) : Option (String × String) :=
  match text.toList.dropWhile (· ≠ separator) with
  | [] => none
  | _ :: back => some (String.ofList (text.toList.takeWhile (· ≠ separator)), String.ofList back)

theorem splitOnce_append {front : String} (free : separator ∉ front.toList) (back : String) :
    splitOnce separator (front ++ String.singleton separator ++ back) = some (front, back) := by
  have other : ∀ char ∈ front.toList, decide (char ≠ separator) = true := by
    intro char inside
    exact decide_eq_true fun same => free (same ▸ inside)
  have cut : (front ++ String.singleton separator ++ back).toList =
      front.toList ++ separator :: back.toList := by
    simp only [String.toList_append, String.toList_singleton, List.append_assoc,
      List.singleton_append]
  rw [splitOnce, cut, List.dropWhile_append_of_pos other, List.takeWhile_append_of_pos other]
  simp

def toAsciiUppercase (text : String) : String := String.ofList (text.toList.map Char.toUpper)

private theorem utf8Size_eq_one {char : Char} : char.utf8Size = 1 ↔ char.toNat < 128 := by
  rw [Char.utf8Size_eq_one_iff, UInt32.le_iff_toNat_le]
  exact Nat.lt_succ_iff.symm

theorem toUpper_ascii {char : Char} : char.toUpper.toNat < 128 ↔ char.toNat < 128 := by
  unfold Char.toUpper
  split
  next lower =>
    have lower : 97 ≤ char.toNat ∧ char.toNat ≤ 122 := lower
    refine iff_of_true ?_ (by omega)
    change (char.val + _).toNat < 128
    rw [UInt32.toNat_add]
    change (char.toNat + 4294967264) % 2 ^ 32 < 128
    omega
  next => exact .rfl

/-- A text of ASCII characters has as many bytes as characters. -/
theorem utf8ByteSize_of_ascii {chars : List Char} (ascii : ∀ char ∈ chars, char.toNat < 128) :
    (String.ofList chars).utf8ByteSize = chars.length := by
  induction chars with
  | nil => rfl
  | cons char chars inductionHypothesis =>
      rw [List.forall_mem_cons] at ascii
      rw [String.ofList_cons, String.utf8ByteSize_append, String.utf8ByteSize_singleton,
        utf8Size_eq_one.mpr ascii.1, inductionHypothesis ascii.2, List.length_cons, Nat.add_comm]

end NexalinkTunnel.Lib.Text
