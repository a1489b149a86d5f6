import Mathlib
import NexalinkTunnel.Base.Z32
import NexalinkTunnel.Lib.Text

/-!
Contract: attributes of an endpoint as strings of TXT records.

Owns the DNS name of the records, the keys of the attributes, and `TxtAttrs` with
its two ways between attributes and `key=value` strings.

Does not own: which attributes an endpoint has and what their values mean.

## What is cut off

A string is written as the key, an equals sign and the value. It is read by cutting
it at every equals sign and taking the first two parts. So a value comes back up to
its own first equals sign only.
-/

namespace NexalinkTunnel.Dns

open Lib Base

variable {ed : Ed25519}

def irohTxtName : String := "_iroh"

inductive ParseError where
  | unexpectedFormat (s : String)
  | attrFromString (key : String)
  | numLabels (numLabels : Nat)
  | notAnIrohRecord (label : String)
  | decodingError (source : KeyParsingError)
deriving DecidableEq, Repr

/-- Parses the endpoint id from an iroh DNS name: the second label, after `_iroh`. -/
def endpointIdFromTxtName [Encodings] (name : String) : Except ParseError (EndpointId ed) :=
  match Text.split '.' name with
  | label :: key :: _ =>
      if label ≠ irohTxtName then .error (.notAnIrohRecord label)
      else (PublicKey.fromZ32 key).mapError .decodingError
  | labels => .error (.numLabels labels.length)

/-- The name under which the records of an endpoint are published, below any origin. -/
def txtName [Encodings] (endpointId : EndpointId ed) (origin : String) : String :=
  irohTxtName ++ "." ++ (endpointId.toZ32 ++ "." ++ origin)

theorem endpointIdFromTxtName_txtName [Encodings] (endpointId : EndpointId ed)
    (origin : String) :
    endpointIdFromTxtName (txtName endpointId origin) = .ok endpointId := by
  have first : Text.split '.' (txtName endpointId origin) =
      irohTxtName :: Text.split '.' (endpointId.toZ32 ++ "." ++ origin) :=
    Text.split_append (by decide) _
  have second : Text.split '.' (endpointId.toZ32 ++ "." ++ origin) =
      endpointId.toZ32 :: Text.split '.' origin :=
    Text.split_append (endpointId.not_mem_toZ32 (by decide)) origin
  simp only [endpointIdFromTxtName, first, second, ne_eq, not_true_eq_false, if_false,
    PublicKey.fromZ32_toZ32]
  rfl

/-- A type of attribute keys: `FromStr + Display + Ord`. -/
class AttrKey (Key : Type) extends Ord Key where
  display : Key → String
  fromStr : String → Option Key

/-- Keys that are read back from what they are printed as, and can be told from a value. -/
class LawfulAttrKey (Key : Type) [AttrKey Key] : Prop extends Std.TransOrd Key,
    Std.LawfulEqOrd Key where
  fromStr_display : ∀ key : Key, AttrKey.fromStr (AttrKey.display key) = some key
  separable : ∀ key : Key, '=' ∉ (AttrKey.display key).toList

/-- The attributes supported by iroh, in the order of their keys. -/
inductive IrohAttr where
  | relay
  | addr
  | userData
deriving DecidableEq, Repr

namespace IrohAttr

def position : IrohAttr → Nat
  | .relay => 0
  | .addr => 1
  | .userData => 2

instance : AttrKey IrohAttr where
  compare left right := compare left.position right.position
  display
    | .relay => "relay"
    | .addr => "addr"
    | .userData => "user-data"
  fromStr text :=
    if text = "relay" then some .relay
    else if text = "addr" then some .addr
    else if text = "user-data" then some .userData
    else none

private theorem position_injective : Function.Injective position := by
  intro left right same
  cases left <;> cases right <;> first | rfl | exact absurd same (by decide)

instance : LawfulAttrKey IrohAttr where
  eq_swap {left right} := Nat.compare_swap right.position left.position |>.symm
  isLE_trans {left middle right} := by
    intro first second
    exact Nat.isLE_compare.mpr
      (Nat.le_trans (Nat.isLE_compare.mp first) (Nat.isLE_compare.mp second))
  compare_self {key} := Nat.compare_eq_eq.mpr rfl
  eq_of_compare {left right} same := position_injective (Nat.compare_eq_eq.mp same)
  fromStr_display key := by cases key <;> rfl
  separable key := by cases key <;> decide

end IrohAttr

structure TxtAttrs (ed : Ed25519) (Key : Type) [AttrKey Key] where
  endpointId : EndpointId ed
  attrs : Std.TreeMap Key (List String)

namespace TxtAttrs

variable {Key : Type} [AttrKey Key]

/-- `attrs.entry(key).or_default().push(value)`. -/
def push (attrs : Std.TreeMap Key (List String)) (key : Key) (value : String) :
    Std.TreeMap Key (List String) :=
  attrs.alter key fun values => some (values.getD [] ++ [value])

def fromParts (endpointId : EndpointId ed) (pairs : List (Key × String)) : TxtAttrs ed Key :=
  ⟨endpointId, pairs.foldl (fun attrs pair => push attrs pair.1 pair.2) ∅⟩

def parseString (s : String) : Except ParseError (Key × String) :=
  match Text.split '=' s with
  | key :: value :: _ =>
      match AttrKey.fromStr key with
      | some attr => .ok (attr, value)
      | none => .error (.attrFromString key)
  | _ => .error (.unexpectedFormat s)

def fromStrings (endpointId : EndpointId ed) (strings : List String) :
    Except ParseError (TxtAttrs ed Key) := do
  let attrs ← strings.foldlM (fun attrs s => do
    let pair ← parseString s
    return push attrs pair.1 pair.2) ∅
  return ⟨endpointId, attrs⟩

def fromTxtLookup [Encodings] (name : String) (lookup : List String) :
    Except ParseError (TxtAttrs ed Key) := do
  let queriedEndpointId ← endpointIdFromTxtName name
  fromStrings queriedEndpointId lookup

def values (attrs : TxtAttrs ed Key) (key : Key) : List String := attrs.attrs[key]?.getD []

def pairs (attrs : TxtAttrs ed Key) : List (Key × String) :=
  attrs.attrs.toList.flatMap fun entry => entry.2.map fun value => (entry.1, value)

def line (pair : Key × String) : String := AttrKey.display pair.1 ++ "=" ++ pair.2

def toTxtStrings (attrs : TxtAttrs ed Key) : List String := attrs.pairs.map line

def valuesOf [DecidableEq Key] (key : Key) (pairs : List (Key × String)) : List String :=
  (pairs.filter fun pair => pair.1 = key).map fun pair => pair.2

def cutPair (pair : Key × String) : Key × String := (pair.1, Text.firstPart '=' pair.2)

variable [LawfulAttrKey Key] [DecidableEq Key]

private theorem getElem?_push (attrs : Std.TreeMap Key (List String)) (key other : Key)
    (value : String) :
    (push attrs key value)[other]?.getD [] =
      attrs[other]?.getD [] ++ if key = other then [value] else [] := by
  rw [push, Std.TreeMap.getElem?_alter]
  by_cases same : key = other
  · subst same
    simp
  · simp [same]

theorem values_fromParts (endpointId : EndpointId ed) (pairs : List (Key × String)) (key : Key) :
    (fromParts endpointId pairs).values key = valuesOf key pairs := by
  have general : ∀ attrs : Std.TreeMap Key (List String),
      (pairs.foldl (fun attrs pair => push attrs pair.1 pair.2) attrs)[key]?.getD [] =
        attrs[key]?.getD [] ++ valuesOf key pairs := by
    induction pairs with
    | nil => simp [valuesOf]
    | cons pair pairs inductionHypothesis =>
        intro attrs
        rw [List.foldl_cons, inductionHypothesis, getElem?_push]
        by_cases same : pair.1 = key <;> simp [valuesOf, same]
  have whole := general ∅
  rw [Std.TreeMap.getElem?_emptyc, Option.getD_none, List.nil_append] at whole
  exact whole

omit [AttrKey Key] [LawfulAttrKey Key] in
private theorem valuesOf_flatMap (key : Key) (entries : List (Key × List String)) :
    valuesOf key (entries.flatMap fun entry => entry.2.map fun value => (entry.1, value)) =
      entries.flatMap fun entry => if entry.1 = key then entry.2 else [] := by
  induction entries with
  | nil => rfl
  | cons entry entries inductionHypothesis =>
      rw [List.flatMap_cons, List.flatMap_cons, ← inductionHypothesis]
      by_cases same : entry.1 = key
      · simp [valuesOf, same, List.filter_map, Function.comp_def]
      · simp [valuesOf, same, List.filter_map, Function.comp_def]

theorem valuesOf_pairs (attrs : TxtAttrs ed Key) (key : Key) :
    valuesOf key attrs.pairs = attrs.values key := by
  rw [pairs, valuesOf_flatMap, values]
  cases found : attrs.attrs[key]? with
  | none =>
      rw [Option.getD_none, List.flatMap_eq_nil_iff]
      rintro ⟨other, values⟩ inside
      have stored := Std.TreeMap.mem_toList_iff_getElem?_eq_some.mp inside
      rw [if_neg]
      rintro rfl
      rw [found] at stored
      cases stored
  | some values =>
      -- the keys of the entries are in strict order, so only one entry has the key
      obtain ⟨front, back, cut⟩ :=
        List.append_of_mem (Std.TreeMap.mem_toList_iff_getElem?_eq_some.mpr found)
      have ordered := attrs.attrs.ordered_keys_toList
      rw [cut, List.pairwise_append, List.pairwise_cons] at ordered
      obtain ⟨-, ⟨above, -⟩, below⟩ := ordered
      have frontNone : (front.flatMap fun entry => if entry.1 = key then entry.2 else []) = [] := by
        rw [List.flatMap_eq_nil_iff]
        intro entry inside
        have smaller := below entry inside (key, values) List.mem_cons_self
        exact if_neg (fun same => by simp [same] at smaller)
      have backNone : (back.flatMap fun entry => if entry.1 = key then entry.2 else []) = [] := by
        rw [List.flatMap_eq_nil_iff]
        intro entry inside
        have larger := above entry inside
        exact if_neg (fun same => by simp [same] at larger)
      rw [cut, List.flatMap_append, List.flatMap_cons, frontNone, backNone]
      simp

omit [DecidableEq Key] in
private theorem parseString_line (pair : Key × String) :
    (parseString (line pair) : Except ParseError (Key × String)) = .ok (cutPair pair) := by
  obtain ⟨rest, parts⟩ := @Text.exists_split_eq_cons '=' pair.2
  have whole : Text.split '=' (line pair) =
      AttrKey.display pair.1 :: Text.split '=' pair.2 :=
    Text.split_append (LawfulAttrKey.separable pair.1) pair.2
  simp only [parseString, whole, parts, LawfulAttrKey.fromStr_display, cutPair]

omit [DecidableEq Key] in
/-- Attributes come back from their strings with each value cut at its first equals sign. -/
theorem fromStrings_toTxtStrings (endpointId : EndpointId ed) (attrs : TxtAttrs ed Key) :
    fromStrings endpointId attrs.toTxtStrings =
      .ok (fromParts endpointId (attrs.pairs.map cutPair)) := by
  have general : ∀ (pairs : List (Key × String)) (start : Std.TreeMap Key (List String)),
      (pairs.map line).foldlM (fun attrs s => do
          let pair ← parseString s
          return push attrs pair.1 pair.2) start =
        (.ok ((pairs.map cutPair).foldl (fun attrs pair => push attrs pair.1 pair.2) start) :
          Except ParseError (Std.TreeMap Key (List String))) := by
    intro pairs
    induction pairs with
    | nil => exact fun _ => rfl
    | cons pair pairs inductionHypothesis =>
        intro start
        rw [List.map_cons, List.foldlM_cons, parseString_line]
        exact inductionHypothesis _
  rw [fromStrings, toTxtStrings, general]
  rfl

end TxtAttrs

end NexalinkTunnel.Dns
