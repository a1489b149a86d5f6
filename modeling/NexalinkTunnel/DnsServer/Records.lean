import Mathlib.Data.List.Nodup
import NexalinkTunnel.Lib.Bytes

/-!
Contract: names, records and record sets as the DNS library of the server has them.

Owns labels and names with their length limits, their comparison without regard to
case, and what is relied on of the library's operations on names and record sets.

Does not own: the wire format, record data, which is any type with equality, and
signatures of record sets.

## Labels that do not count

The number of labels of a name leaves out a first label `*`, while the iterator over
the labels has it. Whoever cuts a name by that number cuts a name with `*` elsewhere.
-/

namespace NexalinkTunnel.DnsServer

open Lib

inductive ProtoError where
  | labelLength
  | domainNameTooLong
  | message
deriving DecidableEq, Repr

structure Label where
  bytes : Bytes
  nonempty : bytes ≠ []
  short : bytes.length ≤ 63
deriving DecidableEq

def lowerByte (byte : UInt8) : UInt8 :=
  if 65 ≤ byte ∧ byte ≤ 90 then byte + 32 else byte

@[simp] theorem lowerByte_lowerByte (byte : UInt8) :
    lowerByte (lowerByte byte) = lowerByte byte := by
  unfold lowerByte
  by_cases upper : 65 ≤ byte ∧ byte ≤ 90
  · rw [if_pos upper, if_neg]
    simp only [UInt8.le_iff_toNat_le, UInt8.toNat_add] at upper ⊢
    intro again
    have low : (65 : UInt8).toNat = 65 := rfl
    have high : (90 : UInt8).toNat = 90 := rfl
    have gap : (32 : UInt8).toNat = 32 := rfl
    omega
  · rw [if_neg upper, if_neg upper]

namespace Label

def fromRawBytes (bytes : Bytes) : Except ProtoError Label :=
  if nonempty : bytes = [] then .error .labelLength
  else if short : bytes.length ≤ 63 then .ok ⟨bytes, nonempty, short⟩
  else .error .labelLength

theorem fromRawBytes_bytes (label : Label) : fromRawBytes label.bytes = .ok label := by
  rw [fromRawBytes, dif_neg label.nonempty, dif_pos label.short]

/-- `Label::from_utf8`, of a text that has ASCII letters and digits only. -/
def fromUtf8 (text : String) : Except ProtoError Label :=
  fromRawBytes (text.toList.map fun char => UInt8.ofNat char.toNat)

def lower (label : Label) : Label where
  bytes := label.bytes.map lowerByte
  nonempty := by simpa using label.nonempty
  short := by simpa using label.short

@[simp] theorem length_lower (label : Label) :
    label.lower.bytes.length = label.bytes.length :=
  List.length_map _

@[simp] theorem lower_lower (label : Label) : label.lower.lower = label.lower := by
  simp [lower, Function.comp_def]

def wildcard : Label := ⟨[42], by decide, by decide⟩

theorem eq_wildcard_of_lower {label : Label} (same : label.lower = wildcard) :
    label = wildcard := by
  have bytes : label.bytes.map lowerByte = [42] := congrArg Label.bytes same
  obtain ⟨byte, only, lowered⟩ := List.map_eq_singleton_iff.mp bytes
  have star : byte = 42 := by
    unfold lowerByte at lowered
    split at lowered
    next upper =>
      simp only [UInt8.le_iff_toNat_le, ← UInt8.toNat_inj, UInt8.toNat_add] at upper lowered
      have low : (65 : UInt8).toNat = 65 := rfl
      have high : (90 : UInt8).toNat = 90 := rfl
      have gap : (32 : UInt8).toNat = 32 := rfl
      have code : (42 : UInt8).toNat = 42 := rfl
      omega
    next => exact lowered
  cases label
  simp only [star] at only
  subst only
  rfl

end Label

/-- The length on the wire, with the length bytes and the root label. -/
def encodedLen : List Label → Nat
  | [] => 1
  | label :: labels => label.bytes.length + 1 + encodedLen labels

theorem one_le_encodedLen (labels : List Label) : 1 ≤ encodedLen labels := by
  unfold encodedLen
  split <;> omega

theorem encodedLen_append (left right : List Label) :
    encodedLen (left ++ right) + 1 = encodedLen left + encodedLen right := by
  induction left with
  | nil => exact Nat.add_comm _ _
  | cons label left inductionHypothesis =>
      simp only [List.cons_append, encodedLen]
      omega

private theorem encodedLen_take_le (labels : List Label) (count : Nat) :
    encodedLen (labels.take count) ≤ encodedLen labels := by
  have split := encodedLen_append (labels.take count) (labels.drop count)
  rw [List.take_append_drop] at split
  have root := one_le_encodedLen (labels.drop count)
  omega

@[simp] theorem encodedLen_lower (labels : List Label) :
    encodedLen (labels.map Label.lower) = encodedLen labels := by
  induction labels with
  | nil => rfl
  | cons label labels inductionHypothesis =>
      rw [List.map_cons, encodedLen, encodedLen, inductionHypothesis, Label.length_lower]

structure Name where
  /-- From the host to the top of the tree. -/
  labels : List Label
  isFqdn : Bool
  bounded : encodedLen labels ≤ 255
deriving DecidableEq

namespace Name

theorem ext {left right : Name} (labels : left.labels = right.labels)
    (isFqdn : left.isFqdn = right.isFqdn) : left = right := by
  cases left
  cases right
  cases labels
  cases isFqdn
  rfl

def fromLabels (labels : List Label) : Except ProtoError Name :=
  if bounded : encodedLen labels ≤ 255 then .ok ⟨labels, true, bounded⟩
  else .error .domainNameTooLong

theorem of_fromLabels {labels : List Label} {name : Name} (built : fromLabels labels = .ok name) :
    name.labels = labels ∧ name.isFqdn = true := by
  unfold fromLabels at built
  split at built <;> cases built
  exact ⟨rfl, rfl⟩

def lower (name : Name) : Name where
  labels := name.labels.map Label.lower
  isFqdn := name.isFqdn
  bounded := by simpa using name.bounded

@[simp] theorem lower_lower (name : Name) : name.lower.lower = name.lower := by
  simp [lower, Function.comp_def]

def IsWildcard (name : Name) : Prop := name.labels.head? = some .wildcard
deriving Decidable

def takeLabels (name : Name) (count : Nat) : Name where
  labels := name.labels.take count
  isFqdn := true
  bounded := Nat.le_trans (encodedLen_take_le name.labels count) name.bounded

theorem fromLabels_take (name : Name) (count : Nat) :
    fromLabels (name.labels.take count) = .ok (name.takeLabels count) :=
  dif_pos (name.takeLabels count).bounded

end Name

/-! ## Records and record sets -/

/-- The record types that the server or a record set treats in their own way, and all others by
their code. -/
inductive RecordType where
  | soa
  | ns
  | cname
  | aname
  | any
  | axfr
  | other (code : UInt16)
deriving DecidableEq, Repr

variable {Data : Type}

structure Record (Data : Type) where
  name : Name
  recordType : RecordType
  dnsClass : UInt16
  ttl : UInt32
  data : Data
deriving DecidableEq

/-- `Record::eq`, which leaves out the time to live. -/
def Record.Same (record other : Record Data) : Prop :=
  record.name.lower = other.name.lower ∧ record.dnsClass = other.dnsClass ∧
    record.data = other.data

instance [DecidableEq Data] (record other : Record Data) : Decidable (record.Same other) :=
  inferInstanceAs (Decidable (_ ∧ _ ∧ _))

structure RecordSet (Data : Type) where
  name : Name
  recordType : RecordType
  records : List (Record Data)
  serial : Nat
  distinct : (records.map Record.data).Nodup
deriving DecidableEq

namespace RecordSet

def new (name : Name) (recordType : RecordType) (serial : Nat) : RecordSet Data where
  name := name
  recordType := recordType
  records := []
  serial := serial
  distinct := List.nodup_nil

def ofRecord (record : Record Data) : RecordSet Data where
  name := record.name
  recordType := record.recordType
  records := [record]
  serial := 0
  distinct := List.nodup_singleton _

def Single (recordType : RecordType) : Prop := recordType = .cname ∨ recordType = .aname
deriving Decidable

def data (set : RecordSet Data) : List Data := set.records.map Record.data

theorem mem_data {set : RecordSet Data} {value : Data} :
    value ∈ set.data ↔ ∃ record ∈ set.records, record.data = value :=
  List.mem_map

end RecordSet

/-! ## The operations of the library -/

/-- What is used of the names and record sets of `hickory`. -/
class Hickory where
  numLabels : Name → Nat
  numLabels_eq_length : ∀ {name : Name}, ¬ name.IsWildcard → numLabels name = name.labels.length
  /-- A first label `*` does not count. -/
  numLabels_of_isWildcard : ∀ {name : Name}, name.IsWildcard →
    name.labels.length = numLabels name + 1
  zoneOf : Name → Name → Bool
  /-- The labels are the last ones of the other name, whatever their case. -/
  zoneOf_iff_suffix : ∀ {zone name : Name},
    zoneOf zone name = true ↔ zone.lower.labels <:+ name.lower.labels
  appendName : Name → Name → Except ProtoError Name
  appendName_eq : ∀ {name other : Name}
    (bounded : encodedLen (name.labels ++ other.labels) ≤ 255),
    appendName name other = .ok ⟨name.labels ++ other.labels, other.isFqdn, bounded⟩
  /-- `RecordSet::insert`, of a record that is no SOA record. -/
  insert : {Data : Type} → [DecidableEq Data] → RecordSet Data → Record Data → Nat → RecordSet Data
  insert_keeps : ∀ {Data : Type} [DecidableEq Data] (set : RecordSet Data) (record : Record Data)
    (serial : Nat), (insert set record serial).name = set.name ∧
      (insert set record serial).recordType = set.recordType
  mem_data_insert : ∀ {Data : Type} [DecidableEq Data] {set : RecordSet Data}
    {record : Record Data} {serial : Nat} {value : Data}, ¬ RecordSet.Single record.recordType →
    (value ∈ (insert set record serial).data ↔ value = record.data ∨ value ∈ set.data)
  mem_records_insert : ∀ {Data : Type} [DecidableEq Data] {set : RecordSet Data}
    {record other : Record Data} {serial : Nat},
    other ∈ (insert set record serial).records → other = record ∨ other ∈ set.records

namespace Reference

def numLabels (name : Name) : Nat :=
  match name.labels with
  | [] => 0
  | first :: rest => if first = .wildcard then rest.length else rest.length + 1

private theorem numLabels_eq_length {name : Name} (plain : ¬ name.IsWildcard) :
    numLabels name = name.labels.length := by
  unfold numLabels
  split
  next found => rw [found, List.length_nil]
  next first rest found =>
    have counted : first ≠ .wildcard := by
      rintro rfl
      exact plain (by rw [Name.IsWildcard, found, List.head?_cons])
    rw [if_neg counted, found, List.length_cons]

private theorem numLabels_of_isWildcard {name : Name} (wildcard : name.IsWildcard) :
    name.labels.length = numLabels name + 1 := by
  obtain ⟨rest, found⟩ := List.head?_eq_some_iff.mp wildcard
  rw [numLabels, found]
  simp

def zoneOf (zone name : Name) : Bool :=
  zone.lower.labels.isSuffixOf name.lower.labels

def appendName (name other : Name) : Except ProtoError Name :=
  if bounded : encodedLen (name.labels ++ other.labels) ≤ 255 then
    .ok ⟨name.labels ++ other.labels, other.isFqdn, bounded⟩
  else .error .domainNameTooLong

variable [DecidableEq Data]

def replace (records : List (Record Data)) (record : Record Data) : List (Record Data) :=
  records.map fun existing => if existing.data = record.data then record else existing

private theorem data_replace (records : List (Record Data)) (record : Record Data) :
    (replace records record).map Record.data = records.map Record.data := by
  rw [replace, List.map_map]
  apply List.map_congr_left
  intro existing _
  by_cases same : existing.data = record.data
  · simp [same]
  · simp [same]

def insert (set : RecordSet Data) (record : Record Data) (serial : Nat) : RecordSet Data :=
  if RecordSet.Single record.recordType then
    { set with records := [record], serial := serial, distinct := List.nodup_singleton _ }
  else if known : record.data ∈ set.records.map Record.data then
    if ∃ existing ∈ set.records, existing.data = record.data ∧ existing.Same record then set
    else
      { set with
        records := replace set.records record
        serial := serial
        distinct := by rw [data_replace]; exact set.distinct }
  else
    { set with
      records := set.records ++ [record]
      serial := serial
      distinct := by
        rw [List.map_append, List.map_singleton]
        exact List.nodup_append'.mpr ⟨set.distinct, List.nodup_singleton _, by simpa using known⟩ }

private theorem insert_keeps (set : RecordSet Data) (record : Record Data) (serial : Nat) :
    (insert set record serial).name = set.name ∧
      (insert set record serial).recordType = set.recordType := by
  unfold insert
  split
  · exact ⟨rfl, rfl⟩
  · split
    · split <;> exact ⟨rfl, rfl⟩
    · exact ⟨rfl, rfl⟩

private theorem mem_data_insert {set : RecordSet Data} {record : Record Data} {serial : Nat}
    (several : ¬ RecordSet.Single record.recordType) {value : Data} :
    value ∈ (insert set record serial).data ↔ value = record.data ∨ value ∈ set.data := by
  rw [insert, if_neg several]
  split
  next known =>
    have absorbed : value ∈ set.data ↔ value = record.data ∨ value ∈ set.data :=
      ⟨.inr, fun either => either.elim (fun same => same ▸ known) id⟩
    split
    · exact absorbed
    · simp only [RecordSet.data, data_replace]
      exact absorbed
  next =>
    simp only [RecordSet.data, List.map_append, List.map_singleton, List.mem_append,
      List.mem_singleton]
    exact or_comm

private theorem mem_records_insert {set : RecordSet Data} {record other : Record Data}
    {serial : Nat} (inside : other ∈ (insert set record serial).records) :
    other = record ∨ other ∈ set.records := by
  unfold insert at inside
  split at inside
  · exact .inl (List.mem_singleton.mp inside)
  · split at inside
    · split at inside
      · exact .inr inside
      · obtain ⟨existing, held, same⟩ := List.mem_map.mp inside
        split at same
        · exact .inl same.symm
        · exact .inr (same ▸ held)
    · rcases List.mem_append.mp inside with held | new
      · exact .inr held
      · exact .inl (List.mem_singleton.mp new)

@[reducible] def hickory : Hickory where
  numLabels := numLabels
  numLabels_eq_length := numLabels_eq_length
  numLabels_of_isWildcard := numLabels_of_isWildcard
  zoneOf := zoneOf
  zoneOf_iff_suffix := List.isSuffixOf_iff_suffix
  appendName := appendName
  appendName_eq := fun bounded => dif_pos bounded
  insert := insert
  insert_keeps := insert_keeps
  mem_data_insert := fun several => mem_data_insert several
  mem_records_insert := mem_records_insert

end Reference

/-- `RrKey::new`, with the name as `LowerName` has it. -/
structure RrKey where
  name : Name
  recordType : RecordType
  lowered : name.lower = name
deriving DecidableEq

namespace RrKey

def new (name : Name) (recordType : RecordType) : RrKey := ⟨name.lower, recordType, by simp⟩

theorem new_eq_new {left right : Name} {leftType rightType : RecordType} :
    new left leftType = new right rightType ↔
      left.lower = right.lower ∧ leftType = rightType := by
  simp [new]

end RrKey

end NexalinkTunnel.DnsServer
