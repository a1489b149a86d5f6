import NexalinkTunnel.Base.Z32
import NexalinkTunnel.DnsServer.Records
import NexalinkTunnel.DnsServer.SignedPackets

/-!
Contract: the DNS zone of a signed packet.

Owns the key as the label of its zone, the records of a packet that are in its own
zone, grouped by the rest of their name and by type, and the zone as it is cached.

Does not own: how a message is decoded. The decoder is a parameter, and it gives the
answer records.
-/

namespace NexalinkTunnel.DnsServer

open Base Lib Dns.Pkarr Encodings Hickory

variable {dns : SimpleDns} {Data : Type}

namespace PublicKeyBytes

inductive InvalidPublicKeyBytes where
  | invalidEncoding
deriving Repr

variable [Encodings]

def toZ32 (key : PublicKeyBytes) : String := zBase32.encode key.toList

def fromZ32 (ed : Ed25519) (text : String) : Except InvalidPublicKeyBytes PublicKeyBytes :=
  match (PublicKey.fromZ32 text : Except _ (PublicKey ed)) with
  | .ok key => .ok key.bytes
  | .error _ => .error .invalidEncoding

theorem length_toZ32 (key : PublicKeyBytes) : (toZ32 key).toList.length = 52 := by
  rw [toZ32, zBase32.length_encode, List.Vector.toList_length]
  rfl

def zoneLabel (key : PublicKeyBytes) : Label where
  bytes := (toZ32 key).toList.map fun char => UInt8.ofNat char.toNat
  nonempty := by
    intro empty
    have length := length_toZ32 key
    rw [List.map_eq_nil_iff.mp empty] at length
    cases length
  short := by
    rw [List.length_map, length_toZ32]
    decide

theorem fromUtf8_toZ32 (key : PublicKeyBytes) :
    Label.fromUtf8 (toZ32 key) = .ok (zoneLabel key) :=
  Label.fromRawBytes_bytes (zoneLabel key)

end PublicKeyBytes

open PublicKeyBytes (zoneLabel)

/-! ## The records of a packet -/

/-- `Message::from_bytes`, with the answer records of the message. -/
structure MessageDecoder (Data : Type) where
  answers : Bytes → Except ProtoError (List (Record Data))

def Record.key (record : Record Data) : RrKey := .new record.name record.recordType

abbrev ZoneRecords (Data : Type) := HashMap RrKey (RecordSet Data)

/-- The sets are those of the records, each under the name and type of its records. -/
structure Grouped (records : List (Record Data)) (output : ZoneRecords Data) : Prop where
  missing : ∀ key, output.lookup key = none → ∀ record ∈ records, record.key ≠ key
  named : ∀ key set, output.lookup key = some set →
    set.name.lower = key.name ∧ set.recordType = key.recordType
  typed : ∀ key set, output.lookup key = some set →
    ∀ record ∈ set.records, record.recordType = key.recordType
  exact : ∀ key set, output.lookup key = some set → ¬ RecordSet.Single key.recordType →
    ∀ value, value ∈ set.data ↔ ∃ record ∈ records, record.key = key ∧ record.data = value

private theorem grouped_empty : Grouped ([] : List (Record Data)) ∅ where
  missing := by simp
  named := by simp
  typed := by simp
  exact := by simp

section Append

variable {records : List (Record Data)} {record : Record Data} {value : Data}

private theorem exists_append_self :
    (∃ other ∈ records ++ [record], other.key = record.key ∧ other.data = value) ↔
      value = record.data ∨ ∃ other ∈ records, other.key = record.key ∧ other.data = value := by
  simp only [List.mem_append, List.mem_singleton]
  constructor
  · rintro ⟨other, old | rfl, sameKey, rfl⟩
    · exact .inr ⟨other, old, sameKey, rfl⟩
    · exact .inl rfl
  · rintro (rfl | ⟨other, old, sameKey, rfl⟩)
    · exact ⟨record, .inr rfl, rfl, rfl⟩
    · exact ⟨other, .inl old, sameKey, rfl⟩

private theorem exists_append_of_ne {key : RrKey} (different : key ≠ record.key) :
    (∃ other ∈ records ++ [record], other.key = key ∧ other.data = value) ↔
      ∃ other ∈ records, other.key = key ∧ other.data = value := by
  simp only [List.mem_append, List.mem_singleton]
  constructor
  · rintro ⟨other, old | rfl, sameKey, rfl⟩
    · exact ⟨other, old, sameKey, rfl⟩
    · exact absurd sameKey.symm different
  · rintro ⟨other, old, sameKey, rfl⟩
    exact ⟨other, .inl old, sameKey, rfl⟩

end Append

variable [Hickory]

def InZone (zone : Label) (record : Record Data) : Prop :=
  ¬ (record.recordType = .soa ∨ record.recordType = .ns) ∧ 1 ≤ numLabels record.name ∧
    ∃ last ∈ record.name.labels.getLast?, last.lower = zone.lower
deriving Decidable

def withoutZone (record : Record Data) : Record Data :=
  { record with name := record.name.takeLabels (numLabels record.name - 1) }

theorem labels_withoutZone (record : Record Data) :
    (withoutZone record).name.labels =
      record.name.labels.take (numLabels record.name - 1) :=
  rfl

def ownRecords (zone : Label) (answers : List (Record Data)) : List (Record Data) :=
  (answers.filter fun record => InZone zone record).map withoutZone

variable [DecidableEq Data]

def ZoneRecords.add (output : ZoneRecords Data) (record : Record Data) : ZoneRecords Data :=
  match output.lookup record.key with
  | none => output.insert record.key (.ofRecord record)
  | some set => output.insert record.key (Hickory.insert set record set.serial)

def addAnswer (commonZone : Label) (filter : Record Data → Bool) (output : ZoneRecords Data)
    (record : Record Data) : Except ProtoError (ZoneRecords Data) :=
  if record.recordType = .soa ∨ record.recordType = .ns then .ok output
  else if numLabels record.name < 1 then .ok output
  else
    match record.name.labels.getLast? with
    -- a name with a label that counts has a last label
    | none => .ok output
    | some zone =>
        if zone.lower ≠ commonZone.lower then .ok output
        else if !filter record then .ok output
        else
          match Name.fromLabels (record.name.labels.take (numLabels record.name - 1)) with
          | .error error => .error error
          | .ok nameWithoutZone => .ok (output.add { record with name := nameWithoutZone })

private theorem addAnswer_eq (zone : Label) (output : ZoneRecords Data) (record : Record Data) :
    addAnswer zone (fun _ => true) output record =
      .ok (if InZone zone record then output.add (withoutZone record) else output) := by
  unfold addAnswer
  split
  next refused => rw [if_neg fun own => own.1 refused]
  next served =>
    split
    next root => rw [if_neg fun own => absurd own.2.1 (Nat.not_le.mpr root)]
    next named =>
      split
      next absent =>
        rw [if_neg]
        rintro ⟨-, -, last, found, -⟩
        rw [absent] at found
        cases found
      next last found =>
        split
        next foreign =>
          rw [if_neg]
          rintro ⟨-, -, other, found', same⟩
          rw [found, Option.mem_some_iff] at found'
          exact foreign (found' ▸ same)
        next same =>
          have own : InZone zone record :=
            ⟨served, Nat.le_of_not_lt named, last, found, not_not.mp same⟩
          rw [Name.fromLabels_take, if_pos own]
          rfl

private theorem foldlM_addAnswer (zone : Label) (answers : List (Record Data))
    (output : ZoneRecords Data) :
    answers.foldlM (addAnswer zone fun _ => true) output =
      .ok ((ownRecords zone answers).foldl ZoneRecords.add output) := by
  induction answers generalizing output with
  | nil => rfl
  | cons record answers inductionHypothesis =>
      rw [List.foldlM_cons, addAnswer_eq]
      by_cases own : InZone zone record
      · rw [if_pos own]
        apply (inductionHypothesis (output.add (withoutZone record))).trans
        simp [ownRecords, own]
      · rw [if_neg own]
        apply (inductionHypothesis output).trans
        simp [ownRecords, own]

private theorem ZoneRecords.lookup_add (output : ZoneRecords Data) (record : Record Data)
    (key : RrKey) :
    (output.add record).lookup key =
      if key = record.key then
        some (match output.lookup record.key with
          | none => .ofRecord record
          | some set => Hickory.insert set record set.serial)
      else output.lookup key := by
  unfold ZoneRecords.add
  split <;> rw [HashMap.lookup_insert_eq_ite]

private theorem ZoneRecords.lookup_add_cases {output : ZoneRecords Data} {record : Record Data}
    {key : RrKey} {set : RecordSet Data} (found : (output.add record).lookup key = some set) :
    (key = record.key ∧ ((output.lookup record.key = none ∧ set = .ofRecord record) ∨
      ∃ old, output.lookup record.key = some old ∧ set = Hickory.insert old record old.serial)) ∨
    (key ≠ record.key ∧ output.lookup key = some set) := by
  rw [ZoneRecords.lookup_add] at found
  split at found
  next same =>
    refine .inl ⟨same, ?_⟩
    cases held : output.lookup record.key with
    | none =>
        simp only [held, Option.some.injEq] at found
        exact .inl ⟨rfl, found.symm⟩
    | some old =>
        simp only [held, Option.some.injEq] at found
        exact .inr ⟨old, rfl, found.symm⟩
  next different => exact .inr ⟨different, found⟩

private theorem Grouped.add {records : List (Record Data)} {output : ZoneRecords Data}
    (grouped : Grouped records output) (record : Record Data) :
    Grouped (records ++ [record]) (output.add record) := by
  constructor
  · intro key absent other inside
    rw [ZoneRecords.lookup_add] at absent
    split at absent
    next => cases absent
    next different =>
      rcases List.mem_append.mp inside with old | new
      · exact grouped.missing key absent other old
      · rw [List.mem_singleton.mp new]
        exact Ne.symm different
  · intro key set found
    rcases ZoneRecords.lookup_add_cases found with
      ⟨rfl, ⟨-, rfl⟩ | ⟨old, held, rfl⟩⟩ | ⟨-, found⟩
    · exact ⟨rfl, rfl⟩
    · rw [(insert_keeps old record old.serial).1, (insert_keeps old record old.serial).2]
      exact grouped.named _ old held
    · exact grouped.named key set found
  · intro key set found other inside
    rcases ZoneRecords.lookup_add_cases found with
      ⟨rfl, ⟨-, rfl⟩ | ⟨old, held, rfl⟩⟩ | ⟨-, found⟩
    · rw [List.mem_singleton.mp inside]
      rfl
    · rcases mem_records_insert inside with rfl | older
      · rfl
      · exact grouped.typed _ old held other older
    · exact grouped.typed key set found other inside
  · intro key set found several value
    rcases ZoneRecords.lookup_add_cases found with
      ⟨rfl, ⟨absent, rfl⟩ | ⟨old, held, rfl⟩⟩ | ⟨different, found⟩
    · have first : ¬ ∃ other ∈ records, other.key = record.key ∧ other.data = value :=
        fun ⟨other, inside, sameKey, _⟩ => grouped.missing _ absent other inside sameKey
      rw [exists_append_self, or_iff_left first]
      simp [RecordSet.data, RecordSet.ofRecord]
    · rw [mem_data_insert several, grouped.exact _ old held several, exists_append_self]
    · rw [grouped.exact key set found several, exists_append_of_ne different]

private theorem Grouped.foldl_add {records : List (Record Data)} {output : ZoneRecords Data}
    (grouped : Grouped records output) (added : List (Record Data)) :
    Grouped (records ++ added) (added.foldl ZoneRecords.add output) := by
  induction added generalizing records output with
  | nil => simpa using grouped
  | cons record added inductionHypothesis =>
      simpa using inductionHypothesis (grouped.add record)

variable [Encodings]

def signedPacketToHickoryRecordsWithoutOrigin (decoder : MessageDecoder Data)
    (signedPacket : SignedPacket dns) (filter : Record Data → Bool) :
    Except ProtoError (Label × ZoneRecords Data) :=
  match Label.fromUtf8 (PublicKeyBytes.toZ32 signedPacket.publicKeyBytes) with
  | .error error => .error error
  | .ok commonZone =>
      match decoder.answers signedPacket.encodedPacket with
      | .error error => .error error
      | .ok answers =>
          match answers.foldlM (addAnswer commonZone filter) ∅ with
          | .error error => .error error
          | .ok output => .ok (commonZone, output)

/-- The records of a packet are the answers in its own zone, grouped. -/
theorem exists_records {decoder : MessageDecoder Data} {packet : SignedPacket dns}
    {answers : List (Record Data)} (decoded : decoder.answers packet.encodedPacket = .ok answers) :
    ∃ records, signedPacketToHickoryRecordsWithoutOrigin decoder packet (fun _ => true) =
        .ok (zoneLabel packet.publicKeyBytes, records) ∧
      Grouped (ownRecords (zoneLabel packet.publicKeyBytes) answers) records := by
  refine ⟨(ownRecords (zoneLabel packet.publicKeyBytes) answers).foldl ZoneRecords.add ∅, ?_, ?_⟩
  · simp only [signedPacketToHickoryRecordsWithoutOrigin, PublicKeyBytes.fromUtf8_toZ32, decoded,
      foldlM_addAnswer]
  · simpa using grouped_empty.foldl_add (ownRecords (zoneLabel packet.publicKeyBytes) answers)

/-! ## The zone in the cache -/

structure CachedZone (Data : Type) where
  timestamp : Nat
  records : ZoneRecords Data

namespace CachedZone

def fromSignedPacket (decoder : MessageDecoder Data) (signedPacket : SignedPacket dns) :
    Except ProtoError (CachedZone Data) :=
  match signedPacketToHickoryRecordsWithoutOrigin decoder signedPacket fun _ => true with
  | .error error => .error error
  | .ok (_, records) => .ok ⟨signedPacket.timestamp, records⟩

def isNewerThan (zone : CachedZone Data) (signedPacket : SignedPacket dns) : Bool :=
  signedPacket.timestamp < zone.timestamp

def resolve (zone : CachedZone Data) (name : Name) (recordType : RecordType) :
    Option (RecordSet Data) :=
  zone.records.lookup (.new name recordType)

end CachedZone

end NexalinkTunnel.DnsServer
