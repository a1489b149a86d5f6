import NexalinkTunnel.DnsServer.Zone
import NexalinkTunnel.Relay.Protos.Common

/-!
Contract: answers to DNS queries from the zones of keys.

Owns how a queried name is taken apart into a name in a zone, a key and an allowed
origin, how the found records get the queried name back, and which records of a
packet a query is answered with.

Does not own: where zones come from. A handler is given a function that resolves in
the zone of a key. Queries for other zones go to a static handler.

## Wildcards

A record is filed under its name without the zone, which is cut off by the number of
its labels. The number leaves out a first label `*`, so one label too many is cut off:
`*.zone` is filed under the zone itself. Records of a foreign zone are never filed.
-/

namespace NexalinkTunnel.DnsServer

open Base Lib Dns.Pkarr Hickory
open PublicKeyBytes (zoneLabel)

variable {dns : SimpleDns} {Data : Type}

/-! ## Giving records their origin -/

def Record.rename (record : Record Data) (name : Name) : Record Data := { record with name := name }

section Append

variable [Hickory] [DecidableEq Data]

def recordSetAppendOrigin (input : RecordSet Data) (origin : Name) (serial : Nat) :
    Except ProtoError (RecordSet Data) :=
  match appendName input.name origin with
  | .error error => .error error
  | .ok newName =>
      .ok (input.records.foldl
        (fun output record => Hickory.insert output (record.rename newName) serial)
        (.new newName input.recordType serial))

private theorem foldl_insert_renamed (newName : Name) (serial : Nat) (records : List (Record Data))
    (output : RecordSet Data)
    (several : ∀ record ∈ records, ¬ RecordSet.Single record.recordType)
    (named : ∀ record ∈ output.records, record.name = newName) :
    let result := records.foldl
      (fun output record => Hickory.insert output (record.rename newName) serial) output
    (∀ value, value ∈ result.data ↔ value ∈ output.data ∨ ∃ record ∈ records, record.data = value) ∧
      ∀ record ∈ result.records, record.name = newName := by
  induction records generalizing output with
  | nil => simpa using named
  | cons record records inductionHypothesis =>
      have next := inductionHypothesis (Hickory.insert output (record.rename newName) serial)
        (fun other inside => several other (List.mem_cons_of_mem _ inside))
        (fun other inside => (mem_records_insert inside).elim (fun same => same ▸ rfl)
          (named other))
      refine ⟨fun value => ?_, next.2⟩
      have single : ¬ RecordSet.Single (record.rename newName).recordType :=
        several record List.mem_cons_self
      rw [List.foldl_cons, next.1, mem_data_insert single, List.exists_mem_cons_iff,
        or_assoc, or_left_comm, eq_comm]
      rfl

private theorem recordSetAppendOrigin_eq {input : RecordSet Data} (origin : Name) (serial : Nat)
    (several : ∀ record ∈ input.records, ¬ RecordSet.Single record.recordType)
    (fits : encodedLen (input.name.labels ++ origin.labels) ≤ 255) :
    ∃ output, recordSetAppendOrigin input origin serial = .ok output ∧
      (∀ value, value ∈ output.data ↔ value ∈ input.data) ∧
      ∀ record ∈ output.records, record.name.labels = input.name.labels ++ origin.labels := by
  have renamed := foldl_insert_renamed ⟨input.name.labels ++ origin.labels, origin.isFqdn, fits⟩
    serial input.records (.new ⟨input.name.labels ++ origin.labels, origin.isFqdn, fits⟩
      input.recordType serial) several (by simp [RecordSet.new])
  refine ⟨_, by simp only [recordSetAppendOrigin, appendName_eq fits]; rfl, ?_, ?_⟩
  · intro value
    rw [renamed.1, RecordSet.mem_data]
    simp [RecordSet.new, RecordSet.data]
  · intro record inside
    rw [renamed.2 record inside]

end Append

/-! ## Taking a name apart -/

inductive PkarrNameError where
  | missingPubkey
  | invalidPubkey
  | proto (error : ProtoError)
  | noOrigin
deriving DecidableEq, Repr

/-- `from_utf8`. A label with bytes above ASCII is no key, whether it is UTF-8 or not. -/
def Label.text (label : Label) : Option String :=
  if label.bytes.all (· < 128) then
    some (String.ofList (label.bytes.map fun byte => Char.ofNat byte.toNat))
  else none

section Parse

variable [Hickory] [Encodings]

def parseNameAsPkarrWithOrigin (ed : Ed25519) (name : Name) :
    List Name → Except PkarrNameError (Name × PublicKeyBytes × Name)
  | [] => .error .noOrigin
  | origin :: allowedOrigins =>
      if !zoneOf origin name then parseNameAsPkarrWithOrigin ed name allowedOrigins
      else if numLabels name < numLabels origin + 1 then .error .missingPubkey
      else
        match name.labels.reverse.drop (numLabels origin) with
        -- the length was checked above
        | [] => .error .missingPubkey
        | pkeyLabel :: labelsWithoutOrigin =>
            match pkeyLabel.text with
            | none => .error .invalidPubkey
            | some pkeyStr =>
                match PublicKeyBytes.fromZ32 ed pkeyStr with
                | .error _ => .error .invalidPubkey
                | .ok pkey =>
                    match Name.fromLabels labelsWithoutOrigin.reverse with
                    | .error error => .error (.proto error)
                    | .ok remainingName => .ok (remainingName, pkey, origin)

variable {ed : Ed25519} {name rest origin : Name} {key : PublicKeyBytes}

/-- What is taken apart ends in the first origin that it is under, with the label of a key in
front of it. -/
theorem parse_cases {first : Name} {origins : List Name}
    (parsed : parseNameAsPkarrWithOrigin ed name (first :: origins) = .ok (rest, key, origin)) :
    (zoneOf first name = false ∧
      parseNameAsPkarrWithOrigin ed name origins = .ok (rest, key, origin)) ∨
    (zoneOf first name = true ∧ origin = first ∧ ∃ pkeyLabel labelsWithoutOrigin pkeyStr,
      name.labels.reverse.drop (numLabels first) = pkeyLabel :: labelsWithoutOrigin ∧
      pkeyLabel.text = some pkeyStr ∧ PublicKeyBytes.fromZ32 ed pkeyStr = .ok key ∧
      Name.fromLabels labelsWithoutOrigin.reverse = .ok rest) := by
  simp only [parseNameAsPkarrWithOrigin] at parsed
  split at parsed
  next other =>
    left
    exact ⟨by simpa using other, parsed⟩
  next under =>
    split at parsed
    next => cases parsed
    next =>
      split at parsed
      next => cases parsed
      next pkeyLabel labelsWithoutOrigin cut =>
        split at parsed
        next => cases parsed
        next pkeyStr text =>
          split at parsed
          next => cases parsed
          next pkey decoded =>
            split at parsed
            next => cases parsed
            next remainingName built =>
              cases parsed
              right
              exact ⟨by simpa using under, rfl, pkeyLabel, labelsWithoutOrigin, pkeyStr, cut, text,
                decoded, built⟩

private theorem isFqdn_of_parse {origins : List Name}
    (parsed : parseNameAsPkarrWithOrigin ed name origins = .ok (rest, key, origin)) :
    rest.isFqdn = true := by
  induction origins with
  | nil => cases parsed
  | cons first origins inductionHypothesis =>
      rcases parse_cases parsed with ⟨-, later⟩ | ⟨-, -, label, labels, text, -, -, -, built⟩
      · exact inductionHypothesis later
      · exact (Name.of_fromLabels built).2

end Parse

section Lookups

inductive Lookup (Data : Type) where
  /-- The static handler answers. -/
  | delegated
  | answers (records : RecordSet Data)
  | nxDomain
  | refused

abbrev Zones (Error Data : Type) :=
  PublicKeyBytes → Name → RecordType → Except Error (Option (RecordSet Data))

def Lookup.records : Lookup Data → List (Record Data)
  | .answers set => set.records
  | _ => []

/-- `Name::parse` of a key's text, relative to an origin. -/
def zoneName [Encodings] (pubkey : PublicKeyBytes) (origin : Name) : Except ProtoError Name :=
  match Label.fromUtf8 (PublicKeyBytes.toZ32 pubkey) with
  | .error error => .error error
  | .ok label => Name.fromLabels (label :: origin.labels)

variable [DecidableEq Data] [Hickory] [Encodings] {Error : Type}

def resolvePkarr (zones : Zones Error Data) (serial : Nat) (name : Name) (pubkey : PublicKeyBytes)
    (origin : Name) (recordType : RecordType) : Lookup Data :=
  match zones pubkey name recordType with
  | .error _ => .refused
  | .ok none => .nxDomain
  | .ok (some pkarrSet) =>
      match zoneName pubkey origin with
      | .error _ => .refused
      | .ok newOrigin =>
          match recordSetAppendOrigin pkarrSet newOrigin serial with
          | .error _ => .refused
          | .ok recordSet => .answers recordSet

/-- `lookup`, of a name as `LowerName` has it. -/
def lookup (ed : Ed25519) (zones : Zones Error Data) (origins : List Name) (serial : Nat)
    (name : Name) (recordType : RecordType) : Lookup Data :=
  if recordType = .soa ∨ recordType = .ns then .delegated
  else
    match parseNameAsPkarrWithOrigin ed name.lower origins with
    | .ok (name, pubkey, origin) => resolvePkarr zones serial name pubkey origin recordType
    | .error _ => .delegated

def search (ed : Ed25519) (zones : Zones Error Data) (origins : List Name) (serial : Nat)
    (name : Name) (recordType : RecordType) : Lookup Data :=
  match recordType with
  | .soa => .delegated
  | .axfr => .refused
  | recordType => lookup ed zones origins serial name recordType

end Lookups

/-- The labels, whatever their case. -/
def Name.HasLabels (name : Name) (labels : List Label) : Prop :=
  name.labels.map Label.lower = labels.map Label.lower
deriving Decidable

def LastLabelIs (zone : Label) (record : Record Data) : Prop :=
  ∃ last ∈ record.name.labels.getLast?, last.lower = zone.lower
deriving Decidable

private theorem lastLabelIs_of_hasLabels {record : Record Data} {zone : Label} {rest : List Label}
    (same : record.name.HasLabels (rest ++ [zone])) : LastLabelIs zone record := by
  have last := congrArg List.getLast? same
  rw [List.map_append, List.map_singleton, List.getLast?_concat, List.getLast?_map,
    Option.map_eq_some_iff] at last
  exact last

private theorem Name.HasLabels.isWildcard {name other : Name} {labels : List Label}
    (has : name.HasLabels labels) (otherHas : other.HasLabels labels) (wildcard : name.IsWildcard) :
    other.IsWildcard := by
  have heads := congrArg List.head? (Eq.trans has (Eq.symm otherHas))
  rw [List.head?_map, List.head?_map, wildcard] at heads
  obtain ⟨first, found, lowered⟩ := Option.map_eq_some_iff.mp heads.symm
  rw [Name.IsWildcard, found, Label.eq_wildcard_of_lower lowered]

/-- The records of a packet that a query for the name and type in its zone asks for. -/
def Asked (zone : Label) (rest : List Label) (recordType : RecordType) (record : Record Data) :
    Prop :=
  record.recordType = recordType ∧ record.name.HasLabels (rest ++ [zone])

/-- The records with a wildcard in front that have one label more than the name. -/
def Shifted (zone : Label) (rest : List Label) (recordType : RecordType) (record : Record Data) :
    Prop :=
  record.recordType = recordType ∧ record.name.IsWildcard ∧
    ∃ dropped, record.name.HasLabels (rest ++ [dropped, zone])

section Filed

variable [Hickory]

/-- A record of the zone that has no wildcard is filed under its name without the zone. -/
theorem withoutZone_hasLabels_iff {record : Record Data} {zone : Label} (own : InZone zone record)
    (plain : ¬ record.name.IsWildcard) (rest : List Label) :
    (withoutZone record).name.HasLabels rest ↔ record.name.HasLabels (rest ++ [zone]) := by
  obtain ⟨-, -, last, found, same⟩ := own
  obtain ⟨front, split⟩ := List.getLast?_eq_some_iff.mp found
  have cut : (withoutZone record).name.labels = front := by
    rw [labels_withoutZone, numLabels_eq_length plain, split]
    simp
  rw [Name.HasLabels, Name.HasLabels, cut, split, List.map_append, List.map_append,
    List.map_singleton, List.map_singleton, same]
  exact (List.append_left_inj _).symm

/-- The records of a packet that are filed under the name and type. -/
def Filed (zone : Label) (rest : List Label) (recordType : RecordType) (record : Record Data) :
    Prop :=
  record.recordType = recordType ∧ InZone zone record ∧ (withoutZone record).name.HasLabels rest

/-- Without a wildcard, what is filed is what is asked for. -/
theorem filed_iff_asked {zone : Label} {rest : List Label} {recordType : RecordType}
    (served : ¬ (recordType = .soa ∨ recordType = .ns)) {record : Record Data}
    (plain : ¬ record.name.IsWildcard) :
    Filed zone rest recordType record ↔ Asked zone rest recordType record := by
  constructor
  · rintro ⟨rfl, own, filed⟩
    exact ⟨rfl, (withoutZone_hasLabels_iff own plain rest).mp filed⟩
  · rintro ⟨rfl, same⟩
    have own : InZone zone record := by
      refine ⟨served, ?_, lastLabelIs_of_hasLabels same⟩
      rw [numLabels_eq_length plain]
      have length := congrArg List.length same
      rw [List.length_map, List.length_map, List.length_append, List.length_singleton] at length
      omega
    exact ⟨rfl, own, (withoutZone_hasLabels_iff own plain rest).mpr same⟩

/-- With a wildcard, a label before the zone is cut off too. -/
theorem filed_iff_shifted {zone : Label} {rest : List Label} {recordType : RecordType}
    (served : ¬ (recordType = .soa ∨ recordType = .ns)) {record : Record Data}
    (wildcard : record.name.IsWildcard) :
    Filed zone rest recordType record ↔ Shifted zone rest recordType record := by
  have counted := numLabels_of_isWildcard wildcard
  -- where the name is a front and two labels more, only the front is left
  have cut : ∀ {front : List Label} {dropped last : Label},
      record.name.labels = front ++ [dropped, last] →
        (withoutZone record).name.labels = front := by
    intro front dropped last split
    have length := congrArg List.length split
    rw [List.length_append] at length
    rw [labels_withoutZone, split, show numLabels record.name - 1 = front.length by
      simp only [List.length_cons, List.length_nil] at length; omega, List.take_left]
  constructor
  · rintro ⟨typed, ⟨-, some, last, found, same⟩, filed⟩
    obtain ⟨front, split⟩ := List.getLast?_eq_some_iff.mp found
    rcases List.eq_nil_or_concat' front with rfl | ⟨front, dropped, rfl⟩
    · rw [split] at counted
      simp only [List.nil_append, List.length_singleton] at counted
      omega
    · rw [List.append_assoc] at split
      refine ⟨typed, wildcard, dropped, ?_⟩
      rw [Name.HasLabels, cut split] at filed
      rw [Name.HasLabels, split, List.map_append, List.map_append, filed]
      simp [same]
  · rintro ⟨rfl, -, dropped, same⟩
    rw [Name.HasLabels, List.map_append, List.map_eq_append_iff] at same
    obtain ⟨front, back, split, filed, two⟩ := same
    obtain ⟨first, last, rfl⟩ : ∃ first last, back = [first, last] := by
      have length := congrArg List.length two
      rw [List.length_map] at length
      exact List.length_eq_two.mp length
    obtain ⟨-, ends⟩ : first.lower = dropped.lower ∧ last.lower = zone.lower := by
      simpa using two
    refine ⟨rfl, ⟨served, ?_, last, by simp [split], ends⟩, ?_⟩
    · rw [split, List.length_append] at counted
      simp only [List.length_cons, List.length_nil] at counted
      omega
    · rw [Name.HasLabels, cut split, filed]

private theorem mem_ownRecords {zone : Label} {answers : List (Record Data)}
    {record : Record Data} :
    record ∈ ownRecords zone answers ↔
      ∃ answer ∈ answers, InZone zone answer ∧ withoutZone answer = record := by
  simp [ownRecords, and_assoc]

end Filed

section Resolve

variable [DecidableEq Data] [Hickory] [Encodings] {decoder : MessageDecoder Data}
  {packet : SignedPacket dns} {answers : List (Record Data)}

private theorem resolve_fromSignedPacket
    (decoded : decoder.answers packet.encodedPacket = .ok answers)
    {rest : Name} (fqdn : rest.isFqdn = true) {recordType : RecordType}
    (several : ¬ RecordSet.Single recordType) :
    ∃ zone, CachedZone.fromSignedPacket decoder packet = .ok zone ∧
      ((zone.resolve rest recordType = none ∧ ∀ record ∈ answers,
        ¬ Filed (zoneLabel packet.publicKeyBytes) rest.labels recordType record) ∨
      ∃ set, zone.resolve rest recordType = some set ∧ set.name.HasLabels rest.labels ∧
        (∀ record ∈ set.records, ¬ RecordSet.Single record.recordType) ∧
        ∀ value, value ∈ set.data ↔ ∃ record ∈ answers,
          Filed (zoneLabel packet.publicKeyBytes) rest.labels recordType record ∧
            record.data = value) := by
  obtain ⟨records, found, grouped⟩ := exists_records decoded
  refine ⟨⟨packet.timestamp, records⟩, by simp only [CachedZone.fromSignedPacket, found], ?_⟩
  -- the set of a record is the one of the query exactly if the record is filed under it
  have sameKey : ∀ record : Record Data, (withoutZone record).key = .new rest recordType ↔
      record.recordType = recordType ∧ (withoutZone record).name.HasLabels rest.labels := by
    intro record
    rw [Record.key, RrKey.new_eq_new, and_comm]
    refine and_congr_right fun _ => ⟨fun same => congrArg Name.labels same, fun same => ?_⟩
    exact Name.ext same fqdn.symm
  cases resolved : records.lookup (.new rest recordType) with
  | none =>
      refine .inl ⟨resolved, ?_⟩
      rintro record inside ⟨typed, own, filed⟩
      exact grouped.missing _ resolved (withoutZone record)
        (mem_ownRecords.mpr ⟨record, inside, own, rfl⟩) ((sameKey record).mpr ⟨typed, filed⟩)
  | some set =>
      refine .inr ⟨set, resolved, congrArg Name.labels (grouped.named _ set resolved).1, ?_, ?_⟩
      · intro record inside
        rw [grouped.typed _ set resolved record inside]
        exact several
      · intro value
        rw [grouped.exact _ set resolved several]
        constructor
        · rintro ⟨record, inside, same, rfl⟩
          obtain ⟨answer, given, own, rfl⟩ := mem_ownRecords.mp inside
          obtain ⟨typed, filed⟩ := (sameKey answer).mp same
          exact ⟨answer, given, ⟨typed, own, filed⟩, rfl⟩
        · rintro ⟨answer, given, ⟨typed, own, filed⟩, rfl⟩
          exact ⟨withoutZone answer, mem_ownRecords.mpr ⟨answer, given, own, rfl⟩,
            (sameKey answer).mpr ⟨typed, filed⟩, rfl⟩

end Resolve

section Answer

variable [DecidableEq Data] [Hickory] [Encodings] {ed : Ed25519} {zones : Zones ProtoError Data}
  {origins : List Name} (serial : Nat) {query rest origin : Name} {key : PublicKeyBytes}
  {recordType : RecordType}

private theorem resolvePkarr_of_resolved {set : RecordSet Data}
    (resolved : zones key rest recordType = .ok (some set))
    (several : ∀ record ∈ set.records, ¬ RecordSet.Single record.recordType)
    (named : set.name.HasLabels rest.labels)
    (form : query.HasLabels (rest.labels ++ zoneLabel key :: origin.labels)) :
    ∃ output, resolvePkarr zones serial rest key origin recordType = .answers output ∧
      (∀ value, value ∈ output.data ↔ value ∈ set.data) ∧
      ∀ record ∈ output.records,
        record.name.HasLabels (rest.labels ++ zoneLabel key :: origin.labels) := by
  have whole : (set.name.labels ++ zoneLabel key :: origin.labels).map Label.lower =
      (rest.labels ++ zoneLabel key :: origin.labels).map Label.lower := by
    rw [List.map_append, List.map_append, show set.name.labels.map _ = _ from named]
  have fits : encodedLen (set.name.labels ++ zoneLabel key :: origin.labels) ≤ 255 := by
    rw [← encodedLen_lower, whole, ← show query.labels.map _ = _ from form, encodedLen_lower]
    exact query.bounded
  have zoneFits : encodedLen (zoneLabel key :: origin.labels) ≤ 255 := by
    have split := encodedLen_append set.name.labels (zoneLabel key :: origin.labels)
    have root := one_le_encodedLen set.name.labels
    omega
  obtain ⟨output, appended, data, names⟩ := recordSetAppendOrigin_eq
    ⟨zoneLabel key :: origin.labels, true, zoneFits⟩ serial several fits
  refine ⟨output, ?_, data, fun record inside => ?_⟩
  · simp only [resolvePkarr, resolved, zoneName, PublicKeyBytes.fromUtf8_toZ32, Name.fromLabels,
      dif_pos zoneFits, appended]
  · rw [Name.HasLabels, names record inside]
    exact whole

/-- A lookup in the zone of a packet answers with the data that is filed under the name. -/
theorem lookup_filed {decoder : MessageDecoder Data} {packet : SignedPacket dns}
    {answers : List (Record Data)} (decoded : decoder.answers packet.encodedPacket = .ok answers)
    (zone : ∀ name recordType, zones packet.publicKeyBytes name recordType =
      (CachedZone.fromSignedPacket decoder packet).map (·.resolve name recordType))
    (parsed : parseNameAsPkarrWithOrigin ed query.lower origins =
      .ok (rest, packet.publicKeyBytes, origin))
    (form : query.HasLabels (rest.labels ++ zoneLabel packet.publicKeyBytes :: origin.labels))
    (served : ¬ (recordType = .soa ∨ recordType = .ns))
    (several : ¬ RecordSet.Single recordType) :
    (lookup ed zones origins serial query recordType = .nxDomain ∨
      ∃ set, lookup ed zones origins serial query recordType = .answers set) ∧
    (∀ value, (∃ record ∈ (lookup ed zones origins serial query recordType).records,
        record.data = value) ↔
      ∃ record ∈ answers, Filed (zoneLabel packet.publicKeyBytes) rest.labels recordType record ∧
        record.data = value) ∧
    ∀ record ∈ (lookup ed zones origins serial query recordType).records,
      record.name.HasLabels
        (rest.labels ++ zoneLabel packet.publicKeyBytes :: origin.labels) := by
  have started : lookup ed zones origins serial query recordType =
      resolvePkarr zones serial rest packet.publicKeyBytes origin recordType := by
    rw [lookup, if_neg served, parsed]
  rw [started]
  obtain ⟨cached, found, absent | ⟨set, resolved, named, typed, data⟩⟩ :=
    resolve_fromSignedPacket decoded (isFqdn_of_parse parsed) several
  · obtain ⟨resolved, none⟩ := absent
    have missing : resolvePkarr zones serial rest packet.publicKeyBytes origin recordType =
        .nxDomain := by
      simp only [resolvePkarr, zone, found, Except.map, resolved]
    rw [missing]
    refine ⟨.inl rfl, fun value => ⟨fun served => ?_, fun filed => ?_⟩, fun record inside => ?_⟩
    · obtain ⟨record, inside, -⟩ := served
      cases inside
    · obtain ⟨record, inside, filed, -⟩ := filed
      exact absurd filed (none record inside)
    · cases inside
  · have given : zones packet.publicKeyBytes rest recordType = .ok (some set) := by
      rw [zone, found, Except.map, resolved]
    obtain ⟨output, answered, sameData, names⟩ :=
      resolvePkarr_of_resolved serial given typed named form
    rw [answered]
    refine ⟨.inr ⟨output, rfl⟩, fun value => ?_, names⟩
    rw [← data value, ← sameData value, RecordSet.mem_data]
    rfl

/-- A query in the zone of a packet is answered with records of that zone only, all of the queried
name. The data is exactly that of the packet's records of the name and type if and only if every
record with a wildcard in front that is a label longer has the data of one that is asked for, and
every record with a wildcard in front that is asked for has the data of one that is a label
longer. -/
theorem lookup_exact {decoder : MessageDecoder Data} {packet : SignedPacket dns}
    {answers : List (Record Data)} (decoded : decoder.answers packet.encodedPacket = .ok answers)
    (zone : ∀ name recordType, zones packet.publicKeyBytes name recordType =
      (CachedZone.fromSignedPacket decoder packet).map (·.resolve name recordType))
    (parsed : parseNameAsPkarrWithOrigin ed query.lower origins =
      .ok (rest, packet.publicKeyBytes, origin))
    (form : query.HasLabels (rest.labels ++ zoneLabel packet.publicKeyBytes :: origin.labels))
    (ordinary : recordType ∉ [.soa, .ns, .cname, .aname, .any]) :
    (∀ record ∈ (lookup ed zones origins serial query recordType).records,
      record.name.HasLabels (rest.labels ++ zoneLabel packet.publicKeyBytes :: origin.labels) ∧
      ∃ answer ∈ answers, answer.recordType = recordType ∧ answer.data = record.data ∧
        LastLabelIs (zoneLabel packet.publicKeyBytes) answer) ∧
    (lookup ed zones origins serial query recordType = .nxDomain ∨
      ∃ set, lookup ed zones origins serial query recordType = .answers set) ∧
    ((∀ value, (∃ record ∈ (lookup ed zones origins serial query recordType).records,
          record.data = value) ↔
        ∃ answer ∈ answers,
          Asked (zoneLabel packet.publicKeyBytes) rest.labels recordType answer ∧
            answer.data = value) ↔
      (∀ answer ∈ answers,
        Shifted (zoneLabel packet.publicKeyBytes) rest.labels recordType answer →
          ∃ other ∈ answers,
            Asked (zoneLabel packet.publicKeyBytes) rest.labels recordType other ∧
              other.data = answer.data) ∧
      ∀ answer ∈ answers, answer.name.IsWildcard →
        Asked (zoneLabel packet.publicKeyBytes) rest.labels recordType answer →
          ∃ other ∈ answers,
            Shifted (zoneLabel packet.publicKeyBytes) rest.labels recordType other ∧
              other.data = answer.data) := by
  have served : ¬ (recordType = .soa ∨ recordType = .ns) := by
    rintro (rfl | rfl) <;> simp at ordinary
  have several : ¬ RecordSet.Single recordType := by
    rintro (rfl | rfl) <;> simp at ordinary
  obtain ⟨outcome, data, names⟩ :=
    lookup_filed serial decoded zone parsed form served several
  refine ⟨?_, outcome, ?_⟩
  · intro record inside
    obtain ⟨answer, given, ⟨typed, own, -⟩, same⟩ := (data record.data).mp ⟨record, inside, rfl⟩
    exact ⟨names record inside, answer, given, typed, same, own.2.2⟩
  · simp only [data]
    constructor
    · intro exactly
      refine ⟨fun answer given shifted => ?_, fun answer given wildcard asked => ?_⟩
      · exact (exactly answer.data).mp
          ⟨answer, given, (filed_iff_shifted served shifted.2.1).mpr shifted, rfl⟩
      · obtain ⟨other, otherGiven, filed, same⟩ :=
          (exactly answer.data).mpr ⟨answer, given, asked, rfl⟩
        by_cases star : other.name.IsWildcard
        · exact ⟨other, otherGiven, (filed_iff_shifted served star).mp filed, same⟩
        · have otherAsked := (filed_iff_asked served star).mp filed
          exact absurd (asked.2.isWildcard otherAsked.2 wildcard) star
    · rintro ⟨shifted, asked⟩ value
      constructor
      · rintro ⟨answer, given, filed, rfl⟩
        by_cases star : answer.name.IsWildcard
        · exact shifted answer given ((filed_iff_shifted served star).mp filed)
        · exact ⟨answer, given, (filed_iff_asked served star).mp filed, rfl⟩
      · rintro ⟨answer, given, isAsked, rfl⟩
        by_cases star : answer.name.IsWildcard
        · obtain ⟨other, otherGiven, isShifted, same⟩ := asked answer given star isAsked
          exact ⟨other, otherGiven, (filed_iff_shifted served isShifted.2.1).mpr isShifted, same⟩
        · exact ⟨answer, given, (filed_iff_asked served star).mpr isAsked, rfl⟩

end Answer

namespace Apex

open Relay.Protos (Crates.reference Crates.smallKey)

attribute [local instance] Reference.hickory Encodings.strict

def key : PublicKeyBytes := (Crates.smallKey 4 (by decide)).bytes

def packet : SignedPacket ⟨fun _ => true⟩ where
  bytes := key.toList ++ List.replicate 72 0
  headed := by simp [headerSize]
  bounded := by simp [maxSignedPacketSize, headerSize, maxDnsPacketSize]
  parsed := rfl

def origin : Name := ⟨[⟨[111], by decide, by decide⟩], true, by decide⟩

def query : Name := ⟨[zoneLabel key, ⟨[111], by decide, by decide⟩], true, by decide +kernel⟩

def txt : RecordType := .other 16

def plain : Record Nat := ⟨⟨[zoneLabel key], true, by decide +kernel⟩, txt, 1, 30, 7⟩

def star : Record Nat := ⟨⟨[.wildcard, zoneLabel key], true, by decide +kernel⟩, txt, 1, 30, 7⟩

def decoder (record : Record Nat) : MessageDecoder Nat := ⟨fun _ => .ok [record]⟩

/-- The zone of the packet, when the packet has this one record. -/
def zones (record : Record Nat) : Zones ProtoError Nat := fun _ name recordType =>
  (CachedZone.fromSignedPacket (decoder record) packet).map (·.resolve name recordType)

theorem plain_served :
    ∃ record ∈ (lookup Crates.reference.ed25519 (zones plain) [origin] 0 query txt).records,
      record.data = 7 := by
  have decoded : (decoder plain).answers packet.encodedPacket = .ok [plain] := rfl
  have zone : ∀ name recordType, zones plain packet.publicKeyBytes name recordType =
      (CachedZone.fromSignedPacket (decoder plain) packet).map (·.resolve name recordType) :=
    fun _ _ => rfl
  have parsed : parseNameAsPkarrWithOrigin Crates.reference.ed25519 query.lower [origin] =
      .ok (⟨[], true, by decide⟩, packet.publicKeyBytes, origin) := by
    decide +kernel
  have ordinary : txt ∉ [.soa, .ns, .cname, .aname, .any] := by decide
  have answered := lookup_exact 0 decoded zone parsed (by decide +kernel) ordinary
  have noStar : ∀ answer ∈ [plain], ¬ answer.name.IsWildcard := by decide +kernel
  exact (answered.2.2.mpr ⟨fun answer given shifted => absurd shifted.2.1 (noStar answer given),
    fun answer given star => absurd star (noStar answer given)⟩ 7).mpr
      ⟨plain, List.mem_singleton_self _, ⟨rfl, by decide +kernel⟩, rfl⟩

/-- The zone itself is answered with the record of all names in it. -/
theorem star_served :
    (lookup Crates.reference.ed25519 (zones star) [origin] 0 query txt).records.map Record.data =
        [7] ∧
      ∀ answer ∈ [star], ¬ answer.name.HasLabels ([] ++ [zoneLabel packet.publicKeyBytes]) := by
  decide +kernel

end Apex

end NexalinkTunnel.DnsServer
