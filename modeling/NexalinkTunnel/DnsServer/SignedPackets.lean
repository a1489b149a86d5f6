import NexalinkTunnel.Dns.Pkarr
import NexalinkTunnel.Lib.HashMap

/-!
Contract: the tables of the DNS server's packet store and the messages that work on them.

Owns the rows of the two tables, with the order of packets that decides which of two
is stored, and what each message does to the tables and answers.

Does not own: the database. A multimap table is a set of pairs.
-/

namespace NexalinkTunnel.DnsServer

open Lib Dns.Pkarr

variable {dns : SimpleDns}

abbrev PublicKeyBytes := List.Vector UInt8 32

structure Tables where
  signedPackets : HashMap PublicKeyBytes Bytes
  updateTime : Finset (List.Vector UInt8 8 × PublicKeyBytes)

def serialize (lastSeen : Nat) (packet : SignedPacket dns) : Bytes :=
  (Timestamp.toBeBytes lastSeen).toList ++ packet.bytes

/-- Rows of an older format have no time in front. -/
def deserialize (data : Bytes) : Except SignedPacketVerifyError (SignedPacket dns) :=
  if 8 ≤ data.length then
    match SignedPacket.fromBytesUnchecked (data.drop 8) with
    | .ok packet => .ok packet
    | .error _ => SignedPacket.fromBytesUnchecked data
  else SignedPacket.fromBytesUnchecked data

@[simp] theorem deserialize_serialize (lastSeen : Nat) (packet : SignedPacket dns) :
    deserialize (serialize lastSeen packet) = .ok packet := by
  have front : (Timestamp.toBeBytes lastSeen).toList.length = 8 := by simp
  have enough : 8 ≤ (serialize lastSeen packet).length := by
    rw [serialize, List.length_append, front]
    exact Nat.le_add_right 8 _
  have rest : (serialize lastSeen packet).drop 8 = packet.bytes := by
    rw [serialize, List.drop_left' front]
  rw [deserialize, if_pos enough, rest, SignedPacket.fromBytesUnchecked_bytes]

namespace Tables

def empty : Tables := ⟨∅, ∅⟩

def getPacket (tables : Tables) (key : PublicKeyBytes) :
    Except SignedPacketVerifyError (Option (SignedPacket dns)) :=
  match tables.signedPackets.lookup key with
  | none => .ok none
  | some row => (deserialize row).map some

def insertPacket (tables : Tables) (lastSeen : Nat) (packet : SignedPacket dns) : Tables where
  signedPackets := tables.signedPackets.insert packet.publicKeyBytes (serialize lastSeen packet)
  updateTime := insert (Timestamp.toBeBytes packet.timestamp, packet.publicKeyBytes)
    tables.updateTime

def removeTime (tables : Tables) (time : Nat) (key : PublicKeyBytes) : Tables :=
  { tables with updateTime := tables.updateTime.erase (Timestamp.toBeBytes time, key) }

def removePacket (tables : Tables) (key : PublicKeyBytes) : Tables :=
  { tables with signedPackets := tables.signedPackets.erase key }

end Tables

inductive Message (dns : SimpleDns) where
  | upsert (packet : SignedPacket dns)
  | get (key : PublicKeyBytes)
  | remove (key : PublicKeyBytes)
  | checkExpired (time : Nat) (key : PublicKeyBytes)

inductive Reply (dns : SimpleDns) where
  | upserted (updated : Bool)
  | got (packet : Option (SignedPacket dns))
  | removed (updated : Bool)
  | checked
deriving DecidableEq

/-- What handling a message leaves: the tables, the answer, and the last result of the clock. -/
structure Handled (dns : SimpleDns) where
  tables : Tables
  reply : Reply dns
  last : Nat

/-- `handle_message`. The clock reads `micros`, and packets expire after `eviction`. -/
def handleMessage (eviction last micros : Nat) (tables : Tables) :
    Message dns → Except SignedPacketVerifyError (Handled dns)
  | .get key =>
      match tables.getPacket key with
      | .error error => .error error
      | .ok packet => .ok ⟨tables, .got packet, last⟩
  | .upsert packet =>
      let now := Timestamp.now last micros
      match tables.getPacket packet.publicKeyBytes with
      | .error error => .error error
      | .ok (some existing) =>
          if existing.moreRecentThan packet then .ok ⟨tables, .upserted false, last⟩
          else
            let tables := tables.removeTime existing.timestamp packet.publicKeyBytes
            .ok ⟨tables.insertPacket now packet, .upserted true, now⟩
      | .ok none => .ok ⟨tables.insertPacket now packet, .upserted true, now⟩
  | .remove key =>
      match tables.signedPackets.lookup key with
      | none => .ok ⟨tables, .removed false, last⟩
      | some row =>
          match (deserialize row : Except _ (SignedPacket dns)) with
          | .error error => .error error
          | .ok packet =>
              .ok ⟨(tables.removePacket key).removeTime packet.timestamp key, .removed true, last⟩
  | .checkExpired time key =>
      match (tables.getPacket key : Except _ (Option (SignedPacket dns))) with
      | .error error => .error error
      | .ok (some packet) =>
          let now := Timestamp.now last micros
          -- subtraction saturates, here as in the source
          if packet.timestamp < now - eviction then
            .ok ⟨(tables.removeTime time key).removePacket key, .checked, now⟩
          else .ok ⟨tables.removeTime time key, .checked, now⟩
      | .ok none => .ok ⟨tables.removeTime time key, .checked, last⟩

namespace Tables

theorem getPacket_of_row {tables : Tables} {key : PublicKeyBytes} {row : Bytes}
    {packet : SignedPacket dns} (found : tables.signedPackets.lookup key = some row)
    (parsed : deserialize row = .ok packet) : tables.getPacket key = .ok (some packet) := by
  rw [getPacket, found]
  simp only [parsed, Except.map]

theorem getPacket_insertPacket (tables : Tables) (lastSeen : Nat) (packet : SignedPacket dns)
    (key : PublicKeyBytes) :
    (tables.insertPacket lastSeen packet).getPacket key =
      if key = packet.publicKeyBytes then .ok (some packet) else tables.getPacket key := by
  split
  next same =>
    apply getPacket_of_row _ (deserialize_serialize lastSeen packet)
    rw [insertPacket, same, AList.lookup_insert]
  next different =>
    rw [getPacket, insertPacket, HashMap.lookup_insert_eq_ite, if_neg different, getPacket]

@[simp] theorem getPacket_removeTime (tables : Tables) (time : Nat) (other key : PublicKeyBytes) :
    ((tables.removeTime time other).getPacket key : Except _ (Option (SignedPacket dns))) =
      tables.getPacket key :=
  rfl

theorem getPacket_removePacket (tables : Tables) (other key : PublicKeyBytes) :
    ((tables.removePacket other).getPacket key : Except _ (Option (SignedPacket dns))) =
      if key = other then .ok none else tables.getPacket key := by
  rw [getPacket, removePacket, HashMap.lookup_erase_eq_ite]
  by_cases same : key = other
  · simp only [if_pos same]
  · simp only [if_neg same, getPacket]

/-- The index has the stored packet of a key, if there is one. -/
def Indexed (dns : SimpleDns) (tables : Tables) (key : PublicKeyBytes) : Prop :=
  ∀ packet : SignedPacket dns, tables.getPacket key = .ok (some packet) →
    (Timestamp.toBeBytes packet.timestamp, key) ∈ tables.updateTime

/-- Every row is readable and has a packet of its key. -/
def Keyed (dns : SimpleDns) (tables : Tables) : Prop :=
  ∀ key, ∃ stored : Option (SignedPacket dns), tables.getPacket key = .ok stored ∧
    ∀ packet ∈ stored, packet.publicKeyBytes = key

/-- Every row is readable and every stored packet is in the index. -/
structure Sound (dns : SimpleDns) (tables : Tables) : Prop where
  keyed : tables.Keyed dns
  indexed : ∀ key, tables.Indexed dns key

variable {tables : Tables}

theorem Sound.readable (sound : tables.Sound dns) (key : PublicKeyBytes) :
    ∃ stored : Option (SignedPacket dns), tables.getPacket key = .ok stored :=
  (sound.keyed key).imp fun _ found => found.1

theorem Sound.publicKeyBytes_eq (sound : tables.Sound dns) {key : PublicKeyBytes}
    {packet : SignedPacket dns} (found : tables.getPacket key = .ok (some packet)) :
    packet.publicKeyBytes = key := by
  obtain ⟨stored, readable, keyed⟩ := sound.keyed key
  rw [readable] at found
  exact keyed packet (Except.ok.inj found)

theorem sound_empty : Sound dns empty := by
  constructor
  · exact fun key => ⟨none, rfl, by simp⟩
  · intro key packet found
    cases found

private theorem Indexed.removeTime {time : Nat} {other key : PublicKeyBytes}
    (indexed : tables.Indexed dns key)
    (spared : ∀ packet : SignedPacket dns, tables.getPacket key = .ok (some packet) →
      key = other → packet.timestamp ≠ time ∧ time < 2 ^ 64) :
    (tables.removeTime time other).Indexed dns key := by
  intro packet found
  rw [getPacket_removeTime] at found
  apply Finset.mem_erase_of_ne_of_mem _ (indexed packet found)
  intro same
  obtain ⟨sameTime, sameKey⟩ := Prod.mk.inj same
  obtain ⟨different, small⟩ := spared packet found sameKey
  apply different
  rw [← Timestamp.fromBeBytes_toBeBytes packet.timestamp_lt, sameTime,
    Timestamp.fromBeBytes_toBeBytes small]

private theorem Sound.insertPacket (keyed : tables.Keyed dns) {packet : SignedPacket dns}
    (indexed : ∀ key, key ≠ packet.publicKeyBytes → tables.Indexed dns key) (lastSeen : Nat) :
    Sound dns (tables.insertPacket lastSeen packet) := by
  constructor
  · intro key
    rw [getPacket_insertPacket]
    split
    next same => exact ⟨some packet, rfl, by simp [same]⟩
    next => exact keyed key
  · intro key other found
    rw [getPacket_insertPacket] at found
    split at found
    next same =>
      cases found
      rw [same]
      exact Finset.mem_insert_self _ _
    next different =>
      exact Finset.mem_insert_of_mem (indexed key different other found)

theorem Sound.removePacket (keyed : tables.Keyed dns) {removed : PublicKeyBytes}
    (indexed : ∀ key, key ≠ removed → tables.Indexed dns key) :
    Sound dns (tables.removePacket removed) := by
  constructor
  · intro key
    rw [getPacket_removePacket]
    split
    next => exact ⟨none, rfl, by simp⟩
    next => exact keyed key
  · intro key packet found
    rw [getPacket_removePacket] at found
    split at found
    next => cases found
    next different => exact indexed key different packet found

/-- Each row is a packet whose time and key are in the index, where every scan finds it from the
moment on at which it is expired. -/
def Findable (dns : SimpleDns) (tables : Tables) : Prop :=
  ∀ key row, tables.signedPackets.lookup key = some row →
    ∃ packet : SignedPacket dns, deserialize row = .ok packet ∧
      (Timestamp.toBeBytes packet.timestamp, key) ∈ tables.updateTime ∧
      ∀ expired < 2 ^ 64, packet.timestamp < expired →
        (Timestamp.toBeBytes packet.timestamp).toList < (Timestamp.toBeBytes expired).toList

theorem Sound.findable (sound : tables.Sound dns) :
    tables.Findable dns := by
  intro key row found
  obtain ⟨stored, readable⟩ := sound.readable key
  cases parsed : (deserialize row : Except _ (SignedPacket dns)) with
  | error error => simp [getPacket, found, parsed, Except.map] at readable
  | ok packet =>
      refine ⟨packet, rfl, sound.indexed key packet (getPacket_of_row found parsed), ?_⟩
      intro expired small older
      rw [Timestamp.lt_toBeBytes_iff small,
        Timestamp.fromBeBytes_toBeBytes packet.timestamp_lt]
      exact older

end Tables

/-- A message that was sent for expiry names a time that is expired. -/
def Message.Due (eviction now : Nat) : Message dns → Prop
  | .checkExpired time _ => time < now - eviction ∧ time < 2 ^ 64
  | _ => True

section Handle

variable (eviction last micros : Nat) {tables : Tables}

private theorem atMost_or_above (packet : SignedPacket dns) (stored : Option (SignedPacket dns)) :
    (∀ existing ∈ stored, existing.AtMost packet) ∨
      ∃ existing, stored = some existing ∧ ¬ existing.AtMost packet := by
  by_cases newest : ∀ existing ∈ stored, existing.AtMost packet
  · exact .inl newest
  · exact .inr (by simpa using newest)

private theorem handle_upsert_of_atMost {packet : SignedPacket dns}
    {stored : Option (SignedPacket dns)}
    (found : tables.getPacket packet.publicKeyBytes = .ok stored)
    (newest : ∀ existing ∈ stored, existing.AtMost packet) :
    ∃ after, handleMessage eviction last micros tables (.upsert packet) =
        .ok ⟨after, .upserted true, Timestamp.now last micros⟩ ∧
      (∀ key, after.getPacket key =
        if key = packet.publicKeyBytes then .ok (some packet) else tables.getPacket key) ∧
      (tables.Sound dns → after.Sound dns) := by
  cases stored with
  | none =>
      refine ⟨tables.insertPacket (Timestamp.now last micros) packet, ?_, ?_, ?_⟩
      · simp only [handleMessage, found]
      · exact tables.getPacket_insertPacket _ packet
      · exact fun sound => .insertPacket sound.keyed (fun key _ => sound.indexed key) _
  | some existing =>
      have notAbove := SignedPacket.moreRecentThan_eq_false.mpr (newest existing rfl)
      refine ⟨(tables.removeTime existing.timestamp packet.publicKeyBytes).insertPacket
        (Timestamp.now last micros) packet, ?_, ?_, ?_⟩
      · simp only [handleMessage, found, notAbove, Bool.false_eq_true, if_false]
      · exact (tables.removeTime _ _).getPacket_insertPacket _ packet
      · intro sound
        have keyed : (tables.removeTime existing.timestamp packet.publicKeyBytes).Keyed dns :=
          sound.keyed
        apply Tables.Sound.insertPacket keyed
        intro key different
        exact (sound.indexed key).removeTime fun _ _ same => absurd same different

private theorem handle_upsert_of_not_atMost {packet existing : SignedPacket dns}
    (found : tables.getPacket packet.publicKeyBytes = .ok (some existing))
    (above : ¬ existing.AtMost packet) :
    handleMessage eviction last micros tables (.upsert packet) =
      .ok ⟨tables, .upserted false, last⟩ := by
  simp only [handleMessage, found, SignedPacket.moreRecentThan_eq_true.mpr above, if_true]

/-- The message is handled and leaves sound tables; the clock is asked once at most. -/
def HandledSoundly (tables : Tables) (message : Message dns) : Prop :=
  ∃ handled, handleMessage eviction last micros tables message = .ok handled ∧
    handled.tables.Sound dns ∧ (handled.last = last ∨ handled.last = Timestamp.now last micros)

private theorem get_handledSoundly (sound : tables.Sound dns) (key : PublicKeyBytes) :
    HandledSoundly eviction last micros tables (.get key : Message dns) := by
  obtain ⟨stored, found⟩ := sound.readable key
  exact ⟨⟨tables, .got stored, last⟩, by simp only [handleMessage, found], sound, .inl rfl⟩

theorem upsert_handledSoundly (sound : tables.Sound dns) (packet : SignedPacket dns) :
    HandledSoundly eviction last micros tables (.upsert packet) := by
  obtain ⟨stored, found⟩ := sound.readable packet.publicKeyBytes
  rcases atMost_or_above packet stored with newest | ⟨existing, rfl, above⟩
  · obtain ⟨after, handled, -, kept⟩ := handle_upsert_of_atMost eviction last micros found newest
    exact ⟨_, handled, kept sound, .inr rfl⟩
  · exact ⟨_, handle_upsert_of_not_atMost eviction last micros found above, sound, .inl rfl⟩

private theorem remove_handledSoundly (sound : tables.Sound dns) (key : PublicKeyBytes) :
    HandledSoundly eviction last micros tables (.remove key : Message dns) := by
  obtain ⟨stored, found⟩ := sound.readable key
  cases row : tables.signedPackets.lookup key with
  | none =>
      exact ⟨⟨tables, .removed false, last⟩, by simp only [handleMessage, row], sound, .inl rfl⟩
  | some data =>
      rw [Tables.getPacket, row] at found
      cases parsed : (deserialize data : Except _ (SignedPacket dns)) with
      | error error => simp [parsed, Except.map] at found
      | ok packet =>
          have removed : (tables.removePacket key).Sound dns :=
            .removePacket sound.keyed fun other _ => sound.indexed other
          refine ⟨⟨(tables.removePacket key).removeTime packet.timestamp key, .removed true, last⟩,
            by simp only [handleMessage, row, parsed],
            ⟨removed.keyed, fun other => (removed.indexed other).removeTime ?_⟩, .inl rfl⟩
          rintro stored found rfl
          rw [Tables.getPacket_removePacket, if_pos rfl] at found
          cases found

/-- A check that was sent for an expired time takes out the packet or an entry of another time. -/
theorem checkExpired_handledSoundly (sound : tables.Sound dns) {time : Nat} {key : PublicKeyBytes}
    (due : (.checkExpired time key : Message dns).Due eviction (Timestamp.now last micros)) :
    HandledSoundly eviction last micros tables (.checkExpired time key : Message dns) := by
  obtain ⟨stored, found⟩ := sound.readable key
  cases stored with
  | none =>
      refine ⟨⟨tables.removeTime time key, .checked, last⟩, by simp only [handleMessage, found],
        ⟨sound.keyed, fun other => (sound.indexed other).removeTime ?_⟩, .inl rfl⟩
      rintro packet stored rfl
      rw [found] at stored
      cases stored
  | some packet =>
      by_cases expired : packet.timestamp < Timestamp.now last micros - eviction
      · refine ⟨⟨(tables.removeTime time key).removePacket key, .checked,
          Timestamp.now last micros⟩, by simp only [handleMessage, found, if_pos expired], ?_,
          .inr rfl⟩
        have keyed : (tables.removeTime time key).Keyed dns := sound.keyed
        apply Tables.Sound.removePacket keyed
        intro other different
        exact (sound.indexed other).removeTime fun _ _ same => absurd same different
      · refine ⟨⟨tables.removeTime time key, .checked, Timestamp.now last micros⟩,
          by simp only [handleMessage, found, if_neg expired],
          ⟨sound.keyed, fun other => (sound.indexed other).removeTime ?_⟩, .inr rfl⟩
        -- the packet is not expired but the time is, so the packet has another one
        rintro other stored rfl
        rw [found] at stored
        cases stored
        obtain ⟨dueTime, small⟩ := due
        exact ⟨by omega, small⟩

/-- Handling a message never fails on sound tables, and leaves sound tables. -/
theorem handledSoundly (sound : tables.Sound dns) {message : Message dns}
    (due : message.Due eviction (Timestamp.now last micros)) :
    HandledSoundly eviction last micros tables message := by
  cases message with
  | get key => exact get_handledSoundly eviction last micros sound key
  | upsert packet => exact upsert_handledSoundly eviction last micros sound packet
  | remove key => exact remove_handledSoundly eviction last micros sound key
  | checkExpired time key => exact checkExpired_handledSoundly eviction last micros sound due

def Message.key : Message dns → PublicKeyBytes
  | .upsert packet => packet.publicKeyBytes
  | .get key => key
  | .remove key => key
  | .checkExpired _ key => key

variable {eviction last micros}

/-- What an upsert answers, and what it leaves under its key. -/
theorem handle_upsert {packet : SignedPacket dns} {stored : Option (SignedPacket dns)}
    {handled : Handled dns} (readable : tables.getPacket packet.publicKeyBytes = .ok stored)
    (found : handleMessage eviction last micros tables (.upsert packet) = .ok handled) :
    ((∀ existing ∈ stored, existing.AtMost packet) ∧ handled.reply = .upserted true ∧
      handled.tables.getPacket packet.publicKeyBytes = .ok (some packet)) ∨
    ((∃ existing ∈ stored, ¬ existing.AtMost packet) ∧ handled.reply = .upserted false ∧
      handled.tables = tables) := by
  rcases atMost_or_above packet stored with newest | ⟨existing, rfl, above⟩
  · obtain ⟨after, found', packets, -⟩ :=
      handle_upsert_of_atMost eviction last micros readable newest
    cases found'.symm.trans found
    exact .inl ⟨newest, rfl, by rw [packets, if_pos rfl]⟩
  · cases (handle_upsert_of_not_atMost eviction last micros readable above).symm.trans found
    exact .inr ⟨⟨existing, rfl, above⟩, rfl, rfl⟩

private theorem tables_handle_checkExpired {time : Nat} {key : PublicKeyBytes}
    {handled : Handled dns}
    (found : handleMessage eviction last micros tables (.checkExpired time key) = .ok handled) :
    handled.tables = (tables.removeTime time key).removePacket key ∨
      handled.tables = tables.removeTime time key := by
  simp only [handleMessage] at found
  split at found
  next => cases found
  next =>
    split at found <;> cases found
    · exact .inl rfl
    · exact .inr rfl
  next =>
    cases found
    exact .inr rfl

/-- A message leaves the packets of other keys as they are. -/
theorem getPacket_handle_of_ne {message : Message dns} {handled : Handled dns}
    (found : handleMessage eviction last micros tables message = .ok handled)
    {key : PublicKeyBytes} (different : key ≠ message.key) :
    (handled.tables.getPacket key : Except _ (Option (SignedPacket dns))) =
      tables.getPacket key := by
  cases message with
  | get other =>
      simp only [handleMessage] at found
      split at found <;> cases found
      rfl
  | upsert packet =>
      simp only [Message.key] at different
      simp only [handleMessage] at found
      split at found
      next => cases found
      next =>
        split at found <;> cases found
        · rfl
        · rw [Tables.getPacket_insertPacket, if_neg different, Tables.getPacket_removeTime]
      next =>
        cases found
        rw [Tables.getPacket_insertPacket, if_neg different]
  | remove other =>
      simp only [Message.key] at different
      simp only [handleMessage] at found
      split at found
      next =>
        cases found
        rfl
      next =>
        split at found <;> cases found
        rw [Tables.getPacket_removeTime, Tables.getPacket_removePacket, if_neg different]
  | checkExpired time other =>
      simp only [Message.key] at different
      rcases tables_handle_checkExpired found with removed | kept
      · rw [removed, Tables.getPacket_removePacket, if_neg different, Tables.getPacket_removeTime]
      · rw [kept, Tables.getPacket_removeTime]

/-- A check for expiry removes the packet of its key or leaves it. -/
theorem getPacket_handle_checkExpired {time : Nat} {key : PublicKeyBytes} {handled : Handled dns}
    (found : handleMessage eviction last micros tables (.checkExpired time key) = .ok handled) :
    (handled.tables.getPacket key : Except _ (Option (SignedPacket dns))) = .ok none ∨
      (handled.tables.getPacket key : Except _ (Option (SignedPacket dns))) =
        tables.getPacket key := by
  rcases tables_handle_checkExpired found with removed | kept
  · exact .inl (by rw [removed, Tables.getPacket_removePacket, if_pos rfl])
  · exact .inr (by rw [kept, Tables.getPacket_removeTime])

end Handle

def lenient : SimpleDns := ⟨fun _ => true⟩

/-- A packet of the key that has only zeros, with an empty message. -/
def zeroPacket (timestamp : Nat) : SignedPacket lenient where
  bytes := List.replicate 96 0 ++ (Timestamp.toBeBytes timestamp).toList
  headed := by simp [headerSize]
  bounded := by simp [maxSignedPacketSize, headerSize, maxDnsPacketSize]
  parsed := rfl

end NexalinkTunnel.DnsServer
