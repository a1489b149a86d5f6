import NexalinkTunnel.DnsServer.Zone
import NexalinkTunnel.Lib.BoundedCache
import NexalinkTunnel.Lib.Transition

/-!
Contract: the zone store of the DNS server, a packet store with caches in front.

Owns the two caches, the calls of the zone store with their steps, and what a
resolved query is compared with: the packet that the packet store holds.

Does not own: interleavings of calls. Here each call ends before the next one starts.

## The packet is gone but the zone is not

A packet that is replaced is removed from the caches by the same call. A packet that
expires is removed by the packet store alone, which does not know of the caches.
-/

namespace NexalinkTunnel.DnsServer

open Base Lib Dns.Pkarr

structure CacheCrates where
  lru : LruCrate
  ttl : TtlCrate

def CacheCrates.unbounded : CacheCrates := ⟨.unbounded, .unbounded⟩

variable {dns : SimpleDns} {caches : CacheCrates} {Data : Type}

def dhtCacheTtl : Nat := 300 * 1000000

structure ZoneCache (caches : CacheCrates) (Data : Type) where
  cache : caches.lru.Cache PublicKeyBytes (CachedZone Data)
  dhtCache : caches.ttl.Cache PublicKeyBytes (CachedZone Data)

namespace ZoneCache

def new (cap : Nat) (positive : 0 < cap) : ZoneCache caches Data :=
  ⟨caches.lru.new cap positive, caches.ttl.new cap⟩

def find (zones : ZoneCache caches Data) (now : Nat) (pubkey : PublicKeyBytes) :
    Option (CachedZone Data) :=
  match caches.lru.peek zones.cache pubkey with
  | some zone => some zone
  | none => caches.ttl.get zones.dhtCache now pubkey

def touch (zones : ZoneCache caches Data) (pubkey : PublicKeyBytes) : ZoneCache caches Data :=
  { zones with cache := caches.lru.touch zones.cache pubkey }

def resolve (zones : ZoneCache caches Data) (now : Nat) (pubkey : PublicKeyBytes) (name : Name)
    (recordType : RecordType) : Option (RecordSet Data) × ZoneCache caches Data :=
  ((zones.find now pubkey).bind (·.resolve name recordType), zones.touch pubkey)

def remove (zones : ZoneCache caches Data) (now : Nat) (pubkey : PublicKeyBytes) :
    ZoneCache caches Data where
  cache := caches.lru.pop zones.cache pubkey
  dhtCache := caches.ttl.purge (caches.ttl.remove zones.dhtCache pubkey) now

def Holds (zones : ZoneCache caches Data) (pubkey : PublicKeyBytes) (zone : CachedZone Data) :
    Prop :=
  caches.lru.peek zones.cache pubkey = some zone ∨ caches.ttl.Holds zones.dhtCache pubkey zone

variable {zones after : ZoneCache caches Data} {now : Nat} {pubkey other : PublicKeyBytes}
  {zone : CachedZone Data} {decoder : MessageDecoder Data} {packet : SignedPacket dns}

theorem holds_of_find (found : zones.find now pubkey = some zone) : zones.Holds pubkey zone := by
  unfold find at found
  split at found
  next cached held =>
    cases found
    exact .inl held
  next => exact .inr ⟨now, found⟩

theorem holds_of_touch (held : (zones.touch pubkey).Holds other zone) : zones.Holds other zone :=
  held.imp caches.lru.peek_of_touch id

theorem holds_of_remove (held : (zones.remove now pubkey).Holds other zone) :
    other ≠ pubkey ∧ zones.Holds other zone := by
  rcases held with hit | ⟨later, hit⟩
  · obtain ⟨different, stored⟩ := caches.lru.peek_of_pop hit
    exact ⟨different, .inl stored⟩
  · obtain ⟨different, stored⟩ := caches.ttl.get_of_remove (caches.ttl.get_of_purge hit)
    exact ⟨different, .inr ⟨later, stored⟩⟩

variable [DecidableEq Data] [Hickory] [Encodings]

def insert (decoder : MessageDecoder Data) (zones : ZoneCache caches Data)
    (signedPacket : SignedPacket dns) : Except ProtoError (ZoneCache caches Data) :=
  if (caches.lru.peek zones.cache signedPacket.publicKeyBytes).any (·.isNewerThan signedPacket) then
    .ok zones
  else
    match CachedZone.fromSignedPacket decoder signedPacket with
    | .error error => .error error
    | .ok zone =>
        .ok { zones with cache := caches.lru.put zones.cache signedPacket.publicKeyBytes zone }

def insertAndResolve (decoder : MessageDecoder Data) (zones : ZoneCache caches Data) (now : Nat)
    (signedPacket : SignedPacket dns) (name : Name) (recordType : RecordType) :
    Except ProtoError (Option (RecordSet Data) × ZoneCache caches Data) :=
  match zones.insert decoder signedPacket with
  | .error error => .error error
  | .ok zones => .ok (zones.resolve now signedPacket.publicKeyBytes name recordType)

def insertAndResolveDht (decoder : MessageDecoder Data) (zones : ZoneCache caches Data) (now : Nat)
    (signedPacket : SignedPacket dns) (name : Name) (recordType : RecordType) :
    Except ProtoError (Option (RecordSet Data) × ZoneCache caches Data) :=
  match CachedZone.fromSignedPacket decoder signedPacket with
  | .error error => .error error
  | .ok zone =>
      let dhtCache :=
        caches.ttl.insert zones.dhtCache now signedPacket.publicKeyBytes zone dhtCacheTtl
      -- the entries are counted by an iteration
      .ok (zone.resolve name recordType, { zones with dhtCache := caches.ttl.purge dhtCache now })

/-- What an insertion leaves: the packet's zone, or a newer one that was there. -/
theorem insert_cases (inserted : zones.insert decoder packet = .ok after) :
    (after = zones ∧ ∃ newer, caches.lru.peek zones.cache packet.publicKeyBytes = some newer ∧
      packet.timestamp < newer.timestamp) ∨
    ∃ zone, CachedZone.fromSignedPacket decoder packet = .ok zone ∧
      (∀ old ∈ caches.lru.peek zones.cache packet.publicKeyBytes,
        old.timestamp ≤ packet.timestamp) ∧
      after = { zones with cache := caches.lru.put zones.cache packet.publicKeyBytes zone } := by
  unfold insert at inserted
  split at inserted
  next skipped =>
    cases inserted
    rw [Option.any_eq_true] at skipped
    obtain ⟨newer, held, above⟩ := skipped
    exact .inl ⟨rfl, newer, held, of_decide_eq_true above⟩
  next notSkipped =>
    split at inserted
    next => cases inserted
    next zone parsed =>
      cases inserted
      refine .inr ⟨zone, parsed, fun old held => Nat.le_of_not_lt fun above => notSkipped ?_, rfl⟩
      rw [Option.any_eq_true]
      exact ⟨old, held, decide_eq_true above⟩

theorem timestamp_fromSignedPacket
    (parsed : CachedZone.fromSignedPacket decoder packet = .ok zone) :
    zone.timestamp = packet.timestamp := by
  unfold CachedZone.fromSignedPacket at parsed
  split at parsed <;> cases parsed
  rfl

theorem holds_of_insert (inserted : zones.insert decoder packet = .ok after)
    (held : after.Holds other zone) :
    zones.Holds other zone ∨ (other = packet.publicKeyBytes ∧
      CachedZone.fromSignedPacket decoder packet = .ok zone) := by
  rcases insert_cases inserted with ⟨rfl, -⟩ | ⟨new, parsed, -, rfl⟩
  · exact .inl held
  · rcases held with hit | hit
    · by_cases same : other = packet.publicKeyBytes
      · subst same
        rw [caches.lru.peek_put_self] at hit
        cases hit
        exact .inr ⟨rfl, parsed⟩
      · exact .inl (.inl (caches.lru.peek_of_put same hit))
    · exact .inl (.inr hit)

/-- The zone that a query is resolved in right after an insertion is not older than the packet. -/
theorem find_of_insert (inserted : zones.insert decoder packet = .ok after) (now : Nat) :
    ∃ zone, after.find now packet.publicKeyBytes = some zone ∧
      packet.timestamp ≤ zone.timestamp := by
  rcases insert_cases inserted with ⟨rfl, newer, held, above⟩ | ⟨zone, parsed, -, rfl⟩
  · exact ⟨newer, by simp only [find, held], Nat.le_of_lt above⟩
  · exact ⟨zone, by simp only [find, caches.lru.peek_put_self],
      Nat.le_of_eq (timestamp_fromSignedPacket parsed).symm⟩

/-- Where no zone of the key is newer than the packet, a query is resolved in the packet's zone. -/
theorem insertAndResolve_of_current (decoder : MessageDecoder Data) (now : Nat) (name : Name)
    (recordType : RecordType)
    (current : ∀ zone, caches.lru.peek zones.cache packet.publicKeyBytes = some zone →
      zone.timestamp ≤ packet.timestamp) :
    (zones.insertAndResolve decoder now packet name recordType).map Prod.fst =
      (CachedZone.fromSignedPacket decoder packet).map (·.resolve name recordType) := by
  have notNewer : (caches.lru.peek zones.cache packet.publicKeyBytes).any
      (·.isNewerThan packet) = false := by
    rw [Option.any_eq_false]
    intro zone held
    simpa [CachedZone.isNewerThan] using current zone held
  cases parsed : CachedZone.fromSignedPacket decoder packet with
  | error error =>
      simp only [insertAndResolve, insert, notNewer, Bool.false_eq_true, if_false, parsed,
        Except.map]
  | ok zone =>
      simp only [insertAndResolve, insert, notNewer, Bool.false_eq_true, if_false, parsed,
        Except.map, resolve, find, caches.lru.peek_put_self, Option.bind_some]

private theorem holds_of_insertAndResolve {name : Name} {recordType : RecordType}
    {answer : Option (RecordSet Data)}
    (inserted : zones.insertAndResolve decoder now packet name recordType = .ok (answer, after))
    (held : after.Holds other zone) :
    zones.Holds other zone ∨ (other = packet.publicKeyBytes ∧
      CachedZone.fromSignedPacket decoder packet = .ok zone) := by
  unfold insertAndResolve at inserted
  split at inserted
  next => cases inserted
  next middle stored =>
    cases inserted
    exact holds_of_insert stored (holds_of_touch held)

theorem holds_of_insertAndResolveDht {name : Name} {recordType : RecordType}
    {answer : Option (RecordSet Data)}
    (inserted : zones.insertAndResolveDht decoder now packet name recordType = .ok (answer, after))
    (held : after.Holds other zone) :
    zones.Holds other zone ∨ (other = packet.publicKeyBytes ∧
      CachedZone.fromSignedPacket decoder packet = .ok zone) := by
  unfold insertAndResolveDht at inserted
  split at inserted
  next => cases inserted
  next new parsed =>
    cases inserted
    rcases held with hit | ⟨later, hit⟩
    · exact .inl (.inl hit)
    · rcases caches.ttl.get_of_insert (caches.ttl.get_of_purge hit) with ⟨same, rfl⟩ | ⟨-, stored⟩
      · exact .inr ⟨same, parsed⟩
      · exact .inl (.inr ⟨later, stored⟩)

end ZoneCache

inductive ZoneStoreError where
  | store (error : SignedPacketVerifyError)
  | proto (error : ProtoError)
deriving DecidableEq, Repr

/-- The tables are those that the actor of the packet store works on, message by message. -/
structure ZoneStore (caches : CacheCrates) (Data : Type) where
  tables : Tables
  /-- `LAST_TIMESTAMP`. -/
  last : Nat
  cache : ZoneCache caches Data

namespace ZoneStore

def new (cap : Nat) (positive : 0 < cap) : ZoneStore caches Data := ⟨.empty, 0, .new cap positive⟩

/-- `insert`: the packet goes to the packet store, and if it is stored, the caches forget the zone
of its key. -/
def insert (eviction : Nat) (store : ZoneStore caches Data) (micros now : Nat)
    (signedPacket : SignedPacket dns) : Except ZoneStoreError (Bool × ZoneStore caches Data) :=
  match handleMessage eviction store.last micros store.tables (.upsert signedPacket) with
  | .error error => .error (.store error)
  | .ok handled =>
      let store := { store with tables := handled.tables, last := handled.last }
      if handled.reply = .upserted true then
        .ok (true, { store with cache := store.cache.remove now signedPacket.publicKeyBytes })
      else .ok (false, store)

/-- A check for expiry, which the packet store handles by itself. -/
def checkExpired (dns : SimpleDns) (eviction : Nat) (store : ZoneStore caches Data)
    (micros time : Nat) (key : PublicKeyBytes) : Except ZoneStoreError (ZoneStore caches Data) :=
  match handleMessage eviction store.last micros store.tables
      (.checkExpired time key : Message dns) with
  | .error error => .error (.store error)
  | .ok handled => .ok { store with tables := handled.tables, last := handled.last }

section Resolve

variable [DecidableEq Data] [Hickory] [Encodings]

/-- `resolve`. Where a DHT client is configured, `dht` is the packet that it finds, if any. A call
that fails leaves the caches as the lookup left them. -/
def resolve (decoder : MessageDecoder Data) (dht : Option (Option (SignedPacket dns)))
    (store : ZoneStore caches Data) (now : Nat) (pubkey : PublicKeyBytes) (name : Name)
    (recordType : RecordType) :
    Except ZoneStoreError (Option (RecordSet Data)) × ZoneStore caches Data :=
  let (hit, cache) := store.cache.resolve now pubkey name recordType
  let store := { store with cache := cache }
  match hit with
  | some rset => (.ok (some rset), store)
  | none =>
      match (store.tables.getPacket pubkey : Except _ (Option (SignedPacket dns))) with
      | .error error => (.error (.store error), store)
      | .ok (some packet) =>
          match store.cache.insertAndResolve decoder now packet name recordType with
          | .ok (answer, cache) => (.ok answer, { store with cache := cache })
          | .error error => (.error (.proto error), store)
      | .ok none =>
          match dht with
          | some (some packet) =>
              match store.cache.insertAndResolveDht decoder now packet name recordType with
              | .ok (answer, cache) => (.ok answer, { store with cache := cache })
              | .error error => (.error (.proto error), store)
          | some none => (.ok none, store)
          | none => (.ok none, store)

/-- A lookup in the packet that the packet store holds, without caches. -/
def direct (dns : SimpleDns) (decoder : MessageDecoder Data) (store : ZoneStore caches Data)
    (pubkey : PublicKeyBytes) (name : Name) (recordType : RecordType) :
    Except ZoneStoreError (Option (RecordSet Data)) :=
  match (store.tables.getPacket pubkey : Except _ (Option (SignedPacket dns))) with
  | .error error => .error (.store error)
  | .ok none => .ok none
  | .ok (some packet) =>
      match CachedZone.fromSignedPacket decoder packet with
      | .error error => .error (.proto error)
      | .ok zone => .ok (zone.resolve name recordType)

/-- The caches answer the query from a packet that the packet store no longer has. -/
def Outlived (dns : SimpleDns) (store : ZoneStore caches Data) (now : Nat) (pubkey : PublicKeyBytes)
    (name : Name) (recordType : RecordType) : Prop :=
  (store.tables.getPacket pubkey : Except _ (Option (SignedPacket dns))) = .ok none ∧
    (store.cache.resolve now pubkey name recordType).1.isSome
deriving Decidable

structure Coherent (dns : SimpleDns) (decoder : MessageDecoder Data)
    (store : ZoneStore caches Data) : Prop where
  sound : store.tables.Sound dns
  /-- A cached zone may outlive its packet, but it is never the zone of another packet. -/
  zones : ∀ key zone, store.cache.Holds key zone →
    (store.tables.getPacket key : Except _ (Option (SignedPacket dns))) = .ok none ∨
      ∃ packet : SignedPacket dns, store.tables.getPacket key = .ok (some packet) ∧
        CachedZone.fromSignedPacket decoder packet = .ok zone

variable {decoder : MessageDecoder Data} {store after : ZoneStore caches Data} {now : Nat}
  {pubkey : PublicKeyBytes} {name : Name} {recordType : RecordType}

private theorem Coherent.zone_of_stored (coherent : store.Coherent dns decoder)
    {packet : SignedPacket dns} (stored : store.tables.getPacket pubkey = .ok (some packet))
    {zone : CachedZone Data} (held : store.cache.Holds pubkey zone) :
    CachedZone.fromSignedPacket decoder packet = .ok zone := by
  rcases coherent.zones pubkey zone held with absent | ⟨packet', stored', parsed⟩
  · rw [stored] at absent
    cases absent
  · rw [stored] at stored'
    cases stored'
    exact parsed

def touch (store : ZoneStore caches Data) (pubkey : PublicKeyBytes) : ZoneStore caches Data :=
  { store with cache := store.cache.touch pubkey }

variable {dht : Option (Option (SignedPacket dns))}

theorem resolve_of_hit {rset : RecordSet Data}
    (hit : (store.cache.resolve now pubkey name recordType).1 = some rset) :
    store.resolve decoder dht now pubkey name recordType =
      (.ok (some rset), store.touch pubkey) := by
  unfold resolve
  simp only [hit]
  rfl

theorem resolve_of_absent (miss : (store.cache.resolve now pubkey name recordType).1 = none)
    (absent : (store.tables.getPacket pubkey : Except _ (Option (SignedPacket dns))) = .ok none) :
    store.resolve decoder (none : Option (Option (SignedPacket dns))) now pubkey name recordType =
      (.ok none, store.touch pubkey) := by
  unfold resolve
  simp only [miss, absent]
  rfl

theorem resolve_of_stored (miss : (store.cache.resolve now pubkey name recordType).1 = none)
    {packet : SignedPacket dns} (stored : store.tables.getPacket pubkey = .ok (some packet)) :
    store.resolve decoder dht now pubkey name recordType =
      match (store.touch pubkey).cache.insertAndResolve decoder now packet name recordType with
      | .ok (answer, cache) => (.ok answer, { store with cache := cache })
      | .error error => (.error (.proto error), store.touch pubkey) := by
  unfold resolve
  simp only [miss, stored]
  rfl

private theorem resolve_fst_of_stored (coherent : store.Coherent dns decoder)
    (miss : (store.cache.resolve now pubkey name recordType).1 = none)
    {packet : SignedPacket dns} (stored : store.tables.getPacket pubkey = .ok (some packet)) :
    (store.resolve decoder dht now pubkey name recordType).1 =
      store.direct dns decoder pubkey name recordType := by
  have own := coherent.sound.publicKeyBytes_eq stored
  have current : ∀ zone,
      caches.lru.peek (store.touch pubkey).cache.cache packet.publicKeyBytes = some zone →
        zone.timestamp ≤ packet.timestamp := by
    intro zone held
    rw [own] at held
    have parsed := coherent.zone_of_stored stored (.inl (caches.lru.peek_of_touch held))
    exact Nat.le_of_eq (ZoneCache.timestamp_fromSignedPacket parsed)
  have answer := ZoneCache.insertAndResolve_of_current decoder now name recordType current
  simp only [resolve_of_stored miss stored, direct, stored]
  cases inserted : (store.touch pubkey).cache.insertAndResolve decoder now packet name
      recordType with
  | error error =>
      cases parsed : CachedZone.fromSignedPacket decoder packet with
      | error refused =>
          simp only [inserted, parsed, Except.map] at answer
          cases answer
          rfl
      | ok zone => simp [inserted, parsed, Except.map] at answer
  | ok result =>
      cases parsed : CachedZone.fromSignedPacket decoder packet with
      | error refused => simp [inserted, parsed, Except.map] at answer
      | ok zone =>
          simp only [inserted, parsed, Except.map] at answer
          exact congrArg Except.ok (Except.ok.inj answer)

/-- A resolved query is answered as from the packet store, exactly unless the caches answer from a
packet that is gone. -/
theorem resolve_eq_direct_iff (coherent : store.Coherent dns decoder) :
    (store.resolve decoder (none : Option (Option (SignedPacket dns))) now pubkey name
        recordType).1 = store.direct dns decoder pubkey name recordType ↔
      ¬ store.Outlived dns now pubkey name recordType := by
  obtain ⟨stored, readable⟩ := coherent.sound.readable pubkey
  cases hit : (store.cache.resolve now pubkey name recordType).1 with
  | some rset =>
      rw [resolve_of_hit hit, direct, readable, Outlived, readable, hit]
      cases stored with
      | none => simp
      | some packet =>
          obtain ⟨zone, found, resolved⟩ := Option.bind_eq_some_iff.mp hit
          have parsed := coherent.zone_of_stored readable (ZoneCache.holds_of_find found)
          simp [parsed, resolved]
  | none =>
      have kept : ¬ store.Outlived dns now pubkey name recordType := by
        rintro ⟨-, found⟩
        rw [hit] at found
        cases found
      refine iff_of_true ?_ kept
      cases stored with
      | none => rw [resolve_of_absent hit readable, direct, readable]
      | some packet => exact resolve_fst_of_stored coherent hit readable

inductive Operation (dns : SimpleDns) where
  | insert (signedPacket : SignedPacket dns) (micros now : Nat)
  | resolve (pubkey : PublicKeyBytes) (name : Name) (recordType : RecordType) (now : Nat)
  /-- A check that the eviction task sent is handled. -/
  | expire (time : Nat) (key : PublicKeyBytes) (micros : Nat)

/-- No DHT client is configured, and a check is for a time that is expired. -/
def next (decoder : MessageDecoder Data) (eviction : Nat) (store : ZoneStore caches Data) :
    Operation dns → Option (ZoneStore caches Data)
  | .insert signedPacket micros now =>
      match store.insert eviction micros now signedPacket with
      | .ok (_, after) => some after
      | .error _ => none
  | .resolve pubkey name recordType now =>
      some (store.resolve decoder (none : Option (Option (SignedPacket dns))) now pubkey name
        recordType).2
  | .expire time key micros =>
      if time < Timestamp.now store.last micros - eviction ∧ time < 2 ^ 64 then
        match store.checkExpired dns eviction micros time key with
        | .ok after => some after
        | .error _ => none
      else none

abbrev machine (dns : SimpleDns) (caches : CacheCrates) (decoder : MessageDecoder Data)
    (eviction cap : Nat) (positive : 0 < cap) : Machine (ZoneStore caches Data) (Operation dns) :=
  .ofNext (new cap positive) (next decoder eviction)

private theorem coherent_new (cap : Nat) (positive : 0 < cap) :
    (new cap positive : ZoneStore caches Data).Coherent dns decoder := by
  refine ⟨Tables.sound_empty, ?_⟩
  rintro key zone (hit | ⟨later, hit⟩)
  · cases (caches.lru.peek_new cap positive key).symm.trans hit
  · cases (caches.ttl.get_new cap later key).symm.trans hit

private theorem Coherent.insert (coherent : store.Coherent dns decoder) {eviction micros : Nat}
    {packet : SignedPacket dns} {updated : Bool}
    (inserted : store.insert eviction micros now packet = .ok (updated, after)) :
    after.Coherent dns decoder := by
  obtain ⟨handled, found, sound, -⟩ :=
    upsert_handledSoundly eviction store.last micros coherent.sound packet
  obtain ⟨stored, readable⟩ := coherent.sound.readable packet.publicKeyBytes
  simp only [ZoneStore.insert, found] at inserted
  rcases handle_upsert readable found with ⟨-, reply, -⟩ | ⟨-, reply, kept⟩
  · rw [if_pos reply] at inserted
    cases inserted
    refine ⟨sound, fun key zone held => ?_⟩
    obtain ⟨different, before⟩ := ZoneCache.holds_of_remove held
    have same := getPacket_handle_of_ne found different
    rcases coherent.zones key zone before with absent | ⟨packet, present, parsed⟩
    · exact .inl (same.trans absent)
    · exact .inr ⟨packet, same.trans present, parsed⟩
  · rw [if_neg (by rw [reply]; simp)] at inserted
    cases inserted
    refine ⟨sound, fun key zone held => ?_⟩
    rw [kept]
    exact coherent.zones key zone held

private theorem Coherent.checkExpired (coherent : store.Coherent dns decoder)
    {eviction micros time : Nat} {key : PublicKeyBytes}
    (due : time < Timestamp.now store.last micros - eviction ∧ time < 2 ^ 64)
    (checked : store.checkExpired dns eviction micros time key = .ok after) :
    after.Coherent dns decoder := by
  have due' : (.checkExpired time key : Message dns).Due eviction
      (Timestamp.now store.last micros) := due
  obtain ⟨handled, found, sound, -⟩ :=
    checkExpired_handledSoundly eviction store.last micros coherent.sound due'
  simp only [ZoneStore.checkExpired, found] at checked
  cases checked
  refine ⟨sound, fun other zone held => ?_⟩
  by_cases same : other = key
  · subst same
    rcases getPacket_handle_checkExpired found with gone | kept
    · exact .inl gone
    · rw [kept]
      exact coherent.zones other zone held
  · rw [getPacket_handle_of_ne found same]
    exact coherent.zones other zone held

private theorem Coherent.resolve (coherent : store.Coherent dns decoder) (now : Nat)
    (pubkey : PublicKeyBytes) (name : Name) (recordType : RecordType) :
    (store.resolve decoder (none : Option (Option (SignedPacket dns))) now pubkey name
      recordType).2.Coherent dns decoder := by
  have touched : (store.touch pubkey).Coherent dns decoder :=
    ⟨coherent.sound, fun key zone held => coherent.zones key zone (ZoneCache.holds_of_touch held)⟩
  obtain ⟨stored, readable⟩ := coherent.sound.readable pubkey
  cases hit : (store.cache.resolve now pubkey name recordType).1 with
  | some rset =>
      rw [resolve_of_hit hit]
      exact touched
  | none =>
      cases stored with
      | none =>
          rw [resolve_of_absent hit readable]
          exact touched
      | some packet =>
          rw [resolve_of_stored hit readable]
          split
          next answer cache inserted =>
            refine ⟨coherent.sound, fun key zone held => ?_⟩
            rcases ZoneCache.holds_of_insertAndResolve inserted held with before | ⟨same, parsed⟩
            · exact touched.zones key zone before
            · rw [coherent.sound.publicKeyBytes_eq readable] at same
              exact .inr ⟨packet, same ▸ readable, parsed⟩
          next => exact touched

private theorem Coherent.next (coherent : store.Coherent dns decoder) {eviction : Nat}
    {operation : Operation dns} (stepped : store.next decoder eviction operation = some after) :
    after.Coherent dns decoder := by
  cases operation with
  | insert packet micros now =>
      simp only [ZoneStore.next] at stepped
      split at stepped
      next updated result inserted =>
        cases stepped
        exact coherent.insert inserted
      next => cases stepped
  | resolve pubkey name recordType now =>
      cases stepped
      exact coherent.resolve now pubkey name recordType
  | expire time key micros =>
      simp only [ZoneStore.next] at stepped
      split at stepped
      next due =>
        split at stepped
        next result checked =>
          cases stepped
          exact coherent.checkExpired due checked
        next => cases stepped
      next => cases stepped

/-- After any run of complete calls, a query is answered from the packet that the packet store
holds, exactly unless that packet is gone and its zone is still in a cache. -/
theorem resolve_transparent_iff {eviction cap : Nat} {positive : 0 < cap}
    {history : List (Operation dns)}
    (reached : (machine dns caches decoder eviction cap positive).Reaches history store) (now : Nat)
    (pubkey : PublicKeyBytes) (name : Name) (recordType : RecordType) :
    (store.resolve decoder (none : Option (Option (SignedPacket dns))) now pubkey name
        recordType).1 = store.direct dns decoder pubkey name recordType ↔
      ¬ store.Outlived dns now pubkey name recordType := by
  apply resolve_eq_direct_iff
  exact reached.invariant_next (fun _ store => store.Coherent dns decoder)
    (coherent_new cap positive) fun _ _ _ _ stepped coherent => coherent.next stepped

end Resolve

attribute [local instance] Reference.hickory Encodings.strict

def zeroKey : PublicKeyBytes := (zeroPacket 1).publicKeyBytes

def rootName : Name := ⟨[], true, by decide⟩

/-- A text record of the zone itself, which every packet has. -/
def zeroRecord : Record Nat :=
  ⟨⟨[PublicKeyBytes.zoneLabel zeroKey], true, by decide +kernel⟩, .other 16, 1, 30, 7⟩

def zeroDecoder : MessageDecoder Nat := ⟨fun _ => .ok [zeroRecord]⟩

abbrev zeroMachine : Machine (ZoneStore .unbounded Nat) (Operation lenient) :=
  machine lenient .unbounded zeroDecoder 10 1 Nat.one_pos

/-- The packet is published, and its zone is cached for a query. -/
def published : List (Operation lenient) :=
  [.insert (zeroPacket 1) 100 0, .resolve zeroKey rootName (.other 16) 0]

theorem resolve_transparent_published :
    let store := zeroMachine.runFrom zeroMachine.start published
    (store.resolve zeroDecoder (none : Option (Option (SignedPacket lenient))) 0 zeroKey rootName
      (.other 16)).1 = store.direct lenient zeroDecoder zeroKey rootName (.other 16) := by
  have reached : zeroMachine.Reaches published (zeroMachine.runFrom zeroMachine.start published) :=
    Machine.reaches_runFrom (by decide +kernel)
  exact (resolve_transparent_iff reached 0 zeroKey rootName (.other 16)).mpr (by decide +kernel)

def expired : List (Operation lenient) := published ++ [.expire 1 zeroKey 1000]

/-- The query is still answered, though the packet store has no packet for the key. -/
theorem resolve_expired :
    let store := zeroMachine.runFrom zeroMachine.start expired
    zeroMachine.Reaches expired store ∧
      ((store.resolve zeroDecoder (none : Option (Option (SignedPacket lenient))) 0 zeroKey
        rootName (.other 16)).1.map (·.map RecordSet.data)) = .ok (some [7]) ∧
      store.direct lenient zeroDecoder zeroKey rootName (.other 16) = .ok none :=
  ⟨Machine.reaches_runFrom (by decide +kernel), by decide +kernel, by decide +kernel⟩

end ZoneStore

end NexalinkTunnel.DnsServer
