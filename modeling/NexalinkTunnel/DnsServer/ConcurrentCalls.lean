import NexalinkTunnel.DnsServer.ZoneStore

/-!
Contract: concurrent calls of the zone store.

Owns the steps of `insert` and `resolve` calls between which other calls may run, and
from which packet a resolved query is answered.

Does not own: expiry. No packet leaves the packet store here. The DHT may find any
packet of the key, or none.

## Overtaken readers

A resolve call fetches a packet in one step and puts its zone into a cache in a later
one. In between, an insert call may store a newer packet and clear the caches, and
return. The old zone is then put back, and later calls are answered from it. Nothing
else makes answers go back in time: a run in which no resolve call caches a packet
after the insert of a newer one has cleared the caches has no such answer.
-/

namespace NexalinkTunnel.DnsServer

open Base Lib Dns.Pkarr

variable {dns : SimpleDns} {caches : CacheCrates} {Data : Type}

structure Query where
  pubkey : PublicKeyBytes
  name : Name
  recordType : RecordType

/-- What a resolve call returns, with the time of the packet in whose zone it looked last, if that
zone answers the query. -/
structure Answer (Data : Type) where
  result : Except ProtoError (Option (RecordSet Data))
  source : Option Nat

/-- Where a call is. A resolve call remembers which inserts had returned `true` before it. -/
inductive Call (dns : SimpleDns) (Data : Type) where
  | idle
  | upserting (packet : SignedPacket dns)
  | clearing (packet : SignedPacket dns)
  | inserted (updated : Bool)
  | lookingUp (query : Query) (since : List (SignedPacket dns))
  | getting (query : Query) (since : List (SignedPacket dns))
  | storing (query : Query) (since : List (SignedPacket dns)) (packet : SignedPacket dns)
  | asking (query : Query) (since : List (SignedPacket dns))
  | caching (query : Query) (since : List (SignedPacket dns)) (packet : SignedPacket dns)
  | resolved (query : Query) (since : List (SignedPacket dns)) (answer : Answer Data)

structure Calls (dns : SimpleDns) (caches : CacheCrates) (Data : Type) where
  store : ZoneStore caches Data
  calls : Nat → Call dns Data
  /-- The packets whose insert has returned `true`. -/
  published : List (SignedPacket dns)

inductive CallStep (dns : SimpleDns) where
  | insert (id : Nat) (packet : SignedPacket dns)
  | upsert (id micros : Nat)
  | clear (id now : Nat)
  | resolve (id : Nat) (query : Query)
  | lookup (id now : Nat)
  | get (id : Nat)
  | store (id now : Nat)
  | ask (id : Nat) (found : Option (SignedPacket dns))
  | cache (id now : Nat)

namespace Calls

def start (cap : Nat) (positive : 0 < cap) : Calls dns caches Data :=
  ⟨.new cap positive, fun _ => .idle, []⟩

def goOn (calls : Calls dns caches Data) (id : Nat) (call : Call dns Data) :
    Calls dns caches Data :=
  { calls with calls := Function.update calls.calls id call }

def withCache (calls : Calls dns caches Data) (cache : ZoneCache caches Data) :
    Calls dns caches Data :=
  { calls with store := { calls.store with cache := cache } }

def withTables (calls : Calls dns caches Data) (tables : Tables) (last : Nat) :
    Calls dns caches Data :=
  { calls with store := { calls.store with tables := tables, last := last } }

def publish (calls : Calls dns caches Data) (packet : SignedPacket dns) : Calls dns caches Data :=
  { calls with published := packet :: calls.published }

/-- The time of the packet from whose zone the caches answer a query. -/
def source (cache : ZoneCache caches Data) (now : Nat) (query : Query) : Option Nat :=
  (cache.find now query.pubkey).map (·.timestamp)

variable [DecidableEq Data] [Hickory] [Encodings]

def next (decoder : MessageDecoder Data) (eviction : Nat) (calls : Calls dns caches Data) :
    CallStep dns → Option (Calls dns caches Data)
  | .insert id packet =>
      match calls.calls id with
      | .idle => some (calls.goOn id (.upserting packet))
      | _ => none
  | .upsert id micros =>
      match calls.calls id with
      | .upserting packet =>
          match handleMessage eviction calls.store.last micros calls.store.tables
              (.upsert packet) with
          | .error _ => none
          | .ok handled =>
              some ((calls.withTables handled.tables handled.last).goOn id
                (if handled.reply = .upserted true then .clearing packet else .inserted false))
      | _ => none
  | .clear id now =>
      match calls.calls id with
      | .clearing packet =>
          let cleared := calls.withCache (calls.store.cache.remove now packet.publicKeyBytes)
          some ((cleared.publish packet).goOn id (.inserted true))
      | _ => none
  | .resolve id query =>
      match calls.calls id with
      | .idle => some (calls.goOn id (.lookingUp query calls.published))
      | _ => none
  | .lookup id now =>
      match calls.calls id with
      | .lookingUp query since =>
          let (hit, cache) := calls.store.cache.resolve now query.pubkey query.name query.recordType
          some ((calls.withCache cache).goOn id (match hit with
            | some rset =>
                .resolved query since ⟨.ok (some rset), source calls.store.cache now query⟩
            | none => .getting query since))
      | _ => none
  | .get id =>
      match calls.calls id with
      | .getting query since =>
          match (calls.store.tables.getPacket query.pubkey :
              Except _ (Option (SignedPacket dns))) with
          | .error _ => none
          | .ok (some packet) => some (calls.goOn id (.storing query since packet))
          | .ok none => some (calls.goOn id (.asking query since))
      | _ => none
  | .store id now =>
      match calls.calls id with
      | .storing query since packet =>
          -- the two halves of `insert_and_resolve`, under one lock
          match calls.store.cache.insert decoder packet with
          | .error error => some (calls.goOn id (.resolved query since ⟨.error error, none⟩))
          | .ok cache =>
              let (answer, cache') := cache.resolve now packet.publicKeyBytes query.name
                query.recordType
              some ((calls.withCache cache').goOn id
                (.resolved query since ⟨.ok answer, source cache now query⟩))
      | _ => none
  | .ask id found =>
      match calls.calls id with
      | .asking query since =>
          match found with
          | none => some (calls.goOn id (.resolved query since ⟨.ok none, none⟩))
          | some packet =>
              if packet.publicKeyBytes = query.pubkey then
                some (calls.goOn id (.caching query since packet))
              else none
      | _ => none
  | .cache id now =>
      match calls.calls id with
      | .caching query since packet =>
          match calls.store.cache.insertAndResolveDht decoder now packet query.name
              query.recordType with
          | .error error => some (calls.goOn id (.resolved query since ⟨.error error, none⟩))
          | .ok (answer, cache) =>
              some ((calls.withCache cache).goOn id
                (.resolved query since ⟨.ok answer, some packet.timestamp⟩))
      | _ => none

abbrev machine (dns : SimpleDns) (caches : CacheCrates) (decoder : MessageDecoder Data)
    (eviction cap : Nat) (positive : 0 < cap) : Machine (Calls dns caches Data) (CallStep dns) :=
  .ofNext (start cap positive) (next decoder eviction)

end Calls

/-! ## What a call knows -/

def UpTo (packets : List (SignedPacket dns)) (key : PublicKeyBytes) (time : Nat) : Prop :=
  ∀ packet ∈ packets, packet.publicKeyBytes = key → packet.timestamp ≤ time
deriving Decidable

theorem UpTo.subset {packets fewer : List (SignedPacket dns)} {key : PublicKeyBytes} {time : Nat}
    (upTo : UpTo packets key time) (subset : fewer ⊆ packets) : UpTo fewer key time :=
  fun packet inside => upTo packet (subset inside)

private theorem UpTo.later {packets : List (SignedPacket dns)} {key : PublicKeyBytes}
    {time later : Nat}
    (upTo : UpTo packets key time) (le : time ≤ later) : UpTo packets key later :=
  fun packet inside same => Nat.le_trans (upTo packet inside same) le

namespace Call

/-- The packet that a resolve call is about to put into a cache. -/
def fetched : Call dns Data → Option (SignedPacket dns)
  | .storing _ _ packet => some packet
  | .caching _ _ packet => some packet
  | _ => none

/-- The key of a query that is resolved, what was published before it, and its source. -/
def outcome : Call dns Data → Option (PublicKeyBytes × List (SignedPacket dns) × Option Nat)
  | .resolved query since answer => some (query.pubkey, since, answer.source)
  | _ => none

private theorem resolved_of_outcome {call : Call dns Data} {key : PublicKeyBytes}
    {since : List (SignedPacket dns)} {source : Option Nat}
    (ended : call.outcome = some (key, since, source)) :
    ∃ query answer, call = .resolved query since answer ∧ query.pubkey = key ∧
      answer.source = source := by
  cases call <;> cases ended
  exact ⟨_, _, rfl, rfl, rfl⟩

/-- A packet that was fetched is not older than those published before the call. A call that asks
the DHT started when nothing was published for its key. -/
def Consistent (published : List (SignedPacket dns)) : Call dns Data → Prop
  | .lookingUp _ since => since ⊆ published
  | .getting _ since => since ⊆ published
  | .storing query since packet =>
      packet.publicKeyBytes = query.pubkey ∧ UpTo since query.pubkey packet.timestamp
  | .asking query since => ∀ packet ∈ since, packet.publicKeyBytes ≠ query.pubkey
  | .caching query since packet =>
      packet.publicKeyBytes = query.pubkey ∧ UpTo since query.pubkey packet.timestamp
  | .resolved query since answer => ∀ time ∈ answer.source, UpTo since query.pubkey time
  | _ => True

private theorem Consistent.mono {published later : List (SignedPacket dns)} {call : Call dns Data}
    (consistent : call.Consistent published) (grown : published ⊆ later) :
    call.Consistent later := by
  cases call with
  | lookingUp query since => exact List.Subset.trans consistent grown
  | getting query since => exact List.Subset.trans consistent grown
  | idle => trivial
  | upserting packet => trivial
  | clearing packet => trivial
  | inserted updated => trivial
  | storing query since packet => exact consistent
  | asking query since => exact consistent
  | caching query since packet => exact consistent
  | resolved query since answer => exact consistent

end Call

namespace Calls

/-- The step caches a packet that is older than one that was published since it was fetched. A
packet from the packet store is not cached if there is a zone of a newer one. -/
def Overtaken (calls : Calls dns caches Data) : CallStep dns → Prop
  | .store id _ => ∃ packet ∈ (calls.calls id).fetched,
      ¬ UpTo calls.published packet.publicKeyBytes packet.timestamp ∧
        ∀ zone ∈ caches.lru.peek calls.store.cache.cache packet.publicKeyBytes,
          zone.timestamp ≤ packet.timestamp
  | .cache id _ => ∃ packet ∈ (calls.calls id).fetched,
      ¬ UpTo calls.published packet.publicKeyBytes packet.timestamp
  | _ => False

instance (calls : Calls dns caches Data) : DecidablePred calls.Overtaken
  | .store _ _ => inferInstanceAs (Decidable (∃ _ ∈ _, ¬ _ ∧ ∀ _ ∈ _, _))
  | .cache _ _ => inferInstanceAs (Decidable (∃ _ ∈ _, _))
  | .insert _ _ | .upsert _ _ | .clear _ _ | .resolve _ _ | .lookup _ _ | .get _ | .ask _ _ =>
      .isFalse fun overtaken => overtaken

/-- The packet store has a packet that is at least as new. -/
def Kept (calls : Calls dns caches Data) (packet : SignedPacket dns) : Prop :=
  ∃ newest : SignedPacket dns,
    calls.store.tables.getPacket packet.publicKeyBytes = .ok (some newest) ∧
      packet.timestamp ≤ newest.timestamp

structure Ordered (calls : Calls dns caches Data) : Prop where
  sound : calls.store.tables.Sound dns
  /-- No cached zone is older than a published packet. -/
  zones : ∀ key zone, calls.store.cache.Holds key zone →
    UpTo calls.published key zone.timestamp
  published : ∀ packet ∈ calls.published, calls.Kept packet
  clearing : ∀ id packet, calls.calls id = .clearing packet → calls.Kept packet
  calls : ∀ id, (calls.calls id).Consistent calls.published

variable {calls after : Calls dns caches Data} {id : Nat}

private theorem ordered_start (cap : Nat) (positive : 0 < cap) :
    (start cap positive : Calls dns caches Data).Ordered where
  sound := Tables.sound_empty
  zones := by
    rintro key zone (hit | ⟨later, hit⟩)
    · cases (caches.lru.peek_new cap positive key).symm.trans hit
    · cases (caches.ttl.get_new cap later key).symm.trans hit
  published := by simp [start]
  clearing := by simp [start]
  calls := fun _ => trivial

theorem Ordered.consistent (ordered : calls.Ordered) {call : Call dns Data}
    (waits : calls.calls id = call) : call.Consistent calls.published := by
  rw [← waits]
  exact ordered.calls id

private theorem calls_goOn (calls : Calls dns caches Data) (id : Nat) (call : Call dns Data)
    (other : Nat) :
    (calls.goOn id call).calls other = if other = id then call else calls.calls other :=
  Function.update_apply ..

theorem Ordered.goOn (ordered : calls.Ordered) {call : Call dns Data}
    (consistent : call.Consistent calls.published)
    (kept : ∀ packet, call = .clearing packet → calls.Kept packet) :
    (calls.goOn id call).Ordered where
  sound := ordered.sound
  zones := ordered.zones
  published := ordered.published
  clearing := by
    intro other packet waits
    rw [calls_goOn] at waits
    split at waits
    next => exact kept packet waits
    next => exact ordered.clearing other packet waits
  calls := by
    intro other
    rw [calls_goOn]
    split
    next => exact consistent
    next => exact ordered.calls other

theorem Ordered.withCache (ordered : calls.Ordered) {cache : ZoneCache caches Data}
    (zones : ∀ key zone, cache.Holds key zone →
      calls.store.cache.Holds key zone ∨ UpTo calls.published key zone.timestamp) :
    (calls.withCache cache).Ordered where
  sound := ordered.sound
  zones := fun key zone held => (zones key zone held).elim (ordered.zones key zone) fun upTo => upTo
  published := ordered.published
  clearing := ordered.clearing
  calls := ordered.calls

/-! ## What each step keeps -/

private theorem Ordered.upsert (ordered : calls.Ordered) {eviction micros : Nat}
    {packet : SignedPacket dns} {handled : Handled dns}
    (found : handleMessage eviction calls.store.last micros calls.store.tables (.upsert packet) =
      .ok handled) :
    (calls.withTables handled.tables handled.last).Ordered ∧
      (handled.reply = .upserted true →
        (calls.withTables handled.tables handled.last).Kept packet) := by
  obtain ⟨handled', found', sound, -⟩ :=
    upsert_handledSoundly eviction calls.store.last micros ordered.sound packet
  obtain rfl : handled' = handled := Except.ok.inj (found'.symm.trans found)
  obtain ⟨stored, readable⟩ := ordered.sound.readable packet.publicKeyBytes
  have outcome := handle_upsert readable found
  have kept : ∀ other, calls.Kept other →
      (calls.withTables handled'.tables handled'.last).Kept other := by
    rintro other ⟨newest, held, notOlder⟩
    by_cases same : other.publicKeyBytes = packet.publicKeyBytes
    · rcases outcome with ⟨atLeast, -, now⟩ | ⟨-, -, unchanged⟩
      · rw [same, readable] at held
        have newer := (atLeast newest (Except.ok.inj held)).timestamp_le
        exact ⟨packet, same ▸ now, Nat.le_trans notOlder newer⟩
      · exact ⟨newest, by rw [← held, ← unchanged]; rfl, notOlder⟩
    · exact ⟨newest, (getPacket_handle_of_ne found same).trans held, notOlder⟩
  constructor
  · exact ⟨sound, ordered.zones, fun other inside => kept other (ordered.published other inside),
      fun id other waits => kept other (ordered.clearing id other waits), ordered.calls⟩
  · intro updated
    rcases outcome with ⟨-, -, now⟩ | ⟨-, refused, -⟩
    · exact ⟨packet, now, Nat.le_refl _⟩
    · rw [refused] at updated
      cases updated

private theorem Ordered.clear (ordered : calls.Ordered) {packet : SignedPacket dns} {now : Nat}
    (kept : calls.Kept packet) :
    ((calls.withCache (calls.store.cache.remove now packet.publicKeyBytes)).publish
      packet).Ordered where
  sound := ordered.sound
  zones := by
    intro key zone held other inside same
    obtain ⟨different, before⟩ := ZoneCache.holds_of_remove held
    rcases List.mem_cons.mp inside with rfl | old
    · exact absurd same.symm different
    · exact ordered.zones key zone before other old same
  published := by
    intro other inside
    rcases List.mem_cons.mp inside with rfl | old
    · exact kept
    · exact ordered.published other old
  clearing := ordered.clearing
  calls := fun id => (ordered.calls id).mono (List.subset_cons_self _ _)

private theorem Ordered.upTo_of_source (ordered : calls.Ordered) {now time : Nat} {query : Query}
    (answered : source calls.store.cache now query = some time) :
    UpTo calls.published query.pubkey time := by
  obtain ⟨zone, found, rfl⟩ := Option.map_eq_some_iff.mp answered
  exact ordered.zones _ zone (ZoneCache.holds_of_find found)

private theorem Ordered.upTo_of_stored (ordered : calls.Ordered) {query : Query}
    {packet : SignedPacket dns} (found : calls.store.tables.getPacket query.pubkey =
      .ok (some packet)) : UpTo calls.published query.pubkey packet.timestamp := by
  intro older inside same
  obtain ⟨newest, held, notOlder⟩ := ordered.published older inside
  rw [same, found] at held
  cases held
  exact notOlder

private theorem Ordered.unpublished_of_absent (ordered : calls.Ordered) {query : Query}
    (absent : (calls.store.tables.getPacket query.pubkey :
      Except _ (Option (SignedPacket dns))) = .ok none) :
    ∀ packet ∈ calls.published, packet.publicKeyBytes ≠ query.pubkey := by
  intro older inside same
  obtain ⟨newest, held, -⟩ := ordered.published older inside
  rw [same, absent] at held
  cases held

private theorem Ordered.fail (ordered : calls.Ordered) {query : Query}
    {since : List (SignedPacket dns)} (result : Except ProtoError (Option (RecordSet Data))) :
    (calls.goOn id (.resolved query since ⟨result, none⟩)).Ordered :=
  ordered.goOn (fun _ answered => by cases answered) (by simp)

private theorem Ordered.lookup (ordered : calls.Ordered) {query : Query}
    {since : List (SignedPacket dns)} (waits : calls.calls id = .lookingUp query since)
    (now : Nat) (hit : Option (RecordSet Data)) :
    ((calls.withCache (calls.store.cache.touch query.pubkey)).goOn id (match hit with
      | some rset => .resolved query since ⟨.ok (some rset), source calls.store.cache now query⟩
      | none => .getting query since)).Ordered := by
  have subset : since ⊆ calls.published := ordered.consistent waits
  have touched : (calls.withCache (calls.store.cache.touch query.pubkey)).Ordered :=
    ordered.withCache fun key zone held => .inl (ZoneCache.holds_of_touch held)
  cases hit with
  | some rset =>
      exact touched.goOn (fun time answered => (ordered.upTo_of_source answered).subset subset)
        (by simp)
  | none => exact touched.goOn subset (by simp)

private theorem Ordered.get (ordered : calls.Ordered) {query : Query}
    {since : List (SignedPacket dns)} (waits : calls.calls id = .getting query since)
    {stored : Option (SignedPacket dns)}
    (found : calls.store.tables.getPacket query.pubkey = .ok stored) :
    (calls.goOn id (match stored with
      | some packet => .storing query since packet
      | none => .asking query since)).Ordered := by
  have subset : since ⊆ calls.published := ordered.consistent waits
  cases stored with
  | some packet =>
      exact ordered.goOn ⟨ordered.sound.publicKeyBytes_eq found,
        (ordered.upTo_of_stored found).subset subset⟩ (by simp)
  | none =>
      exact ordered.goOn
        (fun packet inside => ordered.unpublished_of_absent found packet (subset inside)) (by simp)

section Steps

variable [DecidableEq Data] [Hickory] [Encodings] {decoder : MessageDecoder Data}
  {eviction now : Nat} {query : Query}
  {since : List (SignedPacket dns)} {packet : SignedPacket dns}

private theorem Ordered.withZone (ordered : calls.Ordered) {cache : ZoneCache caches Data}
    (fresh : UpTo calls.published packet.publicKeyBytes packet.timestamp)
    (zones : ∀ key zone, cache.Holds key zone → calls.store.cache.Holds key zone ∨
      (key = packet.publicKeyBytes ∧ CachedZone.fromSignedPacket decoder packet = .ok zone)) :
    (calls.withCache cache).Ordered := by
  apply ordered.withCache
  intro key zone held
  rcases zones key zone held with before | ⟨rfl, parsed⟩
  · exact .inl before
  · right
    rw [ZoneCache.timestamp_fromSignedPacket parsed]
    exact fresh

private theorem Ordered.store (ordered : calls.Ordered) {cache : ZoneCache caches Data}
    (waits : calls.calls id = .storing query since packet)
    (fresh : ¬ calls.Overtaken (.store id now))
    (inserted : calls.store.cache.insert decoder packet = .ok cache)
    (answer : Except ProtoError (Option (RecordSet Data))) :
    ((calls.withCache (cache.touch packet.publicKeyBytes)).goOn id
      (.resolved query since ⟨answer, source cache now query⟩)).Ordered := by
  obtain ⟨own, upTo⟩ := ordered.consistent waits
  have cached : (calls.withCache (cache.touch packet.publicKeyBytes)).Ordered := by
    by_cases recent : UpTo calls.published packet.publicKeyBytes packet.timestamp
    · exact ordered.withZone recent fun _ _ held =>
        ZoneCache.holds_of_insert inserted (ZoneCache.holds_of_touch held)
    · -- only a zone of a newer packet keeps the old one from being cached
      rcases ZoneCache.insert_cases inserted with ⟨rfl, -⟩ | ⟨zone, -, notNewer, -⟩
      · exact ordered.withCache fun _ _ held => .inl (ZoneCache.holds_of_touch held)
      · exact absurd ⟨packet, congrArg Call.fetched waits, recent, notNewer⟩ fresh
  refine cached.goOn ?_ (by simp)
  intro time answered
  obtain ⟨zone, found, rfl⟩ := Option.map_eq_some_iff.mp answered
  obtain ⟨zone', found', notOlder⟩ := ZoneCache.find_of_insert inserted now
  rw [own, found] at found'
  cases found'
  exact upTo.later notOlder

private theorem Ordered.cache (ordered : calls.Ordered) {cache : ZoneCache caches Data}
    {answer : Option (RecordSet Data)} (waits : calls.calls id = .caching query since packet)
    (fresh : ¬ calls.Overtaken (.cache id now))
    (inserted : calls.store.cache.insertAndResolveDht decoder now packet query.name
      query.recordType = .ok (answer, cache)) :
    ((calls.withCache cache).goOn id
      (.resolved query since ⟨.ok answer, some packet.timestamp⟩)).Ordered := by
  obtain ⟨own, upTo⟩ := ordered.consistent waits
  have recent : UpTo calls.published packet.publicKeyBytes packet.timestamp := by
    by_contra overtaken
    exact fresh ⟨packet, congrArg Call.fetched waits, overtaken⟩
  have cached : (calls.withCache cache).Ordered :=
    ordered.withZone recent fun _ _ held => ZoneCache.holds_of_insertAndResolveDht inserted held
  refine cached.goOn ?_ (by simp)
  rintro time ⟨⟩
  exact upTo

private theorem Ordered.next_insert (ordered : calls.Ordered)
    (stepped : calls.next decoder eviction (.insert id packet) = some after) : after.Ordered := by
  simp only [Calls.next] at stepped
  split at stepped <;> cases stepped
  exact ordered.goOn trivial (by simp)

private theorem Ordered.next_upsert (ordered : calls.Ordered) {micros : Nat}
    (stepped : calls.next decoder eviction (.upsert id micros) = some after) : after.Ordered := by
  simp only [Calls.next] at stepped
  split at stepped
  next packet waits =>
    split at stepped
    next => cases stepped
    next handled found =>
      cases stepped
      obtain ⟨kept, accepted⟩ := ordered.upsert found
      split
      next updated =>
        refine kept.goOn trivial ?_
        rintro other same
        cases same
        exact accepted updated
      next => exact kept.goOn trivial (by simp)
  next => cases stepped

private theorem Ordered.next_clear (ordered : calls.Ordered)
    (stepped : calls.next decoder eviction (.clear id now) = some after) : after.Ordered := by
  simp only [Calls.next] at stepped
  split at stepped
  next packet waits =>
    cases stepped
    exact (ordered.clear (ordered.clearing id packet waits)).goOn trivial (by simp)
  next => cases stepped

private theorem Ordered.next_resolve (ordered : calls.Ordered)
    (stepped : calls.next decoder eviction (.resolve id query) = some after) : after.Ordered := by
  simp only [Calls.next] at stepped
  split at stepped <;> cases stepped
  exact ordered.goOn (List.Subset.refl _) (by simp)

private theorem Ordered.next_lookup (ordered : calls.Ordered)
    (stepped : calls.next decoder eviction (.lookup id now) = some after) : after.Ordered := by
  simp only [Calls.next] at stepped
  split at stepped
  next query since waits =>
    cases stepped
    exact ordered.lookup waits now _
  next => cases stepped

private theorem Ordered.next_get (ordered : calls.Ordered)
    (stepped : calls.next decoder eviction (.get id) = some after) : after.Ordered := by
  simp only [Calls.next] at stepped
  split at stepped
  next query since waits =>
    split at stepped <;> cases stepped
    next packet found => exact ordered.get waits found
    next found => exact ordered.get waits found
  next => cases stepped

private theorem Ordered.next_store (ordered : calls.Ordered)
    (stepped : calls.next decoder eviction (.store id now) = some after)
    (fresh : ¬ calls.Overtaken (.store id now)) : after.Ordered := by
  simp only [Calls.next] at stepped
  split at stepped
  next query since packet waits =>
    split at stepped <;> cases stepped
    next => exact ordered.fail _
    next cache inserted => exact ordered.store waits fresh inserted _
  next => cases stepped

private theorem Ordered.next_ask (ordered : calls.Ordered) {found : Option (SignedPacket dns)}
    (stepped : calls.next decoder eviction (.ask id found) = some after) : after.Ordered := by
  simp only [Calls.next] at stepped
  split at stepped
  next query since waits =>
    split at stepped
    next =>
      cases stepped
      exact ordered.fail _
    next packet =>
      split at stepped <;> cases stepped
      next own =>
        have unpublished := ordered.consistent waits
        exact ordered.goOn
          ⟨own, fun older inside same => absurd same (unpublished older inside)⟩ (by simp)
  next => cases stepped

private theorem Ordered.next_cache (ordered : calls.Ordered)
    (stepped : calls.next decoder eviction (.cache id now) = some after)
    (fresh : ¬ calls.Overtaken (.cache id now)) : after.Ordered := by
  simp only [Calls.next] at stepped
  split at stepped
  next query since packet waits =>
    split at stepped <;> cases stepped
    next => exact ordered.fail _
    next answer cache inserted => exact ordered.cache waits fresh inserted
  next => cases stepped

private theorem Ordered.next (ordered : calls.Ordered) {step : CallStep dns}
    (stepped : calls.next decoder eviction step = some after)
    (fresh : ¬ calls.Overtaken step) : after.Ordered := by
  cases step with
  | insert id packet => exact ordered.next_insert stepped
  | upsert id micros => exact ordered.next_upsert stepped
  | clear id now => exact ordered.next_clear stepped
  | resolve id query => exact ordered.next_resolve stepped
  | lookup id now => exact ordered.next_lookup stepped
  | get id => exact ordered.next_get stepped
  | store id now => exact ordered.next_store stepped fresh
  | ask id found => exact ordered.next_ask stepped
  | cache id now => exact ordered.next_cache stepped fresh

/-- As long as no resolve call caches a packet after a newer one was published, no query that is
asked after a packet was published is answered from an older packet. -/
theorem not_stale_of_reaches {cap : Nat} {positive : 0 < cap} {history : List (CallStep dns)}
    (reached : ((machine dns caches decoder eviction cap positive).restrict
      fun _ calls step => ¬ calls.Overtaken step).Reaches history calls)
    {answer : Answer Data} (answered : calls.calls id = .resolved query since answer)
    {time : Nat} (source : answer.source = some time) :
    ∀ published ∈ since, published.publicKeyBytes = query.pubkey →
      published.timestamp ≤ time := by
  have ordered : calls.Ordered := by
    apply reached.invariant (fun _ calls => calls.Ordered) (ordered_start cap positive)
    intro history calls step _ enabled ordered
    obtain ⟨after, stepped, same⟩ := Machine.exists_next_of_enabled enabled.1
    exact same ▸ ordered.next stepped enabled.2
  exact ordered.consistent answered time source

end Steps

open ZoneStore (zeroKey rootName zeroDecoder)

attribute [local instance] Reference.hickory Encodings.strict

def rootQuery : Query := ⟨zeroKey, rootName, .other 16⟩

abbrev zeroMachine : Machine (Calls lenient .unbounded Nat) (CallStep lenient) :=
  machine lenient .unbounded zeroDecoder 10 1 Nat.one_pos

/-- A first packet is published, and a query for it is under way. -/
def underWay : List (CallStep lenient) :=
  [.insert 0 (zeroPacket 1), .upsert 0 100, .clear 0 0, .resolve 1 rootQuery, .lookup 1 0, .get 1]

def republish : List (CallStep lenient) := [.insert 2 (zeroPacket 2), .upsert 2 200, .clear 2 0]

/-- The query is answered before the newer packet is published. -/
def inTime : List (CallStep lenient) :=
  underWay ++ [CallStep.store 1 0] ++ republish ++
    [CallStep.resolve 3 rootQuery, .lookup 3 0, .get 3, .store 3 0]

theorem not_stale_inTime :
    (((zeroMachine.runFrom zeroMachine.start inTime).calls 3).outcome =
        some (zeroKey, [zeroPacket 2, zeroPacket 1], some 2)) ∧
      ∀ published ∈ [zeroPacket 2, zeroPacket 1], published.publicKeyBytes = zeroKey →
        published.timestamp ≤ 2 := by
  have ended : ((zeroMachine.runFrom zeroMachine.start inTime).calls 3).outcome =
      some (zeroKey, [zeroPacket 2, zeroPacket 1], some 2) := by decide +kernel
  have reached : (zeroMachine.restrict fun _ calls step => ¬ calls.Overtaken step).Reaches inTime
      (zeroMachine.runFrom zeroMachine.start inTime) := Machine.reaches_runFrom (by decide +kernel)
  obtain ⟨query, answer, answered, same, source⟩ := Call.resolved_of_outcome ended
  exact ⟨ended, same ▸ not_stale_of_reaches reached answered source⟩

/-- The query goes on after the newer packet was published, and another query follows. -/
def tooLate : List (CallStep lenient) :=
  underWay ++ republish ++ [CallStep.store 1 0, .resolve 3 rootQuery, .lookup 3 0]

/-- The second query is answered from the older packet. -/
theorem stale_tooLate :
    zeroMachine.Reaches tooLate (zeroMachine.runFrom zeroMachine.start tooLate) ∧
      (((zeroMachine.runFrom zeroMachine.start tooLate).calls 3).outcome =
        some (zeroKey, [zeroPacket 2, zeroPacket 1], some 1)) ∧
      (zeroPacket 2).publicKeyBytes = zeroKey ∧ (zeroPacket 2).timestamp = 2 :=
  ⟨Machine.reaches_runFrom (by decide +kernel), by decide +kernel, by decide +kernel,
    by decide +kernel⟩

end Calls

end NexalinkTunnel.DnsServer
