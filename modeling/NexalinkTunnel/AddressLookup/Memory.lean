import NexalinkTunnel.Dns.EndpointInfo
import NexalinkTunnel.Lib.HashMap
import NexalinkTunnel.Lib.Outcome

/-!
Contract: the address lookup that an application fills by hand.

Owns `MemoryLookup`, what it holds after any calls, and when calls that augment an entry
combine as they are documented: direct addresses are added, relay URLs overwritten.
-/

namespace NexalinkTunnel.AddressLookup

open Lib Base Dns

variable {ed : Ed25519}

structure StoredEndpointInfo where
  data : EndpointData
  /-- In nanoseconds since the UNIX epoch. -/
  lastUpdated : Int
  distinct : data.addrs.Nodup
  fits : ∀ text ∈ data.userData, text.utf8ByteSize ≤ userDataMaxLength

structure MemoryLookup (ed : Ed25519) where
  endpoints : HashMap (EndpointId ed) StoredEndpointInfo
  provenance : String

structure Item (ed : Ed25519) where
  endpointInfo : EndpointInfo ed
  provenance : String
  /-- In microseconds since the UNIX epoch. -/
  lastUpdated : Option UInt64

def StoredEndpointInfo.ofInfo (info : EndpointInfo ed) (lastUpdated : Int) :
    StoredEndpointInfo :=
  ⟨info.data, lastUpdated, info.distinct, info.fits⟩

/-- What `add_endpoint_info` makes of an entry that is there. -/
def StoredEndpointInfo.augment (existing : StoredEndpointInfo) (info : EndpointInfo ed)
    (lastUpdated : Int) : StoredEndpointInfo where
  data := (existing.data.addAddrs info.data.addrs).setUserData info.data.userData
  lastUpdated := lastUpdated
  distinct := by
    rw [EndpointData.setUserData, EndpointData.addAddrs_addrs]
    exact nodup_eraseDups _
  fits := info.fits

def StoredEndpointInfo.info (stored : StoredEndpointInfo) (endpointId : EndpointId ed) :
    EndpointInfo ed :=
  ⟨endpointId, stored.data, stored.distinct, stored.fits⟩

namespace MemoryLookup

def withProvenance (provenance : String) : MemoryLookup ed := ⟨∅, provenance⟩

def new : MemoryLookup ed := withProvenance "memory_lookup"

/-- `set_endpoint_info` at a time, with the data of the previous entry. -/
def setEndpointInfo (lookup : MemoryLookup ed) (now : Int) (info : EndpointInfo ed) :
    MemoryLookup ed × Option EndpointData :=
  let previous := lookup.endpoints.lookup info.endpointId
  ({ lookup with endpoints := lookup.endpoints.insert info.endpointId (.ofInfo info now) },
    previous.map StoredEndpointInfo.data)

def addEndpointInfo (lookup : MemoryLookup ed) (now : Int) (info : EndpointInfo ed) :
    MemoryLookup ed :=
  match lookup.endpoints.lookup info.endpointId with
  | some existing =>
      { lookup with
        endpoints := lookup.endpoints.insert info.endpointId (existing.augment info now) }
  | none => { lookup with endpoints := lookup.endpoints.insert info.endpointId (.ofInfo info now) }

def getEndpointInfo (lookup : MemoryLookup ed) (endpointId : EndpointId ed) :
    Option (EndpointInfo ed) :=
  (lookup.endpoints.lookup endpointId).map fun stored => stored.info endpointId

/-- `remove_endpoint_info`, with the info that is removed. -/
def removeEndpointInfo (lookup : MemoryLookup ed) (endpointId : EndpointId ed) :
    MemoryLookup ed × Option (EndpointInfo ed) :=
  match lookup.endpoints.lookup endpointId with
  | some stored =>
      ({ lookup with endpoints := lookup.endpoints.erase endpointId },
        some (stored.info endpointId))
  | none => (lookup, none)

/-- The one result of the stream, if there is a stream. The system time before the epoch is
expected not to be. -/
def resolve (lookup : MemoryLookup ed) (endpointId : EndpointId ed) :
    Outcome Empty (Option (Item ed)) :=
  match lookup.endpoints.lookup endpointId with
  | some stored =>
      if stored.lastUpdated < 0 then .panicked
      else
        let lastUpdated := UInt64.ofNat (stored.lastUpdated.toNat / 1000)
        .ok (some ⟨stored.info endpointId, lookup.provenance, some lastUpdated⟩)
  | none => .ok none

/-- A lookup that answers tells what is stored. -/
theorem endpointInfo_of_resolve {lookup : MemoryLookup ed} {endpointId : EndpointId ed}
    {item : Option (Item ed)} (resolved : lookup.resolve endpointId = .ok item) :
    item.map Item.endpointInfo = lookup.getEndpointInfo endpointId := by
  unfold resolve at resolved
  unfold getEndpointInfo
  cases found : lookup.endpoints.lookup endpointId with
  | none =>
      rw [found] at resolved
      cases resolved
      rfl
  | some stored =>
      rw [found] at resolved
      dsimp only at resolved
      split at resolved
      · cases resolved
      · cases resolved
        rfl

private theorem removeEndpointInfo_eq (lookup : MemoryLookup ed) (endpointId : EndpointId ed) :
    lookup.removeEndpointInfo endpointId =
      ({ lookup with endpoints := lookup.endpoints.erase endpointId },
        lookup.getEndpointInfo endpointId) := by
  unfold removeEndpointInfo getEndpointInfo
  cases found : lookup.endpoints.lookup endpointId with
  | some stored => rfl
  | none =>
      have unchanged : lookup.endpoints.erase endpointId = lookup.endpoints := by
        refine AList.ext ?_
        exact List.kerase_of_notMem_keys (AList.lookup_eq_none.mp found)
      rw [unchanged]
      rfl

/-! ## What is stored after calls -/

inductive Op (ed : Ed25519) where
  | set (now : Int) (info : EndpointInfo ed)
  | add (now : Int) (info : EndpointInfo ed)
  | remove (endpointId : EndpointId ed)

def apply (lookup : MemoryLookup ed) : Op ed → MemoryLookup ed
  | .set now info => (lookup.setEndpointInfo now info).1
  | .add now info => lookup.addEndpointInfo now info
  | .remove endpointId => (lookup.removeEndpointInfo endpointId).1

def data (lookup : MemoryLookup ed) (endpointId : EndpointId ed) : Option EndpointData :=
  (lookup.endpoints.lookup endpointId).map StoredEndpointInfo.data

private theorem getEndpointInfo_data (lookup : MemoryLookup ed) (endpointId : EndpointId ed) :
    (lookup.getEndpointInfo endpointId).map EndpointInfo.data = lookup.data endpointId := by
  rw [getEndpointInfo, data, Option.map_map]
  rfl

/-- The data that an entry is made of, by an operation more. -/
def contribute (endpointId : EndpointId ed) (known : List EndpointData) :
    Op ed → List EndpointData
  | .set _ info => if endpointId = info.endpointId then [info.data] else known
  | .add _ info => if endpointId = info.endpointId then known ++ [info.data] else known
  | .remove other => if endpointId = other then [] else known

/-- An entry has the addresses of all the data it is made of, in order of first appearance, and
the user data of the last. -/
structure Combined (known : List EndpointData) (stored : Option EndpointData) : Prop where
  isSome_iff : stored.isSome ↔ known ≠ []
  addrs : stored.elim [] EndpointData.addrs = (known.flatMap EndpointData.addrs).eraseDups
  userData : stored.bind EndpointData.userData = known.getLast?.bind EndpointData.userData

variable {known : List EndpointData} {stored : Option EndpointData}

theorem combined_nil : Combined [] none where
  isSome_iff := by simp
  addrs := rfl
  userData := rfl

theorem combined_singleton (data : EndpointData) (distinct : data.addrs.Nodup) :
    Combined [data] (some data) where
  isSome_iff := by simp
  addrs := by simp [eraseDups_of_nodup distinct]
  userData := rfl

private theorem Combined.augment {existing : EndpointData}
    (combined : Combined known (some existing)) (data : EndpointData) : Combined (known ++ [data])
      (some ((existing.addAddrs data.addrs).setUserData data.userData)) where
  isSome_iff := by simp
  addrs := by
    have before : existing.addrs = (known.flatMap EndpointData.addrs).eraseDups := combined.addrs
    rw [Option.elim_some, EndpointData.setUserData, EndpointData.addAddrs_addrs,
      List.flatMap_append, List.flatMap_singleton, eraseDups_append, eraseDups_append, before,
      eraseDups_of_nodup (nodup_eraseDups _)]
  userData := by simp [EndpointData.setUserData]

variable {lookup : MemoryLookup ed} {endpointId : EndpointId ed}

private theorem combined_data (lookup : MemoryLookup ed) (endpointId : EndpointId ed) :
    Combined (lookup.data endpointId).toList (lookup.data endpointId) := by
  unfold data
  cases lookup.endpoints.lookup endpointId with
  | none => exact combined_nil
  | some stored => exact combined_singleton stored.data stored.distinct

private theorem combined_add (combined : Combined known (lookup.data endpointId)) (now : Int)
    (info : EndpointInfo ed) (same : endpointId = info.endpointId) :
    Combined (known ++ [info.data]) ((lookup.addEndpointInfo now info).data endpointId) := by
  subst same
  unfold data at combined ⊢
  unfold addEndpointInfo
  cases found : lookup.endpoints.lookup info.endpointId with
  | none =>
      rw [found] at combined
      have unknown : known = [] := by simpa using combined.isSome_iff
      rw [unknown, AList.lookup_insert]
      exact combined_singleton info.data info.distinct
  | some existing =>
      rw [found] at combined
      rw [AList.lookup_insert]
      exact combined.augment info.data

private theorem data_add_of_ne (now : Int) {info : EndpointInfo ed}
    (other : endpointId ≠ info.endpointId) :
    (lookup.addEndpointInfo now info).data endpointId = lookup.data endpointId := by
  unfold data addEndpointInfo
  split <;> rw [AList.lookup_insert_ne other]

private theorem combined_apply (combined : Combined known (lookup.data endpointId)) (op : Op ed) :
    Combined (contribute endpointId known op) ((lookup.apply op).data endpointId) := by
  cases op with
  | set now info =>
      rw [contribute, apply, data, setEndpointInfo, HashMap.lookup_insert_eq_ite]
      split
      · exact combined_singleton info.data info.distinct
      · exact combined
  | add now info =>
      rw [contribute, apply]
      split
      next same => exact combined_add combined now info same
      next other =>
        rw [data_add_of_ne now other]
        exact combined
  | remove other =>
      rw [contribute, apply, data, removeEndpointInfo_eq, HashMap.lookup_erase_eq_ite]
      split
      · exact combined_nil
      · exact combined

private theorem combined_foldl (combined : Combined known (lookup.data endpointId))
    (ops : List (Op ed)) :
    Combined (ops.foldl (contribute endpointId) known)
      ((ops.foldl apply lookup).data endpointId) := by
  induction ops generalizing lookup known with
  | nil => exact combined
  | cons op ops inductionHypothesis => exact inductionHypothesis (combined_apply combined op)

/-- The relay URLs of the last data that has any. -/
def lastRelayUrls (known : List EndpointData) : List RelayUrl :=
  ((known.map EndpointData.relayUrls).reverse.find? fun urls => !urls.isEmpty).getD []

/-- New direct addresses are added to those already present, while the relay URLs are
overwritten. -/
structure CombinesAsDocumented (known : List EndpointData) (stored : Option EndpointData) :
    Prop where
  ipAddrs : stored.elim [] EndpointData.ipAddrs =
    (known.flatMap EndpointData.ipAddrs).eraseDups
  relayUrls : ∀ url, url ∈ stored.elim [] EndpointData.relayUrls ↔ url ∈ lastRelayUrls known

private theorem exists_of_mem_lastRelayUrls {url : RelayUrl} (inside : url ∈ lastRelayUrls known) :
    ∃ data ∈ known, url ∈ data.relayUrls := by
  unfold lastRelayUrls at inside
  cases found : (known.map EndpointData.relayUrls).reverse.find? fun urls => !urls.isEmpty with
  | none =>
      rw [found] at inside
      cases inside
  | some urls =>
      rw [found] at inside
      have listed := List.mem_reverse.mp (List.mem_of_find?_eq_some found)
      obtain ⟨data, contributed, rfl⟩ := List.mem_map.mp listed
      exact ⟨data, contributed, inside⟩

private theorem Combined.part (combined : Combined known stored) {Other : Type} [DecidableEq Other]
    {part : TransportAddr → Option Other} {view : EndpointData → List Other}
    (injective : ∀ left right value, part left = some value → part right = some value →
      left = right) (views : ∀ data, view data = data.addrs.filterMap part) :
    stored.elim [] view = (known.flatMap view).eraseDups := by
  obtain rfl : view = fun data => data.addrs.filterMap part := funext views
  calc stored.elim [] (fun data => data.addrs.filterMap part)
      = (stored.elim [] EndpointData.addrs).filterMap part := by cases stored <;> rfl
    _ = ((known.flatMap EndpointData.addrs).filterMap part).eraseDups := by
      rw [combined.addrs, filterMap_eraseDups injective]
    _ = (known.flatMap fun data => data.addrs.filterMap part).eraseDups := by
      rw [List.filterMap_flatMap]

private theorem Combined.ipAddrs (combined : Combined known stored) :
    stored.elim [] EndpointData.ipAddrs = (known.flatMap EndpointData.ipAddrs).eraseDups := by
  refine combined.part (fun left right ip foundLeft foundRight => ?_) fun data => rfl
  rw [EndpointData.eq_ip_of_asIp foundLeft, EndpointData.eq_ip_of_asIp foundRight]

private theorem Combined.relayUrls (combined : Combined known stored) :
    stored.elim [] EndpointData.relayUrls =
      (known.flatMap EndpointData.relayUrls).eraseDups := by
  refine combined.part (fun left right url foundLeft foundRight => ?_) fun data => rfl
  rw [EndpointData.eq_relay_of_asRelay foundLeft, EndpointData.eq_relay_of_asRelay foundRight]

private theorem Combined.combinesAsDocumented_iff (combined : Combined known stored) :
    CombinesAsDocumented known stored ↔
      ∀ data ∈ known, data.relayUrls ⊆ lastRelayUrls known := by
  have added : ∀ url, url ∈ stored.elim [] EndpointData.relayUrls ↔
      ∃ data ∈ known, url ∈ data.relayUrls := by
    intro url
    rw [combined.relayUrls, List.mem_eraseDups, List.mem_flatMap]
  constructor
  · intro documented data contributed url inside
    exact (documented.relayUrls url).mp ((added url).mpr ⟨data, contributed, inside⟩)
  · intro overwritten
    refine ⟨combined.ipAddrs, fun url => ?_⟩
    rw [added]
    constructor
    · rintro ⟨data, contributed, inside⟩
      exact overwritten data contributed inside
    · exact exists_of_mem_lastRelayUrls

def addAll (lookup : MemoryLookup ed) (calls : List (Int × EndpointInfo ed)) : MemoryLookup ed :=
  calls.foldl (fun lookup call => lookup.addEndpointInfo call.1 call.2) lookup

/-- The data stored for an endpoint before the calls and the data that the calls give for it. -/
def contributed (lookup : MemoryLookup ed) (calls : List (Int × EndpointInfo ed))
    (endpointId : EndpointId ed) : List EndpointData :=
  (lookup.data endpointId).toList ++
    ((calls.map Prod.snd).filter (endpointId = ·.endpointId)).map EndpointInfo.data

private theorem addAll_eq_foldl (lookup : MemoryLookup ed) (calls : List (Int × EndpointInfo ed)) :
    lookup.addAll calls = (calls.map fun call => Op.add call.1 call.2).foldl apply lookup := by
  rw [List.foldl_map]
  rfl

private theorem foldl_contribute_add (known : List EndpointData)
    (calls : List (Int × EndpointInfo ed)) :
    (calls.map fun call => Op.add call.1 call.2).foldl (contribute endpointId) known =
      known ++ ((calls.map Prod.snd).filter (endpointId = ·.endpointId)).map
        EndpointInfo.data := by
  induction calls generalizing known with
  | nil => simp
  | cons call calls inductionHypothesis =>
      rw [List.map_cons, List.foldl_cons, inductionHypothesis, List.map_cons, contribute]
      by_cases same : endpointId = call.2.endpointId
      · simp [same]
      · simp [same]

private theorem combined_addAll (lookup : MemoryLookup ed) (calls : List (Int × EndpointInfo ed))
    (endpointId : EndpointId ed) :
    Combined (lookup.contributed calls endpointId) ((lookup.addAll calls).data endpointId) := by
  rw [contributed, ← foldl_contribute_add, addAll_eq_foldl]
  exact combined_foldl (combined_data lookup endpointId) _

/-- Calls of `add_endpoint_info` combine as documented if and only if no data has a relay URL that
the last data with relay URLs does not have. -/
theorem addEndpointInfo_documented_iff (lookup : MemoryLookup ed)
    (calls : List (Int × EndpointInfo ed)) (endpointId : EndpointId ed) :
    CombinesAsDocumented (lookup.contributed calls endpointId)
        (((lookup.addAll calls).getEndpointInfo endpointId).map EndpointInfo.data) ↔
      ∀ data ∈ lookup.contributed calls endpointId,
        data.relayUrls ⊆ lastRelayUrls (lookup.contributed calls endpointId) := by
  rw [getEndpointInfo_data]
  exact (combined_addAll lookup calls endpointId).combinesAsDocumented_iff

def atRelay (url : RelayUrl) : EndpointInfo Relay.Protos.Crates.reference.ed25519 where
  endpointId := EndpointInfo.withSetting.endpointId
  data := ⟨[.relay url], none⟩
  distinct := List.nodup_singleton _
  fits := fun _ inside => (Option.not_mem_none _ inside).elim

def moves : List (Int × EndpointInfo Relay.Protos.Crates.reference.ed25519) :=
  [(0, atRelay ⟨"https://a"⟩), (1, atRelay ⟨"https://b"⟩)]

/-- The endpoint is still stored with the relay it left. -/
theorem moves_not_documented :
    ¬ CombinesAsDocumented (new.contributed moves (atRelay ⟨"https://b"⟩).endpointId)
      (((new.addAll moves).getEndpointInfo (atRelay ⟨"https://b"⟩).endpointId).map
        EndpointInfo.data) := by
  intro documented
  have kept := (documented.relayUrls ⟨"https://a"⟩).mp (by decide +kernel)
  revert kept
  decide +kernel

end MemoryLookup

end NexalinkTunnel.AddressLookup
