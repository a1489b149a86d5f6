import Mathlib.Data.Finset.Lattice.Lemmas
import NexalinkTunnel.AddressLookup.Services
import NexalinkTunnel.Lib.AdditionLog

/-!
Contract: the addresses that the data of an endpoint lists.

Owns the constructors of `EndpointData`, its operations, with the sets by which they find
duplicates, and which addresses are listed in which order after any of them.

Does not own: filters, which are with the services that apply them.
-/

namespace NexalinkTunnel.AddressLookup

open Lib Base

section Dedup

variable {Item : Type} [DecidableEq Item]

/-- The item is pushed to the list and inserted into the set, unless the set has it. -/
def pushUnseen (state : List Item × Finset Item) (item : Item) : List Item × Finset Item :=
  if item ∈ state.2 then state else (state.1 ++ [item], insert item state.2)

/-- The items that `dedup` retains and the set that it returns. -/
def dedup (items : List Item) : List Item × Finset Item := items.foldl pushUnseen ([], ∅)

private theorem pushUnseen_toFinset (items : List Item) (item : Item) :
    pushUnseen (items, items.toFinset) item =
      (pushNew items item, (pushNew items item).toFinset) := by
  by_cases inside : item ∈ items
  · simp [pushUnseen, pushNew, inside]
  · simp [pushUnseen, pushNew, inside, List.toFinset_append]

theorem foldl_pushUnseen (items added : List Item) :
    added.foldl pushUnseen (items, items.toFinset) =
      (added.foldl pushNew items, (added.foldl pushNew items).toFinset) := by
  induction added generalizing items with
  | nil => rfl
  | cons item added inductionHypothesis =>
      rw [List.foldl_cons, pushUnseen_toFinset, inductionHypothesis, List.foldl_cons]

theorem dedup_eq (items : List Item) :
    dedup items = (items.eraseDups, items.eraseDups.toFinset) := by
  rw [eraseDups_eq_foldl]
  exact foldl_pushUnseen [] items

end Dedup

structure BTreeSet (Item : Type) where
  items : List Item
  distinct : items.Nodup

namespace EndpointData

/-- The constructors. An iterator is given by the addresses it yields. -/
inductive Source where
  | default
  | new (addrs : List TransportAddr)
  | fromIter (addrs : List TransportAddr)
  | fromTransportAddrs (addrs : BTreeSet TransportAddr)
  | fromSocketAddrs (addrs : BTreeSet SocketAddr)
  /-- From the addresses of an `EndpointAddr`. -/
  | fromEndpointAddr (addrs : BTreeSet TransportAddr)

def Source.build : Source → EndpointData
  | .default => ⟨[], none⟩
  | .new addrs => ⟨(dedup addrs).1, none⟩
  | .fromIter addrs => ⟨(dedup addrs).1, none⟩
  | .fromTransportAddrs addrs => ⟨addrs.items, none⟩
  | .fromSocketAddrs addrs => ⟨addrs.items.map .ip, none⟩
  | .fromEndpointAddr addrs => ⟨addrs.items, none⟩

def addRelayUrl (data : EndpointData) (relayUrl : RelayUrl) : EndpointData :=
  let addr := TransportAddr.relay relayUrl
  if addr ∈ data.addrs then data else { data with addrs := data.addrs ++ [addr] }

def addAddrs (data : EndpointData) (addrs : List TransportAddr) : EndpointData :=
  { data with addrs := (addrs.foldl pushUnseen (dedup data.addrs)).1 }

def addIpAddrs (data : EndpointData) (addresses : List SocketAddr) : EndpointData :=
  data.addAddrs (addresses.map .ip)

def isIp : TransportAddr → Bool
  | .ip _ => true
  | _ => false

def isRelay : TransportAddr → Bool
  | .relay _ => true
  | _ => false

def clearIpAddrs (data : EndpointData) : EndpointData :=
  { data with addrs := data.addrs.filter fun addr => !isIp addr }

def clearRelayUrls (data : EndpointData) : EndpointData :=
  { data with addrs := data.addrs.filter fun addr => !isRelay addr }

def asRelay : TransportAddr → Option RelayUrl
  | .relay url => some url
  | _ => none

def asIp : TransportAddr → Option SocketAddr
  | .ip addr => some addr
  | _ => none

def relayUrls (data : EndpointData) : List RelayUrl := data.addrs.filterMap asRelay

def ipAddrs (data : EndpointData) : List SocketAddr := data.addrs.filterMap asIp

theorem eq_relay_of_asRelay {addr : TransportAddr} {url : RelayUrl}
    (found : asRelay addr = some url) : addr = .relay url := by
  cases addr <;> cases found
  rfl

theorem eq_ip_of_asIp {addr : TransportAddr} {ip : SocketAddr} (found : asIp addr = some ip) :
    addr = .ip ip := by
  cases addr <;> cases found
  rfl

theorem addAddrs_addrs (data : EndpointData) (addrs : List TransportAddr) :
    (data.addAddrs addrs).addrs = (data.addrs ++ addrs).eraseDups := by
  rw [addAddrs, dedup_eq, foldl_pushUnseen, eraseDups_append]

private theorem addRelayUrl_addrs (data : EndpointData) (relayUrl : RelayUrl) :
    (data.addRelayUrl relayUrl).addrs = pushNew data.addrs (.relay relayUrl) := by
  unfold addRelayUrl pushNew
  dsimp only
  split <;> rfl

inductive Op where
  | addRelayUrl (relayUrl : RelayUrl)
  | addIpAddrs (addresses : List SocketAddr)
  | addAddrs (addrs : List TransportAddr)
  | clearIpAddrs
  | clearRelayUrls
  /-- Also `with_user_data`. -/
  | setUserData (userData : Option String)

def apply (data : EndpointData) : Op → EndpointData
  | .addRelayUrl relayUrl => data.addRelayUrl relayUrl
  | .addIpAddrs addresses => data.addIpAddrs addresses
  | .addAddrs addrs => data.addAddrs addrs
  | .clearIpAddrs => data.clearIpAddrs
  | .clearRelayUrls => data.clearRelayUrls
  | .setUserData userData => data.setUserData userData

def Source.addrs : Source → List TransportAddr
  | .default => []
  | .new addrs => addrs
  | .fromIter addrs => addrs
  | .fromTransportAddrs addrs => addrs.items
  | .fromSocketAddrs addrs => addrs.items.map .ip
  | .fromEndpointAddr addrs => addrs.items

def Op.log : Op → List (LogEntry TransportAddr)
  | .addRelayUrl relayUrl => [.add (.relay relayUrl)]
  | .addIpAddrs addresses => (addresses.map .ip).map .add
  | .addAddrs addrs => addrs.map .add
  | .clearIpAddrs => [.clear isIp]
  | .clearRelayUrls => [.clear isRelay]
  | .setUserData _ => []

private theorem build_addrs (source : Source) : source.build.addrs = source.addrs.eraseDups := by
  cases source with
  | default => rfl
  | new addrs => exact congrArg Prod.fst (dedup_eq addrs)
  | fromIter addrs => exact congrArg Prod.fst (dedup_eq addrs)
  | fromTransportAddrs addrs => exact (eraseDups_of_nodup addrs.distinct).symm
  | fromSocketAddrs addrs =>
      refine (eraseDups_of_nodup (addrs.distinct.map fun left right same => ?_)).symm
      cases same
      rfl
  | fromEndpointAddr addrs => exact (eraseDups_of_nodup addrs.distinct).symm

private theorem shows_build (source : Source) :
    Shows (source.addrs.map LogEntry.add) source.build.addrs := by
  rw [build_addrs, eraseDups_eq_foldl]
  exact Shows.nil.addAll source.addrs

variable {log : List (LogEntry TransportAddr)} {data : EndpointData}

private theorem shows_addAddrs (shows : Shows log data.addrs) (addrs : List TransportAddr) :
    Shows (log ++ addrs.map LogEntry.add) (data.addAddrs addrs).addrs := by
  -- the addresses that are there already have no duplicates to be removed
  rw [addAddrs_addrs, eraseDups_append, eraseDups_of_nodup shows.distinct]
  exact shows.addAll addrs

private theorem shows_apply (shows : Shows log data.addrs) (op : Op) :
    Shows (log ++ op.log) (data.apply op).addrs := by
  cases op with
  | addRelayUrl relayUrl =>
      rw [apply, addRelayUrl_addrs]
      exact shows.add _
  | addIpAddrs addresses => exact shows_addAddrs shows _
  | addAddrs addrs => exact shows_addAddrs shows addrs
  | clearIpAddrs => exact shows.clear isIp
  | clearRelayUrls => exact shows.clear isRelay
  | setUserData userData =>
      rw [Op.log, List.append_nil]
      exact shows

private theorem shows_foldl (shows : Shows log data.addrs) (ops : List Op) :
    Shows (log ++ ops.flatMap Op.log) (ops.foldl apply data).addrs := by
  induction ops generalizing log data with
  | nil => simpa using shows
  | cons op ops inductionHypothesis =>
      rw [List.flatMap_cons, ← List.append_assoc, List.foldl_cons]
      exact inductionHypothesis (shows_apply shows op)

/-- Whatever constructor made the data and whatever operations came after, the data lists the
addresses that were added since they were last cleared, each once, in the order of their first
additions since then. -/
theorem lists_first_additions (source : Source) (ops : List Op) :
    Shows (source.addrs.map LogEntry.add ++ ops.flatMap Op.log)
      (ops.foldl apply source.build).addrs :=
  shows_foldl (shows_build source) ops

end EndpointData

end NexalinkTunnel.AddressLookup
