import NexalinkTunnel.Socket.MappedAddrs

/-!
Contract: network paths as QUIC knows them.

Owns the translation of a path into a remote and a local IP address, and the way
back through the maps of mapped addresses.

Does not own: the maps, and which addresses count as mapped.

## One space for two kinds of addresses

A relay or a custom path is translated into an address of its own that the maps
remember. An IP path is translated into its own addresses, as they are. So the way
back has to tell from the remote address alone what it is: an IPv6 address in one
of the three ranges is taken for a mapped one, also where it is the remote of an
IP path.
-/

namespace NexalinkTunnel.Socket

open Lib Base

variable {ed : Ed25519}

/-- `noq::FourTuple`. It stores both addresses as given. -/
structure NoqFourTuple where
  remote : SocketAddr
  localIp : Option IpAddr

def toTransportAddr (addr : SocketAddr)
    (relayAddrs : AddrMap (RelayUrl × EndpointId ed) RelayMappedAddr)
    (customAddrs : AddrMap CustomAddr CustomMappedAddr) : Option (Addr ed) :=
  match MultipathMappedAddr.fromSocketAddr addr with
  | .mixed _ => none
  | .relay relayMappedAddr =>
      match relayAddrs.lookup.lookup relayMappedAddr with
      | some parts => some (.relay parts.1 parts.2)
      | none => none
  | .custom customMappedAddr =>
      match customAddrs.lookup.lookup customMappedAddr with
      | some customAddr => some (.custom customAddr)
      | none => none
  | .ip addr => some (Addr.fromSocketAddr addr)

def LocalTransportAddr.fromNoqLocalIp (noqLocalIp : Option IpAddr) (remoteAddr : Addr ed)
    (customAddrs : AddrMap CustomAddr CustomMappedAddr) : LocalTransportAddr :=
  match remoteAddr with
  | .relay url _ => .relay url
  | .ip _ => .ip noqLocalIp
  | .custom _ =>
      .custom ((noqLocalIp.bind CustomMappedAddr.tryFromIpAddr).bind fun customMappedAddr =>
        customAddrs.lookup.lookup customMappedAddr)

namespace FourTuple

def fromNoq (noqFourTuple : NoqFourTuple)
    (relayAddrs : AddrMap (RelayUrl × EndpointId ed) RelayMappedAddr)
    (customAddrs : AddrMap CustomAddr CustomMappedAddr) : Option (FourTuple ed) := do
  let remote ← toTransportAddr noqFourTuple.remote relayAddrs customAddrs
  let localAddr := LocalTransportAddr.fromNoqLocalIp noqFourTuple.localIp remote customAddrs
  return new remote localAddr

def toNoqFourTuple (path : FourTuple ed) (naming : Naming ed) : NoqFourTuple × Naming ed :=
  match path with
  | .ip remote localIp => (⟨remote, localIp⟩, naming)
  | .relay url endpointId =>
      let got := naming.get .relay (url, endpointId)
      (⟨got.1.privateSocketAddr, none⟩, got.2)
  | .custom remote none =>
      let got := naming.get .custom remote
      (⟨got.1.privateSocketAddr, none⟩, got.2)
  | .custom remote (some localAddr) =>
      let gotRemote := naming.get .custom remote
      let gotLocal := gotRemote.2.get .custom localAddr
      (⟨gotRemote.1.privateSocketAddr, some gotLocal.1.privateSocketAddr.ip⟩, gotLocal.2)

/-- What a path is translated into and back, with the maps after the first translation. -/
def thereAndBack (path : FourTuple ed) (naming : Naming ed) : Option (FourTuple ed) :=
  let there := path.toNoqFourTuple naming
  fromNoq there.1 there.2.maps.relayAddrs there.2.maps.customAddrs

/-- An IP remote is canonical and has neither a flow label nor a scope. -/
def Canonical : FourTuple ed → Prop
  | .ip (.v6 octets _ flowinfo scopeId) _ =>
      (IpAddr.v6 octets).toCanonical = .v6 octets ∧ flowinfo = 0 ∧ scopeId = 0
  | _ => True

/-- The remote is an IPv6 address in the range of a kind of mapped addresses. -/
def Disguised : FourTuple ed → Prop
  | .ip (.v6 octets _ _ _) _ => ∃ kind : MappedKind, kind.Owns octets
  | _ => False

variable {naming : Naming ed}

private theorem toTransportAddr_relay {addr : RelayMappedAddr} {url : RelayUrl}
    {endpointId : EndpointId ed} (found : naming.lookup .relay addr = some (url, endpointId)) :
    toTransportAddr addr.privateSocketAddr naming.maps.relayAddrs naming.maps.customAddrs =
      some (.relay url endpointId) := by
  have parts : naming.maps.relayAddrs.lookup.lookup addr = some (url, endpointId) := found
  simp only [toTransportAddr, MultipathMappedAddr.fromSocketAddr_privateSocketAddr,
    MultipathMappedAddr.ofMapped, parts]

theorem toTransportAddr_custom {addr : CustomMappedAddr} {customAddr : CustomAddr}
    (found : naming.lookup .custom addr = some customAddr) :
    toTransportAddr addr.privateSocketAddr naming.maps.relayAddrs naming.maps.customAddrs =
      some (.custom customAddr) := by
  have stored : naming.maps.customAddrs.lookup.lookup addr = some customAddr := found
  simp only [toTransportAddr, MultipathMappedAddr.fromSocketAddr_privateSocketAddr,
    MultipathMappedAddr.ofMapped, stored]

private theorem fromNoqLocalIp_custom {addr : CustomMappedAddr} {customAddr : CustomAddr}
    (found : naming.lookup .custom addr = some customAddr) (remote : CustomAddr) :
    LocalTransportAddr.fromNoqLocalIp (some addr.privateSocketAddr.ip)
        (.custom remote : Addr ed) naming.maps.customAddrs = .custom (some customAddr) := by
  have stored : naming.maps.customAddrs.lookup.lookup addr = some customAddr := found
  simp only [LocalTransportAddr.fromNoqLocalIp, MappedAddr.privateSocketAddr, SocketAddr.new,
    SocketAddr.ip, CustomMappedAddr.tryFromIpAddr, Option.bind_some, MappedAddr.tryFrom_ip, stored]

private theorem toTransportAddr_of_owns
    {relayAddrs : AddrMap (RelayUrl × EndpointId ed) RelayMappedAddr}
    {customAddrs : AddrMap CustomAddr CustomMappedAddr} {kind : MappedKind}
    {octets : BitVec 128} (owned : kind.Owns octets) (port : UInt16)
    (flowinfo scopeId : UInt32) (addr : SocketAddr) :
    toTransportAddr (.v6 octets port flowinfo scopeId) relayAddrs customAddrs ≠
      some (.ip addr) := by
  have classified := MultipathMappedAddr.fromSocketAddr_ip (⟨octets, owned⟩ : MappedAddr kind)
    port flowinfo scopeId
  simp only at classified
  rw [toTransportAddr, classified]
  cases kind with
  | endpointId => simp [MultipathMappedAddr.ofMapped]
  | relay =>
      simp only [MultipathMappedAddr.ofMapped]
      split <;> simp
  | custom =>
      simp only [MultipathMappedAddr.ofMapped]
      split <;> simp

private theorem thereAndBack_ip_v4 (octets : BitVec 32) (port : UInt16) (localIp : Option IpAddr) :
    (FourTuple.ip (.v4 octets port) localIp).thereAndBack naming =
      some (.ip (.v4 octets port) localIp) :=
  rfl

private theorem thereAndBack_ip_v6 {octets : BitVec 128}
    (canonical : (IpAddr.v6 octets).toCanonical = .v6 octets) (port : UInt16)
    (localIp : Option IpAddr) :
    (FourTuple.ip (.v6 octets port 0 0) localIp).thereAndBack naming =
        some (.ip (.v6 octets port 0 0) localIp) ↔
      ¬ ∃ kind : MappedKind, kind.Owns octets := by
  constructor
  · rintro same ⟨kind, owned⟩
    simp only [thereAndBack, toNoqFourTuple, fromNoq, Option.bind_eq_bind,
      Option.bind_eq_some_iff] at same
    obtain ⟨remote, translated, same⟩ := same
    -- the variant of a path follows its remote
    cases remote with
    | ip addr => exact toTransportAddr_of_owns owned port 0 0 addr translated
    | relay url endpointId => simp [new] at same
    | custom customAddr => simp [new, LocalTransportAddr.fromNoqLocalIp] at same
  · intro outside
    have outsideAll : ∀ kind : MappedKind, ¬ kind.Owns octets := not_exists.mp outside
    simp only [thereAndBack, toNoqFourTuple, fromNoq, toTransportAddr,
      MultipathMappedAddr.fromSocketAddr_of_not_owns outsideAll, Addr.fromSocketAddr, canonical,
      SocketAddr.new]
    rfl

private theorem thereAndBack_relay (sound : naming.Sound) {url : RelayUrl}
    {endpointId : EndpointId ed}
    (few : (naming.get .relay (url, endpointId)).2.generated .relay < 2 ^ 64) :
    (FourTuple.relay url endpointId).thereAndBack naming = some (.relay url endpointId) := by
  have found : (naming.get .relay (url, endpointId)).2.lookup .relay
      (naming.get .relay (url, endpointId)).1 = some (url, endpointId) := by
    apply (sound.get .relay (url, endpointId)).lookup_of_answered few
    simp [Naming.answers_get]
  simp only [thereAndBack, toNoqFourTuple, fromNoq, toTransportAddr_relay found]
  rfl

private theorem thereAndBack_custom_none (sound : naming.Sound) {remote : CustomAddr}
    (few : (naming.get .custom remote).2.generated .custom < 2 ^ 64) :
    (FourTuple.custom remote none : FourTuple ed).thereAndBack naming =
      some (.custom remote none) := by
  have found : (naming.get .custom remote).2.lookup .custom (naming.get .custom remote).1 =
      some remote := by
    apply (sound.get .custom remote).lookup_of_answered few
    simp [Naming.answers_get]
  simp only [thereAndBack, toNoqFourTuple, fromNoq, toTransportAddr_custom found]
  rfl

private theorem thereAndBack_custom_some (sound : naming.Sound) {remote localAddr : CustomAddr}
    (few : ((naming.get .custom remote).2.get .custom localAddr).2.generated .custom < 2 ^ 64) :
    (FourTuple.custom remote (some localAddr) : FourTuple ed).thereAndBack naming =
      some (.custom remote (some localAddr)) := by
  -- the second `get` keeps what the first one returned
  have after := (sound.get .custom remote).get .custom localAddr
  have remoteFound : ((naming.get .custom remote).2.get .custom localAddr).2.lookup .custom
      (naming.get .custom remote).1 = some remote := by
    apply after.lookup_of_answered few
    simp [Naming.answers_get]
  have localFound : ((naming.get .custom remote).2.get .custom localAddr).2.lookup .custom
      ((naming.get .custom remote).2.get .custom localAddr).1 = some localAddr := by
    apply after.lookup_of_answered few
    simp [Naming.answers_get]
  simp only [thereAndBack, toNoqFourTuple, fromNoq, toTransportAddr_custom remoteFound]
  simp only [Option.bind_eq_bind, Option.bind_some, fromNoqLocalIp_custom localFound]
  rfl

/-- A path comes back from its translation exactly unless its remote is an IPv6 address in one
of the ranges of mapped addresses, whatever the maps hold. -/
theorem thereAndBack_eq_some_iff {calls : List (Call ed)} {path : FourTuple ed}
    (reached : (Naming.machine ed).Reaches calls naming) (canonical : path.Canonical)
    (few : ∀ kind, (path.toNoqFourTuple naming).2.generated kind < 2 ^ 64) :
    path.thereAndBack naming = some path ↔ ¬ path.Disguised := by
  have sound := Naming.sound_of_reaches reached
  match path with
  | .ip (.v4 octets port) localIp =>
      exact iff_of_true (thereAndBack_ip_v4 octets port localIp) id
  | .ip (.v6 octets port flowinfo scopeId) localIp =>
      obtain ⟨canonical, rfl, rfl⟩ := canonical
      exact thereAndBack_ip_v6 canonical port localIp
  | .relay url endpointId => exact iff_of_true (thereAndBack_relay sound (few .relay)) id
  | .custom remote none => exact iff_of_true (thereAndBack_custom_none sound (few .custom)) id
  | .custom remote (some localAddr) =>
      exact iff_of_true (thereAndBack_custom_some sound (few .custom)) id

/-- A custom path with a local address, both of them not named yet. -/
def customPath : FourTuple Relay.Protos.Crates.reference.ed25519 :=
  .custom ⟨7, .heap [1]⟩ (some ⟨7, .heap [2]⟩)

theorem thereAndBack_customPath : customPath.thereAndBack Naming.start = some customPath := by
  have few : ∀ kind, (customPath.toNoqFourTuple Naming.start).2.generated kind < 2 ^ 64 := by
    intro kind
    cases kind <;> decide
  have canonical : customPath.Canonical := trivial
  exact (thereAndBack_eq_some_iff .start canonical few).mpr id

/-- The IP path to `[fd15:70a:510b::1]:443`. -/
def uniqueLocalPath : FourTuple Relay.Protos.Crates.reference.ed25519 :=
  .ip (.v6 0xfd15070a510b00000000000000000001#128 443 0 0) none

/-- The remote is taken for the mapped address of an endpoint, which no transport has. -/
theorem uniqueLocalPath_lost :
    uniqueLocalPath.Canonical ∧
      (∀ kind, (uniqueLocalPath.toNoqFourTuple Naming.start).2.generated kind < 2 ^ 64) ∧
      uniqueLocalPath.thereAndBack Naming.start = none := by
  refine ⟨⟨by decide, rfl, rfl⟩, ?_, by decide⟩
  intro kind
  cases kind <;> decide

end FourTuple

end NexalinkTunnel.Socket
