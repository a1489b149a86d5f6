import NexalinkTunnel.Lib.HashMap
import NexalinkTunnel.Lib.Transition
import NexalinkTunnel.Relay.Protos.Common
import NexalinkTunnel.Socket.Transports

/-!
Contract: the mapped addresses under which QUIC knows endpoints, relay paths and
custom paths.

Owns the three generators with their process-wide counters, the classifier that
tells mapped addresses from IP addresses by their first eight octets, the two-way
maps of a socket, and the calls on them in any order.

Does not own: which paths are translated with them.

## Names and numbers

A mapped address is a fixed part for its kind and a number that the counter of the
kind gave. The fixed parts differ from kind to kind, so that the classifier never
takes one kind for another. Within a kind the numbers differ as long as the counter
has not come back to where it started, and then the two maps are inverse to each
other: each address names the one key it was generated for.
-/

namespace NexalinkTunnel.Socket

open Lib Base

def ipv6Octets (ip : BitVec 128) : Bytes := Bytes.putBe 16 ip.toNat

def ipv6FromOctets (octets : Bytes) : BitVec 128 := BitVec.ofNat 128 (Bytes.beNat octets)

private theorem ipv6Octets_ipv6FromOctets {octets : Bytes} (length : octets.length = 16) :
    ipv6Octets (ipv6FromOctets octets) = octets := by
  have small : Bytes.beNat octets < 2 ^ 128 := by
    have bound := Bytes.beNat_lt octets
    rw [length] at bound
    exact bound
  rw [ipv6Octets, ipv6FromOctets, BitVec.toNat_ofNat, Nat.mod_eq_of_lt small,
    Bytes.putBe_beNat length]

/-- The Prefix/L of all Unique Local Addresses. -/
def addrPrefixl : UInt8 := 0xfd

def addrGlobalId : Bytes := [0x15, 0x07, 0x0a, 0x51, 0x0b]

def mappedPort : UInt16 := 12345

inductive MappedKind where
  | endpointId
  | relay
  | custom
deriving DecidableEq, Repr

/-- `ENDPOINT_ID_SUBNET`, `RELAY_MAPPED_SUBNET` and `CUSTOM_MAPPED_SUBNET`. -/
def MappedKind.subnet : MappedKind → Bytes
  | .endpointId => [0x00, 0x00]
  | .relay => [0x00, 0x01]
  | .custom => [0x00, 0x03]

private theorem MappedKind.subnet_injective : Function.Injective MappedKind.subnet := by
  intro left right same
  cases left <;> cases right <;> first | rfl | simp [subnet] at same

@[simp] theorem MappedKind.subnet_length (kind : MappedKind) : kind.subnet.length = 2 := by
  cases kind <;> rfl

/-- The range of a kind: what its `TryFrom<Ipv6Addr>` checks. -/
def MappedKind.Owns (kind : MappedKind) (ip : BitVec 128) : Prop :=
  (ipv6Octets ip)[0]? = some addrPrefixl ∧ ((ipv6Octets ip).drop 1).take 5 = addrGlobalId ∧
    ((ipv6Octets ip).drop 6).take 2 = kind.subnet
deriving Decidable

theorem MappedKind.eq_of_owns {left right : MappedKind} {ip : BitVec 128} (leftOwns : left.Owns ip)
    (rightOwns : right.Owns ip) : left = right :=
  subnet_injective (leftOwns.2.2.symm.trans rightOwns.2.2)

/-- A mapped address. It is only made by `generate` and `try_from`, in the range of its kind. -/
structure MappedAddr (kind : MappedKind) where
  ip : BitVec 128
  owned : kind.Owns ip
deriving DecidableEq

abbrev EndpointIdMappedAddr := MappedAddr .endpointId
abbrev RelayMappedAddr := MappedAddr .relay
abbrev CustomMappedAddr := MappedAddr .custom

namespace MappedAddr

variable {kind : MappedKind}

/-- The octets that `generate` fills in, for the number that its counter gave. -/
def generatedOctets (kind : MappedKind) (counter : UInt64) : Bytes :=
  addrPrefixl :: addrGlobalId ++ kind.subnet ++ Bytes.putBe 8 counter.toNat

private theorem generatedOctets_length (counter : UInt64) :
    (generatedOctets kind counter).length = 16 := by
  simp [generatedOctets, addrGlobalId]

theorem ipv6Octets_generatedOctets (counter : UInt64) :
    ipv6Octets (ipv6FromOctets (generatedOctets kind counter)) = generatedOctets kind counter :=
  ipv6Octets_ipv6FromOctets (generatedOctets_length counter)

theorem owns_generatedOctets (counter : UInt64) :
    kind.Owns (ipv6FromOctets (generatedOctets kind counter)) := by
  unfold MappedKind.Owns
  rw [ipv6Octets_generatedOctets]
  cases kind <;> simp [generatedOctets, addrGlobalId, MappedKind.subnet]

def generate (counter : UInt64) : MappedAddr kind :=
  ⟨ipv6FromOctets (generatedOctets kind counter), owns_generatedOctets counter⟩

private theorem generate_injective : Function.Injective (generate : UInt64 → MappedAddr kind) := by
  intro left right same
  have octets := congrArg (fun addr => ipv6Octets addr.ip) same
  simp only [generate, ipv6Octets_generatedOctets] at octets
  have numbers := congrArg Bytes.beNat (List.append_cancel_left octets)
  rw [Bytes.beNat_putBe_of_lt left.toNat_lt, Bytes.beNat_putBe_of_lt right.toNat_lt] at numbers
  exact UInt64.toNat_inj.mp numbers

def privateSocketAddr (addr : MappedAddr kind) : SocketAddr :=
  SocketAddr.new (.v6 addr.ip) mappedPort

def tryFrom (ip : BitVec 128) : Option (MappedAddr kind) :=
  if owned : kind.Owns ip then some ⟨ip, owned⟩ else none

@[simp] theorem tryFrom_ip (addr : MappedAddr kind) : tryFrom addr.ip = some addr := by
  simp [tryFrom, addr.owned]

theorem tryFrom_eq_none {ip : BitVec 128} :
    (tryFrom ip : Option (MappedAddr kind)) = none ↔ ¬ kind.Owns ip := by
  unfold tryFrom
  split <;> simp [*]

private theorem tryFrom_ip_of_ne {other : MappedKind} (addr : MappedAddr other)
    (different : kind ≠ other) :
    (tryFrom addr.ip : Option (MappedAddr kind)) = none :=
  tryFrom_eq_none.mpr fun owned => different (MappedKind.eq_of_owns owned addr.owned)

end MappedAddr

def CustomMappedAddr.tryFromIpAddr : IpAddr → Option CustomMappedAddr
  | .v4 _ => none
  | .v6 ip => MappedAddr.tryFrom ip

/-- All the mapped and unmapped addresses that QUIC hands over. -/
inductive MultipathMappedAddr where
  | mixed (addr : EndpointIdMappedAddr)
  | relay (addr : RelayMappedAddr)
  | ip (addr : SocketAddr)
  | custom (addr : CustomMappedAddr)

namespace MultipathMappedAddr

def fromSocketAddr : SocketAddr → MultipathMappedAddr
  | .v4 octets port => .ip (.v4 octets port)
  | .v6 octets port flowinfo scopeId =>
      match MappedAddr.tryFrom octets with
      | some addr => .mixed addr
      | none =>
          match MappedAddr.tryFrom octets with
          | some addr => .relay addr
          | none =>
              match MappedAddr.tryFrom octets with
              | some addr => .custom addr
              | none => .ip (.v6 octets port flowinfo scopeId)

def ofMapped : {kind : MappedKind} → MappedAddr kind → MultipathMappedAddr
  | .endpointId, addr => .mixed addr
  | .relay, addr => .relay addr
  | .custom, addr => .custom addr

/-- The classifier takes every address in the range of a kind for an address of this kind;
neither the port nor the scope takes part. -/
theorem fromSocketAddr_ip {kind : MappedKind} (addr : MappedAddr kind) (port : UInt16)
    (flowinfo scopeId : UInt32) :
    fromSocketAddr (.v6 addr.ip port flowinfo scopeId) = ofMapped addr := by
  cases kind with
  | endpointId => simp only [fromSocketAddr, MappedAddr.tryFrom_ip, ofMapped]
  | relay =>
      have notMixed : (MappedAddr.tryFrom addr.ip : Option EndpointIdMappedAddr) = none :=
        MappedAddr.tryFrom_ip_of_ne addr (by decide)
      simp only [fromSocketAddr, notMixed, MappedAddr.tryFrom_ip, ofMapped]
  | custom =>
      have notMixed : (MappedAddr.tryFrom addr.ip : Option EndpointIdMappedAddr) = none :=
        MappedAddr.tryFrom_ip_of_ne addr (by decide)
      have notRelay : (MappedAddr.tryFrom addr.ip : Option RelayMappedAddr) = none :=
        MappedAddr.tryFrom_ip_of_ne addr (by decide)
      simp only [fromSocketAddr, notMixed, notRelay, MappedAddr.tryFrom_ip, ofMapped]

theorem fromSocketAddr_privateSocketAddr {kind : MappedKind} (addr : MappedAddr kind) :
    fromSocketAddr addr.privateSocketAddr = ofMapped addr :=
  fromSocketAddr_ip addr mappedPort 0 0

theorem fromSocketAddr_of_not_owns {octets : BitVec 128} {port : UInt16}
    {flowinfo scopeId : UInt32} (outside : ∀ kind : MappedKind, ¬ kind.Owns octets) :
    fromSocketAddr (.v6 octets port flowinfo scopeId) = .ip (.v6 octets port flowinfo scopeId) := by
  simp only [fromSocketAddr, MappedAddr.tryFrom_eq_none.mpr (outside _)]

end MultipathMappedAddr

structure AddrMap (Key Addr : Type) where
  addrs : HashMap Key Addr
  lookup : HashMap Addr Key

namespace AddrMap

variable {Key Addr : Type} [DecidableEq Key] [DecidableEq Addr]

def default : AddrMap Key Addr := ⟨∅, ∅⟩

/-- What the counter gives after a number of addresses: it starts at one and wraps around. -/
def counterAfter (generated : Nat) : UInt64 := UInt64.ofNat (1 + generated)

/-- `get`: the address of the key, generated with the number `counter` where it has none. The
last result says whether it was. -/
def get (generate : UInt64 → Addr) (map : AddrMap Key Addr) (counter : UInt64) (key : Key) :
    Addr × AddrMap Key Addr × Bool :=
  match map.addrs.lookup key with
  | some addr => (addr, map, false)
  | none =>
      let addr := generate counter
      (addr, ⟨map.addrs.insert key addr, map.lookup.insert addr key⟩, true)

private theorem get_of_found {generate : UInt64 → Addr} {map : AddrMap Key Addr} {counter : UInt64}
    {key : Key} {addr : Addr} (found : map.addrs.lookup key = some addr) :
    map.get generate counter key = (addr, map, false) := by
  simp only [get, found]

private theorem get_of_absent {generate : UInt64 → Addr} {map : AddrMap Key Addr} {counter : UInt64}
    {key : Key} (absent : map.addrs.lookup key = none) :
    map.get generate counter key =
      (generate counter, ⟨map.addrs.insert key (generate counter),
        map.lookup.insert (generate counter) key⟩, true) := by
  simp only [get, absent]

/-- The two directions are inverse to each other, and the addresses are among those that the
first `generated` numbers give. -/
structure Faithful (generate : UInt64 → Addr) (generated : Nat) (map : AddrMap Key Addr) :
    Prop where
  inverse : ∀ key addr, map.addrs.lookup key = some addr ↔ map.lookup.lookup addr = some key
  issued : ∀ key addr, map.addrs.lookup key = some addr →
    ∃ number < generated, addr = generate (counterAfter number)

variable {generate : UInt64 → Addr} {generated : Nat} {map : AddrMap Key Addr}

private theorem faithful_default : Faithful generate generated (default : AddrMap Key Addr) :=
  ⟨by simp [default], by simp [default]⟩

theorem Faithful.mono (faithful : Faithful generate generated map) {later : Nat}
    (more : generated ≤ later) : Faithful generate later map := by
  refine ⟨faithful.inverse, ?_⟩
  intro key addr found
  obtain ⟨number, small, same⟩ := faithful.issued key addr found
  exact ⟨number, lt_of_lt_of_le small more, same⟩

private theorem Faithful.key_eq (faithful : Faithful generate generated map) {left right : Key}
    {addr : Addr} (leftFound : map.addrs.lookup left = some addr)
    (rightFound : map.addrs.lookup right = some addr) : left = right := by
  have leftBack := (faithful.inverse left addr).mp leftFound
  have rightBack := (faithful.inverse right addr).mp rightFound
  exact Option.some.inj (leftBack.symm.trans rightBack)

omit [DecidableEq Key] [DecidableEq Addr] in
private theorem counterAfter_succ (generated : Nat) :
    counterAfter (generated + 1) = counterAfter generated + 1 := by
  simp [counterAfter, add_assoc]

private theorem counterAfter_ne {number generated : Nat} (earlier : number < generated)
    (few : generated < 2 ^ 64) : counterAfter number ≠ counterAfter generated := by
  intro same
  have numbers := congrArg UInt64.toNat same
  simp only [counterAfter, UInt64.toNat_ofNat'] at numbers
  omega

private theorem Faithful.fresh (faithful : Faithful generate generated map)
    (injective : Function.Injective generate) (few : generated < 2 ^ 64) (key : Key) :
    map.addrs.lookup key ≠ some (generate (counterAfter generated)) := by
  intro found
  obtain ⟨number, small, same⟩ := faithful.issued key _ found
  exact counterAfter_ne small few (injective same).symm

/-- Giving a new key the next address keeps the map faithful. -/
theorem Faithful.insert (faithful : Faithful generate generated map)
    (injective : Function.Injective generate) (few : generated < 2 ^ 64) {key : Key}
    (absent : map.addrs.lookup key = none) :
    Faithful generate (generated + 1)
      ⟨map.addrs.insert key (generate (counterAfter generated)),
        map.lookup.insert (generate (counterAfter generated)) key⟩ := by
  have unused := faithful.fresh injective few
  constructor
  · intro other addr
    rw [HashMap.lookup_insert_eq_ite, HashMap.lookup_insert_eq_ite]
    split_ifs with sameKey sameAddr sameAddr
    · simp [sameKey, sameAddr]
    · -- the new key has the new address only, and had none before
      subst sameKey
      rw [← faithful.inverse, absent]
      simp [Ne.symm sameAddr]
    · -- the new address belongs to the new key only
      subst sameAddr
      simp [unused other, Ne.symm sameKey]
    · exact faithful.inverse other addr
  · intro other addr found
    rw [HashMap.lookup_insert_eq_ite] at found
    split_ifs at found with sameKey
    · exact ⟨generated, Nat.lt_succ_self _, (Option.some.inj found).symm⟩
    · exact (faithful.mono (Nat.le_succ _)).issued other addr found

end AddrMap

/-! ## The maps of a socket -/

/-- What the mapped addresses of a kind stand for. -/
abbrev MappedKind.Key (ed : Ed25519) : MappedKind → Type
  | .endpointId => EndpointId ed
  | .relay => RelayUrl × EndpointId ed
  | .custom => CustomAddr

variable {ed : Ed25519}

instance : (kind : MappedKind) → DecidableEq (kind.Key ed)
  | .endpointId => inferInstanceAs (DecidableEq (EndpointId ed))
  | .relay => inferInstanceAs (DecidableEq (RelayUrl × EndpointId ed))
  | .custom => inferInstanceAs (DecidableEq CustomAddr)

abbrev MappedAddrs (ed : Ed25519) :=
  (kind : MappedKind) → AddrMap (kind.Key ed) (MappedAddr kind)

namespace MappedAddrs

def endpointAddrs (maps : MappedAddrs ed) : AddrMap (EndpointId ed) EndpointIdMappedAddr :=
  maps .endpointId

def relayAddrs (maps : MappedAddrs ed) : AddrMap (RelayUrl × EndpointId ed) RelayMappedAddr :=
  maps .relay

def customAddrs (maps : MappedAddrs ed) : AddrMap CustomAddr CustomMappedAddr := maps .custom

end MappedAddrs

inductive Answer (ed : Ed25519) where
  | get (kind : MappedKind) (key : kind.Key ed) (addr : MappedAddr kind)
  | lookup (kind : MappedKind) (addr : MappedAddr kind) (found : Option (kind.Key ed))
deriving DecidableEq

/-- A call on one of the maps, or an address that another socket of the process generated. -/
inductive Call (ed : Ed25519) where
  | get (kind : MappedKind) (key : kind.Key ed)
  | lookup (kind : MappedKind) (addr : MappedAddr kind)
  | elsewhere (kind : MappedKind)

structure Naming (ed : Ed25519) where
  counters : MappedKind → UInt64
  maps : MappedAddrs ed
  /-- How many addresses of each kind the process has generated. -/
  generated : MappedKind → Nat
  /-- What the calls on the maps returned, oldest first. -/
  answers : List (Answer ed)

namespace Naming

def start : Naming ed where
  counters _ := 1
  maps _ := AddrMap.default
  generated _ := 0
  answers := []

def fetchAdd (naming : Naming ed) (kind : MappedKind) : Naming ed :=
  { naming with
    counters := Function.update naming.counters kind (naming.counters kind + 1)
    generated := Function.update naming.generated kind (naming.generated kind + 1) }

def get (naming : Naming ed) (kind : MappedKind) (key : kind.Key ed) :
    MappedAddr kind × Naming ed :=
  let result := (naming.maps kind).get MappedAddr.generate (naming.counters kind) key
  let naming := if result.2.2 then naming.fetchAdd kind else naming
  (result.1, { naming with
    maps := Function.update naming.maps kind result.2.1
    answers := naming.answers ++ [.get kind key result.1] })

def lookup (naming : Naming ed) (kind : MappedKind) (addr : MappedAddr kind) :
    Option (kind.Key ed) :=
  (naming.maps kind).lookup.lookup addr

def step (naming : Naming ed) : Call ed → Naming ed
  | .get kind key => (naming.get kind key).2
  | .lookup kind addr =>
      { naming with answers := naming.answers ++ [.lookup kind addr (naming.lookup kind addr)] }
  | .elsewhere kind => naming.fetchAdd kind

def machine (ed : Ed25519) : Machine (Naming ed) (Call ed) := ⟨start, fun _ _ _ => True, step⟩

instance (calls : List (Call ed)) (naming : Naming ed) (call : Call ed) :
    Decidable ((machine ed).Enabled calls naming call) :=
  .isTrue trivial

/-- An answer of `lookup` names the key for which `get` returned the address before. -/
def Told (kind : MappedKind) (answers : List (Answer ed)) : Prop :=
  ∀ before addr found after, answers = before ++ .lookup kind addr found :: after →
    ∀ key, found = some key ↔ .get kind key addr ∈ before

structure Sound (naming : Naming ed) : Prop where
  counter : ∀ kind, naming.counters kind = AddrMap.counterAfter (naming.generated kind)
  answered : ∀ kind key addr,
    .get kind key addr ∈ naming.answers ↔ (naming.maps kind).addrs.lookup key = some addr
  /-- Until a counter wraps around, its map is faithful. -/
  faithful : ∀ kind, naming.generated kind < 2 ^ 64 →
    (naming.maps kind).Faithful MappedAddr.generate (naming.generated kind)
  told : ∀ kind, naming.generated kind < 2 ^ 64 → Told kind naming.answers

variable {naming : Naming ed}

theorem told_append {kind : MappedKind} {answers : List (Answer ed)} (told : Told kind answers)
    {answer : Answer ed}
    (right : ∀ addr found, answer = .lookup kind addr found →
      ∀ key, found = some key ↔ .get kind key addr ∈ answers) :
    Told kind (answers ++ [answer]) := by
  intro before addr found after split
  obtain rfl | ⟨middle, last, rfl⟩ := List.eq_nil_or_concat after
  · obtain ⟨rfl, same⟩ := List.append_inj' split rfl
    exact right addr found (List.cons.inj same).1
  · rw [List.concat_eq_append, ← List.cons_append, ← List.append_assoc] at split
    exact told before addr found middle (List.append_inj' split rfl).1

private theorem sound_start : Sound (start : Naming ed) where
  counter _ := rfl
  answered kind key addr := by simp [start, AddrMap.default]
  faithful kind _ := AddrMap.faithful_default
  told kind _ := by
    intro before addr found after split
    simp [start] at split

theorem Sound.fetchAdd (sound : Sound naming) (kind : MappedKind) :
    Sound (naming.fetchAdd kind) := by
  have more : ∀ other, naming.generated other ≤ (naming.fetchAdd kind).generated other := by
    intro other
    by_cases same : other = kind <;> simp [Naming.fetchAdd, same]
  constructor
  · intro other
    by_cases same : other = kind
    · subst same
      simp [Naming.fetchAdd, sound.counter, AddrMap.counterAfter_succ]
    · simp [Naming.fetchAdd, same, sound.counter]
  · exact sound.answered
  · intro other few
    exact (sound.faithful other (lt_of_le_of_lt (more other) few)).mono (more other)
  · intro other few
    exact sound.told other (lt_of_le_of_lt (more other) few)

private theorem get_of_found {kind : MappedKind} {key : kind.Key ed} {addr : MappedAddr kind}
    (found : (naming.maps kind).addrs.lookup key = some addr) :
    naming.get kind key =
      (addr, { naming with answers := naming.answers ++ [.get kind key addr] }) := by
  simp only [get, AddrMap.get_of_found found, Bool.false_eq_true, if_false,
    Function.update_eq_self]

private theorem get_of_absent {kind : MappedKind} {key : kind.Key ed}
    (absent : (naming.maps kind).addrs.lookup key = none) :
    naming.get kind key =
      (MappedAddr.generate (naming.counters kind), { naming.fetchAdd kind with
        maps := Function.update naming.maps kind
          ⟨(naming.maps kind).addrs.insert key (MappedAddr.generate (naming.counters kind)),
            (naming.maps kind).lookup.insert (MappedAddr.generate (naming.counters kind)) key⟩
        answers := naming.answers ++
          [.get kind key (MappedAddr.generate (naming.counters kind))] }) := by
  simp only [get, AddrMap.get_of_absent absent, if_true, fetchAdd]

theorem answers_get (naming : Naming ed) (kind : MappedKind) (key : kind.Key ed) :
    (naming.get kind key).2.answers =
      naming.answers ++ [.get kind key (naming.get kind key).1] := by
  cases found : (naming.maps kind).addrs.lookup key with
  | some addr => rw [get_of_found found]
  | none => rw [get_of_absent found]

theorem Sound.get (sound : Sound naming) (kind : MappedKind) (key : kind.Key ed) :
    Sound (naming.get kind key).2 := by
  cases found : (naming.maps kind).addrs.lookup key with
  | some addr =>
      rw [get_of_found found]
      refine ⟨sound.counter, ?_, sound.faithful, ?_⟩
      · intro other otherKey otherAddr
        simp only [List.mem_append, List.mem_singleton, sound.answered]
        constructor
        · rintro (stored | same)
          · exact stored
          · cases same
            exact found
        · exact .inl
      · intro other few
        exact told_append (sound.told other few) (by simp)
  | none =>
      rw [get_of_absent found]
      have advanced := sound.fetchAdd kind
      refine ⟨advanced.counter, ?_, ?_, ?_⟩
      · intro other otherKey otherAddr
        simp only [List.mem_append, List.mem_singleton, sound.answered]
        by_cases same : other = kind
        · subst same
          simp only [Function.update_self, HashMap.lookup_insert_eq_ite]
          split
          next sameKey =>
            subst sameKey
            simp [found, eq_comm]
          next differentKey => simp [differentKey]
        · simp [same]
      · intro other few
        by_cases same : other = kind
        · subst same
          simp only [Naming.fetchAdd, Function.update_self] at few ⊢
          have before := sound.faithful other (Nat.lt_of_succ_lt few)
          rw [sound.counter]
          exact before.insert MappedAddr.generate_injective (Nat.lt_of_succ_lt few) found
        · simp only [Function.update_of_ne same]
          exact advanced.faithful other few
      · intro other few
        exact told_append (advanced.told other few) (by simp)

private theorem Sound.step (sound : Sound naming) (call : Call ed) : Sound (naming.step call) := by
  cases call with
  | get kind key => exact sound.get kind key
  | elsewhere kind => exact sound.fetchAdd kind
  | lookup kind addr =>
      refine ⟨sound.counter, ?_, sound.faithful, ?_⟩
      · intro other key otherAddr
        simp [Naming.step, sound.answered]
      · intro other few
        apply told_append (sound.told other few)
        intro otherAddr found same key
        cases same
        rw [sound.answered, (sound.faithful kind few).inverse]
        rfl

theorem sound_of_reaches {calls : List (Call ed)} (reached : (machine ed).Reaches calls naming) :
    Sound naming :=
  reached.invariant (fun _ naming => Sound naming) sound_start
    fun _ _ call _ _ sound => sound.step call

/-- What `get` returned is looked up as the key it was returned for. -/
theorem Sound.lookup_of_answered (sound : Sound naming) {kind : MappedKind}
    (few : naming.generated kind < 2 ^ 64) {key : kind.Key ed} {addr : MappedAddr kind}
    (returned : .get kind key addr ∈ naming.answers) : naming.lookup kind addr = some key :=
  ((sound.faithful kind few).inverse key addr).mp ((sound.answered kind key addr).mp returned)

/-- Two custom addresses are named, one of them twice, and then looked up. -/
def lookedUp : List (Call Relay.Protos.Crates.reference.ed25519) :=
  let first : CustomAddr := ⟨7, .heap [1]⟩
  let second : CustomAddr := ⟨7, .heap [2]⟩
  [.get .custom first, .get .custom second, .get .custom first,
    .lookup .custom (MappedAddr.generate 1)]

end Naming

end NexalinkTunnel.Socket
