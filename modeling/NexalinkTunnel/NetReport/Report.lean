import Mathlib
import NexalinkTunnel.Base.EndpointAddr

/-!
Contract: reports about the network, with the latencies of relays.

Owns the latencies per relay and kind of probe, how they are merged and read, and how
a probe changes a report.

Durations are in nanoseconds.
-/

namespace NexalinkTunnel.NetReport

open Base

instance : Ord RelayUrl := ⟨fun left right => compare left.url right.url⟩

instance : Std.TransOrd RelayUrl where
  eq_swap {left right} :=
    show compare left.url right.url = (compare right.url left.url).swap from
      Std.OrientedOrd.eq_swap
  isLE_trans {left middle right} first second :=
    have first : (compare left.url middle.url).isLE := first
    have second : (compare middle.url right.url).isLE := second
    show (compare left.url right.url).isLE from Std.TransOrd.isLE_trans first second

instance : Std.LawfulEqOrd RelayUrl where
  compare_self {url} := show compare url.url url.url = .eq from Std.ReflOrd.compare_self
  eq_of_compare {left right} same := by
    cases left
    cases right
    exact congrArg RelayUrl.mk (Std.LawfulEqOrd.eq_of_compare same)

inductive Probe where
  | https
  | qadIpv4
  | qadIpv6
deriving DecidableEq, Repr

structure RelayLatencies where
  ipv4 : Std.TreeMap RelayUrl Nat
  ipv6 : Std.TreeMap RelayUrl Nat
  https : Std.TreeMap RelayUrl Nat

namespace RelayLatencies

def default : RelayLatencies := ⟨∅, ∅, ∅⟩

def lower (list : Std.TreeMap RelayUrl Nat) (url : RelayUrl) (latency : Nat) :
    Std.TreeMap RelayUrl Nat :=
  list.alter url fun
    | none => some latency
    | some old => some (if latency < old then latency else old)

def updateRelay (latencies : RelayLatencies) (url : RelayUrl) (latency : Nat) :
    Probe → RelayLatencies
  | .https => { latencies with https := lower latencies.https url latency }
  | .qadIpv4 => { latencies with ipv4 := lower latencies.ipv4 url latency }
  | .qadIpv6 => { latencies with ipv6 := lower latencies.ipv6 url latency }

def iter (latencies : RelayLatencies) : List (Probe × RelayUrl × Nat) :=
  latencies.https.toList.map (Probe.https, ·) ++ latencies.ipv4.toList.map (Probe.qadIpv4, ·) ++
    latencies.ipv6.toList.map (Probe.qadIpv6, ·)

/-- The three loops of `merge` go through the other latencies in the order of `iter`. -/
def merge (latencies other : RelayLatencies) : RelayLatencies :=
  other.iter.foldl (fun latencies (probe, url, latency) =>
    latencies.updateRelay url latency probe) latencies

def get (latencies : RelayLatencies) (url : RelayUrl) : Option Nat :=
  ([latencies.https[url]?, latencies.ipv4[url]?, latencies.ipv6[url]?].filterMap id).min?

def list (latencies : RelayLatencies) : Probe → Std.TreeMap RelayUrl Nat
  | .https => latencies.https
  | .qadIpv4 => latencies.ipv4
  | .qadIpv6 => latencies.ipv6

private theorem get_isSome_iff {latencies : RelayLatencies} {url : RelayUrl} :
    (latencies.get url).isSome ↔ ∃ probe latency, (latencies.list probe)[url]? = some latency := by
  constructor
  · intro known
    obtain ⟨lowest, found⟩ := Option.isSome_iff_exists.mp known
    have inside := List.min?_mem found
    simp only [List.mem_filterMap, id_eq, exists_eq_right, List.mem_cons, List.not_mem_nil,
      or_false] at inside
    rcases inside with held | held | held
    · exact ⟨.https, lowest, held.symm⟩
    · exact ⟨.qadIpv4, lowest, held.symm⟩
    · exact ⟨.qadIpv6, lowest, held.symm⟩
  · rintro ⟨probe, latency, held⟩
    rw [get, Option.isSome_iff_ne_none, Ne, List.min?_eq_none_iff]
    have listed : (latencies.list probe)[url]? ∈
        [latencies.https[url]?, latencies.ipv4[url]?, latencies.ipv6[url]?] := by
      cases probe <;> simp [list]
    exact List.ne_nil_of_mem (List.mem_filterMap.mpr ⟨_, listed, held⟩)

theorem list_updateRelay (latencies : RelayLatencies) (url : RelayUrl) (latency : Nat)
    (probe other : Probe) :
    (latencies.updateRelay url latency probe).list other =
      if other = probe then lower (latencies.list probe) url latency else latencies.list other := by
  cases probe <;> cases other <;> rfl

private theorem isSome_lower {list : Std.TreeMap RelayUrl Nat} {url other : RelayUrl}
    {latency : Nat} :
    (lower list url latency)[other]?.isSome ↔ other = url ∨ list[other]?.isSome := by
  rw [lower, Std.TreeMap.getElem?_alter]
  by_cases same : url = other
  · subst same
    rw [if_pos Std.ReflOrd.compare_self]
    cases list[url]? <;> simp
  · rw [if_neg (by simpa using same)]
    simp [Ne.symm same]

private theorem get_isSome_updateRelay {latencies : RelayLatencies} {url other : RelayUrl}
    {latency : Nat} {probe : Probe} :
    ((latencies.updateRelay url latency probe).get other).isSome ↔
      other = url ∨ (latencies.get other).isSome := by
  simp only [get_isSome_iff, ← Option.isSome_iff_exists, list_updateRelay]
  constructor
  · rintro ⟨kind, held⟩
    split at held
    next same =>
      rcases isSome_lower.mp held with rfl | old
      · exact .inl rfl
      · exact .inr ⟨probe, old⟩
    next => exact .inr ⟨kind, held⟩
  · rintro (rfl | ⟨kind, held⟩)
    · exact ⟨probe, by rw [if_pos rfl]; exact isSome_lower.mpr (.inl rfl)⟩
    · refine ⟨kind, ?_⟩
      split
      next same => exact isSome_lower.mpr (.inr (same ▸ held))
      next => exact held

theorem get_isSome_merge {latencies other : RelayLatencies} {url : RelayUrl} :
    ((latencies.merge other).get url).isSome ↔
      (∃ probe latency, (probe, url, latency) ∈ other.iter) ∨ (latencies.get url).isSome := by
  unfold merge
  induction other.iter generalizing latencies with
  | nil => simp
  | cons entry entries inductionHypothesis =>
      obtain ⟨kind, relay, duration⟩ := entry
      rw [List.foldl_cons, inductionHypothesis, get_isSome_updateRelay]
      simp only [List.mem_cons, Prod.mk.injEq]
      constructor
      · rintro (⟨probe, latency, inside⟩ | rfl | known)
        · exact .inl ⟨probe, latency, .inr inside⟩
        · exact .inl ⟨kind, duration, .inl ⟨rfl, rfl, rfl⟩⟩
        · exact .inr known
      · rintro (⟨probe, latency, ⟨rfl, rfl, rfl⟩ | inside⟩ | known)
        · exact .inr (.inl rfl)
        · exact .inl ⟨probe, latency, inside⟩
        · exact .inr (.inr known)

end RelayLatencies

structure Report where
  udpV4 : Bool
  udpV6 : Bool
  mappingVariesByDestIpv4 : Option Bool
  mappingVariesByDestIpv6 : Option Bool
  preferredRelay : Option RelayUrl
  relayLatency : RelayLatencies
  /-- Address and port. -/
  globalV4 : Option (BitVec 32 × UInt16)
  /-- Address, port, flow information and scope. -/
  globalV6 : Option (BitVec 128 × UInt16 × UInt32 × UInt32)
  captivePortal : Option Bool

inductive ProbeReport where
  | https (relay : RelayUrl) (latency : Nat)
  | qadIpv4 (relay : RelayUrl) (latency : Nat) (addr : SocketAddr)
  | qadIpv6 (relay : RelayUrl) (latency : Nat) (addr : SocketAddr)
deriving Repr

namespace Report

def default : Report where
  udpV4 := false
  udpV6 := false
  mappingVariesByDestIpv4 := none
  mappingVariesByDestIpv6 := none
  preferredRelay := none
  relayLatency := .default
  globalV4 := none
  globalV6 := none
  captivePortal := none

def hasUdp (report : Report) : Bool := report.udpV4 || report.udpV6

/-- The first address is kept, and later ones are compared with it. Once the mapping was seen to
vary, it stays so. -/
def observe {Addr : Type} [DecidableEq Addr] (global : Option Addr) (varies : Option Bool)
    (addr : Addr) : Option Addr × Option Bool :=
  match global with
  | none => (some addr, varies)
  | some known =>
      if known = addr then (global, some (varies.getD false)) else (global, some true)

def update (report : Report) : ProbeReport → Report
  | .https relay latency =>
      { report with relayLatency := report.relayLatency.updateRelay relay latency .https }
  | .qadIpv4 relay latency addr =>
      let report :=
        { report with relayLatency := report.relayLatency.updateRelay relay latency .qadIpv4 }
      match addr with
      | .v6 _ _ _ _ => report
      | .v4 ip port =>
          let (global, varies) :=
            observe report.globalV4 report.mappingVariesByDestIpv4 (ip, port)
          { report with udpV4 := true, globalV4 := global, mappingVariesByDestIpv4 := varies }
  | .qadIpv6 relay latency addr =>
      let report :=
        { report with relayLatency := report.relayLatency.updateRelay relay latency .qadIpv6 }
      match addr with
      | .v4 _ _ => report
      | .v6 ip port flowinfo scopeId =>
          let (global, varies) :=
            observe report.globalV6 report.mappingVariesByDestIpv6 (ip, port, flowinfo, scopeId)
          { report with udpV6 := true, globalV6 := global, mappingVariesByDestIpv6 := varies }

theorem preferredRelay_update (report : Report) (probe : ProbeReport) :
    (report.update probe).preferredRelay = report.preferredRelay := by
  cases probe with
  | https relay latency => rfl
  | qadIpv4 relay latency addr => cases addr <;> rfl
  | qadIpv6 relay latency addr => cases addr <;> rfl

end Report

end NexalinkTunnel.NetReport
