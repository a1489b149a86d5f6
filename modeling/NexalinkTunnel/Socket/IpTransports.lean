import NexalinkTunnel.Base.EndpointAddr
import NexalinkTunnel.Lib.StableSort

/-!
Contract: the UDP sockets of an endpoint.

Owns the configuration of a socket with the addresses that it may send to, and how
`IpTransports::bind` makes the two sorted lists of sockets out of configurations.

Does not own: the operating system, which may let any bind fail, and `ipnet`, whose
networks are an address and the number of leading bits that count.

## The order of the sockets

The sockets of a family are sorted by the length of their prefix, longest first. The sort
is stable, so sockets with equal prefixes stay in the order of their configurations.
-/

namespace NexalinkTunnel.Socket.Ip

open Lib Base

/-- `Ipv4Net` and `Ipv6Net`, by what `ipnet` answers of a network. -/
structure IpNet (width : Nat) where
  addr : BitVec width
  prefixLen : Nat
  contains : BitVec width → Bool
  prefixLen_le : prefixLen ≤ width
  /-- The leading bits agree. -/
  contains_iff : ∀ ip, contains ip = true ↔
    addr >>> (width - prefixLen) = ip >>> (width - prefixLen)

namespace IpNet

variable {width : Nat}

def new (addr : BitVec width) (prefixLen : Nat) (prefixLen_le : prefixLen ≤ width) :
    IpNet width where
  addr := addr
  prefixLen := prefixLen
  contains ip := decide (addr >>> (width - prefixLen) = ip >>> (width - prefixLen))
  prefixLen_le := prefixLen_le
  contains_iff _ := decide_eq_true_iff

end IpNet

def isUnicastLinkLocal (ip : BitVec 128) : Bool :=
  decide ((ip >>> 112) &&& 0xffc0#128 = 0xfe80#128)

inductive Config where
  | v4 (ipNet : IpNet 32) (port : UInt16) (isRequired isDefault : Bool)
  | v6 (ipNet : IpNet 128) (scopeId : UInt32) (port : UInt16) (isRequired isDefault : Bool)

namespace Config

def isIpv4 : Config → Bool
  | .v4 .. => true
  | .v6 .. => false

def isIpv6 : Config → Bool
  | .v4 .. => false
  | .v6 .. => true

def prefixLen : Config → Nat
  | .v4 ipNet .. => ipNet.prefixLen
  | .v6 ipNet .. => ipNet.prefixLen

def isDefault : Config → Bool
  | .v4 _ _ _ isDefault => isDefault
  | .v6 _ _ _ _ isDefault => isDefault

def isRequired : Config → Bool
  | .v4 _ _ isRequired _ => isRequired
  | .v6 _ _ _ isRequired _ => isRequired

def isValidDefaultAddr (config : Config) (src : Option IpAddr) (dst : SocketAddr) : Bool :=
  match src with
  | some src =>
      match config, src with
      | .v4 _ _ _ isDefault, .v4 _ => isDefault
      | .v6 _ _ _ _ isDefault, .v6 _ => isDefault
      | _, _ => false
  | none =>
      match config, dst with
      | .v4 _ _ _ isDefault, .v4 _ _ => isDefault
      | .v6 _ _ _ _ isDefault, .v6 _ _ _ _ => isDefault
      | _, _ => false

/-- Without a source, a link-local destination is also accepted by its scope. -/
def isValidSendAddr (config : Config) (src : Option IpAddr) (dst : SocketAddr) : Bool :=
  match src with
  | some src =>
      match config, src with
      | .v4 ipNet _ _ _, .v4 src => decide (ipNet.addr = 0) || decide (ipNet.addr = src)
      | .v6 ipNet _ _ _ _, .v6 src => decide (ipNet.addr = 0) || decide (ipNet.addr = src)
      | _, _ => false
  | none =>
      match config, dst with
      | .v4 ipNet _ _ _, .v4 ip _ => ipNet.contains ip
      | .v6 ipNet scopeId _ _ _, .v6 ip _ _ dstScopeId =>
          if ipNet.contains ip then true
          else if isUnicastLinkLocal ip then decide (scopeId = dstScopeId)
          else false
      | _, _ => false

/-- The configuration is of the destination's family and its network contains it. -/
def contains : Config → SocketAddr → Bool
  | .v4 ipNet _ _ _, .v4 ip _ => ipNet.contains ip
  | .v6 ipNet _ _ _ _, .v6 ip _ _ _ => ipNet.contains ip
  | _, _ => false

end Config

def LinkLocal : SocketAddr → Prop
  | .v4 _ _ => False
  | .v6 ip _ _ _ => isUnicastLinkLocal ip = true

/-- A bound socket, known by the place of its configuration. -/
structure IpTransport where
  config : Config
  place : Nat

/-- A configuration, with the error if its bind fails. -/
structure Attempt (Error : Type) where
  config : Config
  failure : Option Error

inductive BindError (Error : Type) where
  | socket (error : Error)
  | other (message : String)
deriving DecidableEq

structure BindLoop where
  hasV4Default : Bool
  ipV4 : List IpTransport
  hasV6Default : Bool
  ipV6 : List IpTransport

/-- The senders have the same lists and places, so they are not modelled apart. -/
structure IpTransports where
  v4 : List IpTransport
  defaultV4Index : Option Nat
  v6 : List IpTransport
  defaultV6Index : Option Nat

variable {Error : Type}

def BindLoop.next (loop : BindLoop) (place : Nat) (attempt : Attempt Error) :
    Except (BindError Error) BindLoop :=
  match attempt.failure with
  | none =>
      let transport : IpTransport := ⟨attempt.config, place⟩
      if attempt.config.isIpv4 then
        if attempt.config.isDefault then
          if loop.hasV4Default then
            .error (.other "can only have a single IPv4 default transport")
          else .ok { loop with hasV4Default := true, ipV4 := loop.ipV4 ++ [transport] }
        else .ok { loop with ipV4 := loop.ipV4 ++ [transport] }
      else if attempt.config.isIpv6 then
        if attempt.config.isDefault then
          if loop.hasV6Default then
            .error (.other "can only have a single IPv6 default transport")
          else .ok { loop with hasV6Default := true, ipV6 := loop.ipV6 ++ [transport] }
        else .ok { loop with ipV6 := loop.ipV6 ++ [transport] }
      else .ok loop
  | some error => if attempt.config.isRequired then .error (.socket error) else .ok loop

/-- The loop in `bind`, from the place of its first configuration. -/
def BindLoop.run (loop : BindLoop) (place : Nat) :
    List (Attempt Error) → Except (BindError Error) BindLoop
  | [] => .ok loop
  | attempt :: attempts => do
      let loop ← loop.next place attempt
      loop.run (place + 1) attempts

def sortByPrefixLen (transports : List IpTransport) : List IpTransport :=
  sortDescending (fun transport => transport.config.prefixLen) transports

def IpTransports.bind (configs : List (Attempt Error)) :
    Except (BindError Error) IpTransports := do
  let loop ← BindLoop.run ⟨false, [], false, []⟩ 0 configs
  let ipV4 := sortByPrefixLen loop.ipV4
  let ipV6 := sortByPrefixLen loop.ipV6
  return {
    v4 := ipV4
    defaultV4Index := ipV4.findIdx? fun transport => transport.config.isDefault
    v6 := ipV6
    defaultV6Index := ipV6.findIdx? fun transport => transport.config.isDefault }

namespace IpTransports

def v4Default (transports : IpTransports) : Option IpTransport :=
  match transports.defaultV4Index with
  | some index => transports.v4[index]?
  | none => none

def v6Default (transports : IpTransports) : Option IpTransport :=
  match transports.defaultV6Index with
  | some index => transports.v6[index]?
  | none => none

end IpTransports

inductive Family where
  | v4
  | v6
deriving DecidableEq

def Family.ofAddr : SocketAddr → Family
  | .v4 .. => .v4
  | .v6 .. => .v6

def Config.family : Config → Family
  | .v4 .. => .v4
  | .v6 .. => .v6

namespace BindLoop

def transports (loop : BindLoop) : Family → List IpTransport
  | .v4 => loop.ipV4
  | .v6 => loop.ipV6

def hasDefault (loop : BindLoop) : Family → Bool
  | .v4 => loop.hasV4Default
  | .v6 => loop.hasV6Default

end BindLoop

namespace IpTransports

def ofFamily (transports : IpTransports) : Family → List IpTransport
  | .v4 => transports.v4
  | .v6 => transports.v6

def default (transports : IpTransports) : Family → Option IpTransport
  | .v4 => transports.v4Default
  | .v6 => transports.v6Default

end IpTransports

/-- The sockets of a family whose bind succeeds, in the order of their configurations. -/
def boundFrom (family : Family) (place : Nat) : List (Attempt Error) → List IpTransport
  | [] => []
  | attempt :: attempts =>
      if attempt.failure.isNone ∧ attempt.config.family = family then
        ⟨attempt.config, place⟩ :: boundFrom family (place + 1) attempts
      else boundFrom family (place + 1) attempts

def bound (family : Family) (configs : List (Attempt Error)) : List IpTransport :=
  boundFrom family 0 configs

def defaults (transports : List IpTransport) : List IpTransport :=
  transports.filter fun transport => transport.config.isDefault

namespace BindLoop

variable {loop next : BindLoop} {place : Nat} {attempt : Attempt Error} {family : Family}

/-- The loop knows whether it has a default, and has at most one. -/
def KnowsDefault (loop : BindLoop) (family : Family) : Prop :=
  (defaults (loop.transports family)).length = (loop.hasDefault family).toNat

private theorem next_spec (went : loop.next place attempt = .ok next) (family : Family)
    (knows : loop.KnowsDefault family) :
    next.transports family = loop.transports family ++ boundFrom family place [attempt] ∧
      next.KnowsDefault family := by
  obtain ⟨config, failure⟩ := attempt
  cases failure with
  | some error =>
      simp only [BindLoop.next] at went
      split at went
      · cases went
      · cases went
        exact ⟨by simp [boundFrom], knows⟩
  | none =>
      -- a default needs that there is none yet; another socket is added as it is
      cases config with
      | v4 | v6 =>
          simp only [BindLoop.next, Config.isIpv4, Config.isIpv6, if_true, Bool.false_eq_true,
            if_false] at went
          split at went
          · split at went
            · cases went
            · cases went
              cases family <;>
                simp_all [KnowsDefault, transports, hasDefault, boundFrom, Config.family, defaults]
          · cases went
            cases family <;>
              simp_all [KnowsDefault, transports, hasDefault, boundFrom, Config.family, defaults]

/-- So the loop collects the bound sockets in order, with at most one default. -/
theorem run_spec {attempts : List (Attempt Error)}
    (went : loop.run place attempts = .ok next) (family : Family)
    (knows : loop.KnowsDefault family) :
    next.transports family = loop.transports family ++ boundFrom family place attempts ∧
      next.KnowsDefault family := by
  induction attempts generalizing loop place with
  | nil =>
      cases went
      exact ⟨(List.append_nil _).symm, knows⟩
  | cons attempt attempts inductionHypothesis =>
      rw [BindLoop.run] at went
      cases first : loop.next place attempt with
      | error error =>
          rw [first] at went
          cases went
      | ok middle =>
          rw [first] at went
          obtain ⟨added, knows⟩ := next_spec first family knows
          obtain ⟨collected, knows⟩ := inductionHypothesis went knows
          refine ⟨?_, knows⟩
          rw [collected, added, List.append_assoc]
          congr 1
          simp only [boundFrom]
          split <;> rfl

end BindLoop

namespace IpTransports

variable {configs : List (Attempt Error)} {transports : IpTransports}

private theorem getElem?_findIdx? (transports : List IpTransport) (accept : IpTransport → Bool) :
    (match transports.findIdx? accept with
      | some index => transports[index]?
      | none => none) = transports.find? accept := by
  rw [List.find?_eq_bind_findIdx?_getElem?]
  cases transports.findIdx? accept with
  | none => rfl
  | some index => rfl

/-- An accepted list of configurations: the sockets of a family are those that were bound, sorted,
and at most one of them is a default. -/
theorem bind_spec (accepted : bind configs = .ok transports) (family : Family) :
    transports.ofFamily family = sortByPrefixLen (bound family configs) ∧
      (defaults (bound family configs)).length ≤ 1 ∧
      transports.default family =
        (transports.ofFamily family).find? fun transport => transport.config.isDefault := by
  unfold bind at accepted
  cases went : BindLoop.run ⟨false, [], false, []⟩ 0 configs with
  | error error =>
      rw [went] at accepted
      cases accepted
  | ok loop =>
      rw [went] at accepted
      cases accepted
      have fresh : (⟨false, [], false, []⟩ : BindLoop).KnowsDefault family := by
        cases family <;> rfl
      obtain ⟨collected, knows⟩ := BindLoop.run_spec went family fresh
      have nothing : (⟨false, [], false, []⟩ : BindLoop).transports family = [] := by
        cases family <;> rfl
      rw [nothing, List.nil_append] at collected
      have few : (defaults (bound family configs)).length ≤ 1 := by
        have counted : (defaults (loop.transports family)).length =
            (loop.hasDefault family).toNat := knows
        rw [collected] at counted
        exact counted.trans_le (Bool.toNat_le _)
      refine ⟨?_, few, ?_⟩
      · rw [bound, ← collected]
        cases family <;> rfl
      · cases family with
        | v4 => exact getElem?_findIdx? _ _
        | v6 => exact getElem?_findIdx? _ _

/-- The default of a family is the only default that was bound, if there is one. -/
theorem default_eq (accepted : bind configs = .ok transports) (family : Family) :
    defaults (bound family configs) = (transports.default family).toList := by
  obtain ⟨sorted, few, found⟩ := bind_spec accepted family
  have perm : (defaults (transports.ofFamily family)).Perm (defaults (bound family configs)) := by
    rw [sorted]
    exact (sortDescending_perm _ _).filter _
  rw [found, ← List.head?_filter]
  change _ = (defaults (transports.ofFamily family)).head?.toList
  cases known : defaults (bound family configs) with
  | nil =>
      rw [known] at perm
      rw [perm.eq_nil]
      rfl
  | cons first rest =>
      have alone : rest = [] := by
        rw [known] at few
        exact List.eq_nil_of_length_eq_zero (Nat.le_zero.mp (Nat.le_of_succ_le_succ few))
      rw [known, alone] at perm
      rw [perm.eq_singleton, alone]
      rfl

end IpTransports

end NexalinkTunnel.Socket.Ip
