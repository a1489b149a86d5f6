import NexalinkTunnel.Lib.Bytes

/-!
Contract: signed DNS packets in the pkarr format, and their timestamps.

Owns the layout of a packet with the parts that are read from it, when a packet is
more recent than another, parsing without a check of the signature, and the clock
that gives timestamps.

Does not own: signatures, and the DNS message inside of a packet. Whether
`simple_dns` accepts the message enters as a parameter.
-/

namespace NexalinkTunnel.Dns.Pkarr

open Lib

namespace Timestamp

/-- `Timestamp::now`, in microseconds since the UNIX epoch: what the system clock says, but later
than the last result. -/
def now (last micros : Nat) : Nat := max micros (last + 1)

theorem lt_now (last micros : Nat) : last < now last micros :=
  Nat.lt_of_lt_of_le (Nat.lt_succ_self last) (Nat.le_max_right micros (last + 1))

def toBeBytes (timestamp : Nat) : List.Vector UInt8 8 :=
  ⟨Bytes.putBe 8 timestamp, Bytes.putBe_length 8 timestamp⟩

def fromBeBytes (bytes : List.Vector UInt8 8) : Nat := Bytes.beNat bytes.toList

theorem fromBeBytes_lt (bytes : List.Vector UInt8 8) : fromBeBytes bytes < 2 ^ 64 := by
  have bound := Bytes.beNat_lt bytes.toList
  rw [List.Vector.toList_length] at bound
  exact bound

theorem fromBeBytes_toBeBytes {timestamp : Nat} (small : timestamp < 2 ^ 64) :
    fromBeBytes (toBeBytes timestamp) = timestamp :=
  Bytes.beNat_putBe_of_lt small

theorem lt_toBeBytes_iff {bytes : List.Vector UInt8 8} {timestamp : Nat}
    (small : timestamp < 2 ^ 64) :
    bytes.toList < (toBeBytes timestamp).toList ↔ fromBeBytes bytes < timestamp := by
  rw [Bytes.lt_iff_beNat_lt (by simp)]
  exact iff_of_eq (congrArg (fromBeBytes bytes < ·) (fromBeBytes_toBeBytes small))

end Timestamp

/-- Which byte strings `simple_dns` parses as a DNS message. -/
structure SimpleDns where
  parses : Bytes → Bool

def maxDnsPacketSize : Nat := 1000

def headerSize : Nat := 104

def maxSignedPacketSize : Nat := headerSize + maxDnsPacketSize

/-- A signed packet: public key, signature, timestamp and DNS message. -/
structure SignedPacket (dns : SimpleDns) where
  bytes : Bytes
  headed : headerSize ≤ bytes.length
  bounded : bytes.length ≤ maxSignedPacketSize
  parsed : dns.parses (bytes.drop headerSize) = true
deriving DecidableEq

inductive SignedPacketVerifyError where
  | tooShort (len : Nat)
  | tooLarge (len : Nat)
  | dnsError
deriving DecidableEq, Repr

namespace SignedPacket

variable {dns : SimpleDns}

def fromBytesUnchecked (bytes : Bytes) : Except SignedPacketVerifyError (SignedPacket dns) :=
  if headed : bytes.length < headerSize then .error (.tooShort bytes.length)
  else if bounded : maxSignedPacketSize < bytes.length then .error (.tooLarge bytes.length)
  else if parsed : dns.parses (bytes.drop headerSize) = true then
    .ok ⟨bytes, Nat.le_of_not_lt headed, Nat.le_of_not_lt bounded, parsed⟩
  else .error .dnsError

@[simp] theorem fromBytesUnchecked_bytes (packet : SignedPacket dns) :
    fromBytesUnchecked packet.bytes = .ok packet := by
  simp [fromBytesUnchecked, Nat.not_lt.mpr packet.headed, Nat.not_lt.mpr packet.bounded,
    packet.parsed]

def publicKeyBytes (packet : SignedPacket dns) : List.Vector UInt8 32 :=
  ⟨packet.bytes.take 32, by
    have headed := packet.headed
    simp only [headerSize] at headed
    rw [List.length_take]
    omega⟩

def timestampBytes (packet : SignedPacket dns) : List.Vector UInt8 8 :=
  ⟨(packet.bytes.drop 96).take 8, by
    have headed := packet.headed
    simp only [headerSize] at headed
    rw [List.length_take, List.length_drop]
    omega⟩

def timestamp (packet : SignedPacket dns) : Nat :=
  Timestamp.fromBeBytes packet.timestampBytes

theorem timestamp_lt (packet : SignedPacket dns) : packet.timestamp < 2 ^ 64 :=
  Timestamp.fromBeBytes_lt _

def encodedPacket (packet : SignedPacket dns) : Bytes := packet.bytes.drop headerSize

def moreRecentThan (packet other : SignedPacket dns) : Bool :=
  if packet.timestamp = other.timestamp then other.encodedPacket < packet.encodedPacket
  else other.timestamp < packet.timestamp

/-- Not above in the order by timestamp and then by the bytes of the DNS message. -/
def AtMost (packet other : SignedPacket dns) : Prop :=
  packet.timestamp < other.timestamp ∨
    packet.timestamp = other.timestamp ∧ packet.encodedPacket ≤ other.encodedPacket

variable {packet other third : SignedPacket dns}

/-- `more_recent_than` is the strict part of the order. -/
theorem moreRecentThan_eq_false : packet.moreRecentThan other = false ↔ packet.AtMost other := by
  unfold moreRecentThan AtMost
  split
  next same => simp [same]
  next different =>
    rw [decide_eq_false_iff_not]
    omega

theorem moreRecentThan_eq_true : packet.moreRecentThan other = true ↔ ¬ packet.AtMost other := by
  rw [← moreRecentThan_eq_false, Bool.not_eq_false]

theorem AtMost.refl (packet : SignedPacket dns) : packet.AtMost packet :=
  .inr ⟨rfl, List.le_refl _⟩

theorem AtMost.trans (first : packet.AtMost other) (second : other.AtMost third) :
    packet.AtMost third := by
  rcases first with before | ⟨same, below⟩
  · rcases second with after | ⟨same', -⟩
    · exact .inl (Nat.lt_trans before after)
    · exact .inl (same' ▸ before)
  · rcases second with after | ⟨same', below'⟩
    · exact .inl (same ▸ after)
    · exact .inr ⟨same.trans same', List.le_trans below below'⟩

theorem AtMost.of_not (notBelow : ¬ packet.AtMost other) : other.AtMost packet := by
  unfold AtMost at *
  rcases Nat.lt_trichotomy packet.timestamp other.timestamp with before | same | after
  · exact absurd (.inl before) notBelow
  · refine .inr ⟨same.symm, ?_⟩
    rcases List.le_total packet.encodedPacket other.encodedPacket with below | above
    · exact absurd (.inr ⟨same, below⟩) notBelow
    · exact above
  · exact .inl after

theorem AtMost.timestamp_le (below : packet.AtMost other) :
    packet.timestamp ≤ other.timestamp := by
  rcases below with before | ⟨same, -⟩
  · exact Nat.le_of_lt before
  · exact Nat.le_of_eq same

end SignedPacket

end NexalinkTunnel.Dns.Pkarr
