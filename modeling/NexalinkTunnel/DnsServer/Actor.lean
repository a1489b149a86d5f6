import NexalinkTunnel.DnsServer.SignedPackets
import NexalinkTunnel.Lib.Transition

/-!
Contract: the actor of the DNS server's packet store, and its eviction task.

Owns the transactions, the snapshots that the eviction task works on, the checks for
expiry that it sends, and the runs of all of these.

Does not own: the database. A transaction sees its own writes and a snapshot sees the
last commit.

## Old news about old packets

A check for expiry names a time at which its packet was stored when the snapshot was
taken. When the message is handled, the key may have another packet, or a packet of
another time. The check then takes the entry of the old time out of the index and
leaves the packet. It can take the packet's own entry out only if the packet is as
old as the snapshot's, and then it is expired now as it was then, because the clock
has only gone on.
-/

namespace NexalinkTunnel.DnsServer

open Lib Dns.Pkarr

variable {dns : SimpleDns}

/-- The actor with its database, and the eviction task with what it has sent. -/
structure Actor (dns : SimpleDns) where
  /-- What was committed last. -/
  db : Tables
  transaction : Option Tables
  /-- `LAST_TIMESTAMP`. -/
  last : Nat
  /-- The indexes of the snapshots that the eviction task was given. -/
  snapshots : List (Finset (List.Vector UInt8 8 × PublicKeyBytes))
  /-- The snapshots that it goes through, each with the time before which packets are expired. -/
  scans : List (Finset (List.Vector UInt8 8 × PublicKeyBytes) × Nat)
  /-- The checks that it has sent. Each may be handled any number of messages later. -/
  checks : List (Nat × PublicKeyBytes)

inductive ActorStep (dns : SimpleDns) where
  | begin
  | handle (message : Message dns) (micros : Nat)
  | snapshot
  | commit
  /-- The eviction task takes the time and starts on a snapshot. -/
  | scan (snapshot : Finset (List.Vector UInt8 8 × PublicKeyBytes)) (micros : Nat)
  /-- It sends a check for an entry in its range. -/
  | check (scan : Finset (List.Vector UInt8 8 × PublicKeyBytes) × Nat)
      (time : List.Vector UInt8 8) (key : PublicKeyBytes)

namespace Actor

def start : Actor dns where
  db := .empty
  transaction := none
  last := 0
  snapshots := []
  scans := []
  checks := []

def tables (actor : Actor dns) : Tables := actor.transaction.getD actor.db

/-- Checks for expiry come from the eviction task only. -/
def Sent (actor : Actor dns) : Message dns → Prop
  | .checkExpired time key => (time, key) ∈ actor.checks
  | _ => True

instance (actor : Actor dns) : DecidablePred actor.Sent
  | .checkExpired _ _ => inferInstanceAs (Decidable (_ ∈ _))
  | .upsert _ | .get _ | .remove _ => .isTrue trivial

/-- Messages are handled in a transaction, and a snapshot is of the last commit. No step is taken
once the clock does not fit into 64 bits. -/
def next (eviction : Nat) (actor : Actor dns) : ActorStep dns → Option (Actor dns)
  | .begin =>
      match actor.transaction with
      | some _ => none
      | none => some { actor with transaction := some actor.db }
  | .handle message micros =>
      match actor.transaction with
      | none => none
      | some tables =>
          if actor.Sent message ∧ Timestamp.now actor.last micros < 2 ^ 64 then
            match handleMessage eviction actor.last micros tables message with
            | .error _ => none
            | .ok handled =>
                some { actor with transaction := some handled.tables, last := handled.last }
          else none
  | .snapshot => some { actor with snapshots := actor.db.updateTime :: actor.snapshots }
  | .commit =>
      match actor.transaction with
      | none => none
      | some tables => some { actor with db := tables, transaction := none }
  | .scan snapshot micros =>
      let now := Timestamp.now actor.last micros
      if snapshot ∈ actor.snapshots ∧ now < 2 ^ 64 then
        some { actor with scans := (snapshot, now - eviction) :: actor.scans, last := now }
      else none
  | .check scan time key =>
      if scan ∈ actor.scans ∧ (time, key) ∈ scan.1 ∧
          time.toList < (Timestamp.toBeBytes scan.2).toList then
        some { actor with checks := (Timestamp.fromBeBytes time, key) :: actor.checks }
      else none

abbrev machine (dns : SimpleDns) (eviction : Nat) : Machine (Actor dns) (ActorStep dns) :=
  .ofNext start (next eviction)

structure Sound (eviction : Nat) (actor : Actor dns) : Prop where
  db : actor.db.Sound dns
  tables : actor.tables.Sound dns
  /-- What counted as expired in a scan still does. -/
  scans : ∀ scan ∈ actor.scans, scan.2 ≤ actor.last - eviction ∧ scan.2 < 2 ^ 64
  checks : ∀ check ∈ actor.checks, check.1 < actor.last - eviction ∧ check.1 < 2 ^ 64

variable {eviction : Nat} {actor after : Actor dns}

private theorem sound_start : (start : Actor dns).Sound eviction :=
  ⟨Tables.sound_empty, Tables.sound_empty, by simp [start], by simp [start]⟩

private theorem Sound.later (sound : actor.Sound eviction) {last : Nat}
    (later : actor.last ≤ last) :
    (∀ scan ∈ actor.scans, scan.2 ≤ last - eviction ∧ scan.2 < 2 ^ 64) ∧
      ∀ check ∈ actor.checks, check.1 < last - eviction ∧ check.1 < 2 ^ 64 := by
  constructor
  · intro scan inside
    obtain ⟨expired, small⟩ := sound.scans scan inside
    exact ⟨by omega, small⟩
  · intro check inside
    obtain ⟨expired, small⟩ := sound.checks check inside
    exact ⟨by omega, small⟩

private theorem Sound.due (sound : actor.Sound eviction) {message : Message dns}
    (sent : actor.Sent message)
    (micros : Nat) : message.Due eviction (Timestamp.now actor.last micros) := by
  cases message with
  | checkExpired time key =>
      obtain ⟨expired, small⟩ := sound.checks (time, key) sent
      have later := Timestamp.lt_now actor.last micros
      exact ⟨by simp only at expired; omega, small⟩
  | upsert packet => trivial
  | get key => trivial
  | remove key => trivial

private theorem next_handle {message : Message dns} {micros : Nat}
    (stepped : actor.next eviction (.handle message micros) = some after) :
    ∃ handled, actor.transaction = some actor.tables ∧ actor.Sent message ∧
      handleMessage eviction actor.last micros actor.tables message = .ok handled ∧
      after = { actor with transaction := some handled.tables, last := handled.last } := by
  simp only [Actor.next] at stepped
  split at stepped
  next => cases stepped
  next tables opened =>
    have same : actor.tables = tables := by rw [Actor.tables, opened, Option.getD_some]
    split at stepped
    next allowed =>
      split at stepped
      next => cases stepped
      next handled found =>
        exact ⟨handled, same ▸ opened, allowed.1, same ▸ found, (Option.some.inj stepped).symm⟩
    next => cases stepped

private theorem tables_next {step : ActorStep dns} (stepped : actor.next eviction step = some after)
    (quiet : ∀ message micros, step ≠ .handle message micros) : after.tables = actor.tables := by
  cases step with
  | handle message micros => exact absurd rfl (quiet message micros)
  | begin =>
      simp only [Actor.next] at stepped
      split at stepped
      next => cases stepped
      next closed =>
        rw [← Option.some.inj stepped, tables, tables, closed]
        rfl
  | commit =>
      simp only [Actor.next] at stepped
      split at stepped
      next => cases stepped
      next tables opened =>
        rw [← Option.some.inj stepped, Actor.tables, Actor.tables, opened]
        rfl
  | snapshot =>
      rw [← Option.some.inj stepped]
      rfl
  | scan snapshot micros =>
      simp only [Actor.next] at stepped
      split at stepped
      next =>
        rw [← Option.some.inj stepped]
        rfl
      next => cases stepped
  | check scan time key =>
      simp only [Actor.next] at stepped
      split at stepped
      next =>
        rw [← Option.some.inj stepped]
        rfl
      next => cases stepped

private theorem Sound.handle (sound : actor.Sound eviction) {message : Message dns} {micros : Nat}
    (stepped : actor.next eviction (.handle message micros) = some after) :
    after.Sound eviction := by
  obtain ⟨handled, -, sent, found, rfl⟩ := next_handle stepped
  obtain ⟨handled', found', kept, clock⟩ :=
    handledSoundly eviction actor.last micros sound.tables (sound.due sent micros)
  obtain rfl : handled' = handled := Except.ok.inj (found'.symm.trans found)
  have later : actor.last ≤ handled'.last := by
    have advanced := Timestamp.lt_now actor.last micros
    rcases clock with same | moved <;> omega
  exact ⟨sound.db, kept, (sound.later later).1, (sound.later later).2⟩

private theorem Sound.next (sound : actor.Sound eviction) {step : ActorStep dns}
    (stepped : actor.next eviction step = some after) : after.Sound eviction := by
  cases step with
  | handle message micros => exact sound.handle stepped
  | begin =>
      have tables := tables_next stepped (by simp)
      simp only [Actor.next] at stepped
      split at stepped
      next => cases stepped
      next =>
        cases stepped
        exact ⟨sound.db, tables ▸ sound.tables, sound.scans, sound.checks⟩
  | commit =>
      simp only [Actor.next] at stepped
      split at stepped
      next => cases stepped
      next committed opened =>
        cases stepped
        have same : actor.tables = committed := by rw [Actor.tables, opened, Option.getD_some]
        exact ⟨same ▸ sound.tables, same ▸ sound.tables, sound.scans, sound.checks⟩
  | snapshot =>
      cases stepped
      exact ⟨sound.db, sound.tables, sound.scans, sound.checks⟩
  | scan snapshot micros =>
      simp only [Actor.next] at stepped
      split at stepped
      next allowed =>
        cases stepped
        have advanced := Timestamp.lt_now actor.last micros
        have later := sound.later (Nat.le_of_lt advanced)
        refine ⟨sound.db, sound.tables, ?_, later.2⟩
        intro scan inside
        rcases List.mem_cons.mp inside with rfl | old
        · exact ⟨Nat.le_refl _, Nat.lt_of_le_of_lt (Nat.sub_le _ _) allowed.2⟩
        · exact later.1 scan old
      next => cases stepped
  | check scan time key =>
      simp only [Actor.next] at stepped
      split at stepped
      next allowed =>
        cases stepped
        refine ⟨sound.db, sound.tables, sound.scans, ?_⟩
        intro check inside
        rcases List.mem_cons.mp inside with rfl | old
        · -- the range of the scan is in the order of the bytes
          obtain ⟨known, -, inRange⟩ := allowed
          obtain ⟨expired, small⟩ := sound.scans scan known
          have earlier := (Timestamp.lt_toBeBytes_iff small).mp inRange
          exact ⟨Nat.lt_of_lt_of_le earlier expired, Timestamp.fromBeBytes_lt time⟩
        · exact sound.checks check old
      next => cases stepped

theorem sound_of_reaches {history : List (ActorStep dns)}
    (reached : (machine dns eviction).Reaches history actor) : actor.Sound eviction :=
  reached.invariant_next (fun _ actor => actor.Sound eviction) sound_start
    fun _ _ _ _ stepped sound => sound.next stepped

/-- The index never loses a stored packet, neither in the open transaction nor in what was
committed, whatever messages were handled and however late the checks of the eviction task were. -/
theorem findable_of_reaches {eviction : Nat} {history : List (ActorStep dns)} {actor : Actor dns}
    (reached : (machine dns eviction).Reaches history actor) :
    actor.tables.Findable dns ∧ actor.db.Findable dns :=
  ⟨(sound_of_reaches reached).tables.findable, (sound_of_reaches reached).db.findable⟩

/-- A check is sent for a packet that is replaced before the check is handled. -/
def lateCheck : List (ActorStep lenient) :=
  let key := (zeroPacket 1).publicKeyBytes
  let index := {(Timestamp.toBeBytes 1, key)}
  [.begin, .handle (.upsert (zeroPacket 1)) 100, .commit, .snapshot, .scan index 200,
    .check (index, 190) (Timestamp.toBeBytes 1) key, .begin,
    .handle (.upsert (zeroPacket 195)) 201, .handle (.checkExpired 1 key) 202]

theorem findable_of_lateCheck :
    ((machine lenient 10).runFrom start lateCheck).tables.getPacket
        (zeroPacket 195).publicKeyBytes = .ok (some (zeroPacket 195)) ∧
      ((machine lenient 10).runFrom start lateCheck).tables.Findable lenient ∧
      ((machine lenient 10).runFrom start lateCheck).db.Findable lenient := by
  have reached : (machine lenient 10).Reaches lateCheck
      ((machine lenient 10).runFrom start lateCheck) :=
    Machine.reaches_runFrom (by decide +kernel)
  exact ⟨by decide +kernel, findable_of_reaches reached⟩

def upserted : ActorStep dns → Option (SignedPacket dns)
  | .handle (.upsert packet) _ => some packet
  | _ => none

/-- The packets that were upserted for a key, oldest upsert first. -/
def upserts (key : PublicKeyBytes) (history : List (ActorStep dns)) : List (SignedPacket dns) :=
  (history.filterMap upserted).filter fun packet => packet.publicKeyBytes = key

def Spares (key : PublicKeyBytes) : ActorStep dns → Prop
  | .handle (.remove other) _ => other ≠ key
  | .handle (.checkExpired _ other) _ => other ≠ key
  | _ => True

instance (key : PublicKeyBytes) : DecidablePred (Spares key : ActorStep dns → Prop)
  | .handle (.remove _) _ => inferInstanceAs (Decidable (_ ≠ _))
  | .handle (.checkExpired _ _) _ => inferInstanceAs (Decidable (_ ≠ _))
  | .handle (.upsert _) _ | .handle (.get _) _ | .begin | .snapshot | .commit | .scan _ _
  | .check _ _ _ => .isTrue trivial

/-- A maximum by timestamp and then by encoded packet, if there are packets at all. -/
def Newest (packets : List (SignedPacket dns)) : Option (SignedPacket dns) → Prop
  | none => packets = []
  | some packet => packet ∈ packets ∧ ∀ other ∈ packets, other.AtMost packet

private theorem newest_append {packets : List (SignedPacket dns)}
    {stored : Option (SignedPacket dns)}
    (newest : Newest packets stored) {packet : SignedPacket dns}
    (atLeast : ∀ existing ∈ stored, existing.AtMost packet) :
    Newest (packets ++ [packet]) (some packet) := by
  refine ⟨by simp, ?_⟩
  intro other inside
  rw [List.mem_append, List.mem_singleton] at inside
  rcases inside with old | rfl
  · cases stored with
    | none =>
        obtain rfl : packets = [] := newest
        cases old
    | some existing => exact (newest.2 other old).trans (atLeast existing rfl)
  · exact .refl other

private theorem newest_append_older {packets : List (SignedPacket dns)}
    {packet existing : SignedPacket dns}
    (newest : Newest packets (some existing)) (older : packet.AtMost existing) :
    Newest (packets ++ [packet]) (some existing) := by
  refine ⟨by simp [newest.1], ?_⟩
  intro other inside
  rw [List.mem_append, List.mem_singleton] at inside
  rcases inside with old | rfl
  · exact newest.2 other old
  · exact older

variable {eviction : Nat} {actor after : Actor dns} {history : List (ActorStep dns)}
  {key : PublicKeyBytes}

theorem upserts_append_of_ne {step : ActorStep dns}
    (quiet : ∀ packet micros, step = .handle (.upsert packet) micros →
      packet.publicKeyBytes ≠ key) :
    upserts key (history ++ [step]) = upserts key history := by
  rw [upserts, upserts, List.filterMap_append, List.filter_append]
  match step with
  | .handle (.upsert packet) micros =>
      simp [upserted, quiet packet micros rfl]
  | .handle (.get _) _ | .handle (.remove _) _ | .handle (.checkExpired _ _) _ | .begin
  | .snapshot | .commit | .scan _ _ | .check _ _ _ => simp [upserted]

private theorem upserts_append_upsert (packet : SignedPacket dns) (micros : Nat) :
    upserts packet.publicKeyBytes (history ++ [ActorStep.handle (.upsert packet) micros]) =
      upserts packet.publicKeyBytes history ++ [packet] := by
  simp [upserts, upserted]

/-- The packet of the key is the newest of those upserted. -/
def StoresNewest (key : PublicKeyBytes) (history : List (ActorStep dns)) (actor : Actor dns) :
    Prop :=
  ∃ stored, actor.tables.getPacket key = .ok stored ∧ Newest (upserts key history) stored

private theorem StoresNewest.handle {message : Message dns} {micros : Nat}
    (holds : StoresNewest key history actor)
    (stepped : actor.next eviction (.handle message micros) = some after)
    (spares : Spares key (.handle message micros)) :
    StoresNewest key (history ++ [.handle message micros]) after := by
  obtain ⟨stored, readable, newest⟩ := holds
  obtain ⟨handled, -, -, found, rfl⟩ := next_handle stepped
  by_cases same : key = message.key
  · cases message with
    | upsert packet =>
        subst same
        simp only [Message.key] at readable newest ⊢
        rw [StoresNewest, upserts_append_upsert]
        rcases handle_upsert readable found with
          ⟨atLeast, -, now⟩ | ⟨⟨existing, rfl, above⟩, -, kept⟩
        · exact ⟨some packet, now, newest_append newest atLeast⟩
        · refine ⟨some existing, ?_, newest_append_older newest (.of_not above)⟩
          rw [← readable, ← kept]
          rfl
    | get other =>
        rw [StoresNewest, upserts_append_of_ne (by simp)]
        simp only [handleMessage] at found
        split at found <;> cases found
        exact ⟨stored, readable, newest⟩
    | remove other => exact absurd same.symm spares
    | checkExpired time other => exact absurd same.symm spares
  · rw [StoresNewest, upserts_append_of_ne]
    · refine ⟨stored, ?_, newest⟩
      rw [← readable, ← getPacket_handle_of_ne found same]
      rfl
    · rintro packet micros' sameStep rfl
      cases sameStep
      exact same rfl

private theorem StoresNewest.next {step : ActorStep dns} (holds : StoresNewest key history actor)
    (stepped : actor.next eviction step = some after) (spares : Spares key step) :
    StoresNewest key (history ++ [step]) after := by
  by_cases handles : ∃ message micros, step = .handle message micros
  · obtain ⟨message, micros, rfl⟩ := handles
    exact holds.handle stepped spares
  · have quiet : ∀ message micros, step ≠ .handle message micros :=
      fun message micros same => handles ⟨message, micros, same⟩
    rw [StoresNewest, tables_next stepped quiet,
      upserts_append_of_ne fun packet micros same => absurd same (quiet _ micros)]
    exact holds

theorem storesNewest_of_reaches (reached : (machine dns eviction).Reaches history actor)
    (spares : ∀ step ∈ history, Spares key step) : StoresNewest key history actor := by
  apply reached.invariant_next (fun history actor =>
    (∀ step ∈ history, Spares key step) → StoresNewest key history actor) _ _ spares
  · exact fun _ => ⟨none, rfl, rfl⟩
  · intro history actor step after stepped inductionHypothesis spares
    have earlier := inductionHypothesis fun step inside => spares step (by simp [inside])
    exact earlier.next stepped (spares step (by simp))

/-- Unless packets of a key were removed or expired, its newest packet is what a lookup finds, in
whatever order the packets came and however they were grouped into transactions. Each upsert
answered whether its packet was as new as the stored one. -/
theorem get_newest_of_reaches (reached : (machine dns eviction).Reaches history actor)
    (spares : ∀ step ∈ history, Spares key step) :
    (∃ stored, Newest (upserts key history) stored ∧
      ∀ last micros, handleMessage eviction last micros actor.tables (.get key) =
        .ok ⟨actor.tables, .got stored, last⟩) ∧
    ∀ before packet micros later,
      history = before ++ .handle (.upsert packet) micros :: later →
      ∃ earlier stored handled updated, (machine dns eviction).Reaches before earlier ∧
        earlier.tables.getPacket packet.publicKeyBytes = .ok stored ∧
        handleMessage eviction earlier.last micros earlier.tables (.upsert packet) = .ok handled ∧
        handled.reply = .upserted updated ∧
        (updated = true ↔ ∀ existing ∈ stored, existing.AtMost packet) := by
  constructor
  · obtain ⟨stored, readable, newest⟩ := storesNewest_of_reaches reached spares
    exact ⟨stored, newest, fun last micros => by simp only [handleMessage, readable]⟩
  · intro before packet micros later split
    obtain ⟨earlier, reachedEarlier, enabled⟩ := reached.enabled_at split
    obtain ⟨stored, readable⟩ :=
      (sound_of_reaches reachedEarlier).tables.readable packet.publicKeyBytes
    obtain ⟨after, stepped, -⟩ := Machine.exists_next_of_enabled enabled
    obtain ⟨handled, -, -, found, -⟩ := next_handle stepped
    rcases handle_upsert readable found with
      ⟨atLeast, reply, -⟩ | ⟨⟨existing, held, above⟩, reply, -⟩
    · exact ⟨earlier, stored, handled, true, reachedEarlier, readable, found, reply,
        iff_of_true rfl atLeast⟩
    · exact ⟨earlier, stored, handled, false, reachedEarlier, readable, found, reply,
        iff_of_false Bool.false_ne_true fun atLeast => above (atLeast existing held)⟩

def oldAfterNew : List (ActorStep lenient) :=
  [.begin, .handle (.upsert (zeroPacket 195)) 200, .handle (.upsert (zeroPacket 1)) 201, .commit]

theorem get_newest_of_oldAfterNew :
    ∃ stored, Newest (upserts (zeroPacket 1).publicKeyBytes oldAfterNew) stored ∧
      ∀ last micros, handleMessage 10 last micros
          ((machine lenient 10).runFrom start oldAfterNew).tables
          (.get (zeroPacket 1).publicKeyBytes) =
        .ok ⟨((machine lenient 10).runFrom start oldAfterNew).tables, .got stored, last⟩ := by
  have reached : (machine lenient 10).Reaches oldAfterNew
      ((machine lenient 10).runFrom start oldAfterNew) :=
    Machine.reaches_runFrom (by decide +kernel)
  exact (get_newest_of_reaches reached (by decide +kernel)).1

end Actor

end NexalinkTunnel.DnsServer
