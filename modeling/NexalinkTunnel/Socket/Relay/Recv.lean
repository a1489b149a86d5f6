import NexalinkTunnel.Lib.Channel
import NexalinkTunnel.Lib.Chunks
import NexalinkTunnel.Lib.Transition
import NexalinkTunnel.Relay.Protos.Relay
import NexalinkTunnel.Socket.Transports

/-!
Contract: how datagrams from relays get into the buffers of the QUIC stack.

Owns `RelayTransport::poll_recv` with the item that it holds back between calls, and
that every queued datagram gets into a buffer once and in order.

Does not own: what puts items into the queue, and the waking of the caller. The
buffers, metas and recv infos of a call have the same number of slots.

## The end of the queue

Once the senders are gone and the queue is empty, `poll_recv` fails, also after it has
filled slots in the same call. These slots are filled, but nobody is told.
-/

namespace NexalinkTunnel.Relay.Protos.Datagrams

open Lib

/-- The length of a datagram: the segment size of a batch. -/
def stride (datagrams : Datagrams) : Nat :=
  datagrams.segmentSize.elim datagrams.contents.length (·.value.toNat)

def segments (datagrams : Datagrams) : List Bytes := chunks datagrams.stride datagrams.contents

end NexalinkTunnel.Relay.Protos.Datagrams

namespace NexalinkTunnel.Socket.Relay

open Lib Base Relay.Protos

structure RelayRecvDatagram (ed : Ed25519) where
  url : RelayUrl
  src : EndpointId ed
  datagrams : Datagrams

structure RecvMeta where
  len : Nat
  stride : Nat
  ecn : Option EcnCodepoint
  dstIp : Option IpAddr

structure RecvSlot (ed : Ed25519) where
  buf : Bytes
  recvMeta : RecvMeta
  recvInfo : RecvInfo ed

def RecvSlot.segments {ed : Ed25519} (slot : RecvSlot ed) : List Bytes :=
  chunks slot.recvMeta.stride (slot.buf.take slot.recvMeta.len)

inductive Poll (α : Type) where
  | ready (value : α)
  | pending

inductive PollRecvError where
  | notConnected (message : String)
deriving DecidableEq

inductive SlotResult (ed : Ed25519) where
  | filled (slot : RecvSlot ed)
  | stopped
  | closed

def SlotResult.slots {ed : Ed25519} : SlotResult ed → List (RecvSlot ed)
  | .filled slot => [slot]
  | .stopped | .closed => []

structure RelayTransport (ed : Ed25519) where
  relayDatagramRecvQueue : Channel (RelayRecvDatagram ed)
  pendingItem : Option (RelayRecvDatagram ed)

structure PollRecv (ed : Ed25519) where
  transport : RelayTransport ed
  filled : List (RecvSlot ed)
  result : Poll (Except PollRecvError Nat)

variable {ed : Ed25519}

namespace RelayTransport

def new : RelayTransport ed := ⟨.new 512, none⟩

/-- Makes sure that an item is pending. The queue hands out at most `budget` items
before it lets other tasks run. -/
def pollRecvQueue (transport : RelayTransport ed) (budget : Nat) :
    Poll (Option (RelayRecvDatagram ed)) × RelayTransport ed × Nat :=
  match transport.pendingItem with
  | some item => (.ready (some item), transport, budget)
  | none =>
      match budget with
      | 0 => (.pending, transport, 0)
      | budget + 1 =>
          match transport.relayDatagramRecvQueue.recv with
          | some (item, queue) => (.ready (some item), ⟨queue, some item⟩, budget)
          | none =>
              if transport.relayDatagramRecvQueue.closed then
                (.ready none, transport, budget + 1)
              else (.pending, transport, budget + 1)

def numSegments (datagrams : Datagrams) (bufLen : Nat) : Nat :=
  datagrams.segmentSize.elim 1 fun segmentSize => bufLen / segmentSize.value.toNat

/-- Moves segments of the pending item into a buffer. A datagram that is larger than the
buffer is dropped. -/
def fillSlot (transport : RelayTransport ed) (item : RelayRecvDatagram ed) (buf : Bytes) :
    SlotResult ed × RelayTransport ed :=
  let split := item.datagrams.takeSegments (numSegments item.datagrams buf.length)
  let datagrams := split.1
  let left := split.2
  let pendingItem :=
    if left.contents = [] then none else some { item with datagrams := left }
  let result :=
    if buf.length < datagrams.contents.length then .stopped
    else
      .filled
        { buf := datagrams.contents ++ buf.drop datagrams.contents.length
          recvMeta :=
            { len := datagrams.contents.length
              stride := datagrams.segmentSize.elim datagrams.contents.length (·.value.toNat)
              ecn := none
              dstIp := none }
          recvInfo := .fromAddr (.relay item.url item.src) }
  (result, { transport with pendingItem := pendingItem })

def pollRecvSlot (transport : RelayTransport ed) (budget : Nat) (buf : Bytes) :
    SlotResult ed × RelayTransport ed × Nat :=
  match transport.pollRecvQueue budget with
  | (.pending, transport, budget) => (.stopped, transport, budget)
  | (.ready none, transport, budget) => (.closed, transport, budget)
  | (.ready (some item), transport, budget) =>
      let (result, transport) := transport.fillSlot item buf
      (result, transport, budget)

/-- The loop of `poll_recv`, with the filled slots and whether it found the queue closed. -/
def pollRecvSlots (transport : RelayTransport ed) (budget : Nat) :
    List Bytes → RelayTransport ed × List (RecvSlot ed) × Bool
  | [] => (transport, [], false)
  | buf :: bufs =>
      match transport.pollRecvSlot budget buf with
      | (.filled slot, transport, budget) =>
          let (transport, filled, closed) := transport.pollRecvSlots budget bufs
          (transport, slot :: filled, closed)
      | (.stopped, transport, _) => (transport, [], false)
      | (.closed, transport, _) => (transport, [], true)

def pollRecv (transport : RelayTransport ed) (budget : Nat) (bufs : List Bytes) : PollRecv ed :=
  let (transport, filled, closed) := transport.pollRecvSlots budget bufs
  { transport := transport
    filled := filled
    result :=
      if closed then .ready (.error (.notConnected "connection closed"))
      else if 0 < filled.length then .ready (.ok filled.length)
      else .pending }

end RelayTransport

/-- The transport, the slots filled so far, and those that the caller was told of. -/
structure RecvRun (ed : Ed25519) where
  transport : RelayTransport ed
  filled : List (RecvSlot ed)
  reported : List (RecvSlot ed)

inductive RecvStep (ed : Ed25519) where
  /-- The actor of a relay offers an item to the queue. -/
  | trySend (item : RelayRecvDatagram ed)
  /-- The last sender is gone. -/
  | close
  | pollRecv (bufs : List Bytes) (budget : Nat)

namespace RecvRun

def step (run : RecvRun ed) : RecvStep ed → RecvRun ed
  | .trySend item =>
      { run with
        transport :=
          { run.transport with
            relayDatagramRecvQueue := run.transport.relayDatagramRecvQueue.offer item } }
  | .close =>
      { run with
        transport :=
          { run.transport with
            relayDatagramRecvQueue := run.transport.relayDatagramRecvQueue.close } }
  | .pollRecv bufs budget =>
      let poll := run.transport.pollRecv budget bufs
      { transport := poll.transport
        filled := run.filled ++ poll.filled
        reported :=
          match poll.result with
          | .ready (.ok numMsgs) => run.reported ++ poll.filled.take numMsgs
          | .ready (.error _) | .pending => run.reported }

end RecvRun

def relayRecv (ed : Ed25519) : Machine (RecvRun ed) (RecvStep ed) where
  start := ⟨.new, [], []⟩
  Enabled _ _ _ := True
  step := RecvRun.step

instance (history : List (RecvStep ed)) (run : RecvRun ed) (step : RecvStep ed) :
    Decidable ((relayRecv ed).Enabled history run step) :=
  .isTrue trivial

def RecvStep.bufs : RecvStep ed → List Bytes
  | .pollRecv bufs _ => bufs
  | .trySend _ | .close => []

/-- Every buffer has room for one datagram of every item. -/
def Fits (items : List (RelayRecvDatagram ed)) (bufs : List Bytes) : Prop :=
  ∀ item ∈ items, ∀ buf ∈ bufs, item.datagrams.stride ≤ buf.length
deriving Decidable

theorem fits_append {items : List (RelayRecvDatagram ed)} {bufs moreBufs : List Bytes} :
    Fits items (bufs ++ moreBufs) ↔ Fits items bufs ∧ Fits items moreBufs := by
  simp only [Fits, List.mem_append, or_imp, forall_and]

def RelayRecvDatagram.sourced (item : RelayRecvDatagram ed) : List (Addr ed × Bytes) :=
  item.datagrams.segments.map (Prod.mk (.relay item.url item.src))

def RecvSlot.sourced (slot : RecvSlot ed) : List (Addr ed × Bytes) :=
  slot.segments.map (Prod.mk slot.recvInfo.remote)

/-- The slots have the datagrams of the item up to `rest`, and its source. -/
structure Carries (item : RelayRecvDatagram ed) (slots : List (RecvSlot ed))
    (rest : List Bytes) : Prop where
  source : ∀ slot ∈ slots, slot.recvInfo = .fromAddr (.relay item.url item.src)
  segments : slots.flatMap RecvSlot.segments ++ rest = item.datagrams.segments

/-- The filled slots have the items taken from the queue, one after another, up to what
is held back of the last one. -/
inductive Delivered : List (RelayRecvDatagram ed) → Option (RelayRecvDatagram ed) →
    List (RecvSlot ed) → Prop where
  | whole {items : List (RelayRecvDatagram ed)} {groups : List (List (RecvSlot ed))}
      (carried : List.Forall₂ (fun item slots => Carries item slots []) items groups) :
      Delivered items none groups.flatten
  | held {items : List (RelayRecvDatagram ed)} {groups : List (List (RecvSlot ed))}
      {item pending : RelayRecvDatagram ed} {slots : List (RecvSlot ed)}
      (carried : List.Forall₂ (fun item slots => Carries item slots []) items groups)
      (carries : Carries item slots pending.datagrams.segments)
      (url : pending.url = item.url) (src : pending.src = item.src)
      (stride : pending.datagrams.stride ≤ item.datagrams.stride) :
      Delivered (items ++ [item]) (some pending) (groups.flatten ++ slots)

section TakeSegments

variable {datagrams : Datagrams} {segmentSize : NonZeroU16} {numSegments : Nat}

theorem segmentSize_pos : 0 < segmentSize.value.toNat :=
  Nat.pos_of_ne_zero fun zero => segmentSize.ne_zero (UInt16.toNat_inj.mp zero)

/-- A single datagram without its segment size, or a batch with it. -/
theorem segments_eq_chunks (shape : datagrams.segmentSize = some segmentSize ∨
      datagrams.segmentSize = none ∧ datagrams.contents.length ≤ segmentSize.value.toNat) :
    datagrams.segments = chunks segmentSize.value.toNat datagrams.contents := by
  rcases shape with batch | ⟨single, short⟩
  · rw [Datagrams.segments, Datagrams.stride, batch, Option.elim_some]
  · rw [Datagrams.segments, Datagrams.stride, single, Option.elim_none, chunks_length short]

theorem contents_takeSegments (batch : datagrams.segmentSize = some segmentSize) :
    (datagrams.takeSegments numSegments).1.contents =
        datagrams.contents.take (numSegments * segmentSize.value.toNat) ∧
      (datagrams.takeSegments numSegments).2.contents =
        datagrams.contents.drop (numSegments * segmentSize.value.toNat) := by
  simp only [Datagrams.takeSegments, batch]
  refine ⟨(List.take_eq_take_min).symm, ?_⟩
  rcases Nat.le_total (numSegments * segmentSize.value.toNat) datagrams.contents.length with
    less | more
  · rw [Nat.min_eq_left less]
  · rw [Nat.min_eq_right more, List.drop_length, List.drop_of_length_le more]

theorem shape_takeSegments_fst (positive : 0 < numSegments)
    (batch : datagrams.segmentSize = some segmentSize) :
    (datagrams.takeSegments numSegments).1.segmentSize = some segmentSize ∨
      (datagrams.takeSegments numSegments).1.segmentSize = none ∧
        (datagrams.takeSegments numSegments).1.contents.length ≤ segmentSize.value.toNat := by
  simp only [Datagrams.takeSegments, batch]
  split
  · exact .inl rfl
  next single =>
      refine .inr ⟨rfl, ?_⟩
      by_cases more : 1 < numSegments
      · exact Nat.le_of_not_lt fun long => single ⟨more, long⟩
      · -- One segment at most was asked for.
        obtain rfl : numSegments = 1 := by omega
        simp only [List.length_take]
        omega

theorem shape_takeSegments_snd (batch : datagrams.segmentSize = some segmentSize) :
    (datagrams.takeSegments numSegments).2.segmentSize = some segmentSize ∨
      (datagrams.takeSegments numSegments).2.segmentSize = none ∧
        (datagrams.takeSegments numSegments).2.contents.length ≤ segmentSize.value.toNat := by
  simp only [Datagrams.takeSegments, batch]
  split
  next short => exact .inr ⟨rfl, short⟩
  · exact .inl rfl

/-- Splitting neither loses nor merges a datagram. -/
theorem segments_takeSegments (positive : 0 < numSegments) :
    (datagrams.takeSegments numSegments).1.segments ++
      (datagrams.takeSegments numSegments).2.segments = datagrams.segments := by
  cases shape : datagrams.segmentSize with
  | none =>
      simp [Datagrams.takeSegments, Datagrams.segments, Datagrams.stride, shape]
  | some segmentSize =>
      obtain ⟨taken, left⟩ := @contents_takeSegments _ _ numSegments shape
      rw [segments_eq_chunks (shape_takeSegments_fst positive shape),
        segments_eq_chunks (shape_takeSegments_snd shape), segments_eq_chunks (.inl shape),
        taken, left, chunks_take_append_drop segmentSize_pos]

private theorem ecn_takeSegments :
    (datagrams.takeSegments numSegments).1.ecn = datagrams.ecn ∧
      (datagrams.takeSegments numSegments).2.ecn = datagrams.ecn := by
  unfold Datagrams.takeSegments
  split
  · exact ⟨rfl, rfl⟩
  · exact ⟨rfl, rfl⟩

private theorem length_segments_takeSegments (positive : 0 < numSegments) :
    (datagrams.takeSegments numSegments).1.segments.length ≤ numSegments := by
  cases shape : datagrams.segmentSize with
  | none =>
      by_cases empty : datagrams.contents = []
      · simp [Datagrams.takeSegments, shape, Datagrams.segments, empty]
      · simp only [Datagrams.takeSegments, shape, Datagrams.segments, Datagrams.stride,
          Option.elim_none, chunks_of_length_le empty (Nat.le_refl _), List.length_singleton]
        exact positive
  | some segmentSize =>
      rw [segments_eq_chunks (shape_takeSegments_fst positive shape),
        length_chunks_le_iff segmentSize_pos, (contents_takeSegments shape).1]
      exact List.length_take_le _ _

private theorem segmentSize_takeSegments_fst (positive : 0 < numSegments)
    (single : (datagrams.takeSegments numSegments).1.segments.length ≤ 1) :
    (datagrams.takeSegments numSegments).1.segmentSize = none := by
  cases shape : datagrams.segmentSize with
  | none => simp [Datagrams.takeSegments, shape]
  | some segmentSize =>
      rw [segments_eq_chunks (shape_takeSegments_fst positive shape),
        length_chunks_le_iff segmentSize_pos, Nat.one_mul] at single
      simp only [Datagrams.takeSegments, shape] at single ⊢
      rw [if_neg fun batch => absurd single (Nat.not_le.mpr batch.2)]

private theorem segmentSize_takeSegments_snd
    (single : (datagrams.takeSegments numSegments).2.segments.length ≤ 1) :
    (datagrams.takeSegments numSegments).2.segmentSize = none := by
  cases shape : datagrams.segmentSize with
  | none => simp [Datagrams.takeSegments, shape]
  | some segmentSize =>
      rw [segments_eq_chunks (shape_takeSegments_snd shape),
        length_chunks_le_iff segmentSize_pos, Nat.one_mul] at single
      simp only [Datagrams.takeSegments, shape] at single ⊢
      rw [if_pos single]

/-- Splitting loses nothing: the segments are those that are taken and those that are left, no more
are taken than asked for, and what has one segment at most has no segment size. -/
theorem takeSegments_splits (datagrams : Datagrams) (numSegments : Nat)
    (positive : 1 ≤ numSegments) :
    datagrams.segments =
        (datagrams.takeSegments numSegments).1.segments ++
          (datagrams.takeSegments numSegments).2.segments ∧
      (datagrams.takeSegments numSegments).1.segments.length ≤ numSegments ∧
      (datagrams.takeSegments numSegments).1.ecn = datagrams.ecn ∧
      (datagrams.takeSegments numSegments).2.ecn = datagrams.ecn ∧
      ((datagrams.takeSegments numSegments).1.segments.length ≤ 1 →
        (datagrams.takeSegments numSegments).1.segmentSize = none) ∧
      ((datagrams.takeSegments numSegments).2.segments.length ≤ 1 →
        (datagrams.takeSegments numSegments).2.segmentSize = none) :=
  ⟨(segments_takeSegments positive).symm, length_segments_takeSegments positive,
    ecn_takeSegments.1, ecn_takeSegments.2, segmentSize_takeSegments_fst positive,
    segmentSize_takeSegments_snd⟩

/-- Two of three segments are taken, and the last one is single. -/
theorem takeSegments_splits_short_last :
    let datagrams : Datagrams := ⟨some .ce, some ⟨2, by decide⟩, [1, 2, 3, 4, 5]⟩
    datagrams.takeSegments 2 =
        (⟨some .ce, some ⟨2, by decide⟩, [1, 2, 3, 4]⟩, ⟨some .ce, none, [5]⟩) ∧
      datagrams.segments =
        (datagrams.takeSegments 2).1.segments ++ (datagrams.takeSegments 2).2.segments :=
  ⟨by decide, (takeSegments_splits _ 2 (by decide)).1⟩

private theorem stride_takeSegments_snd :
    (datagrams.takeSegments numSegments).2.stride ≤ datagrams.stride := by
  cases shape : datagrams.segmentSize with
  | none => simp [Datagrams.takeSegments, Datagrams.stride, shape]
  | some segmentSize =>
      have whole : datagrams.stride = segmentSize.value.toNat := by
        rw [Datagrams.stride, shape, Option.elim_some]
      rw [whole]
      rcases @shape_takeSegments_snd _ _ numSegments shape with batch | ⟨single, short⟩
      · rw [Datagrams.stride, batch, Option.elim_some]
      · rwa [Datagrams.stride, single, Option.elim_none]

variable {bufLen : Nat}

private theorem numSegments_pos (fits : datagrams.stride ≤ bufLen) :
    0 < RelayTransport.numSegments datagrams bufLen := by
  rw [RelayTransport.numSegments]
  cases shape : datagrams.segmentSize with
  | none => exact Nat.one_pos
  | some segmentSize =>
      rw [Datagrams.stride, shape, Option.elim_some] at fits
      exact Nat.div_pos fits segmentSize_pos

/-- The segments that are taken from a batch fit the buffer. -/
theorem length_takeSegments_le_of_batch (batch : datagrams.segmentSize = some segmentSize) :
    (datagrams.takeSegments (RelayTransport.numSegments datagrams bufLen)).1.contents.length ≤
      bufLen := by
  rw [(contents_takeSegments batch).1, RelayTransport.numSegments, batch, Option.elim_some]
  calc (datagrams.contents.take (bufLen / segmentSize.value.toNat *
          segmentSize.value.toNat)).length
      ≤ bufLen / segmentSize.value.toNat * segmentSize.value.toNat := List.length_take_le _ _
    _ ≤ bufLen := Nat.div_mul_le_self _ _

private theorem length_takeSegments_le (fits : datagrams.stride ≤ bufLen) :
    (datagrams.takeSegments (RelayTransport.numSegments datagrams bufLen)).1.contents.length ≤
      bufLen := by
  cases shape : datagrams.segmentSize with
  | none =>
      rw [Datagrams.stride, shape, Option.elim_none] at fits
      simpa [Datagrams.takeSegments, shape] using fits
  | some segmentSize => exact length_takeSegments_le_of_batch shape

end TakeSegments

namespace Delivered

variable {items : List (RelayRecvDatagram ed)} {item pending : RelayRecvDatagram ed}
  {slots : List (RecvSlot ed)}

private theorem fetch (delivered : Delivered items none slots) (item : RelayRecvDatagram ed) :
    Delivered (items ++ [item]) (some item) slots := by
  obtain ⟨carried⟩ := delivered
  have none : Carries item [] item.datagrams.segments := ⟨by simp, by simp⟩
  simpa using Delivered.held carried none rfl rfl (Nat.le_refl _)

private theorem fill (delivered : Delivered items (some pending) slots) {slot : RecvSlot ed}
    {left : Datagrams} (source : slot.recvInfo = .fromAddr (.relay pending.url pending.src))
    (split : slot.segments ++ left.segments = pending.datagrams.segments)
    (stride : left.stride ≤ pending.datagrams.stride) :
    Delivered items (if left.contents = [] then none else some { pending with datagrams := left })
      (slots ++ [slot]) := by
  obtain _ | ⟨carried, carries, url, src, within⟩ := delivered
  rename_i items groups item slots
  rw [url, src] at source
  have carriesMore : Carries item (slots ++ [slot]) left.segments := by
    refine ⟨?_, ?_⟩
    · simpa [or_imp, forall_and] using And.intro carries.source source
    · rw [List.flatMap_append, List.flatMap_singleton, List.append_assoc, split, carries.segments]
  rw [List.append_assoc]
  split
  next empty =>
      have nothing : left.segments = [] := by rw [Datagrams.segments, empty, chunks_nil]
      rw [nothing] at carriesMore
      have whole := Delivered.whole (List.rel_append carried (.cons carriesMore .nil))
      simpa using whole
  · exact .held carried carriesMore url src (stride.trans within)

theorem stride_le (delivered : Delivered items (some pending) slots) :
    ∃ item ∈ items, pending.datagrams.stride ≤ item.datagrams.stride := by
  obtain _ | ⟨-, -, -, -, within⟩ := delivered
  exact ⟨_, by simp, within⟩

theorem sourced_of_carries {rest : List Bytes} (carries : Carries item slots rest) :
    slots.flatMap RecvSlot.sourced ++ rest.map (Prod.mk (.relay item.url item.src)) =
      item.sourced := by
  have own : slots.flatMap RecvSlot.sourced =
      slots.flatMap fun slot => slot.segments.map (Prod.mk (.relay item.url item.src)) :=
    List.flatMap_congr fun slot inside => by
      rw [RecvSlot.sourced, carries.source slot inside, RecvInfo.fromAddr]
  rw [own, ← List.map_flatMap, ← List.map_append, carries.segments, RelayRecvDatagram.sourced]

private theorem sourced_flatten {groups : List (List (RecvSlot ed))}
    (carried : List.Forall₂ (fun item slots => Carries item slots []) items groups) :
    groups.flatten.flatMap RecvSlot.sourced = items.flatMap RelayRecvDatagram.sourced := by
  induction carried with
  | nil => rfl
  | cons carries _ inductionHypothesis =>
      have first := sourced_of_carries carries
      rw [List.map_nil, List.append_nil] at first
      rw [List.flatten_cons, List.flatMap_append, List.flatMap_cons, first, inductionHypothesis]

/-- The delivered datagrams and those held back are the datagrams of the items. -/
theorem sourced_eq {held : Option (RelayRecvDatagram ed)} (delivered : Delivered items held slots) :
    slots.flatMap RecvSlot.sourced ++ held.toList.flatMap RelayRecvDatagram.sourced =
      items.flatMap RelayRecvDatagram.sourced := by
  cases delivered with
  | whole carried => simpa using sourced_flatten carried
  | @held items groups item pending slots carried carries url src within =>
      have last := sourced_of_carries carries
      rw [← url, ← src] at last
      rw [List.flatMap_append, List.append_assoc, sourced_flatten carried, List.flatMap_append,
        Option.toList_some, List.flatMap_singleton, List.flatMap_singleton,
        RelayRecvDatagram.sourced, last]

end Delivered

/-- From `before` to `after`, `filled` was delivered into some of the buffers. -/
structure Continues (bufs : List Bytes) (filled : List (RecvSlot ed))
    (before after : RelayTransport ed) : Prop where
  sent : after.relayDatagramRecvQueue.sent = before.relayDatagramRecvQueue.sent
  closed : after.relayDatagramRecvQueue.closed = before.relayDatagramRecvQueue.closed
  delivered : Fits before.relayDatagramRecvQueue.sent bufs → ∀ slots,
    Delivered before.relayDatagramRecvQueue.received before.pendingItem slots →
      Delivered after.relayDatagramRecvQueue.received after.pendingItem (slots ++ filled)

namespace Continues

variable {bufs : List Bytes} {filled : List (RecvSlot ed)} {before middle after : RelayTransport ed}

theorem refl (bufs : List Bytes) (transport : RelayTransport ed) :
    Continues bufs [] transport transport :=
  ⟨rfl, rfl, fun _ slots delivered => by rwa [List.append_nil]⟩

theorem trans {firstBufs : List Bytes} {first : List (RecvSlot ed)}
    (one : Continues firstBufs first before middle) (two : Continues bufs filled middle after) :
    Continues (firstBufs ++ bufs) (first ++ filled) before after := by
  refine ⟨two.sent.trans one.sent, two.closed.trans one.closed, fun fits slots delivered => ?_⟩
  obtain ⟨fitsFirst, fitsRest⟩ := fits_append.mp fits
  rw [← one.sent] at fitsRest
  rw [← List.append_assoc]
  exact two.delivered fitsRest _ (one.delivered fitsFirst slots delivered)

end Continues

namespace RelayTransport

inductive QueuePolls (transport : RelayTransport ed) :
    Poll (Option (RelayRecvDatagram ed)) → RelayTransport ed → Prop where
  | held {item : RelayRecvDatagram ed} (pending : transport.pendingItem = some item) :
      QueuePolls transport (.ready (some item)) transport
  | taken {item : RelayRecvDatagram ed} {queue : Channel (RelayRecvDatagram ed)}
      (free : transport.pendingItem = none)
      (received : transport.relayDatagramRecvQueue.recv = some (item, queue)) :
      QueuePolls transport (.ready (some item)) ⟨queue, some item⟩
  | closed (ended : transport.relayDatagramRecvQueue.closed = true) :
      QueuePolls transport (.ready none) transport
  | waits : QueuePolls transport .pending transport

theorem queuePolls (transport : RelayTransport ed) (budget : Nat) :
    transport.QueuePolls (transport.pollRecvQueue budget).1
      (transport.pollRecvQueue budget).2.1 := by
  unfold pollRecvQueue
  split
  next item pending => exact .held pending
  next free =>
      split
      · exact .waits
      · split
        next item queue received => exact .taken free received
        · split
          next ended => exact .closed ended
          · exact .waits

theorem QueuePolls.pendingItem {transport after : RelayTransport ed}
    {item : RelayRecvDatagram ed} (polls : transport.QueuePolls (.ready (some item)) after) :
    after.pendingItem = some item := by
  cases polls with
  | held pending => exact pending
  | taken free received => rfl

theorem QueuePolls.continues {transport after : RelayTransport ed}
    {polled : Poll (Option (RelayRecvDatagram ed))} (polls : transport.QueuePolls polled after) :
    Continues [] [] transport after := by
  cases polls with
  | held pending => exact .refl _ _
  | taken free received =>
      obtain ⟨-, taken, closed, -⟩ := Channel.recv_eq_some received
      refine ⟨Channel.sent_of_recv received, closed, fun _ slots delivered => ?_⟩
      rw [free] at delivered
      rw [taken, List.append_nil]
      exact delivered.fetch _
  | closed ended => exact .refl _ _
  | waits => exact .refl _ _

variable {transport : RelayTransport ed} {item : RelayRecvDatagram ed} {buf : Bytes}
  {bufs : List Bytes} {budget : Nat}

private theorem fillSlot_fills (fits : item.datagrams.stride ≤ buf.length) :
    ∃ slot, (transport.fillSlot item buf).1 = .filled slot ∧
      slot.recvInfo = .fromAddr (.relay item.url item.src) ∧
      slot.segments = (item.datagrams.takeSegments
        (numSegments item.datagrams buf.length)).1.segments := by
  have room := Nat.not_lt.mpr (length_takeSegments_le fits)
  rw [fillSlot, if_neg room]
  refine ⟨_, rfl, rfl, ?_⟩
  rw [RecvSlot.segments, List.take_left]
  rfl

private theorem continues_fillSlot (pending : transport.pendingItem = some item) :
    Continues [buf] (transport.fillSlot item buf).1.slots transport
      (transport.fillSlot item buf).2 := by
  refine ⟨rfl, rfl, fun fits slots delivered => ?_⟩
  rw [pending] at delivered
  -- What is held back needs no more room than the item that it is from.
  obtain ⟨original, received, within⟩ := delivered.stride_le
  have room : item.datagrams.stride ≤ buf.length :=
    within.trans (fits original (List.mem_append_left _ received) buf (List.mem_singleton_self _))
  obtain ⟨slot, filled, source, segments⟩ := @fillSlot_fills _ transport item buf room
  rw [filled]
  refine delivered.fill source ?_ stride_takeSegments_snd
  rw [segments, segments_takeSegments (numSegments_pos room)]

private theorem continues_pollRecvSlot :
    Continues [buf] (transport.pollRecvSlot budget buf).1.slots transport
        (transport.pollRecvSlot budget buf).2.1 ∧
      ((transport.pollRecvSlot budget buf).1 = .closed →
        transport.relayDatagramRecvQueue.closed = true) := by
  have polls := transport.queuePolls budget
  rw [pollRecvSlot]
  split
  next after left found =>
      rw [found] at polls
      exact ⟨polls.continues.trans (.refl [buf] _), nofun⟩
  next after left found =>
      rw [found] at polls
      refine ⟨polls.continues.trans (.refl [buf] _), fun _ => ?_⟩
      cases polls with
      | closed ended => exact ended
  next item after left found =>
      rw [found] at polls
      refine ⟨polls.continues.trans (continues_fillSlot polls.pendingItem), fun closed => ?_⟩
      simp only [fillSlot] at closed
      split at closed <;> cases closed

theorem continues_pollRecvSlots :
    Continues bufs (transport.pollRecvSlots budget bufs).2.1 transport
        (transport.pollRecvSlots budget bufs).1 ∧
      ((transport.pollRecvSlots budget bufs).2.2 = true →
        transport.relayDatagramRecvQueue.closed = true) := by
  induction bufs generalizing transport budget with
  | nil => exact ⟨.refl _ _, nofun⟩
  | cons buf bufs inductionHypothesis =>
      obtain ⟨continues, ends⟩ := @continues_pollRecvSlot _ transport buf budget
      rw [pollRecvSlots]
      split
      next slot after left used =>
          rw [used] at continues
          obtain ⟨rest, restEnds⟩ := @inductionHypothesis after left
          exact ⟨continues.trans rest, fun closed => continues.closed.symm.trans (restEnds closed)⟩
      next after left used =>
          rw [used] at continues
          exact ⟨continues.trans (.refl bufs _), nofun⟩
      next after left used =>
          rw [used] at continues ends
          exact ⟨continues.trans (.refl bufs _), fun _ => ends rfl⟩

private theorem pollRecv_result (isOpen : transport.relayDatagramRecvQueue.closed = false) :
    (transport.pollRecv budget bufs).result =
        .ready (.ok (transport.pollRecv budget bufs).filled.length) ∨
      (transport.pollRecv budget bufs).result = .pending ∧
        (transport.pollRecv budget bufs).filled = [] := by
  have goesOn : (transport.pollRecvSlots budget bufs).2.2 = false := by
    rw [← Bool.not_eq_true]
    intro ends
    exact Bool.false_ne_true (isOpen.symm.trans (continues_pollRecvSlots.2 ends))
  simp only [pollRecv, goesOn, Bool.false_eq_true, if_false]
  split
  · exact .inl rfl
  next nothing => exact .inr ⟨rfl, List.length_eq_zero_iff.mp (Nat.eq_zero_of_not_pos nothing)⟩

private theorem pollRecvQueue_ready (available : transport.pendingItem ≠ none ∨
      transport.relayDatagramRecvQueue.pending ≠ [] ∧ 0 < budget) :
    ∃ item after left, transport.pollRecvQueue budget = (.ready (some item), after, left) := by
  unfold pollRecvQueue
  split
  next item pending => exact ⟨_, _, _, rfl⟩
  next free =>
      obtain ⟨nonempty, positive⟩ := available.resolve_left fun held => held free
      obtain ⟨left, rfl⟩ := Nat.exists_eq_add_one.mpr positive
      obtain ⟨item, queue, received⟩ := Channel.exists_recv nonempty
      simp only [received]
      exact ⟨_, _, _, rfl⟩

/-- A call fills its first buffer if there is an item. -/
theorem pollRecv_fills {slots : List (RecvSlot ed)}
    (delivered : Delivered transport.relayDatagramRecvQueue.received transport.pendingItem slots)
    (fits : Fits transport.relayDatagramRecvQueue.sent [buf])
    (available : transport.pendingItem ≠ none ∨
      transport.relayDatagramRecvQueue.pending ≠ [] ∧ 0 < budget) :
    (transport.pollRecv budget (buf :: bufs)).filled ≠ [] := by
  obtain ⟨item, after, left, found⟩ := pollRecvQueue_ready available
  have polls := transport.queuePolls budget
  rw [found] at polls
  have continues := polls.continues
  have now := continues.delivered (fun _ _ _ inside => absurd inside List.not_mem_nil) slots
    delivered
  rw [polls.pendingItem] at now
  obtain ⟨original, received, within⟩ := now.stride_le
  have sent : original ∈ transport.relayDatagramRecvQueue.sent :=
    continues.sent ▸ List.mem_append_left _ received
  have room := within.trans (fits original sent buf (List.mem_singleton_self _))
  obtain ⟨slot, filled, -⟩ := @fillSlot_fills _ after item buf room
  have used : transport.pollRecvSlot budget buf =
      (.filled slot, (after.fillSlot item buf).2, left) := by
    simp only [pollRecvSlot, found, filled]
  simp [pollRecv, pollRecvSlots, used]

end RelayTransport

namespace RecvRun

private theorem delivered_of_reaches {history : List (RecvStep ed)} {run : RecvRun ed}
    (reached : (relayRecv ed).Reaches history run)
    (fits : Fits run.transport.relayDatagramRecvQueue.sent (history.flatMap RecvStep.bufs)) :
    Delivered run.transport.relayDatagramRecvQueue.received run.transport.pendingItem
      run.filled := by
  revert fits
  apply reached.invariant fun history run =>
    Fits run.transport.relayDatagramRecvQueue.sent (history.flatMap RecvStep.bufs) →
      Delivered run.transport.relayDatagramRecvQueue.received run.transport.pendingItem run.filled
  · exact fun _ => Delivered.whole List.Forall₂.nil
  · intro history run step _ _ delivered fits
    rw [List.flatMap_append, List.flatMap_singleton] at fits
    obtain ⟨fitsBefore, fitsNow⟩ := fits_append.mp fits
    cases step with
    | trySend item =>
        have kept := delivered fun item sent =>
          fitsBefore item (Channel.sent_offer ▸ List.mem_append_left _ sent)
        rw [← @Channel.received_offer _ run.transport.relayDatagramRecvQueue item] at kept
        exact kept
    | close => exact delivered fitsBefore
    | pollRecv bufs budget =>
        obtain ⟨continues, -⟩ :=
          @RelayTransport.continues_pollRecvSlots _ run.transport bufs budget
        exact continues.delivered (continues.sent ▸ fitsNow) run.filled
          (delivered (continues.sent ▸ fitsBefore))

private theorem reported_of_reaches {history : List (RecvStep ed)} {run : RecvRun ed}
    (reached : (relayRecv ed).Reaches history run)
    (isOpen : run.transport.relayDatagramRecvQueue.closed = false) :
    run.reported = run.filled := by
  revert isOpen
  apply reached.invariant fun _ run =>
    run.transport.relayDatagramRecvQueue.closed = false → run.reported = run.filled
  · exact fun _ => rfl
  · intro _ run step _ _ reported isOpen
    cases step with
    | trySend item => exact reported (Channel.closed_offer.symm.trans isOpen)
    | close => cases isOpen
    | pollRecv bufs budget =>
        obtain ⟨continues, ends⟩ :=
          @RelayTransport.continues_pollRecvSlots _ run.transport bufs budget
        have before := continues.closed.symm.trans isOpen
        simp only [relayRecv, step, reported before]
        rcases RelayTransport.pollRecv_result before with told | ⟨waits, nothing⟩
        · rw [told]
          exact congrArg (run.filled ++ ·) List.take_length
        · rw [waits, nothing, List.append_nil]

end RecvRun

/-- In every run of senders and of calls of `poll_recv` whose buffers all have room for
one datagram of every queued item, the filled slots have the queued datagrams with their
sources, in order, each of them once, up to the item that is held back and those still in
the queue. No slot mixes two items. While the queue is open the caller is told of all
filled slots, and a call fills its first buffer whenever there is an item. -/
theorem relay_recv_delivers_each_once (history : List (RecvStep ed)) (run : RecvRun ed)
    (reached : (relayRecv ed).Reaches history run)
    (fits : Fits run.transport.relayDatagramRecvQueue.sent (history.flatMap RecvStep.bufs)) :
    run.filled.flatMap RecvSlot.sourced ++
          run.transport.pendingItem.toList.flatMap RelayRecvDatagram.sourced ++
        run.transport.relayDatagramRecvQueue.pending.flatMap RelayRecvDatagram.sourced =
        run.transport.relayDatagramRecvQueue.sent.flatMap RelayRecvDatagram.sourced ∧
      Delivered run.transport.relayDatagramRecvQueue.received run.transport.pendingItem
        run.filled ∧
      (run.transport.relayDatagramRecvQueue.closed = false → run.reported = run.filled) ∧
      ∀ buf bufs budget, Fits run.transport.relayDatagramRecvQueue.sent [buf] →
        (run.transport.pendingItem ≠ none ∨
          run.transport.relayDatagramRecvQueue.pending ≠ [] ∧ 0 < budget) →
        (run.transport.pollRecv budget (buf :: bufs)).filled ≠ [] := by
  have delivered := RecvRun.delivered_of_reaches reached fits
  refine ⟨?_, delivered, RecvRun.reported_of_reaches reached, fun buf bufs budget room =>
    RelayTransport.pollRecv_fills delivered room⟩
  rw [delivered.sourced_eq, Channel.sent, List.flatMap_append]

/-- A single datagram and a batch whose last segment waits for a second call. -/
def batchOverTwoCalls : List (RecvStep Crates.reference.ed25519) :=
  [.trySend ⟨⟨"https://a"⟩, Crates.smallKey 5 (by decide), ⟨none, none, [1, 2, 3]⟩⟩,
    .trySend ⟨⟨"https://b"⟩, Crates.smallKey 6 (by decide),
      ⟨some .ce, some ⟨2, by decide⟩, [4, 5, 6, 7, 8]⟩⟩,
    .pollRecv [[0, 0, 0, 0, 0], [0, 0, 0, 0, 0]] 8, .pollRecv [[0, 0, 0], [0, 0, 0]] 8]

theorem batchOverTwoCalls_delivered :
    let run := (relayRecv Crates.reference.ed25519).runFrom ⟨.new, [], []⟩ batchOverTwoCalls
    run.transport.pendingItem = none ∧ run.filled.length = 3 ∧ run.reported = run.filled ∧
      run.filled.flatMap RecvSlot.sourced ++
            run.transport.pendingItem.toList.flatMap RelayRecvDatagram.sourced ++
          run.transport.relayDatagramRecvQueue.pending.flatMap RelayRecvDatagram.sourced =
        run.transport.relayDatagramRecvQueue.sent.flatMap RelayRecvDatagram.sourced :=
  have delivers := relay_recv_delivers_each_once batchOverTwoCalls
    ((relayRecv Crates.reference.ed25519).runFrom ⟨.new, [], []⟩ batchOverTwoCalls)
    (Machine.reaches_runFrom (by decide)) (by decide)
  ⟨by decide, by decide, delivers.2.2.1 (by decide), delivers.1⟩

/-- The senders are gone: the last datagram is in a buffer, and the call fails. -/
example :
    let run := (relayRecv Crates.reference.ed25519).runFrom ⟨.new, [], []⟩
      [.trySend ⟨⟨"https://a"⟩, Crates.smallKey 5 (by decide), ⟨none, none, [1, 2, 3]⟩⟩, .close,
        .pollRecv [[0, 0, 0], [0, 0, 0]] 8]
    run.filled.length = 1 ∧ run.reported = [] := by
  decide

end NexalinkTunnel.Socket.Relay
