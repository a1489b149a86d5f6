import NexalinkTunnel.Socket.Relay.Recv

/-!
Contract: progress of `RelayTransport::poll_recv`.

Owns which filled slots take a datagram out of the queue, a bound on the messages of a
run in which all of them do, and what a call has done when it returns `Pending`.

Does not own: what is delivered, and the wakers. Whether a waker is registered is read
off the queue: it is if the call polled the queue and the queue returned `Pending`.

## A segment size above the length of the buffer

No segment of the batch fits the buffer, so none is taken, and the slot is filled with an
empty message. As the batch is still there, the next call does the same.
-/

namespace NexalinkTunnel.Socket.Relay

open Lib Base Relay.Protos

variable {ed : Ed25519}

/-! ## Segments that are left -/

def segmentCount (items : List (RelayRecvDatagram ed)) : Nat :=
  (items.flatMap fun item => item.datagrams.segments).length

@[simp] theorem segmentCount_nil : segmentCount ([] : List (RelayRecvDatagram ed)) = 0 := rfl

@[simp] theorem segmentCount_cons (item : RelayRecvDatagram ed)
    (items : List (RelayRecvDatagram ed)) :
    segmentCount (item :: items) = item.datagrams.segments.length + segmentCount items := by
  rw [segmentCount, List.flatMap_cons, List.length_append, segmentCount]

@[simp] theorem segmentCount_append (items later : List (RelayRecvDatagram ed)) :
    segmentCount (items ++ later) = segmentCount items + segmentCount later := by
  rw [segmentCount, List.flatMap_append, List.length_append, segmentCount, segmentCount]

namespace RelayTransport

def segmentsLeft (transport : RelayTransport ed) : Nat :=
  segmentCount transport.pendingItem.toList +
    segmentCount transport.relayDatagramRecvQueue.pending

/-- The item has a datagram, and the segment size of a batch fits the buffer. -/
def Takes (item : RelayRecvDatagram ed) (buf : Bytes) : Prop :=
  item.datagrams.contents ≠ [] ∧
    ∀ segmentSize ∈ item.datagrams.segmentSize, segmentSize.value.toNat ≤ buf.length
deriving Decidable

/-- Every slot that a call fills takes a datagram out of the item or the queue. -/
def EverySlotRemoves (transport : RelayTransport ed) (budget : Nat) : List Bytes → Prop
  | [] => True
  | buf :: bufs =>
      match transport.pollRecvSlot budget buf with
      | (.filled _, after, left) =>
          after.segmentsLeft < transport.segmentsLeft ∧ after.EverySlotRemoves left bufs
      | _ => True

/-- Every slot that a call fills is filled from an item that `Takes` its buffer. -/
def EverySlotTakes (transport : RelayTransport ed) (budget : Nat) : List Bytes → Prop
  | [] => True
  | buf :: bufs =>
      match transport.pollRecvQueue budget, transport.pollRecvSlot budget buf with
      | (.ready (some item), _), (.filled _, after, left) =>
          Takes item buf ∧ after.EverySlotTakes left bufs
      | _, _ => True

variable {transport after : RelayTransport ed} {item : RelayRecvDatagram ed} {buf : Bytes}
  {bufs : List Bytes} {budget left : Nat} {slot : RecvSlot ed}

private theorem QueuePolls.segmentsLeft {polled : Poll (Option (RelayRecvDatagram ed))}
    (polls : transport.QueuePolls polled after) : after.segmentsLeft = transport.segmentsLeft := by
  cases polls with
  | held pending => rfl
  | taken free received =>
      obtain ⟨pending, -⟩ := Channel.recv_eq_some received
      simp [RelayTransport.segmentsLeft, free, pending]
  | closed ended => rfl
  | waits => rfl

private theorem length_segments_pos_iff {datagrams : Datagrams} :
    0 < datagrams.segments.length ↔ datagrams.contents ≠ [] := by
  rw [List.length_pos_iff, ne_eq, Datagrams.segments, chunks_eq_nil]

theorem length_segments_split {datagrams : Datagrams} {count : Nat} (positive : 0 < count) :
    (datagrams.takeSegments count).1.segments.length +
      (datagrams.takeSegments count).2.segments.length = datagrams.segments.length := by
  rw [← List.length_append, segments_takeSegments positive]

private theorem segments_takeSegments_zero {datagrams : Datagrams} {segmentSize : NonZeroU16}
    (batch : datagrams.segmentSize = some segmentSize) :
    (datagrams.takeSegments 0).2.segments = datagrams.segments := by
  rw [segments_eq_chunks (shape_takeSegments_snd batch), segments_eq_chunks (.inl batch),
    (contents_takeSegments batch).2, Nat.zero_mul, List.drop_zero]

theorem segments_left_of_single {datagrams : Datagrams} {count : Nat}
    (single : datagrams.segmentSize = none) : (datagrams.takeSegments count).2.segments = [] := by
  simp [Datagrams.takeSegments, single, Datagrams.segments]

private theorem length_segments_left_lt_iff {datagrams : Datagrams} {bufLen : Nat} :
    (datagrams.takeSegments (numSegments datagrams bufLen)).2.segments.length <
        datagrams.segments.length ↔
      datagrams.contents ≠ [] ∧
        ∀ segmentSize ∈ datagrams.segmentSize, segmentSize.value.toNat ≤ bufLen := by
  cases shape : datagrams.segmentSize with
  | none =>
      rw [segments_left_of_single shape, List.length_nil, length_segments_pos_iff]
      simp
  | some segmentSize =>
      have count : numSegments datagrams bufLen = bufLen / segmentSize.value.toNat := by
        rw [numSegments, shape, Option.elim_some]
      simp only [Option.mem_def, Option.some.injEq, forall_eq']
      by_cases fits : segmentSize.value.toNat ≤ bufLen
      · have positive : 0 < numSegments datagrams bufLen :=
          count ▸ Nat.div_pos fits segmentSize_pos
        have room : 0 < numSegments datagrams bufLen * segmentSize.value.toNat :=
          Nat.mul_pos positive segmentSize_pos
        have taken : (datagrams.takeSegments (numSegments datagrams bufLen)).1.contents ≠ [] ↔
            datagrams.contents ≠ [] := by
          rw [(contents_takeSegments shape).1, ne_eq, List.take_eq_nil_iff]
          simp [Nat.ne_of_gt room]
        have split := @length_segments_split datagrams _ positive
        rw [and_iff_left fits, ← taken, ← length_segments_pos_iff]
        omega
      · -- no segment fits the buffer, so none is taken
        have none : numSegments datagrams bufLen = 0 :=
          count ▸ Nat.div_eq_of_lt (Nat.lt_of_not_le fits)
        rw [none, segments_takeSegments_zero shape]
        simp [fits]

private theorem length_segments_left_le {datagrams : Datagrams} {count : Nat} :
    (datagrams.takeSegments count).2.segments.length ≤ datagrams.segments.length := by
  rcases Nat.eq_zero_or_pos count with rfl | positive
  · cases shape : datagrams.segmentSize with
    | none => simp [segments_left_of_single shape]
    | some segmentSize => rw [segments_takeSegments_zero shape]
  · have split := @length_segments_split datagrams _ positive
    omega

private theorem segmentsLeft_fillSlot (pending : transport.pendingItem = some item) :
    (transport.fillSlot item buf).2.segmentsLeft + item.datagrams.segments.length =
      transport.segmentsLeft + (item.datagrams.takeSegments
        (numSegments item.datagrams buf.length)).2.segments.length := by
  have before : transport.segmentsLeft = item.datagrams.segments.length +
      segmentCount transport.relayDatagramRecvQueue.pending := by
    simp [segmentsLeft, pending]
  set rest := (item.datagrams.takeSegments (numSegments item.datagrams buf.length)).2
  have after : (transport.fillSlot item buf).2.segmentsLeft = rest.segments.length +
      segmentCount transport.relayDatagramRecvQueue.pending := by
    show segmentCount (if rest.contents = [] then none else
        some { item with datagrams := rest }).toList +
      segmentCount transport.relayDatagramRecvQueue.pending = _
    split
    next empty => simp [Datagrams.segments, empty]
    next => simp
  omega

private theorem segmentsLeft_fillSlot_lt_iff (pending : transport.pendingItem = some item) :
    (transport.fillSlot item buf).2.segmentsLeft < transport.segmentsLeft ↔ Takes item buf := by
  have balance := @segmentsLeft_fillSlot _ transport item buf pending
  rw [Takes, ← length_segments_left_lt_iff]
  omega

private theorem pollRecvSlot_eq_filled
    (filled : transport.pollRecvSlot budget buf = (.filled slot, after, left)) :
    ∃ item polled, transport.pollRecvQueue budget = (.ready (some item), polled, left) ∧
      polled.pendingItem = some item ∧ polled.segmentsLeft = transport.segmentsLeft ∧
      after = (polled.fillSlot item buf).2 := by
  have polls := transport.queuePolls budget
  unfold pollRecvSlot at filled
  split at filled
  next => cases filled
  next => cases filled
  next item polled rest found =>
      rw [found] at polls
      obtain ⟨-, rfl, rfl⟩ : _ ∧ (polled.fillSlot item buf).2 = after ∧ rest = left := by
        simpa [Prod.ext_iff] using filled
      exact ⟨item, polled, found, polls.pendingItem, polls.segmentsLeft, rfl⟩

private theorem everySlotRemoves_iff :
    transport.EverySlotRemoves budget bufs ↔ transport.EverySlotTakes budget bufs := by
  induction bufs generalizing transport budget with
  | nil => exact Iff.rfl
  | cons buf bufs inductionHypothesis =>
      rw [EverySlotRemoves, EverySlotTakes]
      cases used : transport.pollRecvSlot budget buf with
      | mk result rest =>
          obtain ⟨after, left⟩ := rest
          cases result with
          | filled slot =>
              obtain ⟨item, polled, found, pending, same, rfl⟩ := pollRecvSlot_eq_filled used
              rw [found]
              dsimp only
              rw [← same, segmentsLeft_fillSlot_lt_iff pending, inductionHypothesis]
          | stopped => simp
          | closed => simp

private theorem segmentsLeft_pollRecvSlot_le :
    (transport.pollRecvSlot budget buf).2.1.segmentsLeft ≤ transport.segmentsLeft := by
  have polls := transport.queuePolls budget
  unfold pollRecvSlot
  split
  next polled rest found =>
      rw [found] at polls
      exact polls.segmentsLeft.le
  next polled rest found =>
      rw [found] at polls
      exact polls.segmentsLeft.le
  next item polled rest found =>
      rw [found] at polls
      have balance := @segmentsLeft_fillSlot _ polled item buf polls.pendingItem
      have less := @length_segments_left_le item.datagrams (numSegments item.datagrams buf.length)
      have same := polls.segmentsLeft
      dsimp only at same ⊢
      omega

/-- A call that makes progress fills no more slots than it takes datagrams. -/
theorem length_filled_add_segmentsLeft_le (removes : transport.EverySlotRemoves budget bufs) :
    (transport.pollRecvSlots budget bufs).2.1.length +
      (transport.pollRecvSlots budget bufs).1.segmentsLeft ≤ transport.segmentsLeft := by
  induction bufs generalizing transport budget with
  | nil => exact Nat.le_of_eq (Nat.zero_add _)
  | cons buf bufs inductionHypothesis =>
      have less := @segmentsLeft_pollRecvSlot_le _ transport buf budget
      rw [EverySlotRemoves] at removes
      rw [pollRecvSlots]
      split
      next slot after left used =>
          rw [used] at removes
          have rest := inductionHypothesis removes.2
          have removed := removes.1
          have total : (after.pollRecvSlots left bufs).2.1.length + 1 +
              (after.pollRecvSlots left bufs).1.segmentsLeft ≤ transport.segmentsLeft := by omega
          exact total
      next after left used =>
          rw [used] at less
          simpa using less
      next after left used =>
          rw [used] at less
          simpa using less

end RelayTransport

/-- The slots that a step fills are filled from items that fit their buffers. -/
def RecvRun.Progresses (run : RecvRun ed) : RecvStep ed → Prop
  | .pollRecv bufs budget => run.transport.EverySlotTakes budget bufs
  | .trySend _ | .close => True

/-- In a run whose steps make progress there are no more messages than datagrams. -/
theorem RecvRun.length_filled_le {history : List (RecvStep ed)} {run : RecvRun ed}
    (reached : ((relayRecv ed).restrict fun _ run step => run.Progresses step).Reaches
      history run) :
    run.filled.length + run.transport.segmentsLeft ≤
      segmentCount run.transport.relayDatagramRecvQueue.sent := by
  apply reached.invariant fun _ run =>
    run.filled.length + run.transport.segmentsLeft ≤
      segmentCount run.transport.relayDatagramRecvQueue.sent
  · exact Nat.le_refl 0
  · intro history run step before enabled bound
    cases step with
    | trySend item =>
        set queue := run.transport.relayDatagramRecvQueue with queue_eq
        show run.filled.length + (segmentCount run.transport.pendingItem.toList +
          segmentCount (queue.offer item).pending) ≤ segmentCount (queue.offer item).sent
        by_cases room : queue.HasRoom
        · rw [Channel.offer_of_hasRoom room, Channel.sent_push, Channel.push, segmentCount_append,
            segmentCount_append]
          simp only [RelayTransport.segmentsLeft, ← queue_eq] at bound
          omega
        · rw [Channel.offer_of_not_hasRoom room]
          exact bound
    | close => exact bound
    | pollRecv bufs budget =>
        have removes := RelayTransport.everySlotRemoves_iff.mpr enabled.2
        have call := RelayTransport.length_filled_add_segmentsLeft_le removes
        obtain ⟨continues, -⟩ :=
          @RelayTransport.continues_pollRecvSlots _ run.transport bufs budget
        show (run.filled ++ (run.transport.pollRecvSlots budget bufs).2.1).length +
            (run.transport.pollRecvSlots budget bufs).1.segmentsLeft ≤
          segmentCount (run.transport.pollRecvSlots budget bufs).1.relayDatagramRecvQueue.sent
        rw [List.length_append, continues.sent]
        omega

/-- A filled slot takes a datagram exactly if the item that it is filled from has one and the
segment size of a batch fits the buffer. In a run in which all filled slots do, there are no more
messages than datagrams were queued. -/
theorem relay_recv_progress_iff :
    (∀ (transport : RelayTransport ed) (budget : Nat) (bufs : List Bytes),
      transport.EverySlotRemoves budget bufs ↔ transport.EverySlotTakes budget bufs) ∧
    ∀ (history : List (RecvStep ed)) (run : RecvRun ed),
      ((relayRecv ed).restrict fun _ run step => run.Progresses step).Reaches history run →
        run.filled.length ≤ segmentCount run.transport.relayDatagramRecvQueue.sent := by
  refine ⟨fun transport budget bufs => RelayTransport.everySlotRemoves_iff, ?_⟩
  intro history run reached
  have bound := RecvRun.length_filled_le reached
  omega

def threeByteBatch : RelayRecvDatagram Crates.reference.ed25519 :=
  ⟨⟨"https://a"⟩, Crates.smallKey 0 (by decide), ⟨none, some ⟨3, by decide⟩, [1, 2, 3, 4]⟩⟩

def holdsBatch : RelayTransport Crates.reference.ed25519 :=
  ⟨⟨512, [threeByteBatch], [], false, Nat.zero_le _⟩, some threeByteBatch⟩

private theorem pollRecv_holdsBatch :
    ∃ slot, slot.recvMeta.len = 0 ∧
      holdsBatch.pollRecv 8 [[0, 0]] = ⟨holdsBatch, [slot], .ready (.ok 1)⟩ :=
  ⟨_, rfl, rfl⟩

private theorem length_filled_holdsBatch (run : RecvRun Crates.reference.ed25519) (count : Nat)
    (stuck : run.transport = holdsBatch) :
    ((relayRecv _).runFrom run (List.replicate count (.pollRecv [[0, 0]] 8))).filled.length =
        run.filled.length + count ∧
      ((relayRecv _).runFrom run (List.replicate count (.pollRecv [[0, 0]] 8))).transport =
        holdsBatch := by
  induction count generalizing run with
  | zero => exact ⟨rfl, stuck⟩
  | succ count inductionHypothesis =>
      obtain ⟨slot, -, polled⟩ := pollRecv_holdsBatch
      have next := inductionHypothesis (run.step (.pollRecv [[0, 0]] 8)) (by
        simp only [RecvRun.step, stuck, polled])
      have filled : (run.step (.pollRecv [[0, 0]] 8)).filled.length = run.filled.length + 1 := by
        simp only [RecvRun.step, stuck, polled, List.length_append, List.length_singleton]
      rw [filled, Nat.add_assoc, Nat.add_comm 1] at next
      exact next

private theorem enabledFrom_relayRecv (history : List (RecvStep ed)) (run : RecvRun ed)
    (steps : List (RecvStep ed)) : (relayRecv ed).EnabledFrom history run steps := by
  induction steps generalizing history run with
  | nil => trivial
  | cons step steps inductionHypothesis => exact ⟨trivial, inductionHypothesis _ _⟩

/-- One batch of two datagrams gives any number of messages, all of them empty. -/
theorem relay_recv_endless_messages :
    Datagrams.fromBytes Crates.reference [0, 0, 3, 1, 2, 3, 4] true =
        .ok threeByteBatch.datagrams ∧
      ¬ holdsBatch.EverySlotRemoves 8 [[0, 0]] ∧
      ∀ count, ∃ history run, (relayRecv _).Reaches history run ∧
        run.transport.relayDatagramRecvQueue.sent = [threeByteBatch] ∧
        run.filled.length = count + 1 := by
  have decoded : Datagrams.fromBytes Crates.reference [0, 0, 3, 1, 2, 3, 4] true =
      .ok threeByteBatch.datagrams := by decide
  have stays : ¬ holdsBatch.EverySlotRemoves 8 [[0, 0]] := by
    intro removes
    exact Nat.lt_irrefl _ removes.1
  refine ⟨decoded, stays, ?_⟩
  intro count
  have first : (relayRecv _).Reaches [.trySend threeByteBatch, .pollRecv [[0, 0]] 8]
      ((relayRecv _).runFrom (relayRecv _).start
        [.trySend threeByteBatch, .pollRecv [[0, 0]] 8]) := Machine.reaches_runFrom (by decide)
  have more := length_filled_holdsBatch _ count (rfl :
    ((relayRecv _).runFrom (relayRecv _).start
      [.trySend threeByteBatch, .pollRecv [[0, 0]] 8]).transport = holdsBatch)
  refine ⟨_, _, first.extend (enabledFrom_relayRecv _ _ (List.replicate count
    (.pollRecv [[0, 0]] 8))), ?_, ?_⟩
  · rw [more.2]
    rfl
  · rw [more.1, Nat.add_comm]
    rfl

namespace RelayTransport

/-- In the call, the queue is polled and returns `Pending`. -/
def WaitsOnQueue (transport : RelayTransport ed) (budget : Nat) : List Bytes → Prop
  | [] => False
  | buf :: bufs =>
      (transport.pollRecvQueue budget).1 = .pending ∨
        match transport.pollRecvSlot budget buf with
        | (.filled _, after, left) => after.WaitsOnQueue left bufs
        | _ => False

/-- The next item is a single datagram that is larger than the buffer. -/
def Drops (transport : RelayTransport ed) (budget : Nat) (buf : Bytes) : Prop :=
  ∃ item, (transport.pollRecvQueue budget).1 = .ready (some item) ∧
    item.datagrams.segmentSize = none ∧ buf.length < item.datagrams.contents.length

variable {transport : RelayTransport ed} {item : RelayRecvDatagram ed} {buf : Bytes}
  {bufs : List Bytes} {budget : Nat}

private theorem lt_length_takeSegments_iff {datagrams : Datagrams} {bufLen : Nat} :
    bufLen < (datagrams.takeSegments (numSegments datagrams bufLen)).1.contents.length ↔
      datagrams.segmentSize = none ∧ bufLen < datagrams.contents.length := by
  cases shape : datagrams.segmentSize with
  | none => simp [Datagrams.takeSegments, shape]
  | some segmentSize =>
      have fits : (datagrams.takeSegments (numSegments datagrams bufLen)).1.contents.length ≤
          bufLen := length_takeSegments_le_of_batch shape
      simpa using fits

private theorem pollRecvQueue_eq_pending {after : RelayTransport ed} {left : Nat}
    (waits : transport.pollRecvQueue budget = (.pending, after, left)) :
    transport.pendingItem = none ∧ after = transport := by
  have polls := transport.queuePolls budget
  rw [waits] at polls
  cases pending : transport.pendingItem with
  | some item =>
      simp only [pollRecvQueue, pending] at waits
      cases waits
  | none =>
      cases polls with
      | waits => exact ⟨rfl, rfl⟩

/-- The item that is polled is dropped if it is a single datagram larger than the buffer, and fills
the slot otherwise. -/
theorem fillSlot_result (transport : RelayTransport ed) (item : RelayRecvDatagram ed)
    (buf : Bytes) :
    (item.datagrams.segmentSize = none ∧ buf.length < item.datagrams.contents.length ∧
        (transport.fillSlot item buf).1 = .stopped) ∨
      (¬ (item.datagrams.segmentSize = none ∧ buf.length < item.datagrams.contents.length) ∧
        ∃ slot, (transport.fillSlot item buf).1 = .filled slot) := by
  rw [← and_assoc, ← lt_length_takeSegments_iff]
  by_cases large : buf.length < (item.datagrams.takeSegments
      (numSegments item.datagrams buf.length)).1.contents.length
  · rw [fillSlot, if_pos large]
    exact .inl ⟨large, rfl⟩
  · rw [fillSlot, if_neg large]
    exact .inr ⟨large, _, rfl⟩

/-- A call that returns `Pending` has left nothing behind and waits for the queue, unless its first
buffer is too small for the single datagram that is next: this one is dropped. -/
theorem relay_recv_pending_waits_iff (transport : RelayTransport ed) (budget : Nat) (buf : Bytes)
    (bufs : List Bytes) :
    ((transport.pollRecv budget (buf :: bufs)).result = .pending →
        (transport.pollRecv budget (buf :: bufs)).transport.pendingItem = none ∧
          transport.WaitsOnQueue budget (buf :: bufs)) ↔
      ¬ transport.Drops budget buf := by
  cases found : transport.pollRecvQueue budget with
  | mk polled rest =>
      obtain ⟨after, left⟩ := rest
      have dropsOnly {item : RelayRecvDatagram ed}
          (ready : (transport.pollRecvQueue budget).1 = .ready (some item)) :
          polled = .ready (some item) := by rwa [found] at ready
      rcases polled with (_ | item) | _
      · -- the queue is closed: the call fails
        refine iff_of_true (fun waits => ?_) ?_
        · simp [pollRecv, pollRecvSlots, pollRecvSlot, found] at waits
        · rintro ⟨item, ready, -⟩
          cases dropsOnly ready
      · rcases fillSlot_result after item buf with ⟨single, large, stopped⟩ | ⟨fits, slot, filled⟩
        · -- the datagram is dropped, and the queue was not asked further
          refine iff_of_false ?_ (not_not.mpr ⟨item, by rw [found], single, large⟩)
          intro sleeps
          obtain ⟨-, waits⟩ := sleeps (by
            simp [pollRecv, pollRecvSlots, pollRecvSlot, found, stopped])
          simp [WaitsOnQueue, pollRecvSlot, found, stopped] at waits
        · -- there is a message, so the call is ready
          refine iff_of_true (fun waits => ?_) ?_
          · simp only [pollRecv, pollRecvSlots, pollRecvSlot, found, filled, List.length_cons,
              Nat.zero_lt_succ, if_true] at waits
            split at waits <;> cases waits
          · rintro ⟨other, ready, dropped⟩
            cases dropsOnly ready
            exact fits dropped
      · -- the queue is empty
        obtain ⟨free, rfl⟩ := pollRecvQueue_eq_pending found
        refine iff_of_true (fun _ => ?_) ?_
        · simp [pollRecv, pollRecvSlots, pollRecvSlot, found, free, WaitsOnQueue]
        · rintro ⟨item, ready, -⟩
          cases dropsOnly ready

/-- A datagram of three bytes is dropped for a buffer of one. The call returns `Pending` with
another datagram in the queue, which it has not asked again. -/
theorem relay_recv_sleeps_with_work :
    let large : RelayRecvDatagram Crates.reference.ed25519 :=
      ⟨⟨"https://a"⟩, threeByteBatch.src, ⟨none, none, [1, 2, 3]⟩⟩
    let small : RelayRecvDatagram Crates.reference.ed25519 :=
      ⟨⟨"https://a"⟩, threeByteBatch.src, ⟨none, none, [4]⟩⟩
    let run := (relayRecv _).runFrom (relayRecv _).start [.trySend large, .trySend small]
    let call := run.transport.pollRecv 8 [[0]]
    call.result = .pending ∧ call.transport.relayDatagramRecvQueue.pending = [small] ∧
      ¬ run.transport.WaitsOnQueue 8 [[0]] := by
  intro large small run call
  refine ⟨rfl, rfl, ?_⟩
  intro waits
  rcases waits with queue | later
  · cases queue
  · exact later

end RelayTransport

end NexalinkTunnel.Socket.Relay
