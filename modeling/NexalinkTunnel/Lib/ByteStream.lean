import NexalinkTunnel.Lib.Bytes

/-!
Contract: programs that copy from a byte stream to a byte stream.

Owns readers that deliver their bytes in chunks of any size, writers, the
programs that use one of each, and one rule for each operation. Nothing here
names a particular format.

Does not own: time. An operation that would wait is taken once it can proceed.
-/

namespace NexalinkTunnel.Lib

inductive IoErrorKind where
  | unexpectedEof
  | invalidData
  | other (code : Nat)
deriving DecidableEq, Repr

structure IoError where
  kind : IoErrorKind
  message : String
deriving DecidableEq, Repr

/-- What one read can deliver. It is not empty, since an empty read means the end. -/
structure Chunk where
  bytes : Bytes
  nonempty : bytes ≠ []

/-- A reader that will deliver `chunks` one after another and then end, cleanly or
with a fault. -/
structure Reader where
  chunks : List Chunk
  ending : Option IoError

namespace Reader

def bytes (reader : Reader) : Bytes := reader.chunks.flatMap Chunk.bytes

def pushBack (left : Bytes) (chunks : List Chunk) : List Chunk :=
  if nonempty : left ≠ [] then ⟨left, nonempty⟩ :: chunks else chunks

@[simp] theorem flatMap_pushBack (left : Bytes) (chunks : List Chunk) :
    (pushBack left chunks).flatMap Chunk.bytes = left ++ chunks.flatMap Chunk.bytes := by
  by_cases nonempty : left = []
  · simp [pushBack, nonempty]
  · simp [pushBack, nonempty]

/-- `read`: at most one chunk, and at most as many bytes as the buffer has. -/
def read (capacity : Nat) (reader : Reader) : Except IoError Bytes × Reader :=
  match reader.chunks with
  | chunk :: rest =>
      (.ok (chunk.bytes.take capacity),
        { reader with chunks := pushBack (chunk.bytes.drop capacity) rest })
  | [] =>
      match reader.ending with
      | none => (.ok [], reader)
      | some fault => (.error fault, reader)

/-- `count` bytes from the front, reading chunk after chunk. -/
def splitAt : Nat → List Chunk → Option (Bytes × List Chunk)
  | 0, chunks => some ([], chunks)
  | _ + 1, [] => none
  | count + 1, chunk :: rest =>
      if chunk.bytes.length ≤ count + 1 then
        (splitAt (count + 1 - chunk.bytes.length) rest).map fun split =>
          (chunk.bytes ++ split.1, split.2)
      else
        some (chunk.bytes.take (count + 1), pushBack (chunk.bytes.drop (count + 1)) rest)

def earlyEof : IoError := ⟨.unexpectedEof, "early eof"⟩

/-- `read_exact`: fails if the stream ends before the buffer is full, and has then
taken what there was. -/
def readExact (count : Nat) (reader : Reader) : Except IoError Bytes × Reader :=
  match splitAt count reader.chunks with
  | some (front, left) => (.ok front, { reader with chunks := left })
  | none => (.error (reader.ending.getD earlyEof), { reader with chunks := [] })

private theorem splitAt_of_le {count : Nat} {chunks : List Chunk}
    (enough : count ≤ (chunks.flatMap Chunk.bytes).length) :
    ∃ left, splitAt count chunks = some ((chunks.flatMap Chunk.bytes).take count, left) ∧
      left.flatMap Chunk.bytes = (chunks.flatMap Chunk.bytes).drop count := by
  fun_induction splitAt count chunks with
  | case1 chunks => exact ⟨chunks, rfl, rfl⟩
  | case2 count => simp at enough
  | case3 count chunk rest fits inductionHypothesis =>
      rw [List.flatMap_cons, List.length_append] at enough
      obtain ⟨left, found, same⟩ := inductionHypothesis (by omega)
      refine ⟨left, ?_, ?_⟩
      · rw [found, List.flatMap_cons, List.take_append, List.take_of_length_le fits]
        rfl
      · rw [same, List.flatMap_cons, List.drop_append, List.drop_of_length_le fits]
        rfl
  | case4 count chunk rest large =>
      have inside : count + 1 ≤ chunk.bytes.length := by omega
      refine ⟨pushBack (chunk.bytes.drop (count + 1)) rest, ?_, ?_⟩
      · rw [List.flatMap_cons, List.take_append_of_le_length inside]
      · rw [flatMap_pushBack, List.flatMap_cons, List.drop_append_of_le_length inside]

private theorem splitAt_of_lt {count : Nat} {chunks : List Chunk}
    (short : (chunks.flatMap Chunk.bytes).length < count) : splitAt count chunks = none := by
  fun_induction splitAt count chunks with
  | case1 chunks => omega
  | case2 count => rfl
  | case3 count chunk rest fits inductionHypothesis =>
      rw [List.flatMap_cons, List.length_append] at short
      rw [inductionHypothesis (by omega)]
      rfl
  | case4 count chunk rest large =>
      rw [List.flatMap_cons, List.length_append] at short
      omega

private theorem readExact_of_le {reader : Reader} {count : Nat}
    (enough : count ≤ reader.bytes.length) :
    ∃ later, reader.readExact count = (.ok (reader.bytes.take count), later) ∧
      later.bytes = reader.bytes.drop count ∧ later.ending = reader.ending := by
  obtain ⟨left, found, same⟩ := splitAt_of_le enough
  refine ⟨{ reader with chunks := left }, ?_, same, rfl⟩
  rw [readExact, found]
  rfl

private theorem readExact_of_lt {reader : Reader} {count : Nat}
    (short : reader.bytes.length < count) :
    reader.readExact count =
      (.error (reader.ending.getD earlyEof), { reader with chunks := [] }) := by
  rw [readExact, splitAt_of_lt short]

private theorem read_of_bytes {reader : Reader} {capacity : Nat} (room : 0 < capacity)
    (more : reader.bytes ≠ []) :
    ∃ front later, reader.read capacity = (.ok front, later) ∧ front ≠ [] ∧
      front.length ≤ capacity ∧ front ++ later.bytes = reader.bytes ∧
        later.ending = reader.ending := by
  unfold read
  cases chunks : reader.chunks with
  | nil => simp [bytes, chunks] at more
  | cons chunk rest =>
      refine ⟨_, _, rfl, ?_, List.length_take_le _ _, ?_, rfl⟩
      · simp [chunk.nonempty, room.ne']
      · simp [bytes, chunks, ← List.append_assoc]

private theorem read_of_end {reader : Reader} {capacity : Nat} (empty : reader.bytes = [])
    (clean : reader.ending = none) : reader.read capacity = (.ok [], reader) := by
  unfold read
  cases chunks : reader.chunks with
  | nil => simp [clean]
  | cons chunk rest => simp [bytes, chunks, chunk.nonempty] at empty

end Reader

/-- A writer. `limit` says how many more bytes it takes and the fault it then has;
`shutdownFault` is what its shutdown fails with. -/
structure Writer where
  written : Bytes
  shutdowns : Nat
  limit : Option (Nat × IoError)
  shutdownFault : Option IoError

namespace Writer

def reliable : Writer := ⟨[], 0, none, none⟩

def wrote (writer : Writer) (bytes : Bytes) : Writer :=
  { writer with written := writer.written ++ bytes }

@[simp] theorem wrote_nil (writer : Writer) : writer.wrote [] = writer := by
  simp [wrote]

@[simp] theorem wrote_wrote (writer : Writer) (first second : Bytes) :
    (writer.wrote first).wrote second = writer.wrote (first ++ second) := by
  simp [wrote]

@[simp] theorem wrote_written (writer : Writer) (bytes : Bytes) :
    (writer.wrote bytes).written = writer.written ++ bytes := rfl

@[simp] theorem wrote_limit (writer : Writer) (bytes : Bytes) :
    (writer.wrote bytes).limit = writer.limit := rfl

@[simp] theorem wrote_shutdowns (writer : Writer) (bytes : Bytes) :
    (writer.wrote bytes).shutdowns = writer.shutdowns := rfl

def writeAll (bytes : Bytes) (writer : Writer) : Except IoError Unit × Writer :=
  match writer.limit with
  | none => (.ok (), writer.wrote bytes)
  | some (room, fault) =>
      if bytes.length ≤ room then
        (.ok (), { writer.wrote bytes with limit := some (room - bytes.length, fault) })
      else
        (.error fault, { writer.wrote (bytes.take room) with limit := some (0, fault) })

def shutdown (writer : Writer) : Except IoError Unit × Writer :=
  (match writer.shutdownFault with
    | none => .ok ()
    | some fault => .error fault,
    { writer with shutdowns := writer.shutdowns + 1 })

end Writer

/-- The two ends that a program holds, and the sizes of the buffers it asked for. -/
structure Pipe where
  reader : Reader
  writer : Writer
  allocated : List Nat

/-- A program that may fail. It has no result when its fuel does not suffice. -/
abbrev PipeM := ExceptT IoError (StateT Pipe Option)

namespace PipeM

variable {Result Other : Type}

def outOfFuel : PipeM Result := ExceptT.mk fun _ => none

/-- The number of bytes left to be read, as fuel for a loop that reads. -/
def remaining : PipeM Nat := ExceptT.mk fun pipe => some (.ok pipe.reader.bytes.length, pipe)

def allocate (size : Nat) : PipeM Unit := ExceptT.mk fun pipe =>
  some (.ok (), { pipe with allocated := pipe.allocated ++ [size] })

def read (capacity : Nat) : PipeM Bytes := ExceptT.mk fun pipe =>
  some ((pipe.reader.read capacity).1, { pipe with reader := (pipe.reader.read capacity).2 })

def tryReadExact (count : Nat) : PipeM (Except IoError Bytes) := ExceptT.mk fun pipe =>
  some (.ok (pipe.reader.readExact count).1,
    { pipe with reader := (pipe.reader.readExact count).2 })

def readExact (count : Nat) : PipeM Bytes := do
  match ← tryReadExact count with
  | .ok bytes => pure bytes
  | .error fault => throw fault

def writeAll (bytes : Bytes) : PipeM Unit := ExceptT.mk fun pipe =>
  some ((pipe.writer.writeAll bytes).1, { pipe with writer := (pipe.writer.writeAll bytes).2 })

def shutdown : PipeM Unit := ExceptT.mk fun pipe =>
  some (pipe.writer.shutdown.1, { pipe with writer := pipe.writer.shutdown.2 })

/-- `program` started on `before` ends on `after` with `result`. -/
def Ends (program : PipeM Result) (before : Pipe) (result : Except IoError Result)
    (after : Pipe) : Prop :=
  program.run.run before = some (result, after)

variable {program : PipeM Result} {rest : Result → PipeM Other} {before middle after : Pipe}

theorem Ends.bind {value : Result} {result : Except IoError Other}
    (first : Ends program before (.ok value) middle)
    (second : Ends (rest value) middle result after) :
    Ends (program >>= rest) before result after := by
  unfold Ends at first second ⊢
  simp only [ExceptT.run_bind, StateT.run_bind, first, Option.bind_eq_bind, Option.bind_some]
  exact second

theorem Ends.bind_error {fault : IoError} (first : Ends program before (.error fault) middle) :
    Ends (program >>= rest) before (.error fault) middle := by
  unfold Ends at first ⊢
  simp only [ExceptT.run_bind, StateT.run_bind, first, Option.bind_eq_bind, Option.bind_some]
  rfl

theorem ends_throw (fault : IoError) :
    Ends (throw fault : PipeM Result) before (.error fault) before := rfl

theorem ends_pure (value : Result) : Ends (pure value) before (.ok value) before := rfl

theorem ends_remaining : Ends remaining before (.ok before.reader.bytes.length) before := rfl

variable {reader : Reader} {writer : Writer} {allocated : List Nat}

theorem ends_allocate (size : Nat) :
    Ends (allocate size) ⟨reader, writer, allocated⟩ (.ok ())
      ⟨reader, writer, allocated ++ [size]⟩ := rfl

theorem ends_read_of_bytes {capacity : Nat} (room : 0 < capacity) (more : reader.bytes ≠ []) :
    ∃ front later,
      Ends (read capacity) ⟨reader, writer, allocated⟩ (.ok front) ⟨later, writer, allocated⟩ ∧
        front ≠ [] ∧ front.length ≤ capacity ∧ front ++ later.bytes = reader.bytes ∧
        later.ending = reader.ending := by
  obtain ⟨front, later, got, parts⟩ := Reader.read_of_bytes room more
  refine ⟨front, later, ?_, parts⟩
  show some _ = _
  rw [got]

theorem ends_read_of_end {capacity : Nat} (empty : reader.bytes = [])
    (clean : reader.ending = none) :
    Ends (read capacity) ⟨reader, writer, allocated⟩ (.ok []) ⟨reader, writer, allocated⟩ := by
  show some _ = _
  rw [Reader.read_of_end empty clean]

theorem ends_tryReadExact_of_le {count : Nat} (enough : count ≤ reader.bytes.length) :
    ∃ later, Ends (tryReadExact count) ⟨reader, writer, allocated⟩
        (.ok (.ok (reader.bytes.take count))) ⟨later, writer, allocated⟩ ∧
      later.bytes = reader.bytes.drop count ∧ later.ending = reader.ending := by
  obtain ⟨later, got, parts⟩ := Reader.readExact_of_le enough
  refine ⟨later, ?_, parts⟩
  show some _ = _
  rw [got]

theorem ends_tryReadExact_of_lt {count : Nat} (short : reader.bytes.length < count) :
    Ends (tryReadExact count) ⟨reader, writer, allocated⟩
      (.ok (.error (reader.ending.getD Reader.earlyEof)))
      ⟨{ reader with chunks := [] }, writer, allocated⟩ := by
  show some _ = _
  rw [Reader.readExact_of_lt short]

theorem ends_readExact_of_le {count : Nat} (enough : count ≤ reader.bytes.length) :
    ∃ later, Ends (readExact count) ⟨reader, writer, allocated⟩
        (.ok (reader.bytes.take count)) ⟨later, writer, allocated⟩ ∧
      later.bytes = reader.bytes.drop count ∧ later.ending = reader.ending := by
  obtain ⟨later, got, parts⟩ := ends_tryReadExact_of_le enough
  exact ⟨later, got.bind (ends_pure _), parts⟩

theorem ends_readExact_of_lt {count : Nat} (short : reader.bytes.length < count) :
    Ends (readExact count) ⟨reader, writer, allocated⟩
      (.error (reader.ending.getD Reader.earlyEof))
      ⟨{ reader with chunks := [] }, writer, allocated⟩ :=
  (ends_tryReadExact_of_lt short).bind (ends_throw _)

theorem ends_writeAll_result (bytes : Bytes) :
    Ends (writeAll bytes) ⟨reader, writer, allocated⟩ (writer.writeAll bytes).1
      ⟨reader, (writer.writeAll bytes).2, allocated⟩ := rfl

theorem ends_writeAll (reliable : writer.limit = none) (bytes : Bytes) :
    Ends (writeAll bytes) ⟨reader, writer, allocated⟩ (.ok ())
      ⟨reader, writer.wrote bytes, allocated⟩ := by
  show some _ = _
  rw [Writer.writeAll, reliable]

theorem ends_shutdown_result :
    Ends shutdown ⟨reader, writer, allocated⟩ writer.shutdown.1
      ⟨reader, writer.shutdown.2, allocated⟩ := rfl

theorem ends_shutdown (reliable : writer.shutdownFault = none) :
    Ends shutdown ⟨reader, writer, allocated⟩ (.ok ())
      ⟨reader, { writer with shutdowns := writer.shutdowns + 1 }, allocated⟩ := by
  show some _ = _
  simp [Writer.shutdown, reliable]

end PipeM

end NexalinkTunnel.Lib
