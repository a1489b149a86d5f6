import NexalinkTunnel.Lib.ByteStream

/-!
Contract: the compressed framing of the tunnel programs.

Owns `compress_and_forward` and `decompress_and_forward` of `tunnel-send` and
`tunnel-listen`: each chunk that is read becomes a frame of a length in four
big-endian bytes and an LZ4 block, and each frame is turned back.

Does not own: LZ4, which is a parameter, and the connections between which the
programs copy.
-/

namespace NexalinkTunnel.Tunnel

open Lib

structure Lz4 where
  compress : Bytes → Bytes
  decompress : Bytes → Nat → Except String Bytes

def lengthSize : Nat := 4

section Loops

variable (lz4 : Lz4)

def compressLoop (bufferSize : Nat) : Nat → PipeM Unit
  | 0 => PipeM.outOfFuel
  | fuel + 1 => do
      let chunk ← PipeM.read bufferSize
      if chunk = [] then pure ()
      else do
        let compressed := lz4.compress chunk
        -- The length is cast to `u32`, which keeps its four lowest bytes.
        PipeM.writeAll (Bytes.putBe lengthSize compressed.length)
        PipeM.writeAll compressed
        compressLoop bufferSize fuel

def compressAndForwardWith (bufferSize : Nat) : PipeM Unit := do
  PipeM.allocate bufferSize
  -- Each turn of the loop reads a byte or ends it.
  let remaining ← PipeM.remaining
  compressLoop lz4 bufferSize (remaining + 1)
  PipeM.shutdown

def decompressLoop (minUncompressedSize : Nat) : Nat → PipeM Unit
  | 0 => PipeM.outOfFuel
  | fuel + 1 => do
      match ← PipeM.tryReadExact lengthSize with
      | .error fault => if fault.kind = .unexpectedEof then pure () else throw fault
      | .ok header => do
          let length := Bytes.beNat header
          PipeM.allocate length
          let compressed ← PipeM.readExact length
          match lz4.decompress compressed minUncompressedSize with
          | .error message => throw ⟨.invalidData, message⟩
          | .ok decompressed => do
              PipeM.writeAll decompressed
              decompressLoop minUncompressedSize fuel

def decompressAndForwardWith (minUncompressedSize : Nat) : PipeM Unit := do
  let remaining ← PipeM.remaining
  decompressLoop lz4 minUncompressedSize (remaining + 1)
  PipeM.shutdown

end Loops

namespace TunnelSend

def compressAndForward (lz4 : Lz4) : PipeM Unit := compressAndForwardWith lz4 (16 * 1024)

def decompressAndForward (lz4 : Lz4) : PipeM Unit := decompressAndForwardWith lz4 (128 * 1024)

end TunnelSend

namespace TunnelListen

def compressAndForward (lz4 : Lz4) : PipeM Unit := compressAndForwardWith lz4 (16 * 1024)

def decompressAndForward (lz4 : Lz4) : PipeM Unit := decompressAndForwardWith lz4 (128 * 1024)

end TunnelListen

inductive Program where
  | send
  | listen

namespace Program

def compressAndForward : Program → Lz4 → PipeM Unit
  | .send => TunnelSend.compressAndForward
  | .listen => TunnelListen.compressAndForward

def decompressAndForward : Program → Lz4 → PipeM Unit
  | .send => TunnelSend.decompressAndForward
  | .listen => TunnelListen.decompressAndForward

end Program

/-- What one turn of the compressing loop writes. -/
def frame (lz4 : Lz4) (chunk : Bytes) : Bytes :=
  Bytes.putBe lengthSize (lz4.compress chunk).length ++ lz4.compress chunk

/-- What the programs rely on: a block of at most one buffer is restored, and its
length fits into the frame. -/
structure Lz4.Faithful (lz4 : Lz4) : Prop where
  decompress_compress : ∀ chunk : Bytes, chunk ≠ [] → chunk.length ≤ 16 * 1024 →
    lz4.decompress (lz4.compress chunk) (128 * 1024) = .ok chunk
  length_compress : ∀ chunk : Bytes, chunk ≠ [] → chunk.length ≤ 16 * 1024 →
    (lz4.compress chunk).length < 2 ^ 32

section

open PipeM

variable {lz4 : Lz4} {reader : Reader} {writer : Writer} {allocated : List Nat}

/-- The compressing loop cuts what it reads into chunks that fit its buffer, and
writes their frames. -/
theorem ends_compressLoop {bufferSize fuel : Nat} (room : 0 < bufferSize)
    (clean : reader.ending = none) (reliable : writer.limit = none)
    (enough : reader.bytes.length < fuel) :
    ∃ (chunks : List Bytes) (later : Reader),
      Ends (compressLoop lz4 bufferSize fuel) ⟨reader, writer, allocated⟩ (.ok ())
        ⟨later, writer.wrote (chunks.flatMap (frame lz4)), allocated⟩ ∧
      (∀ chunk ∈ chunks, chunk ≠ [] ∧ chunk.length ≤ bufferSize) ∧
      chunks.flatten = reader.bytes := by
  induction fuel generalizing reader writer with
  | zero => omega
  | succ fuel inductionHypothesis =>
      by_cases more : reader.bytes = []
      · refine ⟨[], reader, ?_, by simp, by simp [more]⟩
        exact (ends_read_of_end more clean).bind (by simpa using ends_pure ())
      · obtain ⟨chunk, rest, got, nonempty, fits, bytes, ending⟩ :=
          @ends_read_of_bytes reader writer allocated bufferSize room more
        have shorter : rest.bytes.length < fuel := by
          have positive := List.length_pos_iff.mpr nonempty
          rw [← bytes, List.length_append] at enough
          omega
        obtain ⟨chunks, later, looped, sized, flat⟩ :=
          @inductionHypothesis rest (writer.wrote (frame lz4 chunk)) (ending.trans clean)
            reliable shorter
        refine ⟨chunk :: chunks, later, got.bind ?_, ?_, ?_⟩
        · rw [if_neg nonempty]
          refine (ends_writeAll reliable _).bind ?_
          refine (ends_writeAll (by simpa using reliable) _).bind ?_
          simpa [frame] using looped
        · simpa using ⟨⟨nonempty, fits⟩, sized⟩
        · rw [List.flatten_cons, flat, bytes]

theorem length_frame (lz4 : Lz4) (chunk : Bytes) :
    (frame lz4 chunk).length = lengthSize + (lz4.compress chunk).length := by
  simp [frame]

theorem take_frame_append (lz4 : Lz4) (chunk rest : Bytes) :
    (frame lz4 chunk ++ rest).take lengthSize =
      Bytes.putBe lengthSize (lz4.compress chunk).length := by
  rw [frame, List.append_assoc, List.take_left' (Bytes.putBe_length _ _)]

theorem drop_frame_append (lz4 : Lz4) (chunk rest : Bytes) :
    (frame lz4 chunk ++ rest).drop lengthSize = lz4.compress chunk ++ rest := by
  rw [frame, List.append_assoc, List.drop_left' (Bytes.putBe_length _ _)]

theorem beNat_length {chunk : Bytes} (small : (lz4.compress chunk).length < 2 ^ 32) :
    Bytes.beNat (Bytes.putBe lengthSize (lz4.compress chunk).length) =
      (lz4.compress chunk).length :=
  Bytes.beNat_putBe_of_lt small

/-! ## What a stream decodes to -/

/-- What the decompressing loop makes of a stream: the length before each block that it
starts on, the chunks that it restores, and how it ends. -/
structure Decoding where
  announced : List Nat
  chunks : List Bytes
  result : Except IoError Unit

/-- The end of the stream where a length is expected. It counts as the end of the
tunnel's stream, also after some bytes of the length. -/
def endOfStream (ending : Option IoError) : Except IoError Unit :=
  if (ending.getD Reader.earlyEof).kind = .unexpectedEof then .ok ()
  else .error (ending.getD Reader.earlyEof)

def decode (lz4 : Lz4) (minUncompressedSize : Nat) (ending : Option IoError) :
    Nat → Bytes → Decoding
  | 0, _ => ⟨[], [], .ok ()⟩
  | fuel + 1, bytes =>
      if bytes.length < lengthSize then ⟨[], [], endOfStream ending⟩
      else
        let length := Bytes.beNat (bytes.take lengthSize)
        let rest := bytes.drop lengthSize
        if rest.length < length then ⟨[length], [], .error (ending.getD Reader.earlyEof)⟩
        else
          match lz4.decompress (rest.take length) minUncompressedSize with
          | .error message => ⟨[length], [], .error ⟨.invalidData, message⟩⟩
          | .ok chunk =>
              let later := decode lz4 minUncompressedSize ending fuel (rest.drop length)
              ⟨length :: later.announced, chunk :: later.chunks, later.result⟩

section Turn

variable {minUncompressedSize fuel length : Nat}

private theorem ends_turn_ended (ended : reader.bytes.length < lengthSize) :
    Ends (decompressLoop lz4 minUncompressedSize (fuel + 1)) ⟨reader, writer, allocated⟩
      (endOfStream reader.ending) ⟨⟨[], reader.ending⟩, writer, allocated⟩ := by
  refine (ends_tryReadExact_of_lt ended).bind ?_
  unfold endOfStream
  dsimp only
  split
  next => exact ends_pure ()
  next => exact ends_throw _

private theorem ends_turn_length (whole : lengthSize ≤ reader.bytes.length)
    (announced : Bytes.beNat (reader.bytes.take lengthSize) = length) :
    ∃ middle : Reader, middle.bytes = reader.bytes.drop lengthSize ∧
      middle.ending = reader.ending ∧ ∀ result after,
        Ends (do
            let compressed ← readExact length
            match lz4.decompress compressed minUncompressedSize with
            | .error message => throw ⟨.invalidData, message⟩
            | .ok decompressed => do
                PipeM.writeAll decompressed
                decompressLoop lz4 minUncompressedSize fuel)
          ⟨middle, writer, allocated ++ [length]⟩ result after →
        Ends (decompressLoop lz4 minUncompressedSize (fuel + 1)) ⟨reader, writer, allocated⟩
          result after := by
  obtain ⟨middle, got, bytes, ending⟩ := @ends_tryReadExact_of_le reader writer allocated _ whole
  refine ⟨middle, bytes, ending, ?_⟩
  intro result after looped
  rw [← announced] at looped
  exact got.bind ((ends_allocate _).bind looped)

private theorem ends_turn_short (whole : lengthSize ≤ reader.bytes.length)
    (announced : Bytes.beNat (reader.bytes.take lengthSize) = length)
    (short : (reader.bytes.drop lengthSize).length < length) :
    Ends (decompressLoop lz4 minUncompressedSize (fuel + 1)) ⟨reader, writer, allocated⟩
      (.error (reader.ending.getD Reader.earlyEof))
      ⟨⟨[], reader.ending⟩, writer, allocated ++ [length]⟩ := by
  obtain ⟨middle, bytes, ending, turn⟩ := @ends_turn_length lz4 reader writer allocated
    minUncompressedSize fuel length whole announced
  rw [← bytes] at short
  rw [← ending]
  exact turn _ _ (ends_readExact_of_lt short).bind_error

private theorem ends_turn_block (whole : lengthSize ≤ reader.bytes.length)
    (announced : Bytes.beNat (reader.bytes.take lengthSize) = length)
    (inside : length ≤ (reader.bytes.drop lengthSize).length) :
    ∃ later : Reader, later.bytes = (reader.bytes.drop lengthSize).drop length ∧
      later.ending = reader.ending ∧ ∀ result after,
        Ends (match lz4.decompress ((reader.bytes.drop lengthSize).take length)
              minUncompressedSize with
            | .error message => throw ⟨.invalidData, message⟩
            | .ok decompressed => do
                PipeM.writeAll decompressed
                decompressLoop lz4 minUncompressedSize fuel)
          ⟨later, writer, allocated ++ [length]⟩ result after →
        Ends (decompressLoop lz4 minUncompressedSize (fuel + 1)) ⟨reader, writer, allocated⟩
          result after := by
  obtain ⟨middle, bytes, ending, turn⟩ := @ends_turn_length lz4 reader writer allocated
    minUncompressedSize fuel length whole announced
  rw [← bytes] at inside ⊢
  obtain ⟨later, got, laterBytes, laterEnding⟩ :=
    @ends_readExact_of_le middle writer (allocated ++ [length]) _ inside
  refine ⟨later, laterBytes, laterEnding.trans ending, ?_⟩
  intro result after looped
  exact turn result after (got.bind looped)

end Turn

/-- How the decompressing loop may end where its stream decodes to `decoding`. It asks
for no other buffers and does not shut down. A fault of its writer can end it early. -/
structure Follows (decoding : Decoding) (writer : Writer) (allocated : List Nat)
    (result : Except IoError Unit) (after : Pipe) : Prop where
  allocates : after.allocated <+: allocated ++ decoding.announced
  running : after.writer.shutdowns = writer.shutdowns
  ends : result = decoding.result ∨ ∃ fault, result = .error fault
  exact : writer.limit = none → result = decoding.result ∧
    after.writer = writer.wrote decoding.chunks.flatten ∧
    after.allocated = allocated ++ decoding.announced

private theorem follows_stop (announced : List Nat) (result : Except IoError Unit) :
    Follows ⟨announced, [], result⟩ writer allocated result
      ⟨reader, writer, allocated ++ announced⟩ where
  allocates := List.prefix_refl _
  running := rfl
  ends := .inl rfl
  exact := by simp

theorem shutdowns_writeAll (writer : Writer) (bytes : Bytes) :
    (writer.writeAll bytes).2.shutdowns = writer.shutdowns := by
  unfold Writer.writeAll
  split
  · rfl
  · split <;> rfl

private theorem follows_fault {decoding : Decoding} {length : Nat} {chunk : Bytes} {fault : IoError}
    (written : (writer.writeAll chunk).1 = .error fault) :
    Follows ⟨length :: decoding.announced, chunk :: decoding.chunks, decoding.result⟩ writer
      allocated (.error fault) ⟨reader, (writer.writeAll chunk).2, allocated ++ [length]⟩ where
  allocates := by simp
  running := shutdowns_writeAll writer chunk
  ends := .inr ⟨fault, rfl⟩
  exact := by
    intro reliable
    simp [Writer.writeAll, reliable] at written

private theorem Follows.write {decoding : Decoding} {length : Nat} {chunk : Bytes}
    {result : Except IoError Unit} {after : Pipe}
    (follows : Follows decoding (writer.writeAll chunk).2 (allocated ++ [length]) result after) :
    Follows ⟨length :: decoding.announced, chunk :: decoding.chunks, decoding.result⟩ writer
      allocated result after where
  allocates := by simpa using follows.allocates
  running := follows.running.trans (shutdowns_writeAll writer chunk)
  ends := follows.ends
  exact := by
    intro reliable
    have kept : (writer.writeAll chunk).2 = writer.wrote chunk := by
      simp [Writer.writeAll, reliable]
    rw [kept] at follows
    simpa using follows.exact reliable

/-- The decompressing loop decodes what it reads, however it is cut. -/
theorem ends_decompressLoop {minUncompressedSize fuel : Nat}
    (enough : reader.bytes.length < fuel) :
    ∃ result after,
      Ends (decompressLoop lz4 minUncompressedSize fuel) ⟨reader, writer, allocated⟩ result after ∧
      Follows (decode lz4 minUncompressedSize reader.ending fuel reader.bytes) writer allocated
        result after := by
  induction fuel generalizing reader writer allocated with
  | zero => omega
  | succ fuel inductionHypothesis =>
      unfold decode
      by_cases ended : reader.bytes.length < lengthSize
      · simp only [ended, if_true]
        exact ⟨_, _, ends_turn_ended ended, by simpa using @follows_stop _ writer allocated [] _⟩
      have whole : lengthSize ≤ reader.bytes.length := by omega
      generalize announced : Bytes.beNat (reader.bytes.take lengthSize) = length
      by_cases short : (reader.bytes.drop lengthSize).length < length
      · simp only [ended, short, if_true, if_false]
        exact ⟨_, _, ends_turn_short whole announced short, follows_stop [length] _⟩
      obtain ⟨later, laterBytes, laterEnding, turn⟩ := @ends_turn_block lz4 reader writer allocated
        minUncompressedSize fuel length whole announced (by omega)
      have shorter : later.bytes.length < fuel := by
        rw [laterBytes, List.length_drop, List.length_drop]
        have four : 0 < lengthSize := by decide
        omega
      simp only [ended, short, if_false]
      cases restored : lz4.decompress ((reader.bytes.drop lengthSize).take length)
          minUncompressedSize with
      | error message =>
          simp only [restored] at turn
          exact ⟨_, _, turn _ _ (ends_throw _), follows_stop [length] _⟩
      | ok chunk =>
          simp only [restored] at turn
          have wrote := @ends_writeAll_result later writer (allocated ++ [length]) chunk
          cases written : (writer.writeAll chunk).1 with
          | error fault =>
              rw [written] at wrote
              exact ⟨_, _, turn _ _ wrote.bind_error, follows_fault written⟩
          | ok done =>
              rw [written] at wrote
              obtain ⟨result, after, looped, follows⟩ := @inductionHypothesis later
                (writer.writeAll chunk).2 (allocated ++ [length]) shorter
              rw [laterEnding, laterBytes] at follows
              exact ⟨result, after, turn _ _ (wrote.bind looped), follows.write⟩

theorem decode_frame_append {minUncompressedSize fuel : Nat} {ending : Option IoError}
    {chunk rest : Bytes} (small : (lz4.compress chunk).length < 2 ^ 32) :
    decode lz4 minUncompressedSize ending (fuel + 1) (frame lz4 chunk ++ rest) =
      match lz4.decompress (lz4.compress chunk) minUncompressedSize with
      | .error message => ⟨[(lz4.compress chunk).length], [], .error ⟨.invalidData, message⟩⟩
      | .ok restored =>
          let later := decode lz4 minUncompressedSize ending fuel rest
          ⟨(lz4.compress chunk).length :: later.announced, restored :: later.chunks,
            later.result⟩ := by
  have whole : ¬ (frame lz4 chunk ++ rest).length < lengthSize := by
    rw [List.length_append, length_frame]
    omega
  have inside : ¬ (lz4.compress chunk ++ rest).length < (lz4.compress chunk).length := by
    rw [List.length_append]
    omega
  simp only [decode, whole, if_false, take_frame_append, drop_frame_append, beNat_length small,
    inside, List.take_left, List.drop_left]

private theorem decode_frames {minUncompressedSize : Nat} {ending : Option IoError}
    {chunks : List Bytes} (restored : ∀ chunk ∈ chunks,
      lz4.decompress (lz4.compress chunk) minUncompressedSize = .ok chunk)
    (small : ∀ chunk ∈ chunks, (lz4.compress chunk).length < 2 ^ 32) (fuel : Nat) (rest : Bytes) :
    decode lz4 minUncompressedSize ending (fuel + chunks.length)
        (chunks.flatMap (frame lz4) ++ rest) =
      ⟨chunks.map (fun chunk => (lz4.compress chunk).length) ++
          (decode lz4 minUncompressedSize ending fuel rest).announced,
        chunks ++ (decode lz4 minUncompressedSize ending fuel rest).chunks,
        (decode lz4 minUncompressedSize ending fuel rest).result⟩ := by
  induction chunks with
  | nil => rfl
  | cons chunk chunks inductionHypothesis =>
      have later := inductionHypothesis (fun other inside => restored other (.tail _ inside))
        fun other inside => small other (.tail _ inside)
      rw [List.flatMap_cons, List.append_assoc, List.length_cons, ← Nat.add_assoc,
        decode_frame_append (small chunk List.mem_cons_self),
        restored chunk List.mem_cons_self]
      dsimp only
      rw [later]
      rfl

theorem length_le_length_frames (chunks : List Bytes) :
    chunks.length ≤ (chunks.flatMap (frame lz4)).length := by
  induction chunks with
  | nil => simp
  | cons chunk chunks inductionHypothesis =>
      rw [List.flatMap_cons, List.length_append, length_frame, List.length_cons, lengthSize]
      omega

theorem ends_compressAndForwardWith {bufferSize : Nat} (room : 0 < bufferSize)
    (clean : reader.ending = none) :
    ∃ (chunks : List Bytes) (sent : Pipe),
      Ends (compressAndForwardWith lz4 bufferSize) ⟨reader, .reliable, []⟩ (.ok ()) sent ∧
      sent.writer.written = chunks.flatMap (frame lz4) ∧ sent.writer.shutdowns = 1 ∧
      (∀ chunk ∈ chunks, chunk ≠ [] ∧ chunk.length ≤ bufferSize) ∧
      chunks.flatten = reader.bytes := by
  obtain ⟨chunks, later, looped, sized, flat⟩ :=
    @ends_compressLoop lz4 reader .reliable ([] ++ [bufferSize]) _ _ room clean rfl
      (Nat.lt_succ_self _)
  exact ⟨chunks, _, (ends_allocate _).bind (ends_remaining.bind (looped.bind (ends_shutdown rfl))),
    by simp [Writer.reliable], by simp [Writer.reliable], sized, flat⟩

def decodeStream (lz4 : Lz4) (minUncompressedSize : Nat) (reader : Reader) : Decoding :=
  decode lz4 minUncompressedSize reader.ending (reader.bytes.length + 1) reader.bytes

/-- Any stream is decoded to its end. Only a stream that ends well is shut down. -/
theorem ends_decompressAndForwardWith (lz4 : Lz4) (minUncompressedSize : Nat) (reader : Reader)
    (writer : Writer) :
    ∃ result after,
      Ends (decompressAndForwardWith lz4 minUncompressedSize) ⟨reader, writer, []⟩ result after ∧
      after.allocated <+: (decodeStream lz4 minUncompressedSize reader).announced ∧
      (∀ fault, (decodeStream lz4 minUncompressedSize reader).result = .error fault →
        (∃ other, result = .error other) ∧ after.writer.shutdowns = writer.shutdowns) ∧
      (writer = .reliable →
        result = (decodeStream lz4 minUncompressedSize reader).result ∧
        after.allocated = (decodeStream lz4 minUncompressedSize reader).announced ∧
        after.writer.written = (decodeStream lz4 minUncompressedSize reader).chunks.flatten ∧
        (result = .ok () → after.writer.shutdowns = 1)) := by
  obtain ⟨looped, ⟨later, left, allocated⟩, ran, follows⟩ := @ends_decompressLoop lz4 reader writer
    [] minUncompressedSize _ (Nat.lt_succ_self _)
  have allocates : allocated <+: (decodeStream lz4 minUncompressedSize reader).announced :=
    follows.allocates
  cases looped with
  | error fault =>
      refine ⟨_, _, ends_remaining.bind ran.bind_error, allocates, ?_, ?_⟩
      · exact fun _ _ => ⟨⟨fault, rfl⟩, follows.running⟩
      · intro reliable
        obtain ⟨same, rfl, rfl⟩ := follows.exact (by rw [reliable]; rfl)
        refine ⟨same, rfl, ?_, by simp⟩
        simp [reliable, Writer.reliable, decodeStream]
  | ok done =>
      refine ⟨_, _, ends_remaining.bind (ran.bind ends_shutdown_result), allocates, ?_, ?_⟩
      · intro fault failed
        rcases follows.ends with same | ⟨other, same⟩
        · cases same.trans failed
        · cases same
      · intro reliable
        obtain ⟨same, rfl, rfl⟩ := follows.exact (by rw [reliable]; rfl)
        subst reliable
        exact ⟨same, rfl, by simp [Writer.reliable, Writer.shutdown, decodeStream],
          by simp [Writer.reliable, Writer.shutdown]⟩

theorem decodeStream_frames {minUncompressedSize : Nat} {chunks : List Bytes} {rest : Bytes}
    (restored : ∀ chunk ∈ chunks,
      lz4.decompress (lz4.compress chunk) minUncompressedSize = .ok chunk)
    (small : ∀ chunk ∈ chunks, (lz4.compress chunk).length < 2 ^ 32)
    (bytes : reader.bytes = chunks.flatMap (frame lz4) ++ rest) :
    ∃ fuel, decodeStream lz4 minUncompressedSize reader =
      ⟨chunks.map (fun chunk => (lz4.compress chunk).length) ++
          (decode lz4 minUncompressedSize reader.ending (fuel + 1) rest).announced,
        chunks ++ (decode lz4 minUncompressedSize reader.ending (fuel + 1) rest).chunks,
        (decode lz4 minUncompressedSize reader.ending (fuel + 1) rest).result⟩ := by
  have enough : chunks.length ≤ reader.bytes.length := by
    rw [bytes, List.length_append]
    exact (length_le_length_frames chunks).trans (Nat.le_add_right _ _)
  refine ⟨reader.bytes.length - chunks.length, ?_⟩
  have fuel : reader.bytes.length + 1 =
      reader.bytes.length - chunks.length + 1 + chunks.length := by omega
  unfold decodeStream
  rw [fuel]
  nth_rewrite 2 [bytes]
  exact decode_frames restored small _ rest

end

/-- What one program sends, the other delivers: byte for byte, in any chunks, and
with one shutdown at the end. -/
theorem tunnel_delivers_stream (lz4 : Lz4) (faithful : lz4.Faithful) (sender receiver : Program)
    (source : Reader) (clean : source.ending = none) :
    ∃ sent, PipeM.Ends (sender.compressAndForward lz4) ⟨source, .reliable, []⟩ (.ok ()) sent ∧
      ∀ received : Reader, received.bytes = sent.writer.written → received.ending = none →
        ∃ delivered,
          PipeM.Ends (receiver.decompressAndForward lz4) ⟨received, .reliable, []⟩ (.ok ())
            delivered ∧
          delivered.writer.written = source.bytes ∧ delivered.writer.shutdowns = 1 := by
  obtain ⟨chunks, sent, ran, written, -, sized, flat⟩ :=
    @ends_compressAndForwardWith lz4 source (16 * 1024) (by decide) clean
  refine ⟨sent, by cases sender <;> exact ran, ?_⟩
  intro received bytes ending
  have restored : ∀ chunk ∈ chunks,
      lz4.decompress (lz4.compress chunk) (128 * 1024) = .ok chunk := fun chunk inside =>
    faithful.decompress_compress chunk (sized chunk inside).1 (sized chunk inside).2
  have small : ∀ chunk ∈ chunks, (lz4.compress chunk).length < 2 ^ 32 := fun chunk inside =>
    faithful.length_compress chunk (sized chunk inside).1 (sized chunk inside).2
  obtain ⟨result, delivered, ran, -, -, exact⟩ :=
    ends_decompressAndForwardWith lz4 (128 * 1024) received .reliable
  obtain ⟨rfl, -, wrote, shutdowns⟩ := exact rfl
  obtain ⟨fuel, decoded⟩ := decodeStream_frames restored small
    ((bytes.trans written).trans (List.append_nil _).symm)
  rw [decoded, ending] at ran wrote shutdowns
  refine ⟨delivered, by cases receiver <;> exact ran, ?_, shutdowns rfl⟩
  rw [wrote, ← flat]
  exact congrArg List.flatten (List.append_nil chunks)

/-- The LZ4 block format of inputs that are too short to hold a match: a token with
the number of literals, and the literals. -/
def shortBlocks : Lz4 where
  compress bytes := UInt8.ofNat (16 * bytes.length) :: bytes
  decompress
    | _ :: literals, _ => .ok literals
    | [], _ => .error "expected another byte, found none"

theorem shortBlocks_faithful : shortBlocks.Faithful where
  decompress_compress _ _ _ := rfl
  length_compress chunk _ fits := by
    simp only [shortBlocks, List.length_cons]
    omega

/-- Three bytes that arrive in two chunks, and their two frames cut in other places. -/
def greeting : Reader := ⟨[⟨[104, 105], by decide⟩, ⟨[33], by decide⟩], none⟩

@[inherit_doc greeting]
def greetingFrames : Reader :=
  ⟨[⟨[0, 0], by decide⟩, ⟨[0, 3, 32, 104], by decide⟩, ⟨[105, 0, 0, 0, 2, 16, 33], by decide⟩],
    none⟩

theorem tunnel_delivers_greeting :
    ∃ delivered,
      PipeM.Ends (Program.listen.decompressAndForward shortBlocks)
        ⟨greetingFrames, .reliable, []⟩ (.ok ()) delivered ∧
      delivered.writer.written = [104, 105, 33] ∧ delivered.writer.shutdowns = 1 := by
  obtain ⟨sent, ran, delivers⟩ :=
    tunnel_delivers_stream shortBlocks shortBlocks_faithful .send .listen greeting rfl
  have same : some (Except.ok (), sent) = some (Except.ok (),
      ⟨⟨[], none⟩, ⟨[0, 0, 0, 3, 32, 104, 105, 0, 0, 0, 2, 16, 33], 1, none, none⟩, [16 * 1024]⟩) :=
    ran.symm.trans rfl
  cases same
  exact delivers greetingFrames rfl rfl

end NexalinkTunnel.Tunnel
