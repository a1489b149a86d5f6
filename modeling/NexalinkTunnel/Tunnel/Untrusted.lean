import NexalinkTunnel.Tunnel.Framing

/-!
Contract: what the tunnel programs make of streams that are cut short or forged.

Owns which cuts of an honest stream `decompress_and_forward` reports, and how large
a buffer a peer can make it ask for.

## Where a stream is trusted

The end of the stream is taken for the end of the tunnel's stream wherever a
length is expected, also after one, two or three of its four bytes. And a buffer of
the announced length is allocated before a byte of the block has arrived, whatever
the length is.
-/

namespace NexalinkTunnel.Tunnel

open Lib

variable {lz4 : Lz4}

theorem Program.decompressAndForward_eq (program : Program) (lz4 : Lz4) :
    program.decompressAndForward lz4 = decompressAndForwardWith lz4 (128 * 1024) := by
  cases program <;> rfl

/-! ## Streams that are cut short -/

/-- What follows the whole frames at the front of a stream. -/
def afterFrames : Nat → Bytes → Bytes
  | 0, bytes => bytes
  | fuel + 1, bytes =>
      let block := bytes.drop lengthSize
      let length := Bytes.beNat (bytes.take lengthSize)
      if bytes.length < lengthSize ∨ block.length < length then bytes
      else afterFrames fuel (block.drop length)

/-- The part of a frame that a stream ends with. It is empty where the stream ends at
the boundary of a frame. -/
def brokenFrame (bytes : Bytes) : Bytes := afterFrames bytes.length bytes

private theorem exists_cut {chunks : List Bytes} {bytes : Bytes}
    (cut : bytes <+: chunks.flatMap (frame lz4)) :
    ∃ whole part, whole <+: chunks ∧ bytes = whole.flatMap (frame lz4) ++ part ∧
      (part = [] ∨ ∃ next ∈ chunks, part <+: frame lz4 next ∧
        part.length < (frame lz4 next).length) := by
  induction chunks generalizing bytes with
  | nil => exact ⟨[], bytes, List.prefix_refl _, rfl, .inl (List.prefix_nil.mp cut)⟩
  | cons chunk chunks inductionHypothesis =>
      rw [List.flatMap_cons] at cut
      by_cases inside : bytes.length < (frame lz4 chunk).length
      · have part : bytes <+: frame lz4 chunk :=
          List.prefix_of_prefix_length_le cut (List.prefix_append _ _) inside.le
        exact ⟨[], bytes, List.nil_prefix, rfl,
          .inr ⟨chunk, List.mem_cons_self, part, inside⟩⟩
      · have first : frame lz4 chunk <+: bytes :=
          List.prefix_of_prefix_length_le (List.prefix_append _ _) cut (by omega)
        obtain ⟨rest, rfl⟩ := first
        obtain ⟨whole, part, taken, rfl, partial_⟩ :=
          inductionHypothesis ((List.prefix_append_right_inj _).mp cut)
        refine ⟨chunk :: whole, part, ?_, ?_, ?_⟩
        · exact (List.prefix_cons_inj chunk).mpr taken
        · rw [List.flatMap_cons, List.append_assoc]
        · exact partial_.imp id fun ⟨next, inside, rest⟩ => ⟨next, .tail _ inside, rest⟩

section Cut

variable {next part : Bytes}

private theorem beNat_of_cut (small : (lz4.compress next).length < 2 ^ 32)
    (cut : part <+: frame lz4 next) (whole : lengthSize ≤ part.length) :
    Bytes.beNat (part.take lengthSize) = (lz4.compress next).length := by
  obtain ⟨rest, same⟩ := cut
  have header : part.take lengthSize = Bytes.putBe lengthSize (lz4.compress next).length := by
    have taken := take_frame_append lz4 next []
    rw [List.append_nil, ← same, List.take_append_of_le_length whole] at taken
    exact taken
  rw [header]
  exact beNat_length small

theorem length_block_of_cut (short : part.length < (frame lz4 next).length)
    (whole : lengthSize ≤ part.length) :
    (part.drop lengthSize).length < (lz4.compress next).length := by
  rw [length_frame] at short
  rw [List.length_drop]
  omega

private theorem afterFrames_cut (small : (lz4.compress next).length < 2 ^ 32)
    (cut : part <+: frame lz4 next) (short : part.length < (frame lz4 next).length) (fuel : Nat) :
    afterFrames fuel part = part := by
  cases fuel with
  | zero => rfl
  | succ fuel =>
      unfold afterFrames
      apply if_pos
      by_cases whole : lengthSize ≤ part.length
      · rw [beNat_of_cut small cut whole]
        exact .inr (length_block_of_cut short whole)
      · exact .inl (by omega)

private theorem afterFrames_nil (fuel : Nat) : afterFrames fuel [] = [] := by
  cases fuel with
  | zero => rfl
  | succ fuel => rfl

private theorem decode_inside_length {minUncompressedSize fuel : Nat} {ending : Option IoError}
    (short : part.length < lengthSize) :
    decode lz4 minUncompressedSize ending (fuel + 1) part = ⟨[], [], endOfStream ending⟩ := by
  simp only [decode, short, if_true]

/-- The end of the stream inside a block is an error. -/
theorem decode_inside_block {minUncompressedSize fuel : Nat} {ending : Option IoError}
    (small : (lz4.compress next).length < 2 ^ 32) (cut : part <+: frame lz4 next)
    (short : part.length < (frame lz4 next).length) (whole : lengthSize ≤ part.length) :
    decode lz4 minUncompressedSize ending (fuel + 1) part =
      ⟨[(lz4.compress next).length], [], .error (ending.getD Reader.earlyEof)⟩ := by
  have notEnded : ¬ part.length < lengthSize := by omega
  simp only [decode, notEnded, if_false, beNat_of_cut small cut whole,
    length_block_of_cut short whole, if_true]

end Cut

private theorem afterFrames_frames {whole : List Bytes}
    (small : ∀ chunk ∈ whole, (lz4.compress chunk).length < 2 ^ 32) (fuel : Nat) (part : Bytes) :
    afterFrames (fuel + whole.length) (whole.flatMap (frame lz4) ++ part) =
      afterFrames fuel part := by
  induction whole with
  | nil => rfl
  | cons chunk whole inductionHypothesis =>
      rw [List.flatMap_cons, List.append_assoc, List.length_cons, ← Nat.add_assoc, afterFrames,
        take_frame_append, drop_frame_append, beNat_length (small chunk List.mem_cons_self),
        List.drop_left, if_neg]
      · exact inductionHypothesis fun other inside => small other (.tail _ inside)
      · simp only [List.length_append, length_frame]
        omega

/-- The broken frame of a stream is what follows its whole frames. -/
theorem brokenFrame_eq {whole : List Bytes} {part : Bytes}
    (small : ∀ chunk ∈ whole, (lz4.compress chunk).length < 2 ^ 32)
    (broken : ∀ fuel, afterFrames fuel part = part) :
    brokenFrame (whole.flatMap (frame lz4) ++ part) = part := by
  have enough : whole.length ≤ (whole.flatMap (frame lz4) ++ part).length := by
    rw [List.length_append]
    exact (length_le_length_frames whole).trans (Nat.le_add_right _ _)
  unfold brokenFrame
  rw [← Nat.sub_add_cancel enough, afterFrames_frames small, broken]

/-- The compressing program cuts its source into chunks and sends their frames. A
stream of these frames that was cut, but not between two of them, is reported by
every run of the decompressing program, which then does not shut its writer down,
exactly if it was not cut inside a length. -/
theorem truncation_detected_iff_not_inside_length (lz4 : Lz4) (faithful : lz4.Faithful)
    (sender receiver : Program) (source : Reader) (clean : source.ending = none) :
    ∃ sent, PipeM.Ends (sender.compressAndForward lz4) ⟨source, .reliable, []⟩ (.ok ()) sent ∧
      ∀ received : Reader, received.ending = none → received.bytes <+: sent.writer.written →
        brokenFrame received.bytes ≠ [] →
        ((∀ writer, ∃ fault after,
            PipeM.Ends (receiver.decompressAndForward lz4) ⟨received, writer, []⟩ (.error fault)
              after ∧
            after.writer.shutdowns = writer.shutdowns) ↔
          lengthSize ≤ (brokenFrame received.bytes).length) := by
  obtain ⟨chunks, sent, ran, written, -, sized, -⟩ :=
    @ends_compressAndForwardWith lz4 source (16 * 1024) (by decide) clean
  refine ⟨sent, by cases sender <;> exact ran, ?_⟩
  intro received ending cut between
  have small : ∀ chunk ∈ chunks, (lz4.compress chunk).length < 2 ^ 32 := fun chunk inside =>
    faithful.length_compress chunk (sized chunk inside).1 (sized chunk inside).2
  rw [written] at cut
  obtain ⟨whole, part, taken, bytes, rest⟩ := exists_cut cut
  have wholeSmall : ∀ chunk ∈ whole, (lz4.compress chunk).length < 2 ^ 32 := fun chunk inside =>
    small chunk (taken.subset inside)
  have restored : ∀ chunk ∈ whole,
      lz4.decompress (lz4.compress chunk) (128 * 1024) = .ok chunk := fun chunk inside =>
    have size := sized chunk (taken.subset inside)
    faithful.decompress_compress chunk size.1 size.2
  -- A stream that is cut between two frames has no broken one.
  have nonempty : part ≠ [] := by
    rintro rfl
    rw [bytes] at between
    exact between (brokenFrame_eq wholeSmall afterFrames_nil)
  obtain ⟨next, inside, partCut, partShort⟩ := rest.resolve_left nonempty
  have broken : brokenFrame received.bytes = part := by
    rw [bytes]
    exact brokenFrame_eq wholeSmall (afterFrames_cut (small next inside) partCut partShort)
  obtain ⟨fuel, decoded⟩ := decodeStream_frames restored wholeSmall bytes
  rw [receiver.decompressAndForward_eq, broken]
  rw [ending] at decoded
  constructor
  · intro detected
    by_contra insideLength
    -- The stream decodes well, so a run with a writer without faults ends well.
    rw [decode_inside_length (Nat.lt_of_not_le insideLength)] at decoded
    obtain ⟨fault, after, failed, -⟩ := detected .reliable
    obtain ⟨result, delivered, ended, -, -, exact⟩ :=
      ends_decompressAndForwardWith lz4 (128 * 1024) received .reliable
    have succeeds : result = .ok () := by
      rw [(exact rfl).1, decoded]
      rfl
    rw [succeeds] at ended
    cases failed.symm.trans ended
  · intro whole writer
    rw [decode_inside_block (small next inside) partCut partShort whole] at decoded
    obtain ⟨result, after, ended, -, reports, -⟩ :=
      ends_decompressAndForwardWith lz4 (128 * 1024) received writer
    obtain ⟨⟨fault, rfl⟩, running⟩ := reports Reader.earlyEof (by rw [decoded]; rfl)
    exact ⟨fault, after, ended, running⟩

def receivedAtOnce (bytes : Bytes) : Reader := ⟨Reader.pushBack bytes [], none⟩

/-- The first frame of a greeting and a part of the block of its second. -/
theorem truncation_detected_in_second_block :
    ∃ fault after, PipeM.Ends (Program.listen.decompressAndForward shortBlocks)
      ⟨receivedAtOnce [0, 0, 0, 3, 32, 104, 105, 0, 0, 0, 2, 16], .reliable, []⟩
      (.error fault) after ∧ after.writer.shutdowns = 0 := by
  obtain ⟨sent, ran, detected⟩ :=
    truncation_detected_iff_not_inside_length shortBlocks shortBlocks_faithful .send .listen
      greeting rfl
  have same : some (Except.ok (), sent) = some (Except.ok (),
      ⟨⟨[], none⟩, ⟨[0, 0, 0, 3, 32, 104, 105, 0, 0, 0, 2, 16, 33], 1, none, none⟩, [16 * 1024]⟩) :=
    ran.symm.trans rfl
  cases same
  exact (detected (receivedAtOnce [0, 0, 0, 3, 32, 104, 105, 0, 0, 0, 2, 16]) rfl (by decide)
    (by decide)).mpr (by decide) .reliable

/-- The first frame of the greeting and half of the length of its second: the program
delivers the first chunk, shuts its writer down and reports nothing. -/
theorem truncation_undetected_in_second_length :
    ∃ sent, PipeM.Ends (Program.send.compressAndForward shortBlocks)
        ⟨greeting, .reliable, []⟩ (.ok ()) sent ∧
      (receivedAtOnce [0, 0, 0, 3, 32, 104, 105, 0, 0]).bytes <+: sent.writer.written ∧
      brokenFrame (receivedAtOnce [0, 0, 0, 3, 32, 104, 105, 0, 0]).bytes ≠ [] ∧
      ∃ after, PipeM.Ends (Program.listen.decompressAndForward shortBlocks)
        ⟨receivedAtOnce [0, 0, 0, 3, 32, 104, 105, 0, 0], .reliable, []⟩ (.ok ()) after ∧
        after.writer.written = [104, 105] ∧ after.writer.shutdowns = 1 :=
  ⟨_, rfl, by decide, by decide, _, rfl, rfl, rfl⟩

/-! ## Streams that announce large blocks -/

/-- The bound on what compressing makes of `size` bytes: 16 and 1.1 times the size,
rounded up, and four bytes. -/
def maximumOutputSize (size : Nat) : Nat := (160 + 11 * size + 9) / 10 + 4

/-- The largest block that the compressing program can send for one buffer. -/
def largestBlock : Nat := maximumOutputSize (16 * 1024)

structure Lz4.Bounded (lz4 : Lz4) : Prop where
  length_compress : ∀ chunk, (lz4.compress chunk).length ≤ maximumOutputSize chunk.length

private theorem Lz4.Bounded.length_le_largestBlock (bounded : lz4.Bounded) {chunk : Bytes}
    (fits : chunk.length ≤ 16 * 1024) : (lz4.compress chunk).length ≤ largestBlock := by
  have size := bounded.length_compress chunk
  unfold largestBlock maximumOutputSize at *
  omega

private theorem exists_chunk_of_announced {minUncompressedSize fuel length : Nat}
    {ending : Option IoError} {chunks : List Bytes} {bytes : Bytes}
    (small : ∀ chunk ∈ chunks, (lz4.compress chunk).length < 2 ^ 32)
    (cut : bytes <+: chunks.flatMap (frame lz4))
    (announced : length ∈ (decode lz4 minUncompressedSize ending fuel bytes).announced) :
    ∃ chunk ∈ chunks, (lz4.compress chunk).length = length := by
  induction chunks generalizing bytes fuel with
  | nil =>
      rw [List.prefix_nil.mp cut] at announced
      cases fuel <;> cases announced
  | cons chunk chunks inductionHypothesis =>
      cases fuel with
      | zero => cases announced
      | succ fuel =>
      have first := small chunk List.mem_cons_self
      have later : ∀ {rest}, rest <+: chunks.flatMap (frame lz4) →
          length ∈ (decode lz4 minUncompressedSize ending fuel rest).announced →
          ∃ other ∈ chunk :: chunks, (lz4.compress other).length = length := fun taken inside =>
        (inductionHypothesis (fun other among => small other (.tail _ among)) taken inside).imp
          fun _ found => ⟨.tail _ found.1, found.2⟩
      rw [List.flatMap_cons] at cut
      by_cases inside : bytes.length < (frame lz4 chunk).length
      · have part : bytes <+: frame lz4 chunk :=
          List.prefix_of_prefix_length_le cut (List.prefix_append _ _) inside.le
        by_cases whole : lengthSize ≤ bytes.length
        · rw [decode_inside_block first part inside whole] at announced
          exact ⟨chunk, List.mem_cons_self, (List.mem_singleton.mp announced).symm⟩
        · rw [decode_inside_length (by omega)] at announced
          cases announced
      · have front : frame lz4 chunk <+: bytes :=
          List.prefix_of_prefix_length_le (List.prefix_append _ _) cut (by omega)
        obtain ⟨rest, rfl⟩ := front
        rw [decode_frame_append first] at announced
        cases restored : lz4.decompress (lz4.compress chunk) minUncompressedSize with
        | error message =>
            rw [restored] at announced
            exact ⟨chunk, List.mem_cons_self, (List.mem_singleton.mp announced).symm⟩
        | ok decompressed =>
            rw [restored] at announced
            rcases List.mem_cons.mp announced with same | more
            · exact ⟨chunk, List.mem_cons_self, same.symm⟩
            · exact later ((List.prefix_append_right_inj _).mp cut) more

/-- Every run on a stream, honest or not, keeps to buffers of the largest block that
can be sent exactly if the stream announces no larger one. Streams of the compressing
program announce none, wherever they are cut. -/
theorem buffers_bounded_iff_announced_bounded (lz4 : Lz4) (bounded : lz4.Bounded)
    (receiver : Program) :
    (∀ received : Reader,
      (∀ writer, ∃ result after,
        PipeM.Ends (receiver.decompressAndForward lz4) ⟨received, writer, []⟩ result after ∧
        ∀ size ∈ after.allocated, size ≤ largestBlock) ↔
      ∀ length ∈ (decodeStream lz4 (128 * 1024) received).announced, length ≤ largestBlock) ∧
    ∀ (sender : Program) (source : Reader), source.ending = none →
      ∃ sent, PipeM.Ends (sender.compressAndForward lz4) ⟨source, .reliable, []⟩ (.ok ()) sent ∧
        ∀ received : Reader, received.bytes <+: sent.writer.written →
          ∀ length ∈ (decodeStream lz4 (128 * 1024) received).announced,
            length ≤ largestBlock := by
  rw [receiver.decompressAndForward_eq]
  constructor
  · intro received
    constructor
    · intro always
      obtain ⟨result, after, ran, fits⟩ := always .reliable
      obtain ⟨other, same, ended, -, -, exact⟩ :=
        ends_decompressAndForwardWith lz4 (128 * 1024) received .reliable
      cases ran.symm.trans ended
      rwa [(exact rfl).2.1] at fits
    · intro fits writer
      obtain ⟨result, after, ended, allocates, -⟩ :=
        ends_decompressAndForwardWith lz4 (128 * 1024) received writer
      exact ⟨result, after, ended, fun size inside => fits size (allocates.subset inside)⟩
  · intro sender source clean
    obtain ⟨chunks, sent, ran, written, -, sized, -⟩ :=
      @ends_compressAndForwardWith lz4 source (16 * 1024) (by decide) clean
    refine ⟨sent, by cases sender <;> exact ran, ?_⟩
    intro received cut length announced
    have block : ∀ chunk ∈ chunks, (lz4.compress chunk).length ≤ largestBlock :=
      fun chunk inside => bounded.length_le_largestBlock (sized chunk inside).2
    rw [written] at cut
    obtain ⟨chunk, inside, rfl⟩ := exists_chunk_of_announced
      (fun chunk inside => (block chunk inside).trans_lt (by decide)) cut announced
    exact block chunk inside

private theorem shortBlocks_bounded : shortBlocks.Bounded where
  length_compress chunk := by
    simp only [shortBlocks, maximumOutputSize, List.length_cons]
    omega

theorem greeting_buffers_bounded :
    ∃ result after, PipeM.Ends (Program.listen.decompressAndForward shortBlocks)
      ⟨greetingFrames, .reliable, []⟩ result after ∧
      ∀ size ∈ after.allocated, size ≤ largestBlock := by
  obtain ⟨iff, honest⟩ :=
    buffers_bounded_iff_announced_bounded shortBlocks shortBlocks_bounded .listen
  obtain ⟨sent, ran, announced⟩ := honest .send greeting rfl
  have same : some (Except.ok (), sent) = some (Except.ok (),
      ⟨⟨[], none⟩, ⟨[0, 0, 0, 3, 32, 104, 105, 0, 0, 0, 2, 16, 33], 1, none, none⟩, [16 * 1024]⟩) :=
    ran.symm.trans rfl
  cases same
  exact (iff greetingFrames).mpr (announced greetingFrames (by decide)) .reliable

/-- Four bytes make the program ask for a buffer of almost four gigabytes. -/
theorem buffer_of_forged_length :
    ∃ after, PipeM.Ends (Program.listen.decompressAndForward shortBlocks)
      ⟨receivedAtOnce [255, 255, 255, 255], .reliable, []⟩ (.error Reader.earlyEof) after ∧
      after.allocated = [2 ^ 32 - 1] ∧ largestBlock = 18043 :=
  ⟨_, rfl, by decide, by decide⟩

end NexalinkTunnel.Tunnel
