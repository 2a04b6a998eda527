import CallSite.Bytes.Lemmas
import CallSite.Compression.Gzip

/-!
# Stored blocks inflate to their content

Compression writes stored blocks only. Inflating them gives the content back and leaves what comes
after them, and so a gzip member gives back what was compressed.
-/

namespace CallSite.Deflate

/-! ### Output without a limit -/

theorem Sink.push_of_limit_none (sink : Sink) (h : sink.limit = none) (b : UInt8) :
    sink.push b = .ok { sink with output := sink.output.push b } := by
  simp [Sink.push, h]

theorem Sink.pushAll_of_limit_none (sink : Sink) (h : sink.limit = none) (bs : Bytes) :
    sink.pushAll bs = .ok { sink with output := sink.output ++ bs } := by
  induction bs generalizing sink with
  | nil => simp [pushAll]
  | cons b bs ih =>
      rw [pushAll, push_of_limit_none sink h]
      change Sink.pushAll bs { sink with output := sink.output.push b } = _
      rw [ih { sink with output := sink.output.push b } h]
      simp

/-! ### One block -/

/-- The first byte of a stored block tells whether the block is the last one. -/
theorem header_storedBlock (final : Bool) (rest : Bytes) :
    (BitStream.ofBytes ((if final then 1 else 0) :: rest)).bits? 1 =
        some (if final then 1 else 0, ⟨rest, 0, 7⟩) ∧
      (BitStream.mk rest 0 7).bits? 2 = some (0, ⟨rest, 0, 5⟩) := by
  cases final <;> simp [BitStream.ofBytes, BitStream.bits?, BitStream.bit?]

theorem readStored_append (content rest : Bytes) (held count : Nat) (sink : Sink)
    (hlimit : sink.limit = none) (hsize : content.length ≤ 0xffff) :
    readStored ⟨Bytes.littleEndian 2 content.length ++
        (Bytes.littleEndian 2 (0xffff - content.length) ++ (content ++ rest)), held, count⟩ sink =
      .ok (.ofBytes rest, { sink with output := sink.output ++ content }) := by
  have hlen : Bytes.ofLittleEndian (Bytes.littleEndian 2 content.length) = content.length :=
    Bytes.ofLittleEndian_littleEndian_of_lt (by omega)
  have hcheck : Bytes.ofLittleEndian (Bytes.littleEndian 2 (0xffff - content.length)) =
      0xffff - content.length :=
    Bytes.ofLittleEndian_littleEndian_of_lt (by omega)
  have hsum : content.length + (0xffff - content.length) = 0xffff := by omega
  simp only [readStored, Bytes.take?_append (Bytes.length_littleEndian 2 _), Sink.take, hlen,
    hcheck, hsum, List.take_left, List.drop_left, bind, Except.bind,
    Sink.pushAll_of_limit_none sink hlimit]
  simp [pure, Except.pure]

/-- A stored block adds its content, and the next block follows unless it was the last one. -/
theorem readBlocks_storedBlock (fuel : Nat) (final : Bool) (content rest : Bytes) (sink : Sink)
    (hlimit : sink.limit = none) (hsize : content.length ≤ 0xffff) :
    readBlocks (fuel + 1) (.ofBytes (storedBlock final content ++ rest)) sink =
      if final then .ok (.ofBytes rest, { sink with output := sink.output ++ content })
      else readBlocks fuel (.ofBytes rest) { sink with output := sink.output ++ content } := by
  have hblock : storedBlock final content ++ rest =
      (if final then 1 else 0) :: (Bytes.littleEndian 2 content.length ++
        (Bytes.littleEndian 2 (0xffff - content.length) ++ (content ++ rest))) := by
    simp [storedBlock]
  obtain ⟨hfinal, hkind⟩ := header_storedBlock final (Bytes.littleEndian 2 content.length ++
    (Bytes.littleEndian 2 (0xffff - content.length) ++ (content ++ rest)))
  rw [hblock, readBlocks]
  simp only [hfinal, hkind, Sink.take, bind, Except.bind,
    readStored_append content rest 0 5 sink hlimit hsize]
  cases final <;> rfl

/-! ### All blocks -/

theorem length_le_length_deflateStored (content : Bytes) :
    content.length ≤ (deflateStored content).length := by
  fun_induction deflateStored content with
  | case1 content h => simp [storedBlock]; omega
  | case2 content h ih =>
      simp only [storedBlock, List.length_append, List.length_cons, List.length_take,
        List.length_drop] at ih ⊢
      omega

theorem readBlocks_deflateStored (fuel : Nat) (content rest : Bytes) (sink : Sink)
    (hlimit : sink.limit = none) (hfuel : content.length < fuel) :
    readBlocks fuel (.ofBytes (deflateStored content ++ rest)) sink =
      .ok (.ofBytes rest, { sink with output := sink.output ++ content }) := by
  fun_induction deflateStored content generalizing fuel sink with
  | case1 content hsize =>
      obtain ⟨fuel, rfl⟩ : ∃ n, fuel = n + 1 := ⟨fuel - 1, by omega⟩
      rw [readBlocks_storedBlock fuel true content rest sink hlimit hsize]
      rfl
  | case2 content hsize ih =>
      obtain ⟨fuel, rfl⟩ : ∃ n, fuel = n + 1 := ⟨fuel - 1, by omega⟩
      have hfront : (content.take 0xffff).length ≤ 0xffff := by simp
      have hrest : (content.drop 0xffff).length < fuel := by
        rw [List.length_drop]
        omega
      rw [List.append_assoc, readBlocks_storedBlock fuel false _ _ sink hlimit hfront]
      rw [if_neg (by simp), ih fuel { sink with output := sink.output ++ content.take 0xffff }
        hlimit hrest]
      have houtput : sink.output ++ content.take 0xffff ++ content.drop 0xffff =
          sink.output ++ content := by
        apply Array.toList_inj.mp
        simp
      rw [houtput]

theorem inflate_deflateStored (content rest : Bytes) :
    inflate none (deflateStored content ++ rest) = .ok (content.toArray, rest) := by
  have hlen := length_le_length_deflateStored content
  rw [inflate, readBlocks_deflateStored _ content rest ⟨#[], none⟩ rfl
    (by rw [List.length_append]; omega)]
  simp [bind, Except.bind, pure, Except.pure, BitStream.ofBytes]

end CallSite.Deflate

namespace CallSite.Gzip

theorem skipHeader?_plainHeader (rest : Bytes) :
    skipHeader? (plainHeader ++ rest) = some rest := by
  rw [skipHeader?, Bytes.take?_append (by rfl)]
  simp [plainHeader, flagged, skipIf, guard]

/-- A header, a stream and the checksum and the length of what the stream inflates to are a member,
whatever comes after it. -/
theorem decompress?_of_inflate {bs stream content : Bytes} (rest : Bytes)
    (hheader : skipHeader? bs = some stream)
    (hinflate : (Deflate.inflate none stream).toOption =
      some (content.toArray, Bytes.littleEndian 4 (checksum content).toNat ++
        (Bytes.littleEndian 4 content.length ++ rest))) :
    decompress? bs = some content := by
  have hchecksum : (checksum content).toNat < 256 ^ 4 := (checksum content).toNat_lt
  simp only [decompress?, hheader, hinflate, Option.bind_eq_bind, Option.bind_some,
    Bytes.take?_append (Bytes.length_littleEndian 4 _),
    Bytes.ofLittleEndian_littleEndian_of_lt hchecksum, Bytes.ofLittleEndian_littleEndian]
  simp [guard]

/-- Decompressing gives back whatever was compressed, and does not mind what comes after it. -/
theorem decompress?_compress_append (content rest : Bytes) :
    decompress? (compress content ++ rest) = some content := by
  have hheader : skipHeader? (compress content ++ rest) =
      some (Deflate.deflateStored content ++ (Bytes.littleEndian 4 (checksum content).toNat ++
        (Bytes.littleEndian 4 content.length ++ rest))) := by
    simp only [compress, List.append_assoc, skipHeader?_plainHeader]
  refine decompress?_of_inflate rest hheader ?_
  rw [Deflate.inflate_deflateStored]
  rfl

theorem decompress?_compress (content : Bytes) :
    decompress? (compress content) = some content := by
  simpa using decompress?_compress_append content []

end CallSite.Gzip
