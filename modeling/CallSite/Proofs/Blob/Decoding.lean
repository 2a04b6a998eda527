import CallSite.Proofs.Atlas.Latest
import CallSite.Proofs.Blob.RoundTrip
import CallSite.Proofs.Cbor.Sizes
import CallSite.Proofs.Compression.Growth
import Mathlib.Algebra.Order.BigOperators.Group.List

/-!
# Blobs that decode

What a blob decodes to is no larger than the document in it, and that is at most `2064` times as long
as the blob. So what came out of a blob can be put into one again, and it is all the same by what it
is compressed, as long as decompression undoes that.
-/

namespace CallSite

namespace Document

open Cbor

/-! ### Sizes of what is read -/

/-- What one of the entries stands for is no larger than all entries together. -/
theorem le_sum_of_single? {α β : Type} {size : α → Nat} {pick : α → Option β} {entries : List α}
    {b : β} {n : Nat} (h : single? (entries.filterMap pick) = some b)
    (hsize : ∀ e, pick e = some b → n ≤ size e) : n ≤ (entries.map size).sum := by
  have hmem : b ∈ entries.filterMap pick := by
    match hfound : entries.filterMap pick with
    | [] => simp [hfound, single?] at h
    | [c] => simpa [hfound, single?, eq_comm] using h
    | _ :: _ :: _ => simp [hfound, single?] at h
  obtain ⟨e, he, hpick⟩ := List.mem_filterMap.mp hmem
  exact Nat.le_trans (hsize e hpick) (List.le_sum_of_mem (List.mem_map_of_mem he))

/-- A text counts with its head. -/
def textSize (s : String) : Nat :=
  (Bytes.ofText s).length + 1

def SymbolEntry.size : SymbolEntry → Nat
  | .name text => textSize text
  | _ => 0

theorem within_symbolEntry (key : Option String) :
    Within 0 SymbolEntry.size (SymbolEntry.read key) := by
  unfold SymbolEntry.read
  split
  · exact .map within_uint64
  · exact .map within_textValue
  · exact .map within_uint64
  · exact .map (within_skip _)

theorem within_readSymbol : Within 0 (fun s => textSize s.name) readSymbol := by
  refine (within_entriesValue within_symbolEntry).bind fun entries => ?_
  refine .lift_bind fun id _ => .lift_bind fun name hname => .lift_bind fun address _ => .pure ?_
  refine Nat.le_succ_of_le (le_sum_of_single? hname fun e he => ?_)
  cases e <;> cases he
  exact Nat.le_refl _

theorem within_markEntry (key : Option String) : Within 0 (fun _ => 0) (MarkEntry.read key) := by
  unfold MarkEntry.read
  split
  · exact .map within_uint64
  · exact .map within_uint32
  · exact .map within_int32
  · exact .map within_int32
  · exact .map (within_skip _)

theorem within_readMark : Within 0 (fun _ => 1) readMark := by
  refine (within_entriesValue within_markEntry).bind fun entries => ?_
  refine .lift_bind fun address _ => .lift_bind fun line _ => .lift_bind fun file _ =>
    .lift_bind fun object _ => .pure ?_
  omega

/-- How much of a document each list takes at least. -/
def Entry.size : Entry → Nat
  | .symbols list => (list.map fun s => textSize s.name).sum
  | .marks list => list.length
  | .names list => (list.map textSize).sum
  | _ => 0

theorem within_entry (key : Option String) : Within 0 Entry.size (Entry.read key) := by
  unfold Entry.read
  split
  · exact .map within_uint32
  · exact .map (within_listValue within_readSymbol)
  · refine .map ((within_listValue within_readMark).mono fun list => ?_)
    simp [Entry.size]
  · exact .map (within_listValue within_textValue)
  · exact .map (within_skip _)

/-- How much of a document the longest of the lists takes at least. -/
def Raw.size (raw : Raw) : Nat :=
  max (raw.symbols.map fun s => textSize s.name).sum
    (max raw.marks.length (raw.names.map textSize).sum)

theorem within_readRaw : Within 0 Raw.size readRaw := by
  refine (within_entriesValue within_entry).bind fun entries => ?_
  refine .lift_bind fun version _ => .lift_bind fun symbols hsymbols =>
    .lift_bind fun marks hmarks => .lift_bind fun names hnames => .pure ?_
  refine Nat.le_succ_of_le (Nat.max_le.mpr ⟨?_, Nat.max_le.mpr ⟨?_, ?_⟩⟩)
  · refine le_sum_of_single? hsymbols fun e he => ?_
    cases e <;> cases he
    exact Nat.le_refl _
  · refine le_sum_of_single? hmarks fun e he => ?_
    cases e <;> cases he
    exact Nat.le_refl _
  · refine le_sum_of_single? hnames fun e he => ?_
    cases e <;> cases he
    exact Nat.le_refl _

theorem size_of_read? {bs : Bytes} {raw : Raw} (h : read? bs = some raw) :
    raw.size ≤ bs.length := by
  obtain ⟨⟨found, rest⟩, hread, hraw⟩ := Option.map_eq_some_iff.mp h
  cases hraw
  have hsize := within_readRaw bs found rest hread
  simp only
  omega

/-! ### Atlases that were read -/

theorem length_le_sum_textSize {α : Type} (text : α → String) (list : List α) :
    list.length ≤ (list.map fun a => textSize (text a)).sum := by
  have hlength := List.length_le_sum_of_one_le (list.map fun a => textSize (text a)) fun n hn => by
    obtain ⟨a, -, rfl⟩ := List.mem_map.mp hn
    exact Nat.le_add_left _ _
  rwa [List.length_map] at hlength

theorem length_le_of_textSize {α : Type} (text : α → String) {list : List α} {a : α}
    (h : a ∈ list) :
    (Bytes.ofText (text a)).length ≤ (list.map fun a => textSize (text a)).sum :=
  Nat.le_of_succ_le (List.le_sum_of_mem (List.mem_map_of_mem (f := fun a => textSize (text a)) h))

/-- An atlas is no larger than the document that it is read from. -/
theorem Raw.addressable_atlas {raw : Raw} (h : raw.size < UInt64.size) : raw.atlas.Addressable := by
  obtain ⟨hsymbols, hrest⟩ := Nat.max_lt.mp h
  obtain ⟨hmarks, hnames⟩ := Nat.max_lt.mp hrest
  have hlatest := SymbolIndex.hasLatest_ofList raw.symbols
  have hmem : ∀ s ∈ (SymbolIndex.ofList raw.symbols).entries, s ∈ raw.symbols := fun s hs =>
    List.mem_of_mem_filter (List.mem_of_getLast? ((hlatest.mem_iff s).mp hs))
  have hlength : (SymbolIndex.ofList raw.symbols).entries.length ≤ raw.symbols.length := by
    have hids := hlatest.ids_perm.length_eq
    have hdedup := (List.dedup_sublist (raw.symbols.map Symbol.id)).length_le
    simp only [List.length_map] at hids hdedup
    omega
  refine ⟨?_, hmarks, ?_, fun s hs => ?_, fun s hs => ?_⟩
  · exact Nat.lt_of_le_of_lt (Nat.le_trans hlength (length_le_sum_textSize Symbol.name _)) hsymbols
  · exact Nat.lt_of_le_of_lt (length_le_sum_textSize id raw.names) hnames
  · exact Nat.lt_of_le_of_lt (length_le_of_textSize Symbol.name (hmem s hs)) hsymbols
  · exact Nat.lt_of_le_of_lt (length_le_of_textSize id hs) hnames

end Document

namespace Blob

/-- What a blob of any real size decodes to is addressable. -/
theorem addressable_of_decode {blob : Bytes} {atlas : Atlas} (hsize : blob.length < 2 ^ 52)
    (h : decode blob = .ok atlas) : atlas.Addressable := by
  rw [decode] at h
  split at h
  · cases h
    exact Atlas.addressable_empty
  · split at h
    · cases h
    · rename_i compressed hdecrypt
      split at h
      · cases h
      · rename_i document hdecompress
        split at h
        · cases h
        · rename_i raw hread
          split at h
          · cases h
            have hcompressed := Cipher.length_of_decrypt? hdecrypt
            have hdocument := Gzip.length_of_decompress? hdecompress
            have hraw := Document.size_of_read? hread
            exact Document.Raw.addressable_atlas (by simp only [UInt64.size]; omega)
          · cases h

/--
However documents are compressed, if decompression undoes it: the blob of an atlas, written under any
version, decodes to that atlas if the version is the current one and is refused with its version
otherwise. So what a blob decodes to can be encoded and decoded again.
-/
theorem decode_encode (compress : Bytes → Bytes)
    (hcompress : ∀ content, Gzip.decompress? (compress content) = some content) :
    (∀ atlas : Atlas, atlas.Addressable → ∀ version : UInt32,
      decode (encodeBy compress atlas version).bytes =
        if version = Document.currentVersion then .ok atlas else .error (.version version)) ∧
    ∀ (blob : Bytes) (atlas : Atlas), blob.length < 2 ^ 52 → decode blob = .ok atlas →
      decode (encodeBy compress atlas).bytes = .ok atlas := by
  refine ⟨fun atlas h version => decode_encodeBy hcompress h version, fun blob atlas hsize h => ?_⟩
  rw [decode_encodeBy hcompress (addressable_of_decode hsize h), if_pos rfl]

/-! ### Blobs with codes of their own -/

/-- Marks out of order, with indices that lead nowhere, and names that occur twice. -/
def disorderlyAtlas : Atlas :=
  ⟨.ofList [⟨⟨7⟩, "main", ⟨16⟩⟩], .ofList [⟨⟨32⟩, 3, -1, 9⟩, ⟨⟨16⟩, 4, 0, 1⟩], ⟨["", "a\x00b", ""]⟩⟩

/-- The document of the atlas in a block with codes of its own, and with repetitions. -/
def shortMember : Bytes :=
  [31, 139, 8, 0, 0, 0, 0, 0, 0, 255, 101, 204, 65, 10, 194, 48, 16, 133, 225, 22, 5, 113, 215, 165,
   203, 222, 44, 77, 50, 207, 48, 146, 76, 104, 70, 69, 151, 234, 81, 236, 65, 37, 150, 118, 211,
   221, 227, 135, 239, 77, 225, 142, 162, 156, 165, 13, 250, 76, 46, 71, 125, 125, 29, 211, 129,
   196, 38, 80, 178, 44, 193, 18, 21, 168, 118, 136, 44, 208, 247, 180, 132, 83, 79, 181, 236, 70,
   205, 183, 226, 97, 206, 28, 97, 88, 8, 143, 126, 204, 238, 2, 127, 53, 245, 100, 78, 199, 149,
   117, 127, 181, 223, 170, 102, 171, 90, 212, 173, 159, 193, 219, 198, 13, 63, 216, 206, 108, 180,
   172, 0, 0, 0]

/-- Compresses one document as well as it can. -/
def compressShortly (content : Bytes) : Bytes :=
  if content = Document.write Document.currentVersion disorderlyAtlas then shortMember
  else Gzip.compress content

/-- The checksum of many bytes, with that of the first ones on the way. -/
theorem foldl_checksumByte_of_take (n : Nat) (between : UInt32) {bs : Bytes} {start last : UInt32}
    (hfront : (bs.take n).foldl Gzip.checksumByte start = between)
    (hback : (bs.drop n).foldl Gzip.checksumByte between = last) :
    bs.foldl Gzip.checksumByte start = last := by
  rw [← List.take_append_drop n bs, List.foldl_append, hfront, hback]

theorem decompress?_shortMember :
    Gzip.decompress? shortMember = some (Document.write Document.currentVersion disorderlyAtlas) := by
  have hheader : Gzip.skipHeader? shortMember = some (shortMember.drop 10) := by decide +kernel
  have hbytes : (Document.write Document.currentVersion disorderlyAtlas).foldl Gzip.checksumByte
      0xffffffff = 0x4b933127 := by
    refine foldl_checksumByte_of_take 43 0x3ae218be (by decide +kernel) ?_
    refine foldl_checksumByte_of_take 43 0x1da18a51 (by decide +kernel) ?_
    refine foldl_checksumByte_of_take 43 0xda0efc84 (by decide +kernel) ?_
    decide +kernel
  refine Gzip.decompress?_of_inflate [] hheader ?_
  rw [Gzip.checksum, hbytes]
  decide +kernel

theorem decompress?_compressShortly (content : Bytes) :
    Gzip.decompress? (compressShortly content) = some content := by
  rw [compressShortly]
  split
  · rename_i hcontent
    rw [hcontent]
    exact decompress?_shortMember
  · exact Gzip.decompress?_compress content

/-- The blob of the atlas has the short member in it, and decodes; so does what it decodes to, and a
blob of the later version is refused. -/
theorem decode_encode_disorderly :
    (∀ content, Gzip.decompress? (compressShortly content) = some content) ∧
      disorderlyAtlas.Addressable ∧
      Cipher.decrypt? secret (encodeBy compressShortly disorderlyAtlas).bytes = some shortMember ∧
      decode (encodeBy compressShortly disorderlyAtlas).bytes = .ok disorderlyAtlas ∧
      decode (encodeBy compressShortly disorderlyAtlas 2).bytes = .error (.version 2) ∧
      (encode disorderlyAtlas).bytes.length < 2 ^ 52 ∧
      decode (encode disorderlyAtlas).bytes = .ok disorderlyAtlas ∧
      decode (encodeBy compressShortly disorderlyAtlas).bytes = .ok disorderlyAtlas := by
  have haddressable : disorderlyAtlas.Addressable := by
    refine ⟨by decide, by decide, by decide, ?_, ?_⟩
    · simp only [disorderlyAtlas, SymbolIndex.ofList, List.foldl, SymbolIndex.insert,
        SymbolIndex.empty, SymbolIndex.place, List.forall_mem_singleton, Bytes.length_ofText]
      decide
    · simp only [disorderlyAtlas, List.forall_mem_cons, Bytes.length_ofText]
      decide
  obtain ⟨hencoded, hagain⟩ := decode_encode compressShortly decompress?_compressShortly
  have hmember : Cipher.decrypt? secret (encodeBy compressShortly disorderlyAtlas).bytes =
      some shortMember := by
    rw [encodeBy, Cipher.decrypt?_encrypt, compressShortly, if_pos rfl]
  have hlength : (encode disorderlyAtlas).bytes.length < 2 ^ 52 := by
    rw [encode, encodeBy, Cipher.length_encrypt, Gzip.compress, Deflate.deflateStored]
    decide +kernel
  have hstored : decode (encode disorderlyAtlas).bytes = .ok disorderlyAtlas :=
    decode_encode_version haddressable 1
  exact ⟨decompress?_compressShortly, haddressable, hmember, hencoded _ haddressable 1,
    hencoded _ haddressable 2, hlength, hstored, hagain _ _ hlength hstored⟩

end Blob

end CallSite
