import CallSite.Blob.Basic
import CallSite.Proofs.Atlas.Floor
import CallSite.Proofs.Atlas.Symbols
import CallSite.Proofs.Blob.Cipher
import CallSite.Proofs.Cbor.RoundTrip
import CallSite.Proofs.Compression.Stored

/-!
# Decoding undoes encoding

The blob of an atlas decodes to that atlas, whatever its names, indices and addresses are and however
its document is compressed: the order of its symbols and the flag of its track are rebuilt and come
out as they were. A document of another version is refused with that version.
-/

namespace CallSite

/-- Every count and every size of a text is a 64-bit number, as it is in any memory. -/
structure Atlas.Addressable (atlas : Atlas) : Prop where
  symbols : atlas.symbols.entries.length < UInt64.size
  marks : atlas.track.marks.toList.length < UInt64.size
  names : atlas.pool.names.length < UInt64.size
  symbolTexts : ∀ s ∈ atlas.symbols.entries, (Bytes.ofText s.name).length < UInt64.size
  nameTexts : ∀ s ∈ atlas.pool.names, (Bytes.ofText s).length < UInt64.size

theorem Atlas.addressable_empty : Atlas.empty.Addressable := by
  refine ⟨by decide, by decide, by decide, fun s hs => ?_, fun s hs => ?_⟩ <;> cases hs

namespace Document

open Cbor

/-! ### Entries of lists -/

theorem reads_writeSymbol {s : Symbol} (h : (Bytes.ofText s.name).length < UInt64.size) :
    Reads readSymbol (writeSymbol s) s := by
  have hentries : Reads (entriesValue SymbolEntry.read) (writeSymbol s)
      [.id s.id.value, .name s.name, .address s.address.value] := by
    refine reads_map (.cons ?_ (.cons ?_ (.cons ?_ .nil))) ?_ (by simp [UInt64.size])
    · exact (reads_uint64 s.id.value).map SymbolEntry.id
    · exact (reads_text h).map SymbolEntry.name
    · exact (reads_uint64 s.address.value).map SymbolEntry.address
    · simp only [List.forall_mem_cons, Bytes.length_ofText]
      decide
  exact hentries.bind_nil fun _ => rfl

theorem reads_writeMark (m : Mark) : Reads readMark (writeMark m) m := by
  have hentries : Reads (entriesValue MarkEntry.read) (writeMark m)
      [.address m.address.value, .line m.line, .file m.file, .object m.object] := by
    refine reads_map (.cons ?_ (.cons ?_ (.cons ?_ (.cons ?_ .nil)))) ?_ (by simp [UInt64.size])
    · exact (reads_uint64 m.address.value).map MarkEntry.address
    · exact (reads_uint32 m.line).map MarkEntry.line
    · exact (reads_int32 m.file).map MarkEntry.file
    · exact (reads_int32 m.object).map MarkEntry.object
    · simp only [List.forall_mem_cons, Bytes.length_ofText]
      decide
  exact hentries.bind_nil fun _ => rfl

/-- A list of written values is read if each of them is. -/
theorem reads_list {α : Type} {item : Reader α} {write : α → Bytes} {values : List α}
    (h : ∀ a ∈ values, Reads item (write a) a) (hsize : values.length < UInt64.size) :
    Reads (listValue item) (array (values.map write)) values := by
  refine reads_array ?_ (by rwa [List.length_map])
  rw [List.forall₂_map_left_iff, List.forall₂_same]
  exact h

/-! ### Documents and blobs -/

theorem reads_write {atlas : Atlas} (h : atlas.Addressable) (version : UInt32) :
    Reads readRaw (write version atlas)
      ⟨version, atlas.symbols.entries, atlas.track.marks.toList, atlas.pool.names⟩ := by
  have hentries : Reads (entriesValue Entry.read) (write version atlas)
      [.version version, .symbols atlas.symbols.entries, .marks atlas.track.marks.toList,
        .names atlas.pool.names] := by
    refine reads_map (.cons ?_ (.cons ?_ (.cons ?_ (.cons ?_ .nil)))) ?_ (by simp [UInt64.size])
    · exact (reads_uint32 version).map Entry.version
    · exact (reads_list (fun s hs => reads_writeSymbol (h.symbolTexts s hs)) h.symbols).map
        Entry.symbols
    · exact (reads_list (fun m _ => reads_writeMark m) h.marks).map Entry.marks
    · exact (reads_list (fun s hs => reads_text (h.nameTexts s hs)) h.names).map Entry.names
    · simp only [List.forall_mem_cons, Bytes.length_ofText]
      decide
  exact hentries.bind_nil fun _ => rfl

theorem read?_write {atlas : Atlas} (h : atlas.Addressable) (version : UInt32) :
    ∃ raw, read? (write version atlas) = some raw ∧ raw.version = version ∧ raw.atlas = atlas := by
  have hread := reads_write h version []
  rw [List.append_nil] at hread
  refine ⟨_, by rw [read?, hread]; rfl, rfl, ?_⟩
  simp only [Raw.atlas, SymbolIndex.ofList_entries, Track.ofList_toList]

end Document

namespace Blob

theorem encodeBy_ne_nil (compress : Bytes → Bytes) (atlas : Atlas) (version : UInt32) :
    (encodeBy compress atlas version).bytes.isEmpty = false := by
  rw [encodeBy, List.isEmpty_eq_false_iff, ← List.length_pos_iff, Cipher.length_encrypt]
  omega

/-- What decoding makes of the blob of an atlas, written under any version and compressed in any way
that decompression undoes. -/
theorem decode_encodeBy {compress : Bytes → Bytes}
    (hcompress : ∀ content, Gzip.decompress? (compress content) = some content) {atlas : Atlas}
    (h : atlas.Addressable) (version : UInt32) :
    decode (encodeBy compress atlas version).bytes =
      if version = Document.currentVersion then .ok atlas else .error (.version version) := by
  obtain ⟨raw, hread, hversion, hatlas⟩ := Document.read?_write h version
  rw [decode, encodeBy_ne_nil]
  simp only [encodeBy, Cipher.decrypt?_encrypt, hcompress, hread, hversion, hatlas]
  rfl

theorem decode_encode_version {atlas : Atlas} (h : atlas.Addressable) (version : UInt32) :
    decode (encode atlas version).bytes =
      if version = Document.currentVersion then .ok atlas else .error (.version version) :=
  decode_encodeBy Gzip.decompress?_compress h version

end Blob

end CallSite
