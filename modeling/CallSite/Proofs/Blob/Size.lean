import CallSite.Proofs.Blob.RoundTrip

/-!
# Sizes of documents and blobs

A document is longer than each of its lists and texts. So an atlas whose document fits into memory
can be decoded from its blob, and the length of that blob fits into a footer.
-/

namespace CallSite

namespace Cbor

theorem text_ne_nil (s : String) : text s ≠ [] := by
  simp [text, head_ne_nil]

theorem map_ne_nil (entries : List (String × Bytes)) : map entries ≠ [] := by
  simp [map, head_ne_nil]

theorem length_ofText_le (s : String) : (Bytes.ofText s).length ≤ (text s).length := by
  simp [text]

theorem length_le_length_flatten {items : List Bytes} (h : ∀ item ∈ items, item ≠ []) :
    items.length ≤ items.flatten.length := by
  induction items with
  | nil => simp
  | cons item rest ih =>
      have hitem : 0 < item.length := List.length_pos_iff.mpr (h item List.mem_cons_self)
      have hrest := ih fun other hother => h other (List.mem_cons_of_mem _ hother)
      rw [List.flatten_cons, List.length_append, List.length_cons]
      omega

section Array

variable {α : Type} {write : α → Bytes} {values : List α}

theorem length_le_length_array (h : ∀ a, write a ≠ []) :
    values.length ≤ (array (values.map write)).length := by
  have hitems : ∀ item ∈ values.map write, item ≠ [] := by
    intro item hitem
    obtain ⟨a, -, rfl⟩ := List.mem_map.mp hitem
    exact h a
  have hflatten := length_le_length_flatten hitems
  rw [List.length_map] at hflatten
  rw [array, List.length_append]
  omega

theorem length_write_le_length_array {a : α} (h : a ∈ values) :
    (write a).length ≤ (array (values.map write)).length := by
  have hflatten := (List.sublist_flatten_of_mem (List.mem_map_of_mem (f := write) h)).length_le
  rw [array, List.length_append]
  omega

end Array

theorem length_le_length_map (key : String) {value : Bytes} {entries : List (String × Bytes)}
    (h : (key, value) ∈ entries) : value.length ≤ (map entries).length := by
  have hvalue : value.length ≤ (text key ++ value).length := by simp
  rw [map, List.length_append, List.flatMap_def]
  refine Nat.le_trans hvalue (Nat.le_trans ?_ (Nat.le_add_left _ _))
  refine (List.sublist_flatten_of_mem ?_).length_le
  exact List.mem_map.mpr ⟨(key, value), h, rfl⟩

end Cbor

namespace Atlas

/-- The document of the atlas fits into memory, where byte strings have signed 64-bit lengths. -/
def Storable (atlas : Atlas) : Prop :=
  (Document.write Document.currentVersion atlas).length < 2 ^ 63

theorem Storable.addressable {atlas : Atlas} (h : atlas.Storable) : atlas.Addressable := by
  have hdocument : (Document.write Document.currentVersion atlas).length < UInt64.size :=
    Nat.lt_trans h (by decide)
  have hsymbols : (Cbor.array (atlas.symbols.entries.map Document.writeSymbol)).length <
      UInt64.size :=
    Nat.lt_of_le_of_lt (Cbor.length_le_length_map "symbols" (by simp)) hdocument
  have hmarks : (Cbor.array (atlas.track.marks.toList.map Document.writeMark)).length <
      UInt64.size :=
    Nat.lt_of_le_of_lt (Cbor.length_le_length_map "lines" (by simp)) hdocument
  have hnames : (Cbor.array (atlas.pool.names.map Cbor.text)).length < UInt64.size :=
    Nat.lt_of_le_of_lt (Cbor.length_le_length_map "names" (by simp)) hdocument
  refine ⟨?_, ?_, ?_, ?_, ?_⟩
  · exact Nat.lt_of_le_of_lt (Cbor.length_le_length_array fun _ => Cbor.map_ne_nil _) hsymbols
  · exact Nat.lt_of_le_of_lt (Cbor.length_le_length_array fun _ => Cbor.map_ne_nil _) hmarks
  · exact Nat.lt_of_le_of_lt (Cbor.length_le_length_array Cbor.text_ne_nil) hnames
  · intro s hs
    have htext : (Cbor.text s.name).length ≤ (Document.writeSymbol s).length :=
      Cbor.length_le_length_map "name" (by simp)
    have hwrite : (Document.writeSymbol s).length < UInt64.size :=
      Nat.lt_of_le_of_lt (Cbor.length_write_le_length_array hs) hsymbols
    have hname := Cbor.length_ofText_le s.name
    omega
  · intro s hs
    have htext : (Cbor.text s).length < UInt64.size :=
      Nat.lt_of_le_of_lt (Cbor.length_write_le_length_array hs) hnames
    exact Nat.lt_of_le_of_lt (Cbor.length_ofText_le s) htext

end Atlas

namespace Deflate

theorem length_deflateStored_le (content : Bytes) :
    (deflateStored content).length ≤ content.length + content.length / 8 + 5 := by
  fun_induction deflateStored content with
  | case1 content h =>
      simp [storedBlock]
      omega
  | case2 content h ih =>
      simp only [storedBlock, List.length_append, List.length_cons, List.length_take,
        List.length_drop, Bytes.length_littleEndian] at ih ⊢
      omega

end Deflate

namespace Blob

theorem length_encode_le {atlas : Atlas} (h : atlas.Storable) :
    (encode atlas).bytes.length < UInt64.size := by
  have hdocument := Deflate.length_deflateStored_le (Document.write Document.currentVersion atlas)
  have hsize : UInt64.size = 2 ^ 64 := rfl
  rw [Atlas.Storable] at h
  simp only [encode, encodeBy, Cipher.length_encrypt, Gzip.compress, Gzip.plainHeader, List.length_append,
    List.length_cons, List.length_nil, Bytes.length_littleEndian]
  omega

end Blob

end CallSite
