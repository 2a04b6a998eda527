import CallSite.Proofs.Trailer

/-!
# Replacing a blob

Putting a blob behind an image takes away the one that was there and nothing of the image, so of many
blobs put there in turn the last remains. The blob that an image already has changes nothing.
-/

namespace CallSite.Trailer

/-! ### What is found -/

/-- Bytes that are read as a footer are the footer of the length that is read. -/
theorem eq_footer_of_blobLength? {bs : Bytes} {n : Nat} (hlength : bs.length = footerLength)
    (h : blobLength? bs = some n) : bs = footer n := by
  rw [blobLength?] at h
  split at h
  · rename_i hfooter
    obtain ⟨htag, hlanguage⟩ := hfooter
    cases h
    have hsize : (bs.take 8).length = 8 ∧ ((bs.drop 8).take 2).length = 2 := by
      simp [hlength, footerLength]
    have hfirst := Bytes.littleEndian_ofLittleEndian (bs.take 8)
    have hsecond := Bytes.littleEndian_ofLittleEndian ((bs.drop 8).take 2)
    rw [hsize.1] at hfirst
    rw [hsize.2, hlanguage] at hsecond
    calc
      bs = bs.take 8 ++ ((bs.drop 8).take 2 ++ (bs.drop 8).drop 2) := by
        rw [List.take_append_drop, List.take_append_drop]
      _ = footer (Bytes.ofLittleEndian (bs.take 8)) := by
        rw [List.drop_drop, htag, footer, hfirst, hsecond, List.append_assoc]
  · cases h

/-- What a search that finds a blob has come upon: a footer at the end, and before it as many bytes as
the footer says. -/
theorem exists_of_find? {image blob : Bytes} (h : find? image = some blob) :
    ∃ size n, image.length = size + footerLength ∧ blobLength? (image.drop size) = some n ∧
      n ≤ size ∧ blob = (image.drop (size - n)).take n := by
  have hlong : ¬ image.length < footerLength := by
    intro hshort
    rw [find?_of_length_lt hshort] at h
    cases h
  obtain ⟨size, hlength⟩ := Nat.exists_eq_add_of_le' (Nat.le_of_not_lt hlong)
  rw [find?_eq hlength] at h
  obtain ⟨n, hn, hblob⟩ := Option.bind_eq_some_iff.mp h
  split at hblob
  · rename_i hle
    exact ⟨size, n, hlength, hn, hle, (Option.some.inj hblob).symm⟩
  · cases hblob

/-- An image in which a blob is found is what is left without it, the blob and its footer. -/
theorem eq_of_find? {image blob : Bytes} (h : find? image = some blob) :
    image = strip image ++ blob ++ footer blob.length := by
  obtain ⟨size, n, hlength, hn, hle, hblob⟩ := exists_of_find? h
  have hblobLength : blob.length = n := by
    rw [hblob]
    simp only [List.length_take, List.length_drop]
    omega
  have hfooter : image.drop size = footer n := by
    refine eq_footer_of_blobLength? ?_ hn
    rw [List.length_drop]
    omega
  have hrest : image.drop size = (image.drop (size - n)).drop n := by
    rw [List.drop_drop, Nat.sub_add_cancel hle]
  rw [strip, h]
  simp only [hblobLength, hlength, Nat.add_sub_cancel]
  rw [← hfooter, hrest, hblob, List.append_assoc, List.take_append_drop, List.take_append_drop]

/-! ### One blob after another -/

/-- A blob put behind an image is taken away again with nothing else. -/
theorem strip_append (image : Bytes) {blob : Bytes} (h : blob.length < UInt64.size) :
    strip (append image blob) = strip image := by
  have heq : strip image ++ blob ++ footer blob.length =
      strip (append image blob) ++ blob ++ footer blob.length :=
    eq_of_find? (find?_append image h)
  exact (List.append_cancel_right (List.append_cancel_right heq)).symm

/-- A blob that is put behind an image again is the one that is there. -/
theorem append_append (image : Bytes) {blob : Bytes} (h : blob.length < UInt64.size) :
    append (append image blob) blob = append image blob := by
  rw [append, strip_append image h, ← append]

theorem strip_foldl_append {image : Bytes} {blobs : List Bytes}
    (h : ∀ blob ∈ blobs, blob.length < UInt64.size) :
    strip (blobs.foldl append image) = strip image := by
  induction blobs generalizing image with
  | nil => rfl
  | cons blob rest ih =>
      have hblob : blob.length < UInt64.size := h blob List.mem_cons_self
      have hrest : ∀ other ∈ rest, other.length < UInt64.size :=
        fun other hother => h other (List.mem_cons_of_mem _ hother)
      rw [List.foldl_cons, ih hrest, strip_append image hblob]

/--
Of blobs put behind an image in turn the last remains, behind what the image is without a trailer;
and putting back the blob that an image has leaves the image as it is.
-/
theorem foldl_append_blobs (image : Bytes) :
    (∀ (blobs : List Bytes) (last : Bytes), blobs.getLast? = some last →
      (∀ blob ∈ blobs, blob.length < UInt64.size) →
        blobs.foldl append image =
            strip image ++ last ++ Bytes.littleEndian 8 last.length ++ [0, 0] ++ tag ∧
          blobs.foldl append image = append image last ∧
          find? (blobs.foldl append image) = some last ∧
          strip (blobs.foldl append image) = strip image) ∧
      ∀ blob, find? image = some blob → append image blob = image := by
  refine ⟨?_, fun blob hfound => (eq_of_find? hfound).symm⟩
  intro blobs last hlast hsize
  obtain ⟨front, rfl⟩ := List.getLast?_eq_some_iff.mp hlast
  have hfront : strip (front.foldl append image) = strip image :=
    strip_foldl_append fun blob hblob => hsize blob (List.mem_append_left _ hblob)
  have hlastSize : last.length < UInt64.size := hsize last (by simp)
  have hfold : (front ++ [last]).foldl append image = append (front.foldl append image) last := by
    rw [List.foldl_append, List.foldl_cons, List.foldl_nil]
  have hreplaced : (front ++ [last]).foldl append image = append image last := by
    rw [hfold, append, hfront, append]
  have hfooter : footer last.length =
      Bytes.littleEndian 8 last.length ++ [0, 0] ++ tag := rfl
  refine ⟨?_, hreplaced, ?_, strip_foldl_append hsize⟩
  · rw [hreplaced, append, hfooter, ← List.append_assoc, ← List.append_assoc]
  · rw [hfold, find?_append _ hlastSize]

/-- An image that ends like a trailer, and blobs that do. -/
theorem foldl_append_blobs_misleading :
    [[7] ++ footer 1, [], footer 0].foldl append ([1, 2] ++ footer 9) =
        [1, 2] ++ footer 9 ++ footer 0 ++ footer 22 ∧
      append ([1, 2] ++ footer 1) [2] = [1, 2] ++ footer 1 := by
  obtain ⟨happend, -⟩ := foldl_append_blobs ([1, 2] ++ footer 9)
  obtain ⟨-, hagain⟩ := foldl_append_blobs ([1, 2] ++ footer 1)
  refine ⟨?_, hagain [2] (by decide)⟩
  have hsize : ∀ blob ∈ [[7] ++ footer 1, [], footer 0], blob.length < UInt64.size := by
    decide
  obtain ⟨hresult, -⟩ := happend _ (footer 0) rfl hsize
  exact hresult.trans (by decide)

end CallSite.Trailer
