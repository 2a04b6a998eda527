import CallSite.Proofs.Store.Loading
import CallSite.Proofs.Trailer.Replacing

/-!
# What counts as a trailer

An image carries a blob if the blob stands before the footer of its length, whatever comes before
the two. The search in memory accepts just that, and the reads of a file find what the search finds,
whatever number stands in the place of the length.
-/

namespace CallSite.Trailer

/-- The image is a front, a blob, the length of the blob in eight bytes, a zero language and the
tag. -/
structure Carries (image front blob : Bytes) : Prop where
  image_eq : image = front ++ blob ++ Bytes.littleEndian 8 blob.length ++ [0, 0] ++ tag
  /-- Lengths are numbers of 64 bits. -/
  length_lt : blob.length < UInt64.size

/-! ### The search in memory -/

theorem blobLength?_lt {bs : Bytes} {n : Nat} (h : blobLength? bs = some n) : n < UInt64.size := by
  rw [blobLength?] at h
  split at h
  · cases h
    have hlength : (bs.take 8).length ≤ 8 := List.length_take_le 8 bs
    calc
      Bytes.ofLittleEndian (bs.take 8) < 256 ^ (bs.take 8).length := Bytes.ofLittleEndian_lt _
      _ ≤ 256 ^ 8 := Nat.pow_le_pow_right (by decide) hlength
      _ = UInt64.size := by decide
  · cases h

theorem length_lt_of_find? {image blob : Bytes} (h : find? image = some blob) :
    blob.length < UInt64.size := by
  obtain ⟨size, n, -, hn, -, rfl⟩ := exists_of_find? h
  exact Nat.lt_of_le_of_lt (List.length_take_le _ _) (blobLength?_lt hn)

/-- A search finds the blob that an image carries, behind what is left of the image without it. -/
theorem carries_iff {image front blob : Bytes} :
    Carries image front blob ↔ find? image = some blob ∧ strip image = front := by
  have hfooter : front ++ blob ++ Bytes.littleEndian 8 blob.length ++ [0, 0] ++ tag =
      front ++ blob ++ footer blob.length := by
    simp only [footer, List.append_assoc]
    rfl
  constructor
  · rintro ⟨himage, hlength⟩
    rw [hfooter] at himage
    have hfound : find? image = some blob := by
      rw [himage, find?_footer front hlength]
    have hstrip : strip image ++ blob ++ footer blob.length = front ++ blob ++ footer blob.length := by
      rw [← eq_of_find? hfound, himage]
    exact ⟨hfound, List.append_cancel_right (List.append_cancel_right hstrip)⟩
  · rintro ⟨hfound, rfl⟩
    refine ⟨?_, length_lt_of_find? hfound⟩
    rw [hfooter]
    exact eq_of_find? hfound

/-! ### The reads of a file -/

/--
A search finds a blob just in the images that carry it, behind a front that is the image without the
trailer. A scan from any place comes to the same, with no fault and with no buffer that is longer than
the image, and so does a look-up in the file of the image.
-/
theorem find?_iff_carries_and_scan (image : Bytes) :
    (∀ blob, find? image = some blob ↔ ∃ front, Carries image front blob) ∧
      (∀ front blob, Carries image front blob → front = strip image) ∧
      (∀ place asked, ∃ last sizes,
        scan.run ⟨image, place, asked⟩ = (.ok (find? image), ⟨image, last, sizes ++ asked⟩) ∧
          ∀ n ∈ sizes, n ≤ image.length) ∧
      ∀ path s, s.files.read path.text = .ok image →
        (Store.readEmbedded path).outcome s = (.ok (Store.imageBlob image).1,
          { s with told := (Store.imageBlob image).2.reverse ++ s.told }) := by
  refine ⟨fun blob => ?_, ?_, run_scan image, ?_⟩
  · constructor
    · intro hfound
      exact ⟨strip image, carries_iff.mpr ⟨hfound, rfl⟩⟩
    · rintro ⟨front, hcarries⟩
      exact (carries_iff.mp hcarries).1
  · intro front blob hcarries
    exact (carries_iff.mp hcarries).2.symm
  · intro path s hread
    exact Store.outcome_readEmbedded path s hread

/-- A footer whose length is the greatest number of eight bytes. -/
def overlongImage : Bytes :=
  [116, 105, 110, 121] ++ Bytes.littleEndian 8 (UInt64.size - 1) ++ [0, 0] ++ tag

def carryingImage : Bytes :=
  [1, 2] ++ [3] ++ footer 1

def carryingFiles : FileStore :=
  ⟨["w"], [([], .directory), (["w"], .directory), (["w", "app"], .file carryingImage 0o755)]⟩

theorem find?_iff_carries_and_scan_overlong :
    (∀ front blob, ¬ Carries overlongImage front blob) ∧
      (∃ last sizes, scan.run ⟨overlongImage, 99, []⟩ = (.ok none, ⟨overlongImage, last, sizes⟩) ∧
        ∀ n ∈ sizes, n ≤ 26) ∧
      Carries carryingImage [1, 2] [3] ∧ strip carryingImage = [1, 2] ∧
      carryingFiles.read "app" = .ok carryingImage ∧
      ((Store.readEmbedded ⟨"app"⟩).outcome ⟨carryingFiles, []⟩).1 = .ok (some [3]) := by
  obtain ⟨hfound, -, hscan, -⟩ := find?_iff_carries_and_scan overlongImage
  obtain ⟨-, hfront, -, hembedded⟩ := find?_iff_carries_and_scan carryingImage
  have hnone : find? overlongImage = none := by decide
  have hcarries : Carries carryingImage [1, 2] [3] := ⟨by decide, by decide⟩
  have hread : carryingFiles.read "app" = .ok carryingImage := by rfl
  refine ⟨?_, ?_, hcarries, (hfront _ _ hcarries).symm, hread, ?_⟩
  · intro front blob hcarries
    have hsome := (hfound blob).mpr ⟨front, hcarries⟩
    rw [hnone] at hsome
    cases hsome
  · obtain ⟨last, sizes, hrun, hsizes⟩ := hscan 99 []
    rw [hnone, List.append_nil] at hrun
    exact ⟨last, sizes, hrun, hsizes⟩
  · rw [hembedded ⟨"app"⟩ ⟨carryingFiles, []⟩ hread, Store.imageBlob, (carries_iff.mp hcarries).1]

end CallSite.Trailer
