import CallSite.Bytes.Lemmas
import CallSite.Trailer

/-!
# Finding the blob that was appended

The footer behind a blob says how long the blob is, so a blob of any 64-bit length is found again
whatever it holds and whatever the image before it ended with.
-/

namespace CallSite.Trailer

@[simp]
theorem length_footer (n : Nat) : (footer n).length = footerLength := by
  simp [footer, tag, footerLength]

theorem blobLength?_footer {n : Nat} (h : n < UInt64.size) : blobLength? (footer n) = some n := by
  have hlength : (footer n).take 8 = Bytes.littleEndian 8 n := by
    simp [footer]
  have hlanguage : ((footer n).drop 8).take 2 = Bytes.littleEndian 2 language := by
    simp [footer]
  have htag : (footer n).drop 10 = tag := by
    simp [footer, List.drop_append]
  have hn : n < 256 ^ 8 := Nat.lt_of_lt_of_eq h (by decide)
  rw [blobLength?, if_pos, hlength, Bytes.ofLittleEndian_littleEndian_of_lt hn]
  exact ⟨htag, by rw [hlanguage]; decide⟩

/-- The search without its steps: an image of `size` bytes before the place of its footer. -/
theorem find?_eq {image : Bytes} {size : Nat} (h : image.length = size + footerLength) :
    find? image =
      (blobLength? (image.drop size)).bind fun n =>
        if n ≤ size then some ((image.drop (size - n)).take n) else none := by
  have hguard : footerLength ≤ size + footerLength := Nat.le_add_left _ _
  simp only [find?, h, Nat.add_sub_cancel, guard, if_pos hguard]
  cases blobLength? (image.drop size) with
  | none => rfl
  | some n => by_cases hn : n ≤ size <;> simp [hn]

theorem find?_of_length_lt {image : Bytes} (h : image.length < footerLength) :
    find? image = none := by
  rw [find?, guard, if_neg (Nat.not_le.mpr h)]
  rfl

theorem find?_footer (front : Bytes) {blob : Bytes} (h : blob.length < UInt64.size) :
    find? (front ++ blob ++ footer blob.length) = some blob := by
  have hlength : (front ++ blob ++ footer blob.length).length =
      front.length + blob.length + footerLength := by
    simp [Nat.add_assoc]
  have hfooter : (front ++ blob ++ footer blob.length).drop (front.length + blob.length) =
      footer blob.length := by
    rw [← List.length_append, List.drop_left]
  have hblob : ((front ++ blob ++ footer blob.length).drop front.length).take blob.length =
      blob := by
    rw [List.append_assoc, List.drop_left, List.take_left]
  rw [find?_eq hlength, hfooter, blobLength?_footer h, Option.bind_some,
    if_pos (Nat.le_add_left _ _), Nat.add_sub_cancel, hblob]

/-- A blob put behind an image is found there. -/
theorem find?_append (image : Bytes) {blob : Bytes} (h : blob.length < UInt64.size) :
    find? (append image blob) = some blob :=
  find?_footer (strip image) h

/-! ### Reading from a file -/

theorem run_bind {α β : Type} {first : Scan α} {next : α → Scan β} {c between : Cursor} {a : α}
    (h : first.run c = (.ok a, between)) : (first >>= next).run c = (next a).run between := by
  simp only [bind, ExceptT.bind, ExceptT.run, ExceptT.mk, StateT.bind] at h ⊢
  rw [h]
  rfl

theorem run_toEnd (c : Cursor) :
    Cursor.toEnd.run c = (.ok c.content.length, { c with place := c.content.length }) :=
  rfl

theorem run_goTo (place : Nat) (c : Cursor) :
    (Cursor.goTo place).run c = (.ok (), { c with place }) :=
  rfl

/-- A buffer is filled if there are enough bytes after the place. -/
theorem run_fill {n : Nat} {c : Cursor} (h : c.place + n ≤ c.content.length) :
    (Cursor.fill n).run c =
      (.ok ((c.content.drop c.place).take n),
        { c with place := c.place + n, asked := n :: c.asked }) := by
  have hlength : ((c.content.drop c.place).take n).length = n := by
    simp only [List.length_take, List.length_drop]
    omega
  have hfill : (Cursor.fill n).run c =
      (if ((c.content.drop c.place).take n).length = n
        then pure ((c.content.drop c.place).take n)
        else throw (.other "failed to fill whole buffer") : Scan Bytes).run
        { c with
          place := c.place + ((c.content.drop c.place).take n).length, asked := n :: c.asked } :=
    rfl
  rw [hfill, if_pos hlength, hlength]
  rfl

/-- From any place, a scan finds what a look at the whole image finds, and no buffer that it asks for
is longer than the image. -/
theorem run_scan (image : Bytes) (place : Nat) (asked : List Nat) :
    ∃ last sizes, scan.run ⟨image, place, asked⟩ = (.ok (find? image), ⟨image, last, sizes ++ asked⟩) ∧
      ∀ n ∈ sizes, n ≤ image.length := by
  rw [scan, run_bind (run_toEnd _)]
  by_cases hshort : image.length < footerLength
  · rw [if_pos hshort, find?_of_length_lt hshort]
    exact ⟨image.length, [], rfl, by simp⟩
  · obtain ⟨size, hlength⟩ := Nat.exists_eq_add_of_le' (Nat.le_of_not_lt hshort)
    have hfooter : (image.drop size).take footerLength = image.drop size := by
      apply List.take_of_length_le
      rw [List.length_drop]
      omega
    rw [if_neg hshort, find?_eq hlength]
    simp only [hlength, Nat.add_sub_cancel]
    rw [run_bind (run_goTo _ _), run_bind (run_fill (Nat.le_of_eq hlength.symm))]
    simp only [hfooter]
    cases hblob : blobLength? (image.drop size) with
    | none => exact ⟨_, [footerLength], rfl, by simp⟩
    | some n =>
        simp only [Option.bind_some]
        by_cases hn : size < n
        · rw [if_pos hn, if_neg (Nat.not_le.mpr hn)]
          exact ⟨_, [footerLength], rfl, by simp⟩
        · have hle : n ≤ size := Nat.le_of_not_lt hn
          have hfill : size - n + n ≤ image.length := by omega
          rw [if_neg hn, if_pos hle, run_bind (run_goTo _ _), map_eq_pure_bind,
            run_bind (run_fill hfill)]
          refine ⟨_, [n, footerLength], rfl, ?_⟩
          simp only [List.mem_cons, List.not_mem_nil, or_false, forall_eq_or_imp, forall_eq]
          omega

/-- Two small reads find what a look at the whole image finds. -/
theorem read_ofBytes (image : Bytes) : read (.ofBytes image) = .ok (find? image) := by
  obtain ⟨last, sizes, hrun, -⟩ := run_scan image 0 []
  rw [read, Cursor.ofBytes, hrun]

end CallSite.Trailer
