import CallSite.Bytes.Lemmas
import CallSite.Cbor.Reader
import Mathlib.Algebra.BigOperators.Group.List.Basic

/-!
# What is read is no longer than what it is read from

A reader takes at least as many bytes as what it reads amounts to, by a size that each reader has for
what it reads: the bytes of a text, and for a list the sum of its entries. What a reader has taken
and not used yet may pay for what it reads later.
-/

namespace CallSite.Cbor

/-- What is read and what is left are together no longer than the byte string and what was spared
from earlier ones. -/
def Within {α : Type} (spare : Nat) (size : α → Nat) (r : Reader α) : Prop :=
  ∀ bs a rest, r bs = some (a, rest) → size a + rest.length ≤ bs.length + spare

namespace Within

variable {α β : Type} {spare : Nat} {size : α → Nat} {r : Reader α}

theorem mono {less : α → Nat} (h : Within spare size r) (hless : ∀ a, less a ≤ size a) :
    Within spare less r := fun bs a rest hr =>
  Nat.le_trans (Nat.add_le_add_right (hless a) _) (h bs a rest hr)

/-- What was spared before is still there afterwards. -/
theorem carry (h : Within 0 size r) (spare : Nat) : Within spare (fun a => size a + spare) r := by
  intro bs a rest hr
  have hsize := h bs a rest hr
  simp only
  omega

/-- A reader whose results do not count. -/
theorem any (h : Within 0 size r) : Within spare (fun _ => spare) r :=
  (h.carry spare).mono fun _ => Nat.le_add_left _ _

protected theorem pure {a : α} (h : size a ≤ spare) : Within spare size (pure a) := by
  intro bs b rest hr
  cases hr
  omega

protected theorem failure : Within spare size failure := by
  intro bs a rest hr
  cases hr

theorem lift {found : Option α} (h : ∀ a, found = some a → size a ≤ spare) :
    Within spare size (liftM found) := by
  intro bs a rest hr
  obtain ⟨b, hb, hr⟩ := Option.bind_eq_some_iff.mp hr
  cases hr
  have hsize := h _ hb
  omega

protected theorem bind {next : α → Reader β} {total : β → Nat} (h : Within spare size r)
    (hnext : ∀ a, Within (size a) total (next a)) : Within spare total (r >>= next) := by
  intro bs b rest hr
  obtain ⟨⟨a, between⟩, ha, hb⟩ := Option.bind_eq_some_iff.mp hr
  have hfirst := h bs a between ha
  have hsecond := hnext a between b rest hb
  omega

protected theorem map {f : α → β} {total : β → Nat} (h : Within spare (fun a => total (f a)) r) :
    Within spare total (f <$> r) := by
  intro bs b rest hr
  obtain ⟨⟨a, between⟩, ha, hb⟩ := Option.bind_eq_some_iff.mp hr
  cases hb
  exact h _ _ _ ha

theorem lift_bind {found : Option α} {next : α → Reader β} {total : β → Nat}
    (h : ∀ a, found = some a → Within spare total (next a)) :
    Within spare total (liftM found >>= next) := by
  cases found with
  | none => exact .failure
  | some a => exact h a rfl

theorem check (p : Prop) [Decidable p] : Within spare (fun _ => spare) (guard p : Reader Unit) := by
  rw [guard]
  split
  · exact .pure (Nat.le_refl _)
  · exact .failure

end Within

/-! ### Bytes and heads -/

theorem within_take (n : Nat) : Within 0 List.length (Reader.take n) := by
  intro bs front rest hr
  obtain ⟨rfl, -⟩ := Bytes.take?_eq_some_iff.mp hr
  exact Nat.le_of_eq List.length_append.symm

theorem within_byte : Within 0 (fun _ => 1) Reader.byte := by
  intro bs b rest hr
  cases bs with
  | nil => cases hr
  | cons c bs =>
      cases hr
      simp only [List.length_cons]
      omega

theorem within_bigEndian (width : Nat) : Within 0 (fun _ => 0) (Reader.bigEndian width) :=
  .map (within_take width).any

theorem within_readArgument (minor : Nat) : Within 0 (fun _ => 0) (readArgument minor) := by
  unfold readArgument
  split
  · exact .pure (Nat.le_refl _)
  · split
    · exact .map (within_bigEndian 1)
    · exact .map (within_bigEndian 2)
    · exact .map (within_bigEndian 4)
    · exact .map (within_bigEndian 8)
    · exact .pure (Nat.le_refl _)
    · exact .failure

theorem within_readNumber (minor : Nat) : Within 0 (fun _ => 0) (readNumber minor) :=
  (within_readArgument minor).bind fun _ => .lift fun _ _ => Nat.zero_le _

theorem within_readHead : Within 0 (fun _ => 1) readHead := by
  refine within_byte.bind fun b => ?_
  have hargument {f : Option Nat → Head} :
      Within 1 (fun _ => 1) (f <$> readArgument (b.toNat % 32)) :=
    .map (within_readArgument _).any
  have hnumber {f : Nat → Head} : Within 1 (fun _ => 1) (f <$> readNumber (b.toNat % 32)) :=
    .map (within_readNumber _).any
  have htake {n : Nat} {f : Bytes → Head} : Within 1 (fun _ => 1) (f <$> Reader.take n) :=
    .map (within_take n).any
  simp only
  split
  · exact hnumber
  · exact hnumber
  · exact hargument
  · exact hargument
  · exact hargument
  · exact hargument
  · exact hnumber
  · split
    · exact .pure (Nat.le_refl _)
    · split
      · exact .map (within_bigEndian 1).any
      · exact htake
      · exact htake
      · exact htake
      · exact .pure (Nat.le_refl _)
      · exact .failure

theorem within_readPastTags (stopAt : Nat → Bool) :
    Within 0 (fun _ => 1) (readPastTags stopAt) := by
  have hfor : ∀ fuel, Within 0 (fun _ => 1) (readPastTagsFor stopAt fuel) := by
    intro fuel
    induction fuel with
    | zero => exact .failure
    | succ fuel ih =>
        refine within_readHead.bind fun h => ?_
        split
        · split
          · exact .pure (Nat.le_refl _)
          · exact ih.any
        · exact .pure (Nat.le_refl _)
  exact fun bs => hfor bs.length bs

/-! ### Strings -/

/-- How many bytes there are in all. -/
def total (segments : List Bytes) : Nat :=
  (segments.map List.length).sum

theorem within_readChunks (chunk : ChunkSize) (fuel depth : Nat) (found : List Bytes) :
    Within (total found) total (readChunks chunk fuel depth found) := by
  induction fuel generalizing depth found with
  | zero => exact .failure
  | succ fuel ih =>
      refine (within_readHead.any).bind fun h => ?_
      split
      · split
        · refine .pure (Nat.le_of_eq ?_)
          rw [total, List.map_reverse, List.sum_reverse, total]
        · exact ih _ found
      · split
        · exact .failure
        · exact ih _ found
        · refine ((within_take _).carry (total found)).bind fun content => ?_
          exact ih _ (content :: found)

theorem within_readSegments (chunk : ChunkSize) (size : Option Nat) :
    Within 0 total (readSegments chunk size) := by
  cases size with
  | some n =>
      refine (within_take n).bind fun content => .pure ?_
      simp [total]
  | none => exact fun bs => within_readChunks chunk bs.length 0 [] bs

theorem within_readBytes (size : Option Nat) : Within 0 List.length (readBytes size) := by
  refine .map ((within_readSegments byteChunk size).mono fun segments => Nat.le_of_eq ?_)
  exact List.length_flatten

theorem total_of_mapM_toText? {segments : List Bytes} {parts : List String}
    (h : segments.mapM Bytes.toText? = some parts) :
    (Bytes.ofText (String.join parts)).length = total segments := by
  induction segments generalizing parts with
  | nil =>
      rw [List.mapM_nil] at h
      cases h
      rw [String.join_nil, Bytes.length_ofText]
      rfl
  | cons segment rest ih =>
      rw [List.mapM_cons] at h
      obtain ⟨part, hpart, h⟩ := Option.bind_eq_some_iff.mp h
      obtain ⟨others, hothers, h⟩ := Option.bind_eq_some_iff.mp h
      cases h
      have hrest := ih hothers
      rw [String.join_cons, Bytes.length_ofText_append, Bytes.ofText_of_toText? hpart, hrest]
      rfl

theorem within_readText (size : Option Nat) :
    Within 0 (fun s => (Bytes.ofText s).length) (readText size) := by
  refine (within_readSegments textChunk size).bind fun segments => ?_
  refine Within.bind (.lift fun parts hparts => Nat.le_of_eq (total_of_mapM_toText? hparts)) ?_
  exact fun parts => .pure (Nat.le_refl _)

/-! ### Values -/

theorem within_readLarge : Within 0 (fun _ => 0) readLarge := by
  refine (within_readHead.any).bind fun h => ?_
  split
  · refine ((within_readBytes _).any).bind fun digits => ?_
    exact (Within.check _).bind fun _ => .pure (Nat.le_refl _)
  · exact .failure

theorem within_integerValue : Within 0 (fun _ => 0) integerValue := by
  refine ((within_readPastTags _).any).bind fun h => ?_
  split
  · exact .pure (Nat.le_refl _)
  · exact .pure (Nat.le_refl _)
  · exact .map (within_readLarge.bind fun _ => .pure (Nat.le_refl _))
  · exact .map (within_readLarge.bind fun _ => .pure (Nat.le_refl _))
  · exact .failure

theorem within_naturalBelow (bound : Nat) : Within 0 (fun _ => 0) (naturalBelow bound) :=
  within_integerValue.bind fun _ => (Within.check _).bind fun _ => .pure (Nat.le_refl _)

theorem within_int32 : Within 0 (fun _ => 0) int32 :=
  within_integerValue.bind fun _ => (Within.check _).bind fun _ => .pure (Nat.le_refl _)

theorem within_uint32 : Within 0 (fun _ => 0) uint32 :=
  .map (within_naturalBelow _)

theorem within_uint64 : Within 0 (fun _ => 0) uint64 :=
  .map (within_naturalBelow _)

/-- The head of a text is one byte more. -/
theorem within_textValue : Within 0 (fun s => (Bytes.ofText s).length + 1) textValue := by
  refine (within_readPastTags _).bind fun h => ?_
  split
  · exact (within_readText _).carry 1
  · exact .failure

theorem within_keyValue : Within 0 (fun _ => 0) keyValue := by
  refine ((within_readPastTags _).any).bind fun h => ?_
  split
  · refine (Within.check _).bind fun _ => ?_
    exact ((within_readText _).any).bind fun _ => .pure (Nat.le_refl _)
  · refine (Within.check _).bind fun _ => ?_
    exact ((within_take _).any).bind fun _ => .pure (Nat.le_refl _)
  · exact .failure

section Lists

variable {α : Type} {size : α → Nat} {item : Reader α}

theorem within_timesAfter (h : Within 0 size item) (found : List α) (n : Nat) :
    Within (found.map size).sum (fun xs => (xs.map size).sum) (item.timesAfter found n) := by
  induction n generalizing found with
  | zero =>
      refine .pure (Nat.le_of_eq ?_)
      rw [List.map_reverse, List.sum_reverse]
  | succ n ih =>
      refine (h.carry (found.map size).sum).bind fun a => ?_
      exact ih (a :: found)

theorem within_untilStopAfter (h : Within 0 size item) (found : List α) (fuel : Nat) :
    Within (found.map size).sum (fun xs => (xs.map size).sum)
      (item.untilStopAfter found fuel) := by
  induction fuel generalizing found with
  | zero => exact .failure
  | succ fuel ih =>
      intro bs xs rest hr
      cases bs with
      | nil => cases hr
      | cons b bs =>
          simp only [Reader.untilStopAfter] at hr
          split at hr
          · cases hr
            simp only [List.map_reverse, List.sum_reverse, List.length_cons]
            omega
          · have hbind := (h.carry (found.map size).sum).bind fun a => ih (a :: found)
            exact hbind (b :: bs) xs rest hr

theorem within_readItems (h : Within 0 size item) (count : Option Nat) :
    Within 0 (fun xs => (xs.map size).sum) (readItems count item) := by
  cases count with
  | some n => exact within_timesAfter h [] n
  | none => exact fun bs => within_untilStopAfter h [] bs.length bs

theorem within_listValue (h : Within 0 size item) :
    Within 0 (fun xs => (xs.map size).sum) (listValue item) := by
  refine ((within_readPastTags _).any).bind fun head => ?_
  split
  · exact within_readItems h _
  · refine ((within_readBytes _).any).bind fun _ => ?_
    exact (Within.check _).bind fun _ => .pure (Nat.le_refl _)
  · exact .failure

/-- The head of a map is one byte more. -/
theorem within_entriesValue {entry : Option String → Reader α}
    (h : ∀ key, Within 0 size (entry key)) :
    Within 0 (fun xs => (xs.map size).sum + 1) (entriesValue entry) := by
  refine (within_readPastTags _).bind fun head => ?_
  split
  · exact (within_readItems (within_keyValue.bind h) _).carry 1
  · exact .failure

end Lists

/-! ### Values that are skipped -/

theorem within_skipWith {inner : Option (Reader Unit)}
    (h : ∀ item, inner = some item → Within 0 (fun _ => 0) item) :
    Within 0 (fun _ => 0) (skipWith inner) := by
  have hdiscard {α : Type} {r : Reader α} {size : α → Nat} (hr : Within 0 size r) :
      Within 0 (fun _ => 0) (discard r) := .map hr.any
  refine (within_readHead.any).bind fun head => ?_
  split
  · exact .pure (Nat.le_refl _)
  · exact .pure (Nat.le_refl _)
  · exact .pure (Nat.le_refl _)
  · exact hdiscard (within_readBytes _)
  · exact hdiscard (within_readText _)
  · exact .lift_bind fun item hitem => hdiscard (within_readItems (h item hitem) _)
  · refine .lift_bind fun item hitem => ?_
    have hboth : Within 0 (fun _ => 0) (do item; item) := (h item hitem).bind fun _ => h item hitem
    exact hdiscard (within_readItems hboth _)
  · split
    · exact hdiscard within_readLarge
    · exact .lift_bind h
  · exact .check _
  · exact .failure

theorem within_skip (depth : Nat) : Within 0 (fun _ => 0) (skip depth) := by
  induction depth with
  | zero =>
      refine within_skipWith fun item hitem => ?_
      cases hitem
  | succ depth ih =>
      refine within_skipWith fun item hitem => ?_
      cases hitem
      exact ih

end CallSite.Cbor
