import CallSite.Bytes.Lemmas
import CallSite.Cbor.Reader
import Mathlib.Data.List.Forall2

/-!
# Reading what was written

A reader reads a value from a byte string if it takes that string away from whatever begins with it.
Readings compose as readers do, so each written form needs one lemma: heads first, then numbers,
texts, lists and maps. Sizes are below `2 ^ 64`, as a head has room for.
-/

namespace CallSite.Cbor

/-- The reader takes exactly these bytes for the value, whatever comes after them. -/
def Reads {α : Type} (r : Reader α) (bs : Bytes) (a : α) : Prop :=
  ∀ rest, r (bs ++ rest) = some (a, rest)

namespace Reads

variable {α β : Type} {r : Reader α} {bs cs : Bytes} {a : α} {b : β}

protected theorem pure (a : α) : Reads (pure a) [] a :=
  fun _ => rfl

protected theorem bind {f : α → Reader β} (h : Reads r bs a) (hf : Reads (f a) cs b) :
    Reads (r >>= f) (bs ++ cs) b := by
  intro rest
  change (r (bs ++ cs ++ rest)).bind (fun p => f p.1 p.2) = some (b, rest)
  rw [List.append_assoc, h]
  exact hf rest

/-- A reader that goes on without reading more. -/
theorem bind_nil {f : α → Reader β} (h : Reads r bs a) (hf : Reads (f a) [] b) :
    Reads (r >>= f) bs b := by
  simpa using h.bind hf

protected theorem map (f : α → β) (h : Reads r bs a) : Reads (f <$> r) bs (f a) := by
  intro rest
  change (r (bs ++ rest)).bind (fun p => some (f p.1, p.2)) = some (f a, rest)
  rw [h]
  rfl

theorem lift (a : α) : Reads (liftM (some a)) [] a :=
  fun _ => rfl

theorem guard_of {p : Prop} [Decidable p] (h : p) : Reads (guard p) [] () := by
  intro rest
  rw [guard, if_pos h]
  rfl

end Reads

/-! ### Bytes and heads -/

theorem reads_take {n : Nat} {bs : Bytes} (h : bs.length = n) : Reads (Reader.take n) bs bs :=
  fun _ => Bytes.take?_append h

theorem reads_byte (b : UInt8) : Reads Reader.byte [b] b :=
  fun _ => rfl

theorem reads_bigEndian {width n : Nat} (h : n < 256 ^ width) :
    Reads (Reader.bigEndian width) (Bytes.bigEndian width n) n := by
  have hlen : (Bytes.bigEndian width n).length = width := by simp [Bytes.bigEndian]
  have hread := (reads_take hlen).map Bytes.ofBigEndian
  rwa [Bytes.ofBigEndian, Bytes.bigEndian, List.reverse_reverse,
    Bytes.ofLittleEndian_littleEndian_of_lt h] at hread

/-- The low bits of the first byte of a head. -/
def minor (n : Nat) : Nat :=
  if n < 24 then n else if n < UInt8.size then 24 else if n < UInt16.size then 25
  else if n < UInt32.size then 26 else 27

/-- The bytes of a head after the first one. -/
def argumentBytes (n : Nat) : Bytes :=
  if n < 24 then [] else if n < UInt8.size then Bytes.bigEndian 1 n
  else if n < UInt16.size then Bytes.bigEndian 2 n
  else if n < UInt32.size then Bytes.bigEndian 4 n else Bytes.bigEndian 8 n

theorem head_eq (major : Major) (n : Nat) :
    head major n = firstByte major (minor n) :: argumentBytes n := by
  unfold head minor argumentBytes
  repeat' split
  all_goals rfl

theorem minor_lt (n : Nat) : minor n < 32 := by
  unfold minor
  repeat' split
  all_goals omega

theorem reads_argument {n : Nat} (h : n < UInt64.size) :
    Reads (readArgument (minor n)) (argumentBytes n) (some n) := by
  by_cases h0 : n < 24
  · simp only [minor, argumentBytes, readArgument, h0, if_true]
    exact .pure _
  by_cases h1 : n < UInt8.size
  · simp only [minor, argumentBytes, readArgument, h0, h1, if_true, if_false]
    exact (reads_bigEndian h1).map some
  by_cases h2 : n < UInt16.size
  · simp only [minor, argumentBytes, readArgument, h0, h1, h2, if_true, if_false]
    exact (reads_bigEndian h2).map some
  by_cases h4 : n < UInt32.size
  · simp only [minor, argumentBytes, readArgument, h0, h1, h2, h4, if_true, if_false]
    exact (reads_bigEndian h4).map some
  · simp only [minor, argumentBytes, readArgument, h0, h1, h2, h4, if_false]
    exact (reads_bigEndian h).map some

theorem reads_number {n : Nat} (h : n < UInt64.size) :
    Reads (readNumber (minor n)) (argumentBytes n) n :=
  (reads_argument h).bind_nil (.lift n)

theorem toNat_firstByte (major : Major) {argument : Nat} (h : argument < 32) :
    (firstByte major argument).toNat = major.code * 32 + argument := by
  have hcode : major.code ≤ 7 := by cases major <;> decide
  rw [firstByte, UInt8.toNat_ofNat']
  omega

/-- The head of a definite size, or of a number. -/
def Head.definite : Major → Nat → Head
  | .positive, n => .positive n
  | .negative, n => .negative n
  | .bytes, n => .bytes (some n)
  | .text, n => .text (some n)
  | .array, n => .array (some n)
  | .map, n => .map (some n)
  | .tag, n => .tag n
  | .other, n => .simple n

theorem reads_head {major : Major} {n : Nat} (hmajor : major ≠ .other) (h : n < UInt64.size) :
    Reads readHead (head major n) (.definite major n) := by
  have hbyte := toNat_firstByte major (minor_lt n)
  have hminor : (firstByte major (minor n)).toNat % 32 = minor n := by
    have := minor_lt n
    omega
  have hcode : (firstByte major (minor n)).toNat / 32 = major.code := by
    have := minor_lt n
    omega
  rw [head_eq, ← List.singleton_append]
  refine (reads_byte _).bind ?_
  simp only [hminor, hcode]
  cases major with
  | positive => exact (reads_number h).map _
  | negative => exact (reads_number h).map _
  | bytes => exact (reads_argument h).map _
  | text => exact (reads_argument h).map _
  | array => exact (reads_argument h).map _
  | map => exact (reads_argument h).map _
  | tag => exact (reads_number h).map _
  | other => exact absurd rfl hmajor

/-! ### Numbers -/

theorem head_ne_nil (major : Major) (n : Nat) : head major n ≠ [] := by
  rw [head_eq]
  exact List.cons_ne_nil _ _

/-- There are no tags before what is written. -/
theorem reads_pastTags {bs : Bytes} {h : Head} (hbs : bs ≠ []) (hread : Reads readHead bs h)
    (htag : ∀ n, h ≠ .tag n) (stopAt : Nat → Bool) : Reads (readPastTags stopAt) bs h := by
  intro rest
  obtain ⟨fuel, hfuel⟩ : ∃ fuel, (bs ++ rest).length = fuel + 1 := by
    obtain ⟨b, cs, rfl⟩ := List.exists_cons_of_ne_nil hbs
    exact ⟨(cs ++ rest).length, rfl⟩
  rw [readPastTags, hfuel]
  refine (hread.bind_nil ?_) rest
  cases h with
  | tag n => exact absurd rfl (htag n)
  | _ => exact .pure _

theorem reads_definite {major : Major} {n : Nat} (hmajor : major ≠ .other) (htag : major ≠ .tag)
    (h : n < UInt64.size) (stopAt : Nat → Bool) :
    Reads (readPastTags stopAt) (head major n) (.definite major n) := by
  refine reads_pastTags (head_ne_nil major n) (reads_head hmajor h) ?_ stopAt
  intro k
  cases major with
  | tag => exact absurd rfl htag
  | _ => simp [Head.definite]

theorem reads_natural {n : Nat} (h : n < UInt64.size) : Reads integerValue (natural n) n :=
  (reads_definite (by decide) (by decide) h _).bind_nil (.pure _)

theorem reads_negative {n : Nat} (h : n < UInt64.size) :
    Reads integerValue (head .negative n) (-1 - n) :=
  (reads_definite (by decide) (by decide) h _).bind_nil (.pure _)

theorem reads_integer {i : Int} (h : -(UInt64.size : Int) ≤ i ∧ i < UInt64.size) :
    Reads integerValue (integer i) i := by
  cases i with
  | ofNat n =>
      have hn : (n : Int) < UInt64.size := h.2
      exact reads_natural (by omega)
  | negSucc n =>
      have hn : n < UInt64.size := by omega
      have hvalue : Int.negSucc n = -1 - n := by omega
      change Reads integerValue (head .negative n) (Int.negSucc n)
      rw [hvalue]
      exact reads_negative hn

theorem reads_naturalBelow {n bound : Nat} (h : n < bound) (hbound : bound ≤ UInt64.size) :
    Reads (naturalBelow bound) (natural n) n := by
  have hn : n < UInt64.size := by omega
  refine (reads_natural hn).bind_nil ?_
  refine Reads.bind_nil (.guard_of ⟨by omega, by omega⟩) ?_
  exact .pure _

theorem reads_uint64 (n : UInt64) : Reads uint64 (natural n.toNat) n := by
  have hread := (reads_naturalBelow n.toNat_lt (Nat.le_refl _)).map UInt64.ofNat
  rwa [UInt64.ofNat_toNat] at hread

theorem reads_uint32 (n : UInt32) : Reads uint32 (natural n.toNat) n := by
  have hread := (reads_naturalBelow n.toNat_lt (by decide)).map UInt32.ofNat
  rwa [UInt32.ofNat_toNat] at hread

theorem reads_int32 (i : Int32) : Reads int32 (integer i.toInt) i := by
  have hlow : -2 ^ 31 ≤ i.toInt := i.le_toInt
  have hhigh : i.toInt < 2 ^ 31 := i.toInt_lt
  have hsize : (UInt64.size : Int) = 2 ^ 64 := rfl
  refine (reads_integer (by omega)).bind_nil ?_
  refine Reads.bind_nil (.guard_of (by omega)) ?_
  rw [Int32.ofInt_toInt]
  exact .pure _

/-! ### Texts -/

theorem reads_readText (s : String) :
    Reads (readText (some (Bytes.ofText s).length)) (Bytes.ofText s) s := by
  have hsegments : Reads (readSegments textChunk (some (Bytes.ofText s).length))
      (Bytes.ofText s) [Bytes.ofText s] :=
    (reads_take rfl).bind_nil (.pure _)
  refine hsegments.bind_nil ?_
  have hparts : [Bytes.ofText s].mapM Bytes.toText? = some [s] := by
    simp [Bytes.toText?_ofText]
  rw [hparts]
  refine (Reads.lift [s]).bind_nil ?_
  have hjoin : String.join [s] = s := by simp [String.join]
  rw [hjoin]
  exact .pure s

theorem reads_text {s : String} (h : (Bytes.ofText s).length < UInt64.size) :
    Reads textValue (text s) s :=
  (reads_definite (by decide) (by decide) h _).bind (reads_readText s)

theorem reads_key {s : String} (h : (Bytes.ofText s).length ≤ keyLimit) :
    Reads keyValue (text s) (some s) := by
  have hsize : (Bytes.ofText s).length < UInt64.size := Nat.lt_of_le_of_lt h (by decide)
  refine (reads_definite (by decide) (by decide) hsize _).bind ?_
  refine Reads.bind (.guard_of h) ((reads_readText s).bind_nil ?_)
  exact .pure _

/-! ### Lists and maps -/

variable {α : Type}

/-- Readings of equally many values, one after another. -/
theorem reads_timesAfter {item : Reader α} {chunks : List Bytes} {values : List α}
    (h : List.Forall₂ (Reads item) chunks values) (found : List α) :
    Reads (Reader.timesAfter item found chunks.length) chunks.flatten (found.reverse ++ values) := by
  induction h generalizing found with
  | nil =>
      rw [List.append_nil]
      exact .pure found.reverse
  | @cons bs a chunks values hread _ ih =>
      rw [List.length_cons, Reader.timesAfter, List.flatten_cons]
      refine hread.bind ?_
      simpa using ih (a :: found)

theorem reads_times {item : Reader α} {chunks : List Bytes} {values : List α}
    (h : List.Forall₂ (Reads item) chunks values) :
    Reads (item.times chunks.length) chunks.flatten values :=
  reads_timesAfter h []

theorem reads_array {item : Reader α} {chunks : List Bytes} {values : List α}
    (h : List.Forall₂ (Reads item) chunks values) (hsize : chunks.length < UInt64.size) :
    Reads (listValue item) (array chunks) values :=
  (reads_definite (by decide) (by decide) hsize _).bind (reads_times h)

/-- A map is read entry by entry, each value by its key. -/
theorem reads_map {entry : Option String → Reader α} {entries : List (String × Bytes)}
    {values : List α}
    (h : List.Forall₂ (fun e a => Reads (entry (some e.1)) e.2 a) entries values)
    (hkeys : ∀ e ∈ entries, (Bytes.ofText e.1).length ≤ keyLimit)
    (hsize : entries.length < UInt64.size) :
    Reads (entriesValue entry) (map entries) values := by
  have hchunks : List.Forall₂ (Reads (do entry (← keyValue)))
      (entries.map fun e => text e.1 ++ e.2) values := by
    induction h with
    | nil => exact .nil
    | cons hread _ ih =>
        refine .cons ((reads_key (hkeys _ List.mem_cons_self)).bind hread) ?_
        exact ih (fun e he => hkeys e (List.mem_cons_of_mem _ he))
          (by rw [List.length_cons] at hsize; omega)
  have hread := reads_times hchunks
  rw [List.length_map, ← List.flatMap_def] at hread
  exact (reads_definite (by decide) (by decide) hsize _).bind hread

end CallSite.Cbor
