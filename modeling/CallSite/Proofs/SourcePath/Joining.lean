import CallSite.Proofs.SourcePath.Shortening
import CallSite.Proofs.Text.ByteOrder
import Mathlib.Data.List.DropRight

/-!
# Paths of files in directories

A path that is joined from a directory and a name has the components of the directory, without the
separators at its end, and behind them those of the name. So shortening it leaves the name at its end,
and all that it leaves of the directory before a name of three components is the kind of separator.
-/

namespace CallSite

/-! ### The second byte of a text -/

namespace Bytes

/-- A character is one byte of ASCII, or its first two bytes are none. -/
theorem utf8EncodeChar_cases (c : Char) :
    c.toNat < 128 ∧ String.utf8EncodeChar c = [UInt8.ofNat c.toNat] ∨
      128 ≤ c.toNat ∧ ∃ first second rest, String.utf8EncodeChar c = first :: second :: rest ∧
        128 ≤ first.toNat ∧ 128 ≤ second.toNat := by
  have hbyte {n : Nat} (hlow : 128 ≤ n) (hhigh : n < 256) : 128 ≤ (UInt8.ofNat n).toNat := by
    rwa [UInt8.toNat_ofNat_of_lt' hhigh]
  have hc : c.val.toNat = c.toNat := rfl
  rw [String.utf8EncodeChar, hc]
  split_ifs
  · exact .inl ⟨by omega, rfl⟩
  -- In each of the longer encodings the highest bit of every byte is set.
  all_goals
    exact .inr ⟨by omega, _, _, _, rfl, hbyte (by omega) (by omega), hbyte (by omega) (by omega)⟩

/-- A byte of ASCII at the beginning is that character. -/
theorem head?_flatMap_utf8EncodeChar {d : Char} (hd : d.toNat < 128) (cs : List Char) :
    (cs.flatMap String.utf8EncodeChar).head? = some (UInt8.ofNat d.toNat) ↔ cs.head? = some d := by
  have hbyte : (UInt8.ofNat d.toNat).toNat = d.toNat :=
    UInt8.toNat_ofNat_of_lt' (Nat.lt_trans hd (by decide))
  cases cs with
  | nil => simp
  | cons c cs =>
      rw [List.flatMap_cons, List.head?_cons, Option.some_inj]
      rcases utf8EncodeChar_cases c with ⟨hc, heq⟩ | ⟨hc, first, second, rest, heq, hfirst, -⟩
      · rw [heq, List.singleton_append, List.head?_cons, Option.some_inj, ← UInt8.toNat_inj, hbyte,
          UInt8.toNat_ofNat_of_lt' (Nat.lt_trans hc (by decide)), Char.toNat_inj]
      · rw [heq, List.cons_append, List.head?_cons, Option.some_inj, ← UInt8.toNat_inj, hbyte]
        constructor
        · intro h
          omega
        · rintro rfl
          omega

/-- A byte of ASCII is the second of a text if that character is, and the first has but one byte. -/
theorem getElem?_one_flatMap_utf8EncodeChar {d : Char} (hd : d.toNat < 128) (c : Char)
    (cs : List Char) :
    ((c :: cs).flatMap String.utf8EncodeChar)[1]? = some (UInt8.ofNat d.toNat) ↔
      c.toNat < 128 ∧ cs.head? = some d := by
  rw [List.flatMap_cons]
  rcases utf8EncodeChar_cases c with ⟨hc, heq⟩ | ⟨hc, first, second, rest, heq, -, hsecond⟩
  · rw [heq, List.singleton_append, List.getElem?_cons_succ, ← List.head?_eq_getElem?,
      head?_flatMap_utf8EncodeChar hd]
    simp [hc]
  · rw [heq, List.cons_append, List.cons_append, List.getElem?_cons_succ, List.getElem?_cons_zero,
      Option.some_inj, ← UInt8.toNat_inj, UInt8.toNat_ofNat_of_lt' (Nat.lt_trans hd (by decide))]
    constructor
    · intro h
      omega
    · rintro ⟨h, -⟩
      omega

end Bytes

namespace SourcePath

/-! ### Absolute names -/

/-- Begins with a separator, or has a colon for its second byte. -/
def Absolute (path : String) : Prop :=
  path.toList.head? = some '/' ∨ path.toList.head? = some '\\' ∨ (Bytes.ofText path)[1]? = some 0x3a

theorem isAbsolute_iff (path : String) : isAbsolute path = true ↔ Absolute path := by
  rw [Absolute, Bytes.ofText_eq_flatMap, isAbsolute]
  cases path.toList with
  | nil => simp [isAbsoluteChars]
  | cons c cs =>
      have hcolon := Bytes.getElem?_one_flatMap_utf8EncodeChar (d := ':') (by decide) c cs
      rw [show UInt8.ofNat (Char.toNat ':') = 0x3a from rfl] at hcolon
      rw [hcolon]
      simp [isAbsoluteChars, isSeparator, or_assoc]

instance (path : String) : Decidable (Absolute path) :=
  decidable_of_iff _ (isAbsolute_iff path)

/-! ### Directories -/

/-- A directory and what there is of it before the separators at its end. -/
structure Trimmed (dir base : List Char) : Prop where
  eq_append : ∃ ending, (∀ c ∈ ending, isSeparator c = true) ∧ dir = base ++ ending
  last : ∀ c ∈ base.getLast?, isSeparator c = false

theorem trimmed_trimEnd (dir : List Char) : Trimmed dir (trimEnd dir) where
  eq_append := by
    refine ⟨dir.rtakeWhile isSeparator, fun c hc => List.mem_rtakeWhile_imp hc, ?_⟩
    exact List.rdropWhile_append_rtakeWhile.symm
  last := by
    intro c hc
    obtain ⟨hne, rfl⟩ := List.mem_getLast?_eq_getLast hc
    exact Bool.eq_false_iff.mpr (List.rdropWhile_last_not isSeparator dir hne)

/-- There is just one such part of a directory. -/
theorem trimmed_iff {dir base : List Char} : Trimmed dir base ↔ base = trimEnd dir := by
  constructor
  · rintro ⟨⟨ending, hending, rfl⟩, hlast⟩
    have hbase : base.rdropWhile isSeparator = base := by
      rw [List.rdropWhile_eq_self_iff]
      intro hne hsep
      exact Bool.eq_false_iff.mp (hlast _ (List.getLast_mem_getLast? hne)) hsep
    rw [trimEnd, List.reverse_append,
      List.dropWhile_append_of_pos fun c hc => hending c (List.mem_reverse.mp hc)]
    exact hbase.symm
  · rintro rfl
    exact trimmed_trimEnd dir

/-! ### Joined paths -/

section Joined

variable {dir name : List Char}

theorem joinChars_of_absolute (dir : List Char) (h : isAbsoluteChars name = true) :
    joinChars dir name = name := by
  simp [joinChars, h]

theorem joinChars_nil (name : List Char) : joinChars [] name = name := by
  simp [joinChars]

variable (hname : isAbsoluteChars name = false) (hdir : dir ≠ [])
include hname hdir

theorem joinChars_eq : joinChars dir name = trimEnd dir ++ separator dir :: name := by
  simp [joinChars, hname, hdir]

theorem components_joinChars :
    components (joinChars dir name) = components (trimEnd dir) ++ components name := by
  have hparts := (Text.parts_split (trimEnd dir)).append (isSeparator_separator dir)
    (Text.parts_split name)
  rw [joinChars_eq hname hdir]
  exact hparts.split_eq

/-- The backslash is in a joined path if it is in the directory, be it only at its end. -/
theorem separator_joinChars :
    separator (joinChars dir name) = if '\\' ∈ dir ∨ '\\' ∈ name then '\\' else '/' := by
  have hmem : '\\' ∈ joinChars dir name ↔ '\\' ∈ dir ∨ '\\' ∈ name := by
    rw [joinChars_eq hname hdir, List.mem_append, List.mem_cons, separator_eq]
    constructor
    · rintro (hbase | hsep | hmem)
      · exact .inl ((List.rdropWhile_prefix isSeparator dir).mem hbase)
      · by_contra hnone
        simp [not_or.mp hnone] at hsep
      · exact .inr hmem
    · rintro (hmem | hmem)
      · simp [hmem]
      · exact .inr (.inr hmem)
  rw [separator_eq]
  simp only [hmem]

end Joined

/-! ### Joined paths, shortened -/

theorem getLast?_components_joinChars (dir name : List Char) :
    (components (joinChars dir name)).getLast? = (components name).getLast? := by
  by_cases hname : isAbsoluteChars name = true
  · rw [joinChars_of_absolute dir hname]
  by_cases hdir : dir = []
  · rw [hdir, joinChars_nil]
  rw [components_joinChars (Bool.eq_false_iff.mpr hname) hdir]
  exact List.getLast?_append_of_ne_nil _ (Text.split_ne_nil _ _)

/-- Of a path with more components than its last three, these are all that is left. -/
theorem shortenChars_of_components {cs : List Char} {front back : List (List Char)}
    (h : components cs = front ++ back) (hfront : front ≠ []) (hback : 3 ≤ back.length) :
    shortenChars cs = abbreviated (separator cs) (back.drop (back.length - 3)) := by
  have hpos : 0 < front.length := List.length_pos_iff.mpr hfront
  have hkept : (front ++ back).drop (front.length + back.length - 3) =
      back.drop (back.length - 3) := by
    rw [Nat.add_sub_assoc hback, ← List.drop_drop, List.drop_left]
  rw [shortenChars, h]
  simp only [List.length_append]
  rw [if_neg (by omega), if_neg (by omega), hkept]

/-- Before a name of three components nothing is left of a directory but the kind of its separator. -/
theorem shortenChars_joinChars_congr {dir other name : List Char} (hdir : dir ≠ [])
    (hother : other ≠ []) (hsame : '\\' ∈ dir ↔ '\\' ∈ other)
    (hlength : 3 ≤ (components name).length) :
    shortenChars (joinChars dir name) = shortenChars (joinChars other name) := by
  by_cases hname : isAbsoluteChars name = true
  · rw [joinChars_of_absolute dir hname, joinChars_of_absolute other hname]
  rw [Bool.not_eq_true] at hname
  have hkept {d : List Char} (hd : d ≠ []) :=
    shortenChars_of_components (components_joinChars hname hd) (Text.split_ne_nil _ _) hlength
  rw [hkept hdir, hkept hother, separator_joinChars hname hdir, separator_joinChars hname hother]
  simp only [hsame]

/-! ### Joined texts -/

theorem join_eq_name {dir name : String} (h : Absolute name ∨ dir = "") : join dir name = name := by
  have hchars : joinChars dir.toList name.toList = name.toList := by
    rcases h with hname | rfl
    · exact joinChars_of_absolute _ ((isAbsolute_iff name).mpr hname)
    · exact joinChars_nil _
  rw [join, hchars, String.ofList_toList]

theorem toList_join (dir name : String) : (join dir name).toList = joinChars dir.toList name.toList :=
  String.toList_ofList

theorem toList_shorten (path : String) : (shorten path).toList = shortenChars path.toList :=
  String.toList_ofList

theorem parts_join {dir name : String} (hname : ¬ Absolute name) (hdir : dir ≠ "") :
    Text.Parts isSeparator (join dir name).toList
      (components (trimEnd dir.toList) ++ components name.toList) := by
  have habsolute : isAbsoluteChars name.toList = false :=
    Bool.eq_false_iff.mpr (mt (isAbsolute_iff name).mp hname)
  have hne : dir.toList ≠ [] := mt String.toList_eq_nil_iff.mp hdir
  rw [toList_join, Text.parts_iff]
  exact (components_joinChars habsolute hne).symm

/-- A directory that ends in separators of either kind, and one that is nothing else. -/
example : join "C:\\src\\/" "ui/main.c" = "C:\\src\\ui/main.c" ∧ join "//" "main.c" = "/main.c" := by
  decide

/-- The last component of a joined path is that of the name, also when the path is shortened. -/
theorem getLast?_components_shorten_join (dir name : String) :
    (components (shorten (join dir name)).toList).getLast? = (components name.toList).getLast? := by
  rw [toList_shorten, getLast?_components_shortenChars, toList_join, getLast?_components_joinChars]

theorem shorten_join_congr {dir other name : String} (hdir : dir ≠ "") (hother : other ≠ "")
    (hsame : '\\' ∈ dir.toList ↔ '\\' ∈ other.toList)
    (hlength : 3 ≤ (components name.toList).length) :
    shorten (join dir name) = shorten (join other name) := by
  have hchars := shortenChars_joinChars_congr (mt String.toList_eq_nil_iff.mp hdir)
    (mt String.toList_eq_nil_iff.mp hother) hsame hlength
  rw [shorten, shorten, toList_join, toList_join, hchars]

theorem join_ne_empty {dir name : String} (h : name ≠ "") : join dir name ≠ "" := by
  intro hjoin
  have hnil : joinChars dir.toList name.toList = [] := by
    rw [← toList_join, hjoin]
    rfl
  rw [joinChars] at hnil
  split at hnil
  · exact h (String.toList_eq_nil_iff.mp hnil)
  · simp at hnil

end SourcePath

end CallSite
