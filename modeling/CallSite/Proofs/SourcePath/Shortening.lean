import CallSite.Proofs.Text.Split
import CallSite.SourcePath

/-!
# What shortening keeps of a path

A shortened path is a lone component, or three dots and the last two or three components behind one
kind of separator. Either form stays as it is when it is shortened again: the dots count as a
component, so that they are dropped and put back.
-/

namespace CallSite.SourcePath

/-! ### Short paths -/

/-- A lone component, or three dots and two or three of them behind one kind of separator. -/
inductive Short : List Char → Prop where
  | lone {part : List Char} (h : ∀ c ∈ part, isSeparator c = false) : Short part
  | abbreviated {sep : Char} {parts : List (List Char)} (hsep : isSeparator sep = true)
      (h : ∀ part ∈ parts, ∀ c ∈ part, isSeparator c = false)
      (hlength : parts.length = 2 ∨ parts.length = 3) : Short (abbreviated sep parts)

section Abbreviated

variable {sep : Char} {parts : List (List Char)}
  (h : ∀ part ∈ parts, ∀ c ∈ part, isSeparator c = false)
include h

/-- No separator is in an abbreviated path but the one it is written with. -/
theorem eq_of_mem_abbreviated {c : Char} (hc : isSeparator c = true)
    (hmem : c ∈ abbreviated sep parts) : c = sep := by
  rw [abbreviated, List.mem_append, List.mem_flatMap] at hmem
  rcases hmem with hmem | ⟨part, hpart, hmem⟩
  · have hdot : c = '.' := by simpa using hmem
    subst hdot
    exact absurd hc (by decide)
  · rcases List.mem_cons.mp hmem with rfl | hmem
    · rfl
    · exact absurd hc (by simp [h part hpart c hmem])

variable (hsep : isSeparator sep = true)
include hsep

/-- The dots count as a component. -/
theorem components_abbreviated : components (abbreviated sep parts) = ['.', '.', '.'] :: parts :=
  Text.split_append_flatMap hsep (by simp [isSeparator]) h

theorem separator_abbreviated (hne : parts ≠ []) : separator (abbreviated sep parts) = sep := by
  have hmem : sep ∈ abbreviated sep parts := by
    obtain ⟨part, rest, rfl⟩ := List.exists_cons_of_ne_nil hne
    simp [abbreviated]
  rw [separator]
  split
  · rename_i hback
    exact eq_of_mem_abbreviated h rfl (List.contains_iff_mem.mp hback)
  · rename_i hback
    rcases (by simpa [isSeparator] using hsep : sep = '/' ∨ sep = '\\') with rfl | rfl
    · rfl
    · exact absurd (List.contains_iff_mem.mpr hmem) hback

end Abbreviated

namespace Short

/-- What is short already is left as it is. -/
theorem shortenChars_eq {cs : List Char} (h : Short cs) : shortenChars cs = cs := by
  cases h with
  | lone h =>
      have hparts : components cs = [cs] := Text.split_of_forall h
      simp [shortenChars, hparts]
  | @abbreviated sep parts hsep h hlength =>
      have hne : parts ≠ [] := by
        rintro rfl
        simp at hlength
      have hparts := components_abbreviated h hsep
      have hchar := separator_abbreviated h hsep hne
      rcases hlength with hlength | hlength <;> simp [shortenChars, hparts, hchar, hlength]

theorem length_components_le {cs : List Char} (h : Short cs) : (components cs).length ≤ 4 := by
  cases h with
  | lone h =>
      have hparts : components cs = [cs] := Text.split_of_forall h
      simp [hparts]
  | abbreviated hsep h hlength =>
      rw [components_abbreviated h hsep, List.length_cons]
      omega

theorem not_both {cs : List Char} (h : Short cs) : ¬ ('/' ∈ cs ∧ '\\' ∈ cs) := by
  rintro ⟨hslash, hback⟩
  cases h with
  | lone h => exact absurd (h _ hslash) (by decide)
  | abbreviated hsep h _ =>
      have hsame := (eq_of_mem_abbreviated h rfl hslash).trans (eq_of_mem_abbreviated h rfl hback).symm
      exact absurd hsame (by decide)

end Short

/-! ### The components that are kept -/

/-- The components of a path and what they are shortened to. -/
inductive Shortened (sep : Char) : List (List Char) → List Char → Prop where
  | one (a : List Char) : Shortened sep [a] a
  | two (a b : List Char) : Shortened sep [a, b] b
  | three (a b c : List Char) :
      Shortened sep [a, b, c] (['.', '.', '.'] ++ sep :: b ++ sep :: c)
  | more (front : List (List Char)) (a b c d : List Char) :
      Shortened sep (front ++ [a, b, c, d]) (['.', '.', '.'] ++ sep :: b ++ sep :: c ++ sep :: d)

theorem shortened_shortenChars (cs : List Char) :
    Shortened (separator cs) (components cs) (shortenChars cs) := by
  have hne : components cs ≠ [] := Text.split_ne_nil _ _
  rw [shortenChars]
  generalize separator cs = sep
  generalize components cs = parts at hne
  match parts, hne with
  | [a], _ => exact .one a
  | [a, b], _ => exact .two a b
  | [a, b, c], _ =>
      have hthree : Shortened sep [a, b, c] _ := .three a b c
      simpa [abbreviated] using hthree
  | first :: second :: third :: fourth :: others, _ =>
      -- Of four components or more the last four are told apart, and the last three of them stay.
      generalize hparts : first :: second :: third :: fourth :: others = parts
      have hlength : parts.length = others.length + 4 := by simp [← hparts]
      obtain ⟨a, b, c, d, hlast⟩ : ∃ a b c d, parts.drop others.length = [a, b, c, d] := by
        have hfour : (parts.drop others.length).length = 4 := by simp [hlength]
        match parts.drop others.length, hfour with
        | [a, b, c, d], _ => exact ⟨a, b, c, d, rfl⟩
      have hkept : parts.drop (others.length + 1) = [b, c, d] := by
        rw [← List.drop_drop, hlast]
        rfl
      have hsplit : parts = parts.take others.length ++ [a, b, c, d] := by
        rw [← hlast, List.take_append_drop]
      have hmore : Shortened sep _ _ := .more (parts.take others.length) a b c d
      rw [← hsplit] at hmore
      simpa [hlength, hkept, abbreviated] using hmore

namespace Shortened

variable {sep : Char} {parts : List (List Char)} {cs : List Char} (h : Shortened sep parts cs)
include h

/-- The last component alone, or an abbreviation of the last two or three. -/
theorem last_or_abbreviated :
    parts.getLast? = some cs ∨
      ∃ kept, (kept.length = 2 ∨ kept.length = 3) ∧ kept <:+ parts ∧ cs = abbreviated sep kept := by
  cases h with
  | one a => exact .inl rfl
  | two a b => exact .inl rfl
  | three a b c => exact .inr ⟨[b, c], .inl rfl, ⟨[a], rfl⟩, by simp [abbreviated]⟩
  | more front a b c d =>
      exact .inr ⟨[b, c, d], .inr rfl, ⟨front ++ [a], by simp⟩, by simp [abbreviated]⟩

variable (hsep : isSeparator sep = true)
  (hparts : ∀ part ∈ parts, ∀ c ∈ part, isSeparator c = false)
include hsep hparts

theorem short : Short cs := by
  rcases h.last_or_abbreviated with hlast | ⟨kept, hlength, hkept, rfl⟩
  · exact .lone (hparts cs (List.mem_of_getLast? hlast))
  · exact .abbreviated hsep (fun part hpart => hparts part (hkept.mem hpart)) hlength

theorem getLast?_components : (components cs).getLast? = parts.getLast? := by
  rcases h.last_or_abbreviated with hlast | ⟨kept, hlength, ⟨front, rfl⟩, rfl⟩
  · have hlone : components cs = [cs] :=
      Text.split_of_forall (hparts cs (List.mem_of_getLast? hlast))
    rw [hlone, hlast]
    rfl
  · have hkept : ∀ part ∈ kept, ∀ c ∈ part, isSeparator c = false :=
      fun part hpart => hparts part (List.mem_append_right front hpart)
    have hne : kept ≠ [] := by
      rintro rfl
      simp at hlength
    rw [components_abbreviated hkept hsep, List.getLast?_append_of_ne_nil front hne,
      ← List.singleton_append, List.getLast?_append_of_ne_nil _ hne]

end Shortened

/-! ### Shortened paths -/

theorem isSeparator_separator (cs : List Char) : isSeparator (separator cs) = true := by
  rw [separator]
  split <;> rfl

theorem separator_eq (cs : List Char) : separator cs = if '\\' ∈ cs then '\\' else '/' := by
  simp [separator]

theorem getLast?_components_shortenChars (cs : List Char) :
    (components (shortenChars cs)).getLast? = (components cs).getLast? := by
  have hparts : ∀ part ∈ components cs, ∀ c ∈ part, isSeparator c = false :=
    (Text.parts_split cs).forall_mem
  exact (shortened_shortenChars cs).getLast?_components (isSeparator_separator cs) hparts

/--
The components of a path determine its shortened form, whose last component is the same. That form has
at most four components and one kind of separator, and shortening it again leaves it as it is.
-/
theorem shortened_shorten (path : String) :
    ∃ parts shortParts,
      (∀ other, Text.Parts isSeparator path.toList other ↔ other = parts) ∧
      Shortened (if '\\' ∈ path.toList then '\\' else '/') parts (shorten path).toList ∧
      (∀ other, Text.Parts isSeparator (shorten path).toList other ↔ other = shortParts) ∧
      shortParts.getLast? = parts.getLast? ∧ shortParts.length ≤ 4 ∧
      ¬ ('/' ∈ (shorten path).toList ∧ '\\' ∈ (shorten path).toList) ∧
      shorten (shorten path) = shorten path := by
  have hsep := isSeparator_separator path.toList
  have hparts : ∀ part ∈ components path.toList, ∀ c ∈ part, isSeparator c = false :=
    (Text.parts_split path.toList).forall_mem
  have hshortened := shortened_shortenChars path.toList
  have hshort : Short (shortenChars path.toList) := hshortened.short hsep hparts
  have hchars : (shorten path).toList = shortenChars path.toList := String.toList_ofList
  have hagain : shorten (shorten path) = shorten path := by
    rw [shorten, hchars, hshort.shortenChars_eq]
    rfl
  refine ⟨components path.toList, components (shorten path).toList, fun other => Text.parts_iff, ?_,
    fun other => Text.parts_iff, ?_, ?_, ?_, hagain⟩
  · rw [← separator_eq, hchars]
    exact hshortened
  · rw [hchars]
    exact hshortened.getLast?_components hsep hparts
  · rw [hchars]
    exact hshort.length_components_le
  · rw [hchars]
    exact hshort.not_both

/-- Doubled and mixed separators, with an empty component among those that are kept. -/
example : shorten "C:\\src//main.rs" = "...\\src\\\\main.rs" := by decide

end CallSite.SourcePath
