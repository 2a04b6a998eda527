import CallSite.Text.Split
import Mathlib.Data.List.Basic

/-!
# Parts between separators

What stands before the first separator is the first part, and what stands behind it gives the others.
So the parts say where the separators are, and what is put at the end of a text without one is put at
the end of its last part.
-/

namespace CallSite.Text

variable {isSeparator : Char → Bool}

theorem split_of_forall {cs : List Char} (h : ∀ c ∈ cs, isSeparator c = false) :
    split isSeparator cs = [cs] := by
  induction cs with
  | nil => rfl
  | cons c cs ih =>
      have hc : isSeparator c = false := h c List.mem_cons_self
      have hcs : split isSeparator cs = [cs] := ih fun d hd => h d (List.mem_cons_of_mem _ hd)
      simp [split, hc, hcs]

/-- The first part ends where the first separator stands. -/
theorem split_append_cons {front : List Char} (h : ∀ c ∈ front, isSeparator c = false) {sep : Char}
    (hsep : isSeparator sep = true) (cs : List Char) :
    split isSeparator (front ++ sep :: cs) = front :: split isSeparator cs := by
  induction front with
  | nil => simp [split, hsep]
  | cons c front ih =>
      have hc : isSeparator c = false := h c List.mem_cons_self
      have hfront := ih fun d hd => h d (List.mem_cons_of_mem _ hd)
      simp [split, hc, hfront]

/-- What a text is by its first part and the others. -/
theorem exists_of_split {cs first : List Char} {rest : List (List Char)}
    (h : split isSeparator cs = first :: rest) :
    (∀ c ∈ first, isSeparator c = false) ∧
      (rest = [] ∧ cs = first ∨ ∃ sep tail, isSeparator sep = true ∧ cs = first ++ sep :: tail ∧
        split isSeparator tail = rest) := by
  induction cs generalizing first with
  | nil =>
      cases h
      exact ⟨by simp, .inl ⟨rfl, rfl⟩⟩
  | cons c cs ih =>
      rw [split] at h
      by_cases hc : isSeparator c = true
      · rw [if_pos hc] at h
        cases h
        exact ⟨by simp, .inr ⟨c, cs, hc, rfl, rfl⟩⟩
      · rw [if_neg hc] at h
        cases hsplit : split isSeparator cs with
        | nil => exact absurd hsplit (split_ne_nil _ _)
        | cons part parts =>
            rw [hsplit] at h
            cases h
            obtain ⟨hpart, hrest⟩ := ih hsplit
            refine ⟨?_, ?_⟩
            · intro d hd
              rcases List.mem_cons.mp hd with rfl | hd
              · exact Bool.eq_false_iff.mpr hc
              · exact hpart d hd
            · rcases hrest with ⟨hnil, rfl⟩ | ⟨sep, tail, hsep, rfl, htail⟩
              · exact .inl ⟨hnil, rfl⟩
              · exact .inr ⟨sep, tail, hsep, rfl, htail⟩

/-- What has no separator in it is put at the end of the last part. -/
theorem split_append (cs : List Char) {ending : List Char}
    (h : ∀ c ∈ ending, isSeparator c = false) :
    ∃ front last, split isSeparator cs = front ++ [last] ∧
      split isSeparator (cs ++ ending) = front ++ [last ++ ending] := by
  induction cs with
  | nil => exact ⟨[], [], rfl, split_of_forall h⟩
  | cons c cs ih =>
      obtain ⟨front, last, hcs, hending⟩ := ih
      by_cases hc : isSeparator c = true
      · refine ⟨[] :: front, last, ?_, ?_⟩
        · simp [split, hc, hcs]
        · simp [split, hc, hending]
      · cases front with
        | nil => exact ⟨[], c :: last, by simp [split, hc, hcs], by simp [split, hc, hending]⟩
        | cons part front =>
            refine ⟨(c :: part) :: front, last, ?_, ?_⟩
            · simp [split, hc, hcs]
            · simp [split, hc, hending]

/-- The first part is empty where a separator comes first. -/
theorem split_cons_eq {c : Char} {cs first : List Char} {rest : List (List Char)}
    (h : split isSeparator (c :: cs) = first :: rest) :
    (first = [] ↔ isSeparator c = true) ∧ (first = [] → rest ≠ []) := by
  rw [split] at h
  by_cases hc : isSeparator c = true
  · rw [if_pos hc] at h
    cases h
    exact ⟨by simp [hc], fun _ => split_ne_nil isSeparator cs⟩
  · rw [if_neg hc] at h
    have hfirst : first ≠ [] := by
      split at h <;> cases h <;> simp
    exact ⟨by simp [hc, hfirst], fun hnil => absurd hnil hfirst⟩

/-- What is no separator is in a text if it is in one of the parts. -/
theorem mem_split {c : Char} (hc : isSeparator c = false) (cs : List Char) :
    c ∈ cs ↔ ∃ part ∈ split isSeparator cs, c ∈ part := by
  induction cs with
  | nil => simp [split]
  | cons d cs ih =>
      rw [List.mem_cons, ih, split]
      by_cases hd : isSeparator d = true
      · have hne : c ≠ d := fun h => by simp [h, hd] at hc
        simp [hd, hne]
      · rw [if_neg hd]
        cases hsplit : split isSeparator cs with
        | nil => exact absurd hsplit (split_ne_nil _ _)
        | cons part parts => simp [or_assoc]

/-! ### What the parts of a text are -/

/-- A text and its parts: no part has a separator in it, and one separator stands between two of them. -/
inductive Parts (isSeparator : Char → Bool) : List Char → List (List Char) → Prop where
  | last {part : List Char} (h : ∀ c ∈ part, isSeparator c = false) : Parts isSeparator part [part]
  | cons {part rest : List Char} {sep : Char} {parts : List (List Char)}
      (h : ∀ c ∈ part, isSeparator c = false) (hsep : isSeparator sep = true)
      (hrest : Parts isSeparator rest parts) :
      Parts isSeparator (part ++ sep :: rest) (part :: parts)

theorem Parts.split_eq {cs : List Char} {parts : List (List Char)} (h : Parts isSeparator cs parts) :
    split isSeparator cs = parts := by
  induction h with
  | last h => exact split_of_forall h
  | cons h hsep _ ih => rw [split_append_cons h hsep, ih]

theorem parts_split (cs : List Char) : Parts isSeparator cs (split isSeparator cs) := by
  generalize hparts : split isSeparator cs = parts
  induction parts generalizing cs with
  | nil => exact absurd hparts (split_ne_nil _ _)
  | cons first rest ih =>
      obtain ⟨hfirst, ⟨rfl, rfl⟩ | ⟨sep, tail, hsep, rfl, htail⟩⟩ := exists_of_split hparts
      · exact .last hfirst
      · exact .cons hfirst hsep (ih tail htail)

/-- A text has just one list of parts, which splitting finds. -/
theorem parts_iff {cs : List Char} {parts : List (List Char)} :
    Parts isSeparator cs parts ↔ parts = split isSeparator cs := by
  constructor
  · intro h
    exact h.split_eq.symm
  · rintro rfl
    exact parts_split cs

theorem Parts.forall_mem {cs : List Char} {parts : List (List Char)} (h : Parts isSeparator cs parts) :
    ∀ part ∈ parts, ∀ c ∈ part, isSeparator c = false := by
  induction h with
  | last h => simpa using h
  | cons h _ _ ih =>
      intro part hpart
      rcases List.mem_cons.mp hpart with rfl | hpart
      · exact h
      · exact ih part hpart

/-- A separator between two texts ends the last part of the one and begins the first of the other. -/
theorem Parts.append {cs ds : List Char} {front back : List (List Char)}
    (h : Parts isSeparator cs front) {sep : Char} (hsep : isSeparator sep = true)
    (h' : Parts isSeparator ds back) : Parts isSeparator (cs ++ sep :: ds) (front ++ back) := by
  induction h with
  | last hpart => exact .cons hpart hsep h'
  | cons hpart hfirst _ ih =>
      rw [List.append_assoc, List.cons_append, List.cons_append]
      exact .cons hpart hfirst ih

/-- Parts that each have the same separator before them, behind a first one. -/
theorem split_append_flatMap {sep : Char} (hsep : isSeparator sep = true) {first : List Char}
    (hfirst : ∀ c ∈ first, isSeparator c = false) {parts : List (List Char)}
    (hparts : ∀ part ∈ parts, ∀ c ∈ part, isSeparator c = false) :
    split isSeparator (first ++ parts.flatMap (sep :: ·)) = first :: parts := by
  induction parts generalizing first with
  | nil => simpa using split_of_forall hfirst
  | cons part parts ih =>
      obtain ⟨hpart, hrest⟩ := List.forall_mem_cons.mp hparts
      rw [List.flatMap_cons, List.cons_append, split_append_cons hfirst hsep, ih hpart hrest]

end CallSite.Text
