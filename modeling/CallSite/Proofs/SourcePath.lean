import CallSite.Proofs.Text.Split
import CallSite.SourcePath

/-!
# Shortened paths

What is stored of the path of a source file. Nothing at all is stored of a path that names a directory
and no file in it, if it has no other component.
-/

namespace CallSite.SourcePath

/-- One component, perhaps empty, and a separator behind it. -/
def Nameless (path : String) : Prop :=
  ∃ directory sep, (∀ c ∈ directory, isSeparator c = false) ∧ isSeparator sep = true ∧
    path.toList = directory ++ [sep]

theorem shortenChars_eq_nil_iff (cs : List Char) :
    shortenChars cs = [] ↔
      cs = [] ∨ ∃ directory sep, (∀ c ∈ directory, isSeparator c = false) ∧
        isSeparator sep = true ∧ cs = directory ++ [sep] := by
  constructor
  · intro h
    rw [shortenChars] at h
    split at h
    · rename_i hlength
      cases hparts : components cs with
      | nil => exact absurd hparts (Text.split_ne_nil _ _)
      | cons first rest =>
          rw [hparts] at h hlength
          obtain ⟨hfirst, ⟨rfl, hcs⟩ | ⟨sep, tail, hsep, hcs, htail⟩⟩ := Text.exists_of_split hparts
          · left
            rw [hcs]
            exact h
          · right
            cases rest with
            | nil => exact absurd htail (Text.split_ne_nil _ _)
            | cons second others =>
                obtain rfl : others = [] := by simpa using hlength
                have hsecond : second = [] := h
                obtain ⟨-, ⟨-, rfl⟩ | ⟨_, _, -, -, hnil⟩⟩ := Text.exists_of_split htail
                · exact ⟨first, sep, hfirst, hsep, by rw [hcs, hsecond]⟩
                · exact absurd hnil (Text.split_ne_nil _ _)
    · simp [abbreviated] at h
  · rintro (rfl | ⟨directory, sep, hdirectory, hsep, rfl⟩)
    · rfl
    · have hparts : components (directory ++ [sep]) = [directory, []] :=
        Text.split_append_cons hdirectory hsep []
      simp [shortenChars, hparts]

theorem shorten_eq_empty_iff (path : String) : shorten path = "" ↔ path = "" ∨ Nameless path := by
  have hempty : ∀ cs : List Char, String.ofList cs = "" ↔ cs = [] := fun cs => @String.ofList_inj cs []
  rw [shorten, hempty, shortenChars_eq_nil_iff, Nameless, ← hempty, String.ofList_toList]

end CallSite.SourcePath
