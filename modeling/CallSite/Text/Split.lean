/-!
# Splitting at separators
-/

namespace CallSite.Text

/-- The parts between separators: one more than there are separators, some perhaps empty. -/
def split (isSeparator : Char → Bool) : List Char → List (List Char)
  | [] => [[]]
  | c :: cs =>
      if isSeparator c then [] :: split isSeparator cs
      else
        match split isSeparator cs with
        | [] => [[c]]
        | part :: parts => (c :: part) :: parts

theorem split_ne_nil (isSeparator : Char → Bool) (cs : List Char) :
    split isSeparator cs ≠ [] := by
  cases cs with
  | nil => simp [split]
  | cons c cs =>
      rw [split]
      split
      · simp
      · split <;> simp

end CallSite.Text
