import CallSite.ModulePath
import CallSite.Proofs.FileStore.Walking
import CallSite.Proofs.Text.Split

/-!
# Files beside a module

A path with an extension appended leads to another file of the same directory. So the files beside a
module are not its image, and with different extensions they are different files.
-/

namespace CallSite

/-- What is appended to a path stays within its last part and does not make that part special. -/
structure IsExtension (extension : String) : Prop where
  plain : ∀ c ∈ extension.toList, c ≠ '/' ∧ c ≠ Char.ofNat 0
  proper : ∃ c ∈ extension.toList, c ≠ '.'

theorem isExtension_sidecar : IsExtension "lmp" :=
  ⟨by simp, 'l', by simp, by decide⟩

theorem isExtension_report : IsExtension "linemapreport" :=
  ⟨by simp, 'l', by simp, by decide⟩

theorem ModulePath.toList_extended (p : ModulePath) (extension : String) :
    (p.extended extension).text.toList = p.text.toList ++ '.' :: extension.toList := by
  simp [extended]

theorem ModulePath.segments_extended {extension : String} (h : IsExtension extension)
    (p : ModulePath) :
    ∃ front last, p.segments = front ++ [last] ∧
      (p.extended extension).segments = front ++ [last ++ '.' :: extension.toList] := by
  have hplain : ∀ c ∈ '.' :: extension.toList, decide (c = '/') = false := by
    intro c hc
    rcases List.mem_cons.mp hc with rfl | hc
    · decide
    · exact decide_eq_false (h.plain c hc).1
  rw [segments, segments, toList_extended]
  exact Text.split_append p.text.toList hplain

theorem ModulePath.zero_mem_extended {extension : String} (h : IsExtension extension)
    (p : ModulePath) :
    Char.ofNat 0 ∈ (p.extended extension).text.toList ↔ Char.ofNat 0 ∈ p.text.toList := by
  rw [toList_extended, List.mem_append, List.mem_cons]
  refine or_iff_left ?_
  rintro (hdot | hmem)
  · exact absurd hdot (by decide)
  · exact (h.plain _ hmem).2 rfl

/-- A part with an extension is no part that stands for another directory. -/
theorem IsExtension.not_special {extension : String} (h : IsExtension extension) (last : String) :
    ¬ (last ++ "." ++ extension = "" ∨ last ++ "." ++ extension = ".") ∧
      last ++ "." ++ extension ≠ ".." := by
  obtain ⟨c, hc, hdot⟩ := h.proper
  have hmem : c ∈ (last ++ "." ++ extension).toList := by simp [hc]
  refine ⟨?_, ?_⟩
  · rintro (heq | heq)
    · simp [heq] at hmem
    · simp [heq, hdot] at hmem
  · intro heq
    simp [heq, hdot] at hmem

namespace FileStore

theorem segments_extended {p : ModulePath} {extension : String} {parts : List String}
    (hextension : IsExtension extension) (h : segments p.text = .ok parts) :
    ∃ front last, parts = front ++ [last] ∧
      segments (p.extended extension).text = .ok (front ++ [last ++ "." ++ extension]) := by
  obtain ⟨front, last, hparts, hextended⟩ := p.segments_extended hextension
  obtain ⟨hzero, -, rfl⟩ := segments_eq_ok.mp h
  rw [ModulePath.segments] at hparts hextended
  have hlast : String.ofList (last ++ '.' :: extension.toList) =
      String.ofList last ++ "." ++ extension := by
    rw [← String.toList_inj]
    simp
  refine ⟨front.map String.ofList, String.ofList last, ?_, ?_⟩
  · rw [hparts, List.map_append, List.map_singleton]
  · have hzero' := (p.zero_mem_extended hextension).not.mpr hzero
    refine segments_eq_ok.mpr ⟨hzero', by simp [ModulePath.toList_extended], ?_⟩
    rw [hextended, List.map_append, List.map_singleton, hlast]

theorem start_extended (store : FileStore) {p : ModulePath} {extension : String}
    {parts : List String} (h : segments p.text = .ok parts) :
    store.start (p.extended extension).text = store.start p.text := by
  obtain ⟨-, hne, -⟩ := segments_eq_ok.mp h
  rw [start, start, ModulePath.toList_extended, List.head?_append_of_ne_nil _ hne]

/-- Where the path of a module leads, and where it leads with any extension appended. -/
theorem resolve_beside {store : FileStore} {p : ModulePath} {l : Location}
    (h : store.resolve p.text = .ok l) :
    ∃ parent last, (l = parent ∨ l = parent.dropLast ∨ l = parent ++ [last]) ∧
      ∀ extension, IsExtension extension → ∀ l', store.resolve (p.extended extension).text = .ok l' →
        l' = parent ++ [last ++ "." ++ extension] := by
  obtain ⟨parts, hparts, hwalk⟩ := bind_eq_ok.mp h
  obtain ⟨front, last, rfl, -⟩ := segments_extended isExtension_sidecar hparts
  rw [List.foldlM_append] at hwalk
  obtain ⟨parent, hparent, hlast⟩ := bind_eq_ok.mp hwalk
  rw [List.foldlM_cons] at hlast
  obtain ⟨location, hlocation, hl⟩ := bind_eq_ok.mp hlast
  cases hl
  have hdirectory : store.node? parent = some .directory := node?_of_enter hlocation
  refine ⟨parent, last, ?_, ?_⟩
  · rw [enter_directory hdirectory] at hlocation
    cases hlocation
    split
    · exact .inl rfl
    · split
      · exact .inr (.inl rfl)
      · exact .inr (.inr rfl)
  · intro extension hextension l' hl'
    obtain ⟨front', last', hsame, hsegments⟩ := segments_extended hextension hparts
    obtain ⟨rfl, hlast'⟩ := List.append_inj' hsame rfl
    cases hlast'
    obtain ⟨hspecial, hparentDir⟩ := hextension.not_special last
    rw [resolve, hsegments, start_extended store hparts] at hl'
    have hwalk' : (front ++ [last ++ "." ++ extension]).foldlM store.enter (store.start p.text) =
        .ok (parent ++ [last ++ "." ++ extension]) := by
      rw [List.foldlM_append]
      refine bind_eq_ok.mpr ⟨parent, hparent, ?_⟩
      rw [List.foldlM_cons, enter_directory hdirectory, if_neg hspecial, if_neg hparentDir]
      rfl
    exact (Except.ok.inj (hwalk'.symm.trans hl')).symm

variable {store : FileStore} {p : ModulePath} {l : Location}

/-- A file beside a module is not its image. -/
theorem resolve_extended_ne {extension : String} (hextension : IsExtension extension)
    (h : store.resolve p.text = .ok l) :
    ∀ l', store.resolve (p.extended extension).text = .ok l' → l ≠ l' := by
  intro l' hl'
  obtain ⟨parent, last, hl, hbeside⟩ := resolve_beside h
  have hlength : (last ++ "." ++ extension).length ≠ last.length := by
    have hdot : ".".length = 1 := rfl
    rw [String.length_append, String.length_append]
    omega
  rw [hbeside extension hextension l' hl']
  intro heq
  rcases hl with rfl | rfl | rfl
  · simpa using congrArg List.length heq
  · have hlen := congrArg List.length heq
    simp only [List.length_dropLast, List.length_append, List.length_singleton] at hlen
    omega
  · have hlast := List.append_cancel_left heq
    simp only [List.cons.injEq, and_true] at hlast
    exact hlength (congrArg String.length hlast).symm

/-- Files beside a module with different extensions are different. -/
theorem resolve_extended_ne_extended {extension extension' : String}
    (hextension : IsExtension extension) (hextension' : IsExtension extension')
    (hne : extension ≠ extension') (h : store.resolve p.text = .ok l) {l₁ l₂ : Location}
    (h₁ : store.resolve (p.extended extension).text = .ok l₁)
    (h₂ : store.resolve (p.extended extension').text = .ok l₂) : l₁ ≠ l₂ := by
  obtain ⟨parent, last, -, hbeside⟩ := resolve_beside h
  rw [hbeside extension hextension l₁ h₁, hbeside extension' hextension' l₂ h₂]
  intro heq
  have hlast := List.append_cancel_left heq
  simp only [List.cons.injEq, and_true] at hlast
  exact hne ((String.append_right_inj _).mp hlast)

end FileStore

end CallSite
