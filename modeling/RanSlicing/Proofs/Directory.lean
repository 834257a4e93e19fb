import RanSlicing.Files.Basic
import RanSlicing.Proofs.Paths

/-!
# Writing into a directory

Writing only ever adds files: making a directory adds none (`Files.entries_of_makeDirectories`), and a new file
comes behind those that are there, under a name that none of them had (`Files.entries_of_createNew`). So files
that are there stay as they are (`Files.Keeps`).

`Files.Holds` says which names are taken in a directory, and that nothing stands in the way of making it;
making it and writing new files into it keep track of the names (`Files.makeDirectories_of_holds`,
`Files.createNew_of_mem`, `Files.createNew_of_notMem`).
-/

namespace RanSlicing

/-! ## Files that are added -/

namespace Files

/-- Every file stands as it was; there may be more of them. -/
def Keeps (fs fs' : Files) : Prop :=
  ∀ path content, fs.content? path = some content → fs'.content? path = some content

theorem Keeps.refl (fs : Files) : fs.Keeps fs := fun _ _ h => h

theorem Keeps.trans {fs fs' fs'' : Files} (h : fs.Keeps fs') (h' : fs'.Keeps fs'') : fs.Keeps fs'' :=
  fun path content hc => h' path content (h path content hc)

/-- A path without a file had none before. -/
theorem Keeps.content?_eq_none {fs fs' : Files} (h : fs.Keeps fs') {path : Path}
    (hpath : fs'.content? path = none) : fs.content? path = none := by
  cases hc : fs.content? path with
  | none => rfl
  | some content => rw [h path content hc] at hpath; cases hpath

/-- What files hold with more entries behind them. -/
theorem content?_of_append {fs fs' : Files} {added : List (Path × Content)}
    (h : fs'.entries = fs.entries ++ added) (path : Path) :
    fs'.content? path = (fs.content? path).or (added.lookup path) := by
  rw [content?, h, List.lookup_append, content?]

theorem keeps_of_append {fs fs' : Files} {added : List (Path × Content)}
    (h : fs'.entries = fs.entries ++ added) : fs.Keeps fs' := by
  intro path content hc
  rw [content?_of_append h, hc, Option.some_or]

/-- Making a directory adds no file. -/
theorem entries_of_makeDirectories {fs fs' : Files} {dir : Path} (h : fs.makeDirectories dir = .ok fs') :
    fs'.entries = fs.entries := by
  rw [makeDirectories] at h
  split at h
  · cases h
  · split at h
    · cases h
    · cases h
      rfl

/-- A new file is added at the end, under a name that no file had. -/
theorem entries_of_createNew {fs fs' : Files} {path : Path} {text : String}
    (h : fs.createNew path text = .ok fs') :
    fs.content? path = none ∧ fs'.entries = fs.entries ++ [(path, .text text)] := by
  rw [createNew] at h
  split at h
  · cases h
  · next hfree =>
    rw [taken, Bool.or_eq_true, not_or] at hfree
    split at h
    · cases h
      exact ⟨Option.not_isSome_iff_eq_none.mp hfree.1, rfl⟩
    · cases h

/-! ## The names of a directory -/

variable {fs : Files} {dir : Path} {names : List String} {name : String}

/-- What is known of a directory that is written to: no file stands in the way of making it, and
exactly these names are taken in it. -/
structure Holds (fs : Files) (dir : Path) (names : List String) : Prop where
  free : ∀ p ∈ dir :: Path.ancestry dir, fs.isFile p = false
  taken : ∀ name, fs.taken (dir ++ [name]) = true ↔ name ∈ names

/-- Without files every directory is free and empty. -/
theorem empty_holds (dir : Path) : Holds .empty dir [] := by
  refine ⟨fun _ _ => rfl, fun name => ?_⟩
  simp [taken, isFile, content?, isDirectory, empty]

/-- The entry of a directory is neither the directory nor above it. -/
theorem ne_of_mem_ancestry {p : Path} (hp : p ∈ dir :: Path.ancestry dir) (name : String) :
    p ≠ dir ++ [name] := by
  intro heq
  have hle : p.length ≤ dir.length := by
    rcases List.mem_cons.mp hp with rfl | hp
    · exact Nat.le_refl _
    · exact Path.length_le_of_mem_ancestry hp
  rw [heq, List.length_append, List.length_singleton] at hle
  omega

/-- Adding the directories of a path makes these directories and no others. -/
theorem isDirectory_addDirectories (fs : Files) (d p : Path) :
    (fs.addDirectories d).isDirectory p = true ↔ fs.isDirectory p = true ∨ p ∈ Path.ancestry d := by
  have hnew : (fs.addDirectories d).isDirectory p = true ↔ fs.isDirectory p = true ∨
      p ∈ (Path.ancestry d).filter (fun d => !fs.isDirectory d) := by
    simp only [addDirectories, isDirectory, Bool.or_eq_true, List.contains_iff_mem, List.mem_append,
      or_assoc]
  rw [hnew, List.mem_filter]
  by_cases h : fs.isDirectory p = true
  · simp [h]
  · simp [h]

/-- A directory that is free can be made, and then is one. Its names stay. -/
theorem makeDirectories_of_holds (h : fs.Holds dir names) :
    ∃ fs', fs.makeDirectories dir = .ok fs' ∧ fs'.isDirectory dir = true ∧ fs'.Holds dir names := by
  refine ⟨fs.addDirectories dir, ?_, ?_, h.free, fun name => ?_⟩
  · have habove : (Path.ancestry dir).any fs.isFile = false :=
      List.any_eq_false.mpr fun p hp => by rw [h.free p (List.mem_cons_of_mem _ hp)]; simp
    rw [makeDirectories, h.free dir (List.mem_cons_self ..), habove]
    rfl
  · rw [isDirectory_addDirectories]
    by_cases hdir : dir = []
    · exact .inl (by rw [hdir]; rfl)
    · exact .inr (Path.mem_ancestry_self hdir)
  · have hnot : dir ++ [name] ∉ Path.ancestry dir := fun hmem =>
      ne_of_mem_ancestry (List.mem_cons_of_mem _ hmem) name rfl
    rw [← h.taken name, taken, taken, Bool.or_eq_true, Bool.or_eq_true, isDirectory_addDirectories,
      or_iff_left hnot]
    rfl

/-- A name that is taken is not written. -/
theorem createNew_of_mem (h : fs.Holds dir names) (hname : name ∈ names) (s : String) :
    fs.createNew (dir ++ [name]) s = .error .alreadyExists := by
  rw [createNew, if_pos ((h.taken name).mpr hname)]

/-- A name that is free is written, and taken from then on. -/
theorem createNew_of_notMem (h : fs.Holds dir names) (hdir : fs.isDirectory dir = true)
    (hname : name ∉ names) (s : String) :
    ∃ fs', fs.createNew (dir ++ [name]) s = .ok fs' ∧ fs'.Holds dir (names ++ [name]) := by
  have hfile : ∀ p, isFile { fs with entries := fs.entries ++ [(dir ++ [name], .text s)] } p = true ↔
      fs.isFile p = true ∨ p = dir ++ [name] := by
    intro p
    simp only [isFile, content?, List.lookup_append, Option.isSome_or, Bool.or_eq_true]
    by_cases hp : p = dir ++ [name]
    · simp [hp]
    · rw [List.lookup_cons, beq_eq_false_iff_ne.mpr hp]
      simp [hp]
  refine ⟨{ fs with entries := fs.entries ++ [(dir ++ [name], .text s)] }, ?_, ?_, ?_⟩
  · have hparent : Path.parent (dir ++ [name]) = dir := List.dropLast_concat
    rw [createNew, if_neg ((not_congr (h.taken name)).mpr hname), hparent, if_pos hdir]
  · intro p hp
    rw [← Bool.not_eq_true, hfile, not_or]
    exact ⟨by rw [h.free p hp]; exact Bool.false_ne_true, ne_of_mem_ancestry hp name⟩
  · intro other
    have hold := h.taken other
    rw [taken, Bool.or_eq_true] at hold ⊢
    rw [hfile, List.mem_append, ← hold, List.mem_singleton, List.append_cancel_left_eq]
    change (_ ∨ _) ∨ fs.isDirectory (dir ++ [other]) = true ↔ _
    simp only [List.cons.injEq, and_true]
    exact or_right_comm

end Files

end RanSlicing
