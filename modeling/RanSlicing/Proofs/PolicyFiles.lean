import RanSlicing.Policy.Text
import RanSlicing.Proofs.Directory

/-!
# Files of policies

The name of a policy file is made of a base name, a number and the extension of its format. The number can be
told from it (`PolicyDocument.fileName_injective`), and so can the format, whatever the base name is: slashes and
dots in it come before the last part of the path and before its last dot (`PolicyFormat.ofPath_of_parts`).

Saving a policy adds its file, or adds nothing (`PolicyDocument.save_cases`).
-/

namespace RanSlicing

namespace PolicyDocument

/-! ## File names -/

/-- The number in the name of a policy file can be told from it. -/
theorem fileName_injective {basename : String} {format : PolicyFormat} {a b : UInt32}
    (h : fileName basename a format = fileName basename b format) : a = b := by
  have hnumber : (toString a.toNat).toList = (toString b.toNat).toList :=
    congrArg String.toList ((String.append_right_inj _).mp
      ((String.append_left_inj _).mp ((String.append_left_inj _).mp h)))
  rw [Nat.toString_eq_repr, Nat.toString_eq_repr, Nat.toList_repr, Nat.toList_repr] at hnumber
  have hread := congrArg (fun digits => Nat.ofDigitChars 10 digits 0) hnumber
  simp only [Nat.ofDigitChars_toDigits (b := 10) (by decide) (by decide)] at hread
  exact UInt32.toNat_inj.mp hread

/-- A base name without slashes makes names without slashes. -/
theorem plain_fileName {basename : String} (hbase : '/' ∉ basename.toList)
    (sequence : UInt32) (format : PolicyFormat) :
    Path.Plain (fileName basename sequence format) := by
  have hlist : (fileName basename sequence format).toList = basename.toList ++ '_' ::
      (Nat.toDigits 10 sequence.toNat ++ '.' :: format.extension.toList) := by
    simp [fileName]
  -- the line before the number keeps the name apart from the names with a meaning of their own
  have hne : ∀ s : String, '_' ∉ s.toList → fileName basename sequence format ≠ s := by
    intro s hs heq
    rw [← heq, hlist] at hs
    simp at hs
  refine ⟨?_, hne _ (by decide), hne _ (by decide), hne _ (by decide)⟩
  rw [hlist]
  have hdigits : '/' ∉ Nat.toDigits 10 sequence.toNat := fun hmem => by
    have hdigit := Nat.isDigit_of_mem_toDigits (by decide) (by decide) hmem
    exact absurd hdigit (by decide)
  have hextension : '/' ∉ format.extension.toList := by
    cases format <;> decide
  simp [hbase, hdigits, hextension]

/-- Of a base name that is a path, only what follows the last slash is part of the name. -/
theorem exists_parts_fileName (basename : String) (sequence : UInt32) (format : PolicyFormat) :
    ∃ (above : List String) (stem : String), '/' ∉ stem.toList ∧
      Path.parts (fileName basename sequence format) = above ++ [fileName stem sequence format] := by
  by_cases hslash : '/' ∈ basename.toList
  · obtain ⟨stem, dir, hsplit, hstem⟩ := List.eq_append_cons_of_mem (List.mem_reverse.mpr hslash)
    have hbasename : basename = String.ofList dir.reverse ++ "/" ++ String.ofList stem.reverse := by
      rw [← String.toList_inj, ← List.reverse_inj, hsplit]
      simp
    have hfile : fileName basename sequence format =
        String.ofList dir.reverse ++ "/" ++ fileName (String.ofList stem.reverse) sequence format := by
      rw [hbasename]
      simp only [fileName, String.append_assoc]
    have hplain : '/' ∉ (String.ofList stem.reverse).toList := by simpa using hstem
    refine ⟨Path.parts (String.ofList dir.reverse), _, hplain, ?_⟩
    rw [hfile, Path.parts_append_slash, Path.parts_of_plain (plain_fileName hplain sequence format)]
  · exact ⟨[], basename, hslash, Path.parts_of_plain (plain_fileName hslash sequence format)⟩

/-- The last part of the path of a file that is saved below a directory is a file name for the same number and
format. -/
theorem exists_parts_join (dir basename : String) (sequence : UInt32) (format : PolicyFormat) :
    ∃ (above : List String) (stem : String), '/' ∉ stem.toList ∧
      Path.parts (Path.join dir (fileName basename sequence format)) =
        above ++ [fileName stem sequence format] := by
  obtain ⟨above, stem, hstem, hparts⟩ := exists_parts_fileName basename sequence format
  refine ⟨(if (fileName basename sequence format).startsWith "/" then [] else Path.parts dir) ++ above,
    stem, hstem, ?_⟩
  rw [Path.parts_join, hparts, List.append_assoc]

/-- The format of a file is told by its name. -/
theorem ofPath_of_parts {text stem : String} {above : List String} {sequence : UInt32}
    {format : PolicyFormat} (hstem : '/' ∉ stem.toList)
    (hparts : Path.parts text = above ++ [fileName stem sequence format]) :
    PolicyFormat.ofPath text = format := by
  have hname : Path.fileName? text = some (fileName stem sequence format) := by
    rw [Path.fileName?, hparts, List.getLast?_concat]
    simp [Option.filter, (plain_fileName hstem sequence format).ne_dots]
  have hdot : '.' ∉ format.extension.toList := by
    cases format <;> decide
  have hextension : Path.extensionOf? (fileName stem sequence format) = some format.extension := by
    refine Path.extensionOf?_append hdot fun hempty => ?_
    have hline := congrArg (fun s => '_' ∈ s.toList) hempty
    simp at hline
  rw [PolicyFormat.ofPath, Path.extension?, hname, Option.bind_some, hextension, Option.map_some]
  cases format <;> decide +kernel

/-! ## Saving -/

variable {α : Type} [Share α]

/-- Saving a policy adds its file under a name that no file had, or adds no file. -/
theorem save_cases (doc : PolicyDocument α) (fs : Files) (dir basename : String) (sequence : UInt32)
    (format : PolicyFormat) :
    let path := Path.ofString (Path.join dir (fileName basename sequence format))
    let out := doc.save fs dir basename sequence format
    (out.2 = .ok path ∧ fs.content? path = none ∧
        out.1.entries = fs.entries ++ [(path, .text (doc.dump format))]) ∨
      ∃ e, out.2 = .error e ∧ out.1.entries = fs.entries := by
  intro path out
  cases hmade : fs.makeDirectories (Path.ofString dir) with
  | error e =>
    have hout : out = (fs, .error (.file (Path.toString path) e)) := by
      simp only [out, save, hmade, path]
    rw [hout]
    exact .inr ⟨_, rfl, rfl⟩
  | ok made =>
    have hentries := Files.entries_of_makeDirectories hmade
    cases hnew : made.createNew path (doc.dump format) with
    | error e =>
      have hout : out = (made, .error (.file (Path.toString path) e)) := by
        simp only [out, save, hmade, hnew, path]
      rw [hout]
      exact .inr ⟨_, rfl, hentries⟩
    | ok written =>
      have hout : out = (written, .ok path) := by
        simp only [out, save, hmade, hnew, path]
      obtain ⟨hfree, hadded⟩ := Files.entries_of_createNew hnew
      rw [Files.content?, hentries] at hfree
      rw [hentries] at hadded
      rw [hout]
      exact .inl ⟨rfl, hfree, hadded⟩

end PolicyDocument

end RanSlicing
