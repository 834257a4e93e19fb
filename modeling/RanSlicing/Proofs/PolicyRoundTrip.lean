import RanSlicing.Proofs.PolicyFiles
import RanSlicing.Proofs.PolicyWrites
import RanSlicing.Proofs.ReadBack

/-!
# Policies that are read back

A policy is read back from every document that holds its tree (`PolicyDocument.read?_of_holds`), section by
section: what was left out because it was missing is taken for missing, and every bounded number is accepted
again. So a valid policy is what its text is parsed to, in either format, if the text reads as the tree that it
was written for (`PolicyDocument.parse_dump`).

A policy that was saved is loaded from its file in the format that it was written in, whatever the directory and
the base name are (`PolicyDocument.load_save`).
-/

namespace RanSlicing

open Source (holds)

section

variable {ν α : Type} [Source ν α] [DecidableEq α] [Source.LawfulRecords ν] {v : ν}

/-- The parameters of a scheduler read back from any document that holds them. -/
theorem Scheduler.readParameters?_of_holds {p : Scheduler α}
    (h : holds v (.map [("n_active_slices", .nat p.activeSlices.val),
      ("slice_percentage", .list (p.shares.map .real)),
      ("slice_maxmcs", .list (p.caps.map (fun m => .nat m.val)))]) = true) :
    readParameters? p.behaviour v = some p := by
  obtain ⟨fs, hrecord, hfs⟩ := Source.record?_of_holds
    ["n_active_slices", "slice_percentage", "slice_maxmcs"] h (by simp) (by simp)
  have hactive : fs.required "n_active_slices" (Source.bounded? .sliceCount) = some p.activeSlices :=
    Source.required_of_holds hfs rfl fun _ => Source.bounded?_of_holds
  have hshares : fs.withDefault "slice_percentage" [] (Source.listOf? Source.real?) = some p.shares :=
    Source.withDefault_of_holds hfs rfl fun _ hw =>
      Source.listOf?_of_holds hw fun _ _ _ => Source.real?_of_holds
  have hcaps : fs.withDefault "slice_maxmcs" [] (Source.listOf? (Source.bounded? .mcs)) = some p.caps :=
    Source.withDefault_of_holds hfs rfl fun _ hw =>
      Source.listOf?_of_holds hw fun _ _ _ => Source.bounded?_of_holds
  simp only [readParameters?, hrecord, hactive, hshares, hcaps, Option.bind_eq_bind, Option.bind_some]
  rfl

/-- A scheduler reads back from any document that holds its tree. -/
theorem Scheduler.read?_of_holds {p : Scheduler α} (h : holds v p.toTree = true) : read? v = some p := by
  obtain ⟨fs, hrecord, hfs⟩ := Source.record?_of_holds ["behaviour", "parameters"] h
    (by cases p.behaviour <;> simp) (by cases p.behaviour <;> simp)
  have hbehaviour : fs.withDefault "behaviour" none (Source.optional? Source.text?) = some p.behaviour :=
    Source.optional_of_holds .text hfs (by cases p.behaviour <;> rfl)
      fun _ _ _ => Source.text?_of_holds
  have hparameters : fs.required "parameters" (readParameters? p.behaviour) = some p :=
    Source.required_of_holds hfs (by cases p.behaviour <;> rfl) fun _ => readParameters?_of_holds
  simp only [read?, hrecord, hbehaviour, hparameters, Option.bind_eq_bind, Option.bind_some]

namespace PolicyDocument

/-- An entry reads back from any document that holds its tree. -/
theorem readEntry?_of_holds {e : PolicyEntry α}
    (h : holds v (.record [e.dl.map (fun p => ("dl_scheduler", p.toTree)),
      e.ul.map (fun p => ("ul_scheduler", p.toTree))]) = true) : readEntry? v = some e := by
  obtain ⟨dl, ul⟩ := e
  obtain ⟨fs, hrecord, hfs⟩ := Source.record?_of_holds ["dl_scheduler", "ul_scheduler"] h
    (by cases dl <;> cases ul <;> simp) (by cases dl <;> cases ul <;> simp)
  have hdl : fs.withDefault "dl_scheduler" none (Source.optional? Scheduler.read?) = some dl :=
    Source.optional_of_holds Scheduler.toTree hfs (by cases dl <;> cases ul <;> rfl)
      fun _ _ _ => Scheduler.read?_of_holds
  have hul : fs.withDefault "ul_scheduler" none (Source.optional? Scheduler.read?) = some ul :=
    Source.optional_of_holds Scheduler.toTree hfs (by cases dl <;> cases ul <;> rfl)
      fun _ _ _ => Scheduler.read?_of_holds
  simp only [hrecord, hdl, hul, readEntry?, Option.bind_eq_bind, Option.bind_some]
  rfl

/-- A policy reads back from any document that holds its tree. -/
theorem read?_of_holds {doc : PolicyDocument α} (h : holds v doc.toTree = true) : read? v = some doc := by
  obtain ⟨fs, hrecord, hfs⟩ := Source.record?_of_holds ["mac"] h (by simp) (by simp)
  have hmac : fs.required "mac" (Source.listOf? readEntry?) = some doc.mac :=
    Source.required_of_holds hfs rfl fun _ hw =>
      Source.listOf?_of_holds hw fun _ _ _ => readEntry?_of_holds
  simp only [read?, hrecord, hmac, Option.bind_eq_bind, Option.bind_some]
  rfl

end PolicyDocument

end

/-! ## Texts -/

/-- Whether the text that a format writes for a tree reads as that tree. -/
def PolicyFormat.rereads (t : Tree Float) : PolicyFormat → Bool
  | yaml => (Yaml.read? (Yaml.write t)).any fun d => holds d t
  | json => (Json.read? (Json.pretty t)).any fun t' => holds t' t

namespace PolicyDocument

/-- A valid policy reads back from its text. -/
theorem parse_dump {doc : PolicyDocument Float} {format : PolicyFormat} (hvalid : doc.validate = .ok ())
    (hrereads : format.rereads doc.toTree = true) : parse (doc.dump format) format = .ok doc := by
  have htext : ofText? (doc.dump format) format = some doc := by
    cases format with
    | yaml =>
      obtain ⟨d, hread, hholds⟩ := (Option.any_eq_true _ _).mp hrereads
      rw [dump, ofText?, hread, Option.bind_some, read?_of_holds hholds]
    | json =>
      obtain ⟨t, hread, hholds⟩ := (Option.any_eq_true _ _).mp hrereads
      rw [dump, ofText?, hread, Option.bind_some, read?_of_holds hholds]
  simp only [parse, htext, hvalid]
  rfl

/-- A policy that was saved stands in its file. -/
theorem read_of_save {doc : PolicyDocument Float} {fs fs' : Files} {dir basename : String}
    {sequence : UInt32} {format : PolicyFormat} {path : Path}
    (h : doc.save fs dir basename sequence format = (fs', .ok path)) :
    path = Path.ofString (Path.join dir (fileName basename sequence format)) ∧
      fs'.read path = .ok (doc.dump format) := by
  rcases doc.save_cases fs dir basename sequence format with ⟨hpath, hfree, hadded⟩ | ⟨e, herror, -⟩
  · rw [h] at hpath hadded
    obtain rfl := Except.ok.inj hpath
    refine ⟨rfl, ?_⟩
    rw [Files.read, Files.content?_of_append hadded, hfree, Option.none_or, List.lookup_cons_self]
  · rw [h] at herror
    cases herror

/-- **Policies survive being written.** A valid policy is read back from its text in the format in which it was
written, as long as the text reads as the tree that it was written for. Whatever directory and base name it is
saved under, the name of its file tells that format, and loading the file gives the policy again. -/
theorem load_save {doc : PolicyDocument Float} {format : PolicyFormat} (hvalid : doc.validate = .ok ())
    (hrereads : format.rereads doc.toTree = true) :
    parse (doc.dump format) format = .ok doc ∧
      ∀ (fs fs' : Files) (dir basename : String) (sequence : UInt32) (path : Path),
        doc.save fs dir basename sequence format = (fs', .ok path) →
        ∀ text ∈ [Path.toString path, Path.join dir (fileName basename sequence format)],
          PolicyFormat.ofPath text = format ∧ load fs' text = .ok doc := by
  have hparse := parse_dump hvalid hrereads
  refine ⟨hparse, fun fs fs' dir basename sequence path hsave text htext => ?_⟩
  obtain ⟨rfl, hread⟩ := read_of_save hsave
  obtain ⟨above, stem, hstem, hparts⟩ := exists_parts_join dir basename sequence format
  have hplain := plain_fileName hstem sequence format
  have hleads : Path.ofString text = Path.ofString (Path.join dir (fileName basename sequence format)) ∧
      ∃ above', Path.parts text = above' ++ [fileName stem sequence format] := by
    rcases List.mem_cons.mp htext with rfl | htext
    · refine ⟨Path.ofString_toString Path.plain_of_mem_ofString, ?_⟩
      rw [Path.parts_toString Path.plain_of_mem_ofString]
      exact Path.exists_ofString_of_parts hparts hplain
    · rw [List.mem_singleton.mp htext]
      exact ⟨rfl, above, hparts⟩
  obtain ⟨hpath, above', hparts'⟩ := hleads
  have hformat := ofPath_of_parts hstem hparts'
  refine ⟨hformat, ?_⟩
  rw [load, hpath, hread, hformat]
  exact hparse

/-- A callback that is called like a missing value, an entry without schedulers, and base names that end like a
file of the other format. -/
theorem load_save_null :
    let doc : PolicyDocument Float :=
      ⟨[⟨some ⟨some "null", ⟨2, by decide⟩, [0.6], []⟩, none⟩, ⟨none, none⟩]⟩
    let yaml := doc.save .empty "out" "a.json" 7 .yaml
    let json := doc.save .empty "out" "a.yaml" 7 .json
    (yaml.2 = .ok ["out", "a.json_7.yaml"] ∧ load yaml.1 "out/a.json_7.yaml" = .ok doc) ∧
      json.2 = .ok ["out", "a.yaml_7.json"] ∧ load json.1 "out/a.yaml_7.json" = .ok doc := by
  intro doc yaml json
  have hshares : ∀ y ∈ doc.allShares, Share.Valid y := by decide +kernel
  have hvalid : doc.validate = .ok () := forM_checkShare_eq_ok_iff.mpr hshares
  have hloaded : ∀ {format basename name}, format.rereads doc.toTree = true →
      (doc.save .empty "out" basename 7 format).2.toOption = some ["out", name] →
      (doc.save .empty "out" basename 7 format).2 = .ok ["out", name] ∧
        load (doc.save .empty "out" basename 7 format).1 (Path.toString ["out", name]) = .ok doc := by
    intro format basename name hrereads hpath
    have hsaved : (doc.save .empty "out" basename 7 format).2 = .ok ["out", name] := by
      cases h : (doc.save .empty "out" basename 7 format).2 with
      | error e => rw [h] at hpath; cases hpath
      | ok path => rw [h] at hpath; rw [Option.some.inj hpath]
    obtain ⟨-, hload⟩ := load_save hvalid hrereads
    exact ⟨hsaved, (hload _ _ _ _ _ _ (Prod.ext rfl hsaved) _ (List.mem_cons_self ..)).2⟩
  exact ⟨hloaded (by decide +kernel) (by decide +kernel), hloaded (by decide +kernel) (by decide +kernel)⟩

end PolicyDocument

end RanSlicing
