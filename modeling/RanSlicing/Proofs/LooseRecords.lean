import RanSlicing.Document.TreeSource
import Mathlib.Data.List.Forall2
import Mathlib.Data.List.Nodup

/-!
# Records that are written loosely

A tree says of a record all that there is to say, each field once and in order. What others write may say more
and less: entries that no field bears the name of, no entry for a field that has its default, and all of it in any
order. `Tree.LooseRecord` relates the two.

A decoder is not misled by this. It finds each field with what was written for it, or it does not find it, and
then the field had its default (`Tree.LooseRecord.exists_fields`). A reader that gets values back from whatever
may be written for them is called tolerant (`Tree.Tolerant`): lists and records are read tolerantly if their items
and fields are (`Tree.Tolerant.list`, `Tree.Found.required`, `Tree.Found.withDefault`).
-/

namespace RanSlicing.Tree

variable {α : Type}

/-! ## Loose writing -/

/-- How the field of a record may be written. -/
structure LooseField (α : Type) where
  /-- what may be written for a value -/
  written : Tree α → Tree α → Prop
  /-- the value that may be left out -/
  default : Option (Tree α)

/-- Entries that may be written for those of a record with some fields, in the same order. -/
inductive LooseEntries (fields : Fields (LooseField α)) : Fields (Tree α) → Fields (Tree α) → Prop
  | nil : LooseEntries fields [] []
  /-- a field is written -/
  | keep {key : String} {f : LooseField α} {t u : Tree α} {es us : Fields (Tree α)}
      (hf : fields.lookup key = some f) (h : f.written t u) (rest : LooseEntries fields es us) :
      LooseEntries fields ((key, t) :: es) ((key, u) :: us)
  /-- a field that has its default is left out -/
  | remove {key : String} {f : LooseField α} {t : Tree α} {es us : Fields (Tree α)}
      (hf : fields.lookup key = some f) (h : f.default = some t) (rest : LooseEntries fields es us) :
      LooseEntries fields ((key, t) :: es) us
  /-- anything is written under a name that no field has -/
  | insert {key : String} {u : Tree α} {es us : Fields (Tree α)} (hkey : key ∉ fields.map Prod.fst)
      (rest : LooseEntries fields es us) : LooseEntries fields es ((key, u) :: us)

/-- What may be written for a record with some fields: a map of such entries, in any order. -/
inductive LooseRecord (fields : Fields (LooseField α)) : Tree α → Tree α → Prop
  | mk {es us vs : Fields (Tree α)} (h : LooseEntries fields es us) (hperm : us.Perm vs) :
      LooseRecord fields (.map es) (.map vs)

/-- What may be written for a list whose items may be written loosely. -/
inductive LooseList (written : Tree α → Tree α → Prop) : Tree α → Tree α → Prop
  | mk {ts us : List (Tree α)} (h : List.Forall₂ written ts us) : LooseList written (.list ts) (.list us)

/-- What may be written for a record that may be missing. -/
inductive LooseOption (written : Tree α → Tree α → Prop) : Tree α → Tree α → Prop
  | null : LooseOption written .null .null
  | record {es us : Fields (Tree α)} (h : written (.map es) (.map us)) : LooseOption written (.map es) (.map us)

/-! ## Tolerant readers -/

/-- A reader that gets every value back from whatever may be written for it. -/
structure Tolerant {β : Type} (written : Tree α → Tree α → Prop) (toTree : β → Tree α)
    (read : Tree α → Option β) : Prop where
  /-- a value may be written as it is -/
  refl : ∀ b, written (toTree b) (toTree b)
  read_eq : ∀ b u, written (toTree b) u → read u = some b

section

variable {β : Type} {written : Tree α → Tree α → Prop} {toTree : β → Tree α} {read : Tree α → Option β}

/-- What has to be written as it is only needs a reader that undoes the writer. -/
theorem Tolerant.leaf (h : ∀ b, read (toTree b) = some b) : Tolerant Eq toTree read where
  refl _ := rfl
  read_eq b _ hu := hu ▸ h b

theorem mapM_of_forall₂ (h : Tolerant written toTree read) {xs : List β} {us : List (Tree α)}
    (hus : List.Forall₂ written (xs.map toTree) us) : us.mapM read = some xs := by
  induction xs generalizing us with
  | nil => cases hus; rfl
  | cons x rest ih =>
    obtain _ | ⟨hx, hrest⟩ := hus
    rw [List.mapM_cons, h.read_eq x _ hx, ih hrest]
    rfl

variable [Share α]

/-- A list reads back if its items do. -/
theorem Tolerant.list (h : Tolerant written toTree read) :
    Tolerant (LooseList written) (fun xs => .list (xs.map toTree)) (Source.listOf? read) where
  refl xs := by
    refine .mk (List.forall₂_same.mpr fun t ht => ?_)
    obtain ⟨x, -, rfl⟩ := List.mem_map.mp ht
    exact h.refl x
  read_eq xs u hu := by
    obtain ⟨hus⟩ := hu
    exact mapM_of_forall₂ h hus

/-- A record that may be missing reads back if it does when it is there. -/
theorem Tolerant.option (h : Tolerant written toTree read) (hmap : ∀ b, ∃ es, toTree b = .map es) :
    Tolerant (LooseOption written) (.option toTree) (Source.optional? read) where
  refl x := by
    cases x with
    | none => exact .null
    | some b =>
      obtain ⟨es, hes⟩ := hmap b
      have hb := h.refl b
      rw [hes] at hb
      rw [Tree.option, hes]
      exact .record hb
  read_eq x u hu := by
    cases x with
    | none => cases hu; rfl
    | some b =>
      obtain ⟨es, hes⟩ := hmap b
      have hb := h.read_eq b
      rw [hes] at hb
      rw [Tree.option, hes] at hu
      obtain _ | ⟨hwritten⟩ := hu
      exact congrArg (Option.map some) (hb _ hwritten)

end

/-! ## Keys -/

section

variable {β : Type} {fs : Fields β} {key : String} {b : β}

/-- The entry under a key that is there only once is found. -/
theorem lookup_of_mem (hnodup : (fs.map Prod.fst).Nodup) (h : (key, b) ∈ fs) : fs.lookup key = some b := by
  obtain ⟨before, after, rfl⟩ := List.append_of_mem h
  refine List.lookup_eq_some_iff.mpr ⟨before, after, rfl, fun e he => ?_⟩
  rw [List.map_append, List.map_cons] at hnodup
  have hne : e.1 ≠ key := fun heq =>
    List.disjoint_of_nodup_append hnodup (List.mem_map_of_mem he) (heq ▸ List.mem_cons_self ..)
  simpa using hne.symm

theorem mem_of_lookup (h : fs.lookup key = some b) : (key, b) ∈ fs := by
  obtain ⟨before, after, rfl, -⟩ := List.lookup_eq_some_iff.mp h
  exact List.mem_append_right _ (List.mem_cons_self ..)

theorem mem_keys_of_lookup (h : fs.lookup key = some b) : key ∈ fs.map Prod.fst :=
  List.mem_map_of_mem (mem_of_lookup h)

theorem lookup_of_notMem (h : key ∉ fs.map Prod.fst) : fs.lookup key = none := by
  refine List.lookup_eq_none_iff.mpr fun e he => ?_
  have hne : key ≠ e.1 := fun heq => h (heq ▸ List.mem_map_of_mem he)
  simpa using hne

end

/-! ## What a decoder finds -/

variable {fields : Fields (LooseField α)} {es us fs : Fields (Tree α)}

/-- The entries that bear the names of fields are some of those of the record. -/
theorem LooseEntries.sublist (h : LooseEntries fields es us) :
    ((us.filter fun e => (fields.map Prod.fst).contains e.1).map Prod.fst).Sublist (es.map Prod.fst) := by
  induction h with
  | nil => exact .refl _
  | keep hf _ _ ih => simpa [mem_keys_of_lookup hf] using ih
  | remove _ _ _ ih => exact ih.cons _
  | insert hkey _ ih => simpa [hkey] using ih

/-- A field that the record does not have is not written either. -/
theorem LooseEntries.notMem (h : LooseEntries fields es us) {key : String} {f : LooseField α}
    (hf : fields.lookup key = some f) (hkey : key ∉ es.map Prod.fst) : key ∉ us.map Prod.fst := by
  intro hmem
  obtain ⟨e, he, rfl⟩ := List.mem_map.mp hmem
  have hknown : e ∈ us.filter fun e => (fields.map Prod.fst).contains e.1 :=
    List.mem_filter.mpr ⟨he, List.contains_iff_mem.mpr (mem_keys_of_lookup hf)⟩
  exact hkey (h.sublist.subset (List.mem_map_of_mem hknown))

/-- A field of a record stands among some entries, or it has its default and is left out. -/
def LooseField.StandsIn (f : LooseField α) (key : String) (t : Tree α) (us : Fields (Tree α)) : Prop :=
  (∃ u, (key, u) ∈ us ∧ f.written t u) ∨ key ∉ us.map Prod.fst ∧ f.default = some t

theorem LooseField.StandsIn.cons {f : LooseField α} {key key' : String} {t u : Tree α}
    (h : f.StandsIn key t us) (hne : key ≠ key') : f.StandsIn key t ((key', u) :: us) := by
  rcases h with ⟨v, hv, hwritten⟩ | ⟨hnot, hdefault⟩
  · exact .inl ⟨v, List.mem_cons_of_mem _ hv, hwritten⟩
  · exact .inr ⟨List.not_mem_cons_of_ne_of_not_mem hne hnot, hdefault⟩

/-- Every field of the record stands among the entries that are written for it, unless it is left out. -/
theorem LooseEntries.standsIn (h : LooseEntries fields es us) (hnodup : (es.map Prod.fst).Nodup)
    {key : String} {f : LooseField α} {t : Tree α} (hf : fields.lookup key = some f) (ht : (key, t) ∈ es) :
    f.StandsIn key t us := by
  induction h with
  | nil => cases ht
  | @keep key' _ _ u' es _ hf' hwritten _ ih =>
    rw [List.map_cons, List.nodup_cons] at hnodup
    rcases List.mem_cons.mp ht with heq | ht
    · obtain ⟨rfl, rfl⟩ := Prod.mk.inj heq
      obtain rfl := Option.some.inj (hf.symm.trans hf')
      exact .inl ⟨u', List.mem_cons_self .., hwritten⟩
    · have hmem : key ∈ es.map Prod.fst := List.mem_map_of_mem (f := Prod.fst) ht
      exact (ih hnodup.2 ht).cons fun heq => hnodup.1 (heq ▸ hmem)
  | remove hf' hdefault hrest ih =>
    rw [List.map_cons, List.nodup_cons] at hnodup
    rcases List.mem_cons.mp ht with heq | ht
    · obtain ⟨rfl, rfl⟩ := Prod.mk.inj heq
      obtain rfl := Option.some.inj (hf.symm.trans hf')
      exact .inr ⟨hrest.notMem hf hnodup.1, hdefault⟩
    · exact ih hnodup.2 ht
  | insert hkey _ ih => exact (ih hnodup ht).cons fun heq => hkey (heq ▸ mem_keys_of_lookup hf)

/-- What a decoder finds of a record with some fields: each field with what was written for it, unless it has its
default and was left out. -/
def Found (fields : Fields (LooseField α)) (es fs : Fields (Tree α)) : Prop :=
  ∀ {key f t}, fields.lookup key = some f → es.lookup key = some t →
    (∃ u, fs.lookup key = some u ∧ f.written t u) ∨ fs.lookup key = none ∧ f.default = some t

/-- **Loose writing does not mislead.** A record that is written loosely is read as a record, and what is found of
it is what was written. -/
theorem LooseRecord.exists_fields [Share α] {u : Tree α} (names : List String)
    (h : LooseRecord fields (.map es) u) (hnames : fields.map Prod.fst = names)
    (hnodup : (es.map Prod.fst).Nodup) :
    ∃ fs, Source.record? names u = some fs ∧ Found fields es fs := by
  obtain ⟨hentries, hperm⟩ := h
  rename_i us vs
  let known : Fields (Tree α) → Fields (Tree α) := fun es => es.filter fun e => names.contains e.1
  have hkeys : ((known us).map Prod.fst).Sublist (es.map Prod.fst) := by
    simpa only [hnames] using hentries.sublist
  have hvs : ((known vs).map Prod.fst).Nodup :=
    ((hperm.filter _).map Prod.fst).nodup_iff.mp (hnodup.sublist hkeys)
  refine ⟨known vs, if_pos hvs, fun {key f t} hf ht => ?_⟩
  have hname : names.contains key = true := by
    rw [← hnames]
    exact List.contains_iff_mem.mpr (mem_keys_of_lookup hf)
  rcases hentries.standsIn hnodup hf (mem_of_lookup ht) with ⟨u, hu, hwritten⟩ | ⟨hnot, hdefault⟩
  · have hmem : (key, u) ∈ known vs := List.mem_filter.mpr ⟨hperm.mem_iff.mp hu, hname⟩
    exact .inl ⟨u, lookup_of_mem hvs hmem, hwritten⟩
  · refine .inr ⟨lookup_of_notMem fun hmem => hnot ?_, hdefault⟩
    obtain ⟨e, he, rfl⟩ := List.mem_map.mp hmem
    exact List.mem_map_of_mem (hperm.mem_iff.mpr (List.mem_filter.mp he).1)

namespace Found

variable {β : Type} {written : Tree α → Tree α → Prop} {toTree : β → Tree α} {read : Tree α → Option β}
  {key : String} {b default : β}

/-- A field that must be there reads back. -/
theorem required (h : Found fields es fs) (hread : Tolerant written toTree read)
    (hf : fields.lookup key = some ⟨written, none⟩) (hb : es.lookup key = some (toTree b)) :
    fs.required key read = some b := by
  rcases h hf hb with ⟨u, hu, hwritten⟩ | ⟨-, hdefault⟩
  · rw [Fields.required, hu, Option.bind_some, hread.read_eq b u hwritten]
  · cases hdefault

/-- A field that may be left out at its default reads back. -/
theorem withDefault (h : Found fields es fs) (hread : Tolerant written toTree read)
    (hf : fields.lookup key = some ⟨written, some (toTree default)⟩)
    (hb : es.lookup key = some (toTree b)) : fs.withDefault key default read = some b := by
  rcases h hf hb with ⟨u, hu, hwritten⟩ | ⟨hnone, hdefault⟩
  · rw [Fields.withDefault, hu]
    exact hread.read_eq b u hwritten
  · -- the tree that was left out reads as the value and as the default
    have heq : toTree default = toTree b := Option.some.inj hdefault
    rw [Fields.withDefault, hnone, ← hread.read_eq default _ (hread.refl default), heq]
    exact hread.read_eq b _ (hread.refl b)

end Found

end RanSlicing.Tree
