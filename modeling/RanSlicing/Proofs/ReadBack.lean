import RanSlicing.Document.TreeSource
import RanSlicing.Document.Yaml.Source

/-!
# Documents that hold a tree

What a decoder gets out of a document depends only on the answers that the document gives. A document holds a
tree (`Source.holds`) if it gives the answers that the tree would: at a list the items, at a map the entries in
order, at a leaf its value. Nothing is said of how it is spelled, so the same decoder reads a tree back from
every format that can hold it (`Source.listOf?_of_holds`, `Source.record?_of_holds` and the lemmas about the
fields of a record).

Only the kinds of trees are covered that a policy is made of: lists, maps, texts, whole and real numbers.
-/

namespace RanSlicing

namespace Source

variable {ν α : Type} [Source ν α]

section

variable [DecidableEq α]

mutual

/-- Whether a document gives the answers of a tree. -/
def holds (v : ν) : Tree α → Bool
  | .int n => int? v == some n && (n < 0 || nat? v == some n.toNat)
  | .real x => real? v == some x
  | .text s => text? v == some s
  | .list ts => (list? v).any fun vs => holdsItems vs ts
  | .map es => (entries? v).any fun fs => holdsEntries fs es
  | _ => false

/-- Whether the items of a list give the answers of the items of a tree. -/
def holdsItems : List ν → List (Tree α) → Bool
  | [], [] => true
  | v :: vs, t :: ts => holds v t && holdsItems vs ts
  | _, _ => false

/-- Whether the entries of a map give the answers of the entries of a tree, also when they are asked whether
they are missing. -/
def holdsEntries : Fields ν → List (String × Tree α) → Bool
  | [], [] => true
  | (key, v) :: fs, (key', t) :: es =>
    key == key' && holds v t && (option? v).any (·.any fun w => holds w t) && holdsEntries fs es
  | _, _ => false

end

variable {v : ν} {β : Type}

/-! ## Leaves -/

theorem real?_of_holds {x : α} (h : holds v (.real x) = true) : real? v = some x := by
  simpa [holds] using h

theorem text?_of_holds {s : String} (h : holds v (.text s) = true) : text? v = some s := by
  simpa [holds] using h

/-- A value of a bounded quantity is accepted again. -/
theorem bounded?_of_holds {q : Quantity} {b : Bounded q} (h : holds v (.nat b.val) = true) :
    bounded? q v = some b := by
  have hnat : nat? v = some b.val := by
    simp only [Tree.nat, holds, Bool.and_eq_true, Bool.or_eq_true, decide_eq_true_eq, beq_iff_eq] at h
    exact h.2.resolve_left (by omega)
  rw [bounded?, hnat, Option.bind_some, Bounded.ofNat_val]
  rfl

/-! ## Lists -/

theorem mapM_of_holdsItems {read : ν → Option β} {toTree : β → Tree α} {xs : List β} {vs : List ν}
    (h : holdsItems vs (xs.map toTree) = true)
    (hread : ∀ x ∈ xs, ∀ w, holds w (toTree x) = true → read w = some x) : vs.mapM read = some xs := by
  induction xs generalizing vs with
  | nil =>
    cases vs with
    | nil => rfl
    | cons w ws => cases h
  | cons x rest ih =>
    cases vs with
    | nil => cases h
    | cons w ws =>
      obtain ⟨hx, hrest⟩ := List.forall_mem_cons.mp hread
      simp only [List.map_cons, holdsItems, Bool.and_eq_true] at h
      rw [List.mapM_cons, hx w h.1, ih h.2 hrest]
      rfl

/-- A list reads back if each of its items does. -/
theorem listOf?_of_holds {read : ν → Option β} {toTree : β → Tree α} {xs : List β}
    (h : holds v (.list (xs.map toTree)) = true)
    (hread : ∀ x ∈ xs, ∀ w, holds w (toTree x) = true → read w = some x) : listOf? read v = some xs := by
  rw [holds, Option.any_eq_true] at h
  obtain ⟨vs, hvs, hitems⟩ := h
  rw [listOf?, hvs, Option.bind_some]
  exact mapM_of_holdsItems hitems hread

/-! ## Records -/

/-- A source that reads the records with given names out of the entries of its maps. -/
class LawfulRecords (ν : Type) {α : Type} [Source ν α] : Prop where
  record?_of_entries? : ∀ {v : ν} {fs : Fields ν}, entries? v = some fs →
    ∀ names, record? names v = Fields.ofEntries? names fs

instance : LawfulRecords (Tree Float) where
  record?_of_entries? := by
    intro v fs h names
    cases v with
    | map es => cases h; rfl
    | _ => cases h

instance : LawfulRecords Yaml.Document where
  record?_of_entries? := by
    intro d fs h names
    change (d.entries?.bind (Fields.ofEntries? names)) = _
    rw [show d.entries? = some fs from h, Option.bind_some]

variable {fs : Fields ν} {es : List (String × Tree α)} {t : Tree α} {name : String}

/-- The entries of a map bear the keys of the tree. -/
theorem map_fst_of_holdsEntries (h : holdsEntries fs es = true) : fs.map Prod.fst = es.map Prod.fst := by
  induction es generalizing fs with
  | nil =>
    cases fs with
    | nil => rfl
    | cons f rest => cases h
  | cons e rest ih =>
    cases fs with
    | nil => cases h
    | cons f more =>
      simp only [holdsEntries, Bool.and_eq_true, beq_iff_eq] at h
      rw [List.map_cons, List.map_cons, ih h.2, h.1.1.1]

/-- A map is read as a record that knows all its keys. -/
theorem record?_of_holds [LawfulRecords ν] (names : List String) (h : holds v (.map es) = true)
    (hnames : ∀ key ∈ es.map Prod.fst, key ∈ names) (hnodup : (es.map Prod.fst).Nodup) :
    ∃ fs, record? names v = some fs ∧ holdsEntries fs es = true := by
  rw [holds, Option.any_eq_true] at h
  obtain ⟨fs, hfs, hholds⟩ := h
  refine ⟨fs, ?_, hholds⟩
  have hkeys := map_fst_of_holdsEntries hholds
  have hknown : fs.filter (fun e => names.contains e.1) = fs := by
    refine List.filter_eq_self.mpr fun e he => List.contains_iff_mem.mpr (hnames _ ?_)
    rw [← hkeys]
    exact List.mem_map_of_mem he
  rw [LawfulRecords.record?_of_entries? hfs, Fields.ofEntries?, hknown, hkeys, if_pos hnodup]

/-- An entry of the tree is an entry of the map, and there is none without. -/
theorem lookup_of_holdsEntries (h : holdsEntries fs es = true) (name : String) :
    (es.lookup name = none ∧ fs.lookup name = none) ∨
      ∃ t w w', es.lookup name = some t ∧ fs.lookup name = some w ∧ option? w = some (some w') ∧
        holds w t = true ∧ holds w' t = true := by
  induction es generalizing fs with
  | nil =>
    cases fs with
    | nil => exact .inl ⟨rfl, rfl⟩
    | cons f rest => cases h
  | cons e rest ih =>
    cases fs with
    | nil => cases h
    | cons f more =>
      obtain ⟨key, w⟩ := f
      obtain ⟨key', t⟩ := e
      simp only [holdsEntries, Bool.and_eq_true, beq_iff_eq, Option.any_eq_true] at h
      obtain ⟨⟨⟨rfl, hw⟩, _, hopt, w', rfl, hw'⟩, hrest⟩ := h
      by_cases hname : name = key
      · rw [hname]
        exact .inr ⟨t, w, w', List.lookup_cons_self, List.lookup_cons_self, hopt, hw, hw'⟩
      · rw [List.lookup_cons, List.lookup_cons, beq_eq_false_iff_ne.mpr hname]
        exact ih hrest

/-- A field that must be there reads back. -/
theorem required_of_holds {read : ν → Option β} {b : β} (h : holdsEntries fs es = true)
    (hname : es.lookup name = some t) (hread : ∀ w, holds w t = true → read w = some b) :
    fs.required name read = some b := by
  rcases lookup_of_holdsEntries h name with ⟨hnone, -⟩ | ⟨t', w, _, ht', hw, -, hholds, -⟩
  · rw [hname] at hnone
    cases hnone
  · obtain rfl := Option.some.inj (hname.symm.trans ht')
    rw [Fields.required, hw, Option.bind_some, hread w hholds]

/-- A field that is written although it has a default reads back. -/
theorem withDefault_of_holds {read : ν → Option β} {b default : β} (h : holdsEntries fs es = true)
    (hname : es.lookup name = some t) (hread : ∀ w, holds w t = true → read w = some b) :
    fs.withDefault name default read = some b := by
  rcases lookup_of_holdsEntries h name with ⟨hnone, -⟩ | ⟨t', w, _, ht', hw, -, hholds, -⟩
  · rw [hname] at hnone
    cases hnone
  · obtain rfl := Option.some.inj (hname.symm.trans ht')
    rw [Fields.withDefault, hw]
    exact hread w hholds

/-- A field that is left out when its value is missing reads back. -/
theorem optional_of_holds {read : ν → Option β} (toTree : β → Tree α) {x : Option β}
    (h : holdsEntries fs es = true) (hname : es.lookup name = x.map toTree)
    (hread : ∀ b ∈ x, ∀ w, holds w (toTree b) = true → read w = some b) :
    fs.withDefault name none (optional? read) = some x := by
  rw [Fields.withDefault]
  rcases lookup_of_holdsEntries h name with ⟨hnone, hw⟩ | ⟨t, w, w', ht, hw, hopt, -, hholds⟩
  · rw [hw, Option.map_eq_none_iff.mp (hname.symm.trans hnone)]
  · obtain ⟨b, rfl, rfl⟩ := Option.map_eq_some_iff.mp (hname.symm.trans ht)
    rw [hw]
    simp only [optional?, hopt]
    rw [hread b rfl w' hholds, Option.map_some]

end

end Source

end RanSlicing
