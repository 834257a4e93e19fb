import RanSlicing.Proofs.Directions

/-!
# What an allocation leaves in a document

An allocation is written to a document or it is refused, and it is refused only for want of a scheduler or
for a share that is no part of a cell. What was written can be read back: both directions have its number of
slices, every slice that it names has its share and its cap, as far as the direction allows, and every other
slot reads as before, also where lists had to be made longer. In each direction one scheduler has changed, the
first one, and it kept its callback; the entries before it and behind it are what they were
(`PolicyDocument.applyAllocation_allocated`).

A direction of a document is the list of what its entries have there (`PolicyDocument.schedulers`). Both
directions together are the whole document, so what is said of them leaves nothing open.
-/

namespace RanSlicing.PolicyDocument

variable {α : Type} {d : Direction}

/-! ## The first scheduler of a direction -/

/-- A direction lacks a scheduler if no entry has one there. -/
theorem scheduler?_eq_none_iff {doc : PolicyDocument α} :
    doc.scheduler? d = none ↔ ∀ x ∈ doc.mac, x.get d = none :=
  List.findSome?_eq_none_iff

/-- Entries without a scheduler in a direction are passed over. -/
theorem modifyFirst_append {f : Scheduler α → Scheduler α} {before : List (PolicyEntry α)}
    (h : ∀ y ∈ before, y.get d = none) (rest : List (PolicyEntry α)) :
    modifyFirst d f (before ++ rest) = before ++ modifyFirst d f rest := by
  induction before with
  | nil => rfl
  | cons y before ih =>
    obtain ⟨hy, hbefore⟩ := List.forall_mem_cons.mp h
    rw [List.cons_append, modifyFirst_of_none hy, ih hbefore, List.cons_append]

/-- Changing the first scheduler of a direction leaves what stands before it and behind it. -/
theorem exists_map_get_modifyFirst {doc : PolicyDocument α} {p : Scheduler α}
    (h : doc.scheduler? d = some p) (f : Scheduler α → Scheduler α) :
    ∃ before after, (∀ q ∈ before, q = none) ∧ doc.schedulers d = before ++ some p :: after ∧
      (modifyFirst d f doc.mac).map (fun x => x.get d) = before ++ some (f p) :: after := by
  -- the scheduler that counts is the first of its direction
  obtain ⟨before, x, after, hmac, hx, hbefore⟩ := List.findSome?_eq_some_iff.mp h
  refine ⟨before.map fun y => y.get d, after.map fun y => y.get d, ?_, ?_, ?_⟩
  · exact List.forall_mem_map.mpr hbefore
  · rw [schedulers, hmac, List.map_append, List.map_cons, hx]
  · rw [hmac, modifyFirst_append hbefore, modifyFirst_of_some hx, List.map_append, List.map_cons,
      PerDirection.get_set_self]

/-! ## What can be read back -/

variable [Share α]

/-- `written` is `doc` with the allocation `a` in it, and nothing else is different. -/
structure Allocated (doc : PolicyDocument α) (a : CellAllocation α) (written : PolicyDocument α) : Prop where
  active : ∀ d, written.numSlices d = .ok a.numSlices
  share : ∀ x ∈ a.slices, ∀ d, written.sliceShare x.slice d = .ok (x.share.get d)
  cap : ∀ x ∈ a.slices, ∀ d, written.sliceCap x.slice d = .ok (min (x.maxMcs.get d) (Mcs.ceiling d))
  /-- a slot of a slice that the allocation does not name reads as before -/
  otherShare : ∀ s ∉ a.slices.map SliceAllocation.slice, ∀ d, written.sliceShare s d = doc.sliceShare s d
  otherCap : ∀ s ∉ a.slices.map SliceAllocation.slice, ∀ d, written.sliceCap s d = doc.sliceCap s d
  /-- of a direction only the first scheduler has changed, and it kept its callback -/
  frame : ∀ d, ∃ before p p' after, (∀ q ∈ before, q = none) ∧
    doc.schedulers d = before ++ some p :: after ∧
    written.schedulers d = before ++ some p' :: after ∧ p'.behaviour = p.behaviour

/-- An allocation that could be written is in the document. That it names no slice twice is needed for its
slices only: of two shares for one slice the later would be read. -/
theorem allocated_of_applyAllocation {doc written : PolicyDocument α} {a : CellAllocation α}
    (hnodup : (a.slices.map SliceAllocation.slice).Nodup) (h : doc.applyAllocation a = .ok written) :
    Allocated doc a written := by
  have hactive := numSlices_of_applyAllocation h
  obtain ⟨hsome, -, rfl⟩ := applyAllocation_eq_ok_iff.mp h
  have hread : ∀ d, ∃ p, doc.scheduler? d = some p ∧
      (doc.withAllocation a).scheduler d = .ok (p.write d a) := by
    intro d
    obtain ⟨p, hp⟩ := Option.ne_none_iff_exists'.mp (hsome d)
    refine ⟨p, hp, ?_⟩
    rw [scheduler_withAllocation, scheduler, hp]
    rfl
  refine ⟨hactive, fun x hx d => ?_, fun x hx d => ?_, fun s hs d => ?_, fun s hs d => ?_, fun d => ?_⟩
  · obtain ⟨p, -, hp⟩ := hread d
    rw [sliceShare, hp]
    exact congrArg Except.ok (Scheduler.share_write_of_mem hnodup hx p d)
  · obtain ⟨p, -, hp⟩ := hread d
    rw [sliceCap, hp]
    exact congrArg Except.ok (Scheduler.cap_write_of_mem hnodup hx p d)
  · exact map_scheduler_withAllocation (fun p => Scheduler.share_write_of_notMem hs p d) doc
  · exact map_scheduler_withAllocation (fun p => Scheduler.cap_write_of_notMem hs p d) doc
  · obtain ⟨p, hp, -⟩ := hread d
    obtain ⟨before, after, hbefore, hdoc, hwritten⟩ :=
      exists_map_get_modifyFirst hp (Scheduler.write d a)
    refine ⟨before, p, p.write d a, after, hbefore, hdoc, ?_, Scheduler.behaviour_write p d a⟩
    rw [schedulers_withAllocation, hwritten]

/-- **What writing an allocation does.** An allocation that names no slice twice is refused exactly if the
document has no scheduler in some direction, or the share of some slice is no part of a cell. Otherwise it can
be read back slice by slice, and nothing else in the document is different. -/
theorem applyAllocation_allocated (doc : PolicyDocument α) {a : CellAllocation α}
    (hnodup : (a.slices.map SliceAllocation.slice).Nodup) :
    ((∃ e, doc.applyAllocation a = .error e) ↔
      (∃ d, ∀ x ∈ doc.mac, x.get d = none) ∨ ∃ x ∈ a.slices, ∃ d, ¬ Share.Valid (x.share.get d)) ∧
      ∀ written, doc.applyAllocation a = .ok written → Allocated doc a written := by
  refine ⟨⟨?_, ?_⟩, fun written => allocated_of_applyAllocation hnodup⟩
  · rintro ⟨e, he⟩
    rcases doc.applyAllocation_cases a with ⟨d, hnone, -⟩ | ⟨d, x, hx, hv, -⟩ | ⟨-, -, hok⟩
    · exact .inl ⟨d, scheduler?_eq_none_iff.mp hnone⟩
    · exact .inr ⟨x, hx, d, hv⟩
    · rw [hok] at he
      cases he
  · intro h
    cases hw : doc.applyAllocation a with
    | error e => exact ⟨e, rfl⟩
    | ok written =>
      obtain ⟨hsome, hvalid, -⟩ := applyAllocation_eq_ok_iff.mp hw
      rcases h with ⟨d, hnone⟩ | ⟨x, hx, d, hv⟩
      · exact absurd (scheduler?_eq_none_iff.mpr hnone) (hsome d)
      · exact absurd (hvalid x hx d) hv

/-- An allocation of the slices 3 and 1 is written to a document with two downlink schedulers, whose lists are
shorter than that. The lists of the first grow, the slots between are read as before, and the uplink cap stops
at its ceiling. -/
theorem applyAllocation_allocated_short_lists :
    let doc : PolicyDocument Float :=
      ⟨[⟨none, some ⟨none, ⟨1, by decide⟩, [], []⟩⟩, ⟨some ⟨some "first", ⟨1, by decide⟩, [1], []⟩, none⟩,
        ⟨some ⟨some "second", ⟨2, by decide⟩, [0.5], []⟩, none⟩]⟩
    let caps : PerDirection Mcs := ⟨⟨20, by decide⟩, ⟨20, by decide⟩⟩
    let a : CellAllocation Float := ⟨0, 7, ⟨2, by decide⟩,
      [⟨⟨3, by decide⟩, ⟨0.25, 0.5⟩, ⟨0, 0⟩, caps⟩, ⟨⟨1, by decide⟩, ⟨0.75, 0.5⟩, ⟨0, 0⟩, caps⟩]⟩
    (a.slices.map SliceAllocation.slice).Nodup ∧ ∃ written, doc.applyAllocation a = .ok written ∧
      doc.Allocated a written ∧
      written.sliceShare ⟨3, by decide⟩ .dl = .ok 0.25 ∧ written.sliceShare ⟨2, by decide⟩ .dl = .ok 0 ∧
      written.sliceShare ⟨0, by decide⟩ .dl = .ok 1 ∧
      written.sliceCap ⟨1, by decide⟩ .dl = .ok ⟨20, by decide⟩ ∧
      written.sliceCap ⟨1, by decide⟩ .ul = .ok ⟨16, by decide⟩ := by
  intro doc caps a
  have hnodup : (a.slices.map SliceAllocation.slice).Nodup := by decide
  have hschedulers : ∀ d, doc.scheduler? d ≠ none := by
    rintro (_ | _) <;> exact Option.some_ne_none _
  have hvalid : ∀ x ∈ a.slices, ∀ d ∈ Direction.all, Share.Valid (x.share.get d) := by decide +kernel
  have hwritten := applyAllocation_of_valid hschedulers
    (fun x hx d => hvalid x hx d (by cases d <;> decide))
  have h := (applyAllocation_allocated doc hnodup).2 _ hwritten
  exact ⟨hnodup, _, hwritten, h, h.share _ (List.mem_cons_self ..) .dl, h.otherShare _ (by decide) .dl,
    h.otherShare _ (by decide) .dl, h.cap _ (List.mem_cons_of_mem _ (List.mem_cons_self ..)) .dl,
    h.cap _ (List.mem_cons_of_mem _ (List.mem_cons_self ..)) .ul⟩

end RanSlicing.PolicyDocument
