import RanSlicing.Proofs.CycleReport
import RanSlicing.Proofs.EffectivePolicy

/-!
# What a run may change in a policy

A policy in effect is the template with the schedulers that count rewritten: their numbers of slices, shares
and caps, and nothing else. Of the slots only those are written that an accepted push covered, so every slot
behind the largest number of slices that was ever accepted reads as in the template, however long the lists
have become. And every share that a policy carries was checked on its way in, so it stays a valid document.

The invariant is `PolicyDocument.Within`, relative to the numbers of slices of the pushes that were accepted
so far (`ControlLoop.acceptedCounts`). One accepted allocation keeps it (`PolicyDocument.Within.applyAllocation`),
and nothing else changes a policy.
-/

namespace RanSlicing

variable {α : Type}

/-! ## Rewriting the schedulers that count -/

namespace PolicyDocument

/-- Changes the scheduler that counts in each direction. -/
def modifyBoth (f : Direction → Scheduler α → Scheduler α) (doc : PolicyDocument α) : PolicyDocument α :=
  ⟨modifyFirst .ul (f .ul) (modifyFirst .dl (f .dl) doc.mac)⟩

/-- Two changes of both schedulers are one. -/
theorem modifyBoth_modifyBoth (f g : Direction → Scheduler α → Scheduler α) (doc : PolicyDocument α) :
    modifyBoth g (modifyBoth f doc) = modifyBoth (fun d p => g d (f d p)) doc := by
  simp only [modifyBoth]
  rw [modifyFirst_comm (by decide : Direction.dl ≠ .ul), modifyFirst_modifyFirst,
    modifyFirst_modifyFirst]

/-- Changing nothing in both schedulers is no change. -/
theorem modifyBoth_id (doc : PolicyDocument α) : modifyBoth (fun _ p => p) doc = doc := by
  simp only [modifyBoth, modifyFirst_id]

variable [Share α]

/-! ## One allocation -/

/-- What pushes for some numbers of slices, the last of them at the end, can have made of a template. -/
structure Within (template : PolicyDocument α) (counts : List SliceCount) (doc : PolicyDocument α) :
    Prop where
  valid : doc.validate = .ok ()
  /-- only the schedulers that count differ, and these keep their callbacks -/
  rewritten : ∃ f : Direction → Scheduler α → Scheduler α,
    (∀ d p, (f d p).behaviour = p.behaviour) ∧ doc = template.modifyBoth f
  /-- a slot that no push covered reads as before -/
  share : ∀ d (s : SliceId), (∀ n ∈ counts, n.val ≤ s.val) →
    doc.sliceShare s d = template.sliceShare s d
  cap : ∀ d (s : SliceId), (∀ n ∈ counts, n.val ≤ s.val) → doc.sliceCap s d = template.sliceCap s d
  active : ∀ n, counts.getLast? = some n → ∀ d, doc.numSlices d = .ok n

/-- A template is within what no push can have made of it. -/
theorem Within.refl {template : PolicyDocument α} (h : template.validate = .ok ()) :
    template.Within [] template where
  valid := h
  rewritten := ⟨fun _ p => p, fun _ _ => rfl, (modifyBoth_id template).symm⟩
  share _ _ _ := rfl
  cap _ _ _ := rfl
  active _ h := nomatch h

/-- Writing an allocation is one change of both schedulers. -/
theorem withAllocation_eq_modifyBoth (doc : PolicyDocument α) (a : CellAllocation α) :
    doc.withAllocation a = doc.modifyBoth (fun d => Scheduler.write d a) := rfl

/-- An allocation that covers the slices below its number writes no share but its own. -/
theorem validate_withAllocation {doc : PolicyDocument α} {a : CellAllocation α}
    (hdoc : doc.validate = .ok ()) (ha : ∀ x ∈ a.slices, ∀ d, Share.Valid (x.share.get d))
    (hslices : a.slices.map SliceAllocation.slice = a.numSlices.slices) :
    (doc.withAllocation a).validate = .ok () := by
  have hslots : a.slices.map (fun x => x.slice.val) = List.range' 0 a.slices.length := by
    have hmap := congrArg (List.map Bounded.val) hslices
    rw [List.map_map, SliceCount.map_val_slices, ← SliceCount.length_slices, ← hslices,
      List.length_map, List.range_eq_range'] at hmap
    exact hmap
  have hwrite : ∀ d (p : Scheduler α), (∀ y ∈ p.shares, Share.Valid y) →
      ∀ y ∈ (p.write d a).shares, Share.Valid y := by
    intro d p hp y hy
    rcases Scheduler.mem_shares_foldl_writeSlice d a.slices 0 _ hslots (Nat.zero_le _) hy with
      hy | ⟨x, hx, rfl⟩
    · exact hp y hy
    · exact ha x hx d
  rw [validate_eq_ok_iff] at hdoc ⊢
  exact forall_modifyFirst (hwrite .ul) (forall_modifyFirst (hwrite .dl) hdoc)

/-- An allocation that could be written is one more number of slices. -/
theorem Within.applyAllocation {template doc written : PolicyDocument α} {counts : List SliceCount}
    {a : CellAllocation α} (h : template.Within counts doc) (hwritten : doc.applyAllocation a = .ok written)
    (hslices : a.slices.map SliceAllocation.slice = a.numSlices.slices) :
    template.Within (counts ++ [a.numSlices]) written := by
  rcases doc.applyAllocation_cases a with ⟨_, -, herr⟩ | ⟨_, _, -, -, herr⟩ | ⟨-, hvalid, hok⟩
  · rw [herr] at hwritten
    cases hwritten
  · rw [herr] at hwritten
    cases hwritten
  obtain rfl := Except.ok.inj (hok.symm.trans hwritten)
  -- a slot that this push does not cover is none of the slots that it writes
  have hfree : ∀ s : SliceId, (∀ n ∈ counts ++ [a.numSlices], n.val ≤ s.val) →
      (∀ n ∈ counts, n.val ≤ s.val) ∧ s ∉ a.slices.map SliceAllocation.slice := by
    intro s hs
    refine ⟨fun n hn => hs n (List.mem_append_left _ hn), ?_⟩
    rw [hslices, SliceCount.mem_slices]
    exact Nat.not_lt.mpr (hs _ (List.mem_append_right _ (List.mem_singleton_self _)))
  refine ⟨validate_withAllocation h.valid hvalid hslices, ?_, fun d s hs => ?_, fun d s hs => ?_,
    fun n hn d => ?_⟩
  · obtain ⟨f, hf, hdoc⟩ := h.rewritten
    refine ⟨fun d p => (f d p).write d a, fun d p => ?_, ?_⟩
    · rw [Scheduler.behaviour_write, hf]
    · rw [withAllocation_eq_modifyBoth, hdoc, modifyBoth_modifyBoth]
  · obtain ⟨hbefore, hnew⟩ := hfree s hs
    rw [← h.share d s hbefore]
    exact map_scheduler_withAllocation (fun p => Scheduler.share_write_of_notMem hnew p d) doc
  · obtain ⟨hbefore, hnew⟩ := hfree s hs
    rw [← h.cap d s hbefore]
    exact map_scheduler_withAllocation (fun p => Scheduler.cap_write_of_notMem hnew p d) doc
  · rw [List.getLast?_concat, Option.some.injEq] at hn
    rw [numSlices_of_applyAllocation hok d, hn]

end PolicyDocument

/-! ## A run -/

namespace ControlLoop

open Exchange (acceptedAt)
open PolicyDocument (Within)

variable [Share α] {config : LoopConfig}

/-- The numbers of slices of the pushes to a base station that the controller accepted, in order. -/
def acceptedCounts (timeout : Millis) (b : BsId) (history : List (Turn × CycleResult α)) : List SliceCount :=
  history.flatMap fun e =>
    match e.2.report with
    | .ok report => (acceptedAt timeout e.1.push b e.2.exchanges).map fun _ => report.numSlices
    | .error _ => []

/-- All accepted pushes of a cycle are for the number of slices that it started with. -/
theorem acceptedCounts_step (l : ControlLoop α) (t : Turn) (b : BsId) :
    acceptedCounts config.timeout b [(t, (l.step config t).2)] =
      (acceptedAt config.timeout t.push b (l.step config t).2.exchanges).map fun _ => l.slicesIn t := by
  rw [acceptedCounts, List.flatMap_singleton]
  cases hr : t.report? config.timeout with
  | some r => rw [report_step hr]
  | none =>
    have hlog : l.cellLog config t = [] := by
      rw [cellLog, Turn.cells, hr, List.zip_nil_left]
    rw [exchanges_step, hlog]
    cases (l.step config t).2.report <;> rfl

/-- The step of a cell keeps a policy within what the pushes accepted so far can have made of the
template. -/
theorem within_enforceCell (answer : Push → Response Unit) {l : ControlLoop α} {c : CellStats}
    {planned : Except (ControlError α) (CellAllocation α)} {template : PolicyDocument α} {n : SliceCount}
    {counts : List SliceCount} {b : BsId} (hbsId : ∀ a, planned = .ok a → a.bsId = c.cell.bsId)
    (hslices : ∀ a, planned = .ok a →
      a.numSlices = n ∧ a.slices.map SliceAllocation.slice = n.slices)
    (h : template.Within counts (l.effective b)) :
    template.Within
      (counts ++ (acceptedAt config.timeout answer b
        (enforceCell config answer l c planned).2.exchange.toList).map fun _ => n)
      ((enforceCell config answer l c planned).1.effective b) := by
  rcases enforceCell_cases_at answer l hbsId b with
    ⟨hnone, hsame⟩ | ⟨a, doc, p, ha, hwritten, hdoc, hone, -⟩
  · rw [hnone, List.map_nil, List.append_nil, hsame]
    exact h
  · obtain ⟨rfl, hmap⟩ := hslices a ha
    rw [hone, hdoc]
    exact h.applyAllocation hwritten hmap

/-- So does a cycle. -/
theorem within_step {l : ControlLoop α} {template : PolicyDocument α} {counts : List SliceCount}
    {b : BsId} (h : template.Within counts (l.effective b)) (t : Turn) :
    template.Within (counts ++ acceptedCounts config.timeout b [(t, (l.step config t).2)])
      ((l.step config t).1.effective b) := by
  rw [acceptedCounts_step, exchanges_step]
  refine enforced_induct (P := fun l' done => template.Within
    (counts ++ (acceptedAt config.timeout t.push b (done.flatMap fun e => e.2.exchange.toList)).map
      fun _ => l.slicesIn t) (l'.effective b)) ?_ ?_
  · rw [effective_ready]
    exact (List.append_nil counts).symm ▸ h
  · intro l' done c _ hP
    rw [List.flatMap_append, List.flatMap_singleton, Exchange.acceptedAt_append, List.map_append,
      ← List.append_assoc]
    exact within_enforceCell t.push (fun _ => bsId_of_allocate) (fun _ => slices_of_allocate) hP

/-- **What a run may change in a policy.** Whatever the turns of a run are, a policy in effect is valid. It
is the template but for the numbers of slices, the shares and the caps of the schedulers that count, and of
those only the slots that an accepted push covered can have changed. Both directions have the number of slices
of the last push that was accepted. Whatever the controller refused, or took over too late, counts for nothing. -/
theorem within_after (config : LoopConfig) {template : PolicyDocument α} (hvalid : template.validate = .ok ())
    (count : SliceCount) (files : Files) (turns : List Turn) (b : BsId) (doc : PolicyDocument α)
    (hdoc : ((start template count files).after config turns).policy b = some doc) :
    template.Within (acceptedCounts config.timeout b ((start template count files).history config turns))
      doc := by
  have h : template.Within
      (acceptedCounts config.timeout b ((start template count files).history config turns))
      (((start template count files).after config turns).effective b) := by
    refine history_induct (P := fun l done => template.Within (acceptedCounts config.timeout b done)
      (l.effective b)) (fun l done t h => ?_) turns _ [] (Within.refl hvalid)
    rw [acceptedCounts, List.flatMap_append]
    exact within_step h t
  rw [effective, hdoc] at h
  exact h

/-- Three slices, then four that the controller refuses and afterwards takes over too late, and then one: both
directions are left with one slice, and the slots behind the third read as in the template. -/
theorem within_after_three_then_one :
    let config : LoopConfig := ⟨1000, 0, 5000, none, none⟩
    let template : PolicyDocument Float := .default
    let turns := [Turn.smooth [(1, 7)] 1,
      { Turn.refusing [(1, 8)] 1 with typed := [4] },
      { Turn.smooth [(1, 9)] 1 with push := fun _ => ⟨6000, .ok (), []⟩ },
      { Turn.smooth [(1, 10)] 1 with typed := [1] }]
    let l := start template ⟨3, by decide⟩ .empty
    template.validate = .ok () ∧
      acceptedCounts config.timeout 1 (l.history config turns) = [⟨3, by decide⟩, ⟨1, by decide⟩] ∧
      ∃ doc, (l.after config turns).policy 1 = some doc ∧ doc.validate = .ok () ∧
        (∀ d, doc.numSlices d = .ok ⟨1, by decide⟩) ∧
        ∀ d, ∀ s : SliceId, 3 ≤ s.val → doc.sliceShare s d = template.sliceShare s d := by
  intro config template turns l
  have hshares : ∀ y ∈ template.allShares, Share.Valid y := by decide +kernel
  have hvalid : template.validate = .ok () := PolicyDocument.forM_checkShare_eq_ok_iff.mpr hshares
  have hcounts : acceptedCounts config.timeout 1 (l.history config turns) =
      [⟨3, by decide⟩, ⟨1, by decide⟩] := by decide +kernel
  have hknown : ((l.after config turns).policy 1).isSome = true := by decide +kernel
  obtain ⟨doc, hdoc⟩ := Option.isSome_iff_exists.mp hknown
  have h := within_after config hvalid ⟨3, by decide⟩ .empty turns 1 doc hdoc
  rw [hcounts] at h
  refine ⟨hvalid, hcounts, doc, hdoc, h.valid, h.active _ rfl, fun d s hs => h.share d s ?_⟩
  rintro n (_ | ⟨_, _ | ⟨_, ⟨⟩⟩⟩)
  · exact hs
  · exact Nat.le_trans (by decide) hs

end ControlLoop

end RanSlicing
