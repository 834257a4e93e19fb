import RanSlicing.Policy.Document

/-!
# What is written to a policy

Writing an allocation to a document goes through many checked changes. Once all checks hold it is one
change to each direction: the scheduler that counts becomes `Scheduler.write`, and everything else
stays (`PolicyDocument.applyAllocation_cases`). What can stop it is a share that is no part of a
cell or a direction without a scheduler.

The lists of a scheduler are read through their slots. A slot that is written reads back what was
written and every other slot what it read before, also when the write made the list longer.
-/

namespace RanSlicing

variable {α : Type}

/-! ## Slots -/

namespace Scheduler

/-- Writing a slot shows at that slot only, whatever the length of the list was. -/
theorem getD_setSlot {β : Type} (pad : β) (xs : List β) (i j : Nat) (x : β) :
    ((setSlot pad xs i x)[j]?).getD pad = if j = i then x else (xs[j]?).getD pad := by
  rw [setSlot, List.getElem?_set]
  by_cases hj : j = i
  · subst hj
    rw [if_pos rfl, if_pos rfl, if_pos (by rw [List.length_append, List.length_replicate]; omega)]
    rfl
  · rw [if_neg (Ne.symm hj), if_neg hj, List.getElem?_append]
    split
    · rfl
    · -- a slot of the padding reads as the slot that was missing
      rw [List.getElem?_replicate, List.getElem?_eq_none (by omega : xs.length ≤ j)]
      split <;> rfl

/-- After a write a list holds what it held, what was written, and what slots are filled with. -/
theorem mem_setSlot {β : Type} {pad x y : β} {xs : List β} {i : Nat} (hy : y ∈ setSlot pad xs i x) :
    y ∈ xs ∨ y = pad ∨ y = x := by
  rcases List.mem_or_eq_of_mem_set hy with hy | rfl
  · rcases List.mem_append.mp hy with hy | hy
    · exact .inl hy
    · exact .inr (.inl (List.eq_of_mem_replicate hy))
  · exact .inr (.inr rfl)

/-- A slot that follows those of a list is written without filling any other. -/
theorem mem_setSlot_of_le {β : Type} {pad x y : β} {xs : List β} {i : Nat} (hi : i ≤ xs.length)
    (hy : y ∈ setSlot pad xs i x) : y ∈ xs ∨ y = x := by
  rw [setSlot] at hy
  rcases Nat.lt_or_eq_of_le hi with hlt | rfl
  · rw [Nat.sub_eq_zero_of_le hlt, List.replicate_zero, List.append_nil] at hy
    exact List.mem_or_eq_of_mem_set hy
  · rw [Nat.add_sub_cancel_left, List.set_append_right _ _ (Nat.le_refl _), Nat.sub_self] at hy
    exact (List.mem_append.mp hy).imp_right List.mem_singleton.mp

/-- A slot of the caps that is written reads back what was written, as far as its direction allows. -/
theorem cap_setCap (p : Scheduler α) (s s' : SliceId) (m : Mcs) (d : Direction) :
    (p.setCap s m d).cap s' d = if s' = s then min m (Mcs.ceiling d) else p.cap s' d := by
  rw [cap, cap, setCap, getD_setSlot]
  by_cases h : s' = s
  · rw [if_pos h, if_pos (congrArg Bounded.val h)]
  · rw [if_neg h, if_neg fun hv => h (Bounded.ext hv)]

variable [Share α]

@[simp] theorem cap_setShare (p : Scheduler α) (s s' : SliceId) (x : α) (d : Direction) :
    (p.setShare s x).cap s' d = p.cap s' d := rfl

@[simp] theorem share_setCap (p : Scheduler α) (s s' : SliceId) (m : Mcs) (d : Direction) :
    (p.setCap s m d).share s' = p.share s' := rfl

/-- A slot of the shares that is written reads back what was written. -/
theorem share_setShare (p : Scheduler α) (s s' : SliceId) (x : α) :
    (p.setShare s x).share s' = if s' = s then x else p.share s' := by
  rw [share, share, setShare, getD_setSlot]
  by_cases h : s' = s
  · rw [if_pos h, if_pos (congrArg Bounded.val h)]
  · rw [if_neg h, if_neg fun hv => h (Bounded.ext hv)]

/-- Writes what one slice gets in a direction. -/
def writeSlice (d : Direction) (p : Scheduler α) (a : SliceAllocation α) : Scheduler α :=
  (p.setShare a.slice (a.share.get d)).setCap a.slice (a.maxMcs.get d) d

/-- Writes what an allocation says about a direction. -/
def write (d : Direction) (a : CellAllocation α) (p : Scheduler α) : Scheduler α :=
  a.slices.foldl (writeSlice d) { p with activeSlices := a.numSlices }

/-- What a slice reads after one was written. -/
theorem share_writeSlice (d : Direction) (p : Scheduler α) (a : SliceAllocation α) (s : SliceId) :
    (p.writeSlice d a).share s = if s = a.slice then a.share.get d else p.share s := by
  rw [writeSlice, share_setCap, share_setShare]

/-- What no single slice changes, writing all of them does not change either. -/
theorem foldl_writeSlice_eq {β : Type} {φ : Scheduler α → β} {d : Direction}
    {xs : List (SliceAllocation α)} (h : ∀ p, ∀ x ∈ xs, φ (p.writeSlice d x) = φ p) (p : Scheduler α) :
    φ (xs.foldl (writeSlice d) p) = φ p := by
  induction xs generalizing p with
  | nil => rfl
  | cons x rest ih =>
    rw [List.foldl_cons, ih (fun p y hy => h p y (List.mem_cons_of_mem _ hy)),
      h p x (List.mem_cons_self ..)]

/-- What a slice reads of the caps after one was written. -/
theorem cap_writeSlice (d : Direction) (p : Scheduler α) (a : SliceAllocation α) (s : SliceId) :
    (p.writeSlice d a).cap s d =
      if s = a.slice then min (a.maxMcs.get d) (Mcs.ceiling d) else p.cap s d := by
  rw [writeSlice, cap_setCap, cap_setShare]

section

/- What is read at a slice by `φ`, and what writing a slice leaves there to be read. -/
variable {β : Type} {φ : Scheduler α → SliceId → β} {w : SliceAllocation α → β} {d : Direction}

/-- A slice that is not written reads as before. -/
theorem foldl_writeSlice_of_notMem
    (hφ : ∀ p x s, φ (p.writeSlice d x) s = if s = x.slice then w x else φ p s)
    {s : SliceId} {xs : List (SliceAllocation α)} (h : s ∉ xs.map SliceAllocation.slice)
    (p : Scheduler α) : φ (xs.foldl (writeSlice d) p) s = φ p s := by
  refine foldl_writeSlice_eq (φ := fun p => φ p s) (fun p x hx => ?_) p
  have hne : s ≠ x.slice := fun heq => h (heq ▸ List.mem_map_of_mem hx)
  rw [hφ, if_neg hne]

/-- A slice that is written once reads what was written. -/
theorem foldl_writeSlice_of_mem
    (hφ : ∀ p x s, φ (p.writeSlice d x) s = if s = x.slice then w x else φ p s)
    {x : SliceAllocation α} :
    ∀ (xs : List (SliceAllocation α)) (p : Scheduler α), (xs.map SliceAllocation.slice).Nodup →
      x ∈ xs → φ (xs.foldl (writeSlice d) p) x.slice = w x
  | y :: ys, p, hnd, hx => by
    rw [List.map_cons, List.nodup_cons] at hnd
    rw [List.foldl_cons]
    rcases List.mem_cons.mp hx with rfl | hx
    · rw [foldl_writeSlice_of_notMem hφ hnd.1, hφ, if_pos rfl]
    · exact foldl_writeSlice_of_mem hφ ys _ hnd.2 hx

end

/-- Writing an allocation keeps the caps of the slices that it does not name. -/
theorem cap_write_of_notMem {a : CellAllocation α} {s : SliceId}
    (hs : s ∉ a.slices.map SliceAllocation.slice) (p : Scheduler α) (d : Direction) :
    (p.write d a).cap s d = p.cap s d :=
  foldl_writeSlice_of_notMem (φ := fun p s => p.cap s d) (cap_writeSlice d) hs _

/-- Writing an allocation gives the slices that it names their caps, as far as the direction allows. -/
theorem cap_write_of_mem {a : CellAllocation α} (hnodup : (a.slices.map SliceAllocation.slice).Nodup)
    {x : SliceAllocation α} (hx : x ∈ a.slices) (p : Scheduler α) (d : Direction) :
    (p.write d a).cap x.slice d = min (x.maxMcs.get d) (Mcs.ceiling d) :=
  foldl_writeSlice_of_mem (φ := fun p s => p.cap s d) (cap_writeSlice d) a.slices _ hnodup hx

/-- Writing an allocation keeps the shares of the slices that it does not name. -/
theorem share_write_of_notMem {a : CellAllocation α} {s : SliceId}
    (hs : s ∉ a.slices.map SliceAllocation.slice) (p : Scheduler α) (d : Direction) :
    (p.write d a).share s = p.share s :=
  foldl_writeSlice_of_notMem (φ := share) (share_writeSlice d) hs _

/-- Writing an allocation gives the slices that it names their shares. -/
theorem share_write_of_mem {a : CellAllocation α}
    (hnodup : (a.slices.map SliceAllocation.slice).Nodup) {x : SliceAllocation α} (hx : x ∈ a.slices)
    (p : Scheduler α) (d : Direction) : (p.write d a).share x.slice = x.share.get d :=
  foldl_writeSlice_of_mem (φ := share) (share_writeSlice d) a.slices _ hnodup hx

/-- Writing an allocation keeps the callback. -/
@[simp] theorem behaviour_write (p : Scheduler α) (d : Direction) (a : CellAllocation α) :
    (p.write d a).behaviour = p.behaviour :=
  foldl_writeSlice_eq (φ := behaviour) (fun _ _ _ => rfl) _

/-- Writing an allocation sets the number of active slices. -/
@[simp] theorem activeSlices_write (p : Scheduler α) (d : Direction) (a : CellAllocation α) :
    (p.write d a).activeSlices = a.numSlices :=
  foldl_writeSlice_eq (φ := activeSlices) (fun _ _ _ => rfl) _

/-- Slots that are written one behind the other leave no slot to be filled: the shares afterwards are
those from before and those that were written. -/
theorem mem_shares_foldl_writeSlice (d : Direction) {y : α} :
    ∀ (xs : List (SliceAllocation α)) (k : Nat) (p : Scheduler α),
      xs.map (fun x => x.slice.val) = List.range' k xs.length → k ≤ p.shares.length →
      y ∈ (xs.foldl (writeSlice d) p).shares → y ∈ p.shares ∨ ∃ x ∈ xs, y = x.share.get d := by
  intro xs
  induction xs with
  | nil => exact fun _ _ _ _ hy => .inl hy
  | cons x rest ih =>
    intro k p hslots hk hy
    rw [List.map_cons, List.length_cons, List.range'_succ, List.cons.injEq] at hslots
    obtain ⟨hslot, hrest⟩ := hslots
    have hlength : k + 1 ≤ (p.writeSlice d x).shares.length := by
      change k + 1 ≤ (setSlot 0 p.shares x.slice.val (x.share.get d)).length
      rw [setSlot, List.length_set, List.length_append, List.length_replicate, hslot]
      omega
    rcases ih (k + 1) _ hrest hlength hy with hy | ⟨x', hx', rfl⟩
    · change y ∈ setSlot 0 p.shares x.slice.val (x.share.get d) at hy
      rcases mem_setSlot_of_le (hslot ▸ hk) hy with hy | rfl
      · exact .inl hy
      · exact .inr ⟨x, List.mem_cons_self .., rfl⟩
    · exact .inr ⟨x', List.mem_cons_of_mem _ hx', rfl⟩

end Scheduler

/-! ## The scheduler that counts -/

namespace PolicyDocument

variable {d e : Direction} {f g : Scheduler α → Scheduler α}

theorem modifyFirst_of_some {x : PolicyEntry α} {p : Scheduler α} (h : x.get d = some p)
    (rest : List (PolicyEntry α)) :
    modifyFirst d f (x :: rest) = x.set d (some (f p)) :: rest := by
  rw [modifyFirst, h]

theorem modifyFirst_of_none {x : PolicyEntry α} (h : x.get d = none) (rest : List (PolicyEntry α)) :
    modifyFirst d f (x :: rest) = x :: modifyFirst d f rest := by
  rw [modifyFirst, h]

/-- Changing the first scheduler of a direction shows at that direction only. -/
theorem findSome?_modifyFirst (d e : Direction) (f : Scheduler α → Scheduler α)
    (es : List (PolicyEntry α)) :
    (modifyFirst d f es).findSome? (fun x => x.get e) =
      if e = d then (es.findSome? (fun x => x.get d)).map f else es.findSome? (fun x => x.get e) := by
  induction es with
  | nil => split <;> rfl
  | cons x rest ih =>
    cases hx : x.get d with
    | some p =>
      rw [modifyFirst_of_some hx, List.findSome?_cons]
      by_cases he : e = d
      · rw [if_pos he, he, PerDirection.get_set_self, List.findSome?_cons, hx]
        rfl
      · rw [if_neg he, PerDirection.get_set_of_ne x he, List.findSome?_cons]
    | none =>
      rw [modifyFirst_of_none hx, List.findSome?_cons, ih]
      by_cases he : e = d
      · rw [if_pos he, if_pos he, he, hx, List.findSome?_cons, hx]
      · rw [if_neg he, if_neg he, List.findSome?_cons]

/-- The schedulers that count after a change to one of them. -/
theorem scheduler?_modifyFirst (doc : PolicyDocument α) (d e : Direction)
    (f : Scheduler α → Scheduler α) :
    scheduler? ⟨modifyFirst d f doc.mac⟩ e =
      if e = d then (doc.scheduler? d).map f else doc.scheduler? e :=
  findSome?_modifyFirst d e f doc.mac

/-- What is read through the scheduler that counts after a change to one of them. -/
theorem scheduler_modifyFirst (doc : PolicyDocument α) (d e : Direction)
    (f : Scheduler α → Scheduler α) :
    scheduler ⟨modifyFirst d f doc.mac⟩ e =
      if e = d then (doc.scheduler e).map f else doc.scheduler e := by
  rw [scheduler, scheduler, scheduler?_modifyFirst]
  by_cases h : e = d
  · rw [if_pos h, if_pos h, h]
    cases doc.scheduler? d <;> rfl
  · rw [if_neg h, if_neg h]

/-- Two changes to the first scheduler of a direction are one. -/
theorem modifyFirst_modifyFirst (d : Direction) (f g : Scheduler α → Scheduler α)
    (es : List (PolicyEntry α)) :
    modifyFirst d g (modifyFirst d f es) = modifyFirst d (fun p => g (f p)) es := by
  induction es with
  | nil => rfl
  | cons x rest ih =>
    cases hx : x.get d with
    | some p =>
      rw [modifyFirst_of_some hx, modifyFirst_of_some hx,
        modifyFirst_of_some (PerDirection.get_set_self ..), PerDirection.set_set]
    | none => rw [modifyFirst_of_none hx, modifyFirst_of_none hx, modifyFirst_of_none hx, ih]

/-- Changes in different directions do not meet. -/
theorem modifyFirst_comm {d e : Direction} (h : d ≠ e) (f g : Scheduler α → Scheduler α)
    (es : List (PolicyEntry α)) :
    modifyFirst d f (modifyFirst e g es) = modifyFirst e g (modifyFirst d f es) := by
  induction es with
  | nil => rfl
  | cons x rest ih =>
    cases hd : x.get d with
    | none =>
      cases he : x.get e with
      | none =>
        rw [modifyFirst_of_none he, modifyFirst_of_none hd, modifyFirst_of_none hd,
          modifyFirst_of_none he, ih]
      | some q =>
        have hset : (x.set e (some (g q))).get d = none := by rw [PerDirection.get_set_of_ne x h, hd]
        rw [modifyFirst_of_some he, modifyFirst_of_none hset, modifyFirst_of_none hd,
          modifyFirst_of_some he]
    | some p =>
      cases he : x.get e with
      | none =>
        have hset : (x.set d (some (f p))).get e = none := by
          rw [PerDirection.get_set_of_ne x (Ne.symm h), he]
        rw [modifyFirst_of_none he, modifyFirst_of_some hd, modifyFirst_of_some hd,
          modifyFirst_of_none hset]
      | some q =>
        have hset : (x.set d (some (f p))).get e = some q := by
          rw [PerDirection.get_set_of_ne x (Ne.symm h), he]
        have hset' : (x.set e (some (g q))).get d = some p := by
          rw [PerDirection.get_set_of_ne x h, hd]
        rw [modifyFirst_of_some he, modifyFirst_of_some hd, modifyFirst_of_some hset',
          modifyFirst_of_some hset, PerDirection.set_comm x h]

/-- Changing nothing in the first scheduler of a direction is no change. -/
theorem modifyFirst_id (d : Direction) (es : List (PolicyEntry α)) :
    modifyFirst d (fun p => p) es = es := by
  induction es with
  | nil => rfl
  | cons x rest ih =>
    cases hx : x.get d with
    | some p => rw [modifyFirst_of_some hx, ← hx, PerDirection.set_get]
    | none => rw [modifyFirst_of_none hx, ih]

theorem modify_of_some {doc : PolicyDocument α} {p : Scheduler α} (h : doc.scheduler? d = some p) :
    doc.modify d f = .ok ⟨modifyFirst d f doc.mac⟩ := by
  rw [modify, h]

theorem modify_of_none {doc : PolicyDocument α} (h : doc.scheduler? d = none) :
    doc.modify d f = .error (.missingScheduler d) := by
  rw [modify, h]

/-- What holds of all schedulers of a document holds after a change that keeps it. -/
theorem forall_modifyFirst {P : Scheduler α → Prop} {d : Direction} {f : Scheduler α → Scheduler α}
    (hf : ∀ p, P p → P (f p)) {es : List (PolicyEntry α)}
    (h : ∀ x ∈ es, ∀ e p, x.get e = some p → P p) :
    ∀ x ∈ modifyFirst d f es, ∀ e p, x.get e = some p → P p := by
  induction es with
  | nil => exact h
  | cons x rest ih =>
    obtain ⟨hx, hrest⟩ := List.forall_mem_cons.mp h
    cases hd : x.get d with
    | none =>
      rw [modifyFirst_of_none hd]
      exact List.forall_mem_cons.mpr ⟨hx, ih hrest⟩
    | some p =>
      rw [modifyFirst_of_some hd]
      refine List.forall_mem_cons.mpr ⟨fun e q hq => ?_, hrest⟩
      by_cases he : e = d
      · rw [he, PerDirection.get_set_self] at hq
        obtain rfl := Option.some.inj hq
        exact hf p (hx d p hd)
      · rw [PerDirection.get_set_of_ne x he] at hq
        exact hx e q hq

/-- A change goes through exactly if there is a scheduler to be changed. -/
theorem modify_eq_ok_iff {doc doc' : PolicyDocument α} :
    doc.modify d f = .ok doc' ↔ doc.scheduler? d ≠ none ∧ doc' = ⟨modifyFirst d f doc.mac⟩ := by
  cases h : doc.scheduler? d with
  | none => simp [modify_of_none h]
  | some p => simp [modify_of_some h, eq_comm]

/-! ## Reading the caps -/

/-- Caps can be read from a document with a scheduler in each direction. -/
theorem mcsCaps_of_scheduler? {doc : PolicyDocument α} {p : Direction → Scheduler α}
    (h : ∀ d, doc.scheduler? d = some (p d)) : doc.mcsCaps = .ok ⟨fun s d => (p d).cap s d⟩ := by
  simp only [mcsCaps, scheduler, h]
  refine congrArg Except.ok (congrArg McsCaps.mk (funext fun s => funext fun d => ?_))
  cases d <;> rfl

/-- Caps are read from the schedulers that count; a direction without one is named. -/
theorem mcsCaps_cases (doc : PolicyDocument α) :
    (∃ d, doc.scheduler? d = none ∧ doc.mcsCaps = .error (.missingScheduler d)) ∨
      ∃ p : Direction → Scheduler α, (∀ d, doc.scheduler? d = some (p d)) ∧
        doc.mcsCaps = .ok ⟨fun s d => (p d).cap s d⟩ := by
  cases hdl : doc.scheduler? .dl with
  | none => exact .inl ⟨.dl, hdl, by simp only [mcsCaps, scheduler, hdl]; rfl⟩
  | some p =>
    cases hul : doc.scheduler? .ul with
    | none => exact .inl ⟨.ul, hul, by simp only [mcsCaps, scheduler, hdl, hul]; rfl⟩
    | some q =>
      have hp : ∀ d, doc.scheduler? d = some ((⟨p, q⟩ : PerDirection (Scheduler α)).get d) := by
        rintro (_ | _)
        · exact hdl
        · exact hul
      exact .inr ⟨_, hp, mcsCaps_of_scheduler? hp⟩

/-! ## Valid documents -/

theorem mem_allShares {doc : PolicyDocument α} {y : α} :
    y ∈ doc.allShares ↔ ∃ x ∈ doc.mac, ∃ d p, x.get d = some p ∧ y ∈ p.shares := by
  rw [allShares, List.mem_flatMap]
  refine exists_congr fun x => and_congr_right fun _ => ?_
  constructor
  · intro hy
    obtain ⟨q, hq, hy⟩ := List.mem_flatMap.mp hy
    cases q with
    | none => exact absurd hy List.not_mem_nil
    | some p =>
      rcases List.mem_cons.mp hq with hq | hq
      · exact ⟨.dl, p, hq.symm, hy⟩
      · exact ⟨.ul, p, (List.mem_singleton.mp hq).symm, hy⟩
  · rintro ⟨d, p, hp, hy⟩
    refine List.mem_flatMap.mpr ⟨some p, ?_, hy⟩
    rw [← hp]
    cases d
    · exact List.mem_cons_self ..
    · exact List.mem_cons_of_mem _ (List.mem_cons_self ..)

variable [Share α]

/-- A list of shares is let through if each of them is a part of a cell. -/
theorem forM_checkShare_eq_ok_iff {ys : List α} :
    (ys.forM checkShare : Except (PolicyError α) Unit) = .ok () ↔ ∀ y ∈ ys, Share.Valid y := by
  induction ys with
  | nil => exact ⟨fun _ _ h => absurd h List.not_mem_nil, fun _ => rfl⟩
  | cons y rest ih =>
    rw [List.forall_mem_cons, ← ih]
    change ((checkShare y : Except (PolicyError α) Unit) >>= fun _ => rest.forM checkShare) = _ ↔ _
    by_cases hy : Share.Valid y
    · rw [checkShare, if_pos hy]
      exact (and_iff_right hy).symm
    · rw [checkShare, if_neg hy]
      exact iff_of_false (fun h => nomatch h) (fun h => hy h.1)

/-- A document is valid if the shares of all its schedulers are parts of a cell, also of those that do not
count. -/
theorem validate_eq_ok_iff {doc : PolicyDocument α} :
    doc.validate = .ok () ↔ ∀ x ∈ doc.mac, ∀ d p, x.get d = some p → ∀ y ∈ p.shares, Share.Valid y := by
  rw [validate, forM_checkShare_eq_ok_iff]
  constructor
  · exact fun h x hx d p hp y hy => h y (mem_allShares.mpr ⟨x, hx, d, p, hp, hy⟩)
  · rintro h y hy
    obtain ⟨x, hx, d, p, hp, hy⟩ := mem_allShares.mp hy
    exact h x hx d p hp y hy

/-! ## Writing an allocation -/

/-- A share that is no part of a cell is refused before anything is written. -/
theorem applySlice_of_not_valid (doc : PolicyDocument α) {x : SliceAllocation α}
    (hv : ¬ Share.Valid (x.share.get d)) :
    doc.applySlice d x = .error (.invalidShare (x.share.get d)) := by
  simp only [applySlice, setSliceShare, checkShare, if_neg hv, bind, Except.bind]

/-- What a slice gets is written by one change to the scheduler that counts. -/
theorem applySlice_of_valid {doc : PolicyDocument α} {p : Scheduler α} {x : SliceAllocation α}
    (hs : doc.scheduler? d = some p) (hv : Share.Valid (x.share.get d)) :
    doc.applySlice d x = .ok ⟨modifyFirst d (fun p => p.writeSlice d x) doc.mac⟩ := by
  have hs' : scheduler? ⟨modifyFirst d (fun p => p.setShare x.slice (x.share.get d)) doc.mac⟩ d =
      some (p.setShare x.slice (x.share.get d)) := by
    rw [scheduler?_modifyFirst, if_pos rfl, hs, Option.map_some]
  simp only [applySlice, setSliceShare, setSliceCap, checkShare, if_pos hv, bind, Except.bind,
    modify_of_some hs, modify_of_some hs', modifyFirst_modifyFirst]
  rfl

/-- Slices are written until the first share that is no part of a cell. -/
theorem foldlM_applySlice (d : Direction) :
    ∀ (xs : List (SliceAllocation α)) (doc : PolicyDocument α) (p : Scheduler α),
      doc.scheduler? d = some p →
      (∃ x ∈ xs, ¬ Share.Valid (x.share.get d) ∧
          xs.foldlM (applySlice d) doc = .error (.invalidShare (x.share.get d))) ∨
        (∀ x ∈ xs, Share.Valid (x.share.get d)) ∧ xs.foldlM (applySlice d) doc =
          .ok ⟨modifyFirst d (fun p => xs.foldl (Scheduler.writeSlice d) p) doc.mac⟩
  | [], doc, p, _ => .inr ⟨by simp, by rw [List.foldlM_nil]; simp only [List.foldl_nil, modifyFirst_id]; rfl⟩
  | x :: xs, doc, p, hs => by
    rw [List.foldlM_cons]
    by_cases hv : Share.Valid (x.share.get d)
    · have hs' : scheduler? ⟨modifyFirst d (fun p => p.writeSlice d x) doc.mac⟩ d =
          some (p.writeSlice d x) := by
        rw [scheduler?_modifyFirst, if_pos rfl, hs, Option.map_some]
      rw [applySlice_of_valid hs hv]
      rcases foldlM_applySlice d xs _ _ hs' with ⟨y, hy, hny, herr⟩ | ⟨hall, hok⟩
      · exact .inl ⟨y, List.mem_cons_of_mem _ hy, hny, herr⟩
      · refine .inr ⟨List.forall_mem_cons.mpr ⟨hv, hall⟩, hok.trans ?_⟩
        rw [modifyFirst_modifyFirst]
        rfl
    · rw [applySlice_of_not_valid doc hv]
      exact .inl ⟨x, List.mem_cons_self .., hv, rfl⟩

/-- What writing an allocation in one direction can do. -/
theorem applyDirection_cases (a : CellAllocation α) (doc : PolicyDocument α) (d : Direction) :
    doc.scheduler? d = none ∧ applyDirection a doc d = .error (.missingScheduler d) ∨
      (∃ x ∈ a.slices, ¬ Share.Valid (x.share.get d) ∧
        applyDirection a doc d = .error (.invalidShare (x.share.get d))) ∨
      (∃ p, doc.scheduler? d = some p) ∧ (∀ x ∈ a.slices, Share.Valid (x.share.get d)) ∧
        applyDirection a doc d = .ok ⟨modifyFirst d (Scheduler.write d a) doc.mac⟩ := by
  simp only [applyDirection, setNumSlices]
  cases hs : doc.scheduler? d with
  | none => exact .inl ⟨rfl, by rw [modify_of_none hs]; rfl⟩
  | some p =>
    have hs' : scheduler? ⟨modifyFirst d (fun p => { p with activeSlices := a.numSlices }) doc.mac⟩ d =
        some { p with activeSlices := a.numSlices } := by
      rw [scheduler?_modifyFirst, if_pos rfl, hs, Option.map_some]
    rw [modify_of_some hs]
    rcases foldlM_applySlice d a.slices _ _ hs' with h | ⟨hall, hok⟩
    · exact .inr (.inl h)
    · refine .inr (.inr ⟨⟨p, rfl⟩, hall, hok.trans ?_⟩)
      rw [modifyFirst_modifyFirst]
      rfl

/-- The document with an allocation written to it, as one change to each direction. -/
def withAllocation (doc : PolicyDocument α) (a : CellAllocation α) : PolicyDocument α :=
  ⟨modifyFirst .ul (Scheduler.write .ul a) (modifyFirst .dl (Scheduler.write .dl a) doc.mac)⟩

/-- The schedulers that count in a document with an allocation written to it. -/
theorem scheduler?_withAllocation (doc : PolicyDocument α) (a : CellAllocation α) (d : Direction) :
    (doc.withAllocation a).scheduler? d = (doc.scheduler? d).map (Scheduler.write d a) := by
  rw [withAllocation, scheduler?_modifyFirst, scheduler?_modifyFirst, scheduler?_modifyFirst]
  cases d <;> rfl

/-- What is read through the scheduler that counts, after an allocation was written. -/
theorem scheduler_withAllocation (doc : PolicyDocument α) (a : CellAllocation α) (d : Direction) :
    (doc.withAllocation a).scheduler d = (doc.scheduler d).map (Scheduler.write d a) := by
  rw [scheduler, scheduler, scheduler?_withAllocation]
  cases doc.scheduler? d <;> rfl

/-- What writing an allocation keeps in a scheduler reads from the document as before. -/
theorem map_scheduler_withAllocation {β : Type} {φ : Scheduler α → β} {a : CellAllocation α}
    {d : Direction} (h : ∀ p, φ (p.write d a) = φ p) (doc : PolicyDocument α) :
    ((doc.withAllocation a).scheduler d).map φ = (doc.scheduler d).map φ := by
  rw [scheduler_withAllocation]
  cases doc.scheduler d with
  | error e => rfl
  | ok p => exact congrArg Except.ok (h p)

/-- **What writing an allocation can do.** A direction without a scheduler and a share that is no part
of a cell are refused; otherwise each direction is changed once. -/
theorem applyAllocation_cases (doc : PolicyDocument α) (a : CellAllocation α) :
    (∃ d, doc.scheduler? d = none ∧ doc.applyAllocation a = .error (.missingScheduler d)) ∨
      (∃ d, ∃ x ∈ a.slices, ¬ Share.Valid (x.share.get d) ∧
        doc.applyAllocation a = .error (.invalidShare (x.share.get d))) ∨
      (∀ d, ∃ p, doc.scheduler? d = some p) ∧ (∀ x ∈ a.slices, ∀ d, Share.Valid (x.share.get d)) ∧
        doc.applyAllocation a = .ok (doc.withAllocation a) := by
  have hdef : doc.applyAllocation a =
      (applyDirection a doc .dl).bind fun doc' => applyDirection a doc' .ul := by
    simp only [applyAllocation, Direction.all, List.foldlM_cons, List.foldlM_nil, bind_pure]
    rfl
  rw [hdef]
  rcases applyDirection_cases a doc .dl with ⟨hs, herr⟩ | ⟨x, hx, hv, herr⟩ | ⟨hdl, hvdl, hok⟩
  · exact .inl ⟨.dl, hs, by rw [herr]; rfl⟩
  · exact .inr (.inl ⟨.dl, x, hx, hv, by rw [herr]; rfl⟩)
  rw [hok, Except.bind]
  -- writing the downlink leaves the uplink scheduler that counts
  have hul := scheduler?_modifyFirst doc .dl .ul (Scheduler.write .dl a)
  rw [if_neg (by decide)] at hul
  rcases applyDirection_cases a ⟨modifyFirst .dl (Scheduler.write .dl a) doc.mac⟩ .ul with
    ⟨hs, herr⟩ | ⟨x, hx, hv, herr⟩ | ⟨hsome, hvul, hok'⟩
  · exact .inl ⟨.ul, hul ▸ hs, herr⟩
  · exact .inr (.inl ⟨.ul, x, hx, hv, herr⟩)
  · refine .inr (.inr ⟨?_, ?_, hok'⟩)
    · rintro (_ | _)
      · exact hdl
      · exact hul ▸ hsome
    · rintro x hx (_ | _)
      · exact hvdl x hx
      · exact hvul x hx

/-- An allocation can be written as soon as there are schedulers to write it to and its shares are
parts of a cell. -/
theorem applyAllocation_of_valid {doc : PolicyDocument α} {a : CellAllocation α}
    (hs : ∀ d, doc.scheduler? d ≠ none) (hv : ∀ x ∈ a.slices, ∀ d, Share.Valid (x.share.get d)) :
    doc.applyAllocation a = .ok (doc.withAllocation a) := by
  rcases doc.applyAllocation_cases a with ⟨d, hnone, -⟩ | ⟨d, x, hx, hnot, -⟩ | ⟨-, -, hok⟩
  · exact absurd hnone (hs d)
  · exact absurd (hv x hx d) hnot
  · exact hok

/-- An allocation is written exactly if there is a scheduler in each direction and its shares are parts
of a cell, and then each direction is changed once. -/
theorem applyAllocation_eq_ok_iff {doc written : PolicyDocument α} {a : CellAllocation α} :
    doc.applyAllocation a = .ok written ↔ (∀ d, doc.scheduler? d ≠ none) ∧
      (∀ x ∈ a.slices, ∀ d, Share.Valid (x.share.get d)) ∧ written = doc.withAllocation a := by
  constructor
  · intro h
    rcases doc.applyAllocation_cases a with ⟨_, -, herr⟩ | ⟨_, _, -, -, herr⟩ | ⟨hsome, hvalid, hok⟩
    · rw [herr] at h
      cases h
    · rw [herr] at h
      cases h
    · refine ⟨fun d => ?_, hvalid, Except.ok.inj (h.symm.trans hok)⟩
      obtain ⟨p, hp⟩ := hsome d
      rw [hp]
      exact Option.some_ne_none p
  · rintro ⟨hs, hv, rfl⟩
    exact applyAllocation_of_valid hs hv

/-- A document that an allocation could be written to has changed by that much. -/
theorem eq_withAllocation {doc written : PolicyDocument α} {a : CellAllocation α}
    (h : doc.applyAllocation a = .ok written) : written = doc.withAllocation a :=
  (applyAllocation_eq_ok_iff.mp h).2.2

/-- An allocation that was written is for one number of slices in both directions. -/
theorem numSlices_of_applyAllocation {doc written : PolicyDocument α} {a : CellAllocation α}
    (h : doc.applyAllocation a = .ok written) (d : Direction) : written.numSlices d = .ok a.numSlices := by
  obtain ⟨hsome, -, rfl⟩ := applyAllocation_eq_ok_iff.mp h
  obtain ⟨p, hp⟩ := Option.ne_none_iff_exists'.mp (hsome d)
  rw [numSlices, scheduler, scheduler?_withAllocation, hp]
  exact congrArg Except.ok (Scheduler.activeSlices_write p d a)

end PolicyDocument

end RanSlicing
