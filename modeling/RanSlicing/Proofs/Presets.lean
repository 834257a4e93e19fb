import RanSlicing.Proofs.AcceptedCells
import RanSlicing.Proofs.AppliedAllocation
import RanSlicing.Proofs.PolicyCalls

/-!
# What a preset does to a policy

A preset is a run of calls, the number of slices and then the caps, first in the downlink and then in the
uplink. The run stops at the first call that is refused, and what was done before it stays
(`PolicyDocument.exists_applyEdits_attempts`). A call is refused for a number that is out of range or for want
of a scheduler. None of them writes a share, so wherever the run stops, the shares are those from before; and
when it gets to its end, every cap that the preset lists can be read back (`Preset.takesEffect`).
-/

namespace RanSlicing

variable {α : Type}

/-! ## Calls that write no share -/

namespace PolicyCall

/-- Whether a call leaves the shares alone. -/
def KeepsShares : PolicyCall α → Prop
  | share .. => False
  | _ => True

theorem KeepsShares.share? {c : PolicyCall α} (h : c.KeepsShares) (s : SliceId) (d : Direction) :
    c.share? s d = none := by
  cases c with
  | share => exact h.elim
  | _ => rfl

theorem KeepsShares.shares_write [Share α] {c : PolicyCall α} (h : c.KeepsShares) (p : Scheduler α) :
    (c.write p).shares = p.shares := by
  cases c with
  | share => exact h.elim
  | _ => rfl

end PolicyCall

namespace PolicyDocument

/-- A change that keeps the shares of a scheduler keeps those of the document. -/
theorem allShares_modifyFirst {d : Direction} {f : Scheduler α → Scheduler α}
    (hf : ∀ p, (f p).shares = p.shares) (es : List (PolicyEntry α)) :
    allShares ⟨modifyFirst d f es⟩ = allShares ⟨es⟩ := by
  induction es with
  | nil => rfl
  | cons x es ih =>
    simp only [allShares] at ih ⊢
    cases hx : x.get d with
    | none => rw [modifyFirst_of_none hx, List.flatMap_cons, List.flatMap_cons, ih]
    | some p =>
      rw [modifyFirst_of_some hx, List.flatMap_cons, List.flatMap_cons]
      congr 1
      cases d <;> simp_all [PerDirection.get, PerDirection.set, PerDirection.toList]

variable [Share α]

/-- A document is as valid as before after calls that write no share. -/
theorem validate_after_of_keepsShares {calls : List (PolicyCall α)} (hkeeps : ∀ c ∈ calls, c.KeepsShares)
    (doc : PolicyDocument α) : (doc.after calls).validate = doc.validate := by
  induction calls generalizing doc with
  | nil => rfl
  | cons c calls ih =>
    obtain ⟨hc, hcalls⟩ := List.forall_mem_cons.mp hkeeps
    refine (ih hcalls (doc.call c).1).trans ?_
    rcases doc.call_cases c with ⟨-, hok⟩ | ⟨-, e, herr⟩
    · rw [hok, validate, validate, allShares_modifyFirst hc.shares_write]
    · rw [herr]

theorem accepted_sublist (calls : List (PolicyCall α)) (doc : PolicyDocument α) :
    (doc.accepted calls).Sublist calls := by
  induction calls generalizing doc with
  | nil => exact .slnil
  | cons c calls ih =>
    rcases doc.call_cases c with ⟨-, hok⟩ | ⟨-, e, herr⟩
    · simp only [accepted, hok]
      exact (ih _).cons_cons c
    · simp only [accepted, herr]
      exact (ih _).cons c

/-- A slice has its share after calls that write no share. -/
theorem sliceShare_after_of_keepsShares {calls : List (PolicyCall α)} (hkeeps : ∀ c ∈ calls, c.KeepsShares)
    (doc : PolicyDocument α) (s : SliceId) (d : Direction) :
    (doc.after calls).sliceShare s d = doc.sliceShare s d := by
  have hnone : (doc.accepted calls).filterMap (PolicyCall.share? s d) = [] :=
    List.filterMap_eq_nil_iff.mpr fun c hc => (hkeeps c ((accepted_sublist calls doc).subset hc)).share? s d
  refine (map_scheduler_after (PolicyCall.share?_of_ne s) (PolicyCall.share_write s) doc calls).trans ?_
  rw [PolicyCall.lastSet, hnone]
  rfl

end PolicyDocument

/-! ## Calls up to the first that is refused -/

section

variable [Share α]

/-- The change that a call stands for, if its numbers are in range. -/
def PolicyCall.attempt (c : Except OutOfRange (PolicyCall α)) : PolicyEdit α := fun doc =>
  match c with
  | .ok c => c.edit doc
  | .error e => .error (.outOfRange e)

namespace PolicyDocument

open PolicyCall (attempt)

/-- Whether a call on `doc` is let through. -/
def LetsThrough (doc : PolicyDocument α) (c : PolicyCall α) : Prop :=
  c.Sound ∧ doc.scheduler? c.direction ≠ none

/-- No call decides whether another one is let through. -/
theorem letsThrough_call {doc : PolicyDocument α} {c c' : PolicyCall α} :
    (doc.call c).1.LetsThrough c' ↔ doc.LetsThrough c' := by
  rw [LetsThrough, LetsThrough, ne_eq, scheduler?_call_eq_none_iff]

/-- Of calls that are made up to the first that is refused, a first part is done. The document is what these
calls make of it, and nothing is left if all of them are let through. -/
theorem exists_applyEdits_attempts (cs : List (Except OutOfRange (PolicyCall α))) (doc : PolicyDocument α) :
    ∃ done rest, cs = done.map .ok ++ rest ∧ doc.accepted done = done ∧
      (∀ c ∈ done, doc.LetsThrough c) ∧ (∀ c, rest.head? = some (.ok c) → ¬ doc.LetsThrough c) ∧
      (doc.applyEdits (cs.map attempt)).1 = doc.after done ∧
      ((doc.applyEdits (cs.map attempt)).2 = .ok () ↔ rest = []) := by
  induction cs generalizing doc with
  | nil => exact ⟨[], [], rfl, rfl, by simp, by simp, rfl, by simp [applyEdits]⟩
  | cons x cs ih =>
    cases x with
    | error e => exact ⟨[], .error e :: cs, rfl, rfl, by simp, by simp, rfl, by simp [applyEdits, attempt]⟩
    | ok c =>
      rcases doc.call_cases c with ⟨hthrough, hok⟩ | ⟨hnot, -, -⟩
      · -- the call is done, and the others go on from there
        have hedit : c.edit doc = .ok (doc.call c).1 := by
          rw [hok]
          exact PolicyCall.edit_eq_ok_iff.mpr ⟨hthrough.1, hthrough.2, rfl⟩
        have hrun : doc.applyEdits ((Except.ok c :: cs).map attempt) =
            (doc.call c).1.applyEdits (cs.map attempt) := by
          simp only [List.map_cons, applyEdits, attempt, hedit]
        obtain ⟨done, rest, rfl, haccepted, hdone, hrest, hdoc, hresult⟩ := ih (doc.call c).1
        simp only [letsThrough_call] at hdone hrest
        refine ⟨c :: done, rest, rfl, ?_, List.forall_mem_cons.mpr ⟨hthrough, hdone⟩, hrest, ?_, ?_⟩
        · rw [hok] at haccepted
          simp only [accepted, hok, haccepted]
        · rw [hrun, hdoc]
          rfl
        · rw [hrun, hresult]
      · -- the call is refused, and nothing more is done
        obtain ⟨e, hedit⟩ : ∃ e, c.edit doc = .error e := by
          cases hedit : c.edit doc with
          | error e => exact ⟨e, rfl⟩
          | ok doc' =>
            obtain ⟨hsound, hsome, -⟩ := PolicyCall.edit_eq_ok_iff.mp hedit
            exact absurd ⟨hsound, hsome⟩ hnot
        have hrun : doc.applyEdits ((Except.ok c :: cs).map attempt) = (doc, .error e) := by
          simp only [List.map_cons, applyEdits, attempt, hedit]
        refine ⟨[], .ok c :: cs, rfl, rfl, by simp, ?_, by rw [hrun]; rfl, by rw [hrun]; simp⟩
        intro c' hc'
        obtain rfl := Except.ok.inj (Option.some.inj hc')
        exact hnot

/-- All calls are done exactly if each of them is let through. -/
theorem applyEdits_attempts_eq_ok_iff {cs : List (Except OutOfRange (PolicyCall α))} {doc : PolicyDocument α} :
    (doc.applyEdits (cs.map attempt)).2 = .ok () ↔ ∀ x ∈ cs, ∃ c, x = .ok c ∧ doc.LetsThrough c := by
  obtain ⟨done, rest, rfl, -, hdone, hrest, -, hresult⟩ := exists_applyEdits_attempts cs doc
  rw [hresult]
  constructor
  · rintro rfl x hx
    rw [List.append_nil] at hx
    obtain ⟨c, hc, rfl⟩ := List.mem_map.mp hx
    exact ⟨c, rfl, hdone c hc⟩
  · intro hall
    cases rest with
    | nil => rfl
    | cons x rest =>
      obtain ⟨c, rfl, hc⟩ := hall x (List.mem_append_right _ (List.mem_cons_self ..))
      exact absurd hc (hrest c rfl)

end PolicyDocument

end

/-! ## The calls of a preset -/

namespace Preset

open PolicyCall (lastSet attempt)

/-- The call that writes a cap to a slot, if there are such a slot and such a cap. -/
def capCall (d : Direction) (slot : Nat) (cap : UInt8) : Except OutOfRange (PolicyCall α) := do
  let s ← Bounded.ofNat .sliceId slot
  let m ← Bounded.ofNat .mcs cap.toNat
  return .cap s m d

/-- The calls of a preset in one direction. -/
def directionCalls (p : Preset) (n : SliceCount) (d : Direction) : List (Except OutOfRange (PolicyCall α)) :=
  .ok (.numSlices d n) :: (p.caps.get d).zipIdx.map fun (cap, slot) => capCall d slot cap

/-- The calls of a preset, the downlink first. -/
def calls (p : Preset) (n : SliceCount) : List (Except OutOfRange (PolicyCall α)) :=
  Direction.all.flatMap (p.directionCalls n)

theorem capCall_eq_ok_iff {d : Direction} {slot : Nat} {cap : UInt8} {c : PolicyCall α} :
    capCall d slot cap = .ok c ↔ ∃ s m, s.val = slot ∧ m.val = cap.toNat ∧ c = .cap s m d := by
  simp only [capCall, bind_eq_ok_iff, Bounded.ofNat_eq_ok_iff]
  constructor
  · rintro ⟨s, hs, m, hm, ⟨⟩⟩
    exact ⟨s, m, hs, hm, rfl⟩
  · rintro ⟨s, m, hs, hm, rfl⟩
    exact ⟨s, hs, m, hm, rfl⟩

/-- A preset calls for nothing but a number of slices and caps. -/
theorem of_mem_directionCalls {p : Preset} {n : SliceCount} {d : Direction} {c : PolicyCall α}
    (hc : .ok c ∈ p.directionCalls n d) : c.direction = d ∧ c.KeepsShares := by
  rcases List.mem_cons.mp hc with hc | hc
  · obtain rfl := Except.ok.inj hc
    exact ⟨rfl, trivial⟩
  · obtain ⟨⟨cap, slot⟩, -, hcall⟩ := List.mem_map.mp hc
    obtain ⟨s, m, -, -, rfl⟩ := capCall_eq_ok_iff.mp hcall
    exact ⟨rfl, trivial⟩

/-! ## What the calls of a preset set -/

/-- What is kept of the entry with an index is all that is kept. -/
theorem filterMap_zipIdx_of_index {β γ : Type} (f : β → Option γ) (xs : List β) (k : Nat) :
    (xs.zipIdx.filterMap fun (x, i) => if i = k then f x else none) = (xs[k]?.bind f).toList := by
  suffices h : ∀ n, ((xs.zipIdx n).filterMap fun (x, i) => if i = n + k then f x else none) =
      (xs[k]?.bind f).toList by simpa using h 0
  intro n
  induction xs generalizing n k with
  | nil => rfl
  | cons x xs ih =>
    rw [List.zipIdx_cons]
    cases k with
    | zero =>
      -- the entries behind it have other indices
      have hrest : ((xs.zipIdx (n + 1)).filterMap fun (x, i) => if i = n + 0 then f x else none) = [] := by
        refine List.filterMap_eq_nil_iff.mpr fun ⟨y, i⟩ hy => if_neg ?_
        have := (List.mem_zipIdx hy).1
        omega
      rw [List.filterMap_cons, hrest]
      cases hx : f x <;> simp [hx]
    | succ k =>
      have hne : n ≠ n + (k + 1) := by omega
      simpa [hne, Nat.add_assoc, Nat.add_comm 1 k] using ih k (n + 1)

section

variable {p : Preset} {n : SliceCount} {done : List (PolicyCall α)} {d : Direction}

/-- Of the calls of a preset those of a direction set its places. -/
theorem filterMap_calls {β : Type} {sets : PolicyCall α → Option β}
    (hother : ∀ c : PolicyCall α, c.direction ≠ d → sets c = none) (hdone : done.map .ok = p.calls n) :
    done.filterMap sets = (p.directionCalls n d).filterMap fun x => x.toOption.bind sets := by
  have hnone : ∀ e ≠ d, ((p.directionCalls n e).filterMap fun x => x.toOption.bind sets) = [] := by
    refine fun e he => List.filterMap_eq_nil_iff.mpr fun x hx => ?_
    cases x with
    | error _ => rfl
    | ok c => exact hother c ((of_mem_directionCalls hx).1.trans_ne he)
  calc done.filterMap sets
      = (done.map .ok).filterMap (fun x : Except OutOfRange _ => x.toOption.bind sets) := by
        rw [List.filterMap_map]
        rfl
    _ = _ := by
        rw [hdone, calls, Direction.all, List.flatMap_cons, List.flatMap_singleton, List.filterMap_append]
        cases d with
        | dl => rw [hnone .ul (by decide), List.append_nil]
        | ul => rw [hnone .dl (by decide), List.nil_append]

/-- The calls of a preset set its number of slices. -/
theorem filterMap_numSlices?_calls (hdone : done.map .ok = p.calls n) :
    done.filterMap (PolicyCall.numSlices? d) = [n] := by
  have hfirst : (Except.ok (.numSlices d n) : Except OutOfRange (PolicyCall α)).toOption.bind
      (PolicyCall.numSlices? d) = some n := if_pos rfl
  rw [filterMap_calls PolicyCall.numSlices?_of_ne hdone, directionCalls, List.filterMap_cons, hfirst]
  refine congrArg (n :: ·) ?_
  refine List.filterMap_eq_nil_iff.mpr (List.forall_mem_map.mpr fun ⟨cap, slot⟩ _ => ?_)
  dsimp only
  cases hc : capCall (α := α) d slot cap with
  | error e => rfl
  | ok c =>
    obtain ⟨s, m, -, -, rfl⟩ := capCall_eq_ok_iff.mp hc
    rfl

/-- The call that writes a cap to a slot sets the cap of the slice of that slot. -/
theorem cap?_capCall (s : SliceId) (slot : Nat) (cap : UInt8) :
    (capCall (α := α) d slot cap).toOption.bind (PolicyCall.cap? s d) =
      if slot = s.val then (Bounded.ofNat .mcs cap.toNat).toOption.map fun m => min m (Mcs.ceiling d)
      else none := by
  by_cases hslot : slot = s.val
  · subst hslot
    rw [if_pos rfl, capCall, Bounded.ofNat_val]
    cases Bounded.ofNat .mcs cap.toNat with
    | error e => rfl
    | ok m => exact if_pos ⟨rfl, rfl⟩
  · rw [if_neg hslot]
    cases hc : capCall (α := α) d slot cap with
    | error e => rfl
    | ok c =>
      obtain ⟨s', m, rfl, -, rfl⟩ := capCall_eq_ok_iff.mp hc
      exact if_neg fun ⟨hs, _⟩ => hslot (congrArg Bounded.val hs)

/-- The calls of a preset set the cap of a slice if it is listed, and then to what is listed, as far as the
direction allows. -/
theorem filterMap_cap?_calls (hdone : done.map .ok = p.calls n) (s : SliceId) :
    done.filterMap (PolicyCall.cap? s d) = ((p.caps.get d)[s.val]?.bind fun cap =>
      (Bounded.ofNat .mcs cap.toNat).toOption.map fun m => min m (Mcs.ceiling d)).toList := by
  rw [filterMap_calls (PolicyCall.cap?_of_ne s) hdone, directionCalls, ← filterMap_zipIdx_of_index]
  refine (List.filterMap_cons_none rfl).trans ?_
  rw [List.filterMap_map]
  exact List.filterMap_congr fun ⟨cap, slot⟩ _ => cap?_capCall s slot cap

end

/-! ## What it takes -/

/-- What it takes for a preset to be written to `doc` in a direction. -/
structure FitsIn (p : Preset) (doc : PolicyDocument α) (d : Direction) : Prop where
  slots : (p.caps.get d).length ≤ 5
  caps : ∀ cap ∈ p.caps.get d, cap.toNat ≤ 28
  scheduler : ∃ x ∈ doc.mac, x.get d ≠ none

/-- What it takes for a preset to be written to `doc`. -/
structure Fits (p : Preset) (doc : PolicyDocument α) : Prop where
  slices : p.slices.toNat ≤ 4
  directions : ∀ d, p.FitsIn doc d

variable [Share α]

/-- The calls of a preset in a direction are let through exactly if it fits. -/
theorem fitsIn_iff {p : Preset} {n : SliceCount} {doc : PolicyDocument α} {d : Direction} :
    (∀ x ∈ p.directionCalls n d, ∃ c, x = .ok c ∧ doc.LetsThrough c) ↔ p.FitsIn doc d := by
  have hscheduler : doc.scheduler? d ≠ none ↔ ∃ x ∈ doc.mac, x.get d ≠ none := by
    rw [ne_eq, PolicyDocument.scheduler?_eq_none_iff]
    push Not
    rfl
  constructor
  · intro hall
    obtain ⟨hfirst, hcaps⟩ := List.forall_mem_cons.mp hall
    -- every cap that is listed has a slot and a value that exist
    have hlisted : ∀ cap slot, (p.caps.get d)[slot]? = some cap → slot ≤ 4 ∧ cap.toNat ≤ 28 := by
      intro cap slot hcap
      have hmem : (cap, slot) ∈ (p.caps.get d).zipIdx := List.mem_zipIdx_iff_getElem?.mpr hcap
      obtain ⟨c, hc, -⟩ := hcaps _ (List.mem_map_of_mem hmem)
      obtain ⟨s, m, rfl, hm, -⟩ := capCall_eq_ok_iff.mp hc
      exact ⟨s.le_max, hm ▸ m.le_max⟩
    refine ⟨?_, fun cap hcap => ?_, ?_⟩
    · by_contra hlength
      have hlt : 5 < (p.caps.get d).length := by omega
      exact absurd (hlisted _ 5 (List.getElem?_eq_getElem hlt)).1 (by decide)
    · obtain ⟨slot, hslot⟩ := List.getElem?_of_mem hcap
      exact (hlisted cap slot hslot).2
    · obtain ⟨c, hc, hthrough⟩ := hfirst
      obtain rfl := Except.ok.inj hc
      exact hscheduler.mp hthrough.2
  · intro hfits
    have hsome := hscheduler.mpr hfits.scheduler
    refine List.forall_mem_cons.mpr ⟨⟨_, rfl, trivial, hsome⟩, List.forall_mem_map.mpr ?_⟩
    rintro ⟨cap, slot⟩ hcap
    obtain ⟨hslot, hget⟩ := List.mem_zipIdx' hcap
    have hcap' : cap.toNat ≤ 28 := hfits.caps cap (hget ▸ List.getElem_mem hslot)
    have hslot' : slot ≤ 4 := by
      have := hfits.slots
      omega
    exact ⟨_, capCall_eq_ok_iff.mpr ⟨⟨slot, hslot'⟩, ⟨_, hcap'⟩, rfl, rfl, rfl⟩, trivial, hsome⟩

/-! ## What it does -/

theorem attempt_capCall (d : Direction) (slot : Nat) (cap : UInt8) :
    attempt (capCall d slot cap) = (capEdit d slot cap : PolicyEdit α) := by
  funext doc
  simp only [attempt, capCall, capEdit]
  cases Bounded.ofNat .sliceId slot with
  | error e => rfl
  | ok s => cases Bounded.ofNat .mcs cap.toNat <;> rfl

/-- The changes of a preset are its calls. -/
theorem map_attempt_calls (p : Preset) (n : SliceCount) :
    (p.calls n).map attempt = (Direction.all.flatMap (p.directionEdits n) : List (PolicyEdit α)) := by
  rw [calls, List.map_flatMap]
  refine congrArg (fun f => Direction.all.flatMap f) (funext fun d => ?_)
  rw [directionCalls, directionEdits, List.map_cons, List.map_map]
  refine congrArg (List.cons _) (List.map_congr_left fun x _ => ?_)
  exact attempt_capCall d x.2 x.1

/-- A preset with more slices than there are is refused at once, and any other makes its calls. -/
theorem apply_cases (p : Preset) (doc : PolicyDocument α) :
    (4 < p.slices.toNat ∧ ∃ e, p.apply doc = (doc, .error e)) ∨
      ∃ n : SliceCount, n.val = p.slices.toNat ∧ p.apply doc =
        ((doc.applyEdits ((p.calls n).map attempt)).1,
          (doc.applyEdits ((p.calls n).map attempt)).2.map fun _ => n) := by
  rw [apply]
  cases hn : Bounded.ofNat .sliceCount p.slices.toNat with
  | error e =>
    refine .inl ⟨Nat.lt_of_not_le fun hle => ?_, _, rfl⟩
    rw [Bounded.ofNat_of_le hle] at hn
    cases hn
  | ok n => exact .inr ⟨n, Bounded.ofNat_eq_ok_iff.mp hn, by rw [map_attempt_calls]⟩

/-- A preset does some of its calls, all of which are let through. It gives its number of slices exactly if it
fits, and then it does all of them. -/
theorem exists_calls_apply (p : Preset) (doc : PolicyDocument α) :
    ∃ done, (p.apply doc).1 = doc.after done ∧ doc.accepted done = done ∧ (∀ c ∈ done, c.KeepsShares) ∧
      ∀ n, ((p.apply doc).2 = .ok n ↔ n.val = p.slices.toNat ∧ p.Fits doc) ∧
        ((p.apply doc).2 = .ok n → done.map .ok = p.calls n) := by
  rcases p.apply_cases doc with ⟨hmany, e, happly⟩ | ⟨n, hn, happly⟩
  · rw [happly]
    refine ⟨[], rfl, rfl, by simp, fun n => ⟨iff_of_false (fun h => nomatch h) ?_, fun h => nomatch h⟩⟩
    exact fun h => Nat.not_le_of_lt hmany h.2.slices
  · obtain ⟨done, rest, hcalls, haccepted, -, -, hafter, hrest⟩ :=
      PolicyDocument.exists_applyEdits_attempts (p.calls n) doc
    have hfits : (doc.applyEdits ((p.calls n).map attempt)).2 = .ok () ↔ p.Fits doc := by
      rw [PolicyDocument.applyEdits_attempts_eq_ok_iff, calls, List.forall_mem_flatMap]
      simp only [fitsIn_iff]
      exact ⟨fun h => ⟨hn ▸ n.le_max, fun d => h d (by cases d <;> decide)⟩, fun h d _ => h.directions d⟩
    have hresult : ∀ m, (p.apply doc).2 = .ok m ↔
        m = n ∧ (doc.applyEdits ((p.calls n).map attempt)).2 = .ok () := by
      intro m
      rw [happly]
      cases (doc.applyEdits ((p.calls n).map attempt)).2 <;> simp [Except.map, eq_comm]
    refine ⟨done, by rw [happly, hafter], haccepted, fun c hc => ?_, fun m => ⟨?_, fun hm => ?_⟩⟩
    · have hmem : .ok c ∈ p.calls n := hcalls ▸ List.mem_append_left _ (List.mem_map_of_mem hc)
      obtain ⟨d, -, hd⟩ := List.mem_flatMap.mp hmem
      exact (of_mem_directionCalls hd).2
    · rw [hresult, hfits, Bounded.ext_iff, hn]
    · obtain ⟨rfl, hrun⟩ := (hresult m).mp hm
      rw [hcalls, hrest.mp hrun, List.append_nil]

section

variable {p : Preset} {n : SliceCount} {done : List (PolicyCall α)} {doc : PolicyDocument α} {d : Direction}

/-- All calls of a preset set the number of slices. -/
theorem numSlices_after_calls (hdone : done.map .ok = p.calls n) (haccepted : doc.accepted done = done) :
    (doc.after done).numSlices d = .ok n := by
  refine (PolicyDocument.map_scheduler_after PolicyCall.numSlices?_of_ne PolicyCall.activeSlices_write
    doc done).trans ?_
  rw [haccepted, lastSet, filterMap_numSlices?_calls hdone]
  rfl

/-- All calls of a preset set the caps that it lists. -/
theorem sliceCap_after_calls (hdone : done.map .ok = p.calls n) (haccepted : doc.accepted done = done)
    {s : SliceId} {cap : UInt8} (hlisted : (p.caps.get d)[s.val]? = some cap) (hle : cap.toNat ≤ 28) :
    (doc.after done).sliceCap s d = .ok (min ⟨cap.toNat, hle⟩ (Mcs.ceiling d)) := by
  refine (PolicyDocument.map_scheduler_after (PolicyCall.cap?_of_ne s) (PolicyCall.cap_write s)
    doc done).trans ?_
  rw [haccepted, lastSet, filterMap_cap?_calls hdone, hlisted, Option.bind_some, Bounded.ofNat_of_le hle]
  rfl

/-- They set no other cap. -/
theorem sliceCap_after_calls_of_le (hdone : done.map .ok = p.calls n) (haccepted : doc.accepted done = done)
    {s : SliceId} (hlength : (p.caps.get d).length ≤ s.val) :
    (doc.after done).sliceCap s d = doc.sliceCap s d := by
  refine (PolicyDocument.map_scheduler_after (PolicyCall.cap?_of_ne s) (PolicyCall.cap_write s)
    doc done).trans ?_
  rw [haccepted, lastSet, filterMap_cap?_calls hdone, List.getElem?_eq_none hlength]
  rfl

end

/-- What a preset does to a document. -/
structure TakesEffect (p : Preset) (doc : PolicyDocument α) : Prop where
  succeeds : (∃ n, (p.apply doc).2 = .ok n) ↔ p.Fits doc
  slices : ∀ n, (p.apply doc).2 = .ok n → n.val = p.slices.toNat
  active : ∀ n, (p.apply doc).2 = .ok n → ∀ d, (p.apply doc).1.numSlices d = .ok n
  /-- a slice that is listed reads its cap, as far as the direction allows -/
  listed : ∀ n, (p.apply doc).2 = .ok n → ∀ d s cap, (p.caps.get d)[s.val]? = some cap →
    ((p.apply doc).1.sliceCap s d).map Bounded.val = .ok (min cap.toNat ((⟨28, 16⟩ : PerDirection Nat).get d))
  unlisted : ∀ n, (p.apply doc).2 = .ok n → ∀ d s, (p.caps.get d).length ≤ s.val →
    (p.apply doc).1.sliceCap s d = doc.sliceCap s d
  /-- also of a preset that is refused half way -/
  share : ∀ s d, (p.apply doc).1.sliceShare s d = doc.sliceShare s d
  valid : (p.apply doc).1.validate = doc.validate

/-- **What a preset does.** A preset is written to the end exactly if there are so many slices, slots and caps
and the document has a scheduler in both directions. Then it gives its number of slices, both directions have so
many active slices, every slice that it lists has its cap, and every other slice the cap that it had. However far
it gets, no share is different, and the document is as valid as it was. -/
theorem takesEffect (p : Preset) (doc : PolicyDocument α) : p.TakesEffect doc := by
  obtain ⟨done, hdoc, haccepted, hkeeps, hresult⟩ := p.exists_calls_apply doc
  have hfits : ∀ n, (p.apply doc).2 = .ok n → p.Fits doc := fun n hn => ((hresult n).1.mp hn).2
  have hdone : ∀ n, (p.apply doc).2 = .ok n → done.map .ok = p.calls n := fun n => (hresult n).2
  refine ⟨⟨fun ⟨n, hn⟩ => hfits n hn, fun h => ?_⟩, fun n hn => ((hresult n).1.mp hn).1, fun n hn d => ?_,
    fun n hn d s cap hlisted => ?_, fun n hn d s hlength => ?_, fun s d => ?_, ?_⟩
  · exact ⟨⟨_, h.slices⟩, (hresult _).1.mpr ⟨rfl, h⟩⟩
  · rw [hdoc, numSlices_after_calls (hdone n hn) haccepted]
  · have hle := ((hfits n hn).directions d).caps cap (List.mem_of_getElem? hlisted)
    rw [hdoc, sliceCap_after_calls (hdone n hn) haccepted hlisted hle]
    refine congrArg Except.ok ((Bounded.val_min _ _).trans ?_)
    cases d <;> rfl
  · rw [hdoc, sliceCap_after_calls_of_le (hdone n hn) haccepted hlength]
  · rw [hdoc, PolicyDocument.sliceShare_after_of_keepsShares hkeeps]
  · rw [hdoc, PolicyDocument.validate_after_of_keepsShares hkeeps]

/-- A preset that is refused for its second cap has set the number of slices and the first cap of the downlink,
and nothing in the uplink. -/
example :
    let doc := PolicyDocument.default (α := Rat)
    let refused := apply ⟨3, ⟨[12, 29], [6]⟩⟩ doc
    refused.2 = .error (.outOfRange ⟨.mcs, 29⟩) ∧
      refused.1.numSlices .dl = .ok ⟨3, by decide⟩ ∧
      refused.1.sliceCap ⟨0, by decide⟩ .dl = .ok ⟨12, by decide⟩ ∧
      refused.1.numSlices .ul = doc.numSlices .ul :=
  ⟨rfl, rfl, rfl, rfl⟩

end Preset

end RanSlicing
