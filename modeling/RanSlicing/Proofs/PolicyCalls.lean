import RanSlicing.Policy.Preset
import RanSlicing.Proofs.PolicyWrites

/-!
# A policy as a map

Three calls change a policy one place at a time: the number of active slices of a direction, the share of a
slice in a direction, and its cap there. Through the accessors a policy cannot be told from a map from such
places to values: each place reads the value of the last call that was let through for it, or what it read at
the start, whatever was called in between, and no call shows at another place, not even one that makes a list
longer (`PolicyDocument.actsAsMap`).

A call changes the document in place, in several steps: a check, room for the slot, the slot itself
(`PolicyCall.steps`). Only the first of them can be refused, so a refused call leaves nothing behind, and a call
that is let through is the change of the whole document that `PolicyCall.edit` names
(`PolicyCall.applyEdits_steps`).
-/

namespace RanSlicing

variable {α : Type}

/-- A call that changes one place of a policy. -/
inductive PolicyCall (α : Type)
  | numSlices (d : Direction) (n : SliceCount)
  | share (s : SliceId) (x : α) (d : Direction)
  | cap (s : SliceId) (m : Mcs) (d : Direction)
  deriving DecidableEq, Repr

namespace PolicyCall

/-- The direction that a call is about. -/
def direction : PolicyCall α → Direction
  | numSlices d _ => d
  | share _ _ d => d
  | cap _ _ d => d

/-! ## What a call sets -/

/-- The number of active slices of a direction, if a call sets it. -/
def numSlices? (d : Direction) : PolicyCall α → Option SliceCount
  | numSlices e n => if e = d then some n else none
  | _ => none

/-- The share of a slice in a direction, if a call sets it. -/
def share? (s : SliceId) (d : Direction) : PolicyCall α → Option α
  | share t x e => if t = s ∧ e = d then some x else none
  | _ => none

/-- The cap of a slice in a direction, if a call sets it. It is limited by the direction. -/
def cap? (s : SliceId) (d : Direction) : PolicyCall α → Option Mcs
  | cap t m e => if t = s ∧ e = d then some (min m (Mcs.ceiling d)) else none
  | _ => none

/-- What a place reads after calls that set it by `sets`, if it read `initial` before: what the last call
set that set it at all. -/
def lastSet {ε β : Type} (sets : PolicyCall α → Option β) (calls : List (PolicyCall α))
    (initial : Except ε β) : Except ε β :=
  match (calls.filterMap sets).getLast? with
  | some b => .ok b
  | none => initial

/-- Later calls go on from what the earlier ones left. -/
theorem lastSet_append {ε β : Type} (sets : PolicyCall α → Option β) (earlier later : List (PolicyCall α))
    (initial : Except ε β) :
    lastSet sets (earlier ++ later) initial = lastSet sets later (lastSet sets earlier initial) := by
  simp only [lastSet, List.filterMap_append, List.getLast?_append]
  cases (later.filterMap sets).getLast? <;> rfl

/-! ## What a call does -/

variable [Share α]

/-- The change of a document that a call stands for. -/
def edit : PolicyCall α → PolicyEdit α
  | numSlices d n => fun doc => doc.setNumSlices d n
  | share s x d => fun doc => doc.setSliceShare s x d
  | cap s m d => fun doc => doc.setSliceCap s m d

/-- Makes a list long enough for a slot. -/
def grow {β : Type} (pad : β) (xs : List β) (slot : Nat) : List β :=
  xs ++ List.replicate (slot + 1 - xs.length) pad

/-- The steps of a call on a document that is changed in place: the check, the room for the slot, the slot. -/
def steps : PolicyCall α → List (PolicyEdit α)
  | numSlices d n => [fun doc => doc.modify d fun p => { p with activeSlices := n }]
  | share s x d => [fun doc => (PolicyDocument.checkShare x).map fun _ => doc,
      fun doc => doc.modify d fun p => { p with shares := grow 0 p.shares s.val },
      fun doc => doc.modify d fun p => { p with shares := p.shares.set s.val x }]
  | cap s m d => [
      fun doc => doc.modify d fun p => { p with caps := grow (Mcs.ceiling d) p.caps s.val },
      fun doc => doc.modify d fun p => { p with caps := p.caps.set s.val (min m (Mcs.ceiling d)) }]

omit [Share α] in
/-- Two steps on the scheduler that counts are one change of the document, let through or refused. -/
theorem applyEdits_modify_modify (d : Direction) (f g : Scheduler α → Scheduler α) (doc : PolicyDocument α) :
    doc.applyEdits [fun doc => doc.modify d f, fun doc => doc.modify d g] =
      doc.applyEdits [fun doc => doc.modify d fun p => g (f p)] := by
  cases hs : doc.scheduler? d with
  | none => simp only [PolicyDocument.applyEdits, PolicyDocument.modify_of_none hs]
  | some p =>
    have hs' : PolicyDocument.scheduler? ⟨PolicyDocument.modifyFirst d f doc.mac⟩ d = some (f p) := by
      rw [PolicyDocument.scheduler?_modifyFirst, if_pos rfl, hs, Option.map_some]
    simp only [PolicyDocument.applyEdits, PolicyDocument.modify_of_some hs, PolicyDocument.modify_of_some hs',
      PolicyDocument.modifyFirst_modifyFirst]

/-- A call that works in place does what the change of the document does; when it is refused, its steps so
far have left no trace. -/
theorem applyEdits_steps (c : PolicyCall α) (doc : PolicyDocument α) :
    doc.applyEdits c.steps = doc.applyEdits [c.edit] := by
  cases c with
  | numSlices d n => rfl
  | share s x d =>
    by_cases hx : Share.Valid x
    · have hcheck : (PolicyDocument.checkShare x : Except (PolicyError α) Unit) = .ok () := if_pos hx
      have hedit : (share s x d).edit = fun doc : PolicyDocument α => doc.modify d fun p => p.setShare s x := by
        funext doc
        simp only [edit, PolicyDocument.setSliceShare, hcheck]
        rfl
      rw [hedit, steps, PolicyDocument.applyEdits, hcheck]
      exact applyEdits_modify_modify d _ _ doc
    · have hcheck : (PolicyDocument.checkShare x : Except (PolicyError α) Unit) = .error (.invalidShare x) :=
        if_neg hx
      simp only [steps, edit, PolicyDocument.applyEdits, PolicyDocument.setSliceShare, hcheck]
      rfl
  | cap s m d => exact applyEdits_modify_modify d _ _ doc

/-- Whether the value of a call is one that a policy may hold. -/
def Sound : PolicyCall α → Prop
  | share _ x _ => Share.Valid x
  | _ => True

/-- What a call writes to the scheduler that counts. -/
def write : PolicyCall α → Scheduler α → Scheduler α
  | numSlices _ n, p => { p with activeSlices := n }
  | share s x _, p => p.setShare s x
  | cap s m d, p => p.setCap s m d

/-- A call is let through exactly if its value is sound and there is a scheduler to write it to. -/
theorem edit_eq_ok_iff {c : PolicyCall α} {doc doc' : PolicyDocument α} :
    c.edit doc = .ok doc' ↔ c.Sound ∧ doc.scheduler? c.direction ≠ none ∧
      doc' = ⟨PolicyDocument.modifyFirst c.direction c.write doc.mac⟩ := by
  cases c with
  | numSlices d n => exact PolicyDocument.modify_eq_ok_iff.trans (and_iff_right trivial).symm
  | cap s m d => exact PolicyDocument.modify_eq_ok_iff.trans (and_iff_right trivial).symm
  | share s x d =>
    simp only [edit, PolicyDocument.setSliceShare, PolicyDocument.checkShare]
    by_cases hx : Share.Valid x
    · rw [if_pos hx]
      exact PolicyDocument.modify_eq_ok_iff.trans (and_iff_right hx).symm
    · rw [if_neg hx]
      constructor
      · intro h
        cases h
      · exact fun h => absurd h.1 hx

/-! ## What a call shows -/

section

variable {d : Direction}

omit [Share α] in
theorem numSlices?_of_ne (c : PolicyCall α) (h : c.direction ≠ d) : c.numSlices? d = none := by
  cases c with
  | numSlices e n => exact if_neg h
  | _ => rfl

omit [Share α] in
theorem share?_of_ne (s : SliceId) (c : PolicyCall α) (h : c.direction ≠ d) : c.share? s d = none := by
  cases c with
  | share t x e => exact if_neg fun ⟨_, he⟩ => h he
  | _ => rfl

omit [Share α] in
theorem cap?_of_ne (s : SliceId) (c : PolicyCall α) (h : c.direction ≠ d) : c.cap? s d = none := by
  cases c with
  | cap t m e => exact if_neg fun ⟨_, he⟩ => h he
  | _ => rfl

/-- The number of slices shows no other call. -/
theorem activeSlices_write (c : PolicyCall α) (p : Scheduler α) (h : c.direction = d) :
    (c.write p).activeSlices = (c.numSlices? d).getD p.activeSlices := by
  cases c with
  | numSlices e n =>
    obtain rfl : e = d := h
    rw [numSlices?, if_pos rfl]
    rfl
  | _ => rfl

/-- The share of a slice shows no other call, also if that made the list longer. -/
theorem share_write (s : SliceId) (c : PolicyCall α) (p : Scheduler α) (h : c.direction = d) :
    (c.write p).share s = (c.share? s d).getD (p.share s) := by
  cases c with
  | share t x e =>
    obtain rfl : e = d := h
    rw [write, Scheduler.share_setShare, share?]
    by_cases hs : t = s
    · rw [if_pos hs.symm, if_pos ⟨hs, rfl⟩, Option.getD_some]
    · rw [if_neg (Ne.symm hs), if_neg fun h => hs h.1, Option.getD_none]
  | _ => rfl

/-- The cap of a slice shows no other call, also if that made the list longer. -/
theorem cap_write (s : SliceId) (c : PolicyCall α) (p : Scheduler α) (h : c.direction = d) :
    (c.write p).cap s d = (c.cap? s d).getD (p.cap s d) := by
  cases c with
  | cap t m e =>
    obtain rfl : e = d := h
    rw [write, Scheduler.cap_setCap, cap?]
    by_cases hs : t = s
    · rw [if_pos hs.symm, if_pos ⟨hs, rfl⟩, Option.getD_some]
    · rw [if_neg (Ne.symm hs), if_neg fun h => hs h.1, Option.getD_none]
  | _ => rfl

end

/-- A sound call writes no share that is no part of a cell, nor does it make room with one. -/
theorem valid_write (hzero : Share.Valid (0 : α)) {c : PolicyCall α} (hc : c.Sound) {p : Scheduler α}
    (hp : ∀ y ∈ p.shares, Share.Valid y) : ∀ y ∈ (c.write p).shares, Share.Valid y := by
  cases c with
  | numSlices d n => exact hp
  | cap s m d => exact hp
  | share s x d =>
    intro y hy
    rcases Scheduler.mem_setSlot hy with hy | rfl | rfl
    · exact hp y hy
    · exact hzero
    · exact hc

end PolicyCall

namespace PolicyDocument

open PolicyCall (lastSet)

variable [Share α]

/-! ## Runs of calls -/

/-- A call on a document: the document afterwards, and whether the call was let through. -/
def call (doc : PolicyDocument α) (c : PolicyCall α) : PolicyDocument α × Except (PolicyError α) Unit :=
  doc.applyEdits c.steps

/-- The document after calls one after the other, whatever became of each. -/
def after (doc : PolicyDocument α) (calls : List (PolicyCall α)) : PolicyDocument α :=
  calls.foldl (fun doc c => (doc.call c).1) doc

/-- The calls that were let through, in the order in which they were made. -/
def accepted : PolicyDocument α → List (PolicyCall α) → List (PolicyCall α)
  | _, [] => []
  | doc, c :: calls =>
    match doc.call c with
    | (doc, .ok ()) => c :: doc.accepted calls
    | (doc, .error _) => doc.accepted calls

/-- What a call can do: it is let through and has written its value, or nothing has changed. -/
theorem call_cases (doc : PolicyDocument α) (c : PolicyCall α) :
    (c.Sound ∧ doc.scheduler? c.direction ≠ none) ∧
        doc.call c = (⟨modifyFirst c.direction c.write doc.mac⟩, .ok ()) ∨
      ¬ (c.Sound ∧ doc.scheduler? c.direction ≠ none) ∧ ∃ e, doc.call c = (doc, .error e) := by
  rw [call, c.applyEdits_steps, applyEdits]
  cases h : c.edit doc with
  | ok doc' =>
    obtain ⟨hsound, hsome, rfl⟩ := PolicyCall.edit_eq_ok_iff.mp h
    exact .inl ⟨⟨hsound, hsome⟩, rfl⟩
  | error e =>
    refine .inr ⟨fun ⟨hsound, hsome⟩ => ?_, e, rfl⟩
    rw [PolicyCall.edit_eq_ok_iff.mpr ⟨hsound, hsome, rfl⟩] at h
    cases h

/-- A call is refused if its value is not sound or there is no scheduler to write it to. -/
theorem call_eq_error_iff {doc : PolicyDocument α} {c : PolicyCall α} :
    (∃ e, (doc.call c).2 = .error e) ↔ doc.scheduler? c.direction = none ∨ ¬ c.Sound := by
  rcases doc.call_cases c with ⟨⟨hsound, hsome⟩, hok⟩ | ⟨hnot, e, herr⟩
  · rw [hok]
    exact iff_of_false (fun ⟨_, h⟩ => nomatch h) fun h => h.elim hsome fun hc => hc hsound
  · rw [herr]
    refine iff_of_true ⟨e, rfl⟩ ?_
    cases hs : doc.scheduler? c.direction with
    | none => exact .inl rfl
    | some p => exact .inr fun hsound => hnot ⟨hsound, hs ▸ Option.some_ne_none p⟩

/-- A refused call leaves the document as it was. -/
theorem call_of_error {doc : PolicyDocument α} {c : PolicyCall α} {e : PolicyError α}
    (h : (doc.call c).2 = .error e) : (doc.call c).1 = doc := by
  rcases doc.call_cases c with ⟨-, hok⟩ | ⟨-, e, herr⟩
  · rw [hok] at h
    cases h
  · rw [herr]

/-- A valid document stays valid through a call. -/
theorem validate_call (hzero : Share.Valid (0 : α)) {doc : PolicyDocument α}
    (hvalid : doc.validate = .ok ()) (c : PolicyCall α) : (doc.call c).1.validate = .ok () := by
  rcases doc.call_cases c with ⟨⟨hsound, -⟩, hok⟩ | ⟨-, e, herr⟩
  · rw [hok]
    refine validate_eq_ok_iff.mpr ?_
    exact forall_modifyFirst (P := fun p => ∀ y ∈ p.shares, Share.Valid y)
      (fun _ hp => PolicyCall.valid_write hzero hsound hp) (validate_eq_ok_iff.mp hvalid)
  · rw [herr]
    exact hvalid

/-- Calls neither add nor remove a scheduler. -/
theorem scheduler?_call_eq_none_iff {doc : PolicyDocument α} {c : PolicyCall α} {d : Direction} :
    (doc.call c).1.scheduler? d = none ↔ doc.scheduler? d = none := by
  rcases doc.call_cases c with ⟨-, hok⟩ | ⟨-, e, herr⟩
  · rw [hok, scheduler?_modifyFirst]
    split
    · next h => rw [h, Option.map_eq_none_iff]
    · rfl
  · rw [herr]

section

/- What `φ` reads from the scheduler of a direction, and what calls set there. -/
variable {β : Type} {φ : Scheduler α → β} {sets : PolicyCall α → Option β} {d : Direction}

/-- A call shows at the place that it sets, and at no other. -/
theorem map_scheduler_call (hother : ∀ c : PolicyCall α, c.direction ≠ d → sets c = none)
    (hwrite : ∀ (c : PolicyCall α) p, c.direction = d → φ (c.write p) = (sets c).getD (φ p))
    (doc : PolicyDocument α) (c : PolicyCall α) :
    ((doc.call c).1.scheduler d).map φ = lastSet sets (doc.accepted [c]) ((doc.scheduler d).map φ) := by
  rcases doc.call_cases c with ⟨⟨-, hsome⟩, hok⟩ | ⟨-, e, herr⟩
  · have haccepted : doc.accepted [c] = [c] := by simp only [accepted, hok]
    rw [haccepted, hok, scheduler_modifyFirst]
    by_cases hd : c.direction = d
    · obtain ⟨p, hp⟩ := Option.ne_none_iff_exists'.mp hsome
      have hs : doc.scheduler d = .ok p := by rw [scheduler, ← hd, hp]
      rw [if_pos hd.symm, hs]
      change Except.ok (φ (c.write p)) = lastSet sets [c] (.ok (φ p))
      rw [hwrite c p hd]
      cases h : sets c <;> simp [lastSet, h]
    · rw [if_neg (Ne.symm hd)]
      simp [lastSet, hother c hd]
  · have haccepted : doc.accepted [c] = [] := by simp only [accepted, herr]
    rw [haccepted, herr]
    rfl

/-- After calls a place reads what the last of them set that was let through and set it at all. -/
theorem map_scheduler_after (hother : ∀ c : PolicyCall α, c.direction ≠ d → sets c = none)
    (hwrite : ∀ (c : PolicyCall α) p, c.direction = d → φ (c.write p) = (sets c).getD (φ p))
    (doc : PolicyDocument α) (calls : List (PolicyCall α)) :
    ((doc.after calls).scheduler d).map φ =
      lastSet sets (doc.accepted calls) ((doc.scheduler d).map φ) := by
  induction calls generalizing doc with
  | nil => rfl
  | cons c rest ih =>
    have hsplit : doc.accepted (c :: rest) = doc.accepted [c] ++ (doc.call c).1.accepted rest := by
      rcases doc.call_cases c with ⟨-, hok⟩ | ⟨-, e, herr⟩
      · simp only [accepted, hok]
        rfl
      · simp only [accepted, herr]
        rfl
    rw [hsplit, PolicyCall.lastSet_append, ← map_scheduler_call hother hwrite, ← ih]
    rfl

end

/-- A valid document stays valid through a run of calls. -/
theorem validate_after (hzero : Share.Valid (0 : α)) {doc : PolicyDocument α}
    (hvalid : doc.validate = .ok ()) (calls : List (PolicyCall α)) :
    (doc.after calls).validate = .ok () := by
  induction calls generalizing doc with
  | nil => exact hvalid
  | cons c rest ih => exact ih (validate_call hzero hvalid c)

/-- A run of calls neither adds nor removes a scheduler. -/
theorem scheduler?_after_eq_none_iff {doc : PolicyDocument α} {calls : List (PolicyCall α)}
    {d : Direction} : (doc.after calls).scheduler? d = none ↔ doc.scheduler? d = none := by
  induction calls generalizing doc with
  | nil => rfl
  | cons c rest ih => exact ih.trans scheduler?_call_eq_none_iff

/-! ## The map -/

/-- What `doc` is after calls, read as a map from places to values. -/
structure ActsAsMap (doc : PolicyDocument α) (calls : List (PolicyCall α)) : Prop where
  valid : (doc.after calls).validate = .ok ()
  /-- any further call is one change of the document, however many steps it takes -/
  atomic : ∀ c, (doc.after calls).call c = (doc.after calls).applyEdits [c.edit]
  /-- it is refused for its own value, or for want of a scheduler, which no call can remedy -/
  refused : ∀ c, (∃ e, ((doc.after calls).call c).2 = .error e) ↔
    doc.scheduler? c.direction = none ∨ ¬ c.Sound
  /-- when it is refused it leaves the document as it is -/
  unchanged : ∀ c e, ((doc.after calls).call c).2 = .error e → ((doc.after calls).call c).1 = doc.after calls
  /-- a place reads what the last call set that was let through and set this place -/
  numSlices : ∀ d, (doc.after calls).numSlices d =
    lastSet (PolicyCall.numSlices? d) (doc.accepted calls) (doc.numSlices d)
  share : ∀ s d, (doc.after calls).sliceShare s d =
    lastSet (PolicyCall.share? s d) (doc.accepted calls) (doc.sliceShare s d)
  cap : ∀ s d, (doc.after calls).sliceCap s d =
    lastSet (PolicyCall.cap? s d) (doc.accepted calls) (doc.sliceCap s d)

/-- **A policy acts as a map.** A valid document stays valid whatever is called on it. Refused calls leave no
trace, and every number of slices, share and cap reads what was set there last, or what it read at the start. -/
theorem actsAsMap {doc : PolicyDocument Float} (hvalid : doc.validate = .ok ())
    (calls : List (PolicyCall Float)) : doc.ActsAsMap calls where
  valid := validate_after (by decide +kernel) hvalid calls
  atomic c := c.applyEdits_steps _
  refused c := by rw [call_eq_error_iff, scheduler?_after_eq_none_iff]
  unchanged _ _ := call_of_error
  numSlices _ := map_scheduler_after PolicyCall.numSlices?_of_ne PolicyCall.activeSlices_write doc calls
  share s _ := map_scheduler_after (PolicyCall.share?_of_ne s) (PolicyCall.share_write s) doc calls
  cap s _ := map_scheduler_after (PolicyCall.cap?_of_ne s) (PolicyCall.cap_write s) doc calls

/-- Calls on a document with short lists. The share of a slice behind its end makes a list longer, one of more than
the whole cell is refused, and the uplink cap stops at its ceiling; the other places read as before. -/
theorem actsAsMap_short_lists :
    let doc : PolicyDocument Float :=
      ⟨[⟨some ⟨none, ⟨1, by decide⟩, [1], []⟩, none⟩, ⟨none, some ⟨none, ⟨1, by decide⟩, [], []⟩⟩]⟩
    let behind : PolicyCall Float := .share ⟨3, by decide⟩ 0.5 .dl
    let refused : PolicyCall Float := .share ⟨1, by decide⟩ 1.5 .dl
    let cap : PolicyCall Float := .cap ⟨2, by decide⟩ ⟨20, by decide⟩ .ul
    let calls := [behind, refused, cap]
    doc.validate = .ok () ∧ doc.ActsAsMap calls ∧ doc.accepted calls = [behind, cap] ∧
      (doc.after calls).sliceShare ⟨3, by decide⟩ .dl = .ok 0.5 ∧
      (doc.after calls).sliceShare ⟨1, by decide⟩ .dl = .ok 0 ∧
      (doc.after calls).sliceShare ⟨0, by decide⟩ .dl = .ok 1 ∧
      (doc.after calls).sliceCap ⟨2, by decide⟩ .ul = .ok ⟨16, by decide⟩ ∧
      (doc.after calls).sliceCap ⟨2, by decide⟩ .dl = .ok ⟨28, by decide⟩ ∧
      (doc.after calls).numSlices .dl = .ok ⟨1, by decide⟩ := by
  intro doc behind refused cap calls
  have hshares : ∀ y ∈ doc.allShares, Share.Valid y := by decide +kernel
  have hvalid : doc.validate = .ok () := forM_checkShare_eq_ok_iff.mpr hshares
  have haccepted : doc.accepted calls = [behind, cap] := by decide +kernel
  have h := actsAsMap hvalid calls
  refine ⟨hvalid, h, haccepted, (h.share _ _).trans ?_, (h.share _ _).trans ?_, (h.share _ _).trans ?_,
    (h.cap _ _).trans ?_, (h.cap _ _).trans ?_, (h.numSlices _).trans ?_⟩
  all_goals
    rw [haccepted]
    rfl

end PolicyDocument

end RanSlicing
