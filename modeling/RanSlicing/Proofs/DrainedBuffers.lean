import RanSlicing.Proofs.BlockSizes
import RanSlicing.Proofs.HandOut

/-!
# Draining buffers with one block

The channels of a user are granted resource blocks one by one, and what is sent is one transport block over all
of them. Suppose that every channel is satisfied: what it is granted would carry its buffer in a block of its
own. Then the one block carries the buffer of any one channel, and at least eight ninths of all buffers together
(`Estimate.backlog_le`). All of them it need not carry, because the table of transport blocks does not add up;
two channels of 18 bytes each are enough to lose the ninth part (`Estimate.not_drained`).

Whether a user is drained is a matter of its grants alone: if the sizes at the grants add up to no more than the
size at their sum, then it is, and if not, then there are queues with the same grants that are not drained
(`Estimate.drained_fill_iff`).
-/

namespace RanSlicing

/-! ## Satisfied users -/

/-- What the channels of a user have to send in a direction, together. -/
def User.backlog (d : Direction) (u : User) : Nat := total (u.channels.map fun c => c.required d)

/-- Every channel of a user is granted as many resource blocks as carry its buffer. -/
def User.Satisfied (ulMcs : Mcs) (d : Direction) (budget : Nat) (u : User) : Prop :=
  List.Forall₂ (fun c k => c.required d ≤ TransportBlock.bytes ((Estimate.linkMcs ulMcs u d).itbs d) k)
    u.channels (Estimate.handOut budget (u.loads ulMcs d))

instance (ulMcs : Mcs) (d : Direction) (budget : Nat) (u : User) : Decidable (u.Satisfied ulMcs d budget) :=
  inferInstanceAs (Decidable (List.Forall₂ ..))

theorem User.satisfied_iff {ulMcs : Mcs} {d : Direction} {budget : Nat} {u : User} :
    u.Satisfied ulMcs d budget ↔
      List.Forall₂ (fun n k => n ≤ TransportBlock.bytes ((Estimate.linkMcs ulMcs u d).itbs d) k)
        (u.channels.map fun c => c.required d) (Estimate.handOut budget (u.loads ulMcs d)) := by
  rw [List.forall₂_map_left_iff, Satisfied]

namespace Estimate

/-- The block of a user is as large as its grants together. -/
theorem bytes_link (ulMcs : Mcs) (u : User) (d : Direction) (budget : Nat) :
    (link ulMcs u d budget).tbsBits / 8 = TransportBlock.bytes ((linkMcs ulMcs u d).itbs d)
      (total (handOut budget (u.loads ulMcs d))) := by
  rw [link_eq_linkAt]
  rfl

/-- Together the grants of a user stay within the table of transport blocks. -/
theorem total_handOut_le {budget : Nat} (hbudget : budget ≤ TransportBlock.maxRb) (xs : List Load) :
    total (handOut budget xs) ≤ TransportBlock.maxRb := by
  rw [total_handOut xs hbudget]
  omega

/-- **Draining buffers with one block.** The block of a satisfied user carries the buffer of any one of its
channels, and at least eight ninths of all buffers together. It carries all of them if the block sizes at the
single grants add up to no more than the size at their sum. -/
theorem backlog_le (ulMcs : Mcs) {u : User} {d : Direction} {budget : Nat}
    (hbudget : budget ≤ TransportBlock.maxRb) (h : u.Satisfied ulMcs d budget) :
    let e := link ulMcs u d budget
    let granted := handOut budget (u.loads ulMcs d)
    (∀ c ∈ u.channels, c.required d ≤ e.tbsBits / 8) ∧ 8 * u.backlog d ≤ 9 * (e.tbsBits / 8) ∧
      (total (granted.map (TransportBlock.bytes e.itbs)) ≤ TransportBlock.bytes e.itbs (total granted) →
        u.backlog d ≤ e.tbsBits / 8) := by
  intro e granted
  have hsize : e.tbsBits / 8 = TransportBlock.bytes e.itbs (total granted) := bytes_link ulMcs u d budget
  have htable : total granted ≤ TransportBlock.maxRb := total_handOut_le hbudget _
  have hbacklog : u.backlog d ≤ total (granted.map (TransportBlock.bytes e.itbs)) := total_le_of_forall₂ h
  rw [hsize]
  refine ⟨fun c hc => ?_, ?_, Nat.le_trans hbacklog⟩
  · obtain ⟨i, hi, rfl⟩ := List.getElem_of_mem hc
    obtain ⟨hlength, hcovers⟩ := List.forall₂_iff_get.mp h
    have hmem : granted[i] ∈ granted := List.getElem_mem (hlength ▸ hi)
    exact Nat.le_trans (hcovers i hi _) (TransportBlock.bytes_mono_rb _ (le_total_of_mem hmem) htable)
  · calc 8 * u.backlog d
        ≤ 8 * total (granted.map (TransportBlock.bytes e.itbs)) := Nat.mul_le_mul_left _ hbacklog
      _ ≤ 9 * TransportBlock.bytes e.itbs (total granted) :=
          TransportBlock.total_bytes_le _ even_of_mem_handOut htable

/-- Three channels that are satisfied with 2, 8 and 6 resource blocks. The sizes of these blocks add up, and so
the block of 16 carries the whole backlog. -/
theorem backlog_le_three_channels :
    let u : User := ⟨0, 0, 70, ⟨9, by decide⟩, 3,
      [⟨3, ⟨0, by decide⟩, 60⟩, ⟨4, ⟨0, by decide⟩, 300⟩, ⟨5, ⟨0, by decide⟩, 200⟩]⟩
    let e := link defaultUlMcs u .dl 25
    let granted := handOut 25 (u.loads defaultUlMcs .dl)
    25 ≤ TransportBlock.maxRb ∧ u.Satisfied defaultUlMcs .dl 25 ∧ granted = [2, 8, 6] ∧
      total (granted.map (TransportBlock.bytes e.itbs)) ≤ TransportBlock.bytes e.itbs (total granted) ∧
      u.backlog .dl ≤ e.tbsBits / 8 := by
  intro u e granted
  have hbudget : 25 ≤ TransportBlock.maxRb := by decide
  have hsatisfied : u.Satisfied defaultUlMcs .dl 25 := by decide +kernel
  have hsizes : total (granted.map (TransportBlock.bytes e.itbs)) ≤
      TransportBlock.bytes e.itbs (total granted) := by decide +kernel
  obtain ⟨-, -, hdrained⟩ := backlog_le defaultUlMcs hbudget hsatisfied
  exact ⟨hbudget, hsatisfied, by decide +kernel, hsizes, hdrained hsizes⟩

/-- Two channels with poor reception and 18 bytes each. Each is satisfied with 4 resource blocks, and the block
of 8 carries 32 bytes, not 36: eight ninths of the backlog and no more. -/
theorem not_drained :
    let u : User := ⟨0, 0, 70, ⟨2, by decide⟩, 3,
      [⟨3, ⟨0, by decide⟩, 18⟩, ⟨4, ⟨0, by decide⟩, 18⟩]⟩
    let e := link defaultUlMcs u .dl 110
    110 ≤ TransportBlock.maxRb ∧ u.Satisfied defaultUlMcs .dl 110 ∧
      handOut 110 (u.loads defaultUlMcs .dl) = [4, 4] ∧ e.tbsBits / 8 < u.backlog .dl ∧
      8 * u.backlog .dl = 9 * (e.tbsBits / 8) := by
  decide +kernel

/-! ## Users that are not drained -/

/-- A grant that carries a buffer is also the grant for the largest buffer that it carries. -/
theorem grant_bytes_grant {x : Load} {budget : Nat}
    (h : x.required ≤ TransportBlock.bytes x.itbs (grant x.itbs x.required budget)) :
    grant x.itbs (TransportBlock.bytes x.itbs (grant x.itbs x.required budget)) budget =
      grant x.itbs x.required budget := by
  obtain ⟨hmem, ⟨heven, htwo, -⟩, hleast⟩ | ⟨hlast, hnone⟩ := grant_cases x budget
  · obtain ⟨-, -, hbudget⟩ := mem_steps.mp hmem
    refine grant_of_covered (x := ⟨x.itbs, _⟩) hbudget ⟨heven, htwo, Nat.le_refl _⟩ fun j hj hcovered => ?_
    obtain ⟨hjeven, hjtwo, hjcovers⟩ := hcovered
    exact hleast j hj ⟨hjeven, hjtwo, Nat.le_trans h hjcovers⟩
  · -- the last step would carry the buffer, so there is no step
    have hsmall : budget < 2 := by
      refine Nat.lt_of_not_le fun htwo => hnone _ ?_ ⟨?_, ?_, h⟩
      all_goals omega
    rw [hlast]
    refine grant_of_uncovered (x := ⟨x.itbs, _⟩) fun k hk hcovered => ?_
    obtain ⟨-, hktwo, -⟩ := hcovered
    omega

/-- Satisfied channels that fill up to what their grants carry are granted the same again. -/
theorem handOut_bytes_handOut {itbs budget : Nat} {required : List Nat}
    (h : List.Forall₂ (fun n k => n ≤ TransportBlock.bytes itbs k) required
      (handOut budget (required.map (Load.mk itbs)))) :
    handOut budget ((handOut budget (required.map (Load.mk itbs))).map fun k =>
      ⟨itbs, TransportBlock.bytes itbs k⟩) = handOut budget (required.map (Load.mk itbs)) := by
  induction required generalizing budget with
  | nil => rfl
  | cons n rest ih =>
    simp only [List.map_cons, handOut, List.forall₂_cons] at h ⊢
    obtain ⟨hfirst, hrest⟩ := h
    have hgrant := grant_bytes_grant (x := ⟨itbs, n⟩) hfirst
    simp only at hgrant
    rw [hgrant, ih hrest]

end Estimate

/-- The user with other downlink queues. -/
def User.fill (u : User) (queues : List Nat) : User :=
  { u with channels := List.zipWith (fun c n => { c with dlQueueBytes := n }) u.channels queues }

theorem User.queues_fill {u : User} {queues : List Nat} (h : queues.length = u.channels.length) :
    (u.fill queues).channels.map (fun c => c.required .dl) = queues := by
  apply List.ext_getElem
  · simp [fill, h]
  · intro i _ _
    simp [fill, Channel.required]

theorem User.loads_fill (ulMcs : Mcs) {u : User} {queues : List Nat} (h : queues.length = u.channels.length) :
    (u.fill queues).loads ulMcs .dl = queues.map (Load.mk ((Estimate.linkMcs ulMcs u .dl).itbs .dl)) := by
  rw [loads_eq, queues_fill h]
  rfl

namespace Estimate

/-- **What decides whether a user is drained.** Fill the downlink queues of a satisfied user up to what its
grants carry. It is granted the same and it is satisfied again; and its block carries the whole backlog exactly
if the block sizes at the single grants add up to no more than the size at their sum. -/
theorem drained_fill_iff (ulMcs : Mcs) {u : User} {budget : Nat} (h : u.Satisfied ulMcs .dl budget) :
    let itbs := (linkMcs ulMcs u .dl).itbs .dl
    let granted := handOut budget (u.loads ulMcs .dl)
    let u' := u.fill (granted.map (TransportBlock.bytes itbs))
    handOut budget (u'.loads ulMcs .dl) = granted ∧ u'.Satisfied ulMcs .dl budget ∧
      (u'.backlog .dl ≤ (link ulMcs u' .dl budget).tbsBits / 8 ↔
        total (granted.map (TransportBlock.bytes itbs)) ≤ TransportBlock.bytes itbs (total granted)) := by
  intro itbs granted u'
  have hlength : (granted.map (TransportBlock.bytes itbs)).length = u.channels.length := by simp [granted]
  have hgranted : handOut budget (u'.loads ulMcs .dl) = granted := by
    rw [User.satisfied_iff, User.loads_eq] at h
    rw [User.loads_fill ulMcs hlength, List.map_map]
    simp only [granted, User.loads_eq]
    exact handOut_bytes_handOut h
  refine ⟨hgranted, ?_, ?_⟩
  · rw [User.satisfied_iff, hgranted, User.queues_fill hlength, List.forall₂_map_left_iff]
    exact List.forall₂_same.mpr fun _ _ => Nat.le_refl _
  · rw [bytes_link, hgranted, User.backlog, User.queues_fill hlength]
    rfl

end Estimate

end RanSlicing
