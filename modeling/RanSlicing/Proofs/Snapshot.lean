import RanSlicing.Stats.Snapshot
import Mathlib.Data.List.Forall2

/-!
# The cells of a snapshot

What is certain about every cell that makes it into a snapshot, whatever the report says otherwise:
it stands at its own position, the positions ascend, and its modulation ceiling is the one that goes
with its 64-QAM switch. All of it is read off the checks of one cell (`Snapshot.cellStats_eq_ok_iff`).
A position whose cell does not make it is among those left out, so a snapshot accounts for every
position once (`Snapshot.perm_ofReport`).
-/

namespace RanSlicing

theorem toOption_eq_some_iff {ε β : Type} {x : Except ε β} {b : β} :
    x.toOption = some b ↔ x = .ok b := by
  cases x <;> simp [Except.toOption]

/-- Two checks in a row succeed exactly if the first does, and then the second. -/
theorem bind_eq_ok_iff {ε β γ : Type} {x : Except ε β} {f : β → Except ε γ} {c : γ} :
    x >>= f = .ok c ↔ ∃ b, x = .ok b ∧ f b = .ok c := by
  cases x with
  | error e => exact iff_of_false (fun h => nomatch h) fun ⟨_, h, _⟩ => nomatch h
  | ok b =>
    constructor
    · exact fun h => ⟨b, rfl, h⟩
    · rintro ⟨_, ⟨⟩, h⟩
      exact h

/-- Checking every element of a list gives the values of the checks in order, if none fails. -/
theorem mapM_eq_ok_iff {ε β γ : Type} {f : β → Except ε γ} {xs : List β} {ys : List γ} :
    xs.mapM f = .ok ys ↔ List.Forall₂ (fun x y => f x = .ok y) xs ys := by
  induction xs generalizing ys with
  | nil =>
    rw [List.mapM_nil, List.forall₂_nil_left_iff]
    exact ⟨fun h => (Except.ok.inj h).symm, fun h => h ▸ rfl⟩
  | cons x rest ih =>
    rw [List.mapM_cons, bind_eq_ok_iff, List.forall₂_cons_left_iff]
    constructor
    · rintro ⟨y, hy, h⟩
      obtain ⟨zs, hrest, h⟩ := bind_eq_ok_iff.mp h
      exact ⟨y, zs, hy, ih.mp hrest, (Except.ok.inj h).symm⟩
    · rintro ⟨y, zs, hy, hrest, rfl⟩
      exact ⟨y, hy, bind_eq_ok_iff.mpr ⟨zs, ih.mpr hrest, rfl⟩⟩

/-- Checking every element of a list gives one value for each, if no check fails. -/
theorem length_of_mapM {ε β γ : Type} {f : β → Except ε γ} {xs : List β} {ys : List γ}
    (h : xs.mapM f = .ok ys) : ys.length = xs.length :=
  (mapM_eq_ok_iff.mp h).length_eq.symm

/-- Whether a base station has 64-QAM enabled on its first carrier, the only one that counts. -/
def EnbConfig.enables64Qam (c : EnbConfig) : Bool :=
  c.carriers.head?.any (fun carrier => carrier.enable64Qam ≠ 0)

/-- The users that MAC stats report; without stats there are none. -/
def EnbMac.reported (mac : Option EnbMac) : List UserReport := (mac.map EnbMac.users).getD []

namespace Snapshot

variable {enb : Nat} {config : EnbConfig} {mac : Option EnbMac}

/-- A carrier is not too wide if it is not so in either direction. -/
theorem tooWide?_eq_none_iff {carrier : CarrierReport} :
    tooWide? carrier = none ↔ ∀ d, (carrier.bandwidth.get d).toNat ≤ 110 := by
  rw [tooWide?, List.find?_eq_none]
  constructor
  · intro h d
    have hd := h d (by cases d <;> decide)
    exact Nat.not_lt.mp fun hlt => hd (decide_eq_true hlt)
  · exact fun h d _ hlt => absurd (of_decide_eq_true hlt) (Nat.not_lt.mpr (h d))

/-- A cell is accepted if it has a carrier and the first of them is not too wide; it shows what that one
says. -/
theorem cell_eq_ok_iff {sfn : UInt32} {c : Cell} : cell enb config sfn = .ok c ↔
    ∃ carrier rest, config.carriers = carrier :: rest ∧ (∀ d, (carrier.bandwidth.get d).toNat ≤ 110) ∧
      c = ⟨enb, config.bsId, sfn, carrier.bandwidth.map UInt32.toNat,
        Cell.ceilingOf (carrier.enable64Qam ≠ 0)⟩ := by
  rw [cell]
  cases config.carriers with
  | nil => exact iff_of_false (fun h => nomatch h) fun ⟨_, _, h, _⟩ => nomatch h
  | cons carrier rest =>
    constructor
    · intro h
      cases hwide : tooWide? carrier with
      | some d =>
        simp only [hwide] at h
        cases h
      | none =>
        simp only [hwide] at h
        exact ⟨carrier, rest, rfl, tooWide?_eq_none_iff.mp hwide, (Except.ok.inj h).symm⟩
    · rintro ⟨_, _, ⟨⟩, hle, rfl⟩
      simp only [tooWide?_eq_none_iff.mpr hle]

/-- MAC stats are accepted for the base station that is configured. -/
theorem checkIdentity_eq_ok_iff (enb : Nat) :
    checkIdentity enb config mac = .ok () ↔ ∀ m ∈ mac, m.bsId = config.bsId := by
  cases mac with
  | none => exact iff_of_true rfl fun _ h => nomatch h
  | some m =>
    simp only [checkIdentity, Option.mem_some_iff, forall_eq']
    split
    · next h => exact iff_of_true rfl h
    · next h => exact iff_of_false (fun h => nomatch h) h

/-- What it takes for a cell to be accepted, and what it is then. -/
theorem cellStats_eq_ok_iff {c : CellStats} : cellStats enb config mac = .ok c ↔
    (∀ m ∈ mac, m.bsId = config.bsId) ∧
      (EnbMac.reported mac).zipIdx.mapM (fun (r, ue) => user enb ue r) = .ok c.users ∧
      cell enb config (((EnbMac.reported mac).head?.bind fun r => r.mac.sfn).getD 0) = .ok c.cell := by
  rw [← checkIdentity_eq_ok_iff enb]
  simp only [cellStats, bind_eq_ok_iff, EnbMac.reported]
  constructor
  · rintro ⟨_, hidentity, users, husers, cell, hcell, h⟩
    cases h
    exact ⟨hidentity, husers, hcell⟩
  · rintro ⟨hidentity, husers, hcell⟩
    exact ⟨(), hidentity, c.users, husers, c.cell, hcell, rfl⟩

/-- A cell that is accepted has one user for each one reported. -/
theorem length_users_of_cellStats {c : CellStats} (h : cellStats enb config mac = .ok c) :
    c.users.length = ((mac.map EnbMac.users).getD []).length := by
  obtain ⟨-, husers, -⟩ := cellStats_eq_ok_iff.mp h
  rw [length_of_mapM husers, List.length_zipIdx, EnbMac.reported]

/-- A cell that is accepted stands at the position that it was looked for, under the base station and
with the ceilings that were configured there. -/
theorem eq_of_cellStats {c : CellStats} (h : cellStats enb config mac = .ok c) :
    c.cell.enbId = enb ∧ c.cell.bsId = config.bsId ∧
      c.cell.ceiling = Cell.ceilingOf config.enables64Qam := by
  obtain ⟨-, -, hcell⟩ := cellStats_eq_ok_iff.mp h
  obtain ⟨carrier, rest, hcarriers, -, hcell⟩ := cell_eq_ok_iff.mp hcell
  rw [hcell, EnbConfig.enables64Qam, hcarriers]
  exact ⟨rfl, rfl, rfl⟩

/-- The cells of a snapshot are the configurations that pass all checks. -/
theorem cells_ofReport (r : StatsReport) :
    (ofReport r).cells = r.configs.zipIdx.filterMap
      (fun p => (cellStats p.2 p.1 r.macs[p.2]?).toOption) := by
  simp only [ofReport]
  induction r.configs.zipIdx with
  | nil => rfl
  | cons p rest ih =>
    obtain ⟨config, enb⟩ := p
    simp only [List.foldr_cons, List.filterMap_cons]
    cases cellStats enb config r.macs[enb]? with
    | ok c => exact congrArg (c :: ·) ih
    | error f => exact ih

/-- The cells that were left out are the configurations that fail a check. -/
theorem rejected_ofReport (r : StatsReport) :
    (ofReport r).rejected = r.configs.zipIdx.filterMap (fun p =>
      match cellStats p.2 p.1 r.macs[p.2]? with
      | .ok _ => none
      | .error f => some ⟨p.2, p.1.bsId, f⟩) := by
  simp only [ofReport]
  induction r.configs.zipIdx with
  | nil => rfl
  | cons p rest ih =>
    obtain ⟨config, enb⟩ := p
    simp only [List.foldr_cons, List.filterMap_cons]
    cases cellStats enb config r.macs[enb]? with
    | ok c => exact ih
    | error f => exact congrArg (_ :: ·) ih

/-- The cells of a snapshot are those that make sense at their positions. -/
theorem mem_cells_ofReport {r : StatsReport} {c : CellStats} :
    c ∈ (ofReport r).cells ↔
      ∃ i config, r.configs[i]? = some config ∧ cellStats i config r.macs[i]? = .ok c := by
  rw [cells_ofReport, List.mem_filterMap]
  constructor
  · rintro ⟨⟨config, i⟩, hp, hc⟩
    exact ⟨i, config, List.mem_zipIdx_iff_getElem?.mp hp, toOption_eq_some_iff.mp hc⟩
  · rintro ⟨i, config, hconfig, hc⟩
    exact ⟨(config, i), List.mem_zipIdx_iff_getElem?.mpr hconfig, toOption_eq_some_iff.mpr hc⟩

/-- The cells that were left out are those with a fault at their positions. -/
theorem mem_rejected_ofReport {r : StatsReport} {x : RejectedCell} :
    x ∈ (ofReport r).rejected ↔
      ∃ i config f, r.configs[i]? = some config ∧ cellStats i config r.macs[i]? = .error f ∧
        x = ⟨i, config.bsId, f⟩ := by
  rw [rejected_ofReport, List.mem_filterMap]
  constructor
  · rintro ⟨⟨config, i⟩, hp, hx⟩
    dsimp only at hx
    split at hx
    · cases hx
    · next f hf =>
      exact ⟨i, config, f, List.mem_zipIdx_iff_getElem?.mp hp, hf, (Option.some.inj hx).symm⟩
  · rintro ⟨i, config, f, hconfig, hf, rfl⟩
    exact ⟨(config, i), List.mem_zipIdx_iff_getElem?.mpr hconfig, by dsimp only; rw [hf]⟩

/-- What is kept of the positions of a report keeps their order. -/
theorem pairwise_filterMap_zipIdx {β γ : Type} {f : β × Nat → Option γ} (position : γ → Nat)
    (hf : ∀ p y, f p = some y → position y = p.2) (xs : List β) :
    (xs.zipIdx.filterMap f).Pairwise (fun y y' => position y < position y') := by
  have hidx : xs.zipIdx.Pairwise (fun p p' => p.2 < p'.2) := by
    rw [← List.pairwise_map (f := Prod.snd) (R := (· < ·)), List.zipIdx_map_snd]
    exact List.pairwise_lt_range'
  refine hidx.filterMap _ fun p p' hlt y hy y' hy' => ?_
  rw [hf p y hy, hf p' y' hy']
  exact hlt

/-- The positions of the cells ascend. -/
theorem pairwise_enbId_cells (r : StatsReport) :
    (ofReport r).cells.Pairwise (fun c c' => c.cell.enbId < c'.cell.enbId) := by
  rw [cells_ofReport]
  exact pairwise_filterMap_zipIdx (fun c => c.cell.enbId)
    (fun _ _ hc => (eq_of_cellStats (toOption_eq_some_iff.mp hc)).1) r.configs

/-- Every position of a report is that of one cell, or of one cell that was left out. -/
theorem perm_ofReport (r : StatsReport) :
    ((ofReport r).cells.map (fun c => c.cell.enbId) ++
      (ofReport r).rejected.map RejectedCell.enbId).Perm (List.range r.configs.length) := by
  rw [List.range_eq_range', ← List.zipIdx_map_snd 0 r.configs]
  simp only [ofReport]
  induction r.configs.zipIdx with
  | nil => exact .nil
  | cons p rest ih =>
    obtain ⟨config, enb⟩ := p
    simp only [List.foldr_cons, List.map_cons]
    cases hc : cellStats enb config r.macs[enb]? with
    | ok c =>
      dsimp only
      rw [List.map_cons, (eq_of_cellStats hc).1]
      exact ih.cons enb
    | error f =>
      dsimp only
      rw [List.map_cons]
      exact List.perm_middle.trans (ih.cons enb)

end Snapshot

end RanSlicing
