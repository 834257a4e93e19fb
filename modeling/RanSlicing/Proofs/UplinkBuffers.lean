import Mathlib.Data.List.OfFn
import Mathlib.Data.List.Sort
import Mathlib.Order.Bounds.Basic
import RanSlicing.Proofs.AcceptedCells
import RanSlicing.Proofs.Totals

/-!
# Uplink buffers

A user reports its uplink buffers by groups, each with the index of a level, and the channels of its snapshot
signal them by indices again. On the way the levels of the groups that carry data are added up, and the sum is
brought back to a level. It is never brought to a lower one, unless it is above them all: `BsrIndex.covering`
gives the least level that covers it (`BsrIndex.isLeast_covering`) or the top (`BsrIndex.covering_of_lt`).

Only the first data channel signals anything. So the channels of a user together signal what the data groups
report, once and rounded up (`Snapshot.signals_user`), and whatever else the report says is not in it.
-/

namespace RanSlicing

/-! ## Levels -/

namespace BsrIndex

theorem sorted_levels : levels.SortedLE := by decide +kernel

theorem bytes_eq_getElem (i : BsrIndex) (h : i.val < levels.length) : i.bytes = levels[i.val] := by
  rw [bytes, List.getElem?_eq_getElem h, Option.getD_some]

theorem bytes_mono {i j : BsrIndex} (h : i.val ≤ j.val) : i.bytes ≤ j.bytes := by
  have hi : i.val < levels.length := Nat.lt_succ_of_le i.le_max
  have hj : j.val < levels.length := Nat.lt_succ_of_le j.le_max
  rw [bytes_eq_getElem i hi, bytes_eq_getElem j hj]
  exact sorted_levels.getElem_le_getElem_of_le h

@[simp] theorem bytes_default : (default : BsrIndex).bytes = 0 := rfl

theorem bytes_le (i : BsrIndex) : i.bytes ≤ 150000 := bytes_mono (j := top) i.le_max

theorem mem_all (i : BsrIndex) : i ∈ all := by
  rw [all, List.mem_ofFn]
  exact ⟨⟨i.val, Nat.lt_succ_of_le i.le_max⟩, rfl⟩

/-- The indices stand in the order of their levels. -/
theorem ascending_all : all.Pairwise fun i j => i.bytes ≤ j.bytes := by
  rw [all, List.pairwise_ofFn]
  exact fun i j hij => bytes_mono (Nat.le_of_lt hij)

/-- The levels are those of the indices. -/
theorem mem_levels {l : Nat} : l ∈ levels ↔ ∃ i : BsrIndex, i.bytes = l := by
  constructor
  · intro hl
    obtain ⟨k, hk, rfl⟩ := List.mem_iff_getElem.mp hl
    exact ⟨⟨k, Nat.le_of_lt_succ hk⟩, bytes_eq_getElem _ hk⟩
  · rintro ⟨i, rfl⟩
    rw [bytes_eq_getElem i (Nat.lt_succ_of_le i.le_max)]
    exact List.getElem_mem _

/-- The index that covers some bytes has the least level that does. -/
theorem isLeast_covering {n : Nat} (h : n ≤ 150000) : IsLeast {l | l ∈ levels ∧ n ≤ l} (covering n).bytes := by
  rw [covering]
  cases hfind : all.find? (fun i => n ≤ bytes i) with
  | none =>
    rw [List.find?_eq_none] at hfind
    exact absurd (decide_eq_true h) (hfind top (mem_all top))
  | some i =>
    obtain ⟨hcovers, before, after, hall, hbefore⟩ := List.find?_eq_some_iff_append.mp hfind
    rw [Option.getD_some]
    refine ⟨⟨mem_levels.mpr ⟨i, rfl⟩, of_decide_eq_true hcovers⟩, ?_⟩
    rintro _ ⟨hl, hn⟩
    obtain ⟨j, rfl⟩ := mem_levels.mp hl
    -- an index that covers the bytes does not stand before the one that was found
    have hj : j ∈ before ++ i :: after := hall ▸ mem_all j
    have hsorted := hall ▸ ascending_all
    rcases List.mem_append.mp hj with hj | hj
    · exact absurd hn (by simpa using hbefore j hj)
    · rcases List.mem_cons.mp hj with rfl | hj
      · exact Nat.le_refl _
      · exact (List.pairwise_cons.mp (List.pairwise_append.mp hsorted).2.1).1 j hj

/-- Bytes that no level covers are signalled by the top. -/
theorem covering_of_lt {n : Nat} (h : 150000 < n) : covering n = top := by
  have hnone : all.find? (fun i => n ≤ bytes i) = none := by
    rw [List.find?_eq_none]
    intro i _
    have := bytes_le i
    simp only [decide_eq_true_eq]
    omega
  rw [covering, hnone, Option.getD_none]

end BsrIndex

/-! ## What is reported -/

namespace MacReport

/-- The bytes that wait in a group: the level that it reports, and nothing if it does not report any. -/
def waiting (m : MacReport) (group : Nat) : Nat := (BsrIndex.levels[(m.bsr.getD group 0).toNat]?).getD 0

/-- The bytes that wait in the groups that carry data. -/
def dataBytes (m : MacReport) : Nat := m.waiting 1 + m.waiting 2 + m.waiting 3

end MacReport

/-! ## What is signalled -/

/-- The uplink bytes that the channels of a user signal. -/
def User.signalled (u : User) : Nat := total (u.channels.map fun c => c.ulBsr.bytes)

/-- The channels of a user signal what the data groups of a report have. -/
structure User.Signals (m : MacReport) (u : User) : Prop where
  /-- rounded up to the next level -/
  covering : m.dataBytes ≤ 150000 → IsLeast {l | l ∈ BsrIndex.levels ∧ m.dataBytes ≤ l} u.signalled
  /-- as far as there are levels -/
  saturated : 150000 < m.dataBytes → u.signalled = 150000
  /-- by the first data channel, and by no other -/
  carried : ∃ c others, u.channels = c :: others ∧ c.ulBsr.bytes = u.signalled ∧ ∀ c' ∈ others, c'.ulBsr.bytes = 0

namespace Snapshot

variable {ue enb : Nat} {m : MacReport} {bsr : List BsrIndex}

/-- The buffer status of the groups is accepted as it was reported. -/
theorem map_val_of_groupBsr (h : groupBsr ue enb m = .ok bsr) :
    bsr.map Bounded.val = (m.bsr.take groups).map UInt8.toNat := by
  symm
  rw [← List.forall₂_eq_eq_eq, List.forall₂_map_left_iff, List.forall₂_map_right_iff]
  refine (mapM_eq_ok_iff.mp h).imp fun raw i hraw => ?_
  by_cases hle : raw.toNat ≤ Quantity.bsrIndex.max
  · rw [Bounded.ofNat_of_le hle] at hraw
    obtain rfl := Except.ok.inj hraw
    rfl
  · rw [Bounded.ofNat_of_not_le hle] at hraw
    cases hraw

/-- The first data channel speaks for all data groups. -/
theorem total_drop_groupBsr (h : groupBsr ue enb m = .ok bsr) :
    total ((bsr.drop 1).map BsrIndex.bytes) = m.dataBytes := by
  have hbytes : (bsr.drop 1).map BsrIndex.bytes =
      ((bsr.map Bounded.val).drop 1).map fun k => (BsrIndex.levels[k]?).getD 0 := by
    rw [← List.map_drop, List.map_map]
    rfl
  rw [hbytes, map_val_of_groupBsr h]
  obtain ⟨reported, phr, rlc, cqi⟩ := m
  -- a group that is not reported counts like one that reports the lowest level
  rcases reported with _ | ⟨r0, _ | ⟨r1, _ | ⟨r2, _ | ⟨r3, rest⟩⟩⟩⟩ <;>
    simp [MacReport.dataBytes, MacReport.waiting, groups, total, BsrIndex.levels, Nat.add_assoc]

/-- Behind the signalling there is a first data channel, and the others signal nothing. -/
theorem channels_cons (bsr : List BsrIndex) (a b x : RlcReport) (rest : List RlcReport) :
    ∃ others, channels bsr (a :: b :: x :: rest) =
        ⟨x.lcId, BsrIndex.covering (total ((bsr.drop 1).map BsrIndex.bytes)), x.txQueueSize.toNat⟩ :: others ∧
      ∀ c ∈ others, c.ulBsr = default := by
  refine ⟨_, rfl, fun c hc => ?_⟩
  obtain ⟨⟨r, position⟩, hmem, rfl⟩ := List.mem_map.mp hc
  have hposition := List.le_snd_of_mem_zipIdx hmem
  exact if_neg (by rw [firstDataChannel]; omega)

/-- What the channels of an accepted user signal. -/
theorem channels_of_user {r : UserReport} {u : User} (hu : user enb ue r = .ok u) (hrlc : 3 ≤ r.mac.rlc.length) :
    ∃ c others, u.channels = c :: others ∧ c.ulBsr = BsrIndex.covering r.mac.dataBytes ∧
      ∀ c' ∈ others, c'.ulBsr = default := by
  obtain ⟨q, -, h⟩ := bind_eq_ok_iff.mp hu
  obtain ⟨bsr, hbsr, h⟩ := bind_eq_ok_iff.mp h
  cases h
  match hr : r.mac.rlc, hrlc with
  | a :: b :: x :: rest, _ =>
    obtain ⟨others, hchannels, hothers⟩ := channels_cons bsr a b x rest
    exact ⟨_, others, hchannels, congrArg BsrIndex.covering (total_drop_groupBsr hbsr), hothers⟩

/-- The channels of an accepted user signal together what the first of them signals. -/
theorem signalled_of_user {r : UserReport} {u : User} (hu : user enb ue r = .ok u) (hrlc : 3 ≤ r.mac.rlc.length) :
    u.signalled = (BsrIndex.covering r.mac.dataBytes).bytes := by
  obtain ⟨c, others, hchannels, hfirst, hothers⟩ := channels_of_user hu hrlc
  have hsilent : (others.map fun c => c.ulBsr.bytes) = others.map fun _ => 0 :=
    List.map_congr_left fun c' hc' => by rw [hothers c' hc', BsrIndex.bytes_default]
  rw [User.signalled, hchannels, List.map_cons, total, hsilent, total_map_zero, Nat.add_zero, hfirst]

/-- **Uplink buffers.** The channels of an accepted user with data signal what its data groups report, rounded up
to a level, and the first data channel does so for all of them. Two reports with the same data groups lead to the
same signal, whatever else they say: group 0 and what stands behind the groups, and how many channels there are,
which ones, and what waits in them for the downlink. -/
theorem signals_user {r : UserReport} {u : User} (hu : user enb ue r = .ok u) (hrlc : 3 ≤ r.mac.rlc.length) :
    u.Signals r.mac ∧
      ∀ enb' ue' r' u', user enb' ue' r' = .ok u' → 3 ≤ r'.mac.rlc.length →
        (∀ group ∈ [1, 2, 3], r'.mac.bsr.getD group 0 = r.mac.bsr.getD group 0) →
        u'.signalled = u.signalled ∧
          u'.channels.head?.map Channel.ulBsr = u.channels.head?.map Channel.ulBsr := by
  obtain ⟨c, others, hchannels, hfirst, hothers⟩ := channels_of_user hu hrlc
  have hsignalled := signalled_of_user hu hrlc
  refine ⟨⟨fun h => ?_, fun h => ?_, c, others, hchannels, ?_, fun c' hc' => ?_⟩, ?_⟩
  · rw [hsignalled]
    exact BsrIndex.isLeast_covering h
  · rw [hsignalled, BsrIndex.covering_of_lt h]
    rfl
  · rw [hsignalled, hfirst]
  · rw [hothers c' hc', BsrIndex.bytes_default]
  · intro enb' ue' r' u' hu' hrlc' hgroups
    obtain ⟨c', others', hchannels', hfirst', -⟩ := channels_of_user hu' hrlc'
    have hsame : r'.mac.dataBytes = r.mac.dataBytes := by
      simp only [List.forall_mem_cons] at hgroups
      obtain ⟨h1, h2, h3, -⟩ := hgroups
      simp only [MacReport.dataBytes, MacReport.waiting, h1, h2, h3]
    constructor
    · rw [signalled_of_user hu' hrlc', hsignalled, hsame]
    · rw [hchannels', hchannels, List.head?_cons, List.head?_cons, Option.map_some, Option.map_some, hfirst',
        hfirst, hsame]

/-- Two users whose data groups report 42 and 19 bytes. They differ in group 0, in the number of entries, one of
which is no index at all, and in their channels, and both signal 67 bytes. -/
theorem signals_user_two_groups :
    let cqi : Option CqiReport := some ⟨7, [⟨0, some 15⟩]⟩
    let r : UserReport :=
      ⟨70, ⟨[9, 10, 5, 0, 200], 35, [⟨1, 0, 0, 0⟩, ⟨2, 0, 0, 0⟩, ⟨3, 1500, 0, 0⟩, ⟨4, 200, 0, 0⟩], cqi⟩⟩
    let r' : UserReport := ⟨71, ⟨[63, 10, 5], 12, [⟨1, 8, 0, 0⟩, ⟨2, 8, 0, 0⟩, ⟨9, 0, 0, 0⟩], cqi⟩⟩
    let u : User :=
      ⟨0, 0, 70, ⟨15, by decide⟩, 35, [⟨3, ⟨13, by decide⟩, 1500⟩, ⟨4, ⟨0, by decide⟩, 200⟩]⟩
    let u' : User := ⟨4, 2, 71, ⟨15, by decide⟩, 12, [⟨9, ⟨13, by decide⟩, 0⟩]⟩
    user 0 0 r = .ok u ∧ 3 ≤ r.mac.rlc.length ∧ user 4 2 r' = .ok u' ∧ r.mac.dataBytes = 61 ∧ u.signalled = 67 ∧
      u.Signals r.mac ∧ u'.signalled = u.signalled := by
  intro cqi r r' u u'
  have hu : user 0 0 r = .ok u := by decide +kernel
  have hu' : user 4 2 r' = .ok u' := by decide +kernel
  obtain ⟨hsignals, hothers⟩ := signals_user hu (by decide)
  exact ⟨hu, by decide, hu', by decide, by decide, hsignals, (hothers 4 2 r' u' hu' (by decide) (by decide)).1⟩

end Snapshot

end RanSlicing
