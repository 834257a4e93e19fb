import Mathlib.Algebra.BigOperators.Ring.List
import Mathlib.Algebra.Order.BigOperators.Group.List
import Mathlib.Algebra.Order.Ring.Nat
import Mathlib.Data.List.Nodup
import RanSlicing.Radio.Quantity

/-!
# Totals

Resource blocks and bytes are added up over channels, users and slices. A total is the sum of the list
(`total_eq_sum`); the other lemmas are about the lists that come up in these accounts.
-/

namespace RanSlicing

theorem total_eq_sum (xs : List Nat) : total xs = xs.sum := by
  induction xs with
  | nil => rfl
  | cons x rest ih => rw [total, ih, List.sum_cons]

theorem le_total_of_mem {xs : List Nat} {x : Nat} (h : x ∈ xs) : x ≤ total xs := by
  rw [total_eq_sum]
  exact List.le_sum_of_mem h

theorem total_even {xs : List Nat} (h : ∀ x ∈ xs, x % 2 = 0) : total xs % 2 = 0 := by
  rw [total_eq_sum]
  exact Nat.mod_eq_zero_of_dvd (List.dvd_sum fun x hx => Nat.dvd_of_mod_eq_zero (h x hx))

theorem total_map_add {ι : Type} (f g : ι → Nat) (xs : List ι) :
    total (xs.map fun x => f x + g x) = total (xs.map f) + total (xs.map g) := by
  simp only [total_eq_sum, List.sum_map_add]

theorem total_map_zero {ι : Type} (xs : List ι) : total (xs.map fun _ => 0) = 0 := by
  simp [total_eq_sum]

theorem total_map_le {ι : Type} {f g : ι → Nat} {xs : List ι} (h : ∀ x ∈ xs, f x ≤ g x) :
    total (xs.map f) ≤ total (xs.map g) := by
  rw [total_eq_sum, total_eq_sum]
  exact List.sum_le_sum h

theorem total_le_of_forall₂ {ι κ : Type} {f : ι → Nat} {g : κ → Nat} {xs : List ι} {ys : List κ}
    (h : List.Forall₂ (fun x y => f x ≤ g y) xs ys) : total (xs.map f) ≤ total (ys.map g) := by
  rw [total_eq_sum, total_eq_sum]
  apply List.Forall₂.sum_le_sum
  rwa [List.forall₂_map_left_iff, List.forall₂_map_right_iff]

/-- What is counted at one element only is counted once. -/
theorem total_map_ite {ι : Type} [DecidableEq ι] {xs : List ι} (hnodup : xs.Nodup) {a : ι}
    (ha : a ∈ xs) (k : Nat) : total (xs.map fun x => if a = x then k else 0) = k := by
  induction xs with
  | nil => cases ha
  | cons x rest ih =>
    obtain ⟨hx, hrest⟩ := List.nodup_cons.mp hnodup
    rw [List.map_cons, total]
    by_cases hax : a = x
    · have hzero : rest.map (fun x => if a = x then k else 0) = rest.map fun _ => 0 := by
        refine List.map_congr_left fun y hy => if_neg fun hay => hx ?_
        rw [← hax, hay]
        exact hy
      rw [if_pos hax, hzero, total_map_zero, Nat.add_zero]
    · rw [if_neg hax, Nat.zero_add, ih hrest ((List.mem_cons.mp ha).resolve_left hax)]

/-- A total grows with each of its terms. -/
theorem total_le_total_set {xs : List Nat} {i x y : Nat} (hx : xs[i]? = some x) (hxy : x ≤ y) :
    total xs ≤ total (xs.set i y) := by
  induction xs generalizing i with
  | nil => exact Nat.le_refl _
  | cons z rest ih =>
    cases i with
    | zero =>
      obtain rfl := Option.some.inj hx
      exact Nat.add_le_add_right hxy _
    | succ i => exact Nat.add_le_add_left (ih hx) _

end RanSlicing
