import Mathlib.Data.List.Nodup
import Mathlib.Data.List.Range

/-! Lists whose elements bear positions, and lists that are sorted by a number.

A sorted list is determined by its sublists of equal keys (`eq_of_filter_key_eq`), and sorting keeps
each of them (`filter_key_mergeSort`). So a permutation that keeps the order of elements with equal
keys is undone by sorting (`StablyPermuted.mergeSort_eq`), and elements may be dropped before or
after it (`filter_mergeSort`). -/

namespace InterlockLadder

variable {α β : Type}

/-! ## Positions -/

theorem flatMap_fst_zipIdx (f : α → List β) (xs : List α) :
    (xs.zipIdx.flatMap fun x => f x.1) = xs.flatMap f := by
  conv_rhs => rw [← List.zipIdx_map_fst 0 xs]
  rw [List.flatMap_map]

theorem pairwise_snd_zipIdx (xs : List α) : xs.zipIdx.Pairwise fun x y => x.2 < y.2 := by
  have hpositions : (xs.zipIdx.map Prod.snd).Pairwise (· < ·) := by
    rw [List.zipIdx_map_snd]
    exact List.pairwise_lt_range'
  exact List.pairwise_map.mp hpositions

theorem filter_zipIdx (xs : List α) (n : Nat) :
    xs.zipIdx.filter (·.2 = n) = xs[n]?.toList.map (·, n) := by
  suffices hfrom : ∀ k n, (xs.zipIdx k).filter (·.2 = k + n) = xs[n]?.toList.map (·, k + n) by
    simpa only [Nat.zero_add] using hfrom 0 n
  induction xs with
  | nil => exact fun _ _ => rfl
  | cons x xs ih =>
    intro k n
    rw [List.zipIdx_cons]
    cases n with
    | zero =>
      have hrest : (xs.zipIdx (k + 1)).filter (·.2 = k) = [] := by
        refine List.filter_eq_nil_iff.mpr fun y hy => ?_
        have hle := List.le_snd_of_mem_zipIdx hy
        simp only [decide_eq_true_eq]
        omega
      simp [hrest]
    | succ n =>
      have hshift : k + (n + 1) = k + 1 + n := by omega
      rw [hshift, List.filter_cons_of_neg (by simp; omega), ih, List.getElem?_cons_succ]

/-- Where all that passes a filter comes from one position, only that position counts. -/
theorem filter_flatMap_of_position {ys : List (α × Nat)} {f : α × Nat → List β} {q : β → Bool}
    {n : Nat} (h : ∀ x ∈ ys, x.2 ≠ n → (f x).filter q = []) :
    (ys.flatMap f).filter q = (ys.filter (·.2 = n)).flatMap fun x => (f x).filter q := by
  induction ys with
  | nil => rfl
  | cons y ys ih =>
    obtain ⟨hy, hys⟩ := List.forall_mem_cons.mp h
    rw [List.flatMap_cons, List.filter_append, ih hys]
    by_cases hn : y.2 = n
    · rw [List.filter_cons_of_pos (by simpa using hn), List.flatMap_cons]
    · rw [List.filter_cons_of_neg (by simpa using hn), hy hn, List.nil_append]

/-- Lists in which each element knows its list have no element in common. -/
theorem nodup_flatMap_of_position {xs : List (α × Nat)} {f : α × Nat → List β}
    (position : β → Option Nat) (hxs : (xs.map Prod.snd).Nodup) (hnodup : ∀ x ∈ xs, (f x).Nodup)
    (hposition : ∀ x ∈ xs, ∀ y ∈ f x, position y = some x.2) : (xs.flatMap f).Nodup := by
  refine List.nodup_flatMap.mpr ⟨hnodup, ?_⟩
  refine (List.pairwise_map.mp hxs).imp_of_mem fun hx hx' hne y hy hy' => hne ?_
  exact Option.some.inj ((hposition _ hx y hy).symm.trans (hposition _ hx' y hy'))

/-! ## Stable sorting -/

variable {key : α → UInt32} {xs ys : List α}

theorem key_le_trans (key : α → UInt32) (a b c : α) (hab : decide (key a ≤ key b))
    (hbc : decide (key b ≤ key c)) : decide (key a ≤ key c) :=
  decide_eq_true (UInt32.le_trans (of_decide_eq_true hab) (of_decide_eq_true hbc))

theorem key_le_total (key : α → UInt32) (a b : α) :
    decide (key a ≤ key b) || decide (key b ≤ key a) := by
  simpa using UInt32.le_total (key a) (key b)

theorem pairwise_mergeSort_key (key : α → UInt32) (xs : List α) :
    (xs.mergeSort fun a b => key a ≤ key b).Pairwise (key · ≤ key ·) := by
  have hsorted : (xs.mergeSort fun a b => key a ≤ key b).Pairwise
      fun a b => decide (key a ≤ key b) :=
    List.pairwise_mergeSort (key_le_trans key) (key_le_total key) xs
  exact hsorted.imp of_decide_eq_true

/-- Sorting keeps the elements with one key in their order. -/
theorem filter_key_mergeSort (key : α → UInt32) (xs : List α) (k : UInt32) :
    (xs.mergeSort fun a b => key a ≤ key b).filter (key · = k) = xs.filter (key · = k) := by
  have hequal : (xs.filter (key · = k)).Pairwise fun a b => decide (key a ≤ key b) := by
    refine List.pairwise_filter.mpr (List.pairwise_of_forall fun a b ha hb => ?_)
    rw [of_decide_eq_true ha, of_decide_eq_true hb]
    exact decide_eq_true (UInt32.le_refl k)
  have hsublist : (xs.filter (key · = k)).Sublist (xs.mergeSort fun a b => key a ≤ key b) :=
    List.sublist_mergeSort (key_le_trans key) (key_le_total key) hequal List.filter_sublist
  have hclass := hsublist.filter (key · = k)
  rw [List.filter_filter, funext fun a => Bool.and_self (decide (key a = k))] at hclass
  exact (hclass.eq_of_length ((List.mergeSort_perm xs _).filter _).length_eq.symm).symm

theorem mem_iff_of_filter_key_eq (h : ∀ k, xs.filter (key · = k) = ys.filter (key · = k)) (a : α) :
    a ∈ xs ↔ a ∈ ys := by
  have hclass := congrArg (a ∈ ·) (h (key a))
  simpa using hclass

theorem eq_of_filter_key_eq (hxs : xs.Pairwise (key · ≤ key ·)) (hys : ys.Pairwise (key · ≤ key ·))
    (h : ∀ k, xs.filter (key · = k) = ys.filter (key · = k)) : xs = ys := by
  induction xs generalizing ys with
  | nil =>
    refine (List.eq_nil_iff_forall_not_mem.mpr fun a ha => ?_).symm
    exact List.not_mem_nil ((mem_iff_of_filter_key_eq h a).mpr ha)
  | cons x xs ih =>
    have hmem := mem_iff_of_filter_key_eq h
    cases ys with
    | nil => exact absurd ((hmem x).mp List.mem_cons_self) List.not_mem_nil
    | cons y ys =>
      obtain ⟨hx, hxs⟩ := List.pairwise_cons.mp hxs
      obtain ⟨hy, hys'⟩ := List.pairwise_cons.mp hys
      -- Each head occurs in the other list, and is the least element of its own.
      have hle : key x ≤ key y := by
        obtain rfl | hmem := List.mem_cons.mp ((hmem y).mpr List.mem_cons_self)
        · exact UInt32.le_refl _
        · exact hx y hmem
      have hge : key y ≤ key x := by
        obtain rfl | hmem := List.mem_cons.mp ((hmem x).mp List.mem_cons_self)
        · exact UInt32.le_refl _
        · exact hy x hmem
      have hkey : key y = key x := UInt32.le_antisymm hge hle
      have hhead := h (key x)
      rw [List.filter_cons_of_pos (by simp), List.filter_cons_of_pos (by simp [hkey])] at hhead
      obtain ⟨rfl, htail⟩ := List.cons.inj hhead
      refine congrArg (x :: ·) (ih hxs hys' fun k => ?_)
      by_cases hk : key x = k
      · exact hk ▸ htail
      · have hrest := h k
        rwa [List.filter_cons_of_neg (by simpa using hk),
          List.filter_cons_of_neg (by simpa using hk)] at hrest

theorem filter_mergeSort (key : α → UInt32) (q : α → Bool) (xs : List α) :
    (xs.mergeSort fun a b => key a ≤ key b).filter q =
      (xs.filter q).mergeSort fun a b => key a ≤ key b := by
  refine eq_of_filter_key_eq ((pairwise_mergeSort_key key xs).filter q)
    (pairwise_mergeSort_key key _) fun k => ?_
  have hcomm : ∀ as : List α,
      (as.filter q).filter (key · = k) = (as.filter (key · = k)).filter q := fun as => by
    simp only [List.filter_filter, Bool.and_comm]
  rw [hcomm, filter_key_mergeSort, filter_key_mergeSort, hcomm]

theorem map_mergeSort_key (key' : β → UInt32) {f : α → β} (h : ∀ a, key' (f a) = key a)
    (xs : List α) : (xs.mergeSort fun a b => key a ≤ key b).map f =
      (xs.map f).mergeSort fun a b => key' a ≤ key' b :=
  List.map_mergeSort fun a _ b _ => by rw [h, h]

/-! ## Permutations that sorting undoes -/

/-- A permutation that keeps the elements with equal keys in their order. -/
def StablyPermuted (key : α → UInt32) (xs ys : List α) : Prop :=
  xs.Perm ys ∧ ∀ k, xs.filter (key · = k) = ys.filter (key · = k)

theorem StablyPermuted.mergeSort_eq (h : StablyPermuted key xs ys) :
    (xs.mergeSort fun a b => key a ≤ key b) = ys.mergeSort fun a b => key a ≤ key b := by
  refine eq_of_filter_key_eq (pairwise_mergeSort_key key xs) (pairwise_mergeSort_key key ys)
    fun k => ?_
  rw [filter_key_mergeSort, filter_key_mergeSort, h.2 k]

/-- Neighbours with different keys may change places. -/
theorem StablyPermuted.swap {x y : α} (h : key x ≠ key y) (xs : List α) :
    StablyPermuted key (x :: y :: xs) (y :: x :: xs) := by
  refine ⟨.swap y x xs, fun k => ?_⟩
  by_cases hx : key x = k
  · have hy : key y ≠ k := fun hy => h (hx.trans hy.symm)
    simp [hx, hy]
  · simp [List.filter_cons, hx]

/-- Where all keys differ, every permutation keeps the elements with equal keys in their order. -/
theorem StablyPermuted.of_nodup (h : xs.Perm ys) (hkeys : (xs.map key).Nodup) :
    StablyPermuted key xs ys := by
  refine ⟨h, fun k => ?_⟩
  have hsorted : (xs.filter (key · = k)).Pairwise fun _ _ => False := by
    refine List.pairwise_filter.mpr ((List.pairwise_map.mp hkeys).imp fun hne ha hb => ?_)
    exact hne ((of_decide_eq_true ha).trans (of_decide_eq_true hb).symm)
  have hperm := h.filter (key · = k)
  generalize xs.filter (key · = k) = as, ys.filter (key · = k) = bs at hsorted hperm
  rcases as with _ | ⟨a, _ | ⟨a', as⟩⟩
  · exact hperm.nil_eq
  · exact (List.perm_singleton.mp hperm.symm).symm
  · exact ((List.pairwise_cons.mp hsorted).1 a' List.mem_cons_self).elim

end InterlockLadder
