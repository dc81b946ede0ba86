import Mathlib.Data.List.Lex
import Mathlib.Data.List.TakeWhile
import Mathlib.Order.Compare
import Mathlib.Order.Lattice

/-! Sequences that are read up to a terminator, and the order in which they compare. -/

namespace Basket.Library.Terminated

variable {α : Type*} [LinearOrder α]

/-- Nothing when a sequence ends before the comparison does. -/
def scan (stop : α) : List α → List α → Option Ordering
  | a :: as, b :: bs =>
    if a = b then if a = stop then some .eq else scan stop as bs
    else some (compare a b)
  | _, _ => none

variable {stop a b : α} {as bs : List α}

lemma compares_cons {o : Ordering} (h : o.Compares as bs) : o.Compares (a :: as) (a :: bs) := by
  cases o with
  | lt => exact List.cons_lt_cons_iff.mpr (.inr ⟨rfl, h⟩)
  | eq => exact congrArg (a :: ·) h
  | gt => exact List.cons_lt_cons_iff.mpr (.inr ⟨rfl, h⟩)

lemma compares_of_ne (h : a ≠ b) : (compare a b).Compares (a :: as) (b :: bs) := by
  rcases lt_or_gt_of_ne h with hl | hl
  · rw [compare_lt_iff_lt.mpr hl]
    exact List.cons_lt_cons_iff.mpr (.inl hl)
  · rw [compare_gt_iff_gt.mpr hl]
    exact List.cons_lt_cons_iff.mpr (.inl hl)

lemma takeWhile_stop : (stop :: as).takeWhile (· ≠ stop) = [] :=
  List.takeWhile_cons_of_neg (by simp)

lemma takeWhile_ne (h : a ≠ stop) : (a :: as).takeWhile (· ≠ stop) = a :: as.takeWhile (· ≠ stop) :=
  List.takeWhile_cons_of_pos (by simpa using h)

/-- A terminator below everything else makes the shorter of two texts the smaller one. -/
lemma compare_compares (hs : ∀ a, stop ≤ a) (h : a ≠ b) :
    (compare a b).Compares ((a :: as).takeWhile (· ≠ stop)) ((b :: bs).takeWhile (· ≠ stop)) := by
  by_cases ha : a = stop
  · subst ha
    rw [compare_lt_iff_lt.mpr (lt_of_le_of_ne (hs b) h), takeWhile_stop, takeWhile_ne h.symm]
    exact List.nil_lt_cons b _
  · rw [takeWhile_ne ha]
    by_cases hb : b = stop
    · subst hb
      rw [compare_gt_iff_gt.mpr (lt_of_le_of_ne (hs a) h.symm), takeWhile_stop]
      exact List.nil_lt_cons a _
    · rw [takeWhile_ne hb]
      exact compares_of_ne h

lemma scan_compares (hs : ∀ a, stop ≤ a) (ha : stop ∈ as) (hb : stop ∈ bs) :
    ∃ o, scan stop as bs = some o ∧
      o.Compares (as.takeWhile (· ≠ stop)) (bs.takeWhile (· ≠ stop)) := by
  induction as generalizing bs with
  | nil => cases ha
  | cons a as ih =>
    cases bs with
    | nil => cases hb
    | cons b bs =>
      rw [scan]
      by_cases hab : a = b
      · subst hab
        rw [if_pos rfl]
        by_cases ht : a = stop
        · subst ht
          exact ⟨.eq, if_pos rfl, by rw [takeWhile_stop, takeWhile_stop]; rfl⟩
        · obtain ⟨o, hc, ho⟩ := ih (List.mem_of_ne_of_mem (Ne.symm ht) ha)
            (List.mem_of_ne_of_mem (Ne.symm ht) hb)
          rw [if_neg ht, takeWhile_ne ht, takeWhile_ne ht]
          exact ⟨o, hc, compares_cons ho⟩
      · exact ⟨compare a b, if_neg hab, compare_compares hs hab⟩

end Basket.Library.Terminated
