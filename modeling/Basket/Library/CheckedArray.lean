import Mathlib.Data.List.Basic
import Mathlib.Tactic.Common

/-! Arrays of fixed size in which a write past the end has no result. -/

namespace Basket.Library

structure CheckedArray (α : Type*) (N : ℕ) where
  cells : List α
  length_eq : cells.length = N

namespace CheckedArray

variable {α : Type*} {N i : ℕ} {c : α} {cs : List α} {a b : CheckedArray α N}

lemma ext_iff : a = b ↔ a.cells = b.cells := by
  cases a
  cases b
  simp

def write (i : ℕ) (c : α) (a : CheckedArray α N) : Option (CheckedArray α N) :=
  if i < N then some ⟨a.cells.set i c, List.length_set.trans a.length_eq⟩ else none

def writeFrom : ℕ → List α → CheckedArray α N → Option (CheckedArray α N)
  | _, [], a => some a
  | i, c :: cs, a => (a.write i c).bind (writeFrom (i + 1) cs)

lemma writeFrom_eq_some (hi : i ≤ N) : writeFrom i cs a = some b ↔
    i + cs.length ≤ N ∧ b.cells = a.cells.take i ++ cs ++ a.cells.drop (i + cs.length) := by
  induction cs generalizing i a with
  | nil =>
    rw [writeFrom, Option.some_inj, ext_iff]
    simp [hi, eq_comm]
  | cons c cs ih =>
    rw [writeFrom, write, List.length_cons]
    by_cases hn : i < N
    · have ht : (a.cells.set i c).take (i + 1) = a.cells.take i ++ [c] := by
        have hl : i < a.cells.length := a.length_eq.symm ▸ hn
        rw [List.take_add_one, List.take_set_of_le (Nat.le_refl i), List.getElem?_set_self hl,
          Option.toList_some]
      have hd : (a.cells.set i c).drop (i + 1 + cs.length) = a.cells.drop (i + 1 + cs.length) :=
        List.drop_set_of_lt (by omega)
      rw [if_pos hn, Option.bind_some, ih hn, ht, hd]
      have hl : i + (cs.length + 1) = i + 1 + cs.length := by omega
      rw [hl, List.append_assoc (a.cells.take i), List.singleton_append]
    · rw [if_neg hn, Option.bind_none]
      exact iff_of_false (by simp) fun h => by omega

end CheckedArray

end Basket.Library
