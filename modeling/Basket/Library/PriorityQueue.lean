import Basket.Library.MultiTree
import Mathlib.Data.Multiset.AddSub

/-! `std::priority_queue` by what is documented of it: the top is a value that no value exceeds. -/

namespace Basket.Library

structure StdPriorityQueue (α : Type*) (lt : α → α → Prop) where
  Carrier : Type*
  contents : Carrier → Multiset α
  size : Carrier → ℕ
  empty : Carrier
  push : α → Carrier → Carrier
  top : (q : Carrier) → size q > 0 → α
  pop : (q : Carrier) → size q > 0 → Carrier
  size_eq : ∀ q, size q = (contents q).card
  contents_empty : contents empty = 0
  contents_push : ∀ v q, contents (push v q) = v ::ₘ contents q
  contents_pop : ∀ q h, top q h ::ₘ contents (pop q h) = contents q
  not_top_lt : ∀ q h, ∀ x ∈ contents q, ¬lt (top q h) x

namespace StdPriorityQueue

variable {α : Type*} {lt : α → α → Prop}

lemma size_pos_iff {Q : StdPriorityQueue α lt} {q : Q.Carrier} : Q.size q > 0 ↔ Q.contents q ≠ 0 := by
  rw [Q.size_eq]
  exact Multiset.card_pos

def sequence [DecidableRel lt] [IsStrictWeakOrder α lt] : StdPriorityQueue α lt where
  Carrier := MultiTree (id : α → α) (Function.swap lt)
  contents q := q.entries
  size q := q.size
  empty := .empty
  push v q := q.insert v
  top q h := q.entries.head (List.ne_nil_of_length_pos h)
  pop q _ := ⟨q.entries.tail, q.sorted.sublist (List.tail_sublist _)⟩
  size_eq _ := rfl
  contents_empty := rfl
  contents_push _ _ := Multiset.coe_eq_coe.mpr SortedSequence.insertEqual_perm
  contents_pop q h := by
    rw [Multiset.cons_coe, List.cons_head_tail]
  not_top_lt q h x hx := by
    obtain ⟨l, hs⟩ := q
    cases l with
    | nil => simp at hx
    | cons v l =>
      rcases List.mem_cons.mp (Multiset.mem_coe.mp hx) with rfl | hx
      · exact irrefl_of lt x
      · exact (List.pairwise_cons.mp hs).1 x hx

end StdPriorityQueue

end Basket.Library
