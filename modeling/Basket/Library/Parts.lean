import Basket.Library.MultiTree

/-! An ordered container cut into parts by a function of the key. -/

namespace Basket.Library

namespace Tree

open SortedSequence

variable {α K S : Type*} {key : α → K} {lt : K → K → Prop} [DecidableEq S] {f : K → S} {s : S}
variable {t : Tree key lt} {k : K} {e x : α}

def part (f : K → S) (s : S) (t : Tree key lt) : Tree key lt :=
  ⟨t.entries.filter (fun e => f (key e) = s), t.sorted.filter _⟩

lemma mem_part : e ∈ (t.part f s).entries ↔ e ∈ t.entries ∧ f (key e) = s := by
  simp [part]

variable [DecidableRel lt]

lemma part_erase [IsStrictWeakOrder K lt] : (t.erase k).part f s = (t.part f s).erase k := by
  refine eq_of_mem_iff fun e => ?_
  rw [mem_part, mem_erase, mem_erase, mem_part]
  exact and_right_comm

section Weak

variable [IsStrictWeakOrder K lt] (hf : ∀ a b, IncompRel lt a b → f a = f b)

include hf

lemma find_part : (t.part f (f k)).find k = t.find k := by
  cases hk : t.find k with
  | some e =>
    obtain ⟨he, hi⟩ := find_iff.mp hk
    exact find_iff.mpr ⟨mem_part.mpr ⟨he, hf _ _ hi⟩, hi⟩
  | none =>
    have hn := t.sorted.weakly.find_none.mp hk
    exact (t.part f (f k)).sorted.weakly.find_none.mpr fun e he => hn e (mem_part.mp he).1

lemma part_erase_other (hs : s ≠ f k) : (t.part f s).erase k = t.part f s := by
  refine eq_of_mem_iff fun e => ?_
  rw [mem_erase, mem_part, and_iff_left_iff_imp]
  exact fun he hi => hs (he.2.symm.trans (hf _ _ hi))

variable (assign : α → α → α)

lemma placed_part :
    placed key lt assign x (t.part f (f (key x))).entries = placed key lt assign x t.entries := by
  have hp : SortedSequence.find key lt (key x) (t.part f (f (key x))).entries =
      SortedSequence.find key lt (key x) t.entries := find_part hf
  rw [placed, placed, hp]

lemma part_insertOrAssign (ha : ∀ e x, key (assign e x) = key e) (x : α) :
    (t.insertOrAssign assign ha x).part f (f (key x)) =
      (t.part f (f (key x))).insertOrAssign assign ha x := by
  refine eq_of_mem_iff fun e => ?_
  rw [mem_part, mem_insertOrAssign, mem_insertOrAssign, mem_part, placed_part hf assign]
  constructor
  · rintro ⟨rfl | he, hs⟩
    · exact .inl rfl
    · exact .inr ⟨⟨he.1, hs⟩, he.2⟩
  · rintro (rfl | ⟨⟨he, hs⟩, hn⟩)
    · exact ⟨.inl rfl, hf _ _ (placed_incomp ha)⟩
    · exact ⟨.inr ⟨he, hn⟩, hs⟩

lemma part_insertOrAssign_other (ha : ∀ e x, key (assign e x) = key e) (hs : s ≠ f (key x)) :
    (t.insertOrAssign assign ha x).part f s = t.part f s := by
  refine eq_of_mem_iff fun e => ?_
  rw [mem_part, mem_part, mem_insertOrAssign]
  constructor
  · rintro ⟨rfl | he, hs'⟩
    · exact absurd (hs'.symm.trans (hf _ _ (placed_incomp ha))) hs
    · exact ⟨he.1, hs'⟩
  · rintro ⟨he, hs'⟩
    exact ⟨.inr ⟨he, fun hi => hs (hs'.symm.trans (hf _ _ hi))⟩, hs'⟩

end Weak

end Tree

namespace MultiTree

open SortedSequence

variable {α K S : Type*} {key : α → K} {lt : K → K → Prop} [DecidableEq S] {f : K → S} {s : S}
variable {t : MultiTree key lt} {k : K} {e : α}

def part (f : K → S) (s : S) (t : MultiTree key lt) : MultiTree key lt :=
  ⟨t.entries.filter (fun e => f (key e) = s), t.sorted.filter _⟩

lemma mem_part : e ∈ (t.part f s).entries ↔ e ∈ t.entries ∧ f (key e) = s := by
  simp [part]

lemma exists_part (hf : ∀ a b, IncompRel lt a b → f a = f b) :
    (∃ e ∈ (t.part f (f k)).entries, IncompRel lt (key e) k) ↔
      ∃ e ∈ t.entries, IncompRel lt (key e) k := by
  simp only [mem_part]
  exact exists_congr fun e => ⟨fun h => ⟨h.1.1, h.2⟩, fun h => ⟨⟨h.1, hf _ _ h.2⟩, h.2⟩⟩

lemma size_erase_lt [DecidableRel lt] :
    (t.erase k).size < t.size ↔ ∃ e ∈ t.entries, IncompRel lt (key e) k := by
  simp [erase, size, eraseKey, List.length_filter_lt_length_iff_exists]

lemma Unique.part (h : t.Unique) : (t.part f s).Unique := h.filter _

variable [DecidableRel lt] [IsStrictWeakOrder K lt]

lemma Unique.part_erase (h : t.Unique) : (t.erase k).part f s = (t.part f s).erase k := by
  refine Unique.eq_of_mem_iff ((h.eraseKey k).filter _) (h.part.eraseKey k) fun e => ?_
  rw [mem_part, erase, erase, mem_eraseKey, mem_eraseKey, mem_part]
  exact and_right_comm

variable (hf : ∀ a b, IncompRel lt a b → f a = f b)

include hf

lemma Unique.find_part (h : t.Unique) : (t.part f (f k)).find k = t.find k := by
  cases hk : t.find k with
  | some e =>
    obtain ⟨he, hi⟩ := find_mem hk
    exact h.part.find_iff.mpr ⟨mem_part.mpr ⟨he, hf _ _ hi⟩, hi⟩
  | none =>
    have hn := t.sorted.find_none.mp hk
    exact (t.part f (f k)).sorted.find_none.mpr fun e he => hn e (mem_part.mp he).1

lemma Unique.part_erase_other (h : t.Unique) (hs : s ≠ f k) : (t.part f s).erase k = t.part f s := by
  refine Unique.eq_of_mem_iff (h.part.eraseKey k) h.part fun e => ?_
  rw [erase, mem_eraseKey, mem_part, and_iff_left_iff_imp]
  exact fun he hi => hs (he.2.symm.trans (hf _ _ hi))

end MultiTree

end Basket.Library
