import Basket.Library.Tree

/-! Ordered containers that keep every entry put under a key, and when they hold one for each. -/

namespace Basket.Library

open SortedSequence

namespace SortedSequence

variable {α K : Type*} {key : α → K} {lt : K → K → Prop} [DecidableRel lt]
variable {l : List α} {k : K} {x y e : α}

lemma insertEqual_perm : (insertEqual key lt x l).Perm (x :: l) := by
  induction l with
  | nil => exact .refl _
  | cons e l ih =>
    rw [insertEqual]
    split_ifs
    · exact .refl _
    · exact (ih.cons e).trans (.swap x e l)

lemma mem_insertEqual : y ∈ insertEqual key lt x l ↔ y = x ∨ y ∈ l := by
  rw [insertEqual_perm.mem_iff, List.mem_cons]

lemma eraseFound_sublist : (eraseFound key lt k l).Sublist l := by
  induction l with
  | nil => exact .slnil
  | cons e l ih =>
    rw [eraseFound]
    split_ifs
    · exact ih.cons_cons e
    · exact List.Sublist.refl _
    · exact List.sublist_cons_self e l

lemma length_eraseFound (h : find key lt k l = some e) :
    (eraseFound key lt k l).length + 1 = l.length := by
  induction l with
  | nil => simp [find, lowerBound] at h
  | cons d l ih =>
    rw [find_cons] at h
    rw [eraseFound]
    split_ifs at h ⊢ with h₁ h₂
    · exact congrArg (· + 1) (ih h)
    · rfl

variable [IsStrictWeakOrder K lt]

lemma WeaklySorted.insertEqual (h : WeaklySorted key lt l) (x : α) :
    WeaklySorted key lt (insertEqual key lt x l) := by
  induction l with
  | nil => simp [SortedSequence.insertEqual, WeaklySorted]
  | cons e l ih =>
    obtain ⟨he, hl⟩ := List.pairwise_cons.mp h
    rw [SortedSequence.insertEqual]
    split_ifs with hx
    · refine List.pairwise_cons.mpr ⟨fun y hy => ?_, h⟩
      rcases List.mem_cons.mp hy with rfl | hy
      · exact asymm_of lt hx
      · exact fun hy' => he y hy (trans_of lt hy' hx)
    · refine List.pairwise_cons.mpr ⟨fun y hy => ?_, ih hl⟩
      rcases mem_insertEqual.mp hy with rfl | hy
      · exact hx
      · exact he y hy

lemma Sorted.insertEqual (h : Sorted key lt l) (hx : ∀ e ∈ l, ¬IncompRel lt (key e) (key x)) :
    Sorted key lt (insertEqual key lt x l) := by
  induction l with
  | nil => simp [SortedSequence.insertEqual, Sorted]
  | cons e l ih =>
    obtain ⟨he, hl⟩ := List.pairwise_cons.mp h
    rw [SortedSequence.insertEqual]
    split_ifs with hlt
    · refine List.pairwise_cons.mpr ⟨fun y hy => ?_, h⟩
      rcases List.mem_cons.mp hy with rfl | hy
      · exact hlt
      · exact trans_of lt hlt (he y hy)
    · refine List.pairwise_cons.mpr ⟨fun y hy => ?_, ih hl fun d hd => hx d (List.mem_cons_of_mem _ hd)⟩
      rcases mem_insertEqual.mp hy with rfl | hy
      · by_contra hn
        exact hx e List.mem_cons_self ⟨hn, hlt⟩
      · exact he y hy

lemma Sorted.mem_eraseFound (h : Sorted key lt l) :
    e ∈ eraseFound key lt k l ↔ e ∈ l ∧ ¬IncompRel lt (key e) k := by
  induction l with
  | nil => simp [eraseFound]
  | cons d l ih =>
    obtain ⟨hd, hl⟩ := List.pairwise_cons.mp h
    by_cases h₁ : lt (key d) k
    · have hn : ¬IncompRel lt (key d) k := fun hn => hn.1 h₁
      simp only [eraseFound, if_pos h₁, List.mem_cons, ih hl]
      constructor
      · rintro (rfl | he)
        · exact ⟨.inl rfl, hn⟩
        · exact ⟨.inr he.1, he.2⟩
      · exact fun he => he.1.imp_right fun hm => ⟨hm, he.2⟩
    · have ht := h.tail_not_incomp h₁
      by_cases h₂ : lt k (key d)
      · simp only [eraseFound, if_neg h₁, if_pos h₂, iff_self_and]
        intro he hn
        rcases List.mem_cons.mp he with rfl | he
        · exact hn.2 h₂
        · exact ht e he hn
      · simp only [eraseFound, if_neg h₁, if_neg h₂, List.mem_cons]
        constructor
        · exact fun he => ⟨.inr he, ht e he⟩
        · rintro ⟨rfl | he, hn⟩
          · exact absurd ⟨h₁, h₂⟩ hn
          · exact he

lemma find_incomp {k' : K} (hk : IncompRel lt k k') : find key lt k l = find key lt k' l := by
  have hl (a : K) : lt a k ↔ lt a k' :=
    ⟨fun h => lt_of_lt_of_incomp h hk, fun h => lt_of_lt_of_incomp h hk.symm⟩
  have hr (a : K) : lt k a ↔ lt k' a :=
    ⟨fun h => lt_of_incomp_of_lt hk.symm h, fun h => lt_of_incomp_of_lt hk h⟩
  induction l with
  | nil => rfl
  | cons e l ih =>
    rw [find_cons, find_cons, ih]
    simp only [hl, hr]

lemma WeaklySorted.takeWhile_lowerBound (h : WeaklySorted key lt l) :
    (lowerBound key lt k l).takeWhile (fun e => decide (¬lt k (key e))) =
      l.filter (fun e => IncompRel lt (key e) k) := by
  have hs : WeaklySorted key lt (lowerBound key lt k l) := h.sublist (List.dropWhile_sublist _)
  rw [hs.takeWhile_eq, h.lowerBound_eq, List.filter_filter]
  congr 1
  funext e
  rw [← Bool.decide_and, decide_eq_decide, and_comm]
  rfl

end SortedSequence

structure MultiTree {α K : Type*} (key : α → K) (lt : K → K → Prop) where
  entries : List α
  sorted : WeaklySorted key lt entries

namespace MultiTree

variable {α K : Type*} {key : α → K} {lt : K → K → Prop}

def empty : MultiTree key lt := ⟨[], .nil⟩

def size (t : MultiTree key lt) : ℕ := t.entries.length

def begin (t : MultiTree key lt) : Iterator α := .start t.entries

def Unique (t : MultiTree key lt) : Prop := Sorted key lt t.entries

lemma Unique.nodup_keys [Std.Irrefl lt] {t : MultiTree key lt} (h : t.Unique) :
    (t.entries.map key).Nodup :=
  (⟨t.entries, h⟩ : Tree key lt).nodup_keys

lemma Unique.eq_of_mem_iff [IsStrictWeakOrder K lt] {t t' : MultiTree key lt} (ht : t.Unique)
    (ht' : t'.Unique) (h : ∀ e, e ∈ t.entries ↔ e ∈ t'.entries) : t = t' := by
  have he := Sorted.eq_of_mem_iff ht ht' h
  cases t
  cases t'
  cases he
  rfl

variable [DecidableRel lt]

def lowerBound (k : K) (t : MultiTree key lt) : Iterator α where
  before := (t.entries.takeWhile (fun e => decide (lt (key e) k))).reverse
  after := SortedSequence.lowerBound key lt k t.entries

lemma lowerBound_append {k : K} {t : MultiTree key lt} :
    (t.lowerBound k).before.reverse ++ (t.lowerBound k).after = t.entries := by
  rw [lowerBound, List.reverse_reverse]
  exact List.takeWhile_append_dropWhile

section LowerBound

variable [IsStrictWeakOrder K lt] {k : K} {e : α} {t : MultiTree key lt}

lemma mem_after : e ∈ (t.lowerBound k).after ↔ e ∈ t.entries ∧ ¬lt (key e) k :=
  t.sorted.mem_lowerBound

lemma mem_before : e ∈ (t.lowerBound k).before ↔ e ∈ t.entries ∧ lt (key e) k :=
  List.mem_reverse.trans t.sorted.mem_takeWhile

end LowerBound

def find (k : K) (t : MultiTree key lt) : Option α := SortedSequence.find key lt k t.entries

/-- `erase(find(k))`, which removes one entry. -/
def eraseFound (k : K) (t : MultiTree key lt) : MultiTree key lt :=
  ⟨SortedSequence.eraseFound key lt k t.entries, t.sorted.sublist eraseFound_sublist⟩

lemma eraseFound_ne {k : K} {e : α} {t : MultiTree key lt} (h : t.find k = some e) :
    t.eraseFound k ≠ t := by
  intro he
  have hl := length_eraseFound h
  have hn : (SortedSequence.eraseFound key lt k t.entries).length = t.entries.length :=
    congrArg (fun t => t.entries.length) he
  omega

def erase (k : K) (t : MultiTree key lt) : MultiTree key lt :=
  ⟨eraseKey key lt k t.entries, t.sorted.filter _⟩

def insert [IsStrictWeakOrder K lt] (x : α) (t : MultiTree key lt) : MultiTree key lt :=
  ⟨insertEqual key lt x t.entries, t.sorted.insertEqual x⟩

end MultiTree

end Basket.Library
