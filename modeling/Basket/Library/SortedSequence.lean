import Mathlib.Order.Comparable
import Mathlib.Order.RelClasses
import Mathlib.Data.List.Sort
import Mathlib.Data.List.TakeWhile
import Mathlib.Tactic.Common

/-! Sequences kept in the order of a comparator: what the ordered containers search and update. -/

namespace Basket.Library.SortedSequence

variable {α K : Type*} {key : α → K} {lt : K → K → Prop}

section Comparator

instance (priority := low) strictWeak_of_strictTotal [IsStrictTotalOrder K lt] : IsStrictWeakOrder K lt :=
  isStrictWeakOrder_of_isOrderConnected

variable [IsStrictWeakOrder K lt] {a b c : K}

lemma incomp_trans (h : IncompRel lt a b) (h' : IncompRel lt b c) : IncompRel lt a c :=
  IsStrictWeakOrder.incomp_trans a b c h h'

lemma lt_of_incomp_of_lt (h : IncompRel lt a b) (h' : lt b c) : lt a c := by
  by_contra hn
  by_cases hc : lt c a
  · exact h.2 (trans_of lt h' hc)
  · exact (incomp_trans h.symm ⟨hn, hc⟩).1 h'

lemma lt_of_lt_of_incomp (h : lt a b) (h' : IncompRel lt b c) : lt a c := by
  by_contra hn
  by_cases hc : lt c a
  · exact h'.2 (trans_of lt hc h)
  · exact (incomp_trans ⟨hn, hc⟩ h'.symm).1 h

lemma not_lt_trans (h : ¬lt b a) (h' : ¬lt c b) : ¬lt c a := by
  intro hc
  by_cases hb : lt a b
  · exact h' (trans_of lt hc hb)
  · exact h' (lt_of_lt_of_incomp hc ⟨hb, h⟩)

end Comparator

lemma incomp_iff_eq [IsStrictTotalOrder K lt] {a b : K} : IncompRel lt a b ↔ a = b := by
  refine ⟨fun h => ?_, fun h => h ▸ IncompRel.rfl⟩
  rcases trichotomous_of lt a b with hl | he | hl
  · exact absurd hl h.1
  · exact he
  · exact absurd hl h.2

variable (key lt)

def Sorted (l : List α) : Prop :=
  l.Pairwise (fun a b => lt (key a) (key b))

def WeaklySorted (l : List α) : Prop :=
  l.Pairwise (fun a b => ¬lt (key b) (key a))

variable [DecidableRel lt]

def lowerBound (k : K) (l : List α) : List α := l.dropWhile (fun e => decide (lt (key e) k))

def find (k : K) (l : List α) : Option α :=
  match lowerBound key lt k l with
  | [] => none
  | e :: _ => if lt k (key e) then none else some e

def insertOrAssign (assign : α → α → α) (x : α) : List α → List α
  | [] => [x]
  | e :: l =>
    if lt (key e) (key x) then e :: insertOrAssign assign x l
    else if lt (key x) (key e) then x :: e :: l
    else assign e x :: l

def eraseKey (k : K) (l : List α) : List α := l.filter (fun e => ¬IncompRel lt (key e) k)

def insertEqual (x : α) : List α → List α
  | [] => [x]
  | e :: l => if lt (key x) (key e) then x :: e :: l else e :: insertEqual x l

def eraseFound (k : K) : List α → List α
  | [] => []
  | e :: l =>
    if lt (key e) k then e :: eraseFound k l
    else if lt k (key e) then e :: l
    else l

/-- The entry that stands for the key of `x` once `x` has been put. -/
def placed (assign : α → α → α) (x : α) (l : List α) : α :=
  match find key lt (key x) l with
  | some e => assign e x
  | none => x

variable {key lt} {l : List α} {k k' : K} {e x y : α} {assign : α → α → α}

lemma find_cons : find key lt k (e :: l) =
    if lt (key e) k then find key lt k l else if lt k (key e) then none else some e := by
  by_cases h : lt (key e) k <;> simp [find, lowerBound, h]

lemma find_mem (h : find key lt k l = some e) : e ∈ l ∧ IncompRel lt (key e) k := by
  induction l with
  | nil => simp [find, lowerBound] at h
  | cons d l ih =>
    rw [find_cons] at h
    split_ifs at h with h₁ h₂
    · exact ⟨List.mem_cons_of_mem _ (ih h).1, (ih h).2⟩
    · obtain rfl := Option.some.inj h
      exact ⟨List.mem_cons_self, h₁, h₂⟩

lemma mem_eraseKey : e ∈ eraseKey key lt k l ↔ e ∈ l ∧ ¬IncompRel lt (key e) k := by
  simp [eraseKey]

lemma Sorted.eraseKey (h : Sorted key lt l) (k : K) : Sorted key lt (eraseKey key lt k l) :=
  List.Pairwise.filter _ h

lemma placed_cons_lt (h : lt (key e) (key x)) :
    placed key lt assign x (e :: l) = placed key lt assign x l := by
  simp [placed, find_cons, h]

variable [IsStrictWeakOrder K lt]

omit [DecidableRel lt] in
lemma Sorted.weakly (h : Sorted key lt l) : WeaklySorted key lt l :=
  h.imp (fun hab => asymm_of lt hab)

lemma WeaklySorted.lowerBound_eq (h : WeaklySorted key lt l) :
    lowerBound key lt k l = l.filter (fun e => ¬lt (key e) k) := by
  induction l with
  | nil => rfl
  | cons e l ih =>
    obtain ⟨he, hl⟩ := List.pairwise_cons.mp h
    by_cases hk : lt (key e) k
    · simpa [lowerBound, List.dropWhile_cons, hk] using ih hl
    · have hall : ∀ d ∈ l, ¬lt (key d) k := fun d hd => not_lt_trans hk (he d hd)
      simp only [lowerBound, List.dropWhile_cons, hk, decide_false, Bool.false_eq_true, if_false,
        not_false_eq_true, decide_true, List.filter_cons_of_pos, List.cons.injEq, true_and]
      exact (List.filter_eq_self.mpr (by simpa using hall)).symm

lemma WeaklySorted.mem_lowerBound (h : WeaklySorted key lt l) :
    e ∈ lowerBound key lt k l ↔ e ∈ l ∧ ¬lt (key e) k := by
  rw [h.lowerBound_eq, List.mem_filter, decide_eq_true_eq]

lemma WeaklySorted.mem_takeWhile (h : WeaklySorted key lt l) :
    e ∈ l.takeWhile (fun e => decide (lt (key e) k)) ↔ e ∈ l ∧ lt (key e) k := by
  constructor
  · exact fun he => ⟨List.takeWhile_subset _ he, by simpa using List.mem_takeWhile_imp he⟩
  · rintro ⟨he, hk⟩
    have hm : e ∈ l.takeWhile (fun e => decide (lt (key e) k)) ++ lowerBound key lt k l := by
      rwa [lowerBound, List.takeWhile_append_dropWhile]
    exact (List.mem_append.mp hm).resolve_right fun hm => (h.mem_lowerBound.mp hm).2 hk

lemma WeaklySorted.takeWhile_eq (h : WeaklySorted key lt l) :
    l.takeWhile (fun e => decide (¬lt k (key e))) = l.filter (fun e => ¬lt k (key e)) := by
  induction l with
  | nil => rfl
  | cons e l ih =>
    obtain ⟨he, hl⟩ := List.pairwise_cons.mp h
    by_cases hk : lt k (key e)
    · have hall : ∀ d ∈ l, lt k (key d) := by
        intro d hd
        by_contra hn
        exact not_lt_trans (he d hd) hn hk
      simpa [List.takeWhile_cons, hk, List.filter_eq_nil_iff] using hall
    · simpa [List.takeWhile_cons, hk] using ih hl

omit [DecidableRel lt] in
lemma WeaklySorted.rel_of_lt {R : α → α → Prop} (h : WeaklySorted key lt l) (hr : l.Pairwise R)
    (hx : x ∈ l) (hy : y ∈ l) (hlt : lt (key x) (key y)) : R x y := by
  induction l with
  | nil => simp at hx
  | cons e l ih =>
    obtain ⟨he, hl⟩ := List.pairwise_cons.mp h
    obtain ⟨hre, hrl⟩ := List.pairwise_cons.mp hr
    rcases List.mem_cons.mp hx with rfl | hx' <;> rcases List.mem_cons.mp hy with rfl | hy'
    · exact absurd hlt (irrefl_of lt _)
    · exact hre y hy'
    · exact absurd hlt (he x hx')
    · exact ih hl hrl hx' hy'

lemma WeaklySorted.find_none (h : WeaklySorted key lt l) :
    find key lt k l = none ↔ ∀ e ∈ l, ¬IncompRel lt (key e) k := by
  induction l with
  | nil => simp [find, lowerBound]
  | cons e l ih =>
    obtain ⟨he, hl⟩ := List.pairwise_cons.mp h
    rw [find_cons, List.forall_mem_cons]
    by_cases h₁ : lt (key e) k
    · simp [h₁, ih hl, IncompRel]
    · by_cases h₂ : lt k (key e)
      · have hall : ∀ d ∈ l, ¬IncompRel lt (key d) k :=
          fun d hd hn => he d hd (lt_of_incomp_of_lt hn h₂)
        simpa [h₁, h₂, IncompRel] using hall
      · simp [h₁, h₂, IncompRel]

omit [DecidableRel lt] [IsStrictWeakOrder K lt] in
lemma Sorted.unique (h : Sorted key lt l) (hx : x ∈ l) (hy : y ∈ l)
    (hn : IncompRel lt (key x) (key y)) : x = y := by
  induction l with
  | nil => simp at hx
  | cons e l ih =>
    obtain ⟨he, hl⟩ := List.pairwise_cons.mp h
    rcases List.mem_cons.mp hx with rfl | hx' <;> rcases List.mem_cons.mp hy with rfl | hy'
    · rfl
    · exact absurd (he y hy') hn.1
    · exact absurd (he x hx') hn.2
    · exact ih hl hx' hy'

omit [DecidableRel lt] in
lemma Sorted.eq_of_mem_iff {l' : List α} (h : Sorted key lt l) (h' : Sorted key lt l')
    (he : ∀ e, e ∈ l ↔ e ∈ l') : l = l' := by
  have hi : Std.Irrefl fun a b => lt (key a) (key b) := ⟨fun a => irrefl_of lt (key a)⟩
  have ha : Std.Antisymm fun a b => lt (key a) (key b) :=
    ⟨fun a b hab hba => absurd hba (asymm_of lt hab)⟩
  exact List.Pairwise.eq_of_mem_iff h h' he

lemma Sorted.find_iff (h : Sorted key lt l) :
    find key lt k l = some e ↔ e ∈ l ∧ IncompRel lt (key e) k := by
  refine ⟨find_mem, ?_⟩
  rintro ⟨he, hn⟩
  cases hf : find key lt k l with
  | none => exact absurd hn (h.weakly.find_none.mp hf e he)
  | some d =>
    obtain ⟨hd, hd'⟩ := find_mem hf
    rw [h.unique he hd (incomp_trans hn hd'.symm)]

omit [DecidableRel lt] in
lemma Sorted.tail_not_incomp (h : Sorted key lt (e :: l)) (hk : ¬lt (key e) k) :
    ∀ d ∈ l, ¬IncompRel lt (key d) k := by
  intro d hd hn
  have hed := (List.pairwise_cons.mp h).1 d hd
  exact hk (lt_of_lt_of_incomp hed hn)

lemma placed_incomp (ha : ∀ e x, key (assign e x) = key e) :
    IncompRel lt (key (placed key lt assign x l)) (key x) := by
  rw [placed]
  cases hf : find key lt (key x) l with
  | none => exact IncompRel.rfl
  | some e => simpa only [ha] using (find_mem hf).2

lemma mem_insertOrAssign (h : Sorted key lt l) : y ∈ insertOrAssign key lt assign x l ↔
    y = placed key lt assign x l ∨ y ∈ l ∧ ¬IncompRel lt (key y) (key x) := by
  induction l with
  | nil => simp [insertOrAssign, placed, find, lowerBound]
  | cons e l ih =>
    have hl : Sorted key lt l := (List.pairwise_cons.mp h).2
    by_cases h₁ : lt (key e) (key x)
    · have he : ¬IncompRel lt (key e) (key x) := fun hn => hn.1 h₁
      simp only [insertOrAssign, if_pos h₁, List.mem_cons, ih hl, placed_cons_lt h₁]
      constructor
      · rintro (rfl | rfl | ⟨hy, hn⟩)
        · exact .inr ⟨.inl rfl, he⟩
        · exact .inl rfl
        · exact .inr ⟨.inr hy, hn⟩
      · rintro (rfl | ⟨rfl | hy, hn⟩)
        · exact .inr (.inl rfl)
        · exact .inl rfl
        · exact .inr (.inr ⟨hy, hn⟩)
    · have ht := h.tail_not_incomp h₁
      by_cases h₂ : lt (key x) (key e)
      · have he : ¬IncompRel lt (key e) (key x) := fun hn => hn.2 h₂
        have hp : placed key lt assign x (e :: l) = x := by simp [placed, find_cons, h₁, h₂]
        have hall : ∀ d ∈ e :: l, ¬IncompRel lt (key d) (key x) := List.forall_mem_cons.mpr ⟨he, ht⟩
        simp only [insertOrAssign, if_neg h₁, if_pos h₂, List.mem_cons (b := x), hp]
        exact or_congr_right ⟨fun hy => ⟨hy, hall y hy⟩, fun hy => hy.1⟩
      · have hp : placed key lt assign x (e :: l) = assign e x := by simp [placed, find_cons, h₁, h₂]
        simp only [insertOrAssign, if_neg h₁, if_neg h₂, List.mem_cons, hp]
        refine or_congr_right ⟨fun hy => ⟨.inr hy, ht y hy⟩, ?_⟩
        rintro ⟨rfl | hy, hn⟩
        · exact absurd ⟨h₁, h₂⟩ hn
        · exact hy

lemma Sorted.insertOrAssign (h : Sorted key lt l) (ha : ∀ e x, key (assign e x) = key e) (x : α) :
    Sorted key lt (insertOrAssign key lt assign x l) := by
  induction l with
  | nil => simp [SortedSequence.insertOrAssign, Sorted]
  | cons e l ih =>
    obtain ⟨he, hl⟩ := List.pairwise_cons.mp h
    rw [SortedSequence.insertOrAssign]
    split_ifs with h₁ h₂
    · refine List.pairwise_cons.mpr ⟨fun y hy => ?_, ih hl⟩
      rcases (mem_insertOrAssign hl).mp hy with rfl | ⟨hy, -⟩
      · exact lt_of_lt_of_incomp h₁ (placed_incomp ha).symm
      · exact he y hy
    · refine List.pairwise_cons.mpr ⟨fun y hy => ?_, h⟩
      rcases List.mem_cons.mp hy with rfl | hy
      · exact h₂
      · exact trans_of lt h₂ (he y hy)
    · refine List.pairwise_cons.mpr ⟨fun y hy => ?_, hl⟩
      rw [ha]
      exact he y hy

lemma find_congr (h : Sorted key lt l) (hk : IncompRel lt k k') : find key lt k l = find key lt k' l := by
  ext e
  rw [h.find_iff, h.find_iff]
  exact and_congr_right fun _ => ⟨fun hn => incomp_trans hn hk, fun hn => incomp_trans hn hk.symm⟩

omit [IsStrictWeakOrder K lt] in
lemma length_insertOrAssign : (insertOrAssign key lt assign x l).length =
    if (find key lt (key x) l).isSome then l.length else l.length + 1 := by
  induction l with
  | nil => simp [insertOrAssign, find, lowerBound]
  | cons e l ih =>
    rw [insertOrAssign, find_cons]
    by_cases h₁ : lt (key e) (key x)
    · rw [if_pos h₁, if_pos h₁, List.length_cons, ih, List.length_cons]
      split_ifs <;> rfl
    · by_cases h₂ : lt (key x) (key e) <;> simp [h₁, h₂]

lemma find_insertOrAssign (h : Sorted key lt l) (ha : ∀ e x, key (assign e x) = key e) (k : K) :
    find key lt k (insertOrAssign key lt assign x l) =
      if IncompRel lt (key x) k then some (placed key lt assign x l) else find key lt k l := by
  have hp : IncompRel lt (key (placed key lt assign x l)) (key x) := placed_incomp ha
  ext e
  rw [(h.insertOrAssign ha x).find_iff, mem_insertOrAssign h]
  split_ifs with hk
  · rw [Option.some.injEq]
    constructor
    · rintro ⟨rfl | ⟨-, hn⟩, he⟩
      · rfl
      · exact absurd (incomp_trans he hk.symm) hn
    · rintro rfl
      exact ⟨.inl rfl, incomp_trans hp hk⟩
  · rw [h.find_iff]
    constructor
    · rintro ⟨rfl | ⟨he, -⟩, hn⟩
      · exact absurd (incomp_trans hp.symm hn) hk
      · exact ⟨he, hn⟩
    · rintro ⟨he, hn⟩
      exact ⟨.inr ⟨he, fun hx => hk (incomp_trans hx.symm hn)⟩, hn⟩

lemma find_eraseKey (h : Sorted key lt l) (k' : K) : find key lt k' (eraseKey key lt k l) =
    if IncompRel lt k k' then none else find key lt k' l := by
  ext e
  rw [(h.eraseKey k).find_iff, mem_eraseKey]
  split_ifs with hk
  · simp only [iff_false, not_and, and_imp]
    exact fun _ hn he => hn (incomp_trans he hk.symm)
  · rw [h.find_iff]
    exact ⟨fun he => ⟨he.1.1, he.2⟩,
      fun he => ⟨⟨he.1, fun hn => hk (incomp_trans hn.symm he.2)⟩, he.2⟩⟩

end Basket.Library.SortedSequence
