import Basket.Communication.Deployment
import Basket.Library.Tree

/-! The range query of the ordered containers, on one server and over all of them. -/

namespace Basket.RangeQuery

open Library Communication

variable {α KeyType : Type*} {key : α → KeyType} {Compare : KeyType → KeyType → Prop}

section Local

variable [LT KeyType] [DecidableLT KeyType]

def stepBack (key : α → KeyType) (key_start : KeyType) (lower_bound : Iterator α) :
    Option (Iterator α) :=
  if lower_bound.isBegin then some lower_bound
  else do
    let lower_bound ← lower_bound.prev
    let e ← lower_bound.deref
    if key_start > key e then lower_bound.next else some lower_bound

/-- `LocalContainsInServer`, up to the test that an entry without neighbours has to pass. -/
def localContainsInServer [DecidableRel Compare] (single : KeyType → KeyType → Bool)
    (key_start key_end : KeyType) (t : Tree key Compare) : Option (List α) :=
  if t.size = 0 then some []
  else if t.size = 1 then do
    let e ← t.begin.deref
    return if single (key e) key_start then [e] else []
  else
    let lower_bound := t.lowerBound key_start
    if lower_bound.isEnd then some []
    else do
      let lower_bound ← stepBack key key_start lower_bound
      lower_bound.scan (fun e => decide (key e > key_end)) []

def contains [DecidableRel Compare] (single : KeyType → KeyType → Bool) (num_servers : ℕ)
    (m : Process) (shard : UInt16 → Tree key Compare) (key_start key_end : KeyType) :
    Option (List α) :=
  askAll num_servers m (fun s => localContainsInServer single key_start key_end (shard s))

end Local

section Walk

variable [LinearOrder KeyType] {single : KeyType → KeyType → Bool} {key_start key_end : KeyType}
variable {t : Tree key (· < · : KeyType → KeyType → Prop)}

lemma stepBack_lowerBound : stepBack key key_start (t.lowerBound key_start) =
    some (t.lowerBound key_start) := by
  rw [stepBack]
  cases hb : (t.lowerBound key_start).before with
  | nil => simp [Iterator.isBegin, hb]
  | cons e before =>
    have hlt : key e < key_start := (Tree.mem_before.mp (hb ▸ List.mem_cons_self)).2
    obtain ⟨it, hp, hd, hn⟩ := Iterator.prev_next hb
    simp [Iterator.isBegin, hb, hp, hd, hn, hlt]

lemma walk_eq : (t.lowerBound key_start).scan (fun e => decide (key e > key_end)) [] =
    some (t.entries.filter (fun e => key_start ≤ key e ∧ key e ≤ key_end)) := by
  have hw := t.sorted.weakly
  have hs : SortedSequence.WeaklySorted key (· < ·) (t.lowerBound key_start).after :=
    hw.sublist (List.dropWhile_sublist _)
  have hf := hs.takeWhile_eq (k := key_end)
  simp only [Iterator.scan_eq, List.nil_append, gt_iff_lt, ← decide_not]
  rw [hf, Tree.lowerBound, hw.lowerBound_eq, List.filter_filter]
  congr 2
  funext e
  simp [Bool.and_comm]

def found (single : KeyType → KeyType → Bool) (key_start key_end : KeyType)
    (t : Tree key (· < · : KeyType → KeyType → Prop)) : List α :=
  t.entries.filter (fun e =>
    if t.size = 1 then single (key e) key_start else key_start ≤ key e ∧ key e ≤ key_end)

lemma localContainsInServer_eq : localContainsInServer single key_start key_end t =
    some (found single key_start key_end t) := by
  rw [localContainsInServer, found]
  by_cases h₀ : t.size = 0
  · have he : t.entries = [] := List.length_eq_zero_iff.mp h₀
    simp [h₀, he]
  by_cases h₁ : t.size = 1
  · obtain ⟨e, he⟩ := List.length_eq_one_iff.mp h₁
    simp [h₁, he, Tree.begin, Iterator.start, Iterator.deref, List.filter_singleton]
  · simp only [h₀, h₁, if_false, stepBack_lowerBound, Option.bind_eq_bind, Option.bind_some, walk_eq]
    split_ifs with hn
    · have hw := t.sorted.weakly.lowerBound_eq (k := key_start)
      have hn : SortedSequence.lowerBound key (· < ·) key_start t.entries = [] :=
        List.isEmpty_iff.mp hn
      rw [hn, eq_comm, List.filter_eq_nil_iff] at hw
      refine (congrArg some (List.filter_eq_nil_iff.mpr fun e he hk => hw e he ?_)).symm
      simp only [decide_eq_true_eq] at hk ⊢
      exact hk.1.not_gt
    · rfl

end Walk

def Holds (home : KeyType → UInt16) (E : Set α) (shard : UInt16 → Tree key Compare) : Prop :=
  ∀ s e, e ∈ (shard s).entries ↔ e ∈ E ∧ home (key e) = s

def Alone (key : α → KeyType) (home : KeyType → UInt16) (E : Set α) (e : α) : Prop :=
  ∀ d ∈ E, home (key d) = home (key e) → d = e

variable {home : KeyType → UInt16} {E : Set α}

lemma holds_empty : Holds home ∅ (fun _ => (.empty : Tree key Compare)) := by
  intro s e
  simp [Tree.empty]

lemma holds_entries {shard : UInt16 → Tree key Compare}
    (hh : ∀ s, ∀ e ∈ (shard s).entries, home (key e) = s) :
    Holds home {e | ∃ s, e ∈ (shard s).entries} shard := by
  intro s e
  constructor
  · exact fun he => ⟨⟨s, he⟩, hh s e he⟩
  · rintro ⟨⟨t, he⟩, rfl⟩
    exact hh t e he ▸ he

lemma Holds.insert {shard : UInt16 → Tree key Compare} (hE : Holds home E shard) (a : α)
    {x : Tree key Compare}
    (hx : ∀ e, e ∈ x.entries ↔ e = a ∨ e ∈ (shard (home (key a))).entries) :
    Holds home (insert a E) (Function.update shard (home (key a)) x) := by
  intro s e
  rw [Set.mem_insert_iff]
  by_cases hs : s = home (key a)
  · subst hs
    rw [Function.update_self, hx, hE]
    constructor
    · rintro (rfl | ⟨he, hh⟩)
      · exact ⟨.inl rfl, rfl⟩
      · exact ⟨.inr he, hh⟩
    · exact fun he => he.1.imp_right fun hm => ⟨hm, he.2⟩
  · rw [Function.update_of_ne hs, hE]
    constructor
    · exact fun he => ⟨.inr he.1, he.2⟩
    · rintro ⟨rfl | he, hh⟩
      · exact absurd hh.symm hs
      · exact ⟨he, hh⟩

lemma Holds.size_eq_one [IsStrictOrder KeyType Compare] {shard : UInt16 → Tree key Compare}
    (hE : Holds home E shard) {e : α} (he : e ∈ E) :
    (shard (home (key e))).size = 1 ↔ Alone key home E e := by
  have hm := (hE _ e).mpr ⟨he, rfl⟩
  rw [Tree.size, List.length_eq_one_iff]
  constructor
  · rintro ⟨d, hd⟩ d' hd' hh
    have hm' := (hE _ d').mpr ⟨hd', hh⟩
    rw [hd, List.mem_singleton] at hm hm'
    rw [hm, hm']
  · intro ha
    refine ⟨e, List.perm_singleton.mp ?_⟩
    refine (List.perm_ext_iff_of_nodup ?_ (List.nodup_singleton e)).mpr fun d => ?_
    · exact (shard _).nodup
    · rw [hE, List.mem_singleton]
      refine ⟨fun hd => ha d hd.1 hd.2, ?_⟩
      rintro rfl
      exact ⟨he, rfl⟩

section Servers

variable [LinearOrder KeyType] {single : KeyType → KeyType → Bool} {key_start key_end : KeyType}
variable {shard : UInt16 → Tree key (· < · : KeyType → KeyType → Prop)}

def Admits (single : KeyType → KeyType → Bool) (key_start key_end k : KeyType) (alone : Prop) : Prop :=
  (alone ∧ single k key_start) ∨ (¬alone ∧ key_start ≤ k ∧ k ≤ key_end)

lemma admits_congr {k : KeyType} {a b : Prop} :
    (Admits single key_start key_end k a ↔ Admits single key_start key_end k b) ↔
      (¬(single k key_start ↔ key_start ≤ k ∧ k ≤ key_end) → (a ↔ b)) := by
  simp only [Admits]
  by_cases ha : a <;> by_cases hb : b <;> simp [ha, hb, iff_comm]

lemma mem_found (hE : Holds home E shard) {s : UInt16} {e : α} :
    e ∈ found single key_start key_end (shard s) ↔
      e ∈ E ∧ home (key e) = s ∧ Admits single key_start key_end (key e) (Alone key home E e) := by
  rw [found, List.mem_filter, hE, and_assoc]
  refine and_congr_right fun he => and_congr_right ?_
  rintro rfl
  rw [Admits, ← hE.size_eq_one he]
  split_ifs with hs <;> simp [hs]

lemma contains_eq {n : ℕ} {m : Process} : contains single n m shard key_start key_end =
    some ((askOrder n m.my_server).flatMap fun s => found single key_start key_end (shard s)) :=
  askAll_eq fun _ => localContainsInServer_eq

open Classical in
lemma count_contains {n : ℕ} {m : Process} {r : List α} (hm : m.my_server.toNat < n)
    (hE : Holds home E shard) (hr : contains single n m shard key_start key_end = some r) (e : α) :
    r.count e =
      if e ∈ E ∧ Admits single key_start key_end (key e) (Alone key home E e)
      then calls n (home (key e)) else 0 := by
  obtain rfl := Option.some.inj (contains_eq.symm.trans hr)
  rw [count_flatMap_home fun s hs he => hs ((mem_found hE).mp he).2.1.symm, count_askOrder hm]
  have hn : (found single key_start key_end (shard (home (key e)))).Nodup :=
    (shard (home (key e))).nodup.filter _
  rw [hn.count]
  simp [mem_found hE]

lemma contains_perm_iff {home₁ home₂ : KeyType → UInt16} {n₁ n₂ : ℕ} {m₁ m₂ : Process}
    {shard₁ shard₂ : UInt16 → Tree key (· < · : KeyType → KeyType → Prop)} {r₁ r₂ : List α}
    (hm₁ : m₁.my_server.toNat < n₁) (hm₂ : m₂.my_server.toNat < n₂)
    (hl₁ : ∀ k, (home₁ k).toNat < n₁) (hl₂ : ∀ k, (home₂ k).toNat < n₂)
    (hE₁ : Holds home₁ E shard₁) (hE₂ : Holds home₂ E shard₂)
    (hr₁ : contains single n₁ m₁ shard₁ key_start key_end = some r₁)
    (hr₂ : contains single n₂ m₂ shard₂ key_start key_end = some r₂) :
    r₁.Perm r₂ ↔ ∀ e ∈ E,
      (Admits single key_start key_end (key e) (Alone key home₁ E e) ↔
        Admits single key_start key_end (key e) (Alone key home₂ E e)) ∧
      (Admits single key_start key_end (key e) (Alone key home₁ E e) →
        calls n₁ (home₁ (key e)) = calls n₂ (home₂ (key e))) := by
  classical
  have hc₁ := count_contains hm₁ hE₁ hr₁
  have hc₂ := count_contains hm₂ hE₂ hr₂
  rw [List.perm_iff_count]
  constructor
  · intro h e he
    have hp₁ := calls_pos (hl₁ (key e))
    have hp₂ := calls_pos (hl₂ (key e))
    have hh := h e
    rw [hc₁, hc₂] at hh
    by_cases ha₁ : Admits single key_start key_end (key e) (Alone key home₁ E e) <;>
      by_cases ha₂ : Admits single key_start key_end (key e) (Alone key home₂ E e) <;>
        simp [he, ha₁, ha₂] at hh ⊢
    · exact hh
    · omega
    · omega
  · intro h e
    rw [hc₁, hc₂]
    by_cases he : e ∈ E
    · obtain ⟨ha, hc⟩ := h e he
      by_cases ha₁ : Admits single key_start key_end (key e) (Alone key home₁ E e)
      · simp [he, ha₁, ha.mp ha₁, hc ha₁]
      · simp [ha₁, mt ha.mpr ha₁]
    · simp [he]

end Servers

end Basket.RangeQuery
