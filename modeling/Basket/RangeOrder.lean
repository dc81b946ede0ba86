import Basket.Map.Model
import Basket.Set.Model

/-! What the range query of one server returns when the server holds two entries or more: the range
when `Compare` is `std::less`, only ranges without an entry when it is `std::greater`. -/

namespace Basket.RangeQuery

open Library

variable {α KeyType MappedType : Type*} {key : α → KeyType} [LinearOrder KeyType]
variable {single : KeyType → KeyType → Bool} {key_start key_end : KeyType}

section Less

variable {t : Tree key (· < · : KeyType → KeyType → Prop)}

structure Exactly (key_start key_end : KeyType) (t : Tree key (· < · : KeyType → KeyType → Prop))
    (final_values : List α) : Prop where
  mem_iff : ∀ e, e ∈ final_values ↔ e ∈ t.entries ∧ key_start ≤ key e ∧ key e ≤ key_end
  nodup : final_values.Nodup
  ascending : final_values.Pairwise (fun a b => key a < key b)

lemma walked (h : 2 ≤ t.size) : localContainsInServer single key_start key_end t =
    some (t.entries.filter (fun e => key_start ≤ key e ∧ key e ≤ key_end)) := by
  have h₁ : t.size ≠ 1 := by omega
  rw [localContainsInServer_eq, found]
  simp only [if_neg h₁]

lemma exactly_walked (h : 2 ≤ t.size) : ∃ final_values,
    localContainsInServer single key_start key_end t = some final_values ∧
      Exactly key_start key_end t final_values := by
  refine ⟨_, walked h, ?_, ?_, ?_⟩
  · intro e
    simp [List.mem_filter]
  · exact t.nodup.filter _
  · exact t.sorted.filter _

theorem range_exact :
    (∀ (mymap : Map.MyMap KeyType MappedType (· < ·)) (key_start key_end : KeyType), 2 ≤ mymap.size →
      ∃ final_values, Map.localContainsInServer key_start key_end mymap = some final_values ∧
        Exactly key_start key_end mymap final_values) ∧
    ∀ (myset : Set.MySet KeyType (· < ·)) (key_start key_end : KeyType), 2 ≤ myset.size →
      ∃ final_values, Set.localContainsInServer key_start key_end myset = some final_values ∧
        Exactly key_start key_end myset final_values :=
  ⟨fun _ _ _ hs => exactly_walked hs, fun _ _ _ hs => exactly_walked hs⟩

def ascendingKeys : Set.MySet ℕ (· < ·) := ⟨[3, 5, 9], by simp [SortedSequence.Sorted]⟩

def ascendingEntries : Map.MyMap ℕ ℕ (· < ·) := ⟨[(3, 0), (5, 1), (9, 2)], by simp [SortedSequence.Sorted]⟩

theorem range_exact_stored :
    (∃ final_values, Map.localContainsInServer 4 9 ascendingEntries = some final_values ∧
      Exactly 4 9 ascendingEntries final_values) ∧
    ∃ final_values, Set.localContainsInServer 4 9 ascendingKeys = some final_values ∧
      Exactly 4 9 ascendingKeys final_values :=
  ⟨range_exact.1 ascendingEntries 4 9 (by decide),
    (@range_exact ℕ ℕ _).2 ascendingKeys 4 9 (by decide)⟩

end Less

section Greater

def inOrder {Compare : KeyType → KeyType → Prop} [DecidableRel Compare] (key_start key_end : KeyType)
    (t : Tree key Compare) : List α :=
  t.entries.filter (fun e => ¬Compare (key e) key_start ∧ ¬Compare key_end (key e))

variable {t : Tree key (· > · : KeyType → KeyType → Prop)}

def Misses (key_start key_end : KeyType) (t : Tree key (· > · : KeyType → KeyType → Prop)) : Prop :=
  (∀ e ∈ t.entries, ¬(key_end ≤ key e ∧ key e ≤ key_start)) ∧
    ((∀ e ∈ t.entries, key_start < key e) ∨
      (∃ e ∈ t.entries, key_start < key e) ∧ ∀ e ∈ t.entries, key_start < key e → key_end < key e)

lemma mem_inOrder {e : α} :
    e ∈ inOrder key_start key_end t ↔ e ∈ t.entries ∧ key_end ≤ key e ∧ key e ≤ key_start := by
  simp [inOrder, and_comm]

lemma inOrder_eq_nil : inOrder key_start key_end t = [] ↔
    ∀ e ∈ t.entries, ¬(key_end ≤ key e ∧ key e ≤ key_start) := by
  simp only [List.eq_nil_iff_forall_not_mem, mem_inOrder, not_and]

/-- The step back is never undone: what it reaches comes before `key_start` in the order of the
tree, hence is not less than it. -/
lemma stepBack_greater : stepBack key key_start (t.lowerBound key_start) =
    some (match (t.lowerBound key_start).before with
      | [] => t.lowerBound key_start
      | p :: before => ⟨before, p :: (t.lowerBound key_start).after⟩) := by
  rw [stepBack]
  cases hb : (t.lowerBound key_start).before with
  | nil => simp [Iterator.isBegin, hb]
  | cons p before =>
    have hp : key_start < key p := (Tree.mem_before.mp (hb ▸ List.mem_cons_self)).2
    simp [Iterator.isBegin, Iterator.prev, Iterator.deref, hb, hp.not_gt]

lemma walked_greater (h : 2 ≤ t.size) : localContainsInServer single key_start key_end t =
    some (if (t.lowerBound key_start).after = [] then [] else
      (((t.lowerBound key_start).before.head?.toList ++ (t.lowerBound key_start).after).takeWhile
        (fun e => decide (key e ≤ key_end)))) := by
  have h₀ : t.size ≠ 0 := by omega
  have h₁ : t.size ≠ 1 := by omega
  rw [localContainsInServer, if_neg h₀, if_neg h₁]
  simp only [Iterator.isEnd, List.isEmpty_iff, stepBack_greater, Option.bind_eq_bind, Option.bind_some,
    Iterator.scan_eq, List.nil_append, gt_iff_lt, ← decide_not, not_lt]
  split_ifs with he
  · rfl
  · cases (t.lowerBound key_start).before <;> rfl

lemma walk_from_first (h : 2 ≤ t.size) (hB : ∀ e ∈ t.entries, key e ≤ key_start) :
    t.entries.takeWhile (fun e => decide (key e ≤ key_end)) ≠ inOrder key_start key_end t := by
  have hs := t.sorted
  rw [Tree.size] at h
  rcases hl : t.entries with _ | ⟨a, _ | ⟨b, l⟩⟩
  · simp [hl] at h
  · simp [hl] at h
  · rw [hl] at hs
    have hab : key b < key a := (List.pairwise_cons.mp hs).1 b List.mem_cons_self
    have ha : a ∈ t.entries := hl ▸ List.mem_cons_self
    intro he
    -- `b < a ≤ key_end` is walked and not in the range, `key_end < a` is in the range and not walked
    by_cases hk : key a ≤ key_end
    · have hb : b ∈ inOrder key_start key_end t := by
        rw [← he]
        simp [hk, hab.le.trans hk]
      exact absurd (mem_inOrder.mp hb).2.1 (hab.trans_le hk).not_ge
    · have hin : a ∈ inOrder key_start key_end t := mem_inOrder.mpr ⟨ha, (not_le.mp hk).le, hB a ha⟩
      rw [← he] at hin
      simp [hk] at hin

lemma walk_from_back {p : α} {l : List α} (hp : key_start < key p) :
    (p :: l).takeWhile (fun e => decide (key e ≤ key_end)) = inOrder key_start key_end t ↔
      inOrder key_start key_end t = [] ∧ key_end < key p := by
  by_cases hk : key p ≤ key_end
  · refine iff_of_false (fun he => ?_) fun he => he.2.not_ge hk
    have hin : p ∈ inOrder key_start key_end t := by
      rw [← he]
      simp [hk]
    exact (mem_inOrder.mp hin).2.2.not_gt hp
  · rw [List.takeWhile_cons_of_neg (by simp [hk]), and_iff_left (not_le.mp hk), eq_comm]

lemma head_before_le {p e : α} {before : List α} (hp : (t.lowerBound key_start).before = p :: before)
    (he : e ∈ t.entries) (hk : key_start < key e) : key p ≤ key e := by
  have hs := t.sorted
  have hm : e ∈ (t.lowerBound key_start).before := Tree.mem_before.mpr ⟨he, hk⟩
  rw [← t.lowerBound_append (k := key_start), hp, List.reverse_cons] at hs
  rw [hp, List.mem_cons] at hm
  rcases hm with rfl | hm
  · exact le_rfl
  · have hb := (List.pairwise_append.mp (List.pairwise_append.mp hs).1).2.2
    exact (hb e (List.mem_reverse.mpr hm) p (List.mem_singleton_self p)).le

lemma walked_greater_iff (h : 2 ≤ t.size) :
    localContainsInServer single key_start key_end t = some (inOrder key_start key_end t) ↔
      Misses key_start key_end t := by
  have ht := t.lowerBound_append (k := key_start)
  rw [walked_greater h, Option.some_inj, Misses, ← inOrder_eq_nil]
  cases ha : (t.lowerBound key_start).after with
  | nil =>
    have hall : ∀ e ∈ t.entries, key_start < key e := by
      intro e he
      rw [← ht, ha, List.append_nil] at he
      exact (Tree.mem_before.mp (List.mem_reverse.mp he)).2
    have hn : inOrder key_start key_end t = [] :=
      inOrder_eq_nil.mpr fun e he hk => hk.2.not_gt (hall e he)
    rw [if_pos rfl, hn]
    exact iff_of_true rfl ⟨rfl, .inl hall⟩
  | cons b after =>
    have hb : b ∈ (t.lowerBound key_start).after := ha ▸ List.mem_cons_self
    have hne : ¬∀ e ∈ t.entries, key_start < key e := by
      obtain ⟨hbm, hbk⟩ := Tree.mem_after.mp hb
      exact fun hall => hbk (hall b hbm)
    rw [if_neg (List.cons_ne_nil b after), or_iff_right hne]
    cases hp : (t.lowerBound key_start).before with
    | nil =>
      rw [hp, List.reverse_nil, List.nil_append, ha] at ht
      have hall : ∀ e ∈ t.entries, key e ≤ key_start := fun e he =>
        not_lt.mp (Tree.mem_after.mp (ha ▸ ht ▸ he)).2
      rw [List.head?_nil, Option.toList_none, List.nil_append, ht]
      refine iff_of_false (walk_from_first h hall) ?_
      rintro ⟨-, ⟨e, he, hk⟩, -⟩
      exact (hall e he).not_gt hk
    | cons p before =>
      have hpb : p ∈ (t.lowerBound key_start).before := hp ▸ List.mem_cons_self
      obtain ⟨hpm, hpk⟩ := Tree.mem_before.mp hpb
      rw [List.head?_cons, Option.toList_some, List.singleton_append, walk_from_back hpk]
      refine and_congr_right fun _ => ⟨fun hk => ?_, fun hk => hk.2 p hpm hpk⟩
      exact ⟨⟨p, hpm, hpk⟩, fun e he hs => hk.trans_le (head_before_le hp he hs)⟩

lemma inOrder_eq_reverse {t' : Tree key (· < · : KeyType → KeyType → Prop)}
    (ht : ∀ e, e ∈ t'.entries ↔ e ∈ t.entries) (key_start key_end : KeyType) :
    t'.size = t.size ∧ inOrder key_start key_end t =
      (t'.entries.filter (fun e => key_end ≤ key e ∧ key e ≤ key_start)).reverse := by
  have hs : SortedSequence.Sorted key (· > ·) t'.entries.reverse := List.pairwise_reverse.mpr t'.sorted
  have he : t.entries = t'.entries.reverse := by
    refine t.sorted.eq_of_mem_iff hs fun e => ?_
    rw [List.mem_reverse, ht]
  rw [Tree.size, Tree.size, inOrder, he, List.length_reverse, ← List.filter_reverse]
  refine ⟨rfl, congrArg (fun p => List.filter p _) (funext fun e => ?_)⟩
  simp [and_comm]

/-- What a query with `std::greater` should return, in its own terms and in those of the query with
`std::less`. -/
def FollowsCompare
    (greater : KeyType → KeyType → Tree key (· > · : KeyType → KeyType → Prop) → Option (List α))
    (less : KeyType → KeyType → Tree key (· < · : KeyType → KeyType → Prop) → Option (List α))
    (key_start key_end : KeyType) (t : Tree key (· > · : KeyType → KeyType → Prop)) : Prop :=
  greater key_start key_end t = some (inOrder key_start key_end t) ∧
    ∀ t' : Tree key (· < · : KeyType → KeyType → Prop), (∀ e, e ∈ t'.entries ↔ e ∈ t.entries) →
      greater key_start key_end t = (less key_end key_start t').map List.reverse

lemma followsCompare_iff (h : 2 ≤ t.size) :
    FollowsCompare (localContainsInServer single) (localContainsInServer single) key_start key_end t ↔
      Misses key_start key_end t := by
  rw [FollowsCompare, walked_greater_iff h]
  refine and_iff_left_of_imp fun hm t' ht => ?_
  obtain ⟨hs, hr⟩ := inOrder_eq_reverse ht key_start key_end
  rw [(walked_greater_iff h).mpr hm, hr, walked (hs ▸ h), Option.map_some]

theorem follows_compare_iff :
    (∀ (mymap : Map.MyMap KeyType MappedType (· > ·)) (key_start key_end : KeyType), 2 ≤ mymap.size →
      (FollowsCompare Map.localContainsInServer Map.localContainsInServer key_start key_end mymap ↔
        Misses key_start key_end mymap)) ∧
    ∀ (myset : Set.MySet KeyType (· > ·)) (key_start key_end : KeyType), 2 ≤ myset.size →
      (FollowsCompare Set.localContainsInServer Set.localContainsInServer key_start key_end myset ↔
        Misses key_start key_end myset) :=
  ⟨fun _ _ _ hs => followsCompare_iff hs, fun _ _ _ hs => followsCompare_iff hs⟩

def descendingKeys : Set.MySet ℕ (· > ·) := ⟨[9, 5, 3], by simp [SortedSequence.Sorted]⟩

def descendingEntries : Map.MyMap ℕ ℕ (· > ·) := ⟨[(9, 2), (5, 1), (3, 0)], by simp [SortedSequence.Sorted]⟩

theorem follows_compare_stored :
    FollowsCompare Map.localContainsInServer Map.localContainsInServer 4 4 descendingEntries ∧
      FollowsCompare Set.localContainsInServer Set.localContainsInServer 4 4 descendingKeys := by
  constructor
  · exact (follows_compare_iff.1 descendingEntries 4 4 (by decide)).mpr
      (by simp [Misses, descendingEntries])
  · exact ((@follows_compare_iff ℕ ℕ _).2 descendingKeys 4 4 (by decide)).mpr
      (by simp [Misses, descendingKeys])

/-- Of the keys 9, 5 and 3 the query from 5 to 3 returns none: the walk begins at 9. -/
theorem greater_not_followed :
    (¬∀ (mymap : Map.MyMap ℕ ℕ (· > ·)) (key_start key_end : ℕ), 2 ≤ mymap.size →
      FollowsCompare Map.localContainsInServer Map.localContainsInServer key_start key_end mymap) ∧
    ¬∀ (myset : Set.MySet ℕ (· > ·)) (key_start key_end : ℕ), 2 ≤ myset.size →
      FollowsCompare Set.localContainsInServer Set.localContainsInServer key_start key_end myset := by
  constructor
  · intro h
    have he := (h descendingEntries 5 3 (by decide)).1
    rw [Map.localContainsInServer, walked_greater (by decide)] at he
    exact absurd he (by decide)
  · intro h
    have he := (h descendingKeys 5 3 (by decide)).1
    rw [Set.localContainsInServer, walked_greater (by decide)] at he
    exact absurd he (by decide)

end Greater

end Basket.RangeQuery
