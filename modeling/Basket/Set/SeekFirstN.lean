import Basket.Library.Machine
import Basket.Set.Model

/-! The first keys of one server of the set, read at once and popped one after another. -/

namespace Basket.Set

open Library

variable {KeyType : Type*} {Compare : KeyType → KeyType → Prop}

/-- `i++`, with no result where the `int` would overflow. -/
def increment (i : Int32) : Option Int32 := if i = Int32.maxValue then none else some (i + 1)

/-- The loop of `LocalSeekFirstN`; the comparison `i < n` is one of unsigned numbers. -/
def seekKeys (n : UInt32) (i : Int32) (keys : List KeyType) (iterator : Iterator KeyType) :
    Option (Int32 × List KeyType) :=
  if !iterator.isEnd && i.toUInt32 < n then
    match iterator.deref, increment i, _h : iterator.next with
    | some key, some i, some iterator => seekKeys n i (keys ++ [key]) iterator
    | _, _, _ => none
  else some (i, keys)
termination_by iterator.after.length
decreasing_by exact Iterator.next_length _h

def localSeekFirstN (n : UInt32) (myset : MySet KeyType Compare) :
    Option ((Bool × List KeyType) × MySet KeyType Compare) := do
  let (i, keys) ← seekKeys n 0 [] myset.begin
  return ((i > 0, keys), myset)

def popped [Inhabited KeyType] (n : ℕ) (myset : MySet KeyType Compare) : List KeyType :=
  ((Machine.run (fun (_ : Unit) myset => localPopFirst myset) (List.replicate n ()) myset).1.takeWhile
    Prod.fst).map Prod.snd

section Counter

variable {k : ℕ}

lemma increment_ofNat (h : k + 1 < 2 ^ 31) : increment (Int32.ofNat k) = some (Int32.ofNat (k + 1)) := by
  have hk : (Int32.ofNat k).toInt = k := Int32.toInt_ofNat_of_lt (by omega)
  have hne : Int32.ofNat k ≠ Int32.maxValue := by
    intro he
    rw [he] at hk
    have hm : Int32.maxValue.toInt = 2 ^ 31 - 1 := by decide
    omega
  rw [increment, if_neg hne, Int32.ofNat_add]
  rfl

lemma ofNat_lt_iff (n : UInt32) (h : k < 2 ^ 31) : (Int32.ofNat k).toUInt32 < n ↔ k < n.toNat := by
  have hk : (UInt32.ofNat k).toNat = k := UInt32.toNat_ofNat_of_lt' (by simp only [UInt32.size]; omega)
  rw [Int32.toUInt32_ofNat', UInt32.lt_iff_toNat_lt, hk]

lemma ofNat_pos_iff (h : k < 2 ^ 31) : Int32.ofNat k > 0 ↔ k > 0 :=
  Int32.ofNat_lt_iff_lt (by decide) h

end Counter

lemma seekKeys_end {n : UInt32} {i : Int32} {keys before : List KeyType} :
    seekKeys n i keys ⟨before, []⟩ = some (i, keys) := by
  rw [seekKeys]
  rfl

lemma seekKeys_cons {n : UInt32} {keys before l : List KeyType} {e : KeyType}
    (h : keys.length + 1 < 2 ^ 31) : seekKeys n (Int32.ofNat keys.length) keys ⟨before, e :: l⟩ =
      if keys.length < n.toNat
      then seekKeys n (Int32.ofNat (keys ++ [e]).length) (keys ++ [e]) ⟨e :: before, l⟩
      else some (Int32.ofNat keys.length, keys) := by
  have hc : (!Iterator.isEnd ⟨before, e :: l⟩ && decide ((Int32.ofNat keys.length).toUInt32 < n)) =
      decide (keys.length < n.toNat) := by
    rw [decide_eq_decide.mpr (ofNat_lt_iff n (by omega))]
    rfl
  rw [seekKeys, hc]
  simp only [decide_eq_true_eq, increment_ofNat h, List.length_append, List.length_singleton]
  rfl

lemma seekKeys_eq {n : UInt32} (keys : List KeyType) {before l : List KeyType}
    (h : keys.length + l.length < 2 ^ 31) : seekKeys n (Int32.ofNat keys.length) keys ⟨before, l⟩ =
      some (Int32.ofNat (keys ++ l.take (n.toNat - keys.length)).length,
        keys ++ l.take (n.toNat - keys.length)) := by
  induction l generalizing before keys with
  | nil => rw [seekKeys_end, List.take_nil, List.append_nil]
  | cons e l ih =>
    rw [List.length_cons] at h
    rw [seekKeys_cons (by omega)]
    split_ifs with hk
    · have hl : (keys ++ [e]).length = keys.length + 1 := by simp
      have ht : n.toNat - keys.length = n.toNat - (keys ++ [e]).length + 1 := by omega
      rw [ih (keys ++ [e]) (by omega), ht, List.take_succ_cons, List.append_assoc, List.singleton_append]
    · have ht : n.toNat - keys.length = 0 := by omega
      rw [ht, List.take_zero, List.append_nil]

lemma popped_eq [Inhabited KeyType] (n : ℕ) (myset : MySet KeyType Compare) :
    popped n myset = myset.entries.take n := by
  rw [popped]
  induction n generalizing myset with
  | zero => simp
  | succ n ih =>
    rw [List.replicate_succ, Machine.run_cons_fst]
    cases he : myset.entries with
    | nil => simp [localPopFirst_empty he]
    | cons m l =>
      obtain ⟨hm, hl⟩ := localPopFirst_cons he
      rw [hm, List.takeWhile_cons_of_pos rfl, List.map_cons, ih, hl, List.take_succ_cons]

structure SeeksFirst [Inhabited KeyType] (n : UInt32) (myset : MySet KeyType Compare)
    (found : Bool) (keys : List KeyType) : Prop where
  keys_eq : keys = popped n.toNat myset
  ascending : keys.Pairwise Compare
  length_eq : keys.length = min n.toNat myset.size
  found_iff : found = true ↔ keys ≠ []
  seekFirst : 1 ≤ n.toNat → localSeekFirst myset = (found, keys.headD default)

lemma localSeekFirstN_eq {n : UInt32} {myset : MySet KeyType Compare} (h : myset.size < 2 ^ 31) :
    localSeekFirstN n myset = some ((decide (0 < (myset.entries.take n.toNat).length),
      myset.entries.take n.toNat), myset) := by
  have hl : (myset.entries.take n.toNat).length < 2 ^ 31 := (List.length_take_le' _ _).trans_lt h
  have hs : seekKeys n 0 [] myset.begin = some (Int32.ofNat (myset.entries.take n.toNat).length,
      myset.entries.take n.toNat) := by
    refine seekKeys_eq [] ?_
    rw [List.length_nil, Nat.zero_add]
    exact h
  rw [localSeekFirstN, hs]
  simp only [Option.bind_eq_bind, Option.bind_some, Option.pure_def, decide_eq_decide.mpr (ofNat_pos_iff hl)]

theorem seek_agrees_with_pop [Inhabited KeyType] (n : UInt32) (myset : MySet KeyType Compare)
    (h : myset.size < 2 ^ 31) :
    ∃ found keys, localSeekFirstN n myset = some ((found, keys), myset) ∧ SeeksFirst n myset found keys := by
  refine ⟨_, _, localSeekFirstN_eq h, ?_, ?_, ?_, ?_, ?_⟩
  · exact (popped_eq n.toNat myset).symm
  · exact myset.sorted.sublist (List.take_sublist _ _)
  · exact List.length_take
  · rw [decide_eq_true_eq, List.length_pos_iff]
  · intro hn
    obtain ⟨k, hk⟩ := Nat.exists_eq_add_of_le' hn
    rw [hk]
    cases he : myset.entries with
    | nil => simp [localSeekFirst, Tree.size, he]
    | cons m l => simp [localSeekFirst, Tree.size, Tree.first, he]

def threeKeys : MySet ℕ (· < ·) := ⟨[2, 4, 8], by simp [SortedSequence.Sorted]⟩

theorem seek_agrees_with_pop_three : ∃ found keys,
    localSeekFirstN 2 threeKeys = some ((found, keys), threeKeys) ∧ SeeksFirst 2 threeKeys found keys :=
  seek_agrees_with_pop 2 threeKeys (by decide)

end Basket.Set
