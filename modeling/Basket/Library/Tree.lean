import Basket.Library.Iterator
import Basket.Library.SortedSequence
import Mathlib.Data.List.Nodup

/-! Ordered containers with unique keys: a sequence together with the proof that it is sorted. -/

namespace Basket.Library

open SortedSequence

structure Tree {α K : Type*} (key : α → K) (lt : K → K → Prop) where
  entries : List α
  sorted : Sorted key lt entries

namespace Tree

variable {α K : Type*} {key : α → K} {lt : K → K → Prop}

def empty : Tree key lt := ⟨[], .nil⟩

def size (t : Tree key lt) : ℕ := t.entries.length

def begin (t : Tree key lt) : Iterator α := .start t.entries

def first (t : Tree key lt) (h : t.size > 0) : α := t.entries.head (List.ne_nil_of_length_pos h)

def eraseBegin (t : Tree key lt) : Tree key lt := ⟨t.entries.tail, t.sorted.tail⟩

lemma nodup_keys [Std.Irrefl lt] (t : Tree key lt) : (t.entries.map key).Nodup := by
  refine List.pairwise_map.mpr (t.sorted.imp fun hlt he => ?_)
  rw [he] at hlt
  exact irrefl_of lt _ hlt

lemma nodup [Std.Irrefl lt] (t : Tree key lt) : t.entries.Nodup :=
  List.Nodup.of_map key t.nodup_keys

lemma mem_tail [Std.Irrefl lt] {t : Tree key lt} {e d : α} {l : List α} (h : t.entries = e :: l) :
    d ∈ l ↔ d ∈ t.entries ∧ d ≠ e := by
  have hn : (e :: l).Nodup := h ▸ t.nodup
  rw [h, List.mem_cons]
  constructor
  · exact fun hd => ⟨.inr hd, fun he => (List.nodup_cons.mp hn).1 (he ▸ hd)⟩
  · exact fun hd => hd.1.resolve_left hd.2

lemma head_lt {t : Tree key lt} {e d : α} {l : List α} (h : t.entries = e :: l) (hd : d ∈ t.entries)
    (hne : d ≠ e) : lt (key e) (key d) := by
  have hs : Sorted key lt (e :: l) := h ▸ t.sorted
  rw [h] at hd
  exact (List.pairwise_cons.mp hs).1 d ((List.mem_cons.mp hd).resolve_left hne)

lemma eq_of_mem_iff [IsStrictWeakOrder K lt] {t t' : Tree key lt}
    (h : ∀ e, e ∈ t.entries ↔ e ∈ t'.entries) : t = t' := by
  have he := t.sorted.eq_of_mem_iff t'.sorted h
  cases t
  cases t'
  cases he
  rfl

variable [DecidableRel lt]

def lowerBound (k : K) (t : Tree key lt) : Iterator α where
  before := (t.entries.takeWhile (fun e => decide (lt (key e) k))).reverse
  after := SortedSequence.lowerBound key lt k t.entries

def find (k : K) (t : Tree key lt) : Option α := SortedSequence.find key lt k t.entries

def erase (k : K) (t : Tree key lt) : Tree key lt := ⟨eraseKey key lt k t.entries, t.sorted.eraseKey k⟩

def insertOrAssign [IsStrictWeakOrder K lt] (assign : α → α → α)
    (ha : ∀ e x, key (assign e x) = key e) (x : α) (t : Tree key lt) : Tree key lt :=
  ⟨SortedSequence.insertOrAssign key lt assign x t.entries, t.sorted.insertOrAssign ha x⟩

def insert [IsStrictWeakOrder K lt] (x : α) (t : Tree key lt) : Tree key lt :=
  t.insertOrAssign (fun e _ => e) (fun _ _ => rfl) x

lemma lowerBound_append {k : K} {t : Tree key lt} :
    (t.lowerBound k).before.reverse ++ (t.lowerBound k).after = t.entries := by
  rw [lowerBound, List.reverse_reverse]
  exact List.takeWhile_append_dropWhile

lemma mem_erase {k : K} {e : α} {t : Tree key lt} :
    e ∈ (t.erase k).entries ↔ e ∈ t.entries ∧ ¬IncompRel lt (key e) k :=
  mem_eraseKey

lemma size_erase_lt {k : K} {t : Tree key lt} :
    (t.erase k).size < t.size ↔ ∃ e ∈ t.entries, IncompRel lt (key e) k := by
  simp [erase, size, eraseKey, List.length_filter_lt_length_iff_exists]

section Weak

variable [IsStrictWeakOrder K lt] {t : Tree key lt} {k k' : K} {e x y : α}

lemma mem_after : e ∈ (t.lowerBound k).after ↔ e ∈ t.entries ∧ ¬lt (key e) k :=
  t.sorted.weakly.mem_lowerBound

lemma mem_before : e ∈ (t.lowerBound k).before ↔ e ∈ t.entries ∧ lt (key e) k :=
  List.mem_reverse.trans t.sorted.weakly.mem_takeWhile

lemma find_iff : t.find k = some e ↔ e ∈ t.entries ∧ IncompRel lt (key e) k :=
  t.sorted.find_iff

lemma find_erase : (t.erase k).find k' = if IncompRel lt k k' then none else t.find k' :=
  find_eraseKey t.sorted k'

lemma isSome_find : (t.find k).isSome ↔ ∃ e ∈ t.entries, IncompRel lt (key e) k := by
  simp [Option.isSome_iff_exists, find_iff]

lemma mem_insertOrAssign {assign : α → α → α} {ha : ∀ e x, key (assign e x) = key e} :
    y ∈ (t.insertOrAssign assign ha x).entries ↔
      y = placed key lt assign x t.entries ∨ y ∈ t.entries ∧ ¬IncompRel lt (key y) (key x) :=
  SortedSequence.mem_insertOrAssign t.sorted

lemma find_insertOrAssign {assign : α → α → α} {ha : ∀ e x, key (assign e x) = key e} :
    (t.insertOrAssign assign ha x).find k =
      if IncompRel lt (key x) k then some (placed key lt assign x t.entries) else t.find k :=
  SortedSequence.find_insertOrAssign t.sorted ha k

lemma find_congr (h : IncompRel lt k k') : t.find k = t.find k' :=
  SortedSequence.find_congr t.sorted h

lemma erase_congr (h : IncompRel lt k k') : t.erase k = t.erase k' := by
  refine eq_of_mem_iff fun e => ?_
  rw [mem_erase, mem_erase]
  exact and_congr_right fun _ => not_congr
    ⟨fun hn => incomp_trans hn h, fun hn => incomp_trans hn h.symm⟩

lemma size_insertOrAssign {assign : α → α → α} {ha : ∀ e x, key (assign e x) = key e} :
    (t.insertOrAssign assign ha x).size = if (t.find (key x)).isSome then t.size else t.size + 1 :=
  length_insertOrAssign

lemma mem_of_mem_insert (h : y ∈ (t.insert x).entries) : y = x ∨ y ∈ t.entries := by
  rw [insert] at h
  rw [mem_insertOrAssign] at h
  rcases h with rfl | ⟨h, -⟩
  · rw [placed]
    cases hf : SortedSequence.find key lt (key x) t.entries with
    | none => exact .inl rfl
    | some e => exact .inr (find_mem hf).1
  · exact .inr h

end Weak

lemma mem_insert_total [IsStrictTotalOrder K lt] {t : Tree (id : K → K) lt} {x y : K} :
    y ∈ (t.insert x).entries ↔ y = x ∨ y ∈ t.entries := by
  have hp : placed id lt (fun e _ => e) x t.entries = x := by
    have hi : IncompRel lt (id (placed id lt (fun e _ => e) x t.entries)) (id x) :=
      placed_incomp (fun _ _ => rfl)
    exact incomp_iff_eq.mp hi
  rw [insert]
  rw [mem_insertOrAssign, hp]
  by_cases hy : y = x
  · simp [hy]
  · simp [hy, incomp_iff_eq]

end Tree

end Basket.Library
