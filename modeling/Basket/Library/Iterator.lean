import Mathlib.Data.List.TakeWhile
import Mathlib.Tactic.Common

/-! Bidirectional iterators over a sequence. Reading or moving past an end has no result. -/

namespace Basket.Library

/-- What lies before the iterator, nearest first, and what lies from it on. -/
structure Iterator (α : Type*) where
  before : List α
  after : List α

namespace Iterator

variable {α : Type*}

def start (l : List α) : Iterator α := ⟨[], l⟩

def isBegin (it : Iterator α) : Bool := it.before.isEmpty

def isEnd (it : Iterator α) : Bool := it.after.isEmpty

def deref (it : Iterator α) : Option α := it.after.head?

def next (it : Iterator α) : Option (Iterator α) :=
  match it.after with
  | [] => none
  | e :: l => some ⟨e :: it.before, l⟩

def prev (it : Iterator α) : Option (Iterator α) :=
  match it.before with
  | [] => none
  | e :: l => some ⟨l, e :: it.after⟩

lemma next_length {it it' : Iterator α} (h : it.next = some it') :
    it'.after.length < it.after.length := by
  obtain ⟨before, after⟩ := it
  cases after with
  | nil => simp [next] at h
  | cons e l =>
    obtain rfl := Option.some.inj h
    simp

lemma prev_next {it : Iterator α} {e : α} {l : List α} (h : it.before = e :: l) :
    ∃ it', it.prev = some it' ∧ it'.deref = some e ∧ it'.next = some it := by
  refine ⟨⟨l, e :: it.after⟩, ?_, rfl, ?_⟩
  · rw [prev, h]
  · simp only [next, ← h]

def scan (stop : α → Bool) (final_values : List α) (it : Iterator α) : Option (List α) :=
  if it.isEnd then some final_values
  else
    match it.deref with
    | none => none
    | some e =>
      if stop e then some final_values
      else
        match _h : it.next with
        | none => none
        | some it' => scan stop (final_values ++ [e]) it'
termination_by it.after.length
decreasing_by exact next_length _h

lemma scan_eq (stop : α → Bool) (final_values : List α) (it : Iterator α) :
    scan stop final_values it = some (final_values ++ it.after.takeWhile (fun e => !stop e)) := by
  obtain ⟨before, after⟩ := it
  induction after generalizing before final_values with
  | nil =>
    rw [scan]
    simp [isEnd]
  | cons e l ih =>
    rw [scan]
    by_cases hs : stop e
    · simp [isEnd, deref, hs]
    · simp [isEnd, deref, next, hs, ih]

lemma takeWhile_congr {p q : α → Bool} {l : List α} (h : ∀ e ∈ l, p e = q e) :
    l.takeWhile p = l.takeWhile q := by
  induction l with
  | nil => rfl
  | cons e l ih =>
    rw [List.takeWhile_cons, List.takeWhile_cons, h e List.mem_cons_self,
      ih fun d hd => h d (List.mem_cons_of_mem e hd)]

lemma takeWhile_eq_filter_iff {p : α → Bool} {l : List α} :
    l.takeWhile p = l.filter p ↔ l.Pairwise (fun a b => p b → p a) := by
  induction l with
  | nil => simp
  | cons e l ih =>
    rw [List.pairwise_cons]
    by_cases hp : p e
    · simp [hp, ih]
    · rw [List.takeWhile_cons_of_neg hp, List.filter_cons_of_neg hp, eq_comm, List.filter_eq_nil_iff]
      constructor
      · intro hn
        refine ⟨fun d hd hpd => absurd hpd (hn d hd), ?_⟩
        exact List.pairwise_of_forall_mem_list fun a _ b hb hpb => absurd hpb (hn b hb)
      · exact fun hn d hd hpd => hp (hn.1 d hd hpd)

end Iterator

end Basket.Library
