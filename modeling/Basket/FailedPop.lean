import Basket.Library.Throwing
import Basket.PriorityQueue.Model
import Basket.Queue.Model
import Basket.Set.Model

/-! What a pop that throws leaves behind, for the three containers that are popped. -/

namespace Basket.FailedPop

open Library Throwing

variable {T σ β : Type} {Compare : T → T → Prop}

/-- The copy out of the container, and the copy into the pair that is returned. -/
inductive PopPoint
  | value
  | result
  deriving DecidableEq, Repr

section Programs

variable [Inhabited T] (fails : PopPoint → Bool)

def localPop (first : σ → Option T) (remove : σ → σ) : EStateM PopPoint σ (Bool × T) := do
  match first (← get) with
  | some value =>
    attempt fails .value
    modify remove
    attempt fails .result
    return (true, value)
  | none => return (false, default)

def queueLocalPop : EStateM PopPoint (List T) (Bool × T) := localPop fails List.head? List.tail

def priorityQueueLocalPop (Q : StdPriorityQueue.{0, 0} T Compare) :
    EStateM PopPoint Q.Carrier (Bool × T) :=
  localPop fails (fun queue => if h : Q.size queue > 0 then some (Q.top queue h) else none)
    (fun queue => if h : Q.size queue > 0 then Q.pop queue h else queue)

def setLocalPopFirst : EStateM PopPoint (Set.MySet T Compare) (Bool × T) :=
  localPop fails (fun myset => myset.entries.head?) Tree.eraseBegin

end Programs

def Kept (contents : σ → β) (cons : T → β → β) (nil : β) (x : EStateM PopPoint σ (Bool × T)) (s : σ) :
    Prop :=
  match x.run s with
  | .ok (true, v) s' => cons v (contents s') = contents s
  | .ok (false, _) s' => contents s = nil ∧ contents s' = nil
  | .error _ s' => contents s' = contents s

section Specs

variable {fails : PopPoint → Bool} {first : σ → Option T} {remove : σ → σ} {s : σ}
variable {contents : σ → β} {cons : T → β → β} {nil : β}

/-- What a container has to offer for a pop: the first element is removed, and an element more is
never the same contents. -/
structure Pops (contents : σ → β) (cons : T → β → β) (nil : β) (first : σ → Option T) (remove : σ → σ) :
    Prop where
  removed : ∀ s v, first s = some v → cons v (contents (remove s)) = contents s
  empty : ∀ s, first s = none → contents s = nil
  cons_ne_nil : ∀ v b, cons v b ≠ nil
  cons_ne : ∀ v b, cons v b ≠ b

lemma queue_pops : Pops id List.cons [] (List.head? (α := T)) List.tail where
  removed s v hv := by
    cases s with
    | nil => cases hv
    | cons e s =>
      obtain rfl := Option.some.inj hv
      rfl
  empty s hn := List.head?_eq_none_iff.mp hn
  cons_ne_nil := List.cons_ne_nil
  cons_ne v b := List.cons_ne_self v b

lemma set_pops : Pops Tree.entries List.cons [] (fun myset : Set.MySet T Compare => myset.entries.head?)
    Tree.eraseBegin where
  removed s v hv := queue_pops.removed s.entries v hv
  empty s hn := queue_pops.empty s.entries hn
  cons_ne_nil := List.cons_ne_nil
  cons_ne v b := List.cons_ne_self v b

lemma priorityQueue_pops {Q : StdPriorityQueue.{0, 0} T Compare} : Pops Q.contents Multiset.cons 0
    (fun queue => if h : Q.size queue > 0 then some (Q.top queue h) else none)
    (fun queue => if h : Q.size queue > 0 then Q.pop queue h else queue) where
  removed s v hv := by
    by_cases h : Q.size s > 0
    · rw [dif_pos h] at hv
      obtain rfl := Option.some.inj hv
      rw [dif_pos h]
      exact Q.contents_pop s h
    · rw [dif_neg h] at hv
      cases hv
  empty s hn := by
    by_contra hc
    rw [dif_pos (StdPriorityQueue.size_pos_iff.mpr hc)] at hn
    cases hn
  cons_ne_nil v b := Multiset.cons_ne_zero
  cons_ne v b he := by
    have hl := congrArg Multiset.card he
    rw [Multiset.card_cons] at hl
    omega

variable [Inhabited T]

lemma run_none (hn : first s = none) : (localPop fails first remove).run s = .ok (false, default) s := by
  rw [localPop, EStateM.run_bind, EStateM.run_get]
  simp only [hn]
  rfl

lemma run_some {v : T} (hv : first s = some v) : (localPop fails first remove).run s =
    if fails .value then .error .value s
    else if fails .result then .error .result (remove s) else .ok (true, v) (remove s) := by
  rw [localPop, EStateM.run_bind, EStateM.run_get]
  simp only [hv, attempt]
  split_ifs <;> rfl

lemma kept_iff (h : Pops contents cons nil first remove) :
    Kept contents cons nil (localPop fails first remove) s ↔
      contents s = nil ∨ fails .value = true ∨ fails .result = false := by
  rw [Kept]
  cases hf : first s with
  | none =>
    have he := h.empty s hf
    rw [run_none hf]
    exact iff_of_true ⟨he, he⟩ (.inl he)
  | some v =>
    have hr := h.removed s v hf
    have hn : contents s ≠ nil := hr ▸ h.cons_ne_nil v _
    have hne : contents (remove s) ≠ contents s := hr ▸ (h.cons_ne v _).symm
    rw [run_some hf, or_iff_right hn]
    split_ifs with hv hc
    · simp [hv]
    · simp [hv, hc, hne]
    · simp [hc, hr]

lemma run_ok (hf : ∀ p, fails p = false) : (localPop fails first remove).run s =
    match first s with
    | some v => .ok (true, v) (remove s)
    | none => .ok (false, default) s := by
  cases hv : first s with
  | none => exact run_none hv
  | some v => simp [run_some hv, hf]

theorem pops_succeed (hf : ∀ p, fails p = false) (Q : StdPriorityQueue.{0, 0} T Compare) :
    (∀ my_queue : List T, (queueLocalPop fails).run my_queue =
      .ok (Queue.localPop my_queue).1 (Queue.localPop my_queue).2) ∧
    (∀ queue, (priorityQueueLocalPop fails Q).run queue =
      .ok (PriorityQueue.localPop Q queue).1 (PriorityQueue.localPop Q queue).2) ∧
    ∀ myset : Set.MySet T Compare, (setLocalPopFirst fails).run myset =
      .ok (Set.localPopFirst myset).1 (Set.localPopFirst myset).2 := by
  refine ⟨fun my_queue => ?_, fun queue => ?_, fun myset => ?_⟩
  · rw [queueLocalPop, run_ok hf]
    cases my_queue with
    | nil => rw [Queue.localPop_nil]; rfl
    | cons v l => rw [Queue.localPop_cons]; rfl
  · rw [priorityQueueLocalPop, run_ok hf]
    rw [PriorityQueue.localPop]
    split_ifs <;> rfl
  · rw [setLocalPopFirst, run_ok hf]
    cases he : myset.entries with
    | nil => simp [Set.localPopFirst_empty he]
    | cons v l => simp [Set.localPopFirst, Tree.size, Tree.first, he]

theorem failed_pop_kept_iff (fails : PopPoint → Bool) (Q : StdPriorityQueue.{0, 0} T Compare) :
    (∀ my_queue : List T, Kept id List.cons [] (queueLocalPop fails) my_queue ↔
      my_queue = [] ∨ fails .value = true ∨ fails .result = false) ∧
    (∀ queue, Kept Q.contents Multiset.cons 0 (priorityQueueLocalPop fails Q) queue ↔
      Q.contents queue = 0 ∨ fails .value = true ∨ fails .result = false) ∧
    ∀ myset : Set.MySet T Compare, Kept Tree.entries List.cons [] (setLocalPopFirst fails) myset ↔
      myset.entries = [] ∨ fails .value = true ∨ fails .result = false :=
  ⟨fun _ => kept_iff queue_pops, fun _ => kept_iff priorityQueue_pops, fun _ => kept_iff set_pops⟩

/-- The only element is gone when its copy into the pair throws. -/
theorem failed_pop_loses : ¬∀ (fails : PopPoint → Bool) (my_queue : List ℕ),
    Kept id List.cons [] (queueLocalPop fails) my_queue := by
  intro h
  have hk : ([] : List ℕ) = [7] := h (fun p => p = .result) [7]
  cases hk

end Specs

end Basket.FailedPop
