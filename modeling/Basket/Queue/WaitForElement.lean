import Basket.Queue.Model
import Mathlib.Logic.Relation

/-! The worker threads of a queue server, and when waiting consumers block a producer. -/

namespace Basket.Queue

variable {MappedType : Type*} {w : ℕ}

inductive Request (MappedType : Type*)
  | op (o : Op MappedType)
  | waitForElement
  deriving DecidableEq, Repr

inductive Answer (MappedType : Type*)
  | op (r : Reply MappedType)
  | waitForElement (found : Bool)
  deriving DecidableEq, Repr

/-- What a worker thread does: it waits for the mutex, holds it, or spins in `LocalWaitForElement`. -/
inductive Worker (MappedType : Type*)
  | idle
  | locking (i : ℕ) (o : Op MappedType)
  | locked (i : ℕ) (o : Op MappedType)
  | waiting (i : ℕ)
  deriving DecidableEq, Repr

def Worker.enter (i : ℕ) : Request MappedType → Worker MappedType
  | .op o => .locking i o
  | .waitForElement => .waiting i

structure Server (w : ℕ) (MappedType : Type*) where
  my_queue : List MappedType
  mutex : Option (Fin w)
  worker : Fin w → Worker MappedType
  requests : List (ℕ × Request MappedType)
  handled : List (ℕ × Answer MappedType)
  issued : ℕ

namespace Server

def initial (w : ℕ) (MappedType : Type*) : Server w MappedType where
  my_queue := []
  mutex := none
  worker _ := .idle
  requests := []
  handled := []
  issued := 0

def issue (r : Request MappedType) (s : Server w MappedType) : Server w MappedType :=
  { s with requests := s.requests ++ [(s.issued, r)], issued := s.issued + 1 }

def setWorker (j : Fin w) (a : Worker MappedType) (s : Server w MappedType) : Server w MappedType :=
  { s with worker := Function.update s.worker j a }

@[simp] lemma setWorker_self (j : Fin w) (a : Worker MappedType) (s : Server w MappedType) :
    (s.setWorker j a).worker j = a := by
  simp [setWorker]

def answer (i : ℕ) (a : Answer MappedType) (s : Server w MappedType) : Server w MappedType :=
  { s with handled := s.handled ++ [(i, a)] }

variable [Inhabited MappedType]

def body (i : ℕ) (o : Op MappedType) (s : Server w MappedType) : Server w MappedType :=
  ({ s with my_queue := (handle o s.my_queue).2, mutex := none } : Server w MappedType).answer i
    (.op (handle o s.my_queue).1)

/-- In which order the worker threads take the requests is left to the RPC layer, which the repository only
calls: here it is any order. -/
inductive Step : Server w MappedType → Server w MappedType → Prop
  | take {s : Server w MappedType} {j : Fin w} {i : ℕ} {r : Request MappedType}
      {l l' : List (ℕ × Request MappedType)} (hw : s.worker j = .idle)
      (hr : s.requests = l ++ (i, r) :: l') :
      Step s (({ s with requests := l ++ l' } : Server w MappedType).setWorker j (.enter i r))
  | lock {s : Server w MappedType} {j : Fin w} {i : ℕ} {o : Op MappedType}
      (hw : s.worker j = .locking i o) (hm : s.mutex = none) :
      Step s (({ s with mutex := some j } : Server w MappedType).setWorker j (.locked i o))
  | finish {s : Server w MappedType} {j : Fin w} {i : ℕ} {o : Op MappedType}
      (hw : s.worker j = .locked i o) : Step s ((s.body i o).setWorker j .idle)
  | spin {s : Server w MappedType} {j : Fin w} {i : ℕ} (hw : s.worker j = .waiting i)
      (hq : s.my_queue.length = 0) : Step s s
  | element {s : Server w MappedType} {j : Fin w} {i : ℕ} (hw : s.worker j = .waiting i)
      (hq : s.my_queue.length ≠ 0) : Step s ((s.answer i (.waitForElement true)).setWorker j .idle)

inductive Reachable : Server w MappedType → Prop
  | initial : Reachable (initial w MappedType)
  | issue {s : Server w MappedType} (r : Request MappedType) : Reachable s → Reachable (s.issue r)
  | step {s s' : Server w MappedType} : Reachable s → Step s s' → Reachable s'

def Handles (s : Server w MappedType) (i : ℕ) : Prop :=
  ∃ s' l a, Relation.ReflTransGen Step s s' ∧ s'.handled = s.handled ++ l ∧ (i, a) ∈ l

def Pending (s : Server w MappedType) (i : ℕ) (o : Op MappedType) : Prop :=
  (i, .op o) ∈ s.requests ∨ ∃ j, s.worker j = .locking i o ∨ s.worker j = .locked i o

def Blocked (s : Server w MappedType) : Prop :=
  s.my_queue = [] ∧ ∀ j, ∃ i, s.worker j = .waiting i

variable {s s' : Server w MappedType} {i : ℕ} {j : Fin w} {o : Op MappedType}

omit [Inhabited MappedType] in
lemma locked_setWorker {k : Fin w} {a : Worker MappedType} (hk : ∃ i o, s.worker k = .locked i o)
    (hj : ∀ i o, s.worker j ≠ .locked i o) : ∃ i o, (s.setWorker j a).worker k = .locked i o := by
  obtain ⟨i, o, hk⟩ := hk
  have hne : k ≠ j := by
    rintro rfl
    exact hj i o hk
  exact ⟨i, o, (Function.update_of_ne hne _ _).trans hk⟩

lemma Reachable.locked (h : Reachable s) : ∀ j, s.mutex = some j → ∃ i o, s.worker j = .locked i o := by
  induction h with
  | initial => simp [Server.initial]
  | issue r _ ih => exact ih
  | step _ hs ih =>
    intro k hk
    cases hs with
    | take hw hr => exact locked_setWorker (ih k hk) fun i o hl => by cases hw.symm.trans hl
    | @lock j i o hw hm =>
      obtain rfl : j = k := Option.some_inj.mp hk
      exact ⟨i, o, by simp [setWorker]⟩
    | finish hw => cases hk
    | spin hw hq => exact ih k hk
    | element hw hq => exact locked_setWorker (ih k hk) fun i o hl => by cases hw.symm.trans hl

lemma Step.handled (h : Step s s') : ∃ l, s'.handled = s.handled ++ l := by
  cases h with
  | take hw hr => exact ⟨[], by simp [setWorker]⟩
  | lock hw hm => exact ⟨[], by simp [setWorker]⟩
  | finish hw => exact ⟨_, rfl⟩
  | spin hw hq => exact ⟨[], by simp⟩
  | element hw hq => exact ⟨_, rfl⟩

omit [Inhabited MappedType] in
lemma Blocked.waiting {a : Worker MappedType} (hb : Blocked s) (hw : s.worker j = a) :
    ∃ i, a = .waiting i :=
  hw ▸ hb.2 j

lemma Blocked.step (hb : Blocked s) (h : Step s s') : s' = s := by
  cases h with
  | take hw hr =>
    obtain ⟨i, hi⟩ := hb.waiting hw
    cases hi
  | lock hw hm =>
    obtain ⟨i, hi⟩ := hb.waiting hw
    cases hi
  | finish hw =>
    obtain ⟨i, hi⟩ := hb.waiting hw
    cases hi
  | spin hw hq => rfl
  | element hw hq => exact absurd (by simp [hb.1]) hq

lemma Blocked.steps (hb : Blocked s) (h : Relation.ReflTransGen Step s s') : s' = s := by
  induction h with
  | refl => rfl
  | tail _ hs ih =>
    subst ih
    exact hb.step hs

lemma Step.steps_handles {s₁ : Server w MappedType} (h : Step s s₁) (hh : s₁.Handles i) : s.Handles i := by
  obtain ⟨s', l, a, hs, he, hm⟩ := hh
  obtain ⟨l', hl⟩ := h.handled
  exact ⟨s', l' ++ l, a, hs.head h, by rw [he, hl, List.append_assoc], List.mem_append_right l' hm⟩

section Handling

variable {k : ℕ} {p : Op MappedType}

lemma handles_of_locked (hw : s.worker j = .locked i o) : s.Handles i :=
  ⟨_, [_], _, .single (.finish hw), rfl, List.mem_singleton_self _⟩

lemma handles_of_locking (hw : s.worker j = .locking i o) (hm : s.mutex = none) : s.Handles i :=
  (Step.lock hw hm).steps_handles (handles_of_locked (setWorker_self _ _ _))

lemma handles_of_idle (hr : (i, .op o) ∈ s.requests) (hw : s.worker j = .idle) (hm : s.mutex = none) :
    s.Handles i := by
  obtain ⟨l, l', hl⟩ := List.append_of_mem hr
  exact (Step.take hw hl).steps_handles (handles_of_locking (setWorker_self _ _ _) hm)

lemma handles_after_locked (hr : (i, .op o) ∈ s.requests) (hw : s.worker j = .locked k p) :
    s.Handles i :=
  (Step.finish hw).steps_handles (handles_of_idle hr (setWorker_self _ _ _) rfl)

lemma handles_of_not_blocked (hw : 0 < w) (h : Reachable s) (hr : (i, .op o) ∈ s.requests)
    (hb : ¬s.Blocked) : s.Handles i := by
  cases hm : s.mutex with
  | some j =>
    obtain ⟨k, p, hj⟩ := h.locked j hm
    exact handles_after_locked hr hj
  | none =>
    obtain ⟨j, hj⟩ : ∃ j, s.my_queue.length ≠ 0 ∨ ∀ k, s.worker j ≠ .waiting k := by
      by_cases hq : s.my_queue = []
      · have hn : ¬∀ j, ∃ k, s.worker j = .waiting k := fun ha => hb ⟨hq, ha⟩
        push Not at hn
        obtain ⟨j, hj⟩ := hn
        exact ⟨j, .inr hj⟩
      · exact ⟨⟨0, hw⟩, .inl (by simpa using hq)⟩
    cases hk : s.worker j with
    | idle => exact handles_of_idle hr hk hm
    | locking k p =>
      exact (Step.lock hk hm).steps_handles (handles_after_locked hr (setWorker_self _ _ _))
    | locked k p => exact handles_after_locked hr hk
    | waiting k =>
      have hq := hj.resolve_right fun hn => hn k hk
      exact (Step.element hk hq).steps_handles (handles_of_idle hr (setWorker_self _ _ _) hm)

lemma handles_of_locking_later (h : Reachable s) (hj : s.worker j = .locking i o) : s.Handles i := by
  cases hm : s.mutex with
  | none => exact handles_of_locking hj hm
  | some k =>
    obtain ⟨i', p, hk⟩ := h.locked k hm
    have hne : j ≠ k := by
      rintro rfl
      rw [hj] at hk
      cases hk
    have hs := Step.finish hk
    have hw : ((s.body i' p).setWorker k .idle).worker j = .locking i o := by
      simpa [setWorker, body, answer, hne] using hj
    exact hs.steps_handles (handles_of_locking hw rfl)

end Handling

lemma Blocked.not_handles (hb : Blocked s) : ¬s.Handles i := by
  rintro ⟨s', l, a, hs, he, hm⟩
  rw [hb.steps hs, List.self_eq_append_right] at he
  simp [he] at hm

theorem push_handled_iff {data : MappedType} {key_int : UInt16} (hw : 0 < w) (h : Reachable s)
    (hp : s.Pending i (.push data key_int)) : s.Handles i ↔ ¬s.Blocked := by
  refine ⟨fun hh hb => hb.not_handles hh, fun hb => ?_⟩
  obtain hr | ⟨j, hj | hj⟩ := hp
  · exact handles_of_not_blocked hw h hr hb
  · exact handles_of_locking_later h hj
  · exact handles_of_locked hj

def waitThenPush (w : ℕ) : Server w ℕ := ((initial w ℕ).issue .waitForElement).issue (.op (.push 7 0))

lemma reachable_waitThenPush (w : ℕ) : Reachable (waitThenPush w) :=
  (Reachable.initial.issue .waitForElement).issue (.op (.push 7 0))

def starved : Server 1 ℕ :=
  ({ waitThenPush 1 with requests := [(1, .op (.push 7 0))] } : Server 1 ℕ).setWorker 0 (.waiting 0)

lemma reachable_starved : Reachable starved := by
  have hl : (waitThenPush 1).requests = [] ++ (0, .waitForElement) :: [(1, .op (.push 7 0))] := rfl
  have hw : (waitThenPush 1).worker 0 = .idle := rfl
  exact (reachable_waitThenPush 1).step (.take hw hl)

theorem push_handled_first : (waitThenPush 2).Handles 1 := by
  have hr : (1, .op (.push 7 0)) ∈ (waitThenPush 2).requests := by simp [waitThenPush, issue, initial]
  refine (push_handled_iff (by decide) (reachable_waitThenPush 2) (.inl hr)).mpr ?_
  rintro ⟨-, hb⟩
  obtain ⟨i, hk⟩ := hb 0
  cases hk

theorem push_starved : ¬∀ (w : ℕ) (s : Server w ℕ) (i : ℕ) (data : ℕ) (key_int : UInt16), 0 < w →
    Reachable s → s.Pending i (.push data key_int) → s.Handles i := by
  intro h
  have hb : Blocked starved := by
    refine ⟨rfl, fun j => ⟨0, ?_⟩⟩
    rw [Subsingleton.elim j 0]
    rfl
  exact hb.not_handles (h 1 starved 1 7 0 (by decide) reachable_starved (.inl (by simp [starved, setWorker])))

end Server

end Basket.Queue
