import Basket.Library.Linearizability
import Basket.PriorityQueue.Model

/-! Under a total order every implementation of the heap is one sorted sequence for its clients. -/

namespace Basket.PriorityQueue

open Library Cluster Communication Linearizability

variable {MappedType Client : Type*} {Compare : MappedType → MappedType → Prop}

def SameContents (Q Q' : StdPriorityQueue MappedType Compare) (queue : Q.Carrier) (queue' : Q'.Carrier) :
    Prop :=
  Q.contents queue = Q'.contents queue'

namespace SameContents

variable {Q Q' : StdPriorityQueue MappedType Compare} {queue : Q.Carrier} {queue' : Q'.Carrier}

lemma size_eq (h : SameContents Q Q' queue queue') : Q.size queue = Q'.size queue' := by
  rw [Q.size_eq, Q'.size_eq, h]

lemma top_mem {q : Q.Carrier} (hs : Q.size q > 0) : Q.top q hs ∈ Q.contents q := by
  rw [← Q.contents_pop q hs]
  exact Multiset.mem_cons_self _ _

variable [IsStrictTotalOrder MappedType Compare]

lemma top_eq (h : SameContents Q Q' queue queue') (hs : Q.size queue > 0) (hs' : Q'.size queue' > 0) :
    Q.top queue hs = Q'.top queue' hs' := by
  have hm : Q'.top queue' hs' ∈ Q.contents queue := h ▸ top_mem hs'
  have hm' : Q.top queue hs ∈ Q'.contents queue' := h ▸ top_mem hs
  exact SortedSequence.incomp_iff_eq.mp ⟨Q.not_top_lt queue hs _ hm, Q'.not_top_lt queue' hs' _ hm'⟩

lemma pop (h : SameContents Q Q' queue queue') (hs : Q.size queue > 0) (hs' : Q'.size queue' > 0) :
    SameContents Q Q' (Q.pop queue hs) (Q'.pop queue' hs') := by
  have hc := Q.contents_pop queue hs
  rw [h, ← Q'.contents_pop queue' hs', h.top_eq hs hs'] at hc
  exact (Multiset.cons_inj_right _).mp hc

variable [Inhabited MappedType]

lemma localPop (h : SameContents Q Q' queue queue') : (localPop Q queue).1 = (localPop Q' queue').1 ∧
    SameContents Q Q' (localPop Q queue).2 (localPop Q' queue').2 := by
  by_cases hs : Q.size queue > 0
  · have hs' : Q'.size queue' > 0 := h.size_eq ▸ hs
    rw [PriorityQueue.localPop, PriorityQueue.localPop, dif_pos hs, dif_pos hs']
    exact ⟨congrArg (Prod.mk true) (h.top_eq hs hs'), h.pop hs hs'⟩
  · have hs' : ¬Q'.size queue' > 0 := h.size_eq ▸ hs
    rw [PriorityQueue.localPop, PriorityQueue.localPop, dif_neg hs, dif_neg hs']
    exact ⟨rfl, h⟩

lemma handle (h : SameContents Q Q' queue queue') (o : Op MappedType) :
    (handle Q o queue).1 = (handle Q' o queue').1 ∧
      SameContents Q Q' (handle Q o queue).2 (handle Q' o queue').2 := by
  cases o with
  | push data key_int =>
    refine ⟨rfl, ?_⟩
    exact (Q.contents_push data queue).trans (h ▸ (Q'.contents_push data queue').symm)
  | pop key_int => exact ⟨congrArg Reply.pop h.localPop.1, h.localPop.2⟩
  | top key_int =>
    refine ⟨congrArg Reply.top ?_, h⟩
    rw [localTop_eq, localTop_eq, h.localPop.1]
  | size key_int => exact ⟨congrArg Reply.size h.size_eq, h⟩

end SameContents

section Sequential

section Sequence

variable [DecidableRel Compare] [IsStrictWeakOrder MappedType Compare]

def sequential [Inhabited MappedType] (o : Op MappedType)
    (queues : UInt16 → (StdPriorityQueue.sequence : StdPriorityQueue MappedType Compare).Carrier) :
    Reply MappedType ×
      (UInt16 → (StdPriorityQueue.sequence : StdPriorityQueue MappedType Compare).Carrier) :=
  let found := handle .sequence o (queues o.key_int)
  (found.1, Function.update queues o.key_int found.2)

def Represents (Q : StdPriorityQueue MappedType Compare) (shard : UInt16 → Q.Carrier)
    (queues : UInt16 → (StdPriorityQueue.sequence : StdPriorityQueue MappedType Compare).Carrier) : Prop :=
  ∀ s, SameContents Q .sequence (shard s) (queues s)

end Sequence

variable [DecidableRel Compare] [IsStrictTotalOrder MappedType Compare] [Inhabited MappedType]
variable {Q : StdPriorityQueue MappedType Compare} {D : Deployment Client}

lemma sequential_simulates : Simulates (service D Q) sequential (Represents Q) := by
  intro c o shard queues hR
  rw [service_server]
  obtain ⟨hr, hc⟩ := (hR o.key_int).handle o
  refine ⟨hr, fun s => ?_⟩
  change SameContents Q .sequence _ (Function.update queues o.key_int _ s)
  by_cases hs : s = o.key_int
  · subst hs
    rw [Service.apply_same, Function.update_self]
    exact hc
  · rw [Service.apply_other _ _ hs, Function.update_of_ne hs]
    exact hR s

theorem priorityQueue_linearizable [DecidableEq Client]
    {tr : Trace Client UInt16 (Op MappedType) (Reply MappedType)}
    {st : State Client UInt16 (Op MappedType) (Reply MappedType) Q.Carrier}
    (h : Run (service D Q) (fun _ => Q.empty) tr st) :
    Linearizable (@sequential _ Compare _ _ _) (fun _ => StdPriorityQueue.sequence.empty)
      (clientHistory tr) := by
  refine sequential_simulates.linearizes (fun s => ?_) h
  exact Q.contents_empty.trans (StdPriorityQueue.contents_empty _).symm

/-- The greater of two values pushed by different clients comes first. -/
theorem priorityQueue_linearizable_pair :
    Linearizable (@sequential ℕ (· < ·) _ _ _) (fun _ => StdPriorityQueue.sequence.empty)
      [.invoke 0 (.push 3 1), .invoke 1 (.push 7 1), .respond 1 (.push true), .respond 0 (.push true),
        .invoke 2 (.top 1), .respond 2 (.top (true, 7))] := by
  have hn : Run (service .pair (.sequence : StdPriorityQueue ℕ (· < ·)) :
      Service Bool UInt16 (Op ℕ) _ _) (fun _ => StdPriorityQueue.sequence.empty) [] _ := .nil
  have hp := hn.snoc (.request (c := false) (o := .push 3 1) (s := 1) rfl (by decide))
  have hg := hp.snoc (.here (c := true) (o := .push 7 1) rfl (by decide))
  have hs := hg.snoc (.serve (c := false) rfl)
  have hr := hs.snoc (.reply (c := false) rfl)
  have hq := hr.snoc (.here (c := true) (o := .top 1) rfl (by decide))
  exact priorityQueue_linearizable hq

end Sequential

end Basket.PriorityQueue
