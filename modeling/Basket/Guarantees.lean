import Basket.Library.Conservation
import Basket.Sequencer.RealTime
import Basket.System

/-! What the users of one object may rely on, whatever else their program does on the same servers. -/

namespace Basket.Guarantees

open Library Cluster Communication CriticalSection Objects Conservation Basket.System

instance instFintypeUInt16 : Fintype UInt16 :=
  .ofEquiv (Fin UInt16.size)
    ⟨UInt16.ofFin, UInt16.toFin, fun _ => UInt16.toFin_ofFin _, fun _ => UInt16.ofFin_toFin _⟩

variable {Client Obj : Type} {D : Deployment Client}

section Isolation

variable (D) in
def clusterOf : (y : Container) →
    Service Client UInt16 (y.object D).Op (y.object D).Res (y.object D).Data
  | Container.map _ _ Compare keyHash => Map.serverService Compare D keyHash
  | Container.multimap _ _ Contains Compare keyHash => Multimap.serverService Compare Contains D keyHash
  | Container.set _ Compare keyHash => Set.serverService Compare D keyHash
  | Container.unorderedMap _ _ keyHash => UnorderedMap.service D keyHash
  | Container.queue _ => Queue.service D
  | Container.priorityQueue _ _ Q => PriorityQueue.service D Q
  | Container.globalSequence => Sequencer.service D
  | Container.globalClock _ => GlobalClock.service D

lemma service_eq (y : Container) : (y.object D).service (my_server D) = clusterOf D y := by
  cases y with
  | map KeyType MappedType Compare keyHash => exact Object.service_eq _ rfl rfl Map.run_body
  | multimap KeyType MappedType Contains Compare keyHash =>
    exact Object.service_eq _ rfl rfl (Multimap.run_body Contains)
  | set KeyType Compare keyHash => exact Object.service_eq _ rfl rfl Set.run_body
  | unorderedMap KeyType MappedType keyHash => exact Object.service_eq _ rfl rfl UnorderedMap.run_body
  | queue MappedType => exact Object.service_eq _ rfl rfl Queue.run_body
  | priorityQueue MappedType Compare Q => exact Object.service_eq _ rfl rfl (PriorityQueue.run_body Q)
  | globalSequence => exact Object.service_eq _ rfl rfl Sequencer.run_body
  | globalClock readings => exact Object.service_eq _ rfl rfl GlobalClock.run_body

end Isolation

def beside (y : Container) (others : Obj → Container) :
    Option Obj → Container
  | none => y
  | some x => others x

variable (D) in
abbrev Calls (y : Container) :=
  List (Linearizability.Event ℕ (Client × (y.object D).Op) (y.object D).Res)

variable [DecidableEq Client] [DecidableEq Obj] {y : Container}
variable {others : Obj → Container} {threads : ℕ}

def calls (h : History D (beside y others)) : Calls D y := h.filterMap (call? none)

abbrev Run (y : Container) (others : Obj → Container)
    (h : History D (beside y others))
    (st : CriticalSection.State (program D (beside y others)) threads) : Prop :=
  CriticalSection.Run (program D (beside y others)) threads (constructed D (beside y others)) h st

lemma calls_alone {h : History D (beside y others)}
    {st : CriticalSection.State (program D (beside y others)) threads} (hr : Run y others h st) :
    ∃ (tr : Trace Client UInt16 (y.object D).Op (y.object D).Res) (shard : UInt16 → (y.object D).Data),
      Atomic (clusterOf D y) (fun s => y.initial D s) tr shard ∧ callerHistory tr = calls h := by
  obtain ⟨tr, shard, ha, hh, -⟩ := alone hr none
  exact ⟨tr, shard, service_eq y ▸ ha, hh⟩

section Programs

def multimap : Unit → Container := fun _ => queueAndMultimap false

def pushPop : History .pair (beside (.queue ℕ) multimap) :=
  [.invoke 0 (true, ⟨some (), .op (.put 1 7)⟩), .invoke 1 (false, ⟨none, .push 9 1⟩),
    .respond 1 ⟨none, .push true⟩, .respond 0 ⟨some (), .op (.put true)⟩,
    .invoke 2 (true, ⟨none, .pop 1⟩), .respond 2 ⟨none, .pop (true, 9)⟩]

lemma run_pushPop : ∃ st : CriticalSection.State (program .pair (beside (.queue ℕ) multimap)) 1,
    Run (.queue ℕ) multimap pushPop st ∧ st.Quiescent := by
  have hn : CriticalSection.Run (program .pair (beside (.queue ℕ) multimap)) 1
    (constructed .pair (beside (.queue ℕ) multimap)) [] _ := .nil
  have h₁ := hn.snoc (.here (c := true) (o := ⟨some (), .op (.put 1 7)⟩) rfl (by decide))
  have h₂ := h₁.snoc (.request (c := false) (o := ⟨none, .push 9 1⟩) (s := 1) rfl (by decide))
  have h₃ := h₂.snoc (.lock (c := true) rfl rfl)
  have h₄ := h₃.snoc (.work (c := true) rfl)
  have h₅ := h₄.snoc (.take (c := false) (j := 0) rfl (by decide))
  have h₆ := h₅.snoc (.lock (c := false) rfl rfl)
  have h₇ := h₆.snoc (.work (c := false) rfl)
  have h₈ := h₇.snoc (.unlock (c := false) rfl)
  have h₉ := h₈.snoc (.reply (c := false) rfl)
  have h₁₀ := h₉.snoc (.work (c := true) rfl)
  have h₁₁ := h₁₀.snoc (.unlock (c := true) rfl)
  have h₁₂ := h₁₁.snoc (.reply (c := true) rfl)
  have h₁₃ := h₁₂.snoc (.here (c := true) (o := ⟨none, .pop 1⟩) rfl (by decide))
  have h₁₄ := h₁₃.snoc (.lock (c := true) rfl rfl)
  have h₁₅ := h₁₄.snoc (.work (c := true) rfl)
  have h₁₆ := h₁₅.snoc (.work (c := true) rfl)
  have h₁₇ := h₁₆.snoc (.work (c := true) rfl)
  have h₁₈ := h₁₇.snoc (.unlock (c := true) rfl)
  exact ⟨_, h₁₈.snoc (.reply (c := true) rfl), fun c => by cases c <;> rfl⟩

variable {containers : Obj → Container} {h : History D containers}
variable {st : CriticalSection.State (program D containers) threads}

end Programs

variable (D) in
def NothingTwice (y : Container) (others : Obj → Container) (threads : ℕ)
    (takesIn : (y.object D).Op → Bool) (handsOut : (y.object D).Res → Bool) : Prop :=
  ∀ h (st : CriticalSection.State _ threads), Run y others h st →
    responses handsOut (calls h) ≤ invocations takesIn (calls h)

variable (D) in
def NothingLost (y : Container) (others : Obj → Container) (threads : ℕ)
    (takesIn : (y.object D).Op → Bool) (handsOut : (y.object D).Res → Bool)
    (stock : (y.object D).Data → ℕ) : Prop :=
  ∀ h (st : CriticalSection.State _ threads), Run y others h st → st.Quiescent →
    responses handsOut (calls h) + ∑ s, stock (st.shard s none) = invocations takesIn (calls h)

section Balanced

variable {takesIn : (y.object D).Op → Bool} {handsOut : (y.object D).Res → Bool}
variable (stock : (y.object D).Data → ℕ) (hi : ∀ s, stock (y.initial D s) = 0)
variable {f : (y.object D).Op → (y.object D).Data → (y.object D).Res × (y.object D).Data}
variable (hb : ∀ o d, ((y.object D).body o).run d = f o d)

include hi

omit [DecidableEq Client] [DecidableEq Obj] in
lemma sum_initial : ∑ s, stock (constructed D (beside y others) s none) = 0 :=
  Finset.sum_eq_zero fun s _ => hi s

include hb

lemma nothingTwice_of_le
    (hs : ∀ o d, stock (f o d).2 + (handsOut (f o d).1).toNat ≤ stock d + (takesIn o).toNat) :
    NothingTwice D y others threads takesIn handsOut := by
  intro h st hr
  simp only [← hb] at hs
  have hh := responses_le (x := none) hr hs
  rw [sum_initial stock hi, Nat.zero_add] at hh
  exact hh

lemma nothingLost_of_eq
    (hs : ∀ o d, stock (f o d).2 + (handsOut (f o d).1).toNat = stock d + (takesIn o).toNat) :
    NothingLost D y others threads takesIn handsOut stock := by
  intro h st hr hq
  simp only [← hb] at hs
  have hh := responses_add (x := none) hr hq hs
  rw [sum_initial stock hi, Nat.zero_add] at hh
  exact hh

end Balanced

section Values

variable {MappedType : Type} [Inhabited MappedType] [DecidableEq MappedType] (v : MappedType)

def queuePushes : Queue.Op MappedType → Bool
  | .push data _ => data = v
  | _ => false

def queuePops : Queue.Reply MappedType → Bool
  | .pop found => found = (true, v)
  | _ => false

lemma queue_balance (o : Queue.Op MappedType) (my_queue : List MappedType) :
    (Queue.handle o my_queue).2.count v + (queuePops v (Queue.handle o my_queue).1).toNat =
      my_queue.count v + (queuePushes v o).toNat := by
  cases o with
  | push data key_int =>
    by_cases hv : data = v <;> simp [Queue.handle, Queue.localPush, queuePops, queuePushes, hv]
  | pop key_int =>
    cases my_queue with
    | nil => simp [Queue.handle, Queue.localPop_nil, queuePops, queuePushes]
    | cons u l => by_cases hv : u = v <;> simp [Queue.handle, Queue.localPop_cons, queuePops, queuePushes, hv]
  | size key_int => rfl

def priorityQueuePushes : PriorityQueue.Op MappedType → Bool
  | .push data _ => data = v
  | _ => false

/-- `Top` hands nothing out. -/
def priorityQueuePops : PriorityQueue.Reply MappedType → Bool
  | .pop found => found = (true, v)
  | _ => false

variable {Compare : MappedType → MappedType → Prop} {Q : StdPriorityQueue.{0, 0} MappedType Compare}

omit [Inhabited MappedType] in
lemma count_empty : (Q.contents Q.empty).count v = 0 := by
  rw [Q.contents_empty, Multiset.count_zero]

lemma priorityQueue_balance (o : PriorityQueue.Op MappedType) (queue : Q.Carrier) :
    (Q.contents (PriorityQueue.handle Q o queue).2).count v +
        (priorityQueuePops v (PriorityQueue.handle Q o queue).1).toNat =
      (Q.contents queue).count v + (priorityQueuePushes v o).toNat := by
  cases o with
  | push data key_int =>
    change (Q.contents (Q.push data queue)).count v + 0 = _
    rw [Q.contents_push, priorityQueuePushes]
    by_cases hv : data = v
    · simp [hv]
    · simp [hv, Multiset.count_cons_of_ne (Ne.symm hv)]
  | pop key_int =>
    change (Q.contents (PriorityQueue.localPop Q queue).2).count v +
      (decide ((PriorityQueue.localPop Q queue).1 = (true, v))).toNat = _ + 0
    have hc := @PriorityQueue.localPop_contents _ _ _ Q queue
    have hu := @PriorityQueue.localPop_unchanged _ _ _ Q queue
    generalize PriorityQueue.localPop Q queue = p at hc hu
    obtain ⟨⟨found, u⟩, rest⟩ := p
    cases found with
    | false =>
      obtain rfl : rest = queue := hu rfl
      simp
    | true =>
      rw [← (hc rfl).1]
      by_cases hv : u = v
      · simp [hv]
      · simp [hv, Multiset.count_cons_of_ne (Ne.symm hv)]
  | top key_int => rfl
  | size key_int => rfl

end Values

section Keys

variable {KeyType : Type} [LT KeyType] [DecidableLT KeyType] [LE KeyType] [DecidableLE KeyType]
variable [Inhabited KeyType] {Compare : KeyType → KeyType → Prop} [DecidableRel Compare]
variable [IsStrictTotalOrder KeyType Compare] {k : KeyType} {myset : Set.MySet KeyType Compare}

lemma mem_of_serverHandle {o : Set.ServerCall KeyType} (h : k ∈ (Set.serverHandle o myset).2.entries) :
    o = .op (.put k) ∨ k ∈ myset.entries := by
  cases o with
  | op o => exact (Set.mem_handle h).imp_left (congrArg _)
  | containsInServer s key_start key_end => exact .inr h
  | getAllDataInServer s => exact .inr h

lemma popped_of_serverHandle {o : Set.ServerCall KeyType}
    (h : (Set.serverHandle o myset).1 = .op (.popFirst (true, k))) :
    k ∈ myset.entries ∧ k ∉ (Set.serverHandle o myset).2.entries := by
  cases o with
  | containsInServer s key_start key_end => cases h
  | getAllDataInServer s => cases h
  | op o =>
    cases o with
    | put key => cases h
    | get key => cases h
    | erase key => cases h
    | seekFirst key_int => cases h
    | size key_int => cases h
    | popFirst key_int =>
      have hf := Set.Reply.popFirst.inj (Set.ServerAnswer.op.inj h)
      obtain ⟨l, he, hl⟩ := Set.localPopFirst_found hf
      refine ⟨he ▸ List.mem_cons_self, fun hm => ?_⟩
      have hm : k ∈ (Set.localPopFirst myset).2.entries := hm
      exact ((Tree.mem_tail he).mp (hl ▸ hm)).2 rfl

variable [DecidableEq KeyType] (k)

def setPuts (o : Set.LockedCall KeyType) : Bool := o.1 = .op (.put k)

def setPops (r : Set.ServerAnswer KeyType) : Bool := r = .op (.popFirst (true, k))

def setStock (myset : Set.MySet KeyType Compare) : ℕ := (decide (k ∈ myset.entries)).toNat

/-- Putting a key that is there and erasing a key waste it. -/
lemma set_balance (o : Set.LockedCall KeyType) :
    setStock k (Set.serverHandle o.1 myset).2 + (setPops k (Set.serverHandle o.1 myset).1).toNat ≤
      setStock k myset + (setPuts k o).toNat := by
  by_cases hr : (Set.serverHandle o.1 myset).1 = .op (.popFirst (true, k))
  · obtain ⟨hin, hout⟩ := popped_of_serverHandle hr
    simp [setStock, setPops, hin, hout, hr]
  · have hp : setPops k (Set.serverHandle o.1 myset).1 = false := decide_eq_false hr
    rw [hp, setStock, setStock, setPuts, Bool.toNat_false, Nat.add_zero]
    by_cases hm : k ∈ (Set.serverHandle o.1 myset).2.entries
    · rcases mem_of_serverHandle hm with ho | hin
      · rw [decide_eq_true ho]
        exact (Bool.toNat_le _).trans (Nat.le_add_left _ _)
      · simp [hm, hin]
    · simp [hm]

end Keys

section Theorems

variable {MappedType KeyType : Type} [Inhabited MappedType] [DecidableEq MappedType]
variable [LT KeyType] [DecidableLT KeyType] [LE KeyType] [DecidableLE KeyType] [Inhabited KeyType]
variable [DecidableEq KeyType]

theorem nothing_twice (Compare : MappedType → MappedType → Prop) [DecidableRel Compare]
    [IsStrictWeakOrder MappedType Compare] (Q : StdPriorityQueue.{0, 0} MappedType Compare)
    (CompareKey : KeyType → KeyType → Prop) [DecidableRel CompareKey]
    [IsStrictTotalOrder KeyType CompareKey] (keyHash : KeyType → UInt64)
    (others : Obj → Container) (threads : ℕ) :
    (∀ v, NothingTwice D (.queue MappedType) others threads (queuePushes v) (queuePops v)) ∧
    (∀ v, NothingTwice D (.priorityQueue MappedType Compare Q) others threads
      (priorityQueuePushes v) (priorityQueuePops v)) ∧
    ∀ k, NothingTwice D (.set KeyType CompareKey keyHash) others threads (setPuts k) (setPops k) := by
  refine ⟨fun v => ?_, fun v => ?_, fun k => ?_⟩
  · exact nothingTwice_of_le (List.count v) (fun _ => rfl) Queue.run_body fun o d => (queue_balance v o d).le
  · exact nothingTwice_of_le (fun queue => (Q.contents queue).count v) (fun _ => count_empty v)
      (PriorityQueue.run_body Q) fun o d => (priorityQueue_balance v o d).le
  · exact nothingTwice_of_le (setStock k) (fun _ => rfl) Set.run_body
      fun o _ => set_balance k o

theorem nothing_twice_pair :
    responses (queuePops 9) (calls pushPop) ≤ invocations (queuePushes 9) (calls pushPop) := by
  obtain ⟨st, hr, -⟩ := run_pushPop
  exact (nothing_twice (· < · : ℕ → ℕ → Prop) .sequence (· < · : ℕ → ℕ → Prop)
    UInt64.ofNat multimap 1).1 9 pushPop st hr

theorem nothing_lost (Compare : MappedType → MappedType → Prop) [DecidableRel Compare]
    [IsStrictWeakOrder MappedType Compare] (Q : StdPriorityQueue.{0, 0} MappedType Compare)
    (others : Obj → Container) (threads : ℕ) :
    (∀ v, NothingLost D (.queue MappedType) others threads (queuePushes v) (queuePops v)
      (List.count v)) ∧
    ∀ v, NothingLost D (.priorityQueue MappedType Compare Q) others threads
      (priorityQueuePushes v) (priorityQueuePops v) (fun queue => (Q.contents queue).count v) := by
  refine ⟨fun v => ?_, fun v => ?_⟩
  · exact nothingLost_of_eq _ (fun _ => rfl) Queue.run_body (queue_balance v)
  · exact nothingLost_of_eq _ (fun _ => count_empty v) (PriorityQueue.run_body Q) (priorityQueue_balance v)

/-- The 9 that was pushed has been popped, so that it is nowhere any more. -/
theorem nothing_lost_pair :
    ∃ st : CriticalSection.State (program .pair (beside (.queue ℕ) multimap)) 1,
      Run (.queue ℕ) multimap pushPop st ∧ ∑ s, List.count 9 (st.shard s none) = 0 := by
  obtain ⟨st, hr, hq⟩ := run_pushPop
  have hh := (nothing_lost (· < · : ℕ → ℕ → Prop) .sequence multimap 1).1 9 pushPop st hr hq
  have hs : 1 + ∑ s, List.count 9 (st.shard s none) = 1 := hh
  exact ⟨st, hr, Nat.add_left_cancel hs⟩

end Theorems

section Sequence

open Sequencer

variable {tr : Trace Client UInt16 Sequencer.Op UInt64} {shard : UInt16 → UInt64} {i j : ℕ} {c d : Client}
variable {o p : Sequencer.Op} {r q : UInt64} {s : UInt16}

omit [DecidableEq Client] in
lemma numbers_le_invokes (ha : Atomic (service D) (fun _ => 0) tr shard) :
    (numbers s tr).length ≤ tr.countP (invokes fun _ => true) := by
  refine le_trans ?_ (takes_le_invokes ha)
  rw [numbers, List.length_filterMap_eq_countP]
  apply List.countP_mono_left
  intro e he hn
  cases e <;> first | rfl | exact absurd hn (by simp [number?])

omit [DecidableEq Client] in
lemma handled (ha : Atomic (service D) (fun _ => 0) tr shard) (hi : .invoke i (c, o) ∈ callerHistory tr)
    (hr : .respond i r ∈ callerHistory tr) : .handle i c (counter D c o) o r ∈ tr := by
  have hh := (handled_of_callerHistory ha hi hr).1
  rwa [service_server] at hh

omit [DecidableEq Client] in
lemma number_ne (ha : Atomic (service D) (fun _ => 0) tr shard) (hb : (numbers s tr).length < 2 ^ 64)
    (hi : .handle i c s o r ∈ tr) (hj : .handle j d s p q ∈ tr) (hne : i ≠ j) : r ≠ q := by
  have hn : ((numbers s tr).map Prod.snd).Nodup :=
    List.pairwise_map.mpr ((numbers_increasing ha hb).imp UInt64.ne_of_lt)
  intro he
  have hp := List.inj_on_of_nodup_map hn (mem_numbers hi) (mem_numbers hj) he
  exact hne (congrArg Prod.fst hp)

omit [DecidableEq Client] in
lemma follows (ha : Atomic (service D) (fun _ => 0) tr shard)
    (hb : invocations (fun _ => true) (callerHistory tr) < 2 ^ 64)
    (hi : .invoke i (c, o) ∈ callerHistory tr) (hr : .respond i r ∈ callerHistory tr)
    (hj : .invoke j (d, p) ∈ callerHistory tr) (hq : .respond j q ∈ callerHistory tr)
    (he : counter D c o = counter D d p) :
    (i ≠ j → r ≠ q) ∧ ([.respond i r, .invoke j (d, p)].Sublist (callerHistory tr) → r < q) := by
  rw [invocations_callerHistory] at hb
  have hn := (numbers_le_invokes (s := counter D d p) ha).trans_lt hb
  have hhi := handled ha hi hr
  have hhj := handled ha hj hq
  rw [he] at hhi
  refine ⟨number_ne ha hn hhi hhj, fun hs => ?_⟩
  have ht := handled_before_of_callerHistory ha hi hs hhj
  rw [service_server, he] at ht
  exact handled_number_lt ha hn ht

theorem sequence_follows (threads : ℕ) {h : History D (beside .globalSequence others)}
    {st : CriticalSection.State (program D (beside .globalSequence others)) threads}
    (hr : Run .globalSequence others h st) (hb : invocations (fun _ => true) (calls h) < 2 ^ 64) :
    ∀ (i j : ℕ) c d o p (r q : UInt64), .invoke i (c, o) ∈ calls h → .respond i r ∈ calls h →
      .invoke j (d, p) ∈ calls h → .respond j q ∈ calls h → counter D c o = counter D d p →
      (i ≠ j → r ≠ q) ∧ ([.respond i r, .invoke j (d, p)].Sublist (calls h) → r < q) := by
  obtain ⟨tr, shard, ha, hh⟩ := calls_alone hr
  rw [← hh] at hb ⊢
  exact fun i j c d o p r q => follows ha hb

/-- A put into a multimap is under way while two numbers are handed out. -/
theorem sequence_follows_pair : ∃ (h : History .pair (beside .globalSequence multimap))
    (st : CriticalSection.State _ 1), Run .globalSequence multimap h st ∧
      .respond 0 (1 : UInt64) ∈ calls h ∧ .respond 1 (2 : UInt64) ∈ calls h ∧ (1 : UInt64) < 2 := by
  have hn : CriticalSection.Run (program .pair (beside .globalSequence multimap)) 1
    (constructed .pair (beside .globalSequence multimap)) [] _ := .nil
  have h₁ := hn.snoc (.here (c := true) (o := ⟨none, .getNextSequence⟩) rfl (by decide))
  have h₂ := h₁.snoc (.lock (c := true) rfl rfl)
  have h₃ := h₂.snoc (.work (c := true) rfl)
  have h₄ := h₃.snoc (.work (c := true) rfl)
  have h₅ := h₄.snoc (.work (c := true) rfl)
  have h₆ := h₅.snoc (.unlock (c := true) rfl)
  have h₇ := h₆.snoc (.reply (c := true) rfl)
  have h₈ := h₇.snoc (.request (c := false) (o := ⟨none, .getNextSequenceServer 1⟩) (s := 1) rfl (by decide))
  have h₉ := h₈.snoc (.here (c := true) (o := ⟨some (), .op (.put 1 7)⟩) rfl (by decide))
  have h₁₀ := h₉.snoc (.take (c := false) (j := 0) rfl (by decide))
  have h₁₁ := h₁₀.snoc (.lock (c := false) rfl rfl)
  have h₁₂ := h₁₁.snoc (.work (c := false) rfl)
  have h₁₃ := h₁₂.snoc (.work (c := false) rfl)
  have h₁₄ := h₁₃.snoc (.work (c := false) rfl)
  have h₁₅ := h₁₄.snoc (.unlock (c := false) rfl)
  have h₁₆ := h₁₅.snoc (.reply (c := false) rfl)
  refine ⟨_, _, h₁₆, .tail _ (.head _), .tail _ (.tail _ (.tail _ (.head _))), ?_⟩
  exact (sequence_follows 1 h₁₆ (by decide) 0 1 true false .getNextSequence (.getNextSequenceServer 1) 1 2
    (.head _) (.tail _ (.head _)) (.tail _ (.tail _ (.head _))) (.tail _ (.tail _ (.tail _ (.head _)))) rfl).2
      (.cons _ (.cons_cons _ (.cons_cons _ (List.nil_sublist _))))

end Sequence

end Basket.Guarantees
