import Basket.PriorityQueue.Model

/-! Every server's priority queue keeps its values and hands out the greatest. -/

namespace Basket.PriorityQueue

open Library Cluster Communication

variable {MappedType Client : Type*} {Compare : MappedType → MappedType → Prop}

def pushed? (s : UInt16) : Event Client UInt16 (Op MappedType) (Reply MappedType) → Option MappedType
  | .handle _ _ t (.push data _) _ => if t = s then some data else none
  | _ => none

def popped? (s : UInt16) : Event Client UInt16 (Op MappedType) (Reply MappedType) → Option MappedType
  | .handle _ _ t (.pop _) (.pop (true, v)) => if t = s then some v else none
  | _ => none

section Traces

variable (s : UInt16) (tr : Trace Client UInt16 (Op MappedType) (Reply MappedType))

def pushes : List MappedType := tr.filterMap (pushed? s)

def pops : List MappedType := tr.filterMap (popped? s)

end Traces

section Events

variable {s t : UInt16} {i : ℕ} {c : Client} {o : Op MappedType} {r : Reply MappedType}
variable {tr : Trace Client UInt16 (Op MappedType) (Reply MappedType)}
variable {e : Event Client UInt16 (Op MappedType) (Reply MappedType)}

lemma pops_concat : pops s (tr ++ [e]) = pops s tr ++ (popped? s e).toList :=
  filterMap_snoc

lemma pushes_concat : pushes s (tr ++ [e]) = pushes s tr ++ (pushed? s e).toList :=
  filterMap_snoc

lemma popped?_other (h : t ≠ s) : popped? s (.handle i c t o r) = none := by
  simp only [popped?]
  split <;> simp_all

lemma pushed?_other (h : t ≠ s) : pushed? s (.handle i c t o r) = none := by
  cases o <;> simp [pushed?, h]

lemma popped?_pop {key_int : UInt16} {found : Bool × MappedType} :
    popped? s (.handle i c s (.pop key_int) (.pop found)) = if found.1 then some found.2 else none := by
  obtain ⟨b, v⟩ := found
  cases b <;> simp [popped?]

end Events

variable [Inhabited MappedType] {Q : StdPriorityQueue MappedType Compare} {D : Deployment Client}
variable {init shard : UInt16 → Q.Carrier} {s : UInt16}
variable {tr pre mid : Trace Client UInt16 (Op MappedType) (Reply MappedType)}
variable {e : Event Client UInt16 (Op MappedType) (Reply MappedType)}

lemma contents_step (h : Atomic (service D Q) init (pre ++ [e]) shard) (s : UInt16) :
    ((popped? s e).toList : Multiset MappedType) + Q.contents ((service D Q).after init (pre ++ [e]) s) =
        Q.contents ((service D Q).after init pre s) + (pushed? s e).toList ∧
      ∀ v, popped? s e = some v →
        ∀ x ∈ Q.contents ((service D Q).after init pre s), ¬Compare v x := by
  rw [Service.after_concat]
  cases e with
  | invoke i c o => simp [popped?, pushed?, Service.effect]
  | respond i c r => simp [popped?, pushed?, Service.effect]
  | handle i c t o r =>
    obtain ⟨-, rfl⟩ := h.handled
    generalize (service D Q).after init pre = shard
    rw [Service.effect]
    by_cases hs : t = s
    · subst hs
      rw [Service.apply_same]
      cases o with
      | push data key_int =>
        simp [popped?, pushed?, service, handle, localPush, Q.contents_push, add_comm]
      | top key_int => simp [popped?, pushed?, service, handle]
      | size key_int => simp [popped?, pushed?, service, handle]
      | pop key_int =>
        have hp : popped? t (.handle i c t (.pop key_int) ((service D Q).answer (.pop key_int) t shard)) =
            if (localPop Q (shard t)).1.1 then some (localPop Q (shard t)).1.2 else none :=
          popped?_pop
        have hc : ((service D Q).handle (.pop key_int) (shard t)).2 = (localPop Q (shard t)).2 := rfl
        have hu : pushed? t (.handle i c t (.pop key_int) ((service D Q).answer (.pop key_int) t shard)) =
            none := rfl
        rw [hp, hc, hu]
        cases hf : (localPop Q (shard t)).1.1 with
        | false => simp [localPop_unchanged hf]
        | true => simpa using localPop_contents hf
    · rw [Service.apply_other _ _ (Ne.symm hs), popped?_other hs, pushed?_other hs]
      simp

lemma pushes_eq (h : Atomic (service D Q) (fun _ => Q.empty) tr shard) (s : UInt16) :
    (pushes s tr : Multiset MappedType) =
      pops s tr + Q.contents ((service D Q).after (fun _ => Q.empty) tr s) := by
  induction tr using List.reverseRecOn generalizing shard with
  | nil => simp [pushes, pops, Service.after, Q.contents_empty]
  | append_singleton tr e ih =>
    have hc := (contents_step h s).1
    rw [pushes_concat, pops_concat, ← Multiset.coe_add, ← Multiset.coe_add, ih h.earlier, add_assoc,
      ← hc, add_assoc]

lemma pops_ordered (h : Atomic (service D Q) init (pre ++ mid) shard) (s : UInt16)
    (hm : pushes s mid = []) : (pops s mid).Pairwise (fun a b => ¬Compare a b) ∧
      ∀ v ∈ pops s mid, ∀ x ∈ Q.contents ((service D Q).after init (pre ++ mid) s), ¬Compare v x := by
  induction mid using List.reverseRecOn generalizing shard with
  | nil => simp [pops]
  | append_singleton mid e ih =>
    rw [pushes_concat, List.append_eq_nil_iff] at hm
    rw [← List.append_assoc] at h ⊢
    obtain ⟨hw, hx⟩ := ih h.earlier hm.1
    obtain ⟨hc, ht⟩ := contents_step h s
    rw [hm.2, Multiset.coe_nil, add_zero] at hc
    rw [pops_concat]
    cases hp : popped? s e with
    | none =>
      rw [hp, Option.toList_none, Multiset.coe_nil, zero_add] at hc
      rw [Option.toList_none, List.append_nil, hc]
      exact ⟨hw, hx⟩
    | some v =>
      rw [hp, Option.toList_some, Multiset.coe_singleton, Multiset.singleton_add] at hc
      have hv : v ∈ Q.contents ((service D Q).after init (pre ++ mid) s) :=
        hc ▸ Multiset.mem_cons_self v _
      rw [Option.toList_some]
      constructor
      · refine List.pairwise_append.mpr ⟨hw, List.pairwise_singleton _ v, fun a ha b hb => ?_⟩
        rw [List.mem_singleton.mp hb]
        exact hx a ha v hv
      · intro a ha x hin
        have hin := hc ▸ Multiset.mem_cons_of_mem hin
        rcases List.mem_append.mp ha with ha | ha
        · exact hx a ha x hin
        · rw [List.mem_singleton.mp ha]
          exact ht v hp x hin

lemma localPop_found {queue : Q.Carrier} {found : Bool × MappedType} (h : found = (localPop Q queue).1) :
    (found.1 = false ↔ Q.contents queue = 0) ∧
      (found.1 = true → found.2 ∈ Q.contents queue ∧ ∀ x ∈ Q.contents queue, ¬Compare found.2 x) := by
  subst h
  refine ⟨localPop_fails, fun ht => ?_⟩
  obtain ⟨hc, hx⟩ := localPop_contents ht
  exact ⟨hc ▸ Multiset.mem_cons_self _ _, hx⟩

theorem ordered [DecidableEq Client] {st : State Client UInt16 (Op MappedType) (Reply MappedType) Q.Carrier}
    (h : Run (service D Q) (fun _ => Q.empty) tr st) :
    (∀ s, (pushes s tr : Multiset MappedType) = pops s tr + Q.contents (st.shard s)) ∧
    (∀ pre i c s o r post, tr = pre ++ .handle i c s o r :: post →
      (∀ key_int, o = .pop key_int → ∃ found, r = .pop found) ∧
      (∀ key_int, o = .top key_int → ∃ found, r = .top found) ∧
      ∀ found, r = .pop found ∨ r = .top found →
        (found.1 = false ↔ Q.contents ((service D Q).after (fun _ => Q.empty) pre s) = 0) ∧
        (found.1 = true → found.2 ∈ Q.contents ((service D Q).after (fun _ => Q.empty) pre s) ∧
          ∀ x ∈ Q.contents ((service D Q).after (fun _ => Q.empty) pre s), ¬Compare found.2 x)) ∧
    ∀ s pre mid post, tr = pre ++ mid ++ post → pushes s mid = [] →
      (pops s mid).Pairwise (fun a b => ¬Compare a b) := by
  have ha := h.atomic
  refine ⟨fun s => ha.shard_eq ▸ pushes_eq ha s, ?_, ?_⟩
  · rintro pre i c s o r post rfl
    obtain ⟨-, rfl⟩ := ha.handled
    refine ⟨by rintro key_int rfl; exact ⟨_, rfl⟩, by rintro key_int rfl; exact ⟨_, rfl⟩, fun found hr => ?_⟩
    refine localPop_found ?_
    cases o with
    | push data key_int => simp [Service.answer, service, handle, localPush] at hr
    | size key_int => simp [Service.answer, service, handle] at hr
    | pop key_int =>
      have hp : Reply.pop (localPop Q _).1 = .pop found :=
        hr.resolve_right (by simp [Service.answer, service, handle])
      exact (Reply.pop.inj hp).symm
    | top key_int =>
      have ht : Reply.top (localTop Q _) = .top found :=
        hr.resolve_left (by simp [Service.answer, service, handle])
      rw [← Reply.top.inj ht, localTop_eq]
  · rintro s pre mid post rfl hm
    exact (pops_ordered ha.earlier s hm).1

theorem ordered_pair : ∃ tr : Trace Bool UInt16 (Op ℕ) (Reply ℕ), pops 1 tr = [7] ∧ ∃ st,
    Run (service .pair (.sequence : StdPriorityQueue ℕ (· < ·))) (fun _ => .empty) tr st ∧
      (pushes 1 tr : Multiset ℕ) = pops 1 tr + StdPriorityQueue.sequence.contents (st.shard 1) := by
  have hn : Run (service .pair (.sequence : StdPriorityQueue ℕ (· < ·))) (fun _ => .empty) [] _ := .nil
  have hr := ((hn.call false (.push 5 1) rfl).call false (.push 7 1) rfl).call true (.pop 1) rfl
  exact ⟨_, rfl, _, hr, (ordered hr).1 1⟩

end Basket.PriorityQueue
