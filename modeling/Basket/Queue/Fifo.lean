import Basket.Queue.Model

/-! Every server's queue is first in, first out, and neither loses nor duplicates a value. -/

namespace Basket.Queue

open Library Cluster Communication

variable {MappedType Client : Type*}

def pushed? (s : UInt16) : Event Client UInt16 (Op MappedType) (Reply MappedType) → Option (ℕ × MappedType)
  | .handle i _ t (.push data _) _ => if t = s then some (i, data) else none
  | _ => none

def popped? (s : UInt16) : Event Client UInt16 (Op MappedType) (Reply MappedType) → Option MappedType
  | .handle _ _ t (.pop _) (.pop (true, v)) => if t = s then some v else none
  | _ => none

section Traces

variable (s : UInt16) (tr : Trace Client UInt16 (Op MappedType) (Reply MappedType))

def pushes : List (ℕ × MappedType) := tr.filterMap (pushed? s)

def pops : List MappedType := tr.filterMap (popped? s)

def taken : List (ℕ × MappedType) := (pushes s tr).take (pops s tr).length

end Traces

variable [Inhabited MappedType] {D : Deployment Client} {s : UInt16} {i j : ℕ} {c : Client}
variable {a b v : MappedType} {r : Reply MappedType}
variable {shard : UInt16 → List MappedType} {tr : Trace Client UInt16 (Op MappedType) (Reply MappedType)}

omit [Inhabited MappedType] in
lemma pops_concat {e : Event Client UInt16 (Op MappedType) (Reply MappedType)} :
    pops s (tr ++ [e]) = pops s tr ++ (popped? s e).toList :=
  filterMap_snoc

omit [Inhabited MappedType] in
lemma pushes_concat {e : Event Client UInt16 (Op MappedType) (Reply MappedType)} :
    pushes s (tr ++ [e]) = pushes s tr ++ (pushed? s e).toList :=
  filterMap_snoc

omit [Inhabited MappedType] in
lemma popped?_other {t : UInt16} {o : Op MappedType} (h : t ≠ s) :
    popped? s (.handle i c t o r) = none := by
  simp only [popped?]
  split <;> simp_all

omit [Inhabited MappedType] in
lemma pushed?_other {t : UInt16} {o : Op MappedType} (h : t ≠ s) :
    pushed? s (.handle i c t o r) = none := by
  cases o <;> simp [pushed?, h]

omit [Inhabited MappedType] in
lemma pushed?_id {t : UInt16} {o : Op MappedType} {p : ℕ × MappedType}
    (h : pushed? s (.handle i c t o r) = some p) : p.1 = i := by
  cases o with
  | push data key_int =>
    obtain ⟨-, rfl⟩ : t = s ∧ (i, data) = p := by simpa [pushed?] using h
    rfl
  | pop key_int => simp [pushed?] at h
  | size key_int => simp [pushed?] at h

lemma pops_append (h : Atomic (service D) (fun _ => []) tr shard) (s : UInt16) :
    pops s tr ++ shard s = (pushes s tr).map Prod.snd := by
  induction h with
  | nil => rfl
  | invoke _ _ ih => simpa [pops_concat, pushes_concat, popped?, pushed?] using ih
  | respond _ _ _ ih => simpa [pops_concat, pushes_concat, popped?, pushed?] using ih
  | @handle tr shard i c o _ _ _ ih =>
    rw [pops_concat, pushes_concat]
    by_cases hs : (service D).server c o = s
    · subst hs
      rw [Service.apply_same]
      generalize (service D).server c o = s at ih ⊢
      cases o with
      | size key_int => simpa [popped?, pushed?, service, handle] using ih
      | push data key_int =>
        simp [popped?, pushed?, service, handle, localPush, ← ih]
      | pop key_int =>
        cases hq : shard s with
        | nil => simpa [popped?, pushed?, service, handle, Service.answer, hq, localPop_nil] using ih
        | cons v l => simpa [popped?, pushed?, service, handle, Service.answer, hq, localPop_cons] using ih
    · rw [Service.apply_other _ _ (Ne.symm hs), popped?_other hs, pushed?_other hs]
      simpa using ih

lemma taken_values (h : Atomic (service D) (fun _ => []) tr shard) (s : UInt16) :
    (taken s tr).map Prod.snd = pops s tr := by
  rw [taken, List.map_take, ← pops_append h s]
  exact List.take_left

lemma mem_pushes (h : Atomic (service D) (fun _ => []) tr shard) (hm : (i, a) ∈ pushes s tr) :
    ∃ c r, .handle i c s (.push a s) r ∈ tr := by
  obtain ⟨e, he, hp⟩ := List.mem_filterMap.mp hm
  cases e with
  | invoke i c o => simp [pushed?] at hp
  | respond i c r => simp [pushed?] at hp
  | handle i c t o r =>
    cases o with
    | pop key_int => simp [pushed?] at hp
    | size key_int => simp [pushed?] at hp
    | push data key_int =>
      have ht := h.server_eq he
      rw [service_server] at ht
      obtain ⟨rfl, rfl, rfl⟩ : t = s ∧ i = _ ∧ data = a := by simpa [pushed?] using hp
      exact ⟨c, r, ht ▸ he⟩

lemma pushes_nodup (h : Atomic (service D) (fun _ => []) tr shard) : (pushes s tr).Nodup := by
  induction h with
  | nil => exact List.nodup_nil
  | invoke _ _ ih => simpa [pushes_concat, pushed?] using ih
  | respond _ _ _ ih => simpa [pushes_concat, pushed?] using ih
  | @handle tr shard i c o h _ hu ih =>
    rw [pushes_concat]
    cases hp : pushed? s (.handle i c ((service D).server c o) o _) with
    | none => simpa using ih
    | some p =>
      refine nodup_snoc ih fun hm => ?_
      obtain ⟨d, q, hd⟩ := mem_pushes h hm
      rw [pushed?_id hp] at hd
      exact hu _ _ _ _ hd

lemma taken_in_order (h : Atomic (service D) (fun _ => []) tr shard)
    (ha : .invoke i c (.push a s) ∈ tr) (hb : [.respond i c r, .invoke j c (.push b s)].Sublist tr)
    (ht : (j, b) ∈ taken s tr) : [(i, a), (j, b)].Sublist (taken s tr) := by
  refine before_take (pushes_nodup h) ?_ ht
  have hm : .respond i c r ∈ tr := hb.subset (by simp)
  obtain ⟨s', o, hr⟩ := h.responded hm
  have hv : .invoke i c o ∈ tr := hr.subset (by simp)
  obtain ⟨-, rfl⟩ := h.invoke_unique ha hv
  have hi : .handle i c s' (.push a s) r ∈ tr := hr.subset (by simp)
  obtain ⟨d, q, hj⟩ := mem_pushes h (List.mem_of_mem_take ht)
  have hw : .invoke j c (.push b s) ∈ tr := hb.subset (by simp)
  have hd : .invoke j d (.push b s) ∈ tr := (h.invoke_before hj).subset (by simp)
  obtain ⟨rfl, -⟩ := h.invoke_unique hw hd
  have hs := h.server_eq hi
  rw [service_server] at hs
  simpa [pushes, pushed?, hs, Op.key_int] using (h.handled_before hb hi hj).filterMap (pushed? s)

theorem fifo [DecidableEq Client]
    {st : State Client UInt16 (Op MappedType) (Reply MappedType) (List MappedType)}
    (h : Run (service D) (fun _ => []) tr st) :
    (∀ s, pops s tr ++ st.shard s = (pushes s tr).map Prod.snd) ∧
    (∀ pre i c s key_int r post, tr = pre ++ .handle i c s (.pop key_int) r :: post →
      ∃ found, r = .pop found ∧
        (found.1 = false ↔ (service D).after (fun _ => []) pre s = [])) ∧
    (∀ s, (taken s tr).map Prod.snd = pops s tr) ∧
    ∀ s i j c a b r, .invoke i c (.push a s) ∈ tr →
      [.respond i c r, .invoke j c (.push b s)].Sublist tr →
      (j, b) ∈ taken s tr → [(i, a), (j, b)].Sublist (taken s tr) := by
  have ha := h.atomic
  refine ⟨pops_append ha, ?_, taken_values ha, fun s i j c a b r => taken_in_order ha⟩
  rintro pre i c s key_int r post rfl
  obtain ⟨-, rfl⟩ := ha.handled
  exact ⟨_, rfl, localPop_fails⟩

theorem fifo_pair : ∃ st : State Bool UInt16 (Op ℕ) (Reply ℕ) (List ℕ), st.shard 1 = [6] ∧ ∃ tr,
    Run (service .pair) (fun _ => []) tr st ∧ pops 1 tr ++ st.shard 1 = (pushes 1 tr).map Prod.snd := by
  have hn : Run (service .pair) (fun _ => ([] : List ℕ)) [] _ := .nil
  have hr := ((hn.call false (.push 5 1) rfl).call false (.push 6 1) rfl).call true (.pop 1) rfl
  exact ⟨_, rfl, _, hr, (fifo hr).1 1⟩

end Basket.Queue
