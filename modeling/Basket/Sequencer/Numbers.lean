import Basket.Sequencer.Model

/-! The numbers that each server hands out, and who can get the same one. -/

namespace Basket.Sequencer

open Library Cluster Communication

variable {Client : Type*} {D : Deployment Client}

def number? (s : UInt16) : Event Client UInt16 Op UInt64 → Option (ℕ × UInt64)
  | .handle i _ t _ r => if t = s then some (i, r) else none
  | _ => none

def numbers (s : UInt16) (tr : Trace Client UInt16 Op UInt64) : List (ℕ × UInt64) :=
  tr.filterMap (number? s)

variable {s : UInt16} {i j : ℕ} {c d : Client} {r : UInt64} {o p : Op}
variable {tr : Trace Client UInt16 Op UInt64} {e : Event Client UInt16 Op UInt64}
variable {shard : UInt16 → UInt64}

lemma numbers_concat : numbers s (tr ++ [e]) = numbers s tr ++ (number? s e).toList :=
  filterMap_snoc

lemma numbers_eq (h : Atomic (service D) (fun _ => 0) tr shard) (s : UInt16) :
    shard s = UInt64.ofNat (numbers s tr).length ∧
      (numbers s tr).map Prod.snd =
        (List.range (numbers s tr).length).map (fun k => UInt64.ofNat (k + 1)) := by
  induction h with
  | nil => exact ⟨rfl, rfl⟩
  | invoke _ _ ih => simpa [numbers_concat, number?] using ih
  | respond _ _ _ ih => simpa [numbers_concat, number?] using ih
  | @handle tr shard i c o _ _ _ ih =>
    rw [numbers_concat]
    by_cases hs : (service D).server c o = s
    · subst hs
      rw [Service.apply_same, Service.answer, service_handle]
      simp [number?, ih.1, ih.2, List.range_succ]
    · rw [Service.apply_other _ _ (Ne.symm hs)]
      simpa [number?, hs] using ih

lemma mem_numbers (h : .handle i c s o r ∈ tr) : (i, r) ∈ numbers s tr :=
  List.mem_filterMap.mpr ⟨_, h, by simp [number?]⟩

lemma handle_of_mem (h : (i, r) ∈ numbers s tr) : ∃ c o, .handle i c s o r ∈ tr := by
  obtain ⟨e, he, hn⟩ := List.mem_filterMap.mp h
  cases e with
  | invoke i c o => simp [number?] at hn
  | respond i c r => simp [number?] at hn
  | handle i c t o r =>
    obtain ⟨rfl, rfl, rfl⟩ : t = s ∧ i = _ ∧ r = _ := by simpa [number?] using hn
    exact ⟨c, o, he⟩

lemma ids_nodup (h : Atomic (service D) (fun _ => 0) tr shard) :
    ((numbers s tr).map Prod.fst).Nodup := by
  induction h with
  | nil => exact List.nodup_nil
  | invoke _ _ ih => simpa [numbers_concat, number?] using ih
  | respond _ _ _ ih => simpa [numbers_concat, number?] using ih
  | @handle tr shard i c o _ _ hu ih =>
    rw [numbers_concat]
    by_cases hs : (service D).server c o = s
    · simp only [number?, hs, if_true, Option.toList_some, List.map_append, List.map_cons, List.map_nil]
      refine nodup_snoc ih fun hm => ?_
      obtain ⟨⟨j, r⟩, hj, rfl⟩ := List.mem_map.mp hm
      obtain ⟨d, p, hh⟩ := handle_of_mem hj
      exact hu _ _ _ _ hh
    · simpa [number?, hs] using ih

lemma length_numbers_le [DecidableEq Client] {st : State Client UInt16 Op UInt64 UInt64}
    (h : Run (service D) (fun _ => 0) tr st) : (numbers s tr).length ≤ st.calls := by
  have hs : (numbers s tr).map Prod.fst ⊆ List.range st.calls := by
    intro i hi
    obtain ⟨⟨j, r⟩, hj, rfl⟩ := List.mem_map.mp hi
    obtain ⟨c, o, hh⟩ := handle_of_mem hj
    exact List.mem_range.mpr (h.linked.2.bound _ hh)
  simpa using ((ids_nodup h.atomic).subperm hs).length_le

lemma number_unique [DecidableEq Client] {st : State Client UInt16 Op UInt64 UInt64}
    (h : Run (service D) (fun _ => 0) tr st) (hb : st.calls < 2 ^ 64)
    (hi : .handle i c s o r ∈ tr) (hj : .handle j d s p r ∈ tr) : i = j := by
  have hl : (numbers s tr).length ≤ st.calls := length_numbers_le h
  have hn : ((numbers s tr).map Prod.snd).Nodup := by
    rw [(numbers_eq h.atomic s).2]
    refine List.nodup_range.map_on fun k hk k' hk' he => ?_
    rw [List.mem_range] at hk hk'
    have hh := congrArg UInt64.toNat he
    rw [UInt64.toNat_ofNat', UInt64.toNat_ofNat', Nat.mod_eq_of_lt (by omega),
      Nat.mod_eq_of_lt (by omega)] at hh
    omega
  exact congrArg Prod.fst (List.inj_on_of_nodup_map hn (mem_numbers hi) (mem_numbers hj) rfl)

lemma handle_of_respond [DecidableEq Client] {st : State Client UInt16 Op UInt64 UInt64}
    (h : Run (service D) (fun _ => 0) tr st) (hi : .respond i c r ∈ tr) :
    ∃ o, .handle i c (counter D c o) o r ∈ tr := by
  obtain ⟨s, o, hs⟩ := h.atomic.responded hi
  have hs : .handle i c s o r ∈ tr := hs.subset (by simp)
  have he := h.atomic.server_eq hs
  rw [service_server] at he
  exact ⟨o, he ▸ hs⟩

theorem same_number [DecidableEq Client] {st : State Client UInt16 Op UInt64 UInt64}
    (h : Run (service D) (fun _ => 0) tr st) (hb : st.calls < 2 ^ 64)
    (hi : .respond i c r ∈ tr) (hj : .respond j d r ∈ tr) (hne : i ≠ j) :
    ∃ o p, .handle i c (counter D c o) o r ∈ tr ∧ .handle j d (counter D d p) p r ∈ tr ∧
      counter D c o ≠ counter D d p := by
  obtain ⟨o, ho⟩ := handle_of_respond h hi
  obtain ⟨p, hp⟩ := handle_of_respond h hj
  exact ⟨o, p, ho, hp, fun he => hne (number_unique h hb (he ▸ ho) hp)⟩

def firstCalls : Trace Bool UInt16 Op UInt64 :=
  [.invoke 0 false .getNextSequence, .handle 0 false 0 .getNextSequence 1, .respond 0 false 1,
    .invoke 1 true .getNextSequence, .handle 1 true 1 .getNextSequence 1, .respond 1 true 1]

lemma run_firstCalls : ∃ st, Run (service .pair) (fun _ => 0) firstCalls st ∧ st.calls = 2 := by
  have hn : Run (service .pair) (fun _ => 0) [] _ := .nil
  exact ⟨_, (hn.call false .getNextSequence rfl).call true .getNextSequence rfl, rfl⟩

theorem same_number_pair : ∃ o p, .handle 0 false (counter .pair false o) o 1 ∈ firstCalls ∧
    .handle 1 true (counter .pair true p) p 1 ∈ firstCalls ∧
      counter .pair false o ≠ counter .pair true p := by
  obtain ⟨st, hr, hc⟩ := run_firstCalls
  exact same_number hr (by omega) (by simp [firstCalls]) (by simp [firstCalls]) (by decide)

theorem not_global : ¬∀ (D : Deployment Bool) (tr : Trace Bool UInt16 Op UInt64)
    (st : State Bool UInt16 Op UInt64 UInt64), Run (service D) (fun _ => 0) tr st → st.calls < 2 ^ 64 →
      ∀ i j c d r, .respond i c r ∈ tr → .respond j d r ∈ tr → i = j := by
  intro h
  obtain ⟨st, hr, hc⟩ := run_firstCalls
  have hh := h .pair _ _ hr (by omega) 0 1 false true 1 (by simp [firstCalls]) (by simp [firstCalls])
  exact absurd hh (by decide)

end Basket.Sequencer
