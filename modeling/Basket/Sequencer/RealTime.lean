import Basket.Sequencer.Numbers

/-! The numbers of one server have no gap and follow the real-time order of its calls. -/

namespace Basket.Sequencer

open Library Cluster Communication

variable {Client : Type*} {D : Deployment Client}
variable {s : UInt16} {i j : ℕ} {c d : Client} {r q : UInt64} {o p : Op}
variable {tr : Trace Client UInt16 Op UInt64} {shard : UInt16 → UInt64}

lemma values_eq_range (h : Atomic (service D) (fun _ => 0) tr shard)
    (hb : (numbers s tr).length < 2 ^ 64) :
    (numbers s tr).map (fun n => n.2.toNat) = (List.range (numbers s tr).length).map (· + 1) := by
  have hv := congrArg (List.map UInt64.toNat) (numbers_eq h s).2
  rw [List.map_map, List.map_map] at hv
  refine hv.trans (List.map_congr_left fun k hk => ?_)
  rw [List.mem_range] at hk
  rw [Function.comp_apply, UInt64.toNat_ofNat']
  exact Nat.mod_eq_of_lt (by omega)

lemma numbers_increasing (h : Atomic (service D) (fun _ => 0) tr shard)
    (hb : (numbers s tr).length < 2 ^ 64) : (numbers s tr).Pairwise (fun m n => m.2 < n.2) := by
  have hp : (List.range (numbers s tr).length).Pairwise (fun k l => k + 1 < l + 1) :=
    List.pairwise_lt_range.imp fun hk => Nat.add_lt_add_right hk 1
  have hh := List.pairwise_map.mpr hp
  rw [← values_eq_range h hb, List.pairwise_map] at hh
  exact hh.imp UInt64.lt_iff_toNat_lt.mpr

lemma handled_number_lt (h : Atomic (service D) (fun _ => 0) tr shard)
    (hb : (numbers s tr).length < 2 ^ 64)
    (hh : [.handle i c s o r, .handle j d s p q].Sublist tr) : r < q := by
  have hs : [(i, r), (j, q)].Sublist (numbers s tr) := by
    simpa [numbers, number?] using hh.filterMap (number? s)
  simpa using (numbers_increasing h hb).sublist hs

lemma handle_of_invoke_respond [DecidableEq Client] {st : State Client UInt16 Op UInt64 UInt64}
    (h : Run (service D) (fun _ => 0) tr st) (hi : .invoke i c o ∈ tr) (hr : .respond i c r ∈ tr) :
    .handle i c (counter D c o) o r ∈ tr := by
  obtain ⟨o', hh⟩ := handle_of_respond h hr
  have hv : .invoke i c o' ∈ tr := (h.atomic.invoke_before hh).subset (by simp)
  obtain ⟨-, rfl⟩ := h.atomic.invoke_unique hi hv
  exact hh

theorem gap_free [DecidableEq Client] {st : State Client UInt16 Op UInt64 UInt64}
    (h : Run (service D) (fun _ => 0) tr st) (s : UInt16) (hb : (numbers s tr).length < 2 ^ 64) :
    (numbers s tr).map (fun n => n.2.toNat) = (List.range (numbers s tr).length).map (· + 1) ∧
    ∀ i j c d o p r q, .invoke i c o ∈ tr → [.respond i c r, .invoke j d p].Sublist tr →
      .respond j d q ∈ tr → counter D c o = s → counter D d p = s → r < q := by
  refine ⟨values_eq_range h.atomic hb, ?_⟩
  intro i j c d o p r q hi hs hq hc hd
  have hr : .respond i c r ∈ tr := hs.subset (by simp)
  have hj : .invoke j d p ∈ tr := hs.subset (by simp)
  have hh := handle_of_invoke_respond h hi hr
  have hh' := handle_of_invoke_respond h hj hq
  rw [hc] at hh
  rw [hd] at hh'
  exact handled_number_lt h.atomic hb (h.atomic.handled_before hs hh hh')

def mixed : Deployment Bool where
  num_servers := 1
  process c := ⟨0, c⟩
  num_servers_pos := Nat.one_pos
  my_server_lt c := by cases c <;> decide

def mixedCalls : Trace Bool UInt16 Op UInt64 :=
  [.invoke 0 true .getNextSequence, .handle 0 true 0 .getNextSequence 1, .respond 0 true 1,
    .invoke 1 false (.getNextSequenceServer 0), .handle 1 false 0 (.getNextSequenceServer 0) 2,
    .respond 1 false 2]

lemma run_mixedCalls : ∃ st, Run (service mixed) (fun _ => 0) mixedCalls st := by
  have hn : Run (service mixed) (fun _ => 0) [] _ := .nil
  exact ⟨_, (hn.call true .getNextSequence rfl).call false (.getNextSequenceServer 0) rfl⟩

theorem gap_free_mixed :
    (numbers 0 mixedCalls).map (fun n => n.2.toNat) = [1, 2] ∧ (1 : UInt64) < 2 := by
  obtain ⟨st, hr⟩ := run_mixedCalls
  have hh := gap_free hr 0 (by decide)
  refine ⟨hh.1, hh.2 0 1 true false .getNextSequence (.getNextSequenceServer 0) 1 2 ?_ ?_ ?_ rfl rfl⟩
  · simp [mixedCalls]
  · exact (List.sublist_append_left [_, _] [_, _]).trans (List.sublist_append_right [_, _] [_, _, _, _])
  · simp [mixedCalls]

end Basket.Sequencer
