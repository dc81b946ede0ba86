import Basket.GlobalClock.Model

/-! The times that each server shows, and what they say of the time between two calls. -/

namespace Basket.GlobalClock

open Library Cluster Communication

variable {Client : Type*} {D : Deployment Client}

def time? (s : UInt16) : Event Client UInt16 Op UInt64 → Option UInt64
  | .handle _ _ t _ r => if t = s then some r else none
  | _ => none

def times (s : UInt16) (tr : Trace Client UInt16 Op UInt64) : List UInt64 :=
  tr.filterMap (time? s)

variable {s : UInt16} {i j : ℕ} {c d : Client} {r q : UInt64} {o p : Op} {t t' : ℤ}
variable {tr : Trace Client UInt16 Op UInt64} {e : Event Client UInt16 Op UInt64}
variable {shard : UInt16 → Clock} {readings : UInt16 → ℕ → ℤ}

def shown (readings : ℕ → ℤ) (k : ℕ) : UInt64 := microseconds (readings (k + 1) - readings 0)

lemma times_concat : times s (tr ++ [e]) = times s tr ++ (time? s e).toList :=
  filterMap_snoc

lemma times_eq (h : Atomic (service D) (fun s => constructed (readings s)) tr shard) (s : UInt16) :
    shard s = ⟨readings s 0, fun n => readings s ((times s tr).length + n + 1)⟩ ∧
      times s tr = (List.range (times s tr).length).map (shown (readings s)) := by
  induction h with
  | nil => exact ⟨by simp [times, constructed], rfl⟩
  | invoke _ _ ih => simpa [times_concat, time?] using ih
  | respond _ _ _ ih => simpa [times_concat, time?] using ih
  | @handle tr shard i c o _ _ _ ih =>
    rw [times_concat]
    by_cases hs : (service D).server c o = s
    · subst hs
      rw [Service.apply_same, Service.answer, service_handle, ih.1]
      simp only [time?, if_true, Option.toList_some, List.length_append, List.length_singleton,
        localGetTime, Clock.tick]
      constructor
      · congr 1
        funext n
        congr 1
        omega
      · rw [List.range_succ, List.map_append, ← ih.2]
        rfl
    · rw [Service.apply_other _ _ (Ne.symm hs)]
      simpa [time?, hs] using ih

lemma exists_shown {f : ℕ → UInt64} {n : ℕ} (h : [r, q].Sublist ((List.range n).map f)) :
    ∃ k l, k < l ∧ l < n ∧ r = f k ∧ q = f l := by
  obtain ⟨m, hm, he⟩ := List.sublist_map_iff.mp h
  obtain ⟨k, l, rfl⟩ : ∃ k l, m = [k, l] := by
    apply List.length_eq_two.mp
    simpa using (congrArg List.length he).symm
  have hk := List.pairwise_lt_range.sublist hm
  simp only [List.map_cons, List.map_nil, List.cons.injEq, and_true] at he
  exact ⟨k, l, by simpa using hk, List.mem_range.mp (hm.subset (by simp)), he.1, he.2⟩

/-- Two times of one server are apart as their readings are, to within a microsecond. -/
structure Shows (r q : UInt64) (elapsed : ℤ) : Prop where
  le : r ≤ q
  error : |((q.toNat : ℤ) - r.toNat) * 1000 - elapsed| < 1000

lemma shows_microseconds (h : 0 ≤ t) (hl : t ≤ t') (hb : t' < 2 ^ 63) :
    Shows (microseconds t) (microseconds t') (t' - t) := by
  have hr := microseconds_toNat h (by omega)
  have hq := microseconds_toNat (by omega) hb
  constructor
  · rw [UInt64.le_iff_toNat_le]
    omega
  · rw [hr, hq, abs_lt]
    omega

theorem clock_follows [DecidableEq Client] {st : State Client UInt16 Op UInt64 Clock}
    (h : Run (service D) (fun s => constructed (readings s)) tr st) (s : UInt16)
    (hm : ∀ m n, m ≤ n → readings s m ≤ readings s n)
    (hb : ∀ n ≤ (times s tr).length, readings s n - readings s 0 < 2 ^ 63) :
    times s tr = (List.range (times s tr).length).map (shown (readings s)) ∧
    ∀ i j c d o p r q, .invoke i c o ∈ tr → [.respond i c r, .invoke j d p].Sublist tr →
      .respond j d q ∈ tr → timekeeper D c o = s → timekeeper D d p = s →
      ∃ k l, k < l ∧ l < (times s tr).length ∧ r = shown (readings s) k ∧ q = shown (readings s) l ∧
        Shows r q (readings s (l + 1) - readings s (k + 1)) := by
  have ht := (times_eq h.atomic s).2
  refine ⟨ht, ?_⟩
  intro i j c d o p r q hi hs hq hc hd
  have hj : .invoke j d p ∈ tr := hs.subset (by simp)
  have hr : .respond i c r ∈ tr := hs.subset (by simp)
  have hh := h.atomic.handle_mem hi hr
  have hh' := h.atomic.handle_mem hj hq
  have hl := (h.atomic.handled_before hs hh hh').filterMap (time? s)
  rw [service_server, service_server, hc, hd] at hl
  have hl : [r, q].Sublist (times s tr) := by simpa [times, time?] using hl
  rw [ht] at hl
  obtain ⟨k, l, hk, hn, rfl, rfl⟩ := exists_shown hl
  refine ⟨k, l, hk, hn, rfl, rfl, ?_⟩
  have he := shows_microseconds (sub_nonneg.mpr (hm 0 (k + 1) (Nat.zero_le _)))
    (sub_le_sub_right (hm (k + 1) (l + 1) (by omega)) (readings s 0)) (hb (l + 1) hn)
  rwa [sub_sub_sub_cancel_right] at he

def twoCalls : Trace Bool UInt16 Op UInt64 :=
  [.invoke 0 true .getTime, .handle 0 true 1 .getTime 1, .respond 0 true 1,
    .invoke 1 false (.getTimeServer 1), .handle 1 false 1 (.getTimeServer 1) 3, .respond 1 false 3]

lemma run_twoCalls :
    ∃ st, Run (service .pair) (fun _ => constructed fun n => 1500 * n) twoCalls st := by
  have hn : Run (service .pair) (fun _ => constructed fun n => 1500 * n) [] _ := .nil
  exact ⟨_, (hn.call true .getTime rfl).call false (.getTimeServer 1) rfl⟩

theorem clock_follows_pair : ∃ elapsed, Shows 1 3 elapsed := by
  obtain ⟨st, hr⟩ := run_twoCalls
  have hm (m n : ℕ) (h : m ≤ n) : (1500 * m : ℤ) ≤ 1500 * n := by omega
  have hl : (times 1 twoCalls).length = 2 := by decide
  have hs : [.respond 0 true 1, .invoke 1 false (.getTimeServer 1)].Sublist twoCalls :=
    (List.sublist_append_left [_, _] [_, _]).trans (List.sublist_append_right [_, _] [_, _, _, _])
  obtain ⟨k, l, -, -, -, -, he⟩ := (clock_follows hr 1 hm fun n hn => by omega).2 0 1 true false .getTime
    (.getTimeServer 1) 1 3 (by simp [twoCalls]) hs (by simp [twoCalls]) rfl rfl
  exact ⟨_, he⟩

end Basket.GlobalClock
