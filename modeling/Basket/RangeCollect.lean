import Basket.AllData
import Basket.Map.RangeQuery
import Basket.Set.RangeQuery

/-! `Contains` of the map and the set while other clients put and erase. -/

namespace Basket.RangeCollect

open Library Cluster Communication RangeQuery

variable {Client KeyType MappedType Oper Res α : Type*} [LinearOrder KeyType]
variable {key : α → KeyType} {single : KeyType → KeyType → Bool} {key_start key_end : KeyType}

/-- What a walk that meets updates still owes its caller. `inside` are the keys that the test of a lone
entry and the walk both take. -/
structure Collects (single : KeyType → KeyType → Bool) (key_start key_end : KeyType)
    (inside : KeyType → Prop)
    (moments : List (State Client UInt16 Oper Res (Tree key (· < · : KeyType → KeyType → Prop))))
    (final_values : List α) : Prop where
  nodup : (final_values.map key).Nodup
  stored : ∀ e ∈ final_values, ∃ m ∈ moments, ∃ s, e ∈ (m.shard s).entries ∧
    if (m.shard s).size = 1 then single (key e) key_start = true
    else key_start ≤ key e ∧ key e ≤ key_end
  complete : ∀ k, inside k → (∀ m ∈ moments, ∃ s, ∃ e ∈ (m.shard s).entries, key e = k) →
    k ∈ final_values.map key

variable {t : Tree key (· < · : KeyType → KeyType → Prop)}

lemma mem_found {e : α} : e ∈ found single key_start key_end t ↔ e ∈ t.entries ∧
    if t.size = 1 then single (key e) key_start = true else key_start ≤ key e ∧ key e ≤ key_end := by
  rw [found, List.mem_filter]
  apply and_congr_right
  intro _
  split_ifs <;> simp

variable [DecidableEq Client]

def CollectsRange (D : Deployment Client)
    (S : Service Client UInt16 Oper Res (Tree key (· < · : KeyType → KeyType → Prop)))
    (single : KeyType → KeyType → Bool) (inside : KeyType → KeyType → KeyType → Prop) : Prop :=
  ∀ tr st, Run S (fun _ => .empty) tr st → ∀ c key_start key_end moments q,
    Gather.Run S (fun t l => localContainsInServer single key_start key_end t = some l)
      (AllData.call D c st) moments q → q.todo = [] →
    Collects single key_start key_end (inside key_start key_end) moments q.final_values

variable {S : Service Client UInt16 Oper Res (Tree key (· < · : KeyType → KeyType → Prop))}
variable {D : Deployment Client}

lemma collectsRange (hmax : D.num_servers ≤ 65536) (home : KeyType → UInt16)
    (hh : ∀ k, (home k).toNat < D.num_servers) {inside : KeyType → KeyType → KeyType → Prop}
    (hi : ∀ key_start key_end k, inside key_start key_end k →
      single k key_start = true ∧ key_start ≤ k ∧ k ≤ key_end)
    (hp : ∀ tr shard, Atomic S (fun _ => .empty) tr shard →
      ∀ s, ∀ e ∈ (shard s).entries, home (key e) = s) :
    CollectsRange D S single inside := by
  intro tr st ht c key_start key_end moments q h hq
  have hm (k : KeyType) : home k ∈ askOrder D.num_servers (D.process c).my_server :=
    mem_askOrder (D.my_server_lt c) (hh k)
  have hc : Gather.Collects (found single key_start key_end) key moments q.final_values := by
    refine h.collects (fun t l hl => ?_) (askOrder_nodup hmax (D.my_server_lt c)) hm hq
      fun m hm => ⟨fun s e he => ?_, fun s => ?_⟩
    · rw [localContainsInServer_eq] at hl
      exact .of_eq (Option.some.inj hl).symm
    · obtain ⟨tr', hr⟩ := h.reachable ht m hm
      exact hp _ _ hr.atomic s e (mem_found.mp he).1
    · exact (m.shard s).nodup_keys.sublist (List.filter_sublist.map key)
  refine ⟨hc.nodup, fun e he => ?_, fun k hk hall => hc.complete k fun m hm => ?_⟩
  · obtain ⟨m, hm, s, hs⟩ := hc.stored e he
    exact ⟨m, hm, s, mem_found.mp hs⟩
  · obtain ⟨s, e, he, rfl⟩ := hall m hm
    have hk := hi _ _ _ hk
    refine ⟨e, ⟨s, mem_found.mpr ⟨he, ?_⟩⟩, rfl⟩
    split_ifs
    · exact hk.1
    · exact hk.2

variable [Inhabited KeyType] [Inhabited MappedType] {keyHash : KeyType → UInt64}

omit [Inhabited KeyType] in
lemma collectsRange_map (hmax : D.num_servers ≤ 65536) :
    CollectsRange D (Map.service (· < ·) D keyHash : Service Client UInt16 (Op KeyType MappedType) _ _)
      (fun first key_start => first > key_start)
      (fun key_start key_end k => key_start < k ∧ k ≤ key_end) := by
  refine collectsRange hmax (D.home keyHash) (D.home_lt keyHash) (fun key_start key_end k hk => ?_) ?_
  · exact ⟨decide_eq_true hk.1, hk.1.le, hk.2⟩
  · exact fun tr shard h => Map.home_eq (fun _ => rfl) h

lemma collectsRange_set (hmax : D.num_servers ≤ 65536) :
    CollectsRange D (Set.service (· < ·) D keyHash) (fun first key_start => first ≥ key_start)
      (fun key_start key_end k => key_start ≤ k ∧ k ≤ key_end) := by
  refine collectsRange hmax (D.home keyHash) (D.home_lt keyHash) (fun key_start key_end k hk => ?_) ?_
  · exact ⟨decide_eq_true hk.1, hk⟩
  · exact fun tr shard h => Set.home_eq (fun _ => rfl) h

/-- The map misses a key at the start of the range where it is alone on its server. -/
theorem contains_collects (hmax : D.num_servers ≤ 65536) :
    ((∀ key_start key_end, AllData.Answers D
      (Map.service (· < ·) D keyHash : Service Client UInt16 (Op KeyType MappedType) _ _)
      (fun t l => Map.localContainsInServer key_start key_end t = some l)
      (fun c shard r => Map.contains D c shard key_start key_end = some r)) ∧
    CollectsRange D (Map.service (· < ·) D keyHash : Service Client UInt16 (Op KeyType MappedType) _ _)
      (fun first key_start => first > key_start)
      (fun key_start key_end k => key_start < k ∧ k ≤ key_end)) ∧
    (∀ key_start key_end, AllData.Answers D (Set.service (· < ·) D keyHash)
      (fun t l => Set.localContainsInServer key_start key_end t = some l)
      (fun c shard r => Set.contains D c shard key_start key_end = some r)) ∧
    CollectsRange D (Set.service (· < ·) D keyHash) (fun first key_start => first ≥ key_start)
      (fun key_start key_end k => key_start ≤ k ∧ k ≤ key_end) := by
  refine ⟨⟨fun key_start key_end => ?_, collectsRange_map hmax⟩, fun key_start key_end => ?_,
    collectsRange_set hmax⟩
  · exact AllData.answers_askAll hmax fun _ => localContainsInServer_eq
  · exact AllData.answers_askAll hmax fun _ => localContainsInServer_eq

theorem contains_collects_pair :
    ∃ moments : List (State Bool UInt16 (Op ℕ ℕ) (Reply ℕ) (Map.MyMap ℕ ℕ (· < ·))),
      moments.length = 4 ∧ Collects (fun first key_start => first > key_start) 0 5
        (fun k => 0 < k ∧ k ≤ 5) moments [(1, 7), (3, 4)] ∧
      ∃ moment : UInt16 → _, (∀ s, moment s ∈ moments) ∧
        Map.contains .pair false (fun s => (moment s).shard s) 0 5 = some [(1, 7), (3, 4)] := by
  let M : Service Bool UInt16 (Op ℕ ℕ) (Reply ℕ) (Map.MyMap ℕ ℕ (· < ·)) :=
    Map.service (· < ·) .pair UInt64.ofNat
  have hn : Run M (fun _ => .empty) [] _ := .nil
  have hr := hn.snoc (.here (c := true) (o := .put 3 4) rfl (by decide))
  have hq {tr st} (_ : Run M (fun _ => .empty) tr st) : Gather.Run M
      (fun t l => Map.localContainsInServer 0 5 t = some l) (AllData.call .pair false st) _ _ := .call
  have h₀ := (hq hr).snoc (.read localContainsInServer_eq)
  have hp := h₀.snoc (.other (.here (c := true) (o := .put 1 7) rfl (by decide)))
  have h₁ := hp.snoc (.read localContainsInServer_eq)
  obtain ⟨⟨ha, hc⟩, -⟩ := @contains_collects Bool ℕ ℕ _ _ .pair _ _ UInt64.ofNat (by decide)
  exact ⟨_, rfl, hc _ _ hr false 0 5 _ _ h₁ rfl, (ha 0 5).returned false _ _ _ h₁ rfl⟩

end Basket.RangeCollect
