import Basket.Set.PopFirst

/-! What the range query of the distributed set returns, and when it depends on the servers. -/

namespace Basket.Set

open Library Cluster Communication RangeQuery

variable {KeyType Client Client₁ Client₂ : Type*}

lemma holds_of_settled {Compare : KeyType → KeyType → Prop} [DecidableRel Compare]
    [IsStrictTotalOrder KeyType Compare] [Inhabited KeyType] [DecidableEq Client]
    {D : Deployment Client} {keyHash : KeyType → UInt64} {shard : UInt16 → MySet KeyType Compare}
    (h : Settled (service Compare D keyHash) (fun _ => .empty) shard) :
    Holds (D.home keyHash) {k | ∃ s, k ∈ (shard s).entries} shard := by
  obtain ⟨tr, st, hr, -, rfl⟩ := h
  exact holds_entries (home_eq (fun _ => rfl) hr.atomic)

variable [LinearOrder KeyType] {E : Set KeyType}

lemma holds_put [Inhabited KeyType] {D : Deployment Client} {keyHash : KeyType → UInt64}
    {shard : UInt16 → MySet KeyType (· < ·)} (hE : Holds (D.home keyHash) E shard) (key : KeyType)
    (c : Client) :
    Holds (D.home keyHash) (insert key E)
      ((service (· < ·) D keyHash).apply (.put key)
        ((service (· < ·) D keyHash).server c (.put key)) shard) := by
  rw [service_server]
  exact hE.insert key fun k => mem_localPut

/-- The keys that the test of a lone key and the walk do not treat alike. -/
def Edge (key_start key_end k : KeyType) : Prop := key_start ≤ k ∧ key_end < k

lemma admits_iff {key_start key_end k : KeyType} {a b : Prop} :
    (Admits (fun first key_start => first ≥ key_start) key_start key_end k a ↔
      Admits (fun first key_start => first ≥ key_start) key_start key_end k b) ↔
        (Edge key_start key_end k → (a ↔ b)) := by
  rw [admits_congr]
  refine imp_congr_left ?_
  rw [decide_eq_true_eq, ge_iff_le, Edge, iff_self_and, Classical.not_imp, not_le]

variable {D₁ : Deployment Client₁} {D₂ : Deployment Client₂} {keyHash₁ keyHash₂ : KeyType → UInt64}
variable {shard₁ shard₂ : UInt16 → MySet KeyType (· < ·)}

theorem contains_unaffected_iff (hE₁ : Holds (D₁.home keyHash₁) E shard₁)
    (hE₂ : Holds (D₂.home keyHash₂) E shard₂) (c₁ : Client₁) (c₂ : Client₂)
    (key_start key_end : KeyType) :
    ∃ r₁ r₂, contains D₁ c₁ shard₁ key_start key_end = some r₁ ∧
      contains D₂ c₂ shard₂ key_start key_end = some r₂ ∧
      (r₁.Perm r₂ ↔ ∀ k ∈ E,
        (Edge key_start key_end k →
          (Alone id (D₁.home keyHash₁) E k ↔ Alone id (D₂.home keyHash₂) E k)) ∧
        (Admits (fun first key_start => first ≥ key_start) key_start key_end k
            (Alone id (D₁.home keyHash₁) E k) →
          calls D₁.num_servers (D₁.home keyHash₁ k) = calls D₂.num_servers (D₂.home keyHash₂ k))) := by
  refine ⟨_, _, contains_eq, contains_eq, ?_⟩
  rw [contains_perm_iff (D₁.my_server_lt c₁) (D₂.my_server_lt c₂) (D₁.home_lt keyHash₁)
    (D₂.home_lt keyHash₂) hE₁ hE₂ contains_eq contains_eq]
  simp only [id, admits_iff]

/-- The keys 1 and 2 on one server, and on one each. -/
theorem contains_unaffected_pair : ∃ r₁ r₂,
    contains .single true ((service (· < ·) (.single : Deployment Bool) UInt64.ofNat).apply (.put 2) 0
      ((service (· < ·) (.single : Deployment Bool) UInt64.ofNat).apply (.put 1) 0
        (fun _ => (.empty : MySet ℕ (· < ·))))) 0 5 = some r₁ ∧
    contains .pair true ((service (· < ·) .pair UInt64.ofNat).apply (.put 2) 0
      ((service (· < ·) .pair UInt64.ofNat).apply (.put 1) 1
        (fun _ => (.empty : MySet ℕ (· < ·))))) 0 5 = some r₂ ∧ r₁.Perm r₂ := by
  have hE (D : Deployment Bool) : Holds (D.home UInt64.ofNat) ∅
      (fun _ => (.empty : MySet ℕ (· < ·))) := holds_empty
  have hp (D : Deployment Bool) := holds_put (holds_put (hE D) 1 true) 2 true
  obtain ⟨r₁, r₂, h₁, h₂, hi⟩ := contains_unaffected_iff (hp .single) (hp .pair) true true 0 5
  refine ⟨r₁, r₂, h₁, h₂, hi.mpr ?_⟩
  rintro k (rfl | rfl | hk)
  · exact ⟨fun he => absurd he (by simp [Edge]), fun _ => by decide⟩
  · exact ⟨fun he => absurd he (by simp [Edge]), fun _ => by decide⟩
  · exact absurd hk (Set.notMem_empty k)

/-- The same two keys on one server and on two: only the second cluster finds the key 2 between 1
and 1. -/
theorem contains_affected_by_sharding :
    ¬∀ (D₁ D₂ : Deployment Bool) (E : Set ℕ) (shard₁ shard₂ : UInt16 → MySet ℕ (· < ·)),
      Settled (service (· < ·) D₁ UInt64.ofNat) (fun _ => .empty) shard₁ →
      Settled (service (· < ·) D₂ UInt64.ofNat) (fun _ => .empty) shard₂ →
      Holds (D₁.home UInt64.ofNat) E shard₁ → Holds (D₂.home UInt64.ofNat) E shard₂ →
      ∀ c₁ c₂ key_start key_end r₁ r₂, contains D₁ c₁ shard₁ key_start key_end = some r₁ →
        contains D₂ c₂ shard₂ key_start key_end = some r₂ → r₁.Perm r₂ := by
  intro h
  have hn (D : Deployment Bool) : Holds (D.home UInt64.ofNat) ∅
      (fun _ => (.empty : MySet ℕ (· < ·))) := holds_empty
  have hs (D : Deployment Bool) : Settled (service (· < ·) D UInt64.ofNat)
      (fun _ => (.empty : MySet ℕ (· < ·))) (fun _ => .empty) := .nil
  have hE (D : Deployment Bool) := holds_put (holds_put (hn D) 1 true) 2 true
  have hp := h .single .pair _ _ _ (((hs _).call true (.put 1)).call true (.put 2))
    (((hs _).call true (.put 1)).call true (.put 2)) (hE _) (hE _) true true 1 1 _ _ contains_eq contains_eq
  exact absurd hp (by decide)

end Basket.Set
