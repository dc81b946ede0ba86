import Basket.Map.Model

/-! What the range query of the distributed map returns, and when it depends on the servers. -/

namespace Basket.Map

open Library Cluster Communication RangeQuery

section Placement

variable {KeyType MappedType Client : Type*} {Compare : KeyType → KeyType → Prop}
variable [DecidableRel Compare] [IsStrictWeakOrder KeyType Compare] [Inhabited MappedType]
variable {D : Deployment Client} {keyHash : KeyType → UInt64}
variable {shard : UInt16 → MyMap KeyType MappedType Compare}

lemma holds_of_settled [DecidableEq Client]
    (h : Settled (service Compare D keyHash) (fun _ => .empty) shard) :
    Holds (D.home keyHash) {e | ∃ s, e ∈ (shard s).entries} shard := by
  obtain ⟨tr, st, hr, -, rfl⟩ := h
  exact holds_entries (home_eq (fun _ => rfl) hr.atomic)

end Placement

section Sharding

variable {KeyType MappedType Client Client₁ Client₂ : Type*} [LinearOrder KeyType]

lemma holds_put [Inhabited MappedType] {D : Deployment Client} {keyHash : KeyType → UInt64}
    {E : Set (KeyType × MappedType)} {shard : UInt16 → MyMap KeyType MappedType (· < ·)}
    (hE : Holds (D.home keyHash) E shard) (key : KeyType) (data : MappedType)
    (hk : ∀ e ∈ E, e.1 ≠ key) (c : Client) :
    Holds (D.home keyHash) (insert (key, data) E)
      ((service (· < ·) D keyHash).apply (.put key data)
        ((service (· < ·) D keyHash).server c (.put key data)) shard) := by
  rw [service_server]
  refine hE.insert (key, data) fun e => mem_put.trans (or_congr_right ?_)
  exact ⟨fun he => he.1, fun he => ⟨he, hk e ((hE _ e).mp he).1⟩⟩

/-- The entries that the test of a lone entry and the walk do not treat alike. -/
def Edge (key_start key_end k : KeyType) : Prop :=
  (k = key_start ∧ key_start ≤ key_end) ∨ (key_start < k ∧ key_end < k)

lemma admits_iff {key_start key_end k : KeyType} {a b : Prop} :
    (Admits (fun first key_start => first > key_start) key_start key_end k a ↔
      Admits (fun first key_start => first > key_start) key_start key_end k b) ↔
        (Edge key_start key_end k → (a ↔ b)) := by
  rw [admits_congr]
  refine imp_congr_left ?_
  rw [decide_eq_true_eq, gt_iff_lt, Edge]
  rcases lt_trichotomy key_start k with hk | rfl | hk
  · simp [hk, hk.le, hk.ne']
  · simp
  · simp [hk.not_gt, hk.not_ge, hk.ne]

variable {D₁ : Deployment Client₁} {D₂ : Deployment Client₂} {keyHash₁ keyHash₂ : KeyType → UInt64}
variable {E : Set (KeyType × MappedType)} {shard₁ shard₂ : UInt16 → MyMap KeyType MappedType (· < ·)}

theorem contains_independent_iff (hE₁ : Holds (D₁.home keyHash₁) E shard₁)
    (hE₂ : Holds (D₂.home keyHash₂) E shard₂) (c₁ : Client₁) (c₂ : Client₂)
    (key_start key_end : KeyType) :
    ∃ r₁ r₂, contains D₁ c₁ shard₁ key_start key_end = some r₁ ∧
      contains D₂ c₂ shard₂ key_start key_end = some r₂ ∧
      (r₁.Perm r₂ ↔ ∀ e ∈ E,
        (Edge key_start key_end e.1 →
          (Alone Prod.fst (D₁.home keyHash₁) E e ↔ Alone Prod.fst (D₂.home keyHash₂) E e)) ∧
        (Admits (fun first key_start => first > key_start) key_start key_end e.1
            (Alone Prod.fst (D₁.home keyHash₁) E e) →
          calls D₁.num_servers (D₁.home keyHash₁ e.1) = calls D₂.num_servers (D₂.home keyHash₂ e.1))) := by
  refine ⟨_, _, contains_eq, contains_eq, ?_⟩
  rw [contains_perm_iff (D₁.my_server_lt c₁) (D₂.my_server_lt c₂) (D₁.home_lt keyHash₁)
    (D₂.home_lt keyHash₂) hE₁ hE₂ contains_eq contains_eq]
  simp only [admits_iff]

/-- The keys 1 and 2 on one server, and on one each. -/
theorem contains_independent_pair : ∃ r₁ r₂,
    contains .single true ((service (· < ·) (.single : Deployment Bool) UInt64.ofNat).apply (.put 2 8) 0
      ((service (· < ·) (.single : Deployment Bool) UInt64.ofNat).apply (.put 1 7) 0
        (fun _ => (.empty : MyMap ℕ ℕ (· < ·))))) 0 5 = some r₁ ∧
    contains .pair true ((service (· < ·) .pair UInt64.ofNat).apply (.put 2 8) 0
      ((service (· < ·) .pair UInt64.ofNat).apply (.put 1 7) 1
        (fun _ => (.empty : MyMap ℕ ℕ (· < ·))))) 0 5 = some r₂ ∧ r₁.Perm r₂ := by
  have hE (D : Deployment Bool) : Holds (D.home UInt64.ofNat) ∅
      (fun _ => (.empty : MyMap ℕ ℕ (· < ·))) := holds_empty
  have hp (D : Deployment Bool) := holds_put (holds_put (hE D) 1 7 (by simp) true) 2 8 (by simp) true
  obtain ⟨r₁, r₂, h₁, h₂, hi⟩ := contains_independent_iff (hp .single) (hp .pair) true true 0 5
  refine ⟨r₁, r₂, h₁, h₂, hi.mpr ?_⟩
  rintro e (rfl | rfl | he)
  · exact ⟨fun he => absurd he (by simp [Edge]), fun _ => by decide⟩
  · exact ⟨fun he => absurd he (by simp [Edge]), fun _ => by decide⟩
  · exact absurd he (Set.notMem_empty e)

/-- The same two entries on one server and on two: only the second cluster finds the key 2 between
1 and 1. -/
theorem contains_depends_on_sharding :
    ¬∀ (D₁ D₂ : Deployment Bool) (E : Set (ℕ × ℕ)) (shard₁ shard₂ : UInt16 → MyMap ℕ ℕ (· < ·)),
      Settled (service (· < ·) D₁ UInt64.ofNat) (fun _ => .empty) shard₁ →
      Settled (service (· < ·) D₂ UInt64.ofNat) (fun _ => .empty) shard₂ →
      Holds (D₁.home UInt64.ofNat) E shard₁ → Holds (D₂.home UInt64.ofNat) E shard₂ →
      ∀ c₁ c₂ key_start key_end r₁ r₂, contains D₁ c₁ shard₁ key_start key_end = some r₁ →
        contains D₂ c₂ shard₂ key_start key_end = some r₂ → r₁.Perm r₂ := by
  intro h
  have hs (D : Deployment Bool) : Settled (service (· < ·) D UInt64.ofNat)
      (fun _ => (.empty : MyMap ℕ ℕ (· < ·))) (fun _ => .empty) := .nil
  have hn (D : Deployment Bool) : Holds (D.home UInt64.ofNat) ∅
      (fun _ => (.empty : MyMap ℕ ℕ (· < ·))) := holds_empty
  have hE (D : Deployment Bool) := holds_put (holds_put (hn D) 1 0 (by simp) true) 2 0 (by simp) true
  have hp := h .single .pair _ _ _ (((hs _).call true (.put 1 0)).call true (.put 2 0))
    (((hs _).call true (.put 1 0)).call true (.put 2 0)) (hE _) (hE _) true true 1 1 _ _
    contains_eq contains_eq
  exact absurd hp (by decide)

end Sharding

end Basket.Map
