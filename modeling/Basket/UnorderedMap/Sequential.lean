import Basket.Library.Linearizability
import Basket.UnorderedMap.OneMap

/-! The distributed unordered map is one map for every number of servers that divides the range of the
cast, and for every other as long as the operations agree on the server of each key. -/

namespace Basket.UnorderedMap

open Library Cluster Communication Linearizability

variable {KeyType MappedType Client : Type*} [DecidableEq KeyType] [Inhabited MappedType]

def sequential (o : Op KeyType MappedType) (m : KeyType → Option MappedType) :
    Reply MappedType × (KeyType → Option MappedType) :=
  (o.reply (m o.key), fun k => if o.key = k then o.update?.getD (m k) else m k)

def Represents (home : KeyType → UInt16) (shard : UInt16 → MyHashMap KeyType MappedType)
    (m : KeyType → Option MappedType) : Prop :=
  ∀ k, (shard (home k)).lookup k = m k

/-- All operations take a key to the same server. -/
def Agree (num_servers : ℕ) (keyHash : KeyType → UInt64) : Prop :=
  ∀ k, castThenMod num_servers (keyHash k) = modThenCast num_servers (keyHash k)

omit [DecidableEq KeyType] in
lemma agree_of_dvd {num_servers : ℕ} (keyHash : KeyType → UInt64) (hn : 1 ≤ num_servers)
    (hd : num_servers ∣ 65536) : Agree num_servers keyHash := by
  intro k
  have hmax := Nat.le_of_dvd (by decide) hd
  exact (castThenMod_eq_iff hn hmax).mpr (hd.mul_right _)

variable {D : Deployment Client} {keyHash : KeyType → UInt64}

lemma sequential_simulates (ha : Agree D.num_servers keyHash) :
    Simulates (service D keyHash : Service Client UInt16 (Op KeyType MappedType) _ _) sequential
      (Represents (D.home keyHash)) := by
  intro c o shard m hR
  have hs : (service D keyHash).server c o = D.home keyHash o.key := by
    rw [service_server, address_eq (ha o.key) rfl, ha o.key, Deployment.home]
  rw [hs]
  refine ⟨?_, fun k => ?_⟩
  · rw [sequential, ← hR]
    exact handle_reply
  · change _ = if o.key = k then o.update?.getD (m k) else m k
    by_cases hk : D.home keyHash k = D.home keyHash o.key
    · rw [hk, Service.apply_same, ← hR k, hk]
      exact lookup_handle
    · have hne : o.key ≠ k := by
        rintro rfl
        exact hk rfl
      rw [Service.apply_other _ _ hk, if_neg hne, hR]

theorem unorderedMap_linearizable [DecidableEq Client] (ha : Agree D.num_servers keyHash)
    {tr : Trace Client UInt16 (Op KeyType MappedType) (Reply MappedType)}
    {st : State Client UInt16 (Op KeyType MappedType) (Reply MappedType)
      (MyHashMap KeyType MappedType)}
    (h : Run (service D keyHash) (fun _ => ∅) tr st) :
    Linearizable sequential (fun _ => none) (clientHistory tr) :=
  (sequential_simulates ha).linearizes (fun _ => rfl) h

/-- Two servers agree on every key, whatever its hash. -/
theorem unorderedMap_linearizable_pair :
    Linearizable sequential (fun _ : ℕ => (none : Option ℕ))
      [.invoke 0 (.putWithCallback 1 7), .invoke 1 (.get 1), .respond 1 (.get (false, 0)),
        .respond 0 (.put true)] := by
  have hn : Run (service .pair UInt64.ofNat : Service Bool UInt16 (Op ℕ ℕ) _ _) (fun _ => ∅) [] _ := .nil
  have hp := hn.snoc (.request (c := false) (o := .putWithCallback 1 7) (s := 1) rfl (by decide))
  have hg := hp.snoc (.here (c := true) (o := .get 1) rfl (by decide))
  have hs := hg.snoc (.serve (c := false) rfl)
  have hr := hs.snoc (.reply (c := false) rfl)
  exact unorderedMap_linearizable (agree_of_dvd _ (by decide) (by decide)) hr

end Basket.UnorderedMap
