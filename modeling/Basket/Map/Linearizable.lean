import Basket.Map.Model
import Basket.Library.Linearizability

/-! The clients of the distributed map see one sequential map. -/

namespace Basket.Map

open Library Cluster Communication Linearizability

variable {KeyType MappedType Client : Type*}
variable (Compare : KeyType → KeyType → Prop) [DecidableRel Compare] [Inhabited MappedType]

/-- One map. Keys that `Compare` does not tell apart are the same key. -/
def spec : Op KeyType MappedType → (KeyType → Option MappedType) →
    Reply MappedType × (KeyType → Option MappedType)
  | .put key data, m => (.put true, fun k => if IncompRel Compare key k then some data else m k)
  | .get key, m =>
    (.get (match m key with
      | some v => (true, v)
      | none => (false, default)), m)
  | .erase key, m =>
    (.erase ((m key).isSome, default), fun k => if IncompRel Compare key k then none else m k)

variable {Compare}

def Represents (home : KeyType → UInt16) (shard : UInt16 → MyMap KeyType MappedType Compare)
    (m : KeyType → Option MappedType) : Prop :=
  ∀ k, ((shard (home k)).find k).map Prod.snd = m k

variable {D : Deployment Client} {keyHash : KeyType → UInt64}

omit [Inhabited MappedType] in
lemma Represents.update {shard : UInt16 → MyMap KeyType MappedType Compare}
    {m : KeyType → Option MappedType} (hR : Represents (D.home keyHash) shard m)
    (hc : ∀ a b, IncompRel Compare a b → keyHash a = keyHash b) {key : KeyType}
    {x : MyMap KeyType MappedType Compare} {v : Option MappedType}
    (hx : ∀ k, (x.find k).map Prod.snd =
      if IncompRel Compare key k then v else ((shard (D.home keyHash key)).find k).map Prod.snd) :
    Represents (D.home keyHash) (Function.update shard (D.home keyHash key) x)
      (fun k => if IncompRel Compare key k then v else m k) := by
  intro k
  by_cases hk : D.home keyHash k = D.home keyHash key
  · rw [hk, Function.update_self, hx, ← hk, hR k]
  · have hn : ¬IncompRel Compare key k := by
      intro hi
      exact hk (by rw [Deployment.home, Deployment.home, hc _ _ hi])
    simp only [Function.update_of_ne hk, if_neg hn, hR k]

variable [IsStrictWeakOrder KeyType Compare]

lemma simulates (hc : ∀ a b, IncompRel Compare a b → keyHash a = keyHash b) :
    Simulates (service Compare D keyHash : Service Client UInt16 (Op KeyType MappedType) _ _)
      (spec Compare) (Represents (D.home keyHash)) := by
  intro c o shard m hR
  rw [service_server]
  cases o with
  | put key data => exact ⟨rfl, hR.update hc fun k => find_localPut⟩
  | get key =>
    refine ⟨?_, ?_⟩
    · change Reply.get (localGet key (shard (D.home keyHash key))) = _
      rw [localGet_eq, hR key]
      rfl
    · simpa [Service.apply, service, handle, spec] using hR
  | erase key =>
    refine ⟨?_, hR.update hc fun k => find_localErase⟩
    change Reply.erase (localErase key (shard (D.home keyHash key))).1 = _
    rw [localErase_eq, ← Option.isSome_map (f := Prod.snd), hR key]
    rfl

theorem linearizable (hc : ∀ a b, IncompRel Compare a b → keyHash a = keyHash b)
    [DecidableEq Client] {tr : Trace Client UInt16 (Op KeyType MappedType) (Reply MappedType)}
    {st : State Client UInt16 (Op KeyType MappedType) (Reply MappedType)
      (MyMap KeyType MappedType Compare)}
    (h : Run (service Compare D keyHash) (fun _ => .empty) tr st) :
    Linearizable (spec Compare) (fun _ => none) (clientHistory tr) :=
  (simulates hc).linearizes (fun _ => rfl) h

/-- A get that returns while a put of the same key is on its way to the other server. -/
theorem linearizable_overlap : Linearizable (spec (· < · : ℕ → ℕ → Prop)) (fun _ => none)
    [.invoke 0 (.put 1 7), .invoke 1 (.get 1), .respond 1 (.get (false, 0)), .respond 0 (.put true)] := by
  have hn : Run (service (· < ·) .pair UInt64.ofNat : Service Bool UInt16 (Op ℕ ℕ) _ _)
      (fun _ => .empty) [] _ := .nil
  have hp := hn.snoc (.request (c := false) (o := .put 1 7) (s := 1) rfl (by decide))
  have hg := hp.snoc (.here (c := true) (o := .get 1) rfl (by decide))
  have hs := hg.snoc (.serve (c := false) rfl)
  have hr := hs.snoc (.reply (c := false) rfl)
  exact linearizable (fun a b h => by rw [SortedSequence.incomp_iff_eq.mp h]) hr

end Basket.Map
