import Basket.Library.Throwing
import Basket.Map.Model
import Basket.Multimap.Model
import Basket.Set.Model
import Basket.UnorderedMap.Model

/-! What a put that throws leaves in the shard, for the four containers with keys. -/

namespace Basket.FailedPut

open Library Throwing

variable {KeyType MappedType : Type} {Compare : KeyType → KeyType → Prop}

inductive PutPoint
  | assignValue
  | pairKey
  | pairValue
  | allocate
  | nodeKey
  | nodeValue
  | allocateBuckets
  deriving DecidableEq, Repr

section Programs

variable (fails : PutPoint → Bool)

/-- A put that changes the container once nothing can fail any more. -/
def putOnce {σ : Type} (points : σ → List PutPoint) (put : σ → Bool × σ) : EStateM PutPoint σ Bool := do
  attempts fails (points (← get))
  modifyGet put

variable [DecidableRel Compare] [IsStrictWeakOrder KeyType Compare] (key : KeyType) (data : MappedType)

def mapLocalPut : EStateM PutPoint (Map.MyMap KeyType MappedType Compare) Bool :=
  putOnce fails (fun mymap =>
    match mymap.find key with
    | some _ => [.assignValue]
    | none => [.allocate, .nodeKey, .nodeValue]) (Map.localPut key data)

def setLocalPut : EStateM PutPoint (Set.MySet KeyType Compare) Bool :=
  putOnce fails (fun myset =>
    match myset.find key with
    | some _ => []
    | none => [.allocate, .nodeKey]) (Set.localPut key)

def unorderedMapLocalPut [DecidableEq KeyType] :
    EStateM PutPoint (UnorderedMap.MyHashMap KeyType MappedType) Bool :=
  putOnce fails (fun myHashMap =>
    match myHashMap.lookup key with
    | some _ => [.assignValue]
    | none => [.allocate, .nodeKey, .nodeValue, .allocateBuckets]) (UnorderedMap.localPut key data)

def insertPoints : List PutPoint := [.pairKey, .pairValue, .allocate, .nodeKey, .nodeValue]

/-- The old entry is erased before the new one is built. -/
def multimapLocalPut : EStateM PutPoint (Multimap.MyMap KeyType MappedType Compare) Bool := do
  modify (fun mymap =>
    match mymap.find key with
    | some _ => mymap.eraseFound key
    | none => mymap)
  attempts fails insertPoints
  modify (fun mymap => mymap.insert (key, data))
  return true

end Programs

section Specs

variable {fails : PutPoint → Bool}

lemma putOnce_ok {σ : Type} {points : σ → List PutPoint} {put : σ → Bool × σ}
    (hf : ∀ p, fails p = false) (s : σ) : (putOnce fails points put).run s = .ok (put s).1 (put s).2 := by
  rw [putOnce, EStateM.run_bind, EStateM.run_get]
  exact run_attempts_none fun p _ => hf p

lemma putOnce_intact {σ : Type} (points : σ → List PutPoint) (put : σ → Bool × σ) (s : σ) :
    Intact (putOnce fails points put) s := by
  apply intact_get.mpr
  apply intact_attempts
  rintro s ⟨p, s', hr⟩
  cases hr

variable [DecidableRel Compare] [IsStrictWeakOrder KeyType Compare] {key : KeyType} {data : MappedType}
variable {mymap : Multimap.MyMap KeyType MappedType Compare}

lemma multimapLocalPut_ok (hf : ∀ p, fails p = false) : (multimapLocalPut fails key data).run mymap =
    .ok (Multimap.localPut key data mymap).1 (Multimap.localPut key data mymap).2 := by
  rw [multimapLocalPut, EStateM.run_bind, EStateM.run_modify]
  exact run_attempts_none fun p _ => hf p

lemma multimapLocalPut_intact_iff : Intact (multimapLocalPut fails key data) mymap ↔
    (∀ e ∈ mymap.entries, ¬IncompRel Compare e.1 key) ∨ ∀ p ∈ insertPoints, fails p = false := by
  rw [multimapLocalPut, intact_update_attempts_iff fun _ => not_throws_update]
  apply or_congr_left
  rw [← mymap.sorted.find_none]
  change _ ↔ mymap.find key = none
  cases hf : mymap.find key with
  | none => simp
  | some e => exact iff_of_false (MultiTree.eraseFound_ne hf) (by simp)

end Specs

variable [DecidableRel Compare] [IsStrictWeakOrder KeyType Compare] [DecidableEq KeyType]

theorem puts_succeed {fails : PutPoint → Bool} (hf : ∀ p, fails p = false) (key : KeyType)
    (data : MappedType) :
    (∀ mymap : Map.MyMap KeyType MappedType Compare, (mapLocalPut fails key data).run mymap =
      .ok (Map.localPut key data mymap).1 (Map.localPut key data mymap).2) ∧
    (∀ myset : Set.MySet KeyType Compare, (setLocalPut fails key).run myset =
      .ok (Set.localPut key myset).1 (Set.localPut key myset).2) ∧
    (∀ myHashMap : UnorderedMap.MyHashMap KeyType MappedType,
      (unorderedMapLocalPut fails key data).run myHashMap =
        .ok (UnorderedMap.localPut key data myHashMap).1 (UnorderedMap.localPut key data myHashMap).2) ∧
    ∀ mymap : Multimap.MyMap KeyType MappedType Compare, (multimapLocalPut fails key data).run mymap =
      .ok (Multimap.localPut key data mymap).1 (Multimap.localPut key data mymap).2 :=
  ⟨putOnce_ok hf, putOnce_ok hf, putOnce_ok hf, fun _ => multimapLocalPut_ok hf⟩

theorem failed_put_intact_iff (fails : PutPoint → Bool) (key : KeyType) (data : MappedType) :
    (∀ mymap : Map.MyMap KeyType MappedType Compare, Intact (mapLocalPut fails key data) mymap) ∧
    (∀ myset : Set.MySet KeyType Compare, Intact (setLocalPut fails key) myset) ∧
    (∀ myHashMap : UnorderedMap.MyHashMap KeyType MappedType,
      Intact (unorderedMapLocalPut fails key data) myHashMap) ∧
    ∀ mymap : Multimap.MyMap KeyType MappedType Compare,
      Intact (multimapLocalPut fails key data) mymap ↔
        (∀ e ∈ mymap.entries, ¬IncompRel Compare e.1 key) ∨ ∀ p ∈ insertPoints, fails p = false :=
  ⟨putOnce_intact _ _, putOnce_intact _ _, putOnce_intact _ _, fun _ => multimapLocalPut_intact_iff⟩

def storedOne : Multimap.MyMap ℕ ℕ (· < ·) := ⟨[(1, 7)], by simp [SortedSequence.WeaklySorted]⟩

def noMemory : PutPoint → Bool
  | .allocate => true
  | _ => false

theorem failed_put_absent : Intact (multimapLocalPut noMemory 2 8) storedOne :=
  ((failed_put_intact_iff noMemory 2 8).2.2.2 storedOne).mpr (.inl (by simp [storedOne, IncompRel]))

/-- The value 7 stored under 1 is gone when there is no memory for the 8 that replaces it. -/
theorem failed_put_loses : ¬∀ (fails : PutPoint → Bool) (key data : ℕ)
    (mymap : Multimap.MyMap ℕ ℕ (· < ·)), Intact (multimapLocalPut fails key data) mymap := by
  intro h
  have hl : leaves (multimapLocalPut noMemory 1 8) storedOne = storedOne :=
    h noMemory 1 8 storedOne ⟨.allocate, _, rfl⟩
  exact absurd (congrArg MultiTree.entries hl) (by decide)

end Basket.FailedPut
