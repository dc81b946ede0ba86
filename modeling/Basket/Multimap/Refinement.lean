import Basket.Library.Machine
import Basket.Map.Model
import Basket.Multimap.Model

/-! One server of the multimap cannot be told from one server of the map. -/

namespace Basket.Multimap

open Library Communication

variable {KeyType MappedType : Type*} {Compare : KeyType → KeyType → Prop} [DecidableRel Compare]

inductive Call (KeyType MappedType : Type*)
  | op (o : Op KeyType MappedType)
  | getAllDataInServer
  deriving DecidableEq, Repr

inductive Answer (KeyType MappedType : Type*)
  | op (r : Reply MappedType)
  | getAllDataInServer (final_values : Option (List (KeyType × MappedType)))
  deriving DecidableEq, Repr

section Objects

variable [IsStrictWeakOrder KeyType Compare] [Inhabited MappedType]

def mapObject : Call KeyType MappedType → Map.MyMap KeyType MappedType Compare →
    Answer KeyType MappedType × Map.MyMap KeyType MappedType Compare
  | .op o, mymap => (Map.handle o mymap).map .op id
  | .getAllDataInServer, mymap => (.getAllDataInServer (Map.localGetAllDataInServer mymap), mymap)

def multimapObject : Call KeyType MappedType → MyMap KeyType MappedType Compare →
    Answer KeyType MappedType × MyMap KeyType MappedType Compare
  | .op o, mymap => (handle o mymap).map .op id
  | .getAllDataInServer, mymap => (.getAllDataInServer (localGetAllDataInServer mymap), mymap)

end Objects

section Simulation

variable {multi : MyMap KeyType MappedType Compare}
variable {mymap : Map.MyMap KeyType MappedType Compare}

def SameEntries (multi : MyMap KeyType MappedType Compare) (mymap : Map.MyMap KeyType MappedType Compare) :
    Prop :=
  multi.entries = mymap.entries

omit [DecidableRel Compare] in
lemma SameEntries.unique (h : SameEntries multi mymap) : multi.Unique := by
  rw [MultiTree.Unique, h]
  exact mymap.sorted

section Answers

variable [Inhabited MappedType]

lemma SameEntries.localGet (h : SameEntries multi mymap) (key : KeyType) :
    localGet key multi = Map.localGet key mymap := by
  have hf : multi.find key = mymap.find key := congrArg (SortedSequence.find Prod.fst Compare key) h
  cases hm : mymap.find key with
  | none => simp [Multimap.localGet, Map.localGet, hf, hm]
  | some e => simp [Multimap.localGet, Map.localGet, hf, hm]

lemma SameEntries.localErase (h : SameEntries multi mymap) (key : KeyType) :
    (localErase key multi).1 = (Map.localErase key mymap).1 ∧
      SameEntries (localErase key multi).2 (Map.localErase key mymap).2 := by
  have he : (multi.erase key).entries = (mymap.erase key).entries :=
    congrArg (SortedSequence.eraseKey Prod.fst Compare key) h
  refine ⟨?_, he⟩
  rw [Multimap.localErase, Map.localErase, MultiTree.size, MultiTree.size, Tree.size, Tree.size, he, h]

end Answers

variable [IsStrictTotalOrder KeyType Compare]

lemma SameEntries.localPut (h : SameEntries multi mymap) (key : KeyType) (data : MappedType) :
    SameEntries (localPut key data multi).2 (Map.localPut key data mymap).2 := by
  refine SortedSequence.Sorted.eq_of_mem_iff (unique_localPut h.unique key data)
    (Map.localPut key data mymap).2.sorted fun e => ?_
  rw [mem_localPut h.unique, Map.mem_put, SortedSequence.incomp_iff_eq, h]

variable [Inhabited MappedType]

lemma simulates : Machine.Simulates multimapObject mapObject
    (fun (multi : MyMap KeyType MappedType Compare) mymap => SameEntries multi mymap) := by
  intro c multi mymap h
  cases c with
  | getAllDataInServer =>
    refine ⟨?_, h⟩
    simp only [multimapObject, mapObject, localGetAllDataInServer_eq, Map.localGetAllDataInServer_eq]
    rw [h]
  | op o =>
    cases o with
    | put key data => exact ⟨rfl, h.localPut key data⟩
    | get key => exact ⟨congrArg (fun found => Answer.op (.get found)) (h.localGet key), h⟩
    | erase key =>
      obtain ⟨hr, he⟩ := h.localErase key
      exact ⟨congrArg (fun found => Answer.op (.erase found)) hr, he⟩

theorem multimap_as_map (calls : List (Call KeyType MappedType)) :
    (Machine.run multimapObject calls (.empty : MyMap KeyType MappedType Compare)).1 =
        (Machine.run mapObject calls (.empty : Map.MyMap KeyType MappedType Compare)).1 ∧
      ((Machine.run multimapObject calls (.empty : MyMap KeyType MappedType Compare)).2.entries.map
        Prod.fst).Nodup := by
  have he : SameEntries (.empty : MyMap KeyType MappedType Compare) .empty := rfl
  obtain ⟨ha, hs⟩ := simulates.run he
  exact ⟨ha, hs.unique.nodup_keys⟩

theorem multimap_as_map_nat :
    (Machine.run multimapObject [.op (.put 2 7), .op (.put 1 8), .op (.put 2 9), .getAllDataInServer]
        (.empty : MyMap ℕ ℕ (· < ·))).1 =
      (Machine.run mapObject [.op (.put 2 7), .op (.put 1 8), .op (.put 2 9), .getAllDataInServer]
        (.empty : Map.MyMap ℕ ℕ (· < ·))).1 :=
  (multimap_as_map _).1

end Simulation

end Basket.Multimap
