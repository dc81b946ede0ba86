import Basket.Communication.Deployment
import Basket.Library.MultiTree

/-! The distributed multimap: the tree of one server, and where the calls of a client go. -/

namespace Basket.Multimap

open Library Cluster Communication

variable {KeyType MappedType Client : Type*} {Compare : KeyType → KeyType → Prop}

abbrev MyMap (KeyType MappedType : Type*) (Compare : KeyType → KeyType → Prop) :=
  MultiTree (Prod.fst : KeyType × MappedType → KeyType) Compare

def localGetAllDataInServer (mymap : MyMap KeyType MappedType Compare) :
    Option (List (KeyType × MappedType)) :=
  mymap.begin.scan (fun _ => false) []

def getAllData (D : Deployment Client) (c : Client)
    (shard : UInt16 → MyMap KeyType MappedType Compare) : Option (List (KeyType × MappedType)) :=
  askAll D.num_servers (D.process c) (fun s => localGetAllDataInServer (shard s))

section Local

variable [DecidableRel Compare]

def localPut [IsStrictWeakOrder KeyType Compare] (key : KeyType) (data : MappedType)
    (mymap : MyMap KeyType MappedType Compare) : Bool × MyMap KeyType MappedType Compare :=
  let mymap :=
    match mymap.find key with
    | some _ => mymap.eraseFound key
    | none => mymap
  (true, mymap.insert (key, data))

def localGet [Inhabited MappedType] (key : KeyType) (mymap : MyMap KeyType MappedType Compare) :
    Bool × MappedType :=
  match mymap.find key with
  | some e => (true, e.2)
  | none => (false, default)

def localErase [Inhabited MappedType] (key : KeyType) (mymap : MyMap KeyType MappedType Compare) :
    (Bool × MappedType) × MyMap KeyType MappedType Compare :=
  let s := mymap.size - (mymap.erase key).size
  ((s > 0, default), mymap.erase key)

def handle [IsStrictWeakOrder KeyType Compare] [Inhabited MappedType] :
    Op KeyType MappedType → MyMap KeyType MappedType Compare →
      Reply MappedType × MyMap KeyType MappedType Compare
  | .put key data, mymap => (localPut key data mymap).map .put id
  | .get key, mymap => (.get (localGet key mymap), mymap)
  | .erase key, mymap => (localErase key mymap).map .erase id

variable (Contains : KeyType → KeyType → Bool)

def stepBack (key : KeyType) (lower_bound : Iterator (KeyType × MappedType)) :
    Option (Iterator (KeyType × MappedType)) :=
  if lower_bound.isBegin then some lower_bound
  else do
    let lower_bound ← lower_bound.prev
    let e ← lower_bound.deref
    if !Contains key e.1 then lower_bound.next else some lower_bound

/-- A server with one entry returns it without a look at `key`. -/
def localContainsInServer (key : KeyType) (mymap : MyMap KeyType MappedType Compare) :
    Option (List (KeyType × MappedType)) :=
  if mymap.size = 0 then some []
  else if mymap.size = 1 then do
    let e ← mymap.begin.deref
    return [e]
  else
    let lower_bound := mymap.lowerBound key
    if lower_bound.isEnd then some []
    else do
      let lower_bound ← stepBack Contains key lower_bound
      lower_bound.scan (fun e => !(Contains key e.1 || Contains e.1 key)) []

def contains (D : Deployment Client) (c : Client) (shard : UInt16 → MyMap KeyType MappedType Compare)
    (key : KeyType) : Option (List (KeyType × MappedType)) :=
  askAll D.num_servers (D.process c) (fun s => localContainsInServer Contains key (shard s))

end Local

section Calls

variable (D : Deployment Client) (keyHash : KeyType → UInt64) (c : Client) (key : KeyType)

def put : Dispatch UInt16 := (D.process c).callServer (modThenCast D.num_servers (keyHash key))

def get : Dispatch UInt16 := (D.process c).callServer (modThenCast D.num_servers (keyHash key))

def erase : Dispatch UInt16 := (D.process c).callServer (modThenCast D.num_servers (keyHash key))

variable (Compare) [DecidableRel Compare] [IsStrictWeakOrder KeyType Compare] [Inhabited MappedType]

def service : Service Client UInt16 (Op KeyType MappedType) (Reply MappedType)
    (MyMap KeyType MappedType Compare) where
  attached c := (D.process c).my_server
  dispatch c
    | .put key _ => put D keyHash c key
    | .get key => get D keyHash c key
    | .erase key => erase D keyHash c key
  handle := handle

lemma service_server (o : Op KeyType MappedType) :
    (service Compare D keyHash).server c o = D.home keyHash o.key := by
  cases o <;> exact Deployment.server_callServer rfl rfl

end Calls

section Specs

lemma localGetAllDataInServer_eq {mymap : MyMap KeyType MappedType Compare} :
    localGetAllDataInServer mymap = some mymap.entries := by
  simp [localGetAllDataInServer, Iterator.scan_eq, MultiTree.begin, Iterator.start]

variable [DecidableRel Compare] [IsStrictWeakOrder KeyType Compare] {key : KeyType}
variable {data : MappedType} {mymap : MyMap KeyType MappedType Compare} {e : KeyType × MappedType}

lemma mem_localPut (h : mymap.Unique) : e ∈ (localPut key data mymap).2.entries ↔
    e = (key, data) ∨ e ∈ mymap.entries ∧ ¬IncompRel Compare e.1 key := by
  rw [localPut]
  cases hf : mymap.find key with
  | some d => exact SortedSequence.mem_insertEqual.trans (or_congr_right h.mem_eraseFound)
  | none =>
    have hn := mymap.sorted.find_none.mp hf
    refine SortedSequence.mem_insertEqual.trans (or_congr_right ?_)
    exact ⟨fun he => ⟨he, hn e he⟩, fun he => he.1⟩

lemma unique_localPut (h : mymap.Unique) (key : KeyType) (data : MappedType) :
    (localPut key data mymap).2.Unique := by
  rw [localPut]
  cases hf : mymap.find key with
  | some d =>
    refine SortedSequence.Sorted.insertEqual ?_ fun e he => (h.mem_eraseFound.mp he).2
    exact h.sublist SortedSequence.eraseFound_sublist
  | none => exact SortedSequence.Sorted.insertEqual h (mymap.sorted.find_none.mp hf)

variable [Inhabited MappedType] {o : Op KeyType MappedType}

lemma unique_handle (h : mymap.Unique) : (handle o mymap).2.Unique := by
  cases o with
  | put key data => exact unique_localPut h key data
  | get key => exact h
  | erase key => exact h.eraseKey key

lemma mem_handle (he : e ∈ (handle o mymap).2.entries) : e.1 = o.key ∨ e ∈ mymap.entries := by
  cases o with
  | put key data =>
    rcases SortedSequence.mem_insertEqual.mp he with rfl | he
    · exact .inl rfl
    · right
      cases hf : mymap.find key with
      | some d =>
        rw [hf] at he
        exact SortedSequence.eraseFound_sublist.subset he
      | none => simpa [hf] using he
  | get key => exact .inr he
  | erase key => exact .inr (SortedSequence.mem_eraseKey.mp he).1

variable {D : Deployment Client} {keyHash : KeyType → UInt64}
variable {init shard : UInt16 → MyMap KeyType MappedType Compare}
variable {tr : Trace Client UInt16 (Op KeyType MappedType) (Reply MappedType)}

lemma unique (hi : ∀ s, (init s).entries = []) (h : Atomic (service Compare D keyHash) init tr shard)
    (s : UInt16) : (shard s).Unique := by
  refine h.shard_invariant (P := fun _ x => x.Unique) (fun s => ?_) (fun c o x ih => unique_handle ih) s
  simp [MultiTree.Unique, SortedSequence.Sorted, hi]

lemma home_eq (hi : ∀ s, (init s).entries = []) (h : Atomic (service Compare D keyHash) init tr shard)
    (s : UInt16) : ∀ e ∈ (shard s).entries, D.home keyHash e.1 = s := by
  refine Gather.home_eq_of_handle hi (fun c o x e he => ?_) h s
  rw [service_server]
  exact (mem_handle he).imp (fun hk => congrArg _ hk) fun he => ⟨e, he, rfl⟩

end Specs

end Basket.Multimap
