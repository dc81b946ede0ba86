import Basket.RangeQuery

/-! The distributed map: the tree of one server, and where the calls of a client go. -/

namespace Basket.Map

open Library Cluster Communication

variable {KeyType MappedType Client : Type*} {Compare : KeyType → KeyType → Prop}

abbrev MyMap (KeyType MappedType : Type*) (Compare : KeyType → KeyType → Prop) :=
  Tree (Prod.fst : KeyType × MappedType → KeyType) Compare

section Local

variable [DecidableRel Compare]

/-- `insert_or_assign` assigns the value and leaves the key that is stored. -/
def localPut [IsStrictWeakOrder KeyType Compare] (key : KeyType) (data : MappedType)
    (mymap : MyMap KeyType MappedType Compare) : Bool × MyMap KeyType MappedType Compare :=
  (true, mymap.insertOrAssign (fun e x => (e.1, x.2)) (fun _ _ => rfl) (key, data))

def localGet [Inhabited MappedType] (key : KeyType) (mymap : MyMap KeyType MappedType Compare) :
    Bool × MappedType :=
  match mymap.find key with
  | some e => (true, e.2)
  | none => (false, default)

def localErase [Inhabited MappedType] (key : KeyType) (mymap : MyMap KeyType MappedType Compare) :
    (Bool × MappedType) × MyMap KeyType MappedType Compare :=
  let s := mymap.size - (mymap.erase key).size
  ((s > 0, default), mymap.erase key)

def handle [IsStrictWeakOrder KeyType Compare] [Inhabited MappedType] :
    Op KeyType MappedType → MyMap KeyType MappedType Compare →
      Reply MappedType × MyMap KeyType MappedType Compare
  | .put key data, mymap => (localPut key data mymap).map .put id
  | .get key, mymap => (.get (localGet key mymap), mymap)
  | .erase key, mymap => (localErase key mymap).map .erase id

end Local

def localGetAllDataInServer (mymap : MyMap KeyType MappedType Compare) :
    Option (List (KeyType × MappedType)) :=
  mymap.begin.scan (fun _ => false) []

def getAllData (D : Deployment Client) (c : Client)
    (shard : UInt16 → MyMap KeyType MappedType Compare) : Option (List (KeyType × MappedType)) :=
  askAll D.num_servers (D.process c) (fun s => localGetAllDataInServer (shard s))

lemma localGetAllDataInServer_eq {mymap : MyMap KeyType MappedType Compare} :
    localGetAllDataInServer mymap = some mymap.entries := by
  simp [localGetAllDataInServer, Iterator.scan_eq, Tree.begin, Iterator.start]

/-- A server with one entry compares it with `key_start` only. -/
def localContainsInServer [LT KeyType] [DecidableLT KeyType] [DecidableRel Compare]
    (key_start key_end : KeyType) (mymap : MyMap KeyType MappedType Compare) :
    Option (List (KeyType × MappedType)) :=
  RangeQuery.localContainsInServer (fun first key_start => first > key_start) key_start key_end mymap

def contains [LT KeyType] [DecidableLT KeyType] [DecidableRel Compare] (D : Deployment Client)
    (c : Client) (shard : UInt16 → MyMap KeyType MappedType Compare) (key_start key_end : KeyType) :
    Option (List (KeyType × MappedType)) :=
  askAll D.num_servers (D.process c) (fun s => localContainsInServer key_start key_end (shard s))

section Calls

variable (D : Deployment Client) (keyHash : KeyType → UInt64) (c : Client) (key : KeyType)

def put : Dispatch UInt16 := (D.process c).callServer (modThenCast D.num_servers (keyHash key))

def get : Dispatch UInt16 := (D.process c).callServer (modThenCast D.num_servers (keyHash key))

def erase : Dispatch UInt16 := (D.process c).callServer (modThenCast D.num_servers (keyHash key))

variable (Compare) [DecidableRel Compare] [IsStrictWeakOrder KeyType Compare] [Inhabited MappedType]

def service : Service Client UInt16 (Op KeyType MappedType) (Reply MappedType)
    (MyMap KeyType MappedType Compare) where
  attached c := (D.process c).my_server
  dispatch c
    | .put key _ => put D keyHash c key
    | .get key => get D keyHash c key
    | .erase key => erase D keyHash c key
  handle := handle

lemma service_server (o : Op KeyType MappedType) :
    (service Compare D keyHash).server c o = D.home keyHash o.key := by
  cases o <;> exact Deployment.server_callServer rfl rfl

end Calls

section Specs

variable [DecidableRel Compare] {key k : KeyType} {data : MappedType}
variable {mymap : MyMap KeyType MappedType Compare}

lemma localGet_eq [Inhabited MappedType] : localGet key mymap =
    match (mymap.find key).map Prod.snd with
    | some v => (true, v)
    | none => (false, default) := by
  unfold localGet
  cases mymap.find key <;> rfl

variable [IsStrictWeakOrder KeyType Compare]

lemma mem_localPut {e : KeyType × MappedType} : e ∈ (localPut key data mymap).2.entries ↔
    e = SortedSequence.placed Prod.fst Compare (fun e x => (e.1, x.2)) (key, data) mymap.entries ∨
      e ∈ mymap.entries ∧ ¬IncompRel Compare e.1 key := by
  rw [localPut]
  rw [Tree.mem_insertOrAssign]

lemma find_localPut : ((localPut key data mymap).2.find k).map Prod.snd =
    if IncompRel Compare key k then some data else (mymap.find k).map Prod.snd := by
  rw [localPut]
  rw [Tree.find_insertOrAssign]
  split_ifs with hk
  · rw [SortedSequence.placed]
    cases SortedSequence.find Prod.fst Compare key mymap.entries <;> rfl
  · rfl

variable [Inhabited MappedType]

lemma find_localErase : ((localErase key mymap).2.find k).map Prod.snd =
    if IncompRel Compare key k then none else (mymap.find k).map Prod.snd := by
  rw [localErase]
  rw [Tree.find_erase]
  split_ifs <;> rfl

lemma localErase_eq : (localErase key mymap).1 = ((mymap.find key).isSome, default) := by
  have hs : mymap.size - (mymap.erase key).size > 0 ↔ (mymap.find key).isSome := by
    rw [Tree.isSome_find, ← Tree.size_erase_lt]
    omega
  simp [localErase, hs]

lemma mem_handle {o : Op KeyType MappedType} {x : MyMap KeyType MappedType Compare}
    {e : KeyType × MappedType} (he : e ∈ (handle o x).2.entries) :
    e.1 = o.key ∨ ∃ d ∈ x.entries, e.1 = d.1 := by
  cases o with
  | put key data =>
    rcases mem_localPut.mp he with rfl | ⟨he, -⟩
    · rw [SortedSequence.placed]
      cases hf : SortedSequence.find Prod.fst Compare key x.entries with
      | none => exact .inl rfl
      | some d => exact .inr ⟨d, (SortedSequence.find_mem hf).1, rfl⟩
    · exact .inr ⟨e, he, rfl⟩
  | get key => exact .inr ⟨e, he, rfl⟩
  | erase key => exact .inr ⟨e, (Tree.mem_erase.mp he).1, rfl⟩

variable {D : Deployment Client} {keyHash : KeyType → UInt64}
variable {shard : UInt16 → MyMap KeyType MappedType Compare}

lemma home_eq {init : UInt16 → MyMap KeyType MappedType Compare} (hi : ∀ s, (init s).entries = [])
    {tr : Trace Client UInt16 (Op KeyType MappedType) (Reply MappedType)}
    (h : Atomic (service Compare D keyHash) init tr shard) (s : UInt16) :
    ∀ e ∈ (shard s).entries, D.home keyHash e.1 = s := by
  refine Gather.home_eq_of_handle hi (fun c o x e he => ?_) h s
  rw [service_server]
  exact (mem_handle he).imp_left fun hk => congrArg _ hk

end Specs

section Total

variable [DecidableRel Compare] [IsStrictTotalOrder KeyType Compare]

lemma mem_put {key : KeyType} {data : MappedType} {mymap : MyMap KeyType MappedType Compare}
    {e : KeyType × MappedType} : e ∈ (localPut key data mymap).2.entries ↔
      e = (key, data) ∨ e ∈ mymap.entries ∧ e.1 ≠ key := by
  have hd : (SortedSequence.placed Prod.fst Compare (fun e x => (e.1, x.2)) (key, data)
      mymap.entries).2 = data := by
    rw [SortedSequence.placed]
    cases SortedSequence.find Prod.fst Compare key mymap.entries <;> rfl
  have hp : SortedSequence.placed Prod.fst Compare (fun e x => (e.1, x.2)) (key, data)
      mymap.entries = (key, data) :=
    Prod.ext (SortedSequence.incomp_iff_eq.mp (SortedSequence.placed_incomp fun _ _ => rfl)) hd
  rw [mem_localPut, hp, SortedSequence.incomp_iff_eq]

end Total

end Basket.Map
