import Basket.Communication.Deployment
import Basket.Library.Iterator
import Mathlib.Data.List.AList

/-! The distributed unordered map: the hash table of one server, and where the calls of a client go.
Of the operations with a callback only the part on the table is kept. -/

namespace Basket.UnorderedMap

open Library Cluster Communication

variable {KeyType MappedType Client : Type*}

abbrev MyHashMap (KeyType MappedType : Type*) := AList (fun _ : KeyType => MappedType)

/-- The pairs of a table, in no order that its user could rely on. -/
def entries (myHashMap : MyHashMap KeyType MappedType) : List (KeyType × MappedType) :=
  myHashMap.entries.map (fun e => (e.1, e.2))

def size (myHashMap : MyHashMap KeyType MappedType) : ℕ := myHashMap.entries.length

inductive Op (KeyType MappedType : Type*)
  | put (key : KeyType) (data : MappedType)
  | get (key : KeyType)
  | erase (key : KeyType)
  | putWithCallback (key : KeyType) (data : MappedType)
  | getWithCallback (key : KeyType)
  | eraseWithCallback (key : KeyType)
  deriving DecidableEq, Repr

def Op.key : Op KeyType MappedType → KeyType
  | put key _ => key
  | get key => key
  | erase key => key
  | putWithCallback key _ => key
  | getWithCallback key => key
  | eraseWithCallback key => key

section Local

/-- The walk over the table, whose buckets put the pairs in the order `order`. -/
def localGetAllDataInServer (order : List (KeyType × MappedType))
    (myHashMap : MyHashMap KeyType MappedType) : Option (List (KeyType × MappedType)) :=
  if size myHashMap > 0 then (Iterator.start order).scan (fun _ => false) [] else some []

def getAllData (order : UInt16 → List (KeyType × MappedType)) (D : Deployment Client) (c : Client)
    (shard : UInt16 → MyHashMap KeyType MappedType) : Option (List (KeyType × MappedType)) :=
  askAll D.num_servers (D.process c) (fun s => localGetAllDataInServer (order s) (shard s))

variable [DecidableEq KeyType]

def localPut (key : KeyType) (data : MappedType) (myHashMap : MyHashMap KeyType MappedType) :
    Bool × MyHashMap KeyType MappedType :=
  (true, myHashMap.insert key data)

def localGet [Inhabited MappedType] (key : KeyType) (myHashMap : MyHashMap KeyType MappedType) :
    Bool × MappedType :=
  match myHashMap.lookup key with
  | some data => (true, data)
  | none => (false, default)

def localErase [Inhabited MappedType] (key : KeyType) (myHashMap : MyHashMap KeyType MappedType) :
    (Bool × MappedType) × MyHashMap KeyType MappedType :=
  let s := size myHashMap - size (myHashMap.erase key)
  ((s > 0, default), myHashMap.erase key)

def handle [Inhabited MappedType] : Op KeyType MappedType → MyHashMap KeyType MappedType →
    Reply MappedType × MyHashMap KeyType MappedType
  | .put key data, myHashMap => (localPut key data myHashMap).map .put id
  | .get key, myHashMap => (.get (localGet key myHashMap), myHashMap)
  | .erase key, myHashMap => (localErase key myHashMap).map .erase id
  | .putWithCallback key data, myHashMap => (localPut key data myHashMap).map .put id
  | .getWithCallback key, myHashMap => (.get (localGet key myHashMap), myHashMap)
  | .eraseWithCallback key, myHashMap => (localErase key myHashMap).map .erase id

end Local

section Calls

variable (D : Deployment Client) (keyHash : KeyType → UInt64) (c : Client) (key : KeyType)

def put : Dispatch UInt16 := (D.process c).callServer (castThenMod D.num_servers (keyHash key))

def get : Dispatch UInt16 := (D.process c).callServer (modThenCast D.num_servers (keyHash key))

def erase : Dispatch UInt16 := (D.process c).callServer (modThenCast D.num_servers (keyHash key))

def putWithCallback : Dispatch UInt16 :=
  (D.process c).callServer (castThenMod D.num_servers (keyHash key))

def getWithCallback : Dispatch UInt16 :=
  (D.process c).callServer (castThenMod D.num_servers (keyHash key))

def eraseWithCallback : Dispatch UInt16 :=
  (D.process c).callServer (castThenMod D.num_servers (keyHash key))

variable [DecidableEq KeyType] [Inhabited MappedType]

def service : Service Client UInt16 (Op KeyType MappedType) (Reply MappedType)
    (MyHashMap KeyType MappedType) where
  attached c := (D.process c).my_server
  dispatch c
    | .put key _ => put D keyHash c key
    | .get key => get D keyHash c key
    | .erase key => erase D keyHash c key
    | .putWithCallback key _ => putWithCallback D keyHash c key
    | .getWithCallback key => getWithCallback D keyHash c key
    | .eraseWithCallback key => eraseWithCallback D keyHash c key
  handle := handle

/-- `Get` and `Erase` take the remainder of the whole hash, the other operations of its low bits. -/
def address : Op KeyType MappedType → UInt16
  | .get key => modThenCast D.num_servers (keyHash key)
  | .erase key => modThenCast D.num_servers (keyHash key)
  | o => castThenMod D.num_servers (keyHash o.key)

lemma service_server (o : Op KeyType MappedType) :
    (service D keyHash).server c o = address D keyHash o := by
  cases o <;> exact Deployment.server_callServer rfl rfl

end Calls

section Specs

variable {order : List (KeyType × MappedType)} {myHashMap : MyHashMap KeyType MappedType}
variable {key k : KeyType}

lemma localGetAllDataInServer_eq (h : order.Perm (entries myHashMap)) :
    localGetAllDataInServer order myHashMap = some order := by
  rw [localGetAllDataInServer]
  split_ifs with hs
  · simp [Iterator.scan_eq, Iterator.start]
  · have he : (entries myHashMap).length = 0 := by
      simpa [size, entries] using hs
    rw [List.length_eq_zero_iff.mp (h.length_eq.trans he)]

lemma keys_entries : (entries myHashMap).map Prod.fst = myHashMap.keys := by
  simp [entries, AList.keys, List.keys, Function.comp_def]

lemma size_eq_keys : size myHashMap = myHashMap.keys.length := by
  simp [size, AList.keys, List.keys]

variable [DecidableEq KeyType]

lemma lookup_localPut {data : MappedType} : (localPut key data myHashMap).2.lookup k =
    if key = k then some data else myHashMap.lookup k := by
  rw [localPut]
  split_ifs with hk
  · rw [hk, AList.lookup_insert]
  · rw [AList.lookup_insert_ne (Ne.symm hk)]

lemma lookup_localErase [Inhabited MappedType] : (localErase key myHashMap).2.lookup k =
    if key = k then none else myHashMap.lookup k := by
  rw [localErase]
  split_ifs with hk
  · rw [hk, AList.lookup_erase]
  · rw [AList.lookup_erase_ne (Ne.symm hk)]

lemma size_erase_lt : size (myHashMap.erase key) < size myHashMap ↔ (myHashMap.lookup key).isSome := by
  rw [size_eq_keys, size_eq_keys, AList.keys_erase, AList.lookup_isSome, AList.mem_keys,
    List.length_erase]
  split_ifs with hk
  · have hp := List.length_pos_of_mem hk
    simp only [hk, iff_true]
    omega
  · simp [hk]

lemma localErase_eq [Inhabited MappedType] :
    (localErase key myHashMap).1 = ((myHashMap.lookup key).isSome, default) := by
  have hs : size myHashMap - size (myHashMap.erase key) > 0 ↔ (myHashMap.lookup key).isSome := by
    rw [← size_erase_lt]
    omega
  simp [localErase, hs]

lemma mem_entries {e : KeyType × MappedType} :
    e ∈ entries myHashMap ↔ myHashMap.lookup e.1 = some e.2 := by
  rw [← Option.mem_def, AList.mem_lookup_iff, entries, List.mem_map]
  constructor
  · rintro ⟨d, hd, rfl⟩
    exact hd
  · exact fun he => ⟨_, he, rfl⟩

variable [Inhabited MappedType] {D : Deployment Client} {keyHash : KeyType → UInt64}

lemma mem_handle {o : Op KeyType MappedType} {e : KeyType × MappedType}
    (he : e ∈ entries (handle o myHashMap).2) :
    castThenMod D.num_servers (keyHash e.1) = address D keyHash o ∨ e ∈ entries myHashMap := by
  have hput (key : KeyType) (data : MappedType) (he : e ∈ entries (localPut key data myHashMap).2) :
      castThenMod D.num_servers (keyHash e.1) = castThenMod D.num_servers (keyHash key) ∨
        e ∈ entries myHashMap := by
    rw [mem_entries, lookup_localPut] at he
    split_ifs at he with hk
    · rw [hk]
      exact .inl rfl
    · exact .inr (mem_entries.mpr he)
  have herase (key : KeyType) (he : e ∈ entries (localErase key myHashMap).2) : e ∈ entries myHashMap := by
    rw [mem_entries, lookup_localErase] at he
    split_ifs at he with hk
    exact mem_entries.mpr he
  cases o with
  | put key data => exact hput key data he
  | putWithCallback key data => exact hput key data he
  | get key => exact .inr he
  | getWithCallback key => exact .inr he
  | erase key => exact .inr (herase key he)
  | eraseWithCallback key => exact .inr (herase key he)

lemma home_eq {init shard : UInt16 → MyHashMap KeyType MappedType} (hi : ∀ s, entries (init s) = [])
    {tr : Trace Client UInt16 (Op KeyType MappedType) (Reply MappedType)}
    (h : Atomic (service D keyHash) init tr shard) (s : UInt16) :
    ∀ e ∈ entries (shard s), castThenMod D.num_servers (keyHash e.1) = s := by
  refine Gather.home_eq_of_handle hi
    (fun c o x e he => ?_) h s
  rw [service_server]
  exact (mem_handle he).imp_right fun he => ⟨e, he, rfl⟩

end Specs

end Basket.UnorderedMap
