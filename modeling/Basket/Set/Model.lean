import Basket.RangeQuery

/-! The distributed set: the tree of one server, and where the calls of a client go. -/

namespace Basket.Set

open Library Cluster Communication

variable {KeyType Client : Type*} {Compare : KeyType → KeyType → Prop}

abbrev MySet (KeyType : Type*) (Compare : KeyType → KeyType → Prop) :=
  Tree (id : KeyType → KeyType) Compare

inductive Op (KeyType : Type*)
  | put (key : KeyType)
  | get (key : KeyType)
  | erase (key : KeyType)
  | seekFirst (key_int : UInt16)
  | popFirst (key_int : UInt16)
  | size (key_int : UInt16)
  deriving DecidableEq, Repr

inductive Reply (KeyType : Type*)
  | put (success : Bool)
  | get (found : Bool)
  | erase (found : Bool)
  | seekFirst (found : Bool × KeyType)
  | popFirst (found : Bool × KeyType)
  | size (n : ℕ)
  deriving DecidableEq, Repr

section Local

def localSeekFirst [Inhabited KeyType] (myset : MySet KeyType Compare) : Bool × KeyType :=
  if h : myset.size > 0 then (true, myset.first h) else (false, default)

def localPopFirst [Inhabited KeyType] (myset : MySet KeyType Compare) :
    (Bool × KeyType) × MySet KeyType Compare :=
  if h : myset.size > 0 then ((true, myset.first h), myset.eraseBegin)
  else ((false, default), myset)

def localSize (myset : MySet KeyType Compare) : ℕ := myset.size

def localGetAllDataInServer (myset : MySet KeyType Compare) : Option (List KeyType) :=
  myset.begin.scan (fun _ => false) []

variable [DecidableRel Compare]

def localPut [IsStrictWeakOrder KeyType Compare] (key : KeyType) (myset : MySet KeyType Compare) :
    Bool × MySet KeyType Compare :=
  (true, myset.insert key)

def localGet (key : KeyType) (myset : MySet KeyType Compare) : Bool :=
  match myset.find key with
  | some _ => true
  | none => false

def localErase (key : KeyType) (myset : MySet KeyType Compare) : Bool × MySet KeyType Compare :=
  let s := myset.size - (myset.erase key).size
  (s > 0, myset.erase key)

def handle [IsStrictWeakOrder KeyType Compare] [Inhabited KeyType] :
    Op KeyType → MySet KeyType Compare → Reply KeyType × MySet KeyType Compare
  | .put key, myset => (localPut key myset).map .put id
  | .get key, myset => (.get (localGet key myset), myset)
  | .erase key, myset => (localErase key myset).map .erase id
  | .seekFirst _, myset => (.seekFirst (localSeekFirst myset), myset)
  | .popFirst _, myset => (localPopFirst myset).map .popFirst id
  | .size _, myset => (.size (localSize myset), myset)

/-- A server with one key compares it with `key_start` only. -/
def localContainsInServer [LT KeyType] [DecidableLT KeyType] [LE KeyType] [DecidableLE KeyType]
    (key_start key_end : KeyType) (myset : MySet KeyType Compare) : Option (List KeyType) :=
  RangeQuery.localContainsInServer (fun first key_start => first ≥ key_start) key_start key_end myset

def contains [LT KeyType] [DecidableLT KeyType] [LE KeyType] [DecidableLE KeyType]
    (D : Deployment Client) (c : Client) (shard : UInt16 → MySet KeyType Compare)
    (key_start key_end : KeyType) : Option (List KeyType) :=
  askAll D.num_servers (D.process c) (fun s => localContainsInServer key_start key_end (shard s))

end Local

def getAllData (D : Deployment Client) (c : Client) (shard : UInt16 → MySet KeyType Compare) :
    Option (List KeyType) :=
  askAll D.num_servers (D.process c) (fun s => localGetAllDataInServer (shard s))

section Calls

variable (D : Deployment Client) (keyHash : KeyType → UInt64) (c : Client) (key : KeyType)
variable (key_int : UInt16)

def put : Dispatch UInt16 := (D.process c).callServer (modThenCast D.num_servers (keyHash key))

def get : Dispatch UInt16 := (D.process c).callServer (modThenCast D.num_servers (keyHash key))

def erase : Dispatch UInt16 := (D.process c).callServer (modThenCast D.num_servers (keyHash key))

def seekFirst : Dispatch UInt16 := (D.process c).callServer key_int

def popFirst : Dispatch UInt16 := (D.process c).callServer key_int

def size : Dispatch UInt16 := (D.process c).callServer key_int

variable (Compare) [DecidableRel Compare] [IsStrictWeakOrder KeyType Compare] [Inhabited KeyType]

def service : Service Client UInt16 (Op KeyType) (Reply KeyType) (MySet KeyType Compare) where
  attached c := (D.process c).my_server
  dispatch c
    | .put key => put D keyHash c key
    | .get key => get D keyHash c key
    | .erase key => erase D keyHash c key
    | .seekFirst key_int => seekFirst D c key_int
    | .popFirst key_int => popFirst D c key_int
    | .size key_int => size D c key_int
  handle := handle

def address : Op KeyType → UInt16
  | .put key => D.home keyHash key
  | .get key => D.home keyHash key
  | .erase key => D.home keyHash key
  | .seekFirst key_int => key_int
  | .popFirst key_int => key_int
  | .size key_int => key_int

lemma service_server (o : Op KeyType) :
    (service Compare D keyHash).server c o = address D keyHash o := by
  cases o <;> exact Deployment.server_callServer rfl rfl

end Calls

section Specs

lemma localGetAllDataInServer_eq {myset : MySet KeyType Compare} :
    localGetAllDataInServer myset = some myset.entries := by
  simp [localGetAllDataInServer, Iterator.scan_eq, Tree.begin, Iterator.start]

lemma localPopFirst_empty [Inhabited KeyType] {myset : MySet KeyType Compare}
    (h : myset.entries = []) : localPopFirst myset = ((false, default), myset) := by
  simp [localPopFirst, Tree.size, h]

lemma localPopFirst_cons [Inhabited KeyType] {myset : MySet KeyType Compare} {m : KeyType}
    {l : List KeyType} (h : myset.entries = m :: l) :
    (localPopFirst myset).1 = (true, m) ∧ (localPopFirst myset).2.entries = l := by
  simp [localPopFirst, Tree.size, Tree.first, Tree.eraseBegin, h]

lemma localPopFirst_found [Inhabited KeyType] {myset : MySet KeyType Compare} {k : KeyType}
    (h : (localPopFirst myset).1 = (true, k)) :
    ∃ l, myset.entries = k :: l ∧ (localPopFirst myset).2.entries = l := by
  cases he : myset.entries with
  | nil => simp [localPopFirst_empty he] at h
  | cons m l =>
    obtain ⟨hm, hl⟩ := localPopFirst_cons he
    obtain rfl : m = k := by simpa using hm.symm.trans h
    exact ⟨l, rfl, hl⟩

variable [DecidableRel Compare] {key k : KeyType} {myset : MySet KeyType Compare}

section Weak

variable [IsStrictWeakOrder KeyType Compare]

lemma localErase_eq :
    (localErase key myset).1 = (myset.find key).isSome := by
  have hs : myset.size - (myset.erase key).size > 0 ↔ (myset.find key).isSome := by
    rw [Tree.isSome_find, ← Tree.size_erase_lt]
    omega
  simp [localErase, hs]

variable [Inhabited KeyType]

lemma mem_handle {o : Op KeyType} (h : k ∈ (handle o myset).2.entries) : o = .put k ∨ k ∈ myset.entries := by
  cases o with
  | put key => exact (Tree.mem_of_mem_insert h).imp_left (congrArg _ <| Eq.symm ·)
  | get key => exact .inr h
  | erase key => exact .inr (Tree.mem_erase.mp h).1
  | seekFirst key_int => exact .inr h
  | size key_int => exact .inr h
  | popFirst key_int =>
    right
    cases he : myset.entries with
    | nil => simp [handle, localPopFirst_empty he, he] at h
    | cons m l => exact List.mem_cons_of_mem _ ((localPopFirst_cons he).2 ▸ h)

lemma home_eq {D : Deployment Client} {keyHash : KeyType → UInt64}
    {init shard : UInt16 → MySet KeyType Compare} (hi : ∀ s, (init s).entries = [])
    {tr : Trace Client UInt16 (Op KeyType) (Reply KeyType)}
    (h : Atomic (service Compare D keyHash) init tr shard) (s : UInt16) :
    ∀ k ∈ (shard s).entries, D.home keyHash k = s := by
  refine Gather.home_eq_of_handle hi (fun c o x k hk => ?_) h s
  rw [service_server]
  rcases mem_handle hk with rfl | hk
  · exact .inl rfl
  · exact .inr ⟨k, hk, rfl⟩

end Weak

variable [IsStrictTotalOrder KeyType Compare]

lemma mem_localPut : k ∈ (localPut key myset).2.entries ↔ k = key ∨ k ∈ myset.entries :=
  Tree.mem_insert_total

lemma mem_localErase : k ∈ (localErase key myset).2.entries ↔ k ∈ myset.entries ∧ k ≠ key := by
  rw [localErase]
  rw [Tree.mem_erase, SortedSequence.incomp_iff_eq, id]

lemma localErase_iff : (localErase key myset).1 = true ↔ key ∈ myset.entries := by
  rw [localErase_eq, Tree.isSome_find]
  simp [SortedSequence.incomp_iff_eq]

end Specs

end Basket.Set
