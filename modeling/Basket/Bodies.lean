import Basket.GlobalClock.Model
import Basket.Library.Walk
import Basket.Map.Sequential
import Basket.Multimap.Sequential
import Basket.PriorityQueue.Model
import Basket.Queue.Model
import Basket.Sequencer.Model
import Basket.Set.Sequential
import Basket.UnorderedMap.Model

/-! The local operations statement by statement, as they run between the lock and the unlock of the
object's mutex. Run without interruption they are the operations of the models. -/

namespace Basket

open Library CriticalSection Communication

section Pops

variable {σ T : Type} [Inhabited T] (size : σ → ℕ) (first : σ → T) (remove : σ → σ)

/-- `if (size() > 0) { value = first(); return (true, value); } return (false, T());` -/
def seekBody : Code σ (Bool × T) := do
  if (← Code.read size) > 0 then
    let value ← Code.read first
    return (true, value)
  else return (false, default)

def popBody : Code σ (Bool × T) := do
  if (← Code.read size) > 0 then
    let value ← Code.read first
    Code.update remove
    return (true, value)
  else return (false, default)

variable {size first remove} {s : σ}

lemma run_seekBody : (seekBody size first).run s =
    (if size s > 0 then (true, first s) else (false, default), s) := by
  rw [seekBody, Code.run_bind, Code.run_read]
  split_ifs <;> rfl

lemma run_popBody : (popBody size first remove).run s =
    if size s > 0 then ((true, first s), remove s) else ((false, default), s) := by
  rw [popBody, Code.run_bind, Code.run_read]
  split_ifs <;> rfl

end Pops

namespace RangeQuery

variable {α KeyType : Type} {key : α → KeyType} {Compare : KeyType → KeyType → Prop}
variable [LT KeyType] [DecidableLT KeyType] [DecidableRel Compare]

def containsBody (single : KeyType → KeyType → Bool) (key_start key_end : KeyType) :
    Code (Tree key Compare) (Option (List α)) :=
  Code.query Tree.entries (fun t => t.lowerBound key_start) (fun e => single (key e) key_start)
    (fun e => key_start > key e) (fun e => key e > key_end)

lemma run_containsBody {single : KeyType → KeyType → Bool} {key_start key_end : KeyType}
    {t : Tree key Compare} : (containsBody single key_start key_end).run t =
      (localContainsInServer single key_start key_end t, t) := by
  rw [containsBody, Code.run_query Tree.lowerBound_append, localContainsInServer]
  have hb : Code.iteratorBack (fun e => decide (key_start > key e)) (t.lowerBound key_start) =
      stepBack key key_start (t.lowerBound key_start) := by
    simp [Code.iteratorBack, stepBack]
  have hm : (do
      let e ← t.begin.deref
      return if single (key e) key_start then [e] else [] : Option (List α)) =
        t.entries.head?.map (fun e => if single (key e) key_start then [e] else []) := by
    cases he : t.entries.head? <;> simp [Tree.begin, Iterator.start, Iterator.deref, he]
  rw [hb, hm]
  rfl

end RangeQuery

namespace Map

variable {KeyType MappedType : Type} {Compare : KeyType → KeyType → Prop} [DecidableRel Compare]

section Keyed

variable [IsStrictWeakOrder KeyType Compare] [Inhabited MappedType]

def localPutBody (key : KeyType) (data : MappedType) : Code (MyMap KeyType MappedType Compare) Bool := do
  Code.update (fun mymap => mymap.insertOrAssign (fun e x => (e.1, x.2)) (fun _ _ => rfl) (key, data))
  return true

/-- The value is read through the iterator, after the key was found. -/
def localGetBody (key : KeyType) : Code (MyMap KeyType MappedType Compare) (Bool × MappedType) := do
  match ← Code.read (fun mymap => mymap.find key) with
  | some e =>
    let second ← Code.read (fun mymap => ((mymap.find e.1).map Prod.snd).getD default)
    return (true, second)
  | none => return (false, default)

def localEraseBody (key : KeyType) : Code (MyMap KeyType MappedType Compare) (Bool × MappedType) := do
  let s ← Code.change (fun mymap => (mymap.size - (mymap.erase key).size, mymap.erase key))
  return (s > 0, default)

lemma run_localGetBody {key : KeyType} {mymap : MyMap KeyType MappedType Compare} :
    (localGetBody key).run mymap = (localGet key mymap, mymap) := by
  rw [localGetBody, Code.run_bind, Code.run_read, localGet]
  cases hf : mymap.find key with
  | none => rfl
  | some e =>
    have he : mymap.find e.1 = some e := (Tree.find_congr (Tree.find_iff.mp hf).2).trans hf
    simp [he]

end Keyed

variable [IsStrictWeakOrder KeyType Compare] [LT KeyType] [DecidableLT KeyType] [Inhabited MappedType]

def body : ServerCall KeyType MappedType →
    Code (MyMap KeyType MappedType Compare) (ServerAnswer KeyType MappedType)
  | .op (.put key data) => do return .op (.put (← localPutBody key data))
  | .op (.get key) => do return .op (.get (← localGetBody key))
  | .op (.erase key) => do return .op (.erase (← localEraseBody key))
  | .containsInServer _ key_start key_end => do
    let single := fun first key_start => decide (first > key_start)
    return .containsInServer (← RangeQuery.containsBody single key_start key_end)
  | .getAllDataInServer _ => do return .getAllDataInServer (← Code.walkAll Tree.entries)

lemma run_body (o : ServerCall KeyType MappedType) (mymap : MyMap KeyType MappedType Compare) :
    (body o).run mymap = serverHandle o mymap := by
  cases o with
  | op o =>
    cases o with
    | put key data => rfl
    | get key =>
      rw [body, Code.run_bind, run_localGetBody]
      rfl
    | erase key => rfl
  | containsInServer s key_start key_end =>
    rw [body, Code.run_bind, RangeQuery.run_containsBody]
    rfl
  | getAllDataInServer s =>
    rw [body, Code.run_bind, Code.run_walkAll rfl]
    rfl

end Map

namespace Multimap

variable {KeyType MappedType : Type} {Compare : KeyType → KeyType → Prop} [DecidableRel Compare]
variable [IsStrictWeakOrder KeyType Compare]

/-- Between the two calls the key has no entry. -/
def localPutBody (key : KeyType) (data : MappedType) : Code (MyMap KeyType MappedType Compare) Bool := do
  match ← Code.read (fun mymap => mymap.find key) with
  | some _ => Code.update (fun mymap => mymap.eraseFound key)
  | none => pure ()
  Code.update (fun mymap => mymap.insert (key, data))
  return true

def containsBody (Contains : KeyType → KeyType → Bool) (key : KeyType) :
    Code (MyMap KeyType MappedType Compare) (Option (List (KeyType × MappedType))) :=
  Code.query MultiTree.entries (fun mymap => mymap.lowerBound key) (fun _ => true)
    (fun e => !Contains key e.1) (fun e => !(Contains key e.1 || Contains e.1 key))

variable {mymap : MyMap KeyType MappedType Compare} {key : KeyType}

lemma run_localPutBody {data : MappedType} : (localPutBody key data).run mymap = localPut key data mymap := by
  rw [localPutBody, Code.run_bind, Code.run_read, localPut]
  cases hf : mymap.find key <;> rfl

omit [IsStrictWeakOrder KeyType Compare] in
lemma run_containsBody {Contains : KeyType → KeyType → Bool} :
    (containsBody Contains key).run mymap = (localContainsInServer Contains key mymap, mymap) := by
  rw [containsBody, Code.run_query MultiTree.lowerBound_append, localContainsInServer]
  have hb : Code.iteratorBack (fun e => !Contains key e.1) (mymap.lowerBound key) =
      stepBack Contains key (mymap.lowerBound key) := by
    simp [Code.iteratorBack, stepBack]
  have hm : (do
      let e ← mymap.begin.deref
      return [e] : Option (List (KeyType × MappedType))) =
        mymap.entries.head?.map (fun e => if true then [e] else []) := by
    cases he : mymap.entries.head? <;> simp [MultiTree.begin, Iterator.start, Iterator.deref, he]
  rw [hb, hm]
  rfl

variable [Inhabited MappedType]

def localGetBody (key : KeyType) : Code (MyMap KeyType MappedType Compare) (Bool × MappedType) := do
  match ← Code.read (fun mymap => mymap.find key) with
  | some e =>
    let second ← Code.read (fun mymap => ((mymap.find e.1).map Prod.snd).getD default)
    return (true, second)
  | none => return (false, default)

def localEraseBody (key : KeyType) : Code (MyMap KeyType MappedType Compare) (Bool × MappedType) := do
  let s ← Code.change (fun mymap => (mymap.size - (mymap.erase key).size, mymap.erase key))
  return (s > 0, default)

lemma run_localGetBody : (localGetBody key).run mymap = (localGet key mymap, mymap) := by
  rw [localGetBody, Code.run_bind, Code.run_read, localGet]
  cases hf : mymap.find key with
  | none => rfl
  | some e =>
    have he : mymap.find e.1 = some e :=
      (SortedSequence.find_incomp (SortedSequence.find_mem hf).2).trans hf
    simp [he]

def body (Contains : KeyType → KeyType → Bool) : ServerCall KeyType MappedType →
    Code (MyMap KeyType MappedType Compare) (ServerAnswer KeyType MappedType)
  | .op (.put key data) => do return .op (.put (← localPutBody key data))
  | .op (.get key) => do return .op (.get (← localGetBody key))
  | .op (.erase key) => do return .op (.erase (← localEraseBody key))
  | .containsInServer _ key => do return .containsInServer (← containsBody Contains key)
  | .getAllDataInServer _ => do return .getAllDataInServer (← Code.walkAll MultiTree.entries)

lemma run_body (Contains : KeyType → KeyType → Bool) (o : ServerCall KeyType MappedType)
    (mymap : MyMap KeyType MappedType Compare) :
    (body Contains o).run mymap = serverHandle Contains o mymap := by
  cases o with
  | op o =>
    cases o with
    | put key data =>
      rw [body, Code.run_bind, run_localPutBody]
      rfl
    | get key =>
      rw [body, Code.run_bind, run_localGetBody]
      rfl
    | erase key => rfl
  | containsInServer s key =>
    rw [body, Code.run_bind, run_containsBody]
    rfl
  | getAllDataInServer s =>
    rw [body, Code.run_bind, Code.run_walkAll rfl]
    rfl

end Multimap

namespace Set

variable {KeyType : Type} {Compare : KeyType → KeyType → Prop} [DecidableRel Compare]
variable [IsStrictWeakOrder KeyType Compare]

def localPutBody (key : KeyType) : Code (MySet KeyType Compare) Bool := do
  Code.update (fun myset => myset.insert key)
  return true

def localGetBody (key : KeyType) : Code (MySet KeyType Compare) Bool := do
  match ← Code.read (fun myset => myset.find key) with
  | some _ => return true
  | none => return false

def localEraseBody (key : KeyType) : Code (MySet KeyType Compare) Bool := do
  let s ← Code.change (fun myset => (myset.size - (myset.erase key).size, myset.erase key))
  return s > 0

variable [Inhabited KeyType]

def localSeekFirstBody : Code (MySet KeyType Compare) (Bool × KeyType) :=
  seekBody Tree.size (fun myset => myset.begin.deref.getD default)

def localPopFirstBody : Code (MySet KeyType Compare) (Bool × KeyType) :=
  popBody Tree.size (fun myset => myset.begin.deref.getD default) Tree.eraseBegin

variable [LT KeyType] [DecidableLT KeyType] [LE KeyType] [DecidableLE KeyType]

def body : LockedCall KeyType → Code (MySet KeyType Compare) (ServerAnswer KeyType)
  | ⟨.op (.put key), _⟩ => do return .op (.put (← localPutBody key))
  | ⟨.op (.get key), _⟩ => do return .op (.get (← localGetBody key))
  | ⟨.op (.erase key), _⟩ => do return .op (.erase (← localEraseBody key))
  | ⟨.op (.seekFirst _), _⟩ => do return .op (.seekFirst (← localSeekFirstBody))
  | ⟨.op (.popFirst _), _⟩ => do return .op (.popFirst (← localPopFirstBody))
  | ⟨.containsInServer _ key_start key_end, _⟩ => do
    let single := fun first key_start => decide (first ≥ key_start)
    return .containsInServer (← RangeQuery.containsBody single key_start key_end)
  | ⟨.getAllDataInServer _, _⟩ => do return .getAllDataInServer (← Code.walkAll Tree.entries)

variable {myset : MySet KeyType Compare}

omit [DecidableRel Compare] [IsStrictWeakOrder KeyType Compare] [LT KeyType] [DecidableLT KeyType]
  [LE KeyType] [DecidableLE KeyType] in
lemma begin_deref (h : myset.size > 0) : myset.begin.deref.getD default = myset.first h := by
  obtain ⟨l, hl⟩ := myset
  cases l with
  | nil => cases h
  | cons k l => rfl

lemma run_body (o : LockedCall KeyType) (myset : MySet KeyType Compare) :
    (body o).run myset = serverHandle o.1 myset := by
  obtain ⟨o, ho⟩ := o
  cases o with
  | op o =>
    cases o with
    | put key => rfl
    | get key =>
      rw [body, Code.run_bind, localGetBody, Code.run_bind, Code.run_read]
      change _ = (ServerAnswer.op (.get (localGet key myset)), myset)
      rw [localGet]
      cases myset.find key <;> rfl
    | erase key => rfl
    | seekFirst key_int =>
      rw [body, Code.run_bind, localSeekFirstBody, run_seekBody]
      change _ = (ServerAnswer.op (.seekFirst (localSeekFirst myset)), myset)
      rw [localSeekFirst]
      split_ifs with h
      · rw [begin_deref h]
        rfl
      · rfl
    | popFirst key_int =>
      rw [body, Code.run_bind, localPopFirstBody, run_popBody]
      change _ = (ServerAnswer.op (.popFirst (localPopFirst myset).1), (localPopFirst myset).2)
      rw [localPopFirst]
      split_ifs with h
      · rw [begin_deref h]
        rfl
      · rfl
    | size key_int => cases ho
  | containsInServer s key_start key_end =>
    rw [body, Code.run_bind, RangeQuery.run_containsBody]
    rfl
  | getAllDataInServer s =>
    rw [body, Code.run_bind, Code.run_walkAll rfl]
    rfl

end Set

namespace UnorderedMap

variable {KeyType MappedType : Type} [DecidableEq KeyType] [Inhabited MappedType]

def localPutBody (key : KeyType) (data : MappedType) : Code (MyHashMap KeyType MappedType) Bool := do
  Code.update (fun myHashMap => myHashMap.insert key data)
  return true

def localGetBody (key : KeyType) : Code (MyHashMap KeyType MappedType) (Bool × MappedType) := do
  match ← Code.read (fun myHashMap => myHashMap.lookup key) with
  | some _ =>
    let second ← Code.read (fun myHashMap => (myHashMap.lookup key).getD default)
    return (true, second)
  | none => return (false, default)

def localEraseBody (key : KeyType) : Code (MyHashMap KeyType MappedType) (Bool × MappedType) := do
  let s ← Code.change (fun myHashMap => (size myHashMap - size (myHashMap.erase key), myHashMap.erase key))
  return (s > 0, default)

/-- The callback is called after the mutex is unlocked. -/
def body : Op KeyType MappedType → Code (MyHashMap KeyType MappedType) (Reply MappedType)
  | .put key data => do return .put (← localPutBody key data)
  | .get key => do return .get (← localGetBody key)
  | .erase key => do return .erase (← localEraseBody key)
  | .putWithCallback key data => do return .put (← localPutBody key data)
  | .getWithCallback key => do return .get (← localGetBody key)
  | .eraseWithCallback key => do return .erase (← localEraseBody key)

lemma run_localGetBody {key : KeyType} {myHashMap : MyHashMap KeyType MappedType} :
    (localGetBody key).run myHashMap = (localGet key myHashMap, myHashMap) := by
  rw [localGetBody, Code.run_bind, Code.run_read, localGet]
  cases hl : myHashMap.lookup key with
  | none => rfl
  | some data => simp [hl]

lemma run_body (o : Op KeyType MappedType) (myHashMap : MyHashMap KeyType MappedType) :
    (body o).run myHashMap = handle o myHashMap := by
  cases o with
  | put key data => rfl
  | putWithCallback key data => rfl
  | erase key => rfl
  | eraseWithCallback key => rfl
  | get key =>
    rw [body, Code.run_bind, run_localGetBody]
    rfl
  | getWithCallback key =>
    rw [body, Code.run_bind, run_localGetBody]
    rfl

end UnorderedMap

namespace Queue

variable {MappedType : Type} [Inhabited MappedType]

def localPushBody (data : MappedType) : Code (List MappedType) Bool := do
  Code.update (fun my_queue => my_queue ++ [data])
  return true

def localPopBody : Code (List MappedType) (Bool × MappedType) :=
  popBody List.length (fun my_queue => my_queue.head?.getD default) List.tail

def body : Op MappedType → Code (List MappedType) (Reply MappedType)
  | .push data _ => do return .push (← localPushBody data)
  | .pop _ => do return .pop (← localPopBody)
  | .size _ => do return .size (← Code.read List.length)

lemma run_body (o : Op MappedType) (my_queue : List MappedType) :
    (body o).run my_queue = handle o my_queue := by
  cases o with
  | push data key_int => rfl
  | pop key_int =>
    rw [body, Code.run_bind, localPopBody, run_popBody]
    cases my_queue <;> rfl
  | size key_int => rfl

end Queue

namespace PriorityQueue

variable {MappedType : Type} [Inhabited MappedType] {Compare : MappedType → MappedType → Prop}
variable (Q : StdPriorityQueue.{0, 0} MappedType Compare)

def top? (queue : Q.Carrier) : MappedType := if h : Q.size queue > 0 then Q.top queue h else default

def localPushBody (data : MappedType) : Code Q.Carrier Bool := do
  Code.update (fun queue => Q.push data queue)
  return true

def localPopBody : Code Q.Carrier (Bool × MappedType) :=
  popBody Q.size (top? Q) (fun queue => if h : Q.size queue > 0 then Q.pop queue h else queue)

def localTopBody : Code Q.Carrier (Bool × MappedType) := seekBody Q.size (top? Q)

def body : Op MappedType → Code Q.Carrier (Reply MappedType)
  | .push data _ => do return .push (← localPushBody Q data)
  | .pop _ => do return .pop (← localPopBody Q)
  | .top _ => do return .top (← localTopBody Q)
  | .size _ => do return .size (← Code.read Q.size)

lemma run_body (o : Op MappedType) (queue : Q.Carrier) : (body Q o).run queue = handle Q o queue := by
  cases o with
  | push data key_int => rfl
  | pop key_int =>
    rw [body, Code.run_bind, localPopBody, run_popBody]
    change _ = (Reply.pop (localPop Q queue).1, (localPop Q queue).2)
    rw [localPop]
    split_ifs with h
    · rw [top?, dif_pos h]
      rfl
    · rfl
  | top key_int =>
    rw [body, Code.run_bind, localTopBody, run_seekBody]
    change _ = (Reply.top (localTop Q queue), queue)
    rw [localTop]
    split_ifs with h
    · rw [top?, dif_pos h]
      rfl
    · rfl
  | size key_int => rfl

end PriorityQueue

namespace Sequencer

/-- `++*value` reads and writes the counter in two steps, and `return` reads it once more. -/
def localGetNextSequenceBody : Code UInt64 UInt64 := do
  let v ← Code.read id
  Code.update (fun _ => v + 1)
  Code.read id

def body : Op → Code UInt64 UInt64
  | .getNextSequence => localGetNextSequenceBody
  | .getNextSequenceServer _ => localGetNextSequenceBody

lemma run_body (o : Op) (value : UInt64) : (body o).run value = handle o value := by
  cases o <;> rfl

end Sequencer

namespace GlobalClock

def localGetTimeBody : Code Clock UInt64 := do
  let t2 ← Code.change (fun clock => (clock.later 0, clock.tick))
  let start ← Code.read Clock.start
  return microseconds (t2 - start)

def body : Op → Code Clock UInt64
  | .getTime => localGetTimeBody
  | .getTimeServer _ => localGetTimeBody

lemma run_body (o : Op) (clock : Clock) : (body o).run clock = handle o clock := by
  cases o <;> rfl

end GlobalClock

end Basket
