import Basket.FailedPop
import Basket.FailedPut
import Basket.Library.Failures
import Basket.System

/-! A program of many processes in which puts, pushes and pops throw. The caller of a local operation
gets the exception itself, and a remote caller the error reply that the RPC server makes of it. -/

namespace Basket

open Library Cluster Communication Linearizability CriticalSection Objects FailedPut FailedPop

inductive FailurePoint
  | put (p : PutPoint)
  | pop (p : PopPoint)
  deriving DecidableEq, Repr

section Programs

variable {σ α Res Point : Type}

/-- What a program leaves that runs by itself, as data and answer of a body. -/
def thrown (reply : α → Res) (point : Point → FailurePoint) :
    EStateM.Result Point σ α → Except FailurePoint Res × σ
  | .ok a s => (.ok (reply a), s)
  | .error p s => (.error (point p), s)

def succeeding (x : Code σ Res) : Code σ (Except FailurePoint Res) := do return .ok (← x)

section Bodies

open Failures

variable (fails : FailurePoint → Bool)

def putOnceBody (points : σ → List PutPoint) (put : σ → Bool × σ) :
    ExceptT FailurePoint (Code σ) Bool := do
  attempts fails ((← ExceptT.lift (Code.read points)).map .put)
  ExceptT.lift (Code.change put)

variable {T : Type} [Inhabited T] (size : σ → ℕ) (first : σ → T) (remove : σ → σ)

/-- The element is gone when its copy into the pair throws. -/
def throwingPopBody : ExceptT FailurePoint (Code σ) (Bool × T) := do
  if (← ExceptT.lift (Code.read size)) > 0 then
    let value ← ExceptT.lift (Code.read first)
    attempt fails (.pop .value)
    ExceptT.lift (Code.update remove)
    attempt fails (.pop .result)
    return (true, value)
  else return (false, default)

end Bodies

variable {reply : α → Res} {point : Point → FailurePoint} {s : σ} {fails : FailurePoint → Bool}

lemma run_succeeding {x : Code σ Res} : (succeeding x).run s = (.ok (x.run s).1, (x.run s).2) := by
  simp [succeeding]

lemma run_reply {x : ExceptT FailurePoint (Code σ) α} {r : EStateM.Result Point σ α}
    (h : Code.run x.run s = thrown id point r) :
    Code.run (do return reply (← x) : ExceptT FailurePoint (Code σ) Res).run s = thrown reply point r := by
  rw [Failures.run_throwing_bind, h]
  cases r <;> rfl

lemma run_putOnceBody {points : σ → List PutPoint} {put : σ → Bool × σ} :
    Code.run (putOnceBody fails points put).run s =
      thrown id .put ((putOnce (fails ∘ .put) points put).run s) := by
  have hr : (putOnce (fails ∘ .put) points put).run s =
      (Throwing.attempts (fails ∘ .put) (points s) >>= fun _ => modifyGet put).run s := rfl
  have hx : Code.run (putOnceBody fails points put).run s =
      Code.run (Failures.attempts fails ((points s).map .put) >>= fun _ => ExceptT.lift (Code.change put) :
        ExceptT FailurePoint (Code σ) Bool).run s := rfl
  rw [hx, hr, Throwing.run_attempts_bind, Failures.run_attempts_bind, List.find?_map]
  cases (points s).find? (fails ∘ .put) <;> rfl

lemma run_throwingPopBody {T : Type} [Inhabited T] {size : σ → ℕ} {first : σ → T} {remove : σ → σ}
    {first? : σ → Option T} (hf : ∀ s, first? s = if size s > 0 then some (first s) else none) :
    Code.run (throwingPopBody fails size first remove).run s =
      thrown id .pop ((localPop (fails ∘ .pop) first? remove).run s) := by
  specialize hf s
  rw [throwingPopBody, Failures.run_throwing_bind, Failures.run_lift, Code.run_read]
  dsimp only
  by_cases hs : size s > 0
  · rw [if_pos hs] at hf
    rw [if_pos hs, run_some hf]
    simp only [Failures.run_throwing_bind, Failures.run_lift, Failures.run_attempt, Code.run_read,
      Function.comp_apply]
    by_cases h₁ : fails (.pop .value) = true
    · rw [if_pos h₁, if_pos h₁]
      rfl
    · rw [if_neg h₁, if_neg h₁]
      by_cases h₂ : fails (.pop .result) = true
      · simp only [if_pos h₂]
        rfl
      · simp only [if_neg h₂]
        rfl
  · rw [if_neg hs] at hf
    rw [if_neg hs, run_none hf]
    rfl

variable {Op : Type} {F : Failures Op Res σ FailurePoint} {body : Op → Code σ Res} {o : Op}

lemma run_succeeding_outcome (body : Op → Code σ Res) (h : F.points o ((body (F.reads o)).run s).1 = []) :
    (succeeding (body o)).run s = F.outcome (fun o => (body o).run) (o, fails) s := by
  rw [run_succeeding, Failures.outcome_none h]

lemma thrown_putOnce {points : σ → List PutPoint} {put : σ → Bool × σ} {reply : Bool → Res}
    (hb : (body o).run s = (reply (put s).1, (put s).2))
    (hp : F.points o ((body (F.reads o)).run s).1 = (points s).map .put)
    (he : ∀ p, F.effect o p = none) :
    thrown reply .put ((putOnce (fails ∘ .put) points put).run s) =
      F.outcome (fun o => (body o).run) (o, fails) s := by
  have hr : (putOnce (fails ∘ .put) points put).run s =
      (Throwing.attempts (fails ∘ .put) (points s) >>= fun _ => modifyGet put).run s := rfl
  rw [hr, Throwing.run_attempts_bind, Failures.outcome, hp, List.find?_map, hb]
  cases (points s).find? (fails ∘ .put) with
  | none => rfl
  | some p => simp [thrown, he]

section Multimap

variable {KeyType MappedType : Type} {Compare : KeyType → KeyType → Prop} [DecidableRel Compare]
variable [IsStrictWeakOrder KeyType Compare] {key : KeyType} {data : MappedType}
variable {mymap : Multimap.MyMap KeyType MappedType Compare} (h : mymap.Unique)

include h

lemma eraseFound_eq_erase : (match mymap.find key with
    | some _ => mymap.eraseFound key
    | none => mymap) = mymap.erase key := by
  cases hf : mymap.find key with
  | some e =>
    refine MultiTree.Unique.eq_of_mem_iff (h.sublist SortedSequence.eraseFound_sublist)
      (h.eraseKey key) fun d => ?_
    exact h.mem_eraseFound.trans SortedSequence.mem_eraseKey.symm
  | none =>
    have hn := mymap.sorted.find_none.mp hf
    refine MultiTree.Unique.eq_of_mem_iff h (h.eraseKey key) fun d => ?_
    exact ⟨fun hd => SortedSequence.mem_eraseKey.mpr ⟨hd, hn d hd⟩,
      fun hd => (SortedSequence.mem_eraseKey.mp hd).1⟩

lemma thrown_multimapLocalPut {reply : Bool → Res}
    {F : Failures Op Res (Multimap.MyMap KeyType MappedType Compare) FailurePoint}
    {body : Op → Code (Multimap.MyMap KeyType MappedType Compare) Res}
    (hb : (body o).run mymap = (reply true, (Multimap.localPut key data mymap).2))
    (hp : ∀ r, F.points o r = insertPoints.map .put)
    (he : ∀ p, (F.effect o p).map (fun o' => ((body o').run mymap).2) = some (mymap.erase key)) :
    thrown reply .put ((multimapLocalPut (fails ∘ .put) key data).run mymap) =
      F.outcome (fun o => (body o).run) (o, fails) mymap := by
  have hr : (multimapLocalPut (fails ∘ .put) key data).run mymap =
      (Throwing.attempts (fails ∘ .put) insertPoints >>= fun _ => do
        modify (fun mymap => mymap.insert (key, data))
        return true).run (match mymap.find key with
          | some _ => mymap.eraseFound key
          | none => mymap) := rfl
  rw [hr, Throwing.run_attempts_bind, Failures.outcome, hp, List.find?_map, hb]
  cases insertPoints.find? (fails ∘ .put) with
  | none => rfl
  | some p => simp [thrown, he, eraseFound_eq_erase h]

end Multimap

lemma thrown_localPop {T : Type} [Inhabited T] {first : σ → Option T} {remove : σ → σ}
    {reply : Bool × T → Res} (hr : F.reads o = o)
    (hb : (body o).run s = match first s with
      | some value => (reply (true, value), remove s)
      | none => (reply (false, default), s))
    (hp : ∀ found, F.points o (reply found) = if found.1 then [.pop .value, .pop .result] else [])
    (hv : F.effect o (.pop .value) = none) (he : F.effect o (.pop .result) = some o) :
    thrown reply .pop ((localPop (fails ∘ .pop) first remove).run s) =
      F.outcome (fun o => (body o).run) (o, fails) s := by
  rw [Failures.outcome, hr]
  cases hf : first s with
  | none =>
    rw [hf] at hb
    simp [run_none hf, hb, hp, thrown]
  | some value =>
    rw [hf] at hb
    cases h₁ : fails (.pop .value) <;> cases h₂ : fails (.pop .result) <;>
      simp [run_some hf, hb, hp, hv, he, h₁, h₂, thrown]

end Programs

namespace Map

variable {KeyType MappedType : Type} {Compare : KeyType → KeyType → Prop} [DecidableRel Compare]
variable [IsStrictWeakOrder KeyType Compare] [LT KeyType] [DecidableLT KeyType] [Inhabited MappedType]

def throwingLocalPutBody (fails : FailurePoint → Bool) (key : KeyType) (data : MappedType) :
    ExceptT FailurePoint (Code (MyMap KeyType MappedType Compare)) Bool :=
  putOnceBody fails (fun mymap =>
    match mymap.find key with
    | some _ => [.assignValue]
    | none => [.allocate, .nodeKey, .nodeValue]) (localPut key data)

variable (Compare) in
def failures : Failures (ServerCall KeyType MappedType) (ServerAnswer KeyType MappedType)
    (MyMap KeyType MappedType Compare) FailurePoint where
  reads
    | .op (.put key _) => .op (.get key)
    | o => o
  points
    | .op (.put _ _), .op (.get (true, _)) => [.put .assignValue]
    | .op (.put _ _), _ => [.put .allocate, .put .nodeKey, .put .nodeValue]
    | _, _ => []
  effect _ _ := none
  body
    | .op (.put key data), fails => ExceptT.run do
      return .op (.put (← throwingLocalPutBody fails key data))
    | o, _ => succeeding (body o)

lemma failures_describes : (failures Compare).Describes
    (body : ServerCall KeyType MappedType → _) fun _ => True := by
  rintro ⟨o, fails⟩ mymap -
  cases o with
  | op o =>
    cases o with
    | put key data =>
      refine (run_reply run_putOnceBody).trans (thrown_putOnce rfl ?_ fun _ => rfl)
      change (failures Compare).points _ ((body (.op (.get key))).run mymap).1 = _
      rw [run_body, serverHandle, handle, localGet]
      cases mymap.find key <;> rfl
    | get key => exact run_succeeding_outcome body rfl
    | erase key => exact run_succeeding_outcome body rfl
  | containsInServer s key_start key_end => exact run_succeeding_outcome body rfl
  | getAllDataInServer s => exact run_succeeding_outcome body rfl

end Map

namespace Multimap

variable {KeyType MappedType : Type} {Compare : KeyType → KeyType → Prop} [DecidableRel Compare]
variable [IsStrictWeakOrder KeyType Compare] [Inhabited MappedType]
variable (Contains : KeyType → KeyType → Bool)

omit [Inhabited MappedType] in
/-- Between the two calls the key has no entry, also when the second one throws. -/
def throwingLocalPutBody (fails : FailurePoint → Bool) (key : KeyType) (data : MappedType) :
    ExceptT FailurePoint (Code (MyMap KeyType MappedType Compare)) Bool := do
  match ← ExceptT.lift (Code.read fun mymap => mymap.find key) with
  | some _ => ExceptT.lift (Code.update fun mymap => mymap.eraseFound key)
  | none => pure ()
  Failures.attempts fails (insertPoints.map .put)
  ExceptT.lift (Code.update fun mymap => mymap.insert (key, data))
  return true

omit [Inhabited MappedType] in
lemma run_throwingLocalPutBody {fails : FailurePoint → Bool} {key : KeyType} {data : MappedType}
    {mymap : MyMap KeyType MappedType Compare} :
    Code.run (throwingLocalPutBody fails key data).run mymap =
      thrown id .put ((multimapLocalPut (fails ∘ .put) key data).run mymap) := by
  have hr : (multimapLocalPut (fails ∘ .put) key data).run mymap =
      (Throwing.attempts (fails ∘ .put) insertPoints >>= fun _ => do
        modify (fun mymap => mymap.insert (key, data))
        return true).run (match mymap.find key with
          | some _ => mymap.eraseFound key
          | none => mymap) := rfl
  have hx : Code.run (throwingLocalPutBody fails key data).run mymap =
      Code.run (Failures.attempts fails (insertPoints.map .put) >>= fun _ => do
        ExceptT.lift (Code.update fun mymap => mymap.insert (key, data))
        return true : ExceptT FailurePoint (Code (MyMap KeyType MappedType Compare)) Bool).run
        (match mymap.find key with
          | some _ => mymap.eraseFound key
          | none => mymap) := by
    rw [throwingLocalPutBody, Failures.run_throwing_bind]
    change Code.run (ExceptT.run (match mymap.find key with | some _ => _ | none => _)) mymap = _
    cases mymap.find key <;> rfl
  rw [hx, hr, Throwing.run_attempts_bind, Failures.run_attempts_bind, List.find?_map]
  cases insertPoints.find? (fails ∘ .put) <;> rfl

variable (Compare) in
/-- A put that throws has erased its key. -/
def failures : Failures (ServerCall KeyType MappedType) (ServerAnswer KeyType MappedType)
    (MyMap KeyType MappedType Compare) FailurePoint where
  reads o := o
  points
    | .op (.put _ _), _ => insertPoints.map .put
    | _, _ => []
  effect
    | .op (.put key _), _ => some (.op (.erase key))
    | _, _ => none
  body
    | .op (.put key data), fails => ExceptT.run do
      return .op (.put (← throwingLocalPutBody fails key data))
    | o, _ => succeeding (body Contains o)

lemma failures_describes : (failures Compare Contains).Describes
    (body Contains : ServerCall KeyType MappedType → _) MultiTree.Unique := by
  rintro ⟨o, fails⟩ mymap hu
  cases o with
  | op o =>
    cases o with
    | put key data =>
      refine (run_reply run_throwingLocalPutBody).trans
        (thrown_multimapLocalPut hu ?_ (fun _ => rfl) fun _ => rfl)
      rw [run_body]
      rfl
    | get key => exact run_succeeding_outcome (body Contains) rfl
    | erase key => exact run_succeeding_outcome (body Contains) rfl
  | containsInServer s key => exact run_succeeding_outcome (body Contains) rfl
  | getAllDataInServer s => exact run_succeeding_outcome (body Contains) rfl

end Multimap

namespace Set

variable {KeyType : Type} {Compare : KeyType → KeyType → Prop} [DecidableRel Compare]
variable [IsStrictWeakOrder KeyType Compare] [Inhabited KeyType]
variable [LT KeyType] [DecidableLT KeyType] [LE KeyType] [DecidableLE KeyType]

def throwingLocalPutBody (fails : FailurePoint → Bool) (key : KeyType) :
    ExceptT FailurePoint (Code (MySet KeyType Compare)) Bool :=
  putOnceBody fails (fun myset =>
    match myset.find key with
    | some _ => []
    | none => [.allocate, .nodeKey]) (localPut key)

def throwingLocalPopFirstBody (fails : FailurePoint → Bool) :
    ExceptT FailurePoint (Code (MySet KeyType Compare)) (Bool × KeyType) :=
  throwingPopBody fails Tree.size (fun myset => myset.begin.deref.getD default) Tree.eraseBegin

variable (Compare) in
def failures : Failures (LockedCall KeyType) (ServerAnswer KeyType)
    (MySet KeyType Compare) FailurePoint where
  reads
    | ⟨.op (.put key), _⟩ => ⟨.op (.get key), rfl⟩
    | o => o
  points
    | ⟨.op (.put _), _⟩, .op (.get false) => [.put .allocate, .put .nodeKey]
    | ⟨.op (.popFirst _), _⟩, .op (.popFirst (true, _)) => [.pop .value, .pop .result]
    | _, _ => []
  effect
    | ⟨.op (.popFirst key_int), _⟩, .pop .result => some ⟨.op (.popFirst key_int), rfl⟩
    | _, _ => none
  body
    | ⟨.op (.put key), _⟩, fails => ExceptT.run do
      return .op (.put (← throwingLocalPutBody fails key))
    | ⟨.op (.popFirst _), _⟩, fails => ExceptT.run do
      return .op (.popFirst (← throwingLocalPopFirstBody fails))
    | o, _ => succeeding (body o)

lemma failures_describes : (failures Compare).Describes
    (body : LockedCall KeyType → _) fun _ => True := by
  rintro ⟨⟨o, ho⟩, fails⟩ myset -
  cases o with
  | op o =>
    cases o with
    | put key =>
      refine (run_reply run_putOnceBody).trans (thrown_putOnce rfl ?_ fun _ => rfl)
      change (failures Compare).points _ ((body ⟨.op (.get key), rfl⟩).run myset).1 = _
      rw [run_body, serverHandle, handle, localGet]
      cases myset.find key <;> rfl
    | get key => exact run_succeeding_outcome body rfl
    | erase key => exact run_succeeding_outcome body rfl
    | seekFirst key_int => exact run_succeeding_outcome body rfl
    | popFirst key_int =>
      have hf (myset : MySet KeyType Compare) : myset.entries.head? =
          if myset.size > 0 then some (myset.begin.deref.getD default) else none := by
        cases he : myset.entries <;> simp [Tree.size, Tree.begin, Iterator.start, Iterator.deref, he]
      refine (run_reply (run_throwingPopBody hf)).trans (thrown_localPop rfl ?_ (fun found => ?_) rfl rfl)
      · rw [run_body]
        change (ServerAnswer.op (.popFirst (localPopFirst myset).1), (localPopFirst myset).2) = _
        cases he : myset.entries with
        | nil => simp [localPopFirst_empty he]
        | cons k l => simp [localPopFirst, Tree.size, Tree.first, he]
      · obtain ⟨found, value⟩ := found
        cases found <;> rfl
    | size key_int => cases ho
  | containsInServer s key_start key_end => exact run_succeeding_outcome body rfl
  | getAllDataInServer s => exact run_succeeding_outcome body rfl

end Set

namespace UnorderedMap

variable {KeyType MappedType : Type} [DecidableEq KeyType] [Inhabited MappedType]

def putPoints (found : Bool × MappedType) : List FailurePoint :=
  if found.1 then [.put .assignValue]
  else [.put .allocate, .put .nodeKey, .put .nodeValue, .put .allocateBuckets]

omit [Inhabited MappedType] in
def throwingLocalPutBody (fails : FailurePoint → Bool) (key : KeyType) (data : MappedType) :
    ExceptT FailurePoint (Code (MyHashMap KeyType MappedType)) Bool :=
  putOnceBody fails (fun myHashMap =>
    match myHashMap.lookup key with
    | some _ => [.assignValue]
    | none => [.allocate, .nodeKey, .nodeValue, .allocateBuckets]) (localPut key data)

/-- `GetWithCallback` reads the server that `Put` writes to. -/
def failures : Failures (Op KeyType MappedType) (Reply MappedType) (MyHashMap KeyType MappedType)
    FailurePoint where
  reads
    | .put key _ => .getWithCallback key
    | .putWithCallback key _ => .getWithCallback key
    | o => o
  points
    | .put _ _, .get found => putPoints found
    | .putWithCallback _ _, .get found => putPoints found
    | _, _ => []
  effect _ _ := none
  body
    | .put key data, fails => ExceptT.run do
      return .put (← throwingLocalPutBody fails key data)
    | .putWithCallback key data, fails => ExceptT.run do
      return .put (← throwingLocalPutBody fails key data)
    | o, _ => succeeding (body o)

lemma failures_describes : failures.Describes (body : Op KeyType MappedType → _) fun _ => True := by
  rintro ⟨o, fails⟩ myHashMap -
  have hget (key : KeyType) : ((body (.getWithCallback key)).run myHashMap).1 =
      .get (localGet key myHashMap) := by
    rw [run_body]
    rfl
  have hput (key : KeyType) : putPoints (localGet key myHashMap) =
      (match myHashMap.lookup key with
      | some _ => [PutPoint.assignValue]
      | none => [.allocate, .nodeKey, .nodeValue, .allocateBuckets]).map .put := by
    rw [localGet]
    cases myHashMap.lookup key <;> rfl
  cases o with
  | put key data =>
    exact (run_reply run_putOnceBody).trans
      (thrown_putOnce rfl ((congrArg (failures.points _) (hget key)).trans (hput key)) fun _ => rfl)
  | putWithCallback key data =>
    exact (run_reply run_putOnceBody).trans
      (thrown_putOnce rfl ((congrArg (failures.points _) (hget key)).trans (hput key)) fun _ => rfl)
  | get key => exact run_succeeding_outcome body rfl
  | getWithCallback key => exact run_succeeding_outcome body rfl
  | erase key => exact run_succeeding_outcome body rfl
  | eraseWithCallback key => exact run_succeeding_outcome body rfl

end UnorderedMap

namespace Queue

variable {MappedType : Type} [Inhabited MappedType]

def failures : Failures (Op MappedType) (Reply MappedType) (List MappedType) FailurePoint where
  reads o := o
  points
    | .push _ _, _ => [.put .allocate, .put .nodeValue]
    | .pop _, .pop (true, _) => [.pop .value, .pop .result]
    | _, _ => []
  effect
    | .pop key_int, .pop .result => some (.pop key_int)
    | _, _ => none
  body
    | .push data _, fails => ExceptT.run do
      return .push (← putOnceBody fails (fun _ => [.allocate, .nodeValue]) (localPush data))
    | .pop _, fails => ExceptT.run do
      return .pop (← throwingPopBody fails List.length (fun my_queue => my_queue.head?.getD default) List.tail)
    | o, _ => succeeding (body o)

lemma failures_describes : failures.Describes (body : Op MappedType → _) fun _ => True := by
  rintro ⟨o, fails⟩ my_queue -
  cases o with
  | push data key_int =>
    exact (run_reply run_putOnceBody).trans (thrown_putOnce rfl rfl fun _ => rfl)
  | pop key_int =>
    have hf (my_queue : List MappedType) : my_queue.head? =
        if my_queue.length > 0 then some (my_queue.head?.getD default) else none := by
      cases my_queue <;> simp
    refine (run_reply (run_throwingPopBody hf)).trans (thrown_localPop rfl ?_ (fun found => ?_) rfl rfl)
    · rw [run_body]
      cases my_queue <;> rfl
    · obtain ⟨found, value⟩ := found
      cases found <;> rfl
  | size key_int => exact run_succeeding_outcome body rfl

end Queue

namespace PriorityQueue

variable {MappedType : Type} [Inhabited MappedType] {Compare : MappedType → MappedType → Prop}
variable (Q : StdPriorityQueue.{0, 0} MappedType Compare)

/-- The heap is put in order with moves and comparisons, which do not throw. -/
def failures : Failures (Op MappedType) (Reply MappedType) Q.Carrier FailurePoint where
  reads o := o
  points
    | .push _ _, _ => [.put .allocate, .put .nodeValue]
    | .pop _, .pop (true, _) => [.pop .value, .pop .result]
    | _, _ => []
  effect
    | .pop key_int, .pop .result => some (.pop key_int)
    | _, _ => none
  body
    | .push data _, fails => ExceptT.run do
      return .push (← putOnceBody fails (fun _ => [.allocate, .nodeValue]) (localPush Q data))
    | .pop _, fails => ExceptT.run do
      return .pop (← throwingPopBody fails Q.size (top? Q)
        (fun queue => if h : Q.size queue > 0 then Q.pop queue h else queue))
    | o, _ => succeeding (body Q o)

lemma failures_describes : (failures Q).Describes (body Q) fun _ => True := by
  rintro ⟨o, fails⟩ queue -
  cases o with
  | push data key_int =>
    exact (run_reply run_putOnceBody).trans (thrown_putOnce rfl rfl fun _ => rfl)
  | pop key_int =>
    have hf (queue : Q.Carrier) : (if h : Q.size queue > 0 then some (Q.top queue h) else none) =
        if Q.size queue > 0 then some (top? Q queue) else none := by
      split_ifs with h <;> simp [top?, h]
    refine (run_reply (run_throwingPopBody hf)).trans (thrown_localPop rfl ?_ (fun found => ?_) rfl rfl)
    · rw [run_body]
      change (Reply.pop (localPop Q queue).1, (localPop Q queue).2) = _
      rw [localPop]
      split_ifs <;> rfl
    · obtain ⟨found, value⟩ := found
      cases found <;> rfl
  | top key_int => exact run_succeeding_outcome (body Q) rfl
  | size key_int => exact run_succeeding_outcome (body Q) rfl

end PriorityQueue

namespace System

variable {Client : Type} (D : Deployment Client)

namespace Container

def failures : (x : Container) →
    Failures (x.object D).Op (x.object D).Res (x.object D).Data FailurePoint
  | map _ _ Compare _ => Map.failures Compare
  | multimap _ _ Contains Compare _ => Multimap.failures Compare Contains
  | set _ Compare _ => Set.failures Compare
  | unorderedMap _ _ _ => UnorderedMap.failures
  | queue _ => Queue.failures
  | priorityQueue _ _ Q => PriorityQueue.failures Q
  | globalSequence => .never Sequencer.body
  | globalClock _ => .never GlobalClock.body

def Valid : (x : Container) → (x.object D).Data → Prop
  | multimap _ _ _ _ _ => MultiTree.Unique
  | _ => fun _ => True

variable {D}

lemma failures_describes (x : Container) :
    (x.failures D).Describes (x.object D).body (x.Valid D) := by
  cases x with
  | map => exact Map.failures_describes
  | multimap KeyType MappedType Contains => exact Multimap.failures_describes Contains
  | set => exact Set.failures_describes
  | unorderedMap => exact UnorderedMap.failures_describes
  | queue => exact Queue.failures_describes
  | priorityQueue MappedType Compare Q => exact PriorityQueue.failures_describes Q
  | globalSequence => exact Failures.never_describes
  | globalClock readings => exact Failures.never_describes

lemma valid (x : Container) {shard : UInt16 → (x.object D).Data}
    {a : (x.specification D).Abstract} (hR : (x.specification D).Represents shard a) (s : UInt16) :
    x.Valid D (shard s) := by
  cases x with
  | multimap KeyType MappedType Contains Compare keyHash =>
    obtain ⟨hu, hp⟩ := hR
    rw [hp s]
    exact hu.part
  | _ => trivial

lemma reads_dispatch (x : Container) (c : Client) (o : (x.object D).Op) :
    (x.object D).dispatch c ((x.failures D).reads o) = (x.object D).dispatch c o := by
  cases x with
  | map =>
    rcases o with (_ | _ | _) | _ | _ <;> rfl
  | set =>
    obtain ⟨(_ | _ | _ | _ | _ | _) | _ | _, _⟩ := o <;> rfl
  | unorderedMap => cases o <;> rfl
  | _ => rfl

lemma effect_dispatch (x : Container) (c : Client) {o o' : (x.object D).Op}
    {p : FailurePoint} (h : (x.failures D).effect o p = some o') :
    (x.object D).dispatch c o' = (x.object D).dispatch c o := by
  cases x with
  | multimap =>
    rcases o with (_ | _ | _) | _ | _ <;> cases h
    rfl
  | set =>
    obtain ⟨(_ | _ | _ | _ | _ | _) | _ | _, _⟩ := o <;> rcases p with _ | _ | _ <;> cases h
    rfl
  | queue =>
    cases o <;> rcases p with _ | _ | _ <;> cases h
    rfl
  | priorityQueue =>
    cases o <;> rcases p with _ | _ | _ <;> cases h
    rfl
  | _ => cases h

end Container

section Programs

variable {Obj : Type} (containers : Obj → Container)

abbrev throwingObjects (x : Obj) : Object Client UInt16 :=
  Failures.object (objects D containers x) ((containers x).failures D)

variable {D containers} [DecidableEq Client] [DecidableEq Obj] {threads : ℕ}
variable {h : List (Linearizability.Event ℕ (Client × Operation (throwingObjects D containers))
  (Result (throwingObjects D containers)))}
variable {st : CriticalSection.State (system (my_server D) (throwingObjects D containers)) threads}

theorem failures_linearizable (hl : ∀ x, (containers x).Lawful D)
    (hr : CriticalSection.Run (system (my_server D) (throwingObjects D containers)) threads
      (constructed D containers) h st) :
    Linearizable (spec (throwingObjects D containers) fun x =>
        Failures.specification (objects D containers x) ((containers x).failures D)
          ((containers x).specification D))
      (fun x => (containers x).initialAbstract D) h :=
  linearizes (fun x => Failures.meets (Container.meets (hl x)) (containers x).failures_describes
      (fun _ _ s hR => (containers x).valid hR s) (containers x).reads_dispatch
      fun c _ _ _ he => (containers x).effect_dispatch c he)
    (fun x => (containers x).represents_initial) hr

/-- There is no memory for the 8 that replaces the 7 under the key 1, and then there is neither. -/
theorem failures_linearizable_pair :
    Linearizable
      (spec (throwingObjects .pair queueAndMultimap) fun x =>
        Failures.specification (objects .pair queueAndMultimap x) ((queueAndMultimap x).failures .pair)
          ((queueAndMultimap x).specification .pair))
      (fun x => (queueAndMultimap x).initialAbstract .pair)
      [.invoke 0 (true, ⟨false, .op (.put 1 7), fun _ => false⟩),
        .respond 0 ⟨false, .ok (.op (.put true))⟩,
        .invoke 1 (true, ⟨false, .op (.put 1 8), (· == .put .allocate)⟩),
        .respond 1 ⟨false, .error (.put .allocate)⟩,
        .invoke 2 (true, ⟨false, .op (.get 1), fun _ => false⟩),
        .respond 2 ⟨false, .ok (.op (.get (false, 0)))⟩] := by
  have hn : CriticalSection.Run (system (my_server .pair) (throwingObjects .pair queueAndMultimap)) 1
    (constructed .pair queueAndMultimap) [] _ := .nil
  have h₁ := hn.snoc
    (.here (c := true) (o := ⟨false, .op (.put 1 7), fun _ => false⟩) rfl (by decide))
  have h₂ := h₁.snoc (.lock (c := true) rfl rfl)
  have h₃ := h₂.snoc (.work (c := true) rfl)
  have h₄ := h₃.snoc (.work (c := true) rfl)
  have h₅ := h₄.snoc (.work (c := true) rfl)
  have h₆ := h₅.snoc (.work (c := true) rfl)
  have h₇ := h₆.snoc (.work (c := true) rfl)
  have h₈ := h₇.snoc (.work (c := true) rfl)
  have h₉ := h₈.snoc (.work (c := true) rfl)
  have h₁₀ := h₉.snoc (.unlock (c := true) rfl)
  have h₁₁ := h₁₀.snoc (.reply (c := true) rfl)
  have h₁₂ := h₁₁.snoc
    (.here (c := true) (o := ⟨false, .op (.put 1 8), (· == .put .allocate)⟩) rfl (by decide))
  have h₁₃ := h₁₂.snoc (.lock (c := true) rfl rfl)
  have h₁₄ := h₁₃.snoc (.work (c := true) rfl)
  have h₁₅ := h₁₄.snoc (.work (c := true) rfl)
  have h₁₆ := h₁₅.snoc (.work (c := true) rfl)
  have h₁₇ := h₁₆.snoc (.work (c := true) rfl)
  have h₁₈ := h₁₇.snoc (.work (c := true) rfl)
  have h₁₉ := h₁₈.snoc (.unlock (c := true) rfl)
  have h₂₀ := h₁₉.snoc (.reply (c := true) rfl)
  have h₂₁ := h₂₀.snoc
    (.here (c := true) (o := ⟨false, .op (.get 1), fun _ => false⟩) rfl (by decide))
  have h₂₂ := h₂₁.snoc (.lock (c := true) rfl rfl)
  have h₂₃ := h₂₂.snoc (.work (c := true) rfl)
  have h₂₄ := h₂₃.snoc (.unlock (c := true) rfl)
  exact failures_linearizable queueAndMultimap_lawful (h₂₄.snoc (.reply (c := true) rfl))

end Programs

end System

end Basket
