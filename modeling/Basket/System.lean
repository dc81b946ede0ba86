import Basket.Bodies
import Basket.Library.Objects
import Basket.PriorityQueue.Sequential
import Basket.UnorderedMap.Sequential

/-! A program of many processes that uses any collection of containers at once, every operation
statement by statement under the mutex of its object. -/

namespace Basket.System

open Library Cluster Communication Linearizability CriticalSection Objects

/-- What a program may construct, with the type parameters and the hash that it brings. -/
inductive Container : Type 1
  | map (KeyType MappedType : Type) [LT KeyType] [DecidableLT KeyType] [Inhabited MappedType]
      (Compare : KeyType → KeyType → Prop) [DecidableRel Compare] [IsStrictWeakOrder KeyType Compare]
      (keyHash : KeyType → UInt64)
  | multimap (KeyType MappedType : Type) [Inhabited MappedType] (Contains : KeyType → KeyType → Bool)
      (Compare : KeyType → KeyType → Prop) [DecidableRel Compare] [IsStrictWeakOrder KeyType Compare]
      (keyHash : KeyType → UInt64)
  | set (KeyType : Type) [LT KeyType] [DecidableLT KeyType] [LE KeyType] [DecidableLE KeyType]
      [Inhabited KeyType] (Compare : KeyType → KeyType → Prop) [DecidableRel Compare]
      [IsStrictWeakOrder KeyType Compare] (keyHash : KeyType → UInt64)
  | unorderedMap (KeyType MappedType : Type) [DecidableEq KeyType] [Inhabited MappedType]
      (keyHash : KeyType → UInt64)
  | queue (MappedType : Type) [Inhabited MappedType]
  | priorityQueue (MappedType : Type) [Inhabited MappedType] (Compare : MappedType → MappedType → Prop)
      [DecidableRel Compare] [IsStrictWeakOrder MappedType Compare]
      (Q : StdPriorityQueue.{0, 0} MappedType Compare)
  | globalSequence
  | globalClock (readings : UInt16 → ℕ → ℤ)

variable {Client : Type} (D : Deployment Client)

def my_server (c : Client) : UInt16 := (D.process c).my_server

namespace Container

/-- The calls and their bodies, all under the mutex. `Size` of a set and `WaitForElement` of a queue read
without it, `SeekFirstN` does not compile, and `GetAllData` of an unordered map answers in the order of its
buckets: they are left out here. -/
def object : Container → Object Client UInt16
  | map KeyType MappedType Compare keyHash =>
    { Op := Map.ServerCall KeyType MappedType
      Res := Map.ServerAnswer KeyType MappedType
      Data := Map.MyMap KeyType MappedType Compare
      dispatch := Map.serverDispatch D keyHash
      body := Map.body }
  | multimap KeyType MappedType Contains Compare keyHash =>
    { Op := Multimap.ServerCall KeyType MappedType
      Res := Multimap.ServerAnswer KeyType MappedType
      Data := Multimap.MyMap KeyType MappedType Compare
      dispatch := Multimap.serverDispatch D keyHash
      body := Multimap.body Contains }
  | set KeyType Compare keyHash =>
    { Op := Set.LockedCall KeyType
      Res := Set.ServerAnswer KeyType
      Data := Set.MySet KeyType Compare
      dispatch := (Set.serverService Compare D keyHash).dispatch
      body := Set.body }
  | unorderedMap KeyType MappedType keyHash =>
    { Op := UnorderedMap.Op KeyType MappedType
      Res := Reply MappedType
      Data := UnorderedMap.MyHashMap KeyType MappedType
      dispatch := (UnorderedMap.service D keyHash).dispatch
      body := UnorderedMap.body }
  | queue MappedType =>
    { Op := Queue.Op MappedType
      Res := Queue.Reply MappedType
      Data := List MappedType
      dispatch := (Queue.service D).dispatch
      body := Queue.body }
  | priorityQueue MappedType _ Q =>
    { Op := PriorityQueue.Op MappedType
      Res := PriorityQueue.Reply MappedType
      Data := Q.Carrier
      dispatch := (PriorityQueue.service D Q).dispatch
      body := PriorityQueue.body Q }
  | globalSequence =>
    { Op := Sequencer.Op
      Res := UInt64
      Data := UInt64
      dispatch := (Sequencer.service D).dispatch
      body := Sequencer.body }
  | globalClock _ =>
    { Op := GlobalClock.Op
      Res := UInt64
      Data := GlobalClock.Clock
      dispatch := (GlobalClock.service D).dispatch
      body := GlobalClock.body }

def initial (s : UInt16) : (x : Container) → (x.object D).Data
  | map _ _ _ _ => Tree.empty
  | multimap _ _ _ _ _ => MultiTree.empty
  | set _ _ _ => Tree.empty
  | unorderedMap _ _ _ => (∅ : AList _)
  | queue _ => []
  | priorityQueue _ _ Q => Q.empty
  | globalSequence => (0 : UInt64)
  | globalClock readings => GlobalClock.constructed (readings s)

def specification : (x : Container) → Specification (x.object D)
  | map _ _ Compare keyHash =>
    { Abstract := Map.MyMap _ _ Compare
      spec := fun _ => Map.sequential (D.home keyHash)
      Represents := Map.Parts (D.home keyHash) }
  | multimap _ _ Contains Compare keyHash =>
    { Abstract := Multimap.MyMap _ _ Compare
      spec := fun _ => Multimap.sequential Contains (D.home keyHash)
      Represents := Multimap.Parts (D.home keyHash) }
  | set _ Compare keyHash =>
    { Abstract := Set.MySet _ Compare
      spec := fun _ o => Set.sequential (D.home keyHash) o.1
      Represents := Set.Parts (D.home keyHash) }
  | unorderedMap KeyType MappedType keyHash =>
    { Abstract := KeyType → Option MappedType
      spec := fun _ => UnorderedMap.sequential
      Represents := UnorderedMap.Represents (D.home keyHash) }
  | queue MappedType =>
    { Abstract := UInt16 → List MappedType
      spec := perServer (Queue.service D)
      Represents := Eq }
  | priorityQueue MappedType Compare Q =>
    { Abstract := UInt16 → (StdPriorityQueue.sequence : StdPriorityQueue MappedType Compare).Carrier
      spec := fun _ => PriorityQueue.sequential
      Represents := PriorityQueue.Represents Q }
  | globalSequence =>
    { Abstract := UInt16 → UInt64
      spec := perServer (Sequencer.service D)
      Represents := Eq }
  | globalClock _ =>
    { Abstract := UInt16 → GlobalClock.Clock
      spec := perServer (GlobalClock.service D)
      Represents := Eq }

def initialAbstract : (x : Container) → (x.specification D).Abstract
  | map _ _ Compare _ => (Tree.empty : Map.MyMap _ _ Compare)
  | multimap _ _ _ Compare _ => (MultiTree.empty : Multimap.MyMap _ _ Compare)
  | set _ Compare _ => (Tree.empty : Set.MySet _ Compare)
  | unorderedMap _ _ _ => fun _ => none
  | queue _ => fun _ => []
  | priorityQueue _ _ _ => fun _ => StdPriorityQueue.sequence.empty
  | globalSequence => fun _ => 0
  | globalClock readings => fun s => GlobalClock.constructed (readings s)

/-- Where `keyHash` takes equivalent keys to different servers, or the casts of an unordered map disagree,
an object is not one object for its clients. -/
def Lawful : Container → Prop
  | map _ _ Compare keyHash => ∀ a b, IncompRel Compare a b → keyHash a = keyHash b
  | multimap _ _ _ Compare keyHash => ∀ a b, IncompRel Compare a b → keyHash a = keyHash b
  | set KeyType Compare _ => IsStrictTotalOrder KeyType Compare
  | unorderedMap _ _ keyHash => UnorderedMap.Agree D.num_servers keyHash
  | priorityQueue MappedType Compare _ => IsStrictTotalOrder MappedType Compare
  | _ => True

variable {D}

lemma represents_initial (x : Container) :
    (x.specification D).Represents (fun s => x.initial D s) (x.initialAbstract D) := by
  cases x with
  | map => exact fun _ => rfl
  | multimap => exact ⟨.nil, fun _ => rfl⟩
  | set => exact fun _ => rfl
  | unorderedMap => exact fun _ => rfl
  | queue => rfl
  | priorityQueue MappedType Compare Q =>
    exact fun _ => Q.contents_empty.trans (StdPriorityQueue.contents_empty _).symm
  | globalSequence => rfl
  | globalClock readings => rfl

lemma meets {x : Container} (hl : x.Lawful D) : (x.object D).Meets (my_server D) (x.specification D) := by
  cases x with
  | map KeyType MappedType Compare keyHash =>
    exact Object.meets_of_simulates (Map.serverService Compare D keyHash) rfl rfl Map.run_body
      (Map.sequential_simulates hl)
  | multimap KeyType MappedType Contains Compare keyHash =>
    exact Object.meets_of_simulates (Multimap.serverService Compare Contains D keyHash) rfl rfl
      (Multimap.run_body Contains) (Multimap.sequential_simulates Contains hl)
  | set KeyType Compare keyHash =>
    have : IsStrictTotalOrder KeyType Compare := hl
    exact Object.meets_of_simulates (Set.serverService Compare D keyHash) rfl rfl Set.run_body
      Set.sequential_simulates
  | unorderedMap KeyType MappedType keyHash =>
    exact Object.meets_of_simulates (UnorderedMap.service D keyHash) rfl rfl UnorderedMap.run_body
      (UnorderedMap.sequential_simulates hl)
  | queue MappedType =>
    refine Object.meets_of_simulates (Queue.service D) rfl rfl Queue.run_body ?_
    rintro c o shard _ rfl
    exact ⟨rfl, rfl⟩
  | priorityQueue MappedType Compare Q =>
    have : IsStrictTotalOrder MappedType Compare := hl
    exact Object.meets_of_simulates (PriorityQueue.service D Q) rfl rfl (PriorityQueue.run_body Q)
      PriorityQueue.sequential_simulates
  | globalSequence =>
    refine Object.meets_of_simulates (Sequencer.service D) rfl rfl Sequencer.run_body ?_
    rintro c o shard _ rfl
    exact ⟨rfl, rfl⟩
  | globalClock readings =>
    refine Object.meets_of_simulates (GlobalClock.service D) rfl rfl GlobalClock.run_body ?_
    rintro c o shard _ rfl
    exact ⟨rfl, rfl⟩

end Container

section Programs

variable {Obj : Type} (containers : Obj → Container)

abbrev objects (x : Obj) : Object Client UInt16 := (containers x).object D

abbrev program := system (my_server D) (objects D containers)

def constructed (s : UInt16) (x : Obj) : (objects D containers x).Data := (containers x).initial D s

abbrev History := List (Linearizability.Event ℕ (Client × Operation (objects D containers))
  (Result (objects D containers)))

variable {D containers} [DecidableEq Client] [DecidableEq Obj] {threads : ℕ}
variable {h : History D containers} {st : CriticalSection.State (program D containers) threads}

theorem system_linearizable (hl : ∀ x, (containers x).Lawful D)
    (hr : CriticalSection.Run (program D containers) threads (constructed D containers) h st) :
    Linearizable (spec (objects D containers) fun x => (containers x).specification D)
      (fun x => (containers x).initialAbstract D) h :=
  linearizes (fun x => Container.meets (hl x)) (fun x => (containers x).represents_initial) hr

def queueAndMultimap : Bool → Container
  | true => .queue ℕ
  | false => .multimap ℕ ℕ (· == ·) (· < ·) UInt64.ofNat

lemma queueAndMultimap_lawful (x : Bool) : (queueAndMultimap x).Lawful .pair := by
  cases x with
  | false => exact fun a b h => congrArg UInt64.ofNat (SortedSequence.incomp_iff_eq.mp h)
  | true => trivial

/-- A push to the queue is served while a put into the multimap is between two of its statements. -/
theorem system_linearizable_pair :
    Linearizable
      (spec (objects .pair queueAndMultimap) fun x => (queueAndMultimap x).specification .pair)
      (fun x => (queueAndMultimap x).initialAbstract .pair)
      [.invoke 0 (true, ⟨false, .op (.put 1 7)⟩), .invoke 1 (false, ⟨true, .push 9 1⟩),
        .respond 1 ⟨true, .push true⟩, .respond 0 ⟨false, .op (.put true)⟩] := by
  have hn : CriticalSection.Run (program .pair queueAndMultimap) 1 (constructed .pair queueAndMultimap)
    [] _ := .nil
  have h₁ := hn.snoc (.here (c := true) (o := ⟨false, .op (.put 1 7)⟩) rfl (by decide))
  have h₂ := h₁.snoc (.request (c := false) (o := ⟨true, .push 9 1⟩) (s := 1) rfl (by decide))
  have h₃ := h₂.snoc (.lock (c := true) rfl rfl)
  have h₄ := h₃.snoc (.work (c := true) rfl)
  have h₅ := h₄.snoc (.take (c := false) (j := 0) rfl (by decide))
  have h₆ := h₅.snoc (.lock (c := false) rfl rfl)
  have h₇ := h₆.snoc (.work (c := false) rfl)
  have h₈ := h₇.snoc (.unlock (c := false) rfl)
  have h₉ := h₈.snoc (.reply (c := false) rfl)
  have h₁₀ := h₉.snoc (.work (c := true) rfl)
  have h₁₁ := h₁₀.snoc (.unlock (c := true) rfl)
  exact system_linearizable queueAndMultimap_lawful (h₁₁.snoc (.reply (c := true) rfl))

end Programs

end Basket.System
