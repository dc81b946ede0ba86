import Basket.Library.Linearizability
import Basket.Library.Parts
import Basket.Map.Model

/-! The distributed map is one local map: a key's operations act on it as on a server of its own, and
a server's walks see the keys that are at home there. -/

namespace Basket.Map

open Library Cluster Communication Linearizability

/-- The calls a client makes of one server: the operations on a key, and the parts of `Contains` and
`GetAllData`. -/
inductive ServerCall (KeyType MappedType : Type*)
  | op (o : Op KeyType MappedType)
  | containsInServer (s : UInt16) (key_start key_end : KeyType)
  | getAllDataInServer (s : UInt16)
  deriving DecidableEq, Repr

inductive ServerAnswer (KeyType MappedType : Type*)
  | op (r : Reply MappedType)
  | containsInServer (final_values : Option (List (KeyType × MappedType)))
  | getAllDataInServer (final_values : Option (List (KeyType × MappedType)))
  deriving DecidableEq, Repr

variable {KeyType MappedType Client : Type*}

def serverDispatch (D : Deployment Client) (keyHash : KeyType → UInt64) (c : Client) :
    ServerCall KeyType MappedType → Dispatch UInt16
  | .op (.put key _) => put D keyHash c key
  | .op (.get key) => get D keyHash c key
  | .op (.erase key) => erase D keyHash c key
  | .containsInServer s _ _ => (D.process c).askServer s
  | .getAllDataInServer s => (D.process c).askServer s

section Objects

variable {Compare : KeyType → KeyType → Prop} [DecidableRel Compare]
variable [IsStrictWeakOrder KeyType Compare] [LT KeyType] [DecidableLT KeyType] [Inhabited MappedType]

def serverHandle : ServerCall KeyType MappedType → MyMap KeyType MappedType Compare →
    ServerAnswer KeyType MappedType × MyMap KeyType MappedType Compare
  | .op o, mymap => (handle o mymap).map .op id
  | .containsInServer _ key_start key_end, mymap =>
    (.containsInServer (localContainsInServer key_start key_end mymap), mymap)
  | .getAllDataInServer _, mymap => (.getAllDataInServer (localGetAllDataInServer mymap), mymap)

variable (Compare) in
def serverService (D : Deployment Client) (keyHash : KeyType → UInt64) :
    Service Client UInt16 (ServerCall KeyType MappedType) (ServerAnswer KeyType MappedType)
      (MyMap KeyType MappedType Compare) where
  attached c := (D.process c).my_server
  dispatch := serverDispatch D keyHash
  handle := serverHandle

def ServerCall.server (home : KeyType → UInt16) : ServerCall KeyType MappedType → UInt16
  | op o => home o.key
  | containsInServer s _ _ => s
  | getAllDataInServer s => s

lemma serverService_server (D : Deployment Client) (keyHash : KeyType → UInt64) (c : Client)
    (o : ServerCall KeyType MappedType) :
    (serverService Compare D keyHash).server c o = o.server (D.home keyHash) := by
  cases o with
  | op o => cases o <;> exact Deployment.server_callServer rfl rfl
  | containsInServer s key_start key_end => exact Deployment.server_askServer rfl rfl
  | getAllDataInServer s => exact Deployment.server_askServer rfl rfl

/-- One map for all servers, where `home` tells the server of a key. -/
def sequential (home : KeyType → UInt16) : ServerCall KeyType MappedType →
    MyMap KeyType MappedType Compare → ServerAnswer KeyType MappedType × MyMap KeyType MappedType Compare
  | .op o, mymap => (handle o mymap).map .op id
  | .containsInServer s key_start key_end, mymap =>
    (.containsInServer (localContainsInServer key_start key_end (mymap.part home s)), mymap)
  | .getAllDataInServer s, mymap =>
    (.getAllDataInServer (localGetAllDataInServer (mymap.part home s)), mymap)

end Objects

variable {Compare : KeyType → KeyType → Prop} {home : KeyType → UInt16}

def Parts (home : KeyType → UInt16) (shard : UInt16 → MyMap KeyType MappedType Compare)
    (mymap : MyMap KeyType MappedType Compare) : Prop :=
  ∀ s, shard s = mymap.part home s

section Operations

variable [DecidableRel Compare] [IsStrictWeakOrder KeyType Compare] [Inhabited MappedType]
variable (hf : ∀ a b, IncompRel Compare a b → home a = home b)

include hf

lemma handle_part_reply (o : Op KeyType MappedType) (mymap : MyMap KeyType MappedType Compare) :
    (handle o (mymap.part home (home o.key))).1 = (handle o mymap).1 := by
  cases o with
  | put key data => rfl
  | get key =>
    change Reply.get (localGet key _) = Reply.get (localGet key _)
    rw [localGet_eq, localGet_eq, Op.key, Tree.find_part hf]
  | erase key =>
    change Reply.erase (localErase key _).1 = Reply.erase (localErase key _).1
    rw [localErase_eq, localErase_eq, Op.key, Tree.find_part hf]

lemma part_handle (o : Op KeyType MappedType) (mymap : MyMap KeyType MappedType Compare) :
    (handle o mymap).2.part home (home o.key) = (handle o (mymap.part home (home o.key))).2 := by
  cases o with
  | put key data => exact Tree.part_insertOrAssign hf (fun e x => (e.1, x.2)) (fun _ _ => rfl) (key, data)
  | get key => rfl
  | erase key => exact Tree.part_erase

lemma part_handle_other (o : Op KeyType MappedType) (mymap : MyMap KeyType MappedType Compare)
    {s : UInt16} (hs : s ≠ home o.key) : (handle o mymap).2.part home s = mymap.part home s := by
  cases o with
  | put key data => exact Tree.part_insertOrAssign_other hf (fun e x => (e.1, x.2)) (fun _ _ => rfl) hs
  | get key => rfl
  | erase key => exact Tree.part_erase.trans (Tree.part_erase_other hf hs)

end Operations

variable [DecidableRel Compare] [IsStrictWeakOrder KeyType Compare] [Inhabited MappedType]
variable [LT KeyType] [DecidableLT KeyType]
variable {D : Deployment Client} {keyHash : KeyType → UInt64}

lemma sequential_simulates (hc : ∀ a b, IncompRel Compare a b → keyHash a = keyHash b) :
    Simulates (serverService Compare D keyHash : Service Client UInt16 (ServerCall KeyType MappedType) _ _)
      (sequential (D.home keyHash)) (Parts (D.home keyHash)) := by
  have hf := D.home_congr hc
  intro c o shard mymap hp
  rw [serverService_server, Service.answer]
  cases o with
  | op o =>
    refine ⟨?_, fun s => ?_⟩
    · rw [ServerCall.server, hp]
      exact congrArg ServerAnswer.op (handle_part_reply hf o mymap)
    · by_cases hs : s = D.home keyHash o.key
      · subst hs
        rw [ServerCall.server, Service.apply_same, hp]
        exact (part_handle hf o mymap).symm
      · rw [ServerCall.server, Service.apply_other _ _ hs, hp]
        exact (part_handle_other hf o mymap hs).symm
  | containsInServer s key_start key_end =>
    refine ⟨by rw [ServerCall.server, hp]; rfl, ?_⟩
    simpa [Service.apply, serverService, serverHandle, sequential] using hp
  | getAllDataInServer s =>
    refine ⟨by rw [ServerCall.server, hp]; rfl, ?_⟩
    simpa [Service.apply, serverService, serverHandle, sequential] using hp

theorem walks_linearizable [DecidableEq Client] (hc : ∀ a b, IncompRel Compare a b → keyHash a = keyHash b)
    {tr : Trace Client UInt16 (ServerCall KeyType MappedType) (ServerAnswer KeyType MappedType)}
    {st : State Client UInt16 (ServerCall KeyType MappedType) (ServerAnswer KeyType MappedType)
      (MyMap KeyType MappedType Compare)}
    (h : Run (serverService Compare D keyHash) (fun _ => .empty) tr st) :
    Linearizable (sequential (D.home keyHash)) (.empty : MyMap KeyType MappedType Compare)
      (clientHistory tr) :=
  (sequential_simulates hc).linearizes (fun _ => rfl) h

/-- A walk over the second server that returns while a put is on its way there. -/
theorem walks_linearizable_pair :
    Linearizable (sequential (Deployment.pair.home UInt64.ofNat)) (.empty : MyMap ℕ ℕ (· < ·))
      [.invoke 0 (.op (.put 1 7)), .invoke 1 (.getAllDataInServer 1),
        .respond 1 (.getAllDataInServer (some [])), .respond 0 (.op (.put true))] := by
  have hn : Run (serverService (· < ·) .pair UInt64.ofNat :
      Service Bool UInt16 (ServerCall ℕ ℕ) _ _) (fun _ => .empty) [] _ := .nil
  have hp := hn.snoc (.request (c := false) (o := .op (.put 1 7)) (s := 1) rfl (by decide))
  have hg := hp.snoc (.here (c := true) (o := .getAllDataInServer 1) rfl (by decide))
  have hs := hg.snoc (.serve (c := false) rfl)
  have hr := hs.snoc (.reply (c := false) rfl)
  have hw : localGetAllDataInServer (.empty : MyMap ℕ ℕ (· < ·)) = some [] := localGetAllDataInServer_eq
  rw [← hw]
  exact walks_linearizable (fun a b h => by rw [SortedSequence.incomp_iff_eq.mp h]) hr

end Basket.Map
