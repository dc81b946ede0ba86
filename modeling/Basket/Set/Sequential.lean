import Basket.Library.Linearizability
import Basket.Library.Parts
import Basket.Set.Model

/-! The distributed set is one local set, of which every server has the keys that are at home there. -/

namespace Basket.Set

open Library Cluster Communication Linearizability

inductive ServerCall (KeyType : Type*)
  | op (o : Op KeyType)
  | containsInServer (s : UInt16) (key_start key_end : KeyType)
  | getAllDataInServer (s : UInt16)
  deriving DecidableEq, Repr

inductive ServerAnswer (KeyType : Type*)
  | op (r : Reply KeyType)
  | containsInServer (final_values : Option (List KeyType))
  | getAllDataInServer (final_values : Option (List KeyType))
  deriving DecidableEq, Repr

/-- `LocalSize` alone does not lock the mutex. -/
def ServerCall.locks {KeyType : Type*} : ServerCall KeyType → Bool
  | op (.size _) => false
  | _ => true

abbrev LockedCall (KeyType : Type*) := { o : ServerCall KeyType // o.locks = true }

variable {KeyType Client : Type*} {Compare : KeyType → KeyType → Prop}
variable {home : KeyType → UInt16} {myset : MySet KeyType Compare}

def Parts (home : KeyType → UInt16) (shard : UInt16 → MySet KeyType Compare)
    (myset : MySet KeyType Compare) : Prop :=
  ∀ s, shard s = myset.part home s

section Calls

variable [DecidableRel Compare] [IsStrictWeakOrder KeyType Compare] [Inhabited KeyType]

/-- One set for all servers, where `home` tells the server of a key. -/
def sequentialOp (home : KeyType → UInt16) : Op KeyType → MySet KeyType Compare →
    Reply KeyType × MySet KeyType Compare
  | .seekFirst key_int, myset => (.seekFirst (localSeekFirst (myset.part home key_int)), myset)
  | .popFirst key_int, myset =>
    let found := (localPopFirst (myset.part home key_int)).1
    (.popFirst found, if found.1 then myset.erase found.2 else myset)
  | .size key_int, myset => (.size (localSize (myset.part home key_int)), myset)
  | o, myset => handle o myset

def Op.server (home : KeyType → UInt16) : Op KeyType → UInt16
  | put key => home key
  | get key => home key
  | erase key => home key
  | seekFirst key_int => key_int
  | popFirst key_int => key_int
  | size key_int => key_int

variable [LT KeyType] [DecidableLT KeyType] [LE KeyType] [DecidableLE KeyType]

def serverDispatch (D : Deployment Client) (keyHash : KeyType → UInt64) (c : Client) :
    ServerCall KeyType → Dispatch UInt16
  | .op (.put key) => put D keyHash c key
  | .op (.get key) => get D keyHash c key
  | .op (.erase key) => erase D keyHash c key
  | .op (.seekFirst key_int) => seekFirst D c key_int
  | .op (.popFirst key_int) => popFirst D c key_int
  | .op (.size key_int) => size D c key_int
  | .containsInServer s _ _ => (D.process c).askServer s
  | .getAllDataInServer s => (D.process c).askServer s

def serverHandle : ServerCall KeyType → MySet KeyType Compare →
    ServerAnswer KeyType × MySet KeyType Compare
  | .op o, myset => (handle o myset).map .op id
  | .containsInServer _ key_start key_end, myset =>
    (.containsInServer (localContainsInServer key_start key_end myset), myset)
  | .getAllDataInServer _, myset => (.getAllDataInServer (localGetAllDataInServer myset), myset)

variable (Compare) in
def serverService (D : Deployment Client) (keyHash : KeyType → UInt64) :
    Service Client UInt16 (LockedCall KeyType) (ServerAnswer KeyType) (MySet KeyType Compare) where
  attached c := (D.process c).my_server
  dispatch c o := serverDispatch D keyHash c o.1
  handle o := serverHandle o.1

def ServerCall.server (home : KeyType → UInt16) : ServerCall KeyType → UInt16
  | op o => o.server home
  | containsInServer s _ _ => s
  | getAllDataInServer s => s

lemma serverService_server (D : Deployment Client) (keyHash : KeyType → UInt64) (c : Client)
    (o : LockedCall KeyType) : (serverService Compare D keyHash).server c o = o.1.server (D.home keyHash) := by
  obtain ⟨o, ho⟩ := o
  cases o with
  | op o => cases o <;> exact Deployment.server_callServer rfl rfl
  | containsInServer s key_start key_end => exact Deployment.server_askServer rfl rfl
  | getAllDataInServer s => exact Deployment.server_askServer rfl rfl

def sequential (home : KeyType → UInt16) : ServerCall KeyType → MySet KeyType Compare →
    ServerAnswer KeyType × MySet KeyType Compare
  | .op o, myset => (sequentialOp home o myset).map .op id
  | .containsInServer s key_start key_end, myset =>
    (.containsInServer (localContainsInServer key_start key_end (myset.part home s)), myset)
  | .getAllDataInServer s, myset =>
    (.getAllDataInServer (localGetAllDataInServer (myset.part home s)), myset)

end Calls

section Operations

lemma home_eq_of_incomp [IsStrictTotalOrder KeyType Compare] (a b : KeyType) (h : IncompRel Compare a b) :
    home a = home b := by
  rw [SortedSequence.incomp_iff_eq.mp h]

lemma localPopFirst_unchanged [Inhabited KeyType] (h : (localPopFirst myset).1.1 = false) :
    (localPopFirst myset).2 = myset := by
  cases he : myset.entries with
  | nil => rw [localPopFirst_empty he]
  | cons m l => simp [(localPopFirst_cons he).1] at h

variable [DecidableRel Compare] [IsStrictTotalOrder KeyType Compare]

lemma erase_first {k : KeyType} {l : List KeyType} (h : myset.entries = k :: l) :
    (myset.erase k).entries = l := by
  have he : myset.erase k = myset.eraseBegin := by
    refine Tree.eq_of_mem_iff fun e => ?_
    have ht : e ∈ myset.eraseBegin.entries ↔ e ∈ l := by simp [Tree.eraseBegin, h]
    rw [ht, Tree.mem_tail h, Tree.mem_erase, id, SortedSequence.incomp_iff_eq]
  simp [he, Tree.eraseBegin, h]

variable [Inhabited KeyType]

lemma home_popFirst {k : KeyType} {s : UInt16} (h : (localPopFirst (myset.part home s)).1 = (true, k)) :
    home k = s ∧ (localPopFirst (myset.part home s)).2 = (myset.part home s).erase k := by
  obtain ⟨l, he, hl⟩ := localPopFirst_found h
  have hk : k ∈ (myset.part home s).entries := he ▸ List.mem_cons_self
  refine ⟨(Tree.mem_part.mp hk).2, Tree.eq_of_mem_iff fun e => ?_⟩
  rw [hl, erase_first he]

lemma sequentialOp_reply (o : Op KeyType) :
    (handle o (myset.part home (o.server home))).1 = (sequentialOp home o myset).1 := by
  cases o with
  | put key => rfl
  | get key =>
    have hp := Tree.find_part (f := home) (t := myset) (k := key) home_eq_of_incomp
    change Reply.get (localGet key _) = Reply.get (localGet key _)
    rw [localGet, localGet, Op.server, hp]
  | erase key =>
    change Reply.erase (localErase key _).1 = Reply.erase (localErase key _).1
    rw [localErase_eq, localErase_eq, Op.server, Tree.find_part home_eq_of_incomp]
  | seekFirst key_int => rfl
  | popFirst key_int => rfl
  | size key_int => rfl

lemma part_popFirst (key_int s : UInt16) : (sequentialOp home (.popFirst key_int) myset).2.part home s =
    if s = key_int then (localPopFirst (myset.part home s)).2 else myset.part home s := by
  obtain ⟨⟨b, k⟩, hb⟩ : ∃ found, (localPopFirst (myset.part home key_int)).1 = found := ⟨_, rfl⟩
  cases b with
  | false =>
    have hu : (localPopFirst (myset.part home key_int)).2 = myset.part home key_int :=
      localPopFirst_unchanged (by rw [hb])
    have he : (sequentialOp home (.popFirst key_int) myset).2 = myset := by simp [sequentialOp, hb]
    rw [he]
    split_ifs with hs
    · rw [hs, hu]
    · rfl
  | true =>
    obtain ⟨hk, hp⟩ := home_popFirst hb
    have he : (sequentialOp home (.popFirst key_int) myset).2 = myset.erase k := by
      simp [sequentialOp, hb]
    rw [he, Tree.part_erase]
    split_ifs with hs
    · rw [hs, hp]
    · exact Tree.part_erase_other home_eq_of_incomp (hk ▸ hs)

lemma part_sequentialOp (o : Op KeyType) (s : UInt16) : (sequentialOp home o myset).2.part home s =
    if s = o.server home then (handle o (myset.part home s)).2 else myset.part home s := by
  cases o with
  | put key =>
    split_ifs with hs
    · rw [hs]
      exact Tree.part_insertOrAssign home_eq_of_incomp (fun e _ => e) (fun _ _ => rfl) key
    · exact Tree.part_insertOrAssign_other home_eq_of_incomp (fun e _ => e) (fun _ _ => rfl) hs
  | erase key =>
    split_ifs with hs
    · exact Tree.part_erase
    · exact Tree.part_erase.trans (Tree.part_erase_other home_eq_of_incomp hs)
  | get key => exact (ite_self _).symm
  | seekFirst key_int => exact (ite_self _).symm
  | popFirst key_int => exact part_popFirst key_int s
  | size key_int => exact (ite_self _).symm

variable [LT KeyType] [DecidableLT KeyType] [LE KeyType] [DecidableLE KeyType]

lemma sequential_simulates {D : Deployment Client} {keyHash : KeyType → UInt64} :
    Simulates (serverService Compare D keyHash) (fun o => sequential (D.home keyHash) o.1)
      (Parts (D.home keyHash)) := by
  intro c o shard myset hp
  rw [serverService_server, Service.answer]
  obtain ⟨o, ho⟩ := o
  cases o with
  | op o =>
    refine ⟨?_, fun s => ?_⟩
    · rw [ServerCall.server, hp]
      exact congrArg ServerAnswer.op (sequentialOp_reply o)
    · refine Eq.trans ?_ (part_sequentialOp o s).symm
      split_ifs with hs
      · subst hs
        rw [ServerCall.server, Service.apply_same, hp]
        rfl
      · rw [ServerCall.server, Service.apply_other _ _ hs, hp]
  | containsInServer s key_start key_end =>
    refine ⟨by rw [ServerCall.server, hp]; rfl, ?_⟩
    simpa [Service.apply, serverService, serverHandle, sequential] using hp
  | getAllDataInServer s =>
    refine ⟨by rw [ServerCall.server, hp]; rfl, ?_⟩
    simpa [Service.apply, serverService, serverHandle, sequential] using hp

theorem set_linearizable [DecidableEq Client] {D : Deployment Client} {keyHash : KeyType → UInt64}
    {tr : Trace Client UInt16 (LockedCall KeyType) (ServerAnswer KeyType)}
    {st : State Client UInt16 (LockedCall KeyType) (ServerAnswer KeyType) (MySet KeyType Compare)}
    (h : Run (serverService Compare D keyHash) (fun _ => .empty) tr st) :
    Linearizable (fun o : LockedCall KeyType => sequential (D.home keyHash) o.1)
      (.empty : MySet KeyType Compare) (clientHistory tr) :=
  sequential_simulates.linearizes (fun _ => rfl) h

/-- Two clients pop the same server, one of them before the key arrives there. -/
theorem set_linearizable_pair :
    Linearizable (fun o : LockedCall ℕ => sequential (Deployment.pair.home UInt64.ofNat) o.1)
      (.empty : MySet ℕ (· < ·))
      [.invoke 0 ⟨.op (.put 1), rfl⟩, .invoke 1 ⟨.op (.popFirst 1), rfl⟩,
        .respond 1 (.op (.popFirst (false, 0))), .respond 0 (.op (.put true)),
        .invoke 2 ⟨.op (.popFirst 1), rfl⟩, .respond 2 (.op (.popFirst (true, 1)))] := by
  have hn : Run (serverService (· < ·) .pair UInt64.ofNat : Service Bool UInt16 (LockedCall ℕ) _ _)
      (fun _ => .empty) [] _ := .nil
  have hp := hn.snoc (.request (c := false) (o := ⟨.op (.put 1), rfl⟩) (s := 1) rfl (by decide))
  have hg := hp.snoc (.here (c := true) (o := ⟨.op (.popFirst 1), rfl⟩) rfl (by decide))
  have hs := hg.snoc (.serve (c := false) rfl)
  have hr := hs.snoc (.reply (c := false) rfl)
  have hq := hr.snoc (.here (c := true) (o := ⟨.op (.popFirst 1), rfl⟩) rfl (by decide))
  exact set_linearizable hq

end Operations

end Basket.Set
