import Basket.Library.Linearizability
import Basket.Library.Parts
import Basket.Multimap.Model

/-! The distributed multimap is one local multimap, of which every server has the entries whose keys
are at home there. -/

namespace Basket.Multimap

open Library Cluster Communication Linearizability

inductive ServerCall (KeyType MappedType : Type*)
  | op (o : Op KeyType MappedType)
  | containsInServer (s : UInt16) (key : KeyType)
  | getAllDataInServer (s : UInt16)
  deriving DecidableEq, Repr

inductive ServerAnswer (KeyType MappedType : Type*)
  | op (r : Reply MappedType)
  | containsInServer (final_values : Option (List (KeyType × MappedType)))
  | getAllDataInServer (final_values : Option (List (KeyType × MappedType)))
  deriving DecidableEq, Repr

variable {KeyType MappedType Client : Type*} {Compare : KeyType → KeyType → Prop}
variable {home : KeyType → UInt16}

def Parts (home : KeyType → UInt16) (shard : UInt16 → MyMap KeyType MappedType Compare)
    (mymap : MyMap KeyType MappedType Compare) : Prop :=
  mymap.Unique ∧ ∀ s, shard s = mymap.part home s

section Operations

variable [DecidableRel Compare] {mymap : MyMap KeyType MappedType Compare}

lemma localErase_iff [Inhabited MappedType] {key : KeyType} : (localErase key mymap).1.1 = true ↔
    ∃ e ∈ mymap.entries, IncompRel Compare e.1 key := by
  rw [← MultiTree.size_erase_lt, localErase]
  simp

variable [IsStrictWeakOrder KeyType Compare]

lemma part_localPut (h : mymap.Unique) (key : KeyType) (data : MappedType) :
    (localPut key data mymap).2.part home (home key) =
      (localPut key data (mymap.part home (home key))).2 := by
  refine MultiTree.Unique.eq_of_mem_iff (unique_localPut h key data).part
    (unique_localPut h.part key data) fun e => ?_
  rw [MultiTree.mem_part, mem_localPut h, mem_localPut h.part, MultiTree.mem_part]
  constructor
  · rintro ⟨rfl | he, hs⟩
    · exact .inl rfl
    · exact .inr ⟨⟨he.1, hs⟩, he.2⟩
  · rintro (rfl | ⟨⟨he, hs⟩, hn⟩)
    · exact ⟨.inl rfl, rfl⟩
    · exact ⟨.inr ⟨he, hn⟩, hs⟩

lemma part_localPut_other (hf : ∀ a b, IncompRel Compare a b → home a = home b) (h : mymap.Unique)
    (key : KeyType) (data : MappedType) {s : UInt16} (hs : s ≠ home key) :
    (localPut key data mymap).2.part home s = mymap.part home s := by
  refine MultiTree.Unique.eq_of_mem_iff (unique_localPut h key data).part h.part fun e => ?_
  rw [MultiTree.mem_part, MultiTree.mem_part, mem_localPut h]
  constructor
  · rintro ⟨rfl | he, hs'⟩
    · exact absurd hs'.symm hs
    · exact ⟨he.1, hs'⟩
  · rintro ⟨he, hs'⟩
    exact ⟨.inr ⟨he, fun hi => hs (hs'.symm.trans (hf _ _ hi))⟩, hs'⟩

variable [Inhabited MappedType] (hf : ∀ a b, IncompRel Compare a b → home a = home b)

include hf

lemma handle_part_reply (h : mymap.Unique) (o : Op KeyType MappedType) :
    (handle o (mymap.part home (home o.key))).1 = (handle o mymap).1 := by
  cases o with
  | put key data => rfl
  | get key =>
    change Reply.get (localGet key _) = Reply.get (localGet key _)
    rw [localGet, localGet, Op.key, h.find_part hf]
  | erase key =>
    have he : (localErase key (mymap.part home (home key))).1.1 = (localErase key mymap).1.1 := by
      rw [Bool.eq_iff_iff, localErase_iff, localErase_iff]
      exact MultiTree.exists_part hf
    exact congrArg (fun found => Reply.erase (found, default)) he

lemma part_handle (h : mymap.Unique) (o : Op KeyType MappedType) (s : UInt16) :
    (handle o mymap).2.part home s =
      if s = home o.key then (handle o (mymap.part home s)).2 else mymap.part home s := by
  cases o with
  | put key data =>
    split_ifs with hs
    · rw [hs]
      exact part_localPut h key data
    · exact part_localPut_other hf h key data hs
  | get key => exact (ite_self _).symm
  | erase key =>
    split_ifs with hs
    · exact h.part_erase
    · exact h.part_erase.trans (h.part_erase_other hf hs)

end Operations

def serverDispatch (D : Deployment Client) (keyHash : KeyType → UInt64) (c : Client) :
    ServerCall KeyType MappedType → Dispatch UInt16
  | .op (.put key _) => put D keyHash c key
  | .op (.get key) => get D keyHash c key
  | .op (.erase key) => erase D keyHash c key
  | .containsInServer s _ => (D.process c).askServer s
  | .getAllDataInServer s => (D.process c).askServer s

variable [DecidableRel Compare] [IsStrictWeakOrder KeyType Compare] [Inhabited MappedType]
variable (Contains : KeyType → KeyType → Bool)

def serverHandle : ServerCall KeyType MappedType → MyMap KeyType MappedType Compare →
    ServerAnswer KeyType MappedType × MyMap KeyType MappedType Compare
  | .op o, mymap => (handle o mymap).map .op id
  | .containsInServer _ key, mymap => (.containsInServer (localContainsInServer Contains key mymap), mymap)
  | .getAllDataInServer _, mymap => (.getAllDataInServer (localGetAllDataInServer mymap), mymap)

variable (Compare) in
def serverService (D : Deployment Client) (keyHash : KeyType → UInt64) :
    Service Client UInt16 (ServerCall KeyType MappedType) (ServerAnswer KeyType MappedType)
      (MyMap KeyType MappedType Compare) where
  attached c := (D.process c).my_server
  dispatch := serverDispatch D keyHash
  handle := serverHandle Contains

def ServerCall.server (home : KeyType → UInt16) : ServerCall KeyType MappedType → UInt16
  | op o => home o.key
  | containsInServer s _ => s
  | getAllDataInServer s => s

lemma serverService_server (D : Deployment Client) (keyHash : KeyType → UInt64) (c : Client)
    (o : ServerCall KeyType MappedType) :
    (serverService Compare Contains D keyHash).server c o = o.server (D.home keyHash) := by
  cases o with
  | op o => cases o <;> exact Deployment.server_callServer rfl rfl
  | containsInServer s key => exact Deployment.server_askServer rfl rfl
  | getAllDataInServer s => exact Deployment.server_askServer rfl rfl

def sequential (home : KeyType → UInt16) : ServerCall KeyType MappedType →
    MyMap KeyType MappedType Compare →
      ServerAnswer KeyType MappedType × MyMap KeyType MappedType Compare
  | .op o, mymap => (handle o mymap).map .op id
  | .containsInServer s key, mymap =>
    (.containsInServer (localContainsInServer Contains key (mymap.part home s)), mymap)
  | .getAllDataInServer s, mymap =>
    (.getAllDataInServer (localGetAllDataInServer (mymap.part home s)), mymap)

lemma sequential_simulates {D : Deployment Client} {keyHash : KeyType → UInt64}
    (hc : ∀ a b, IncompRel Compare a b → keyHash a = keyHash b) :
    Simulates (serverService Compare Contains D keyHash :
        Service Client UInt16 (ServerCall KeyType MappedType) _ _)
      (sequential Contains (D.home keyHash)) (Parts (D.home keyHash)) := by
  have hf := D.home_congr hc
  rintro c o shard mymap ⟨hu, hp⟩
  rw [serverService_server, Service.answer]
  cases o with
  | op o =>
    refine ⟨?_, unique_handle hu, fun s => ?_⟩
    · rw [ServerCall.server, hp]
      exact congrArg ServerAnswer.op (handle_part_reply hf hu o)
    · refine Eq.trans ?_ (part_handle hf hu o s).symm
      split_ifs with hs
      · subst hs
        rw [ServerCall.server, Service.apply_same, hp]
        rfl
      · rw [ServerCall.server, Service.apply_other _ _ hs, hp]
  | containsInServer s key =>
    refine ⟨by rw [ServerCall.server, hp]; rfl, hu, ?_⟩
    simpa [Service.apply, serverService, serverHandle, sequential] using hp
  | getAllDataInServer s =>
    refine ⟨by rw [ServerCall.server, hp]; rfl, hu, ?_⟩
    simpa [Service.apply, serverService, serverHandle, sequential] using hp

lemma unique_sequential {mymap : MyMap KeyType MappedType Compare} (h : mymap.Unique)
    (o : ServerCall KeyType MappedType) : (sequential Contains home o mymap).2.Unique := by
  cases o with
  | op o => exact unique_handle h
  | containsInServer s key => exact h
  | getAllDataInServer s => exact h

lemma unique_of_legal {l : List (ServerCall KeyType MappedType × ServerAnswer KeyType MappedType)}
    {mymap : MyMap KeyType MappedType Compare} (h : Legal (sequential Contains home) .empty l mymap) :
    mymap.Unique := by
  induction h with
  | nil => exact .nil
  | snoc o _ ih => exact unique_sequential Contains ih o

theorem multimap_linearizable [DecidableEq Client] {D : Deployment Client} {keyHash : KeyType → UInt64}
    (hc : ∀ a b, IncompRel Compare a b → keyHash a = keyHash b)
    {tr : Trace Client UInt16 (ServerCall KeyType MappedType) (ServerAnswer KeyType MappedType)}
    {st : State Client UInt16 (ServerCall KeyType MappedType) (ServerAnswer KeyType MappedType)
      (MyMap KeyType MappedType Compare)}
    (h : Run (serverService Compare Contains D keyHash) (fun _ => .empty) tr st) :
    Linearizable (sequential Contains (D.home keyHash)) (.empty : MyMap KeyType MappedType Compare)
      (clientHistory tr) ∧
    ∀ l (mymap : MyMap KeyType MappedType Compare),
      Legal (sequential Contains (D.home keyHash)) .empty l mymap →
        mymap.entries.Pairwise fun e d => ¬IncompRel Compare e.1 d.1 := by
  refine ⟨(sequential_simulates Contains hc).linearizes ⟨.nil, fun _ => rfl⟩ h, fun l mymap hl => ?_⟩
  exact (unique_of_legal Contains hl).imp fun hlt hi => hi.1 hlt

/-- A key is put twice, and the walk after that finds the later value only. -/
theorem multimap_linearizable_pair :
    Linearizable (sequential (· == ·) (Deployment.pair.home UInt64.ofNat)) (.empty : MyMap ℕ ℕ (· < ·))
      [.invoke 0 (.op (.put 1 7)), .invoke 1 (.op (.put 1 8)), .respond 1 (.op (.put true)),
        .respond 0 (.op (.put true)), .invoke 2 (.getAllDataInServer 1),
        .respond 2 (.getAllDataInServer (some [(1, 7)]))] ∧
    ∀ l (mymap : MyMap ℕ ℕ (· < ·)),
      Legal (sequential (· == ·) (Deployment.pair.home UInt64.ofNat)) .empty l mymap →
        mymap.entries.Pairwise fun e d => ¬IncompRel (· < ·) e.1 d.1 := by
  have hn : Run (serverService (· < ·) (· == ·) .pair UInt64.ofNat :
      Service Bool UInt16 (ServerCall ℕ ℕ) _ _) (fun _ => .empty) [] _ := .nil
  have hp := hn.snoc (.request (c := false) (o := .op (.put 1 7)) (s := 1) rfl (by decide))
  have hg := hp.snoc (.here (c := true) (o := .op (.put 1 8)) rfl (by decide))
  have hs := hg.snoc (.serve (c := false) rfl)
  have hr := hs.snoc (.reply (c := false) rfl)
  have hq := hr.snoc (.here (c := true) (o := .getAllDataInServer 1) rfl (by decide))
  have hw : localGetAllDataInServer (localPut 1 7 (localPut 1 8 (.empty : MyMap ℕ ℕ (· < ·))).2).2 =
      some [(1, 7)] := localGetAllDataInServer_eq
  rw [← hw]
  exact multimap_linearizable (· == ·) (fun a b h => by rw [SortedSequence.incomp_iff_eq.mp h]) hq

end Basket.Multimap
