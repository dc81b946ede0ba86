import Basket.Map.Model
import Basket.Set.Model
import Basket.Multimap.Model
import Basket.UnorderedMap.Model

/-! `GetAllData` while other clients put and erase: what the four containers with keys guarantee. -/

namespace Basket.AllData

open Library Cluster Communication

variable {KeyType MappedType Client Oper Res σ α : Type*} [DecidableEq Client]

def call (D : Deployment Client) (c : Client) (st : State Client UInt16 Oper Res σ) :
    Gather.Query Client UInt16 Oper Res σ α :=
  ⟨st, askOrder D.num_servers (D.process c).my_server, []⟩

def CollectsAll (D : Deployment Client) (S : Service Client UInt16 Oper Res σ)
    (init : UInt16 → σ) (read : σ → List α → Prop) (entries : σ → List α) (key : α → KeyType) : Prop :=
  ∀ tr st, Run S init tr st → ∀ c moments q, Gather.Run S read (call D c st) moments q →
    q.todo = [] → Gather.Collects entries key moments q.final_values

lemma collectsAll {D : Deployment Client} (hmax : D.num_servers ≤ 65536)
    {S : Service Client UInt16 Oper Res σ} {init : UInt16 → σ} {read : σ → List α → Prop}
    {entries : σ → List α} {key : α → KeyType} (home : KeyType → UInt16)
    (hl : ∀ k, (home k).toNat < D.num_servers) (hr : ∀ x l, read x l → l.Perm (entries x))
    (hp : ∀ tr shard, Atomic S init tr shard → ∀ s,
      (∀ e ∈ entries (shard s), home (key e) = s) ∧ ((entries (shard s)).map key).Nodup) :
    CollectsAll D S init read entries key := by
  intro tr st ht c moments q h hq
  refine h.collects hr (askOrder_nodup hmax (D.my_server_lt c))
    (fun k => mem_askOrder (D.my_server_lt c) (hl k)) hq fun m hm => ?_
  obtain ⟨tr', ht'⟩ := h.reachable ht m hm
  exact ⟨fun s => (hp tr' _ ht'.atomic s).1, fun s => (hp tr' _ ht'.atomic s).2⟩

/-- `answer` is what the loop of a query returns when the servers hold the data `shard`. Nobody but the
query need take a step for it to come to its end, and otherwise each server answers from a moment of its
own. -/
structure Answers (D : Deployment Client) (S : Service Client UInt16 Oper Res σ)
    (read : σ → List α → Prop) (answer : Client → (UInt16 → σ) → List α → Prop) : Prop where
  total : ∀ x, ∃ l, read x l
  answered : ∀ c shard, ∃ r, answer c shard r
  undisturbed : ∀ c st r, answer c st.shard r →
    ∃ moments, Gather.Run S read (call D c st) moments ⟨st, [], r⟩
  returned : ∀ c st moments q, Gather.Run S read (call D c st) moments q → q.todo = [] →
    ∃ moment : UInt16 → State Client UInt16 Oper Res σ, (∀ s, moment s ∈ moments) ∧
      answer c (fun s => (moment s).shard s) q.final_values

lemma answers {D : Deployment Client} (hmax : D.num_servers ≤ 65536)
    {S : Service Client UInt16 Oper Res σ} {read : σ → List α → Prop}
    {answer : Client → (UInt16 → σ) → List α → Prop} (ht : ∀ x, ∃ l, read x l)
    (ha : ∀ c shard r, answer c shard r ↔ ∃ f : UInt16 → List α, (∀ s, read (shard s) (f s)) ∧
      (askOrder D.num_servers (D.process c).my_server).flatMap f = r) : Answers D S read answer where
  total := ht
  answered c shard := by
    choose f hf using fun s => ht (shard s)
    exact ⟨_, (ha c shard _).mpr ⟨f, hf, rfl⟩⟩
  undisturbed c st r hr := by
    obtain ⟨f, hf, rfl⟩ := (ha c st.shard r).mp hr
    have hc : Gather.Run S read (call D c st) _ _ := .call
    exact hc.undisturbed hf
  returned c st moments q h hq := by
    obtain ⟨visited, moment, f, he, hm, hf⟩ := h.returned ht (askOrder_nodup hmax (D.my_server_lt c))
    rw [hq, List.append_nil] at he
    refine ⟨moment, fun s => (hm s).1, (ha c _ _).mpr ⟨f, fun s => (hm s).2, ?_⟩⟩
    rw [hf, he]
    rfl

lemma answers_askAll {D : Deployment Client} (hmax : D.num_servers ≤ 65536)
    {S : Service Client UInt16 Oper Res σ} {ask : σ → Option (List α)} {entries : σ → List α}
    (h : ∀ x, ask x = some (entries x)) : Answers D S (fun x l => ask x = some l)
      (fun c shard r => askAll D.num_servers (D.process c) (fun s => ask (shard s)) = some r) := by
  refine answers hmax (fun x => ⟨_, h x⟩) fun c shard r => ?_
  rw [askAll_eq fun s => h (shard s), Option.some_inj]
  constructor
  · exact fun hr => ⟨_, fun s => h (shard s), hr⟩
  · rintro ⟨f, hf, rfl⟩
    exact List.flatMap_congr fun s _ => Option.some.inj ((h (shard s)).symm.trans (hf s))

variable {Compare : KeyType → KeyType → Prop} [DecidableRel Compare] [IsStrictWeakOrder KeyType Compare]
variable [Inhabited MappedType] {D : Deployment Client} {keyHash : KeyType → UInt64}

lemma map_collectsAll (hmax : D.num_servers ≤ 65536) :
    CollectsAll D (Map.service Compare D keyHash : Service Client UInt16 (Op KeyType MappedType) _ _)
      (fun _ => .empty) (fun x l => Map.localGetAllDataInServer x = some l) Tree.entries Prod.fst := by
  refine collectsAll hmax (D.home keyHash) (D.home_lt keyHash) (fun x l h => ?_) fun tr shard h s => ?_
  · rw [Map.localGetAllDataInServer_eq] at h
    exact .of_eq (Option.some.inj h).symm
  · exact ⟨Map.home_eq (fun _ => rfl) h s, (shard s).nodup_keys⟩

lemma set_collectsAll [Inhabited KeyType] (hmax : D.num_servers ≤ 65536) :
    CollectsAll D (Set.service Compare D keyHash) (fun _ => .empty)
      (fun x l => Set.localGetAllDataInServer x = some l) Tree.entries id := by
  refine collectsAll hmax (D.home keyHash) (D.home_lt keyHash) (fun x l h => ?_) fun tr shard h s => ?_
  · rw [Set.localGetAllDataInServer_eq] at h
    exact .of_eq (Option.some.inj h).symm
  · exact ⟨Set.home_eq (fun _ => rfl) h s, (shard s).nodup_keys⟩

lemma multimap_collectsAll (hmax : D.num_servers ≤ 65536) :
    CollectsAll D
      (Multimap.service Compare D keyHash : Service Client UInt16 (Op KeyType MappedType) _ _)
      (fun _ => .empty) (fun x l => Multimap.localGetAllDataInServer x = some l) MultiTree.entries
      Prod.fst := by
  refine collectsAll hmax (D.home keyHash) (D.home_lt keyHash) (fun x l h => ?_) fun tr shard h s => ?_
  · rw [Multimap.localGetAllDataInServer_eq] at h
    exact .of_eq (Option.some.inj h).symm
  · exact ⟨Multimap.home_eq (fun _ => rfl) h s, (Multimap.unique (fun _ => rfl) h s).nodup_keys⟩

/-- The buckets of a hash table may be walked in a different order at every read. -/
lemma unorderedMap_collectsAll [DecidableEq KeyType] (hmax : D.num_servers ≤ 65536) :
    CollectsAll D
      (UnorderedMap.service D keyHash : Service Client UInt16 (UnorderedMap.Op KeyType MappedType) _ _)
      (fun _ => ∅) (fun x l => ∃ order, order.Perm (UnorderedMap.entries x) ∧
        UnorderedMap.localGetAllDataInServer order x = some l) UnorderedMap.entries Prod.fst := by
  refine collectsAll hmax (fun k => castThenMod D.num_servers (keyHash k))
    (fun k => castThenMod_lt D.num_servers_pos) (fun x l h => ?_) fun tr shard h s => ⟨?_, ?_⟩
  · obtain ⟨order, ho, he⟩ := h
    rw [UnorderedMap.localGetAllDataInServer_eq ho] at he
    exact Option.some.inj he ▸ ho
  · exact UnorderedMap.home_eq (fun _ => rfl) h s
  · rw [UnorderedMap.keys_entries]
    exact (shard s).keys_nodup

/-- The order of the buckets is the caller's to meet, not to choose. -/
lemma unorderedMap_answers [DecidableEq KeyType] (hmax : D.num_servers ≤ 65536) :
    Answers D
      (UnorderedMap.service D keyHash : Service Client UInt16 (UnorderedMap.Op KeyType MappedType) _ _)
      (fun x l => ∃ order, order.Perm (UnorderedMap.entries x) ∧
        UnorderedMap.localGetAllDataInServer order x = some l)
      (fun c shard r => ∃ order : UInt16 → List (KeyType × MappedType),
        (∀ s, (order s).Perm (UnorderedMap.entries (shard s))) ∧
        UnorderedMap.getAllData order D c shard = some r) := by
  refine answers hmax
    (fun x => ⟨_, _, .refl _, UnorderedMap.localGetAllDataInServer_eq (.refl _)⟩) fun c shard r => ?_
  constructor
  · rintro ⟨order, ho, hr⟩
    have hl (s : UInt16) := UnorderedMap.localGetAllDataInServer_eq (ho s)
    rw [UnorderedMap.getAllData, askAll_eq hl] at hr
    exact ⟨order, fun s => ⟨_, ho s, hl s⟩, Option.some.inj hr⟩
  · rintro ⟨f, hf, rfl⟩
    choose order ho hl using hf
    exact ⟨order, ho, askAll_eq hl⟩

theorem getAllData_collects [Inhabited KeyType] [DecidableEq KeyType] (hmax : D.num_servers ≤ 65536) :
    (Answers D (Map.service Compare D keyHash : Service Client UInt16 (Op KeyType MappedType) _ _)
      (fun x l => Map.localGetAllDataInServer x = some l)
      (fun c shard r => Map.getAllData D c shard = some r) ∧
    CollectsAll D (Map.service Compare D keyHash : Service Client UInt16 (Op KeyType MappedType) _ _)
      (fun _ => .empty) (fun x l => Map.localGetAllDataInServer x = some l) Tree.entries Prod.fst) ∧
    (Answers D (Set.service Compare D keyHash) (fun x l => Set.localGetAllDataInServer x = some l)
      (fun c shard r => Set.getAllData D c shard = some r) ∧
    CollectsAll D (Set.service Compare D keyHash) (fun _ => .empty)
      (fun x l => Set.localGetAllDataInServer x = some l) Tree.entries id) ∧
    (Answers D
      (Multimap.service Compare D keyHash : Service Client UInt16 (Op KeyType MappedType) _ _)
      (fun x l => Multimap.localGetAllDataInServer x = some l)
      (fun c shard r => Multimap.getAllData D c shard = some r) ∧
    CollectsAll D
      (Multimap.service Compare D keyHash : Service Client UInt16 (Op KeyType MappedType) _ _)
      (fun _ => .empty) (fun x l => Multimap.localGetAllDataInServer x = some l) MultiTree.entries
      Prod.fst) ∧
    Answers D
      (UnorderedMap.service D keyHash : Service Client UInt16 (UnorderedMap.Op KeyType MappedType) _ _)
      (fun x l => ∃ order, order.Perm (UnorderedMap.entries x) ∧
        UnorderedMap.localGetAllDataInServer order x = some l)
      (fun c shard r => ∃ order : UInt16 → List (KeyType × MappedType),
        (∀ s, (order s).Perm (UnorderedMap.entries (shard s))) ∧
        UnorderedMap.getAllData order D c shard = some r) ∧
    CollectsAll D
      (UnorderedMap.service D keyHash : Service Client UInt16 (UnorderedMap.Op KeyType MappedType) _ _)
      (fun _ => ∅) (fun x l => ∃ order, order.Perm (UnorderedMap.entries x) ∧
        UnorderedMap.localGetAllDataInServer order x = some l) UnorderedMap.entries Prod.fst := by
  refine ⟨⟨?_, map_collectsAll hmax⟩, ⟨?_, set_collectsAll hmax⟩, ⟨?_, multimap_collectsAll hmax⟩,
    unorderedMap_answers hmax, unorderedMap_collectsAll hmax⟩
  · exact answers_askAll hmax fun _ => Map.localGetAllDataInServer_eq
  · exact answers_askAll hmax fun _ => Set.localGetAllDataInServer_eq
  · exact answers_askAll hmax fun _ => Multimap.localGetAllDataInServer_eq

/-- The query has read server 0 when the second key is put on server 1. -/
theorem getAllData_collects_pair :
    ∃ moments : List (State Bool UInt16 (Op ℕ ℕ) (Reply ℕ) (Map.MyMap ℕ ℕ (· < ·))),
      moments.length = 4 ∧ Gather.Collects Tree.entries Prod.fst moments [(1, 7), (3, 4)] ∧
      ∃ moment : UInt16 → _, (∀ s, moment s ∈ moments) ∧
        Map.getAllData .pair false (fun s => (moment s).shard s) = some [(1, 7), (3, 4)] := by
  let M : Service Bool UInt16 (Op ℕ ℕ) (Reply ℕ) (Map.MyMap ℕ ℕ (· < ·)) :=
    Map.service (· < ·) .pair UInt64.ofNat
  have hn : Run M (fun _ => .empty) [] _ := .nil
  have hr := hn.snoc (.here (c := true) (o := .put 3 4) rfl (by decide))
  have hq {tr st} (_ : Run M (fun _ => .empty) tr st) :
      Gather.Run M (fun x l => Map.localGetAllDataInServer x = some l) (call .pair false st) _ _ := .call
  have h₀ := (hq hr).snoc (.read Map.localGetAllDataInServer_eq)
  have hp := h₀.snoc (.other (.here (c := true) (o := .put 1 7) rfl (by decide)))
  have h₁ := hp.snoc (.read Map.localGetAllDataInServer_eq)
  obtain ⟨⟨ha, hc⟩, -⟩ := @getAllData_collects ℕ ℕ Bool _ (· < ·) _ _ _ .pair UInt64.ofNat _ _ (by decide)
  exact ⟨_, rfl, hc _ _ hr false _ _ h₁ rfl, ha.returned false _ _ _ h₁ rfl⟩

end Basket.AllData
