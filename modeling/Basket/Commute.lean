import Basket.Map.Model
import Basket.Set.Model
import Basket.Multimap.Model
import Basket.Library.KeyByKey

/-! Updates of different keys commute: runs that update every key alike leave the same servers. -/

namespace Basket.Commute

open Library Cluster Communication SortedSequence

variable {KeyType MappedType Client Client' Oper Res σ U K α : Type*}

def UpdatesCommute [DecidableEq K] [DecidableEq Client] [DecidableEq Client']
    (S : Service Client UInt16 Oper Res σ) (S' : Service Client' UInt16 Oper Res σ)
    (init : UInt16 → σ) (touch : Oper → Res → Option (K × U))
    (getAllData : Client → (UInt16 → σ) → Option (List α))
    (getAllData' : Client' → (UInt16 → σ) → Option (List α)) : Prop :=
  ∀ tr st tr' st', Run S init tr st → Run S' init tr' st' →
    (∀ k, updates touch k tr = updates touch k tr') →
    (∀ s, st.shard s = st'.shard s) ∧
      ∀ c c', ∃ r r', getAllData c st.shard = some r ∧ getAllData' c' st'.shard = some r' ∧ r.Perm r'

variable {D : Deployment Client} {D' : Deployment Client'}

lemma askAll_perm (hn : D.num_servers = D'.num_servers) {ask : UInt16 → Option (List α)}
    {f : UInt16 → List α} (ha : ∀ s, ask s = some (f s)) (c : Client) (c' : Client') :
    ∃ r r', askAll D.num_servers (D.process c) ask = some r ∧
      askAll D'.num_servers (D'.process c') ask = some r' ∧ r.Perm r' := by
  refine ⟨_, _, askAll_eq ha, askAll_eq ha, List.Perm.flatMap_right f ?_⟩
  have hp := askOrder_perm (D.my_server_lt c)
  have hp' := askOrder_perm (D'.my_server_lt c')
  rw [hn] at hp ⊢
  exact hp.trans hp'.symm

lemma updatesCommute [DecidableEq K] [DecidableEq Client] [DecidableEq Client']
    {S : Service Client UInt16 Oper Res σ} {S' : Service Client' UInt16 Oper Res σ}
    {init : UInt16 → σ} {home : K → UInt16}
    {entries : σ → List α} {key : α → K} {touch : Oper → Res → Option (K × U)} {left : U → Set α}
    {localGetAllData : σ → Option (List α)} (hn : D.num_servers = D'.num_servers)
    (hl : ∀ x, localGetAllData x = some (entries x))
    (hK : KeyByKey S init home entries key touch left)
    (hK' : KeyByKey S' init home entries key touch left)
    (he : ∀ tr tr' shard shard', Atomic S init tr shard → Atomic S' init tr' shard' →
      ∀ s, (∀ e, e ∈ entries (shard s) ↔ e ∈ entries (shard' s)) → shard s = shard' s) :
    UpdatesCommute S S' init touch
      (fun c shard => askAll D.num_servers (D.process c) fun s => localGetAllData (shard s))
      (fun c shard => askAll D'.num_servers (D'.process c) fun s => localGetAllData (shard s)) := by
  intro tr st tr' st' h h' hu
  have hs : ∀ s, st.shard s = st'.shard s := fun s =>
    he _ _ _ _ h.atomic h'.atomic s (hK.mem_entries_congr hK' h.atomic h'.atomic hu s)
  refine ⟨hs, fun c c' => ?_⟩
  rw [funext hs]
  exact askAll_perm hn (fun s => hl _) c c'

section Containers

def touch : Op KeyType MappedType → Reply MappedType → Option (KeyType × Op KeyType MappedType)
  | .put key data, _ => some (key, .put key data)
  | .erase key, _ => some (key, .erase key)
  | .get _, _ => none

def left : Op KeyType MappedType → Set (KeyType × MappedType)
  | .put key data => {(key, data)}
  | _ => ∅

/-- A `PopFirst` erases the key that it returns. -/
def setTouch : Set.Op KeyType → Set.Reply KeyType → Option (KeyType × Set.Op KeyType)
  | .put key, _ => some (key, .put key)
  | .erase key, _ => some (key, .erase key)
  | .popFirst _, .popFirst (true, key) => some (key, .erase key)
  | _, _ => none

def setLeft : Set.Op KeyType → Set KeyType
  | .put key => {key}
  | _ => ∅

variable {Compare : KeyType → KeyType → Prop} [IsStrictTotalOrder KeyType Compare]
variable {keyHash : KeyType → UInt64}

lemma replaces_put {entries : σ → List (KeyType × MappedType)} {x y : σ} {key : KeyType} {data : MappedType}
    (h : ∀ e, e ∈ entries y ↔ e = (key, data) ∨ e ∈ entries x ∧ e.1 ≠ key) :
    Replaces entries Prod.fst left x y (some (key, .put key data)) :=
  ⟨fun _ he => congrArg Prod.fst he, h⟩

lemma replaces_erase {entries : σ → List (KeyType × MappedType)} {x y : σ} {key : KeyType}
    (h : ∀ e, e ∈ entries y ↔ e ∈ entries x ∧ ¬IncompRel Compare e.1 key) :
    Replaces entries Prod.fst left x y (some (key, .erase key)) := by
  refine ⟨fun e he => he.elim, fun e => ?_⟩
  simp [h, left, incomp_iff_eq]

variable [DecidableRel Compare]

lemma server_eq_of_touch {S : Service Client UInt16 (Op KeyType MappedType) (Reply MappedType) σ}
    {home : KeyType → UInt16} (hs : ∀ c o, S.server c o = home o.key) {c : Client}
    {o u : Op KeyType MappedType} {r : Reply MappedType} {k : KeyType} (h : touch o r = some (k, u)) :
    S.server c o = home k := by
  rw [hs]
  cases o <;> cases h <;> rfl

variable [Inhabited MappedType]

lemma map_keyByKey :
    KeyByKey (Map.service Compare D keyHash : Service Client UInt16 (Op KeyType MappedType) _ _)
      (fun _ => .empty) (D.home keyHash) Tree.entries Prod.fst touch left where
  server_eq _ c o k u := server_eq_of_touch fun c => Map.service_server Compare D keyHash c
  replaces := by
    intro tr shard _ c o
    cases o with
    | get key => rfl
    | put key data => exact replaces_put fun e => Map.mem_put
    | erase key => exact replaces_erase fun e => Tree.mem_erase

lemma multimap_keyByKey :
    KeyByKey (Multimap.service Compare D keyHash : Service Client UInt16 (Op KeyType MappedType) _ _)
      (fun _ => .empty) (D.home keyHash) MultiTree.entries Prod.fst touch left where
  server_eq _ c o k u := server_eq_of_touch fun c => Multimap.service_server Compare D keyHash c
  replaces := by
    intro tr shard h c o
    have hu := Multimap.unique (fun _ => rfl) h
    cases o with
    | get key => rfl
    | put key data =>
      refine replaces_put fun e => (Multimap.mem_localPut (hu _)).trans ?_
      rw [incomp_iff_eq]
    | erase key => exact replaces_erase fun e => mem_eraseKey

lemma set_replaces [Inhabited KeyType] {o : Set.Op KeyType} {x : Set.MySet KeyType Compare} :
    Replaces Tree.entries id setLeft x (Set.handle o x).2 (setTouch o (Set.handle o x).1) := by
  cases o with
  | get key => rfl
  | seekFirst key_int => rfl
  | size key_int => rfl
  | put key =>
    refine ⟨fun e he => he, fun e => Set.mem_localPut.trans ?_⟩
    by_cases he : e = key <;> simp [setLeft, he]
  | erase key =>
    refine ⟨fun e he => he.elim, fun e => Set.mem_localErase.trans ?_⟩
    simp [setLeft]
  | popFirst key_int =>
    cases he : x.entries with
    | nil =>
      have hp : Set.handle (.popFirst key_int) x = (.popFirst (false, default), x) := by
        rw [Set.handle, Set.localPopFirst_empty he]
        rfl
      rw [hp]
      rfl
    | cons m l =>
      obtain ⟨hm, hl⟩ := Set.localPopFirst_cons he
      have ht : setTouch (.popFirst key_int) (Set.handle (.popFirst key_int) x).1 = some (m, .erase m) := by
        change setTouch (.popFirst key_int) (.popFirst (Set.localPopFirst x).1) = _
        rw [hm]
        rfl
      rw [ht]
      refine ⟨fun e he => he.elim, fun e => ?_⟩
      change e ∈ (Set.localPopFirst x).2.entries ↔ _
      rw [hl, Tree.mem_tail he]
      simp [setLeft]

lemma set_keyByKey [Inhabited KeyType] :
    KeyByKey (Set.service Compare D keyHash) (fun _ => .empty) (D.home keyHash) Tree.entries id
      setTouch setLeft where
  server_eq := by
    intro tr shard h c o k u ht
    rw [Set.service_server] at ht ⊢
    cases o with
    | get key => cases ht
    | seekFirst key_int => cases ht
    | size key_int => cases ht
    | put key => cases ht; rfl
    | erase key => cases ht; rfl
    | popFirst key_int =>
      have hf : (Set.localPopFirst (shard key_int)).1 = (true, k) := by
        change setTouch _ (.popFirst (Set.localPopFirst (shard key_int)).1) = _ at ht
        generalize (Set.localPopFirst (shard key_int)).1 = found at ht
        obtain ⟨_ | _, m⟩ := found <;> cases ht
        rfl
      obtain ⟨l, he, -⟩ := Set.localPopFirst_found hf
      exact (Set.home_eq (fun _ => rfl) h key_int k (he ▸ List.mem_cons_self)).symm
  replaces _ c o := set_replaces

theorem updates_commute [DecidableEq KeyType] [DecidableEq Client] [DecidableEq Client'] [Inhabited KeyType]
    (hn : D.num_servers = D'.num_servers) :
    UpdatesCommute (Map.service Compare D keyHash : Service _ _ (Op KeyType MappedType) _ _)
        (Map.service Compare D' keyHash) (fun _ => .empty) touch (Map.getAllData D) (Map.getAllData D') ∧
      UpdatesCommute (Multimap.service Compare D keyHash : Service _ _ (Op KeyType MappedType) _ _)
        (Multimap.service Compare D' keyHash) (fun _ => .empty) touch (Multimap.getAllData D)
        (Multimap.getAllData D') ∧
      UpdatesCommute (Set.service Compare D keyHash) (Set.service Compare D' keyHash)
        (fun _ => .empty) setTouch (Set.getAllData D) (Set.getAllData D') := by
  have hh : D'.home keyHash = D.home keyHash := by
    funext key
    rw [Deployment.home, Deployment.home, hn]
  refine ⟨?_, ?_, ?_⟩
  · exact updatesCommute hn (fun x => Map.localGetAllDataInServer_eq) map_keyByKey
      (hh ▸ map_keyByKey) fun _ _ _ _ _ _ s => Tree.eq_of_mem_iff
  · refine updatesCommute hn (fun x => Multimap.localGetAllDataInServer_eq) multimap_keyByKey
      (hh ▸ multimap_keyByKey) fun _ _ _ _ h h' s => ?_
    exact (Multimap.unique (fun _ => rfl) h s).eq_of_mem_iff (Multimap.unique (fun _ => rfl) h' s)
  · exact updatesCommute hn (fun x => Set.localGetAllDataInServer_eq) set_keyByKey
      (hh ▸ set_keyByKey) fun _ _ _ _ _ _ s => Tree.eq_of_mem_iff

end Containers

theorem updates_commute_pair :
    ∃ r r', Map.getAllData .pair false
        ((Map.service (· < ·) .pair UInt64.ofNat).apply (.put 2 8) 0
          ((Map.service (· < ·) .pair UInt64.ofNat).apply (.put 1 7) 1
            (fun _ => (.empty : Map.MyMap ℕ ℕ (· < ·))))) = some r ∧
      Map.getAllData .pair true
        ((Map.service (· < ·) .pair UInt64.ofNat).apply (.put 1 7) 1
          ((Map.service (· < ·) .pair UInt64.ofNat).apply (.put 2 8) 0
            (fun _ => (.empty : Map.MyMap ℕ ℕ (· < ·))))) = some r' ∧ r.Perm r' := by
  have hn : Run (Map.service (· < ·) .pair UInt64.ofNat)
      (fun _ => (.empty : Map.MyMap ℕ ℕ (· < ·))) [] _ := .nil
  have hr := (hn.call true (.put 1 7) rfl).call false (.put 2 8) rfl
  have hr' := (hn.call false (.put 2 8) rfl).call false (.put 1 7) rfl
  refine ((updates_commute rfl).1 _ _ _ _ hr hr' fun k => ?_).2 false true
  by_cases h₁ : 1 = k
  · subst h₁
    rfl
  · by_cases h₂ : 2 = k
    · subst h₂
      rfl
    · simp [updates, touch, h₁, h₂]

end Basket.Commute
