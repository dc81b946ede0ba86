import Basket.UnorderedMap.Model

/-! When the distributed unordered map is one map: the operations have to agree on a key's server. -/

namespace Basket.UnorderedMap

open Library Cluster Communication

variable {KeyType MappedType Client : Type*}

def Op.update? : Op KeyType MappedType → Option (Option MappedType)
  | put _ data => some (some data)
  | putWithCallback _ data => some (some data)
  | erase _ => some none
  | eraseWithCallback _ => some none
  | _ => none

def Op.reply [Inhabited MappedType] (stored : Option MappedType) : Op KeyType MappedType → Reply MappedType
  | put _ _ => .put true
  | putWithCallback _ _ => .put true
  | erase _ => .erase (stored.isSome, default)
  | eraseWithCallback _ => .erase (stored.isSome, default)
  | _ => .get (match stored with
    | some v => (true, v)
    | none => (false, default))

variable [DecidableEq KeyType]

def update? (k : KeyType) : Event Client UInt16 (Op KeyType MappedType) (Reply MappedType) →
    Option (Option MappedType)
  | .handle _ _ _ o _ => if o.key = k then o.update? else none
  | _ => none

def lastUpdate (k : KeyType) (tr : Trace Client UInt16 (Op KeyType MappedType) (Reply MappedType)) :
    Option (Option MappedType) :=
  (tr.filterMap (update? k)).getLast?

section Agreement

variable [Inhabited MappedType] {k : KeyType} {o : Op KeyType MappedType}
variable {x : MyHashMap KeyType MappedType} {D : Deployment Client} {keyHash : KeyType → UInt64}
variable {tr pre post : Trace Client UInt16 (Op KeyType MappedType) (Reply MappedType)}
variable {shard : UInt16 → MyHashMap KeyType MappedType}

lemma lookup_handle : (handle o x).2.lookup k =
    if o.key = k then o.update?.getD (x.lookup k) else x.lookup k := by
  cases o with
  | put key data => exact lookup_localPut
  | putWithCallback key data => exact lookup_localPut
  | erase key => exact lookup_localErase
  | eraseWithCallback key => exact lookup_localErase
  | get key => exact (ite_self _).symm
  | getWithCallback key => exact (ite_self _).symm

lemma localGet_eq {key : KeyType} : localGet key x =
    match x.lookup key with
    | some v => (true, v)
    | none => (false, default) := by
  unfold localGet
  cases x.lookup key <;> rfl

lemma handle_reply : (handle o x).1 = o.reply (x.lookup o.key) := by
  cases o with
  | put key data => rfl
  | putWithCallback key data => rfl
  | erase key => exact congrArg _ localErase_eq
  | eraseWithCallback key => exact congrArg _ localErase_eq
  | get key => exact congrArg _ localGet_eq
  | getWithCallback key => exact congrArg _ localGet_eq

omit [Inhabited MappedType] in
lemma lastUpdate_none {e : Event Client UInt16 (Op KeyType MappedType) (Reply MappedType)}
    (h : update? k e = none) : lastUpdate k (tr ++ [e]) = lastUpdate k tr := by
  rw [lastUpdate, List.filterMap_append, List.filterMap_cons_none h, List.filterMap_nil, List.append_nil]
  rfl

omit [Inhabited MappedType] in
lemma lastUpdate_handle {i : ℕ} {c : Client} {s : UInt16} {r : Reply MappedType} :
    (lastUpdate k (tr ++ [.handle i c s o r])).join =
      if o.key = k then o.update?.getD (lastUpdate k tr).join else (lastUpdate k tr).join := by
  split_ifs with hk
  · cases hu : o.update? with
    | none => rw [lastUpdate_none (by rw [update?, if_pos hk, hu]), Option.getD_none]
    | some u => simp [lastUpdate, update?, hk, hu]
  · rw [lastUpdate_none (by rw [update?, if_neg hk])]

lemma stored_eq {t : UInt16} (ht : ∀ o : Op KeyType MappedType, o.key = k → address D keyHash o = t)
    (h : Atomic (service D keyHash) (fun _ => ∅) tr shard) :
    (shard t).lookup k = (lastUpdate k tr).join := by
  induction h with
  | nil => rfl
  | invoke _ _ ih => rw [ih, lastUpdate_none rfl]
  | respond _ _ _ ih => rw [ih, lastUpdate_none rfl]
  | @handle tr shard i c o _ _ _ ih =>
    rw [lastUpdate_handle, service_server]
    by_cases hs : t = address D keyHash o
    · rw [← hs, Service.apply_same, ← ih]
      exact lookup_handle
    · have hk : o.key ≠ k := fun hk => hs (ht o hk).symm
      rw [Service.apply_other _ _ hs, if_neg hk, ih]

lemma castThenMod_eq_iff {n : ℕ} {hash : UInt64} (hn : 1 ≤ n) (hmax : n ≤ 65536) :
    castThenMod n hash = modThenCast n hash ↔ n ∣ 65536 * (hash.toNat / 65536) := by
  have he : hash.toNat - hash.toNat % 65536 = 65536 * (hash.toNat / 65536) := by omega
  rw [← UInt16.toNat_inj, castThenMod_toNat, modThenCast_toNat hn hmax, ← he]
  exact Nat.modEq_iff_dvd' (Nat.mod_le _ _)

omit [DecidableEq KeyType] [Inhabited MappedType] in
lemma address_eq (h : castThenMod D.num_servers (keyHash k) = modThenCast D.num_servers (keyHash k))
    (hk : o.key = k) : address D keyHash o = castThenMod D.num_servers (keyHash k) := by
  subst hk
  cases o with
  | get key => exact h.symm
  | erase key => exact h.symm
  | put key data => rfl
  | putWithCallback key data => rfl
  | getWithCallback key => rfl
  | eraseWithCallback key => rfl

def SameServer (S : Service Client UInt16 (Op KeyType MappedType) (Reply MappedType)
    (MyHashMap KeyType MappedType)) (k : KeyType) : Prop :=
  ∀ c₁ c₂ o₁ o₂, o₁.key = k → o₂.key = k → S.server c₁ o₁ = S.server c₂ o₂

def BehavesAsMap [DecidableEq Client] (S : Service Client UInt16 (Op KeyType MappedType)
    (Reply MappedType) (MyHashMap KeyType MappedType)) (k : KeyType) : Prop :=
  ∀ tr st, Run S (fun _ => ∅) tr st → ∀ pre i c s o r post,
    tr = pre ++ .handle i c s o r :: post → o.key = k → r = o.reply (lastUpdate k pre).join

lemma sameServer_iff (c : Client) :
    SameServer (service D keyHash : Service Client UInt16 (Op KeyType MappedType) _ _) k ↔
      castThenMod D.num_servers (keyHash k) = modThenCast D.num_servers (keyHash k) := by
  constructor
  · intro h
    have hh := h c c (.put k default) (.get k) rfl rfl
    rwa [service_server, service_server] at hh
  · intro h c₁ c₂ o₁ o₂ h₁ h₂
    rw [service_server, service_server, address_eq h h₁, address_eq h h₂]

lemma behavesAsMap_of_eq [DecidableEq Client]
    (h : castThenMod D.num_servers (keyHash k) = modThenCast D.num_servers (keyHash k)) :
    BehavesAsMap (service D keyHash : Service Client UInt16 (Op KeyType MappedType) _ _) k := by
  rintro tr st hr pre i c s o r post rfl hk
  have ha := hr.atomic
  obtain ⟨hs, rfl⟩ := ha.handled
  rw [service_server] at hs
  have hl := stored_eq (fun o => address_eq h) ha.earlier
  rw [← hl, ← address_eq h hk, ← hs, ← hk]
  exact handle_reply

omit [Inhabited MappedType] in
lemma lastUpdate_put {v : MappedType} {c : Client} {s : UInt16} {r r' : Reply MappedType} {i j : ℕ} :
    (lastUpdate k [.invoke i c (.put k v), .handle i c s (.put k v) r, .respond i c r',
      .invoke j c (.get k)]).join = some v := by
  simp [lastUpdate, update?, Op.key, Op.update?, List.findSome?_cons]

lemma eq_of_behavesAsMap [DecidableEq Client] (c : Client)
    (h : BehavesAsMap (service D keyHash : Service Client UInt16 (Op KeyType MappedType) _ _) k) :
    castThenMod D.num_servers (keyHash k) = modThenCast D.num_servers (keyHash k) := by
  by_contra hne
  have hs : address D keyHash (.get k : Op KeyType MappedType) ≠
      address D keyHash (.put k default : Op KeyType MappedType) := Ne.symm hne
  have ha : (service D keyHash : Service Client UInt16 (Op KeyType MappedType) _ _).answer (.get k)
      (address D keyHash (.get k : Op KeyType MappedType))
      ((service D keyHash).apply (.put k default) (address D keyHash (.put k default : Op _ MappedType))
        (fun _ => ∅)) = .get (false, default) := by
    rw [Service.answer, Service.apply_other _ _ hs]
    rfl
  have hn : Run (service D keyHash : Service Client UInt16 (Op KeyType MappedType) _ _)
      (fun _ => ∅) [] _ := .nil
  have hr := (hn.call c (.put k default) rfl).call c (.get k) rfl
  have hh := h _ _ hr [.invoke 0 c (.put k default), .handle 0 c _ (.put k default) _,
    .respond 0 c _, .invoke 1 c (.get k)] 1 c _ (.get k) _ [.respond 1 c _] rfl rfl
  rw [lastUpdate_put, service_server, service_server] at hh
  exact absurd (ha.symm.trans hh) (by simp [Op.reply])

theorem one_map_iff [DecidableEq Client] (hmax : D.num_servers ≤ 65536) (c : Client) (k : KeyType) :
    (SameServer (service D keyHash : Service Client UInt16 (Op KeyType MappedType) _ _) k ↔
      D.num_servers ∣ 65536 * ((keyHash k).toNat / 65536)) ∧
    (BehavesAsMap (service D keyHash : Service Client UInt16 (Op KeyType MappedType) _ _) k ↔
      D.num_servers ∣ 65536 * ((keyHash k).toNat / 65536)) := by
  rw [← castThenMod_eq_iff D.num_servers_pos hmax]
  exact ⟨sameServer_iff c, eq_of_behavesAsMap c, behavesAsMap_of_eq⟩

theorem one_map_pair : BehavesAsMap (service .pair UInt64.ofNat : Service Bool UInt16 (Op ℕ ℕ) _ _) 65537 :=
  (one_map_iff (by decide) true 65537).2.mpr (by decide)

/-- With three servers, a client puts the key of hash 65536 on server 0 and asks server 1 for it. -/
theorem not_one_map : ¬∀ (D : Deployment Bool) (keyHash : ℕ → UInt64), D.num_servers ≤ 65536 → ∀ k,
    SameServer (service D keyHash : Service Bool UInt16 (Op ℕ ℕ) _ _) k ∧
      BehavesAsMap (service D keyHash : Service Bool UInt16 (Op ℕ ℕ) _ _) k := by
  intro h
  have hb := (h ⟨3, fun _ => ⟨0, true⟩, by decide, by decide⟩ UInt64.ofNat (by decide) 65536).2
  exact absurd (eq_of_behavesAsMap true hb) (by decide)

end Agreement

end Basket.UnorderedMap
