import Basket.Guarantees
import Basket.Library.Retention

/-! What stays in a container until a call takes it out again, as the callers of any program see it. -/

namespace Basket.Retention

open Library Cluster CriticalSection Objects Library.Retention Basket.System Guarantees
open Communication hiding calls

variable {Client Obj : Type} {D : Deployment Client} [DecidableEq Client] [DecidableEq Obj]

variable (D) in
/-- In every run, what a call begins shows to every call made after it has returned, unless a third call
that ends it interferes. -/
def Kept (y : Container) (others : Obj → Container) (threads : ℕ) (begins : (y.object D).Op → Prop)
    (shows : (y.object D).Op → (y.object D).Res → Prop) (ends : (y.object D).Op → Prop)
    (tells : (y.object D).Op → (y.object D).Res → Prop) : Prop :=
  ∀ h (st : CriticalSection.State _ threads), Run y others h st → ∀ (i k : ℕ) c d o p r q, begins o →
    .invoke i (c, o) ∈ calls h → [.respond i r, .invoke k (d, p)].Sublist (calls h) →
    .respond k q ∈ calls h → shows p q ∨ Interfered (calls h) ends tells i k

section General

variable {y : Container} {others : Obj → Container} {threads : ℕ} {begins ends : (y.object D).Op → Prop}
variable {shows tells : (y.object D).Op → (y.object D).Res → Prop} (t : UInt16)

lemma kept_of_holds (holds : (y.object D).Data → Prop)
    (hs : ∀ d p q, ¬shows p q → (clusterOf D y).server d p = t)
    (ht : ∀ c o, begins o → (clusterOf D y).server c o = t)
    (hb : ∀ o x, begins o → holds ((clusterOf D y).handle o x).2)
    (asks : ∀ p x, holds x → shows p ((clusterOf D y).handle p x).1)
    (change : ∀ c o x, (clusterOf D y).server c o = t → holds x → ¬holds ((clusterOf D y).handle o x).2 →
      ends o ∧ tells o ((clusterOf D y).handle o x).1) : Kept D y others threads begins shows ends tells := by
  intro h st hr i k c d o p r q ho hi hw hk
  obtain ⟨tr, shard, ha, hh⟩ := calls_alone hr
  rw [← hh] at hi hw hk ⊢
  refine shows_or_interfered holds ha hi hw hk (fun hn => ?_) (fun _ _ => hb o _ ho) (asks p) ?_
  · rw [hs d p q hn, ht c o ho]
  · rw [ht c o ho]
    exact change

lemma kept_of_register {V : Type} (R : Register (clusterOf D y) (fun s => y.initial D s) V) (u : V)
    (hs : ∀ d p q, ¬shows p q → (clusterOf D y).server d p = t)
    (ht : ∀ c o, R.update? o = some u → (clusterOf D y).server c o = t)
    (asks : ∀ p x, R.Valid x → R.read x = u → shows p ((clusterOf D y).handle p x).1) :
    Kept D y others threads (fun o => R.update? o = some u) shows
      (fun o => ∃ u', R.update? o = some u' ∧ u' ≠ u) shows := by
  intro h st hr i k c d o p r q ho hi hw hk
  obtain ⟨tr, shard, ha, hh⟩ := calls_alone hr
  rw [← hh] at hi hw hk ⊢
  refine R.shows_or_interfered ha ho hi hw hk (fun hn => ?_) asks
  rw [hs d p q hn, ht c o ho]

end General

section Keys

variable {KeyType MappedType : Type} (Compare : KeyType → KeyType → Prop) [DecidableRel Compare]

def update? (key : KeyType) : Communication.Op KeyType MappedType → Option (Option MappedType)
  | .put key' data => if IncompRel Compare key' key then some (some data) else none
  | .erase key' => if IncompRel Compare key' key then some none else none
  | .get _ => none

def reply [Inhabited MappedType] (u : Option MappedType) :
    Communication.Op KeyType MappedType → Reply MappedType
  | .put _ _ => .put true
  | .get _ => .get (match u with
    | some data => (true, data)
    | none => (false, default))
  | .erase _ => .erase (u.isSome, default)

def Lists (key : KeyType) (u : Option MappedType) (final_values : List (KeyType × MappedType)) : Prop :=
  ∀ data, (∃ e ∈ final_values, IncompRel Compare e.1 key ∧ e.2 = data) ↔ u = some data

variable {Compare}

lemma getD_update_put {key key' : KeyType} {data : MappedType} {u : Option MappedType} :
    (update? Compare key (.put key' data)).getD u = if IncompRel Compare key' key then some data else u := by
  rw [update?]
  split_ifs <;> rfl

lemma getD_update_erase {key key' : KeyType} {u : Option MappedType} :
    (update? Compare key (.erase key')).getD u = if IncompRel Compare key' key then none else u := by
  rw [update?]
  split_ifs <;> rfl

omit [DecidableRel Compare] in
lemma Lists.unique {key : KeyType} {u u' : Option MappedType} {l : List (KeyType × MappedType)}
    (h : Lists Compare key u l) (h' : Lists Compare key u' l) : u = u' :=
  Option.ext fun data => (h data).symm.trans (h' data)

lemma Lists.replace [IsStrictWeakOrder KeyType Compare] {key key' : KeyType} {u new : Option MappedType}
    {l l' : List (KeyType × MappedType)} (h : Lists Compare key u l)
    (hl : ∀ e, e ∈ l' ↔
      (∃ data, new = some data ∧ e = (key', data)) ∨ e ∈ l ∧ ¬IncompRel Compare e.1 key') :
    Lists Compare key (if IncompRel Compare key' key then new else u) l' := by
  intro data
  split_ifs with hk
  · constructor
    · rintro ⟨e, he, hek, rfl⟩
      rcases (hl e).mp he with ⟨data, hn, rfl⟩ | ⟨-, hn⟩
      · exact hn
      · exact absurd (SortedSequence.incomp_trans hek hk.symm) hn
    · intro hn
      exact ⟨(key', data), (hl _).mpr (.inl ⟨data, hn, rfl⟩), hk, rfl⟩
  · rw [← h data]
    refine exists_congr fun e => and_congr_left fun he => (hl e).trans ⟨?_, fun hm => ?_⟩
    · rintro (⟨data, -, rfl⟩ | hm)
      · exact absurd he.1 hk
      · exact hm.1
    · exact .inr ⟨hm, fun hn => hk (SortedSequence.incomp_trans hn.symm he.1)⟩

lemma key_of_update {key : KeyType} {o : Communication.Op KeyType MappedType} {u : Option MappedType}
    (h : update? Compare key o = some u) : IncompRel Compare o.key key := by
  cases o with
  | put key' data =>
    rw [update?] at h
    split_ifs at h with hk
    exact hk
  | get key' => cases h
  | erase key' =>
    rw [update?] at h
    split_ifs at h with hk
    exact hk

end Keys

section Map

variable {KeyType MappedType : Type} [LT KeyType] [DecidableLT KeyType] [Inhabited MappedType]
variable (Compare : KeyType → KeyType → Prop) [DecidableRel Compare]

def mapUpdate? (key : KeyType) : Map.ServerCall KeyType MappedType → Option (Option MappedType)
  | .op o => update? Compare key o
  | _ => none

def mapShows (home : KeyType → UInt16) (key : KeyType) (u : Option MappedType) :
    Map.ServerCall KeyType MappedType → Map.ServerAnswer KeyType MappedType → Prop
  | .op o, r => IncompRel Compare o.key key → r = .op (reply u o)
  | .getAllDataInServer s, r => s = home key →
    ∃ final_values, r = .getAllDataInServer (some final_values) ∧ Lists Compare key u final_values
  | .containsInServer .., _ => True

variable {Compare} {key : KeyType} {u : Option MappedType} {o : Map.ServerCall KeyType MappedType}
variable {r : Map.ServerAnswer KeyType MappedType} {home : KeyType → UInt16}

omit [LT KeyType] [DecidableLT KeyType] [Inhabited MappedType] in
lemma map_server_update (hf : ∀ a b, IncompRel Compare a b → home a = home b)
    (h : mapUpdate? Compare key o = some u) : o.server home = home key := by
  cases o with
  | op o => exact hf _ _ (key_of_update h)
  | containsInServer s key_start key_end => cases h
  | getAllDataInServer s => cases h

omit [LT KeyType] [DecidableLT KeyType] [DecidableRel Compare] in
lemma map_server_shows (hf : ∀ a b, IncompRel Compare a b → home a = home b)
    (h : ¬mapShows Compare home key u o r) : o.server home = home key := by
  by_contra hn
  refine h ?_
  cases o with
  | op o => exact fun hs => absurd (hf _ _ hs) hn
  | containsInServer => trivial
  | getAllDataInServer s => exact fun hs => absurd hs hn

variable [IsStrictWeakOrder KeyType Compare]

omit [LT KeyType] [DecidableLT KeyType] [Inhabited MappedType] in
lemma lists_tree {mymap : Map.MyMap KeyType MappedType Compare} :
    Lists Compare key ((mymap.find key).map Prod.snd) mymap.entries := by
  intro data
  simp only [Option.map_eq_some_iff, Tree.find_iff, and_assoc]

lemma map_asks {mymap : Map.MyMap KeyType MappedType Compare} :
    mapShows Compare home key ((mymap.find key).map Prod.snd) o (Map.serverHandle o mymap).1 := by
  cases o with
  | op o =>
    intro hk
    have hf := Tree.find_congr (t := mymap) hk
    cases o with
    | put key' data => rfl
    | get key' =>
      refine congrArg Map.ServerAnswer.op ?_
      rw [Map.localGet_eq, ← hf]
      rfl
    | erase key' =>
      refine congrArg Map.ServerAnswer.op ?_
      change Reply.erase (Map.localErase key' mymap).1 = _
      rw [Map.localErase_eq, ← hf, reply, Option.isSome_map]
      rfl
  | containsInServer s key_start key_end => trivial
  | getAllDataInServer s => exact fun _ => ⟨_, congrArg _ Map.localGetAllDataInServer_eq, lists_tree⟩

def mapRegister (D : Deployment Client) (keyHash : KeyType → UInt64) (key : KeyType) :
    Register (Map.serverService Compare D keyHash : Service Client UInt16
      (Map.ServerCall KeyType MappedType) _ _) (fun _ => Tree.empty) (Option MappedType) where
  Valid _ := True
  read mymap := (mymap.find key).map Prod.snd
  update? := mapUpdate? Compare key
  valid_init _ := trivial
  valid_handle _ _ _ := trivial
  read_handle o mymap _ := by
    cases o with
    | op o =>
      cases o with
      | put key' data =>
        rw [mapUpdate?, getD_update_put]
        exact Map.find_localPut
      | get key' => rfl
      | erase key' =>
        rw [mapUpdate?, getD_update_erase]
        exact Map.find_localErase
    | containsInServer s key_start key_end => rfl
    | getAllDataInServer s => rfl

lemma map_kept {keyHash : KeyType → UInt64} (hc : ∀ a b, IncompRel Compare a b → keyHash a = keyHash b)
    (others : Obj → Container) (threads : ℕ) :
    Kept D (.map KeyType MappedType Compare keyHash) others threads
      (fun o => mapUpdate? Compare key o = some u) (mapShows Compare (D.home keyHash) key u)
      (fun o => ∃ u', mapUpdate? Compare key o = some u' ∧ u' ≠ u)
      (mapShows Compare (D.home keyHash) key u) := by
  have hf := D.home_congr hc
  refine kept_of_register (y := .map KeyType MappedType Compare keyHash) (D.home keyHash key)
    (mapRegister D keyHash key) u ?_ ?_ ?_
  · exact fun d p q hp => (Map.serverService_server D keyHash d p).trans (map_server_shows hf hp)
  · exact fun c o ho => (Map.serverService_server D keyHash c o).trans (map_server_update hf ho)
  · rintro p mymap - rfl
    exact map_asks

end Map

section Multimap

variable {KeyType MappedType : Type} [Inhabited MappedType] (Compare : KeyType → KeyType → Prop)
variable [DecidableRel Compare]

def multimapUpdate? (key : KeyType) : Multimap.ServerCall KeyType MappedType → Option (Option MappedType)
  | .op o => update? Compare key o
  | _ => none

def multimapShows (home : KeyType → UInt16) (key : KeyType) (u : Option MappedType) :
    Multimap.ServerCall KeyType MappedType → Multimap.ServerAnswer KeyType MappedType → Prop
  | .op o, r => IncompRel Compare o.key key → r = .op (reply u o)
  | .getAllDataInServer s, r => s = home key →
    ∃ final_values, r = .getAllDataInServer (some final_values) ∧ Lists Compare key u final_values
  | .containsInServer .., _ => True

variable {Compare} {key : KeyType} {u : Option MappedType} {o : Multimap.ServerCall KeyType MappedType}
variable {r : Multimap.ServerAnswer KeyType MappedType} {home : KeyType → UInt16}

omit [Inhabited MappedType] in
lemma multimap_server_update (hf : ∀ a b, IncompRel Compare a b → home a = home b)
    (h : multimapUpdate? Compare key o = some u) : o.server home = home key := by
  cases o with
  | op o => exact hf _ _ (key_of_update h)
  | containsInServer s key => cases h
  | getAllDataInServer s => cases h

omit [DecidableRel Compare] in
lemma multimap_server_shows (hf : ∀ a b, IncompRel Compare a b → home a = home b)
    (h : ¬multimapShows Compare home key u o r) : o.server home = home key := by
  by_contra hn
  refine h ?_
  cases o with
  | op o => exact fun hs => absurd (hf _ _ hs) hn
  | containsInServer => trivial
  | getAllDataInServer s => exact fun hs => absurd hs hn

variable [IsStrictWeakOrder KeyType Compare] {mymap : Multimap.MyMap KeyType MappedType Compare}

omit [Inhabited MappedType] in
lemma lists_multiTree (h : mymap.Unique) :
    Lists Compare key ((mymap.find key).map Prod.snd) mymap.entries := by
  intro data
  have hf (e : KeyType × MappedType) :
      mymap.find key = some e ↔ e ∈ mymap.entries ∧ IncompRel Compare e.1 key := h.find_iff
  simp only [Option.map_eq_some_iff, hf, and_assoc]

lemma multimap_localErase (h : mymap.Unique) :
    (Multimap.localErase key mymap).1 = (((mymap.find key).map Prod.snd).isSome, default) := by
  refine Prod.ext (Bool.eq_iff_iff.mpr ?_) rfl
  rw [Multimap.localErase_iff, Option.isSome_iff_exists]
  constructor
  · rintro ⟨e, he, hk⟩
    exact ⟨e.2, (lists_multiTree h e.2).mp ⟨e, he, hk, rfl⟩⟩
  · rintro ⟨data, hd⟩
    obtain ⟨e, he, hk, -⟩ := (lists_multiTree h data).mpr hd
    exact ⟨e, he, hk⟩

lemma multimap_asks {Contains : KeyType → KeyType → Bool} (h : mymap.Unique) :
    multimapShows Compare home key ((mymap.find key).map Prod.snd) o
      (Multimap.serverHandle Contains o mymap).1 := by
  cases o with
  | op o =>
    intro hk
    cases o with
    | put key' data => rfl
    | get key' =>
      have hf : mymap.find key' = mymap.find key := SortedSequence.find_incomp hk
      refine congrArg Multimap.ServerAnswer.op ?_
      rw [Multimap.localGet, hf]
      cases mymap.find key <;> rfl
    | erase key' =>
      have hf : mymap.find key' = mymap.find key := SortedSequence.find_incomp hk
      refine congrArg Multimap.ServerAnswer.op ?_
      change Reply.erase (Multimap.localErase key' mymap).1 = _
      rw [multimap_localErase h, hf]
      rfl
  | containsInServer s key => trivial
  | getAllDataInServer s => exact fun _ => ⟨_, congrArg _ Multimap.localGetAllDataInServer_eq, lists_multiTree h⟩

lemma lists_handle (h : mymap.Unique) (o : Communication.Op KeyType MappedType) :
    Lists Compare key ((update? Compare key o).getD ((mymap.find key).map Prod.snd))
      (Multimap.handle o mymap).2.entries := by
  have hl : Lists Compare key _ mymap.entries := lists_multiTree h
  cases o with
  | put key' data =>
    rw [getD_update_put]
    refine hl.replace fun e => (Multimap.mem_localPut h).trans (or_congr_left ?_)
    simp
  | get key' => exact hl
  | erase key' =>
    rw [getD_update_erase]
    refine hl.replace fun e => SortedSequence.mem_eraseKey.trans ?_
    simp

def multimapRegister (Contains : KeyType → KeyType → Bool) (D : Deployment Client)
    (keyHash : KeyType → UInt64) (key : KeyType) :
    Register (Multimap.serverService Compare Contains D keyHash : Service Client UInt16
      (Multimap.ServerCall KeyType MappedType) _ _) (fun _ => MultiTree.empty) (Option MappedType) where
  Valid := MultiTree.Unique
  read mymap := (mymap.find key).map Prod.snd
  update? := multimapUpdate? Compare key
  valid_init _ := .nil
  valid_handle o mymap h := by
    cases o with
    | op o => exact Multimap.unique_handle h
    | containsInServer s key => exact h
    | getAllDataInServer s => exact h
  read_handle o mymap h := by
    cases o with
    | op o => exact (lists_multiTree (Multimap.unique_handle h)).unique (lists_handle h o)
    | containsInServer s key => rfl
    | getAllDataInServer s => rfl

lemma multimap_kept {Contains : KeyType → KeyType → Bool} {keyHash : KeyType → UInt64}
    (hc : ∀ a b, IncompRel Compare a b → keyHash a = keyHash b)
    (others : Obj → Container) (threads : ℕ) :
    Kept D (.multimap KeyType MappedType Contains Compare keyHash) others threads
      (fun o => multimapUpdate? Compare key o = some u) (multimapShows Compare (D.home keyHash) key u)
      (fun o => ∃ u', multimapUpdate? Compare key o = some u' ∧ u' ≠ u)
      (multimapShows Compare (D.home keyHash) key u) := by
  have hf := D.home_congr hc
  have hv (c : Client) (o : Multimap.ServerCall KeyType MappedType) :
      (Multimap.serverService Compare Contains D keyHash).server c o = o.server (D.home keyHash) :=
    Multimap.serverService_server Contains D keyHash c o
  refine kept_of_register (y := .multimap KeyType MappedType Contains Compare keyHash)
    (D.home keyHash key) (multimapRegister Contains D keyHash key) u ?_ ?_ ?_
  · exact fun d p q hp => (hv d p).trans (multimap_server_shows hf hp)
  · exact fun c o ho => (hv c o).trans (multimap_server_update hf ho)
  · rintro p mymap h rfl
    exact multimap_asks h

end Multimap

section UnorderedMap

variable {KeyType MappedType : Type} [DecidableEq KeyType] [Inhabited MappedType] {key : KeyType}
variable {u : Option MappedType}

def unorderedMapUpdate? (key : KeyType) (o : UnorderedMap.Op KeyType MappedType) :
    Option (Option MappedType) :=
  if o.key = key then o.update? else none

def unorderedMapShows (key : KeyType) (u : Option MappedType) (o : UnorderedMap.Op KeyType MappedType)
    (r : Reply MappedType) : Prop :=
  o.key = key → r = o.reply u

def unorderedMapRegister (D : Deployment Client) (keyHash : KeyType → UInt64) (key : KeyType) :
    Register (UnorderedMap.service D keyHash : Service Client UInt16
      (UnorderedMap.Op KeyType MappedType) _ _) (fun _ => ∅) (Option MappedType) where
  Valid _ := True
  read myHashMap := myHashMap.lookup key
  update? := unorderedMapUpdate? key
  valid_init _ := trivial
  valid_handle _ _ _ := trivial
  read_handle o myHashMap _ := by
    refine UnorderedMap.lookup_handle.trans ?_
    rw [unorderedMapUpdate?]
    split_ifs <;> rfl

lemma unorderedMap_kept {keyHash : KeyType → UInt64} (ha : UnorderedMap.Agree D.num_servers keyHash)
    (others : Obj → Container) (threads : ℕ) :
    Kept D (.unorderedMap KeyType MappedType keyHash) others threads
      (fun o => unorderedMapUpdate? key o = some u) (unorderedMapShows key u)
      (fun o => ∃ u', unorderedMapUpdate? key o = some u' ∧ u' ≠ u) (unorderedMapShows key u) := by
  have hv (c : Client) (o : UnorderedMap.Op KeyType MappedType) (hk : o.key = key) :
      (UnorderedMap.service D keyHash).server c o = castThenMod D.num_servers (keyHash key) :=
    (UnorderedMap.service_server D keyHash c o).trans (UnorderedMap.address_eq (ha key) hk)
  refine kept_of_register (y := .unorderedMap KeyType MappedType keyHash) _
    (unorderedMapRegister D keyHash key) u (fun d p q hp => hv d p ?_) (fun c o ho => hv c o ?_) ?_
  · by_contra hn
    exact hp fun hk => absurd hk hn
  · by_contra hn
    exact absurd ((if_neg hn).symm.trans ho) (by simp)
  · rintro p myHashMap - rfl rfl
    exact UnorderedMap.handle_reply

end UnorderedMap

section Theorems

variable {KeyType MappedType : Type} [DecidableEq KeyType] [LT KeyType] [DecidableLT KeyType]
variable [Inhabited MappedType]

theorem updates_kept (Compare : KeyType → KeyType → Prop) [DecidableRel Compare]
    [IsStrictWeakOrder KeyType Compare] (Contains : KeyType → KeyType → Bool) (keyHash : KeyType → UInt64)
    (others : Obj → Container) (threads : ℕ) (key : KeyType) (u : Option MappedType) :
    ((∀ a b, IncompRel Compare a b → keyHash a = keyHash b) →
      Kept D (.map KeyType MappedType Compare keyHash) others threads
        (fun o => mapUpdate? Compare key o = some u) (mapShows Compare (D.home keyHash) key u)
        (fun o => ∃ u', mapUpdate? Compare key o = some u' ∧ u' ≠ u)
        (mapShows Compare (D.home keyHash) key u) ∧
      Kept D (.multimap KeyType MappedType Contains Compare keyHash) others threads
        (fun o => multimapUpdate? Compare key o = some u) (multimapShows Compare (D.home keyHash) key u)
        (fun o => ∃ u', multimapUpdate? Compare key o = some u' ∧ u' ≠ u)
        (multimapShows Compare (D.home keyHash) key u)) ∧
    (UnorderedMap.Agree D.num_servers keyHash →
      Kept D (.unorderedMap KeyType MappedType keyHash) others threads
        (fun o => unorderedMapUpdate? key o = some u) (unorderedMapShows key u)
        (fun o => ∃ u', unorderedMapUpdate? key o = some u' ∧ u' ≠ u) (unorderedMapShows key u)) := by
  refine ⟨fun hc => ⟨?_, ?_⟩, fun ha => unorderedMap_kept ha others threads⟩
  · exact map_kept hc others threads
  · exact multimap_kept hc others threads

/-- The `Get` does not find what was put before it, for an `Erase` is under way. -/
def putEraseGet : History .pair (beside (queueAndMultimap false) multimap) :=
  [.invoke 0 (true, ⟨none, .op (.put 1 7)⟩), .respond 0 ⟨none, .op (.put true)⟩,
    .invoke 1 (false, ⟨none, .op (.erase 1)⟩), .invoke 2 (true, ⟨none, .op (.get 1)⟩),
    .respond 2 ⟨none, .op (.get (false, 0))⟩]

lemma run_putEraseGet :
    ∃ st : CriticalSection.State (program .pair (beside (queueAndMultimap false) multimap)) 1,
      Run (queueAndMultimap false) multimap putEraseGet st := by
  have hn : CriticalSection.Run (program .pair (beside (queueAndMultimap false) multimap)) 1
    (constructed .pair (beside (queueAndMultimap false) multimap)) [] _ := .nil
  have h₁ := hn.snoc (.here (c := true) (o := ⟨none, .op (.put 1 7)⟩) rfl (by decide))
  have h₂ := h₁.snoc (.lock (c := true) rfl rfl)
  have h₃ := h₂.snoc (.work (c := true) rfl)
  have h₄ := h₃.snoc (.work (c := true) rfl)
  have h₅ := h₄.snoc (.unlock (c := true) rfl)
  have h₆ := h₅.snoc (.reply (c := true) rfl)
  have h₇ := h₆.snoc (.request (c := false) (o := ⟨none, .op (.erase 1)⟩) (s := 1) rfl (by decide))
  have h₈ := h₇.snoc (.here (c := true) (o := ⟨none, .op (.get 1)⟩) rfl (by decide))
  have h₉ := h₈.snoc (.take (c := false) (j := 0) rfl (by decide))
  have h₁₀ := h₉.snoc (.lock (c := false) rfl rfl)
  have h₁₁ := h₁₀.snoc (.work (c := false) rfl)
  have h₁₂ := h₁₁.snoc (.unlock (c := false) rfl)
  have h₁₃ := h₁₂.snoc (.lock (c := true) rfl rfl)
  have h₁₄ := h₁₃.snoc (.work (c := true) rfl)
  have h₁₅ := h₁₄.snoc (.unlock (c := true) rfl)
  exact ⟨_, h₁₅.snoc (.reply (c := true) rfl)⟩

theorem updates_kept_pair : Interfered (calls putEraseGet)
    (fun o => ∃ u', multimapUpdate? (· < · : ℕ → ℕ → Prop) 1 o = some u' ∧ u' ≠ some 7)
    (multimapShows (· < ·) (Deployment.pair.home UInt64.ofNat) 1 (some 7)) 0 2 := by
  obtain ⟨st, hr⟩ := run_putEraseGet
  have hc (a b : ℕ) (h : IncompRel (· < ·) a b) : UInt64.ofNat a = UInt64.ofNat b :=
    congrArg _ (SortedSequence.incomp_iff_eq.mp h)
  have hk := ((updates_kept (· < · : ℕ → ℕ → Prop) (· == ·) UInt64.ofNat multimap 1 1 (some 7)).1 hc).2
    putEraseGet st hr 0 2 true true (.op (.put 1 7)) (.op (.get 1)) (.op (.put true)) (.op (.get (false, 0))) rfl
    (.head _) (.cons _ (.cons_cons _ (.cons _ (.cons_cons _ (List.nil_sublist _)))))
    (.tail _ (.tail _ (.tail _ (.tail _ (.head _)))))
  refine hk.resolve_left fun hs => ?_
  exact absurd (hs ⟨lt_irrefl 1, lt_irrefl 1⟩) (by decide)

end Theorems

end Basket.Retention
