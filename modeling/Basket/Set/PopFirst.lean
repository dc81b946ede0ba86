import Basket.Set.Model

/-! Who gets a key of the distributed set: each insertion is removed at most once. -/

namespace Basket.Set

open Library Cluster Communication

variable {KeyType Client : Type*} {Compare : KeyType → KeyType → Prop} [DecidableRel Compare]
variable [IsStrictTotalOrder KeyType Compare] [Inhabited KeyType]
variable {D : Deployment Client} {keyHash : KeyType → UInt64}
variable {init shard : UInt16 → MySet KeyType Compare} {x : MySet KeyType Compare}
variable {tr pre mid post : Trace Client UInt16 (Op KeyType) (Reply KeyType)}
variable {k m key : KeyType} {o : Op KeyType} {s key_int : UInt16}

def Removes (k : KeyType) : Event Client UInt16 (Op KeyType) (Reply KeyType) → Prop
  | .handle _ _ _ (.erase key) (.erase found) => key = k ∧ found = true
  | .handle _ _ _ (.popFirst _) (.popFirst found) => found = (true, k)
  | _ => False

def Puts (k : KeyType) : Event Client UInt16 (Op KeyType) (Reply KeyType) → Prop
  | .handle _ _ _ (.put key) _ => key = k
  | _ => False

lemma absent_after (hk : k ∉ (shard s).entries) (hm : ∀ e ∈ mid, ¬Puts k e) :
    k ∉ ((service Compare D keyHash).after shard mid s).entries := by
  induction mid generalizing shard with
  | nil => exact hk
  | cons e mid ih =>
    refine ih ?_ fun d hd => hm d (List.mem_cons_of_mem _ hd)
    cases e with
    | invoke i c o => exact hk
    | respond i c r => exact hk
    | handle i c t o r =>
      by_cases hs : s = t
      · subst hs
        intro hin
        rw [Service.effect, Service.apply_same] at hin
        rcases mem_handle hin with rfl | hin
        · exact hm _ List.mem_cons_self rfl
        · exact hk hin
      · simpa [Service.effect, Service.apply_other _ _ hs] using hk

lemma removes_stored (hi : ∀ s, (init s).entries = []) {e : Event Client UInt16 (Op KeyType) (Reply KeyType)}
    (h : Atomic (service Compare D keyHash) init (pre ++ e :: post) shard) (hr : Removes k e) :
    k ∈ ((service Compare D keyHash).after init pre (D.home keyHash k)).entries ∧
      k ∉ ((service Compare D keyHash).after init (pre ++ [e]) (D.home keyHash k)).entries := by
  rw [Service.after_concat]
  cases e with
  | invoke i c o => exact hr.elim
  | respond i c r => exact hr.elim
  | handle i c s o r =>
    have hh := home_eq hi h.earlier
    obtain ⟨hs, ha⟩ := h.handled
    rw [service_server] at hs
    rw [Service.effect]
    generalize (service Compare D keyHash).after init pre = shard' at ha hh
    subst ha
    cases o with
    | put key => exact hr.elim
    | get key => exact hr.elim
    | seekFirst key_int => exact hr.elim
    | size key_int => exact hr.elim
    | erase key =>
      obtain ⟨rfl, ht⟩ : key = k ∧ (localErase key (shard' s)).1 = true := hr
      obtain rfl : s = D.home keyHash key := hs
      rw [Service.apply_same]
      exact ⟨localErase_iff.mp ht, fun hm => (mem_localErase.mp hm).2 rfl⟩
    | popFirst key_int =>
      have hf : (localPopFirst (shard' s)).1 = (true, k) := hr
      obtain ⟨l, he, hl⟩ := localPopFirst_found hf
      have hin : k ∈ (shard' s).entries := he ▸ List.mem_cons_self
      rw [hh s k hin, Service.apply_same]
      refine ⟨hin, fun hm => ?_⟩
      exact ((Tree.mem_tail he).mp (hl ▸ hm)).2 rfl

lemma put_between (hi : ∀ s, (init s).entries = [])
    {e₁ e₂ : Event Client UInt16 (Op KeyType) (Reply KeyType)}
    (h : Atomic (service Compare D keyHash) init (pre ++ e₁ :: (mid ++ e₂ :: post)) shard)
    (h₁ : Removes k e₁) (h₂ : Removes k e₂) : ∃ e ∈ mid, Puts k e := by
  by_contra hn
  have hs := (removes_stored hi h h₁).2
  have ha : k ∉ ((service Compare D keyHash).after _ mid _).entries :=
    absent_after hs fun e he hp => hn ⟨e, he, hp⟩
  rw [← Service.after_append] at ha
  have he : pre ++ e₁ :: (mid ++ e₂ :: post) = (pre ++ [e₁] ++ mid) ++ e₂ :: post := by simp
  exact ha (removes_stored hi (he ▸ h) h₂).1

def IsFirst (m : KeyType) (myset : MySet KeyType Compare) : Prop :=
  m ∈ myset.entries ∧ ∀ k ∈ myset.entries, k ≠ m → Compare m k

structure PopsFirst (D : Deployment Client) (keyHash : KeyType → UInt64) (s : UInt16)
    (before after : UInt16 → MySet KeyType Compare) (found : Bool × KeyType) : Prop where
  fails_iff : found.1 = false ↔ (before s).entries = []
  first : found.1 = true → IsFirst found.2 (before s)
  removed : found.1 = true → ∀ t k, k ∈ (after t).entries ↔ k ∈ (before t).entries ∧ ¬(t = s ∧ k = found.2)
  home : found.1 = true → (keyHash found.2).toNat % D.num_servers = s.toNat

lemma popsFirst (hmax : D.num_servers ≤ 65536)
    (hh : ∀ s, ∀ k ∈ (shard s).entries, D.home keyHash k = s) :
    PopsFirst D keyHash s shard ((service Compare D keyHash).apply (.popFirst key_int) s shard)
      (localPopFirst (shard s)).1 := by
  cases he : (shard s).entries with
  | nil => constructor <;> simp [localPopFirst_empty he, he]
  | cons m l =>
    obtain ⟨hm, hl⟩ := localPopFirst_cons he
    rw [hm]
    have hin : m ∈ (shard s).entries := he ▸ List.mem_cons_self
    refine ⟨by simp [he], fun _ => ⟨hin, fun k hk => Tree.head_lt he hk⟩, fun _ t k => ?_, fun _ => ?_⟩
    · by_cases hs : t = s
      · subst hs
        rw [Service.apply_same]
        change k ∈ (localPopFirst (shard t)).2.entries ↔ _
        rw [hl, Tree.mem_tail he]
        simp
      · simp [Service.apply_other _ _ hs, hs]
    · rw [← hh s m hin, Deployment.home,
        modThenCast_toNat D.num_servers_pos hmax]

theorem claimed_once [DecidableEq Client] (hmax : D.num_servers ≤ 65536)
    {st : State Client UInt16 (Op KeyType) (Reply KeyType) (MySet KeyType Compare)}
    (h : Run (service Compare D keyHash) (fun _ => .empty) tr st) :
    (∀ k pre e₁ mid e₂ post, tr = pre ++ e₁ :: (mid ++ e₂ :: post) →
      Removes k e₁ → Removes k e₂ → ∃ e ∈ mid, Puts k e) ∧
    ∀ pre i c s key_int r post, tr = pre ++ .handle i c s (.popFirst key_int) r :: post →
      s = key_int ∧ ∃ found, r = .popFirst found ∧
        PopsFirst D keyHash s ((service Compare D keyHash).after (fun _ => .empty) pre)
          ((service Compare D keyHash).after (fun _ => .empty)
            (pre ++ [.handle i c s (.popFirst key_int) r])) found := by
  have ha := h.atomic
  constructor
  · rintro k pre e₁ mid e₂ post rfl h₁ h₂
    exact put_between (fun _ => rfl) ha h₁ h₂
  · rintro pre i c s key_int r post rfl
    obtain ⟨hs, rfl⟩ := ha.handled
    rw [service_server] at hs
    refine ⟨hs, _, rfl, ?_⟩
    rw [Service.after_concat]
    exact popsFirst hmax (home_eq (fun _ => rfl) ha.earlier)

/-- Server 1 has the keys 3 and 5, and server 0 has the smaller 2. -/
theorem claimed_once_pair :
    PopsFirst .pair UInt64.ofNat 1
      ((service (· < ·) .pair UInt64.ofNat).apply (.put 2) 0
        ((service (· < ·) .pair UInt64.ofNat).apply (.put 5) 1
          ((service (· < ·) .pair UInt64.ofNat).apply (.put 3) 1 (fun _ => .empty))))
      ((service (· < ·) .pair UInt64.ofNat).apply (.popFirst 1) 1
        ((service (· < ·) .pair UInt64.ofNat).apply (.put 2) 0
          ((service (· < ·) .pair UInt64.ofNat).apply (.put 5) 1
            ((service (· < ·) .pair UInt64.ofNat).apply (.put 3) 1 (fun _ => .empty))))) (true, 3) := by
  have hn : Run (service (· < · : ℕ → ℕ → Prop) .pair UInt64.ofNat) (fun _ => .empty) [] _ := .nil
  have hr := (((hn.call true (.put 3) rfl).call true (.put 5) rfl).call false (.put 2) rfl).call false
    (.popFirst 1) rfl
  obtain ⟨-, found, hf, hp⟩ := (claimed_once (by decide) hr).2
    [.invoke 0 true (.put 3), .handle 0 true 1 (.put 3) (.put true), .respond 0 true (.put true),
      .invoke 1 true (.put 5), .handle 1 true 1 (.put 5) (.put true), .respond 1 true (.put true),
      .invoke 2 false (.put 2), .handle 2 false 0 (.put 2) (.put true), .respond 2 false (.put true),
      .invoke 3 false (.popFirst 1)] 3 false 1 1 (.popFirst (true, 3))
    [.respond 3 false (.popFirst (true, 3))] rfl
  obtain rfl := Reply.popFirst.inj hf
  exact hp

end Basket.Set
