import Basket.Library.ClusterTraces
import Mathlib.Data.Set.Basic

/-! Services whose updates each belong to one key: what a server holds under a key is what the
updates of that key left there, whatever was done to other keys in between. -/

namespace Basket.Library.Cluster

variable {Client Client' Server Op Res σ U K α : Type*}

section Updates

variable [DecidableEq K]

def updates (touch : Op → Res → Option (K × U)) (k : K) (tr : Trace Client Server Op Res) : List U :=
  tr.filterMap fun
    | .handle _ _ _ o r => (touch o r).bind fun t => if t.1 = k then some t.2 else none
    | _ => none

variable {touch : Op → Res → Option (K × U)} {k k' : K} {tr : Trace Client Server Op Res}
variable {i : ℕ} {c : Client} {s : Server} {o : Op} {r : Res} {u : U}

@[simp] lemma updates_invoke : updates touch k (tr ++ [.invoke i c o]) = updates touch k tr := by
  simp [updates]

@[simp] lemma updates_respond : updates touch k (tr ++ [.respond i c r]) = updates touch k tr := by
  simp [updates]

lemma updates_none (h : touch o r = none) :
    updates touch k (tr ++ [.handle i c s o r]) = updates touch k tr := by
  simp [updates, h]

lemma updates_same (h : touch o r = some (k, u)) :
    updates touch k (tr ++ [.handle i c s o r]) = updates touch k tr ++ [u] := by
  simp [updates, h]

lemma updates_other (h : touch o r = some (k', u)) (hk : k' ≠ k) :
    updates touch k (tr ++ [.handle i c s o r]) = updates touch k tr := by
  simp [updates, h, hk]

end Updates

def under (entries : σ → List α) (key : α → K) (k : K) (x : σ) : Set α :=
  {e | e ∈ entries x ∧ key e = k}

def Replaces (entries : σ → List α) (key : α → K) (left : U → Set α) (x y : σ) :
    Option (K × U) → Prop
  | none => y = x
  | some (k, u) => (∀ e ∈ left u, key e = k) ∧ ∀ e, e ∈ entries y ↔ e ∈ left u ∨ e ∈ entries x ∧ key e ≠ k

section Entries

variable {entries : σ → List α} {key : α → K} {left : U → Set α} {x y : σ} {k k' : K} {u : U}

lemma Replaces.under_same (h : Replaces entries key left x y (some (k, u))) :
    under entries key k y = left u := by
  ext e
  refine (and_congr_left' (h.2 e)).trans ⟨?_, fun he => ⟨.inl he, h.1 e he⟩⟩
  rintro ⟨he | he, hk⟩
  · exact he
  · exact absurd hk he.2

lemma Replaces.under_other (h : Replaces entries key left x y (some (k, u))) (hk : k ≠ k') :
    under entries key k' y = under entries key k' x := by
  ext e
  refine (and_congr_left' (h.2 e)).trans (and_congr_left fun he => ?_)
  constructor
  · rintro (hl | hx)
    · exact absurd ((h.1 e hl).symm.trans he) hk
    · exact hx.1
  · exact fun hx => .inr ⟨hx, fun hn => hk (hn.symm.trans he)⟩

end Entries

structure KeyByKey [DecidableEq Server] (S : Service Client Server Op Res σ) (init : Server → σ)
    (home : K → Server) (entries : σ → List α) (key : α → K) (touch : Op → Res → Option (K × U))
    (left : U → Set α) : Prop where
  server_eq : ∀ {tr shard}, Atomic S init tr shard → ∀ c o k u,
    touch o (S.answer o (S.server c o) shard) = some (k, u) → S.server c o = home k
  replaces : ∀ {tr shard}, Atomic S init tr shard → ∀ c o,
    Replaces entries key left (shard (S.server c o)) (S.handle o (shard (S.server c o))).2
      (touch o (S.answer o (S.server c o) shard))

namespace KeyByKey

variable [DecidableEq Server] [DecidableEq K] {S : Service Client Server Op Res σ}
variable {S' : Service Client' Server Op Res σ} {init shard shard' : Server → σ} {home : K → Server}
variable {entries : σ → List α} {key : α → K} {touch : Op → Res → Option (K × U)} {left : U → Set α}
variable {tr : Trace Client Server Op Res} {tr' : Trace Client' Server Op Res}

lemma under_shard (hK : KeyByKey S init home entries key touch left) (h : Atomic S init tr shard)
    (s : Server) (k : K) : under entries key k (shard s) =
      if s = home k then (updates touch k tr).foldl (fun _ u => left u) (under entries key k (init s))
      else under entries key k (init s) := by
  induction h with
  | nil => exact (ite_self _).symm
  | invoke _ _ ih => rw [updates_invoke, ih]
  | respond _ _ _ ih => rw [updates_respond, ih]
  | @handle tr shard i c o h _ _ ih =>
    have hr := hK.replaces h c o
    cases ht : touch o (S.answer o (S.server c o) shard) with
    | none =>
      rw [ht] at hr
      have he : (S.handle o (shard (S.server c o))).2 = shard (S.server c o) := hr
      rw [updates_none ht, ← ih, Service.apply, he, Function.update_eq_self]
    | some t =>
      obtain ⟨k', u⟩ := t
      rw [ht] at hr
      have hh := hK.server_eq h c o k' u ht
      by_cases hs : s = S.server c o
      · subst hs
        rw [Service.apply_same]
        by_cases hk : k' = k
        · subst hk
          rw [updates_same ht, if_pos hh, List.foldl_append, hr.under_same]
          rfl
        · rw [updates_other ht hk, hr.under_other hk, ih]
      · rw [Service.apply_other _ _ hs, ih]
        by_cases hk : k' = k
        · subst hk
          have hn : s ≠ home k' := fun he => hs (he.trans hh.symm)
          rw [if_neg hn, if_neg hn]
        · rw [updates_other ht hk]

theorem mem_entries_congr (hK : KeyByKey S init home entries key touch left)
    (hK' : KeyByKey S' init home entries key touch left) (h : Atomic S init tr shard)
    (h' : Atomic S' init tr' shard') (hu : ∀ k, updates touch k tr = updates touch k tr') (s : Server)
    (e : α) : e ∈ entries (shard s) ↔ e ∈ entries (shard' s) := by
  have hk : under entries key (key e) (shard s) = under entries key (key e) (shard' s) := by
    rw [hK.under_shard h, hK'.under_shard h', hu]
  have he : e ∈ entries (shard s) ∧ key e = key e ↔ e ∈ entries (shard' s) ∧ key e = key e :=
    Set.ext_iff.mp hk e
  simpa using he

end KeyByKey

end Basket.Library.Cluster
