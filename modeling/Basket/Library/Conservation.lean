import Basket.Library.CriticalSectionAnswers
import Basket.Library.Projection
import Mathlib.Algebra.BigOperators.Group.Finset.Basic
import Mathlib.Algebra.Order.BigOperators.Group.Finset

/-! What is handed in to an object and handed out by it, counted over a run and over what its callers see
of the run. -/

namespace Basket.Library.Conservation

open Cluster List

lemma countP_le {α κ : Type*} {p q : α → Bool} {l : List α} (hn : l.Nodup) (key : α → κ)
    (hi : ∀ a ∈ l, p a → ∀ b ∈ l, p b → key a = key b → a = b)
    (hs : ∀ a ∈ l, p a → ∃ b ∈ l, q b ∧ key b = key a) : l.countP p ≤ l.countP q := by
  have hk : ((l.filter p).map key).Nodup := by
    apply Nodup.map_on _ (hn.filter p)
    intro a ha b hb
    obtain ⟨ha, hpa⟩ := mem_filter.mp ha
    obtain ⟨hb, hpb⟩ := mem_filter.mp hb
    exact hi a ha hpa b hb hpb
  have hm : (l.filter p).map key ⊆ (l.filter q).map key := by
    intro k hk
    obtain ⟨a, ha, rfl⟩ := mem_map.mp hk
    obtain ⟨ha, hpa⟩ := mem_filter.mp ha
    obtain ⟨b, hb, hqb, he⟩ := hs a ha hpa
    exact mem_map.mpr ⟨b, mem_filter.mpr ⟨hb, hqb⟩, he⟩
  have hl := (hk.subperm hm).length_le
  rwa [length_map, length_map, ← countP_eq_length_filter, ← countP_eq_length_filter] at hl

section Clusters

variable {Client Server Op Res σ : Type*} (p : Op → Bool) (q : Res → Bool)

def invokes : Cluster.Event Client Server Op Res → Bool
  | .invoke _ _ o => p o
  | _ => false

def takes : Cluster.Event Client Server Op Res → Bool
  | .handle _ _ _ o _ => p o
  | _ => false

def gives : Cluster.Event Client Server Op Res → Bool
  | .handle _ _ _ _ r => q r
  | _ => false

def responds : Cluster.Event Client Server Op Res → Bool
  | .respond _ _ r => q r
  | _ => false

variable {p q} [DecidableEq Server] {S : Service Client Server Op Res σ} {init shard : Server → σ}
variable {tr : Trace Client Server Op Res}

lemma takes_le_invokes (h : Atomic S init tr shard) : tr.countP (takes p) ≤ tr.countP (invokes p) := by
  apply countP_le h.nodup Event.id
  · intro e he hp f hf hq hi
    cases e <;> cases f <;> simp only [takes, Bool.false_eq_true] at hp hq
    obtain rfl := hi
    obtain ⟨rfl, rfl, rfl, rfl⟩ := h.handle_unique he hf
    rfl
  · intro e he hp
    cases e <;> simp only [takes, Bool.false_eq_true] at hp
    exact ⟨_, (h.invoke_before he).subset mem_cons_self, hp, rfl⟩

lemma respond_unique (h : Atomic S init tr shard) {i : ℕ} {c d : Client} {r r' : Res}
    (hc : .respond i c r ∈ tr) (hd : .respond i d r' ∈ tr) : c = d ∧ r = r' := by
  obtain ⟨s, o, hs⟩ := h.responded hc
  obtain ⟨t, o', ht⟩ := h.responded hd
  have hh : .handle i c s o r ∈ tr := hs.subset (by simp)
  have hh' : .handle i d t o' r' ∈ tr := ht.subset (by simp)
  obtain ⟨rfl, -, -, rfl⟩ := h.handle_unique hh hh'
  exact ⟨rfl, rfl⟩

lemma responds_le_gives (h : Atomic S init tr shard) : tr.countP (responds q) ≤ tr.countP (gives q) := by
  apply countP_le h.nodup Event.id
  · intro e he hp f hf hq hi
    cases e <;> cases f <;> simp only [responds, Bool.false_eq_true] at hp hq
    obtain rfl := hi
    obtain ⟨rfl, rfl⟩ := respond_unique h he hf
    rfl
  · intro e he hp
    cases e <;> simp only [responds, Bool.false_eq_true] at hp
    obtain ⟨s, o, hs⟩ := h.responded he
    exact ⟨_, hs.subset (mem_cons_of_mem _ mem_cons_self), hp, rfl⟩

def Answered (tr : Trace Client Server Op Res) : Prop :=
  ∀ i c o, .invoke i c o ∈ tr → ∃ d r, .respond i d r ∈ tr

lemma invokes_le_takes (h : Atomic S init tr shard) (ha : Answered tr) :
    tr.countP (invokes p) ≤ tr.countP (takes p) := by
  apply countP_le h.nodup Event.id
  · intro e he hp f hf hq hi
    cases e <;> cases f <;> simp only [invokes, Bool.false_eq_true] at hp hq
    obtain rfl := hi
    obtain ⟨rfl, rfl⟩ := h.invoke_unique he hf
    rfl
  · intro e he hp
    cases e <;> simp only [invokes, Bool.false_eq_true] at hp
    obtain ⟨d, r, hr⟩ := ha _ _ _ he
    obtain ⟨s, o, hs⟩ := h.responded hr
    obtain ⟨rfl, rfl⟩ := h.invoke_unique he (hs.subset mem_cons_self)
    exact ⟨_, hs.subset (mem_cons_of_mem _ mem_cons_self), hp, rfl⟩

lemma gives_le_responds (h : Atomic S init tr shard) (ha : Answered tr) :
    tr.countP (gives q) ≤ tr.countP (responds q) := by
  apply countP_le h.nodup Event.id
  · intro e he hp f hf hq hi
    cases e <;> cases f <;> simp only [gives, Bool.false_eq_true] at hp hq
    obtain rfl := hi
    obtain ⟨rfl, rfl, rfl, rfl⟩ := h.handle_unique he hf
    rfl
  · intro e he hp
    cases e with
    | invoke i c o => cases hp
    | respond i c r => cases hp
    | handle i c s o r =>
      obtain ⟨d, r', hr⟩ := ha i c o ((h.invoke_before he).subset mem_cons_self)
      obtain ⟨t, o', hs⟩ := h.responded hr
      have hh : .handle i d t o' r' ∈ tr := hs.subset (by simp)
      obtain ⟨rfl, -, -, rfl⟩ := h.handle_unique he hh
      exact ⟨_, hr, hp, rfl⟩

variable [Fintype Server] {stock : σ → ℕ} {r : ℕ → ℕ → Prop} [Std.Refl r] [IsTrans ℕ r]

/-- `r` is equality where nothing else changes the stock, and `≤` where something may reduce it. -/
lemma balance (ha : ∀ {m n} k, r m n → r (m + k) (n + k))
    (hs : ∀ o x, r (stock (S.handle o x).2 + (q (S.handle o x).1).toNat) (stock x + (p o).toNat))
    (h : Atomic S init tr shard) :
    r (∑ s, stock (shard s) + tr.countP (gives q)) (∑ s, stock (init s) + tr.countP (takes p)) := by
  induction h with
  | nil => exact refl_of r _
  | invoke _ _ ih => simpa [takes, gives] using ih
  | respond _ _ _ ih => simpa [takes, gives] using ih
  | @handle tr shard i c o h hi hu ih =>
    generalize S.server c o = s
    have hsum (x : σ) : ∑ t, stock (Function.update shard s x t) =
        stock x + ∑ t ∈ Finset.univ.erase s, stock (shard t) := by
      rw [← Finset.add_sum_erase _ _ (Finset.mem_univ s), Function.update_self]
      congr 1
      apply Finset.sum_congr rfl
      intro t ht
      rw [Function.update_of_ne (Finset.ne_of_mem_erase ht)]
    have hold := hsum (shard s)
    rw [Function.update_eq_self] at hold
    have hstep := ha (∑ t ∈ Finset.univ.erase s, stock (shard t) + tr.countP (gives q)) (hs o (shard s))
    have hrest := ha (p o).toNat ih
    rw [hold] at hrest
    rw [Service.apply, hsum, countP_append, countP_append]
    have hg : countP (gives q) [Cluster.Event.handle i c s o (S.answer o s shard)] =
        (q (S.handle o (shard s)).1).toNat := by
      cases hq : q (S.handle o (shard s)).1 <;> simp [gives, Service.answer, hq]
    have ht : countP (takes p) [Cluster.Event.handle i c s o (S.answer o s shard)] = (p o).toNat := by
      cases hp : p o <;> simp [takes, hp]
    rw [hg, ht, ← Nat.add_assoc (∑ s, _)]
    refine trans_of r (b := stock (shard s) + (p o).toNat +
      (∑ t ∈ Finset.univ.erase s, stock (shard t) + tr.countP (gives q))) ?_ ?_
    · convert hstep using 1
      omega
    · convert hrest using 1
      omega

end Clusters

open Linearizability CriticalSection Objects

section Callers

variable {Client Server Op Res : Type} (p : Op → Bool) (q : Res → Bool)

def invocations (h : List (Linearizability.Event ℕ (Client × Op) Res)) : ℕ :=
  h.countP fun
    | .invoke _ o => p o.2
    | _ => false

def responses (h : List (Linearizability.Event ℕ (Client × Op) Res)) : ℕ :=
  h.countP fun
    | .respond _ r => q r
    | _ => false

variable {p q} {tr : Trace Client Server Op Res}

lemma invocations_callerHistory : invocations p (callerHistory tr) = tr.countP (invokes p) := by
  rw [invocations, callerHistory, clientHistory, history, countP_filter, countP_map, countP_map]
  apply countP_congr
  intro e he
  cases e <;> simp [named, view, invokes, Linearizability.Event.visible]

lemma responses_callerHistory : responses q (callerHistory tr) = tr.countP (responds q) := by
  rw [responses, callerHistory, clientHistory, history, countP_filter, countP_map, countP_map]
  apply countP_congr
  intro e he
  cases e <;> simp [named, view, responds, Linearizability.Event.visible]

end Callers

section Objects

variable {Client Server Obj : Type} {attached : Client → Server} {objects : Obj → Object Client Server}
variable {init : Server → ∀ y, (objects y).Data} {w : ℕ}
variable {st : CriticalSection.State (system attached objects) w}
variable {h : List (Linearizability.Event ℕ (Client × Operation objects) (Result objects))}
variable {tr : Trace Client Server (Operation objects) (Result objects)}
variable {shard : Server → ∀ y, (objects y).Data} {x : Obj}

lemma free_of_quiescent (hg : Guarded shard st) (hq : st.Quiescent) (s : Server) (y : Obj) :
    st.shard s y = shard s y := by
  apply hg.free
  cases hm : st.mutex s y with
  | none => rfl
  | some c =>
    have hc := (hg.holder s y c).mp hm
    rw [hq c] at hc
    cases hc

variable [DecidableEq Server] [DecidableEq Obj]

lemma Answered.alone (hh : Atomic (system attached objects).service init tr shard) (ha : Answered tr) :
    Answered (tr.filterMap (event? x)) := by
  intro i c o hi
  obtain ⟨e, he, hx⟩ := mem_filterMap.mp hi
  rw [event?_invoke.mp hx] at he
  obtain ⟨d, ⟨y, r⟩, hr⟩ := ha _ _ _ he
  obtain ⟨s, o', hs⟩ := hh.responded hr
  obtain ⟨-, rfl⟩ := hh.invoke_unique he (hs.subset mem_cons_self)
  have hm : .handle i d s ⟨x, o⟩ ⟨y, r⟩ ∈ tr := hs.subset (by simp)
  obtain rfl : y = x := result_object hh hm
  exact ⟨d, r, mem_filterMap.mpr ⟨_, hr, event?_respond.mpr rfl⟩⟩

variable [DecidableEq Client]

lemma answered (hr : CriticalSection.Run (system attached objects) w init h st) (hq : st.Quiescent)
    (hh : callerHistory tr = h) : Answered tr := by
  intro i c o hi
  have ha := hr.answers i (c, o) (hh ▸ invoke_mem_callerHistory.mpr hi)
  rcases ha with ⟨r, hr⟩ | ⟨d, hd⟩
  · obtain ⟨d, hd⟩ := respond_mem_callerHistory.mp (hh ▸ hr)
    exact ⟨d, r, hd⟩
  · rw [hq d] at hd
    cases hd

variable [Fintype Server] {p : (objects x).Op → Bool} {q : (objects x).Res → Bool}
variable {stock : (objects x).Data → ℕ}

theorem responses_le (hr : CriticalSection.Run (system attached objects) w init h st)
    (hs : ∀ o d, stock (((objects x).body o).run d).2 + (q (((objects x).body o).run d).1).toNat ≤
      stock d + (p o).toNat) :
    responses q (h.filterMap (call? x)) ≤
      ∑ s, stock (init s x) + invocations p (h.filterMap (call? x)) := by
  obtain ⟨tr, shard, hf, rfl⟩ := hr.refines
  have ha := atomic_alone hf.atomic x
  have hb := balance (r := (· ≤ ·)) (fun k hmn => Nat.add_le_add_right hmn k) hs ha
  have hg := responds_le_gives (q := q) ha
  have ht := takes_le_invokes (p := p) ha
  rw [← callerHistory_filterMap, responses_callerHistory, invocations_callerHistory]
  omega

theorem responses_add (hr : CriticalSection.Run (system attached objects) w init h st)
    (hq : st.Quiescent)
    (hs : ∀ o d, stock (((objects x).body o).run d).2 + (q (((objects x).body o).run d).1).toNat =
      stock d + (p o).toNat) :
    responses q (h.filterMap (call? x)) + ∑ s, stock (st.shard s x) =
      ∑ s, stock (init s x) + invocations p (h.filterMap (call? x)) := by
  obtain ⟨tr, shard, hf, rfl⟩ := hr.refines
  have ha := atomic_alone hf.atomic x
  have hn := (answered hr hq rfl).alone hf.atomic (x := x)
  have hb := balance (r := (· = ·)) (fun k hmn => congrArg (· + k) hmn) hs ha
  have hg := (responds_le_gives (q := q) ha).antisymm (gives_le_responds ha hn)
  have ht := (takes_le_invokes (p := p) ha).antisymm (invokes_le_takes ha hn)
  simp only [free_of_quiescent hf.guarded hq]
  rw [← callerHistory_filterMap, responses_callerHistory, invocations_callerHistory]
  omega

end Objects

end Basket.Library.Conservation
