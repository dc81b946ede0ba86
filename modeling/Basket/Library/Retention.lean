import Basket.Library.CriticalSectionRefinement

/-! What a call brings about at a server lasts until another call ends it, as far as the callers can tell
from their own calls. -/

namespace Basket.Library.Retention

open Cluster Linearizability CriticalSection List

section Callers

variable {Client Op Res : Type*}

/-- A third call, an operation that `ends` what call `i` began, comes in time for call `k`: it may be under
way together with both of them, but it is neither answered before `i` is made nor made after `k` is
answered. Where it has an answer, that `tells` that it has ended it. -/
def Interfered (h : List (Linearizability.Event ℕ (Client × Op) Res)) (ends : Op → Prop)
    (tells : Op → Res → Prop) (i k : ℕ) : Prop :=
  ∃ m c o, m ≠ i ∧ m ≠ k ∧ ends o ∧ (∃ q, [.invoke m (c, o), .respond k q] <+ h) ∧
    (∀ r, .respond m r ∈ h → tells o r) ∧ ∀ r p, ¬[.respond m r, .invoke i p] <+ h

end Callers

lemma split_of_before {α : Type*} {l : List α} {a b : α} (h : [a, b] <+ l) :
    ∃ pre mid post, l = pre ++ a :: (mid ++ b :: post) := by
  obtain ⟨l₁, l₂, rfl, ha, hb⟩ := cons_sublist_iff.mp h
  obtain ⟨pre, mid, rfl⟩ := append_of_mem ha
  obtain ⟨mid', post, rfl⟩ := append_of_mem (singleton_sublist.mp hb)
  exact ⟨pre, mid ++ mid', post, by simp⟩

lemma before_append {α : Type*} {l l' : List α} {a b : α} (ha : a ∈ l) (hb : b ∈ l') : [a, b] <+ l ++ l' :=
  (singleton_sublist.mpr ha).append (singleton_sublist.mpr hb)

lemma not_before {α : Type*} {l : List α} (hn : l.Nodup) {a b : α} (h : [a, b] <+ l) : ¬[b, a] <+ l := by
  intro hb
  have ha := before_trans hn h hb
  exact absurd (hn.sublist ha) (by simp)

variable {Client Server Op Res σ : Type*} [DecidableEq Server] {S : Service Client Server Op Res σ}
variable {init shard : Server → σ} {tr pre mid : Trace Client Server Op Res} {s t : Server}
variable {holds : σ → Prop}

lemma ended (hp : holds (S.after init pre s)) (hn : ¬holds (S.after init (pre ++ mid) s)) :
    ∃ m c o r before behind, mid = before ++ .handle m c s o r :: behind ∧
      holds (S.after init (pre ++ before) s) ∧
      ¬holds (S.handle o (S.after init (pre ++ before) s)).2 := by
  induction mid generalizing pre with
  | nil => exact absurd hp (by simpa using hn)
  | cons e mid ih =>
    by_cases he : holds (S.after init (pre ++ [e]) s)
    · obtain ⟨m, c, o, r, before, behind, rfl, hb, ha⟩ := ih he (by simpa using hn)
      exact ⟨m, c, o, r, e :: before, behind, rfl, by simpa using hb, by simpa using ha⟩
    · rw [Service.after_concat] at he
      cases e with
      | invoke i c o => exact absurd hp he
      | respond i c r => exact absurd hp he
      | handle i c t o r =>
        by_cases ht : s = t
        · subst ht
          rw [Service.effect, Service.apply_same] at he
          exact ⟨i, c, o, r, [], mid, rfl, by simpa using hp, by simpa using he⟩
        · rw [Service.effect, Service.apply_other _ _ ht] at he
          exact absurd hp he

section Runs

variable {i k m : ℕ} {c d : Client} {o p : Op} {r q r' : Res}

lemma invoked_before (h : Atomic S init tr shard) (hb : [.handle m c s o r, .handle k d t p q] <+ tr)
    (hk : .respond k d q ∈ tr) : [.invoke m (c, o), .respond k q] <+ callerHistory tr := by
  obtain ⟨t', p', hr⟩ := h.responded hk
  have hr := (sublist_cons_self _ _).trans hr
  have hm : .handle k d t p q ∈ tr := hb.subset (by simp)
  have hm' : .handle k d t' p' q ∈ tr := hr.subset (by simp)
  obtain ⟨-, rfl, rfl, -⟩ := h.handle_unique hm hm'
  have hi := before_trans h.nodup (h.invoke_before (hb.subset mem_cons_self)) hb
  have hs := before_trans h.nodup (((sublist_cons_self _ _).cons_cons _).trans hi) hr
  have hv := ((((sublist_cons_self _ _).cons_cons _).trans hs).map named).map view
  exact hv.filter Event.visible

lemma id_ne (h : Atomic S init tr shard) (hb : [.handle m c s o r, .handle k d t p q] <+ tr) : m ≠ k := by
  rintro rfl
  have hm : .handle m c s o r ∈ tr := hb.subset (by simp)
  have hk : .handle m d t p q ∈ tr := hb.subset (by simp)
  obtain ⟨rfl, rfl, rfl, rfl⟩ := h.handle_unique hm hk
  exact not_before h.nodup hb hb

lemma ended_between {post : Trace Client Server Op Res}
    (h : Atomic S init (pre ++ .handle i c s o r :: (mid ++ .handle k d s p q :: post)) shard)
    (begins : holds (S.handle o (S.after init pre s)).2) (misses : ∀ x, holds x → (S.handle p x).1 ≠ q) :
    ∃ m c' o' x, holds x ∧ ¬holds (S.handle o' x).2 ∧
      [.handle i c s o r, .handle m c' s o' (S.handle o' x).1, .handle k d s p q] <+
        pre ++ .handle i c s o r :: (mid ++ .handle k d s p q :: post) := by
  have hp : holds (S.after init (pre ++ [.handle i c s o r]) s) := by
    rw [Service.after_concat, Service.effect, Service.apply_same]
    exact begins
  have hn : ¬holds (S.after init (pre ++ [.handle i c s o r] ++ mid) s) := by
    intro hx
    have he : pre ++ .handle i c s o r :: (mid ++ .handle k d s p q :: post) =
      (pre ++ [.handle i c s o r] ++ mid) ++ .handle k d s p q :: post := by simp
    exact misses _ hx (he ▸ h).handled.2.symm
  obtain ⟨m, c', o', r', before, behind, rfl, hx, hx'⟩ := ended hp hn
  have hr : r' = S.answer o' s (S.after init (pre ++ [.handle i c s o r] ++ before)) := by
    have he : pre ++ .handle i c s o r :: (before ++ .handle m c' s o' r' :: behind ++
        .handle k d s p q :: post) = (pre ++ [.handle i c s o r] ++ before) ++
      .handle m c' s o' r' :: (behind ++ .handle k d s p q :: post) := by simp
    exact (he ▸ h).handled.2
  subst hr
  refine ⟨m, c', o', _, hx, hx', (Sublist.cons_cons _ ?_).trans (sublist_append_right _ _)⟩
  exact before_append mem_append_cons_self mem_cons_self

lemma response_eq (h : Atomic S init tr shard) (hm : .handle m c s o r ∈ tr)
    (hr : .respond m q ∈ callerHistory tr) : q = r := by
  obtain ⟨d, hr⟩ := respond_mem_callerHistory.mp hr
  obtain ⟨t, p, hs⟩ := h.responded hr
  have hh : .handle m d t p q ∈ tr := hs.subset (by simp)
  exact (h.handle_unique hh hm).2.2.2

lemma not_answered_before (h : Atomic S init tr shard)
    (hb : [.handle i c s o r, .handle m d t p q] <+ tr) (r' : Res) (o' : Client × Op) :
    ¬[.respond m r', .invoke i o'] <+ callerHistory tr := by
  intro hm
  obtain ⟨d', hm⟩ := before_of_callerHistory hm
  have hi : .handle i c s o r ∈ tr := hb.subset mem_cons_self
  have hj : .handle m d t p q ∈ tr := hb.subset (by simp)
  obtain ⟨t', p', hs⟩ := h.responded (hm.subset mem_cons_self)
  have hj' : .handle m d' t' p' r' ∈ tr := hs.subset (by simp)
  obtain ⟨rfl, -, -, -⟩ := h.handle_unique hj hj'
  have hv : .invoke i c o ∈ tr := (h.invoke_before hi).subset mem_cons_self
  have hv' : .invoke i o'.1 o'.2 ∈ tr := hm.subset (by simp)
  obtain ⟨hc, ho⟩ := h.invoke_unique hv' hv
  rw [hc, ho] at hm
  exact not_before h.nodup hb (h.handled_before hm hj hi)

lemma interfered_of_handled (holds : σ → Prop) {ends : Op → Prop} {tells : Op → Res → Prop}
    (h : Atomic S init tr shard) (hh : [.handle i c s o r, .handle k d s p q] <+ tr)
    (hk : .respond k d q ∈ tr)
    (begins : ∀ pre post, tr = pre ++ .handle i c s o r :: post → holds (S.handle o (S.after init pre s)).2)
    (misses : ∀ x, holds x → (S.handle p x).1 ≠ q)
    (change : ∀ c o x, S.server c o = s → holds x → ¬holds (S.handle o x).2 →
      ends o ∧ tells o (S.handle o x).1) : Interfered (callerHistory tr) ends tells i k := by
  obtain ⟨pre, mid, post, rfl⟩ := split_of_before hh
  obtain ⟨m, c', o', x, hx, hx', he⟩ := ended_between h (begins pre _ rfl) misses
  have him := (sublist_append_left [_, _] [_]).trans he
  have hmk := (sublist_cons_self _ _).trans he
  have hm := hmk.subset mem_cons_self
  obtain ⟨hends, ht⟩ := change c' o' x (h.server_eq hm).symm hx hx'
  refine ⟨m, c', o', (id_ne h him).symm, id_ne h hmk, hends, ⟨q, invoked_before h hmk hk⟩, fun r' hr => ?_,
    not_answered_before h him⟩
  exact response_eq h hm hr ▸ ht

theorem shows_or_interfered (holds : σ → Prop) {shows tells : Op → Res → Prop} {ends : Op → Prop}
    (h : Atomic S init tr shard) (hi : .invoke i (c, o) ∈ callerHistory tr)
    (hb : [.respond i r, .invoke k (d, p)] <+ callerHistory tr) (hk : .respond k q ∈ callerHistory tr)
    (hs : ¬shows p q → S.server d p = S.server c o)
    (begins : ∀ pre, Atomic S init pre (S.after init pre) →
      holds (S.handle o (S.after init pre (S.server c o))).2)
    (asks : ∀ x, holds x → shows p (S.handle p x).1)
    (change : ∀ d p x, S.server d p = S.server c o → holds x → ¬holds (S.handle p x).2 →
      ends p ∧ tells p (S.handle p x).1) :
    shows p q ∨ Interfered (callerHistory tr) ends tells i k := by
  refine or_iff_not_imp_left.mpr fun hn => ?_
  have hw : .invoke k (d, p) ∈ callerHistory tr := hb.subset (by simp)
  obtain ⟨hhk, hrk⟩ := handled_of_callerHistory h hw hk
  rw [hs hn] at hhk
  have hh := handled_before_of_callerHistory h hi hb hhk
  refine interfered_of_handled holds h hh hrk ?_ (fun x hx he => hn (he ▸ asks x hx)) change
  rintro pre post rfl
  exact begins pre h.earlier

/-- A value that some operations set and no other operation changes, in the data of a server. -/
structure Register (S : Service Client Server Op Res σ) (init : Server → σ) (V : Type*) where
  Valid : σ → Prop
  read : σ → V
  update? : Op → Option V
  valid_init : ∀ s, Valid (init s)
  valid_handle : ∀ o x, Valid x → Valid (S.handle o x).2
  read_handle : ∀ o x, Valid x → read (S.handle o x).2 = (update? o).getD (read x)

theorem Register.shows_or_interfered {V : Type*} (R : Register S init V) {u : V} {shows : Op → Res → Prop}
    (h : Atomic S init tr shard) (ho : R.update? o = some u) (hi : .invoke i (c, o) ∈ callerHistory tr)
    (hb : [.respond i r, .invoke k (d, p)] <+ callerHistory tr) (hk : .respond k q ∈ callerHistory tr)
    (hs : ¬shows p q → S.server d p = S.server c o)
    (asks : ∀ p x, R.Valid x → R.read x = u → shows p (S.handle p x).1) :
    shows p q ∨
      Interfered (callerHistory tr) (fun o => ∃ u', R.update? o = some u' ∧ u' ≠ u) shows i k := by
  refine Retention.shows_or_interfered (fun x => R.Valid x ∧ R.read x = u) h hi hb hk hs ?_
    (fun x hx => asks p x hx.1 hx.2) ?_
  · intro pre hp
    have hv := hp.shard_invariant (P := fun _ => R.Valid) R.valid_init (fun _ o x => R.valid_handle o x)
    refine ⟨R.valid_handle o _ (hv _), ?_⟩
    rw [R.read_handle o _ (hv _), ho, Option.getD_some]
  · rintro d o x - ⟨hx, hr⟩ hn
    refine ⟨?_, asks o x hx hr⟩
    have hv := R.valid_handle o x hx
    have he := R.read_handle o x hx
    cases hu : R.update? o with
    | none =>
      rw [hu, Option.getD_none] at he
      exact absurd ⟨hv, he.trans hr⟩ hn
    | some u' =>
      rw [hu, Option.getD_some] at he
      exact ⟨u', rfl, fun hu => hn ⟨hv, he.trans hu⟩⟩

end Runs

end Basket.Library.Retention
