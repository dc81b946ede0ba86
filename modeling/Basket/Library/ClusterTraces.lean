import Basket.Library.Cluster
import Mathlib.Data.List.Nodup
import Mathlib.Tactic.Common

/-! The trace of a run explained as atomic operations handled one after another. -/

namespace Basket.Library.Cluster

open List

variable {Client Server Op Res σ : Type*}

lemma before_trans {α : Type*} {l : List α} (hn : l.Nodup) {a b c : α}
    (hab : [a, b] <+ l) (hbc : [b, c] <+ l) : [a, b, c] <+ l := by
  induction l with
  | nil => cases hab
  | cons x l ih =>
    obtain ⟨hx, hn⟩ := nodup_cons.mp hn
    cases hab with
    | cons _ hab =>
      cases hbc with
      | cons _ hbc => exact (ih hn hab hbc).cons x
      | cons_cons _ hc => exact absurd (hab.subset (by simp)) hx
    | cons_cons _ hb =>
      cases hbc with
      | cons _ hbc => exact hbc.cons_cons a
      | cons_cons _ hc => exact absurd (singleton_sublist.mp hb) hx

lemma before_concat {α : Type*} {l : List α} {a b : α} (ha : a ∈ l) : [a, b] <+ l ++ [b] :=
  (singleton_sublist.mpr ha).append (Sublist.refl [b])

lemma before_take {α : Type*} {l : List α} (hn : l.Nodup) {a b : α} {n : ℕ} (hab : [a, b] <+ l)
    (hb : b ∈ l.take n) : [a, b] <+ l.take n := by
  induction l generalizing n with
  | nil => cases hab
  | cons x l ih =>
    obtain ⟨hx, hn⟩ := nodup_cons.mp hn
    cases n with
    | zero => simp at hb
    | succ n =>
      rw [take_succ_cons] at hb ⊢
      have hbl : b ∈ l := by
        cases hab with
        | cons _ hab => exact hab.subset (by simp)
        | cons_cons _ hb => exact singleton_sublist.mp hb
      have hbx : b ∈ l.take n := (mem_cons.mp hb).resolve_left fun he => hx (he ▸ hbl)
      cases hab with
      | cons _ hab => exact (ih hn hab hbx).cons x
      | cons_cons _ _ => exact (singleton_sublist.mpr hbx).cons_cons a

lemma nodup_snoc {α : Type*} {l : List α} {a : α} (hn : l.Nodup) (ha : a ∉ l) : (l ++ [a]).Nodup := by
  simpa using Nodup.concat ha hn

lemma filterMap_snoc {α β : Type*} {f : α → Option β} {l : List α} {a : α} :
    (l ++ [a]).filterMap f = l.filterMap f ++ (f a).toList := by
  cases h : f a <;> simp [h]

namespace Event

def id : Event Client Server Op Res → ℕ
  | invoke i _ _ => i
  | handle i _ _ _ _ => i
  | respond i _ _ => i

end Event

section Replay

variable [DecidableEq Server] (S : Service Client Server Op Res σ)

def Service.effect (shard : Server → σ) : Event Client Server Op Res → Server → σ
  | .handle _ _ s o _ => S.apply o s shard
  | _ => shard

def Service.after (init : Server → σ) (tr : Trace Client Server Op Res) : Server → σ :=
  tr.foldl S.effect init

variable {S} {init : Server → σ} {tr tr' : Trace Client Server Op Res}

lemma Service.after_append : S.after init (tr ++ tr') = S.after (S.after init tr) tr' := by
  simp [after]

@[simp] lemma Service.after_concat {e : Event Client Server Op Res} :
    S.after init (tr ++ [e]) = S.effect (S.after init tr) e := by
  simp [after]

end Replay

/-- The trace up to now, with the shards it leaves: invocations and responses change nothing, and
each handled operation acts on the server of its call. -/
inductive Atomic [DecidableEq Server] (S : Service Client Server Op Res σ) (init : Server → σ) :
    Trace Client Server Op Res → (Server → σ) → Prop
  | nil : Atomic S init [] init
  | invoke {tr : Trace Client Server Op Res} {shard : Server → σ} {i : ℕ} {c : Client} {o : Op} :
      Atomic S init tr shard → (∀ e ∈ tr, e.id ≠ i) → Atomic S init (tr ++ [.invoke i c o]) shard
  | handle {tr : Trace Client Server Op Res} {shard : Server → σ} {i : ℕ} {c : Client} {o : Op} :
      Atomic S init tr shard → .invoke i c o ∈ tr → (∀ d s p r, .handle i d s p r ∉ tr) →
      Atomic S init (tr ++ [.handle i c (S.server c o) o (S.answer o (S.server c o) shard)])
        (S.apply o (S.server c o) shard)
  | respond {tr : Trace Client Server Op Res} {shard : Server → σ} {i : ℕ} {c : Client}
      {s : Server} {o : Op} {r : Res} :
      Atomic S init tr shard → .handle i c s o r ∈ tr → (∀ d p, .respond i d p ∉ tr) →
      Atomic S init (tr ++ [.respond i c r]) shard

namespace Atomic

variable [DecidableEq Server] {S : Service Client Server Op Res σ} {init shard : Server → σ}
variable {tr : Trace Client Server Op Res} {i j : ℕ} {c d : Client} {s t : Server} {o p : Op} {r q r' : Res}

lemma shard_eq (h : Atomic S init tr shard) : shard = S.after init tr := by
  induction h with
  | nil => rfl
  | invoke _ _ ih => simpa [Service.effect] using ih
  | handle _ _ _ ih => rw [Service.after_concat, ← ih, Service.effect]
  | respond _ _ _ ih => simpa [Service.effect] using ih

lemma invariant {P : (Server → σ) → Prop} (hi : P init)
    (hs : ∀ c o shard, P shard → P (S.apply o (S.server c o) shard)) (h : Atomic S init tr shard) :
    P shard := by
  induction h with
  | nil => exact hi
  | invoke _ _ ih => exact ih
  | handle _ _ _ ih => exact hs _ _ _ ih
  | respond _ _ _ ih => exact ih

lemma shard_invariant {P : Server → σ → Prop} (hi : ∀ s, P s (init s))
    (hs : ∀ c o x, P (S.server c o) x → P (S.server c o) (S.handle o x).2)
    (h : Atomic S init tr shard) (s : Server) : P s (shard s) := by
  refine h.invariant (P := fun shard => ∀ s, P s (shard s)) hi ?_ s
  intro c o shard ih s
  by_cases he : s = S.server c o
  · subst he
    simpa using hs c o _ (ih _)
  · simpa [S.apply_other o he] using ih s

lemma earlier {pre post : Trace Client Server Op Res} (h : Atomic S init (pre ++ post) shard) :
    Atomic S init pre (S.after init pre) := by
  suffices hs : ∃ shard', Atomic S init pre shard' by
    obtain ⟨shard', hs⟩ := hs
    exact hs.shard_eq ▸ hs
  generalize he : pre ++ post = tr at h
  have hp : pre <+: tr := he ▸ prefix_append pre post
  clear he
  induction h with
  | nil => exact ⟨init, by rw [prefix_nil.mp hp]; exact .nil⟩
  | invoke h hi ih =>
    rcases prefix_concat_iff.mp hp with rfl | hp
    · exact ⟨_, h.invoke hi⟩
    · exact ih hp
  | handle h hi hu ih =>
    rcases prefix_concat_iff.mp hp with rfl | hp
    · exact ⟨_, h.handle hi hu⟩
    · exact ih hp
  | respond h hi hu ih =>
    rcases prefix_concat_iff.mp hp with rfl | hp
    · exact ⟨_, h.respond hi hu⟩
    · exact ih hp

lemma handled {pre post : Trace Client Server Op Res}
    (h : Atomic S init (pre ++ .handle i c s o r :: post) shard) :
    s = S.server c o ∧ r = S.answer o s (S.after init pre) := by
  have ha := (by simpa using h : Atomic S init ((pre ++ [.handle i c s o r]) ++ post) shard).earlier
  generalize S.after init (pre ++ [.handle i c s o r]) = after at ha
  generalize he : pre ++ [.handle i c s o r] = tr at ha
  cases ha with
  | nil => simp at he
  | invoke h hi => simp at he
  | respond h hi hu => simp at he
  | handle hp hi hu =>
    obtain ⟨rfl, hh⟩ := append_inj' he rfl
    simp only [cons.injEq, Event.handle.injEq, and_true] at hh
    obtain ⟨rfl, rfl, rfl, rfl, rfl⟩ := hh
    exact ⟨rfl, by rw [hp.shard_eq]⟩

lemma server_eq (h : Atomic S init tr shard) (hm : .handle i c s o r ∈ tr) : s = S.server c o := by
  obtain ⟨pre, post, rfl⟩ := append_of_mem hm
  exact h.handled.1

lemma invoke_before (h : Atomic S init tr shard) (hm : .handle i c s o r ∈ tr) :
    [.invoke i c o, .handle i c s o r] <+ tr := by
  induction h with
  | nil => simp at hm
  | invoke h hi ih => exact (ih (by simpa using hm)).trans (sublist_append_left _ _)
  | respond h hi hu ih => exact (ih (by simpa using hm)).trans (sublist_append_left _ _)
  | handle h hi hu ih =>
    rcases mem_append.mp hm with hm | hm
    · exact (ih hm).trans (sublist_append_left _ _)
    · simp only [mem_singleton, Event.handle.injEq] at hm
      obtain ⟨rfl, rfl, rfl, rfl, rfl⟩ := hm
      exact before_concat hi

lemma nodup (h : Atomic S init tr shard) : tr.Nodup := by
  induction h with
  | nil => exact nodup_nil
  | invoke h hi ih => exact nodup_snoc ih (fun hm => hi _ hm rfl)
  | handle h hi hu ih => exact nodup_snoc ih (hu _ _ _ _)
  | respond h hi hu ih => exact nodup_snoc ih (hu _ _)

lemma invoke_unique (h : Atomic S init tr shard) (hc : .invoke i c o ∈ tr) (hd : .invoke i d p ∈ tr) :
    c = d ∧ o = p := by
  induction h with
  | nil => simp at hc
  | handle h hi hu ih => exact ih (by simpa using hc) (by simpa using hd)
  | respond h hi hu ih => exact ih (by simpa using hc) (by simpa using hd)
  | invoke h hi ih =>
    rcases mem_append.mp hc with hc | hc <;> rcases mem_append.mp hd with hd | hd
    · exact ih hc hd
    · exact absurd (by simp_all [Event.id]) (hi _ hc)
    · exact absurd (by simp_all [Event.id]) (hi _ hd)
    · simp_all

lemma handle_unique (h : Atomic S init tr shard) (hc : .handle i c s o r ∈ tr)
    (hd : .handle i d t p q ∈ tr) : c = d ∧ s = t ∧ o = p ∧ r = q := by
  induction h with
  | nil => simp at hc
  | invoke h hi ih => exact ih (by simpa using hc) (by simpa using hd)
  | respond h hi hu ih => exact ih (by simpa using hc) (by simpa using hd)
  | handle h hi hu ih =>
    rcases mem_append.mp hc with hc | hc <;> rcases mem_append.mp hd with hd | hd
    · exact ih hc hd
    · simp only [mem_singleton, Event.handle.injEq] at hd
      exact absurd (hd.1 ▸ hc) (hu _ _ _ _)
    · simp only [mem_singleton, Event.handle.injEq] at hc
      exact absurd (hc.1 ▸ hd) (hu _ _ _ _)
    · simp_all

lemma responded (h : Atomic S init tr shard) (hm : .respond i c r ∈ tr) :
    ∃ s o, [.invoke i c o, .handle i c s o r, .respond i c r] <+ tr := by
  induction h with
  | nil => simp at hm
  | invoke h hi ih =>
    obtain ⟨s, o, hs⟩ := ih (by simpa using hm)
    exact ⟨s, o, hs.trans (sublist_append_left _ _)⟩
  | handle h hi hu ih =>
    obtain ⟨s, o, hs⟩ := ih (by simpa using hm)
    exact ⟨s, o, hs.trans (sublist_append_left _ _)⟩
  | respond h hi hu ih =>
    rcases mem_append.mp hm with hm | hm
    · obtain ⟨s, o, hs⟩ := ih hm
      exact ⟨s, o, hs.trans (sublist_append_left _ _)⟩
    · simp only [mem_singleton, Event.respond.injEq] at hm
      obtain ⟨rfl, rfl, rfl⟩ := hm
      exact ⟨_, _, (h.invoke_before hi).append (Sublist.refl [_])⟩

lemma handle_mem (h : Atomic S init tr shard) (hi : .invoke i c o ∈ tr) (hr : .respond i c r ∈ tr) :
    .handle i c (S.server c o) o r ∈ tr := by
  obtain ⟨s, p, hs⟩ := h.responded hr
  have hv : .invoke i c p ∈ tr := hs.subset (by simp)
  obtain ⟨-, rfl⟩ := h.invoke_unique hi hv
  have hh : .handle i c s o r ∈ tr := hs.subset (by simp)
  exact h.server_eq hh ▸ hh

lemma handled_before (h : Atomic S init tr shard) (hb : [.respond i c r, .invoke j d p] <+ tr)
    (hi : .handle i c s o q ∈ tr) (hj : .handle j d t p r' ∈ tr) :
    [.handle i c s o q, .handle j d t p r'] <+ tr := by
  have hm : .respond i c r ∈ tr := hb.subset (by simp)
  obtain ⟨s', o', hs⟩ := h.responded hm
  have hh : .handle i c s' o' r ∈ tr := hs.subset (by simp)
  obtain ⟨-, rfl, rfl, rfl⟩ := h.handle_unique hi hh
  have hr := before_trans h.nodup ((sublist_cons_self _ _).trans hs) hb
  have hv := before_trans h.nodup (((sublist_cons_self _ _).cons_cons _).trans hr) (h.invoke_before hj)
  exact ((sublist_cons_self _ _).cons_cons _).trans hv

end Atomic

section Runs

variable {S : Service Client Server Op Res σ}
variable {init : Server → σ} {tr es : Trace Client Server Op Res} {st st' : State Client Server Op Res σ}

/-- What the calls in the network owe to the trace. -/
structure Linked (S : Service Client Server Op Res σ) (tr : Trace Client Server Op Res)
    (st : State Client Server Op Res σ) : Prop where
  bound : ∀ e ∈ tr, e.id < st.calls
  request : ∀ c i s o, st.flight c = .request i s o →
    s = S.server c o ∧ .invoke i c o ∈ tr ∧ ∀ d t p r, .handle i d t p r ∉ tr
  reply : ∀ c i r, st.flight c = .reply i r →
    (∃ s o, .handle i c s o r ∈ tr) ∧ ∀ d q, .respond i d q ∉ tr

lemma linked_nil : Linked S ([] : Trace Client Server Op Res) ⟨init, fun _ => .idle, 0⟩ := by
  constructor <;> simp

lemma Linked.fresh (hl : Linked S tr st) : ∀ e ∈ tr, e.id ≠ st.calls :=
  fun e he => Nat.ne_of_lt (hl.bound e he)

lemma Linked.here (hl : Linked S tr st) (c : Client) (s : Server) (o : Op) (r : Res)
    (shard : Server → σ) :
    Linked S (tr ++ [.invoke st.calls c o, .handle st.calls c s o r, .respond st.calls c r])
      { st with shard := shard, calls := st.calls + 1 } where
  bound e he := by
    rcases mem_append.mp he with he | he
    · exact Nat.lt_succ_of_lt (hl.bound e he)
    · simp only [mem_cons, not_mem_nil, or_false] at he
      rcases he with rfl | rfl | rfl <;> exact Nat.lt_succ_self _
  request d i t p hf := by
    obtain ⟨hs, hi, hu⟩ := hl.request d i t p hf
    refine ⟨hs, mem_append_left _ hi, fun d' t' p' r' hm => ?_⟩
    rcases mem_append.mp hm with hm | hm
    · exact hu _ _ _ _ hm
    · exact hl.fresh _ hi (by simp_all [Event.id])
  reply d i q hf := by
    obtain ⟨⟨t, p, hh⟩, hu⟩ := hl.reply d i q hf
    refine ⟨⟨t, p, mem_append_left _ hh⟩, fun d' q' hm => ?_⟩
    rcases mem_append.mp hm with hm | hm
    · exact hu _ _ hm
    · exact hl.fresh _ hh (by simp_all [Event.id])

variable [DecidableEq Client]

lemma Linked.send (hl : Linked S tr st) {c : Client} {s : Server} {o : Op} (hd : s = S.server c o) :
    Linked S (tr ++ [.invoke st.calls c o])
      { st with
        flight := Function.update st.flight c (.request st.calls s o)
        calls := st.calls + 1 } where
  bound e he := by
    rcases mem_append.mp he with he | he
    · exact Nat.lt_succ_of_lt (hl.bound e he)
    · rw [mem_singleton.mp he]
      exact Nat.lt_succ_self _
  request d i t p hf := by
    by_cases hc : d = c
    · subst hc
      simp only [Function.update_self, Flight.request.injEq] at hf
      obtain ⟨rfl, rfl, rfl⟩ := hf
      exact ⟨hd, by simp, fun d' t' p' r' hm => hl.fresh _ (by simpa using hm) rfl⟩
    · obtain ⟨hs, hi, hu⟩ := hl.request d i t p (by simpa [hc] using hf)
      exact ⟨hs, mem_append_left _ hi, by simpa using hu⟩
  reply d i q hf := by
    by_cases hc : d = c
    · simp [hc] at hf
    · obtain ⟨⟨t, p, hh⟩, hu⟩ := hl.reply d i q (by simpa [hc] using hf)
      exact ⟨⟨t, p, mem_append_left _ hh⟩, by simpa using hu⟩

variable [DecidableEq Server]

lemma Linked.serve (hl : Linked S tr st) (ha : Atomic S init tr st.shard) {c : Client} {i : ℕ}
    {s : Server} {o : Op} (hf : st.flight c = .request i s o) (r : Res) (shard : Server → σ) :
    Linked S (tr ++ [.handle i c s o r])
      { st with shard := shard, flight := Function.update st.flight c (.reply i r) } where
  bound e he := by
    rcases mem_append.mp he with he | he
    · exact hl.bound e he
    · rw [mem_singleton.mp he]
      have hi := hl.bound _ (hl.request c i s o hf).2.1
      exact hi
  request d j t p hg := by
    have hc : d ≠ c := by
      rintro rfl
      simp at hg
    have hg : st.flight d = .request j t p := by simpa [hc] using hg
    obtain ⟨hs, hi, hu⟩ := hl.request d j t p hg
    refine ⟨hs, mem_append_left _ hi, fun d' t' p' r' hm => ?_⟩
    rcases mem_append.mp hm with hm | hm
    · exact hu _ _ _ _ hm
    · simp only [mem_singleton, Event.handle.injEq] at hm
      exact hc (ha.invoke_unique hi (hm.1 ▸ (hl.request c i s o hf).2.1)).1
  reply d j q hg := by
    by_cases hc : d = c
    · subst hc
      simp only [Function.update_self, Flight.reply.injEq] at hg
      obtain ⟨rfl, rfl⟩ := hg
      refine ⟨⟨s, o, by simp⟩, fun d' q' hm => ?_⟩
      obtain ⟨t, p, hs⟩ := ha.responded (by simpa using hm)
      have hh : .handle i d' t p q' ∈ tr := hs.subset (by simp)
      exact (hl.request d i s o hf).2.2 _ _ _ _ hh
    · obtain ⟨⟨t, p, hh⟩, hu⟩ := hl.reply d j q (by simpa [hc] using hg)
      exact ⟨⟨t, p, mem_append_left _ hh⟩, by simpa using hu⟩

lemma Linked.receive (hl : Linked S tr st) (ha : Atomic S init tr st.shard) {c : Client} {i : ℕ}
    {r : Res} (hf : st.flight c = .reply i r) :
    Linked S (tr ++ [.respond i c r]) { st with flight := Function.update st.flight c .idle } where
  bound e he := by
    rcases mem_append.mp he with he | he
    · exact hl.bound e he
    · obtain ⟨⟨s, o, hh⟩, -⟩ := hl.reply c i r hf
      have hi := hl.bound _ hh
      rw [mem_singleton.mp he]
      exact hi
  request d j t p hg := by
    have hc : d ≠ c := by
      rintro rfl
      simp at hg
    obtain ⟨hs, hi, hu⟩ := hl.request d j t p (by simpa [hc] using hg)
    exact ⟨hs, mem_append_left _ hi, by simpa using hu⟩
  reply d j q hg := by
    have hc : d ≠ c := by
      rintro rfl
      simp at hg
    obtain ⟨⟨t, p, hh⟩, hu⟩ := hl.reply d j q (by simpa [hc] using hg)
    refine ⟨⟨t, p, mem_append_left _ hh⟩, fun d' q' hm => ?_⟩
    rcases mem_append.mp hm with hm | hm
    · exact hu _ _ hm
    · simp only [mem_singleton, Event.respond.injEq] at hm
      obtain ⟨⟨s, o, hh'⟩, -⟩ := hl.reply c i r hf
      exact hc (ha.handle_unique hh (hm.1 ▸ hh')).1

lemma step_atomic (ha : Atomic S init tr st.shard) (hl : Linked S tr st) (h : Step S st es st') :
    Atomic S init (tr ++ es) st'.shard ∧ Linked S (tr ++ es) st' := by
  cases h with
  | @here c o hf hd =>
    refine ⟨?_, hl.here c _ o _ _⟩
    rw [← S.server_here hd]
    have hi := ha.invoke (c := c) (o := o) hl.fresh
    have hh := hi.handle (mem_append_right _ (mem_singleton_self _))
      (fun d s p r hm => hl.fresh _ (by simpa using hm) rfl)
    have hr := hh.respond (mem_append_right _ (mem_singleton_self _))
      (fun d q hm => hl.fresh _ (by simpa using hm) rfl)
    simpa using hr
  | @request c o s hf hd => exact ⟨ha.invoke hl.fresh, hl.send (S.server_rpc hd).symm⟩
  | @serve c i s o hf =>
    obtain ⟨rfl, hi, hu⟩ := hl.request c i s o hf
    exact ⟨ha.handle hi hu, hl.serve ha hf _ _⟩
  | @reply c i r hf =>
    obtain ⟨⟨s, o, hh⟩, hu⟩ := hl.reply c i r hf
    exact ⟨ha.respond hh hu, hl.receive ha hf⟩

theorem Run.linked (h : Run S init tr st) : Atomic S init tr st.shard ∧ Linked S tr st := by
  induction h with
  | nil => exact ⟨.nil, linked_nil⟩
  | snoc _ hs ih => exact step_atomic ih.1 ih.2 hs

theorem Run.atomic (h : Run S init tr st) : Atomic S init tr st.shard :=
  h.linked.1

end Runs

end Basket.Library.Cluster
