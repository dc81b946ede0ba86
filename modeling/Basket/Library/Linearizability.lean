import Basket.Library.ClusterTraces

/-! Linearizable histories, and the forward simulation that proves them for a service whose
operations are each handled by one server. -/

namespace Basket.Library.Linearizability

open List

inductive Event (ι Op Res : Type*)
  | invoke (i : ι) (o : Op)
  | effect (i : ι) (o : Op) (r : Res)
  | respond (i : ι) (r : Res)

variable {ι Op Res A : Type*}

namespace Event

def visible : Event ι Op Res → Bool
  | effect _ _ _ => false
  | _ => true

def effect? : Event ι Op Res → Option (Op × Res)
  | effect _ o r => some (o, r)
  | _ => none

def effectId? : Event ι Op Res → Option ι
  | effect i _ _ => some i
  | _ => none

end Event

def history (tr : List (Event ι Op Res)) : List (Event ι Op Res) := tr.filter Event.visible

def effects (tr : List (Event ι Op Res)) : List (Op × Res) := tr.filterMap Event.effect?

inductive Legal (spec : Op → A → Res × A) (a : A) : List (Op × Res) → A → Prop
  | nil : Legal spec a [] a
  | snoc {l : List (Op × Res)} {b : A} (o : Op) :
      Legal spec a l b → Legal spec a (l ++ [(o, (spec o b).1)]) (spec o b).2

/-- Every call takes effect once, after its invocation and before its response, and the effects
in their order are those of the sequential object. -/
structure Linearizes (spec : Op → A → Res × A) (a : A) (tr : List (Event ι Op Res)) : Prop where
  once : (tr.filterMap Event.effectId?).Nodup
  invoked : ∀ i o r, .effect i o r ∈ tr → [.invoke i o, .effect i o r] <+ tr
  responded : ∀ i r, .respond i r ∈ tr → ∃ o, [.invoke i o, .effect i o r, .respond i r] <+ tr
  legal : ∃ b, Legal spec a (effects tr) b

def Linearizable (spec : Op → A → Res × A) (a : A) (h : List (Event ι Op Res)) : Prop :=
  ∃ tr, history tr = h ∧ Linearizes spec a tr

section Clusters

open Cluster

variable {Client Server σ : Type*}

def view : Cluster.Event Client Server Op Res → Event ℕ Op Res
  | .invoke i _ o => .invoke i o
  | .handle i _ _ o r => .effect i o r
  | .respond i _ r => .respond i r

def clientHistory (tr : Trace Client Server Op Res) : List (Event ℕ Op Res) := history (tr.map view)

variable {tr : Trace Client Server Op Res}

lemma mem_view_effect {i : ℕ} {o : Op} {r : Res} (h : .effect i o r ∈ tr.map view) :
    ∃ c s, .handle i c s o r ∈ tr := by
  obtain ⟨e, he, hv⟩ := mem_map.mp h
  cases e <;> simp only [view, reduceCtorEq, Event.effect.injEq] at hv
  obtain ⟨rfl, rfl, rfl⟩ := hv
  exact ⟨_, _, he⟩

lemma mem_view_respond {i : ℕ} {r : Res} (h : .respond i r ∈ tr.map view) :
    ∃ c, .respond i c r ∈ tr := by
  obtain ⟨e, he, hv⟩ := mem_map.mp h
  cases e <;> simp only [view, reduceCtorEq, Event.respond.injEq] at hv
  obtain ⟨rfl, rfl⟩ := hv
  exact ⟨_, he⟩

variable [DecidableEq Server] {S : Service Client Server Op Res σ} {init shard : Server → σ}

def Simulates (S : Service Client Server Op Res σ) (spec : Op → A → Res × A)
    (R : (Server → σ) → A → Prop) : Prop :=
  ∀ c o shard a, R shard a →
    S.answer o (S.server c o) shard = (spec o a).1 ∧ R (S.apply o (S.server c o) shard) (spec o a).2

lemma view_once (h : Atomic S init tr shard) : ((tr.map view).filterMap Event.effectId?).Nodup := by
  induction h with
  | nil => exact nodup_nil
  | invoke _ _ ih => simpa [view, Event.effectId?, filterMap_cons] using ih
  | respond _ _ _ ih => simpa [view, Event.effectId?, filterMap_cons] using ih
  | @handle tr shard i c o h hi hu ih =>
    rw [map_append, filterMap_append]
    refine nodup_snoc ih ?_
    intro hm
    obtain ⟨e, he, hv⟩ := mem_filterMap.mp hm
    obtain ⟨f, hf, rfl⟩ := mem_map.mp he
    cases f <;> simp only [view, Event.effectId?, reduceCtorEq, Option.some.injEq] at hv
    exact hu _ _ _ _ (hv ▸ hf)

lemma Simulates.legal {spec : Op → A → Res × A} {R : (Server → σ) → A → Prop} {a : A}
    (hS : Simulates S spec R) (ha : R init a) (h : Atomic S init tr shard) :
    ∃ b, Legal spec a (effects (tr.map view)) b ∧ R shard b := by
  induction h with
  | nil => exact ⟨a, .nil, ha⟩
  | invoke _ _ ih => simpa [effects, view, Event.effect?, filterMap_cons] using ih
  | respond _ _ _ ih => simpa [effects, view, Event.effect?, filterMap_cons] using ih
  | @handle tr shard i c o h hi hu ih =>
    obtain ⟨b, hb, hr⟩ := ih
    obtain ⟨he, hr'⟩ := hS c o shard b hr
    refine ⟨_, ?_, hr'⟩
    rw [he]
    simpa [effects, view, Event.effect?, filterMap_cons] using hb.snoc o

lemma Simulates.linearizes_atomic {spec : Op → A → Res × A} {R : (Server → σ) → A → Prop} {a : A}
    (hS : Simulates S spec R) (ha : R init a) (hh : Atomic S init tr shard) :
    Linearizable spec a (clientHistory tr) := by
  refine ⟨tr.map view, rfl, view_once hh, ?_, ?_, ?_⟩
  · intro i o r hm
    obtain ⟨c, s, hm⟩ := mem_view_effect hm
    exact (hh.invoke_before hm).map view
  · intro i r hm
    obtain ⟨c, hm⟩ := mem_view_respond hm
    obtain ⟨s, o, hs⟩ := hh.responded hm
    exact ⟨o, hs.map view⟩
  · obtain ⟨b, hb, -⟩ := hS.legal ha hh
    exact ⟨b, hb⟩

theorem Simulates.linearizes [DecidableEq Client] {spec : Op → A → Res × A}
    {R : (Server → σ) → A → Prop} {a : A} {st : State Client Server Op Res σ}
    (hS : Simulates S spec R) (ha : R init a) (h : Run S init tr st) :
    Linearizable spec a (clientHistory tr) :=
  hS.linearizes_atomic ha h.atomic

end Clusters

end Basket.Library.Linearizability
