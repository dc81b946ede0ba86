import Basket.Library.ClusterTraces
import Mathlib.Data.List.Count
import Mathlib.Tactic.Ring

/-! Queries answered by reading one server after another. -/

namespace Basket.Library

open Cluster

section Quiet

variable {Server α : Type*}

lemma count_flatMap_home [DecidableEq Server] [BEq α] [LawfulBEq α] {read : Server → List α} {home : Server}
    {e : α} (h : ∀ s, s ≠ home → e ∉ read s) (visited : List Server) :
    (visited.flatMap read).count e = visited.count home * (read home).count e := by
  induction visited with
  | nil => simp
  | cons s visited ih =>
    rw [List.flatMap_cons, List.count_append, ih, List.count_cons]
    by_cases hs : s = home
    · simp [hs]
      ring
    · simp [hs, List.count_eq_zero_of_not_mem (h s hs)]

end Quiet

namespace Gather

variable {Client Server Op Res σ α : Type*} [DecidableEq Client] [DecidableEq Server]

structure Query (Client Server Op Res σ α : Type*) where
  cluster : State Client Server Op Res σ
  todo : List Server
  final_values : List α

inductive Step (S : Service Client Server Op Res σ) (read : σ → List α → Prop) :
    Query Client Server Op Res σ α → Query Client Server Op Res σ α → Prop
  | other {st st' : State Client Server Op Res σ} {todo : List Server} {final_values : List α}
      {es : Trace Client Server Op Res} (h : Cluster.Step S st es st') :
      Step S read ⟨st, todo, final_values⟩ ⟨st', todo, final_values⟩
  | read {st : State Client Server Op Res σ} {s : Server} {todo : List Server}
      {final_values server : List α} (h : read (st.shard s) server) :
      Step S read ⟨st, s :: todo, final_values⟩ ⟨st, todo, final_values ++ server⟩

inductive Run (S : Service Client Server Op Res σ) (read : σ → List α → Prop)
    (q : Query Client Server Op Res σ α) :
    List (State Client Server Op Res σ) → Query Client Server Op Res σ α → Prop
  | call : Run S read q [q.cluster] q
  | snoc {moments : List (State Client Server Op Res σ)} {p p' : Query Client Server Op Res σ α} :
      Run S read q moments p → Step S read p p' → Run S read q (moments ++ [p'.cluster]) p'

variable {K : Type*} {S : Service Client Server Op Res σ} {read : σ → List α → Prop}

structure Placed (entries : σ → List α) (key : α → K) (home : K → Server)
    (st : State Client Server Op Res σ) : Prop where
  home_eq : ∀ s, ∀ e ∈ entries (st.shard s), home (key e) = s
  nodup : ∀ s, ((entries (st.shard s)).map key).Nodup

def Stored (entries : σ → List α) (st : State Client Server Op Res σ) (e : α) : Prop :=
  ∃ s, e ∈ entries (st.shard s)

variable {entries : σ → List α} {key : α → K} {home : K → Server}

omit [DecidableEq Client] in
lemma home_eq_of_handle {init shard : Server → σ} {tr : Trace Client Server Op Res}
    (hi : ∀ s, entries (init s) = [])
    (hs : ∀ c o x, ∀ e ∈ entries (S.handle o x).2,
      home (key e) = S.server c o ∨ ∃ d ∈ entries x, key e = key d)
    (h : Atomic S init tr shard) (s : Server) : ∀ e ∈ entries (shard s), home (key e) = s := by
  refine h.shard_invariant (P := fun s x => ∀ e ∈ entries x, home (key e) = s) ?_ ?_ s
  · simp [hi]
  · intro c o x ih e he
    rcases hs c o x e he with hh | ⟨d, hd, hk⟩
    · exact hh
    · rw [hk, ih d hd]

variable {order visited : List Server} {moments : List (State Client Server Op Res σ)}
variable {q q' : Query Client Server Op Res σ α}

structure Progress (entries : σ → List α) (key : α → K) (home : K → Server) (visited : List Server)
    (moments : List (State Client Server Op Res σ)) (q : Query Client Server Op Res σ α) : Prop where
  current : q.cluster ∈ moments
  nodup : (q.final_values.map key).Nodup
  home_mem : ∀ e ∈ q.final_values, home (key e) ∈ visited
  stored : ∀ e ∈ q.final_values, ∃ st ∈ moments, Stored entries st e
  complete : ∀ k, home k ∈ visited →
    (∀ st ∈ moments, ∃ e, Stored entries st e ∧ key e = k) → k ∈ q.final_values.map key

omit [DecidableEq Client] [DecidableEq Server] in
lemma Progress.visit {st : State Client Server Op Res σ} {s : Server} {todo : List Server}
    {final_values server : List α}
    (h : Progress entries key home visited moments ⟨st, s :: todo, final_values⟩)
    (hp : Placed entries key home st) (hs : s ∉ visited) (hr : server.Perm (entries (st.shard s))) :
    Progress entries key home (visited ++ [s]) (moments ++ [st]) ⟨st, todo, final_values ++ server⟩ where
  current := by simp
  nodup := by
    have hn := (hr.map key).nodup_iff.mpr (hp.nodup s)
    rw [List.map_append, List.nodup_append]
    refine ⟨h.nodup, hn, ?_⟩
    rintro k hk k' hk' rfl
    obtain ⟨e, he, rfl⟩ := List.mem_map.mp hk
    obtain ⟨e', he', hkey⟩ := List.mem_map.mp hk'
    have hv := h.home_mem e he
    rw [← hkey, hp.home_eq s e' (hr.mem_iff.mp he')] at hv
    exact hs hv
  home_mem e he := by
    rcases List.mem_append.mp he with he | he
    · exact List.mem_append_left _ (h.home_mem e he)
    · rw [hp.home_eq s e (hr.mem_iff.mp he)]
      simp
  stored e he := by
    rcases List.mem_append.mp he with he | he
    · obtain ⟨m, hm, hs⟩ := h.stored e he
      exact ⟨m, List.mem_append_left _ hm, hs⟩
    · exact ⟨st, by simp, s, hr.mem_iff.mp he⟩
  complete k hk hall := by
    rw [List.map_append, List.mem_append]
    rcases List.mem_append.mp hk with hk | hk
    · exact .inl (h.complete k hk fun m hm => hall m (List.mem_append_left _ hm))
    · obtain ⟨e, ⟨t, he⟩, rfl⟩ := hall st (by simp)
      have ht : t = s := (hp.home_eq t e he).symm.trans (List.mem_singleton.mp hk)
      exact .inr (List.mem_map.mpr ⟨e, hr.mem_iff.mpr (ht ▸ he), rfl⟩)

lemma Run.progress (hr : ∀ x l, read x l → l.Perm (entries x)) (ho : order.Nodup)
    {st : State Client Server Op Res σ} (h : Run S read ⟨st, order, []⟩ moments q)
    (hp : ∀ m ∈ moments, Placed entries key home m) :
    ∃ visited, visited ++ q.todo = order ∧ Progress entries key home visited moments q := by
  induction h with
  | call => exact ⟨[], rfl, by constructor <;> simp⟩
  | snoc _ hs ih =>
    obtain ⟨visited, he, hg⟩ := ih fun m hm => hp m (List.mem_append_left _ hm)
    cases hs with
    | other h =>
      refine ⟨visited, he, by simp, hg.nodup, hg.home_mem, fun e hm => ?_, fun k hk hall => ?_⟩
      · obtain ⟨m, hm, hs⟩ := hg.stored e hm
        exact ⟨m, List.mem_append_left _ hm, hs⟩
      · exact hg.complete k hk fun m hm => hall m (List.mem_append_left _ hm)
    | @read st s todo final_values server h =>
      have hs : s ∉ visited := by
        have hn := he ▸ ho
        exact fun hv => (List.nodup_append.mp hn).2.2 s hv s List.mem_cons_self rfl
      exact ⟨visited ++ [s], by simpa using he,
        hg.visit (hp st (by simp)) hs (hr _ _ h)⟩

/-- What a query that reads every entry owes its caller although the servers change under it. -/
structure Collects (entries : σ → List α) (key : α → K) (moments : List (State Client Server Op Res σ))
    (final_values : List α) : Prop where
  nodup : (final_values.map key).Nodup
  stored : ∀ e ∈ final_values, ∃ m ∈ moments, Stored entries m e
  complete : ∀ k, (∀ m ∈ moments, ∃ e, Stored entries m e ∧ key e = k) → k ∈ final_values.map key

theorem Run.collects (hr : ∀ x l, read x l → l.Perm (entries x)) (ho : order.Nodup)
    (hh : ∀ k, home k ∈ order) {st : State Client Server Op Res σ}
    (h : Run S read ⟨st, order, []⟩ moments q) (hq : q.todo = [])
    (hp : ∀ m ∈ moments, Placed entries key home m) :
    Collects entries key moments q.final_values := by
  obtain ⟨visited, he, hg⟩ := h.progress hr ho hp
  obtain rfl : visited = order := by simpa [hq] using he
  exact ⟨hg.nodup, hg.stored, fun k => hg.complete k (hh k)⟩

lemma Run.undisturbed {st : State Client Server Op Res σ} {f : Server → List α}
    (hf : ∀ s, read (st.shard s) (f s)) {todo : List Server} {final_values : List α}
    (h : Run S read q moments ⟨st, todo, final_values⟩) :
    ∃ moments', Run S read q moments' ⟨st, [], final_values ++ todo.flatMap f⟩ := by
  induction todo generalizing moments final_values with
  | nil => exact ⟨moments, by simpa using h⟩
  | cons s todo ih =>
    obtain ⟨moments', h'⟩ := ih (h.snoc (.read (hf s)))
    exact ⟨moments', by simpa using h'⟩

lemma Run.returned (ht : ∀ x, ∃ l, read x l) (hn : q.todo.Nodup) (h : Run S read q moments q') :
    ∃ (visited : List Server) (moment : Server → State Client Server Op Res σ) (f : Server → List α),
      visited ++ q'.todo = q.todo ∧ (∀ s, moment s ∈ moments ∧ read ((moment s).shard s) (f s)) ∧
      q'.final_values = q.final_values ++ visited.flatMap f := by
  choose unread hu using ht
  induction h with
  | call => exact ⟨[], fun _ => q.cluster, fun s => unread (q.cluster.shard s), by simp [hu]⟩
  | snoc _ hs ih =>
    obtain ⟨visited, moment, f, he, hm, hf⟩ := ih
    cases hs with
    | other h => exact ⟨visited, moment, f, he, fun s => ⟨List.mem_append_left _ (hm s).1, (hm s).2⟩, hf⟩
    | @read st s todo final_values server h =>
      have hs : s ∉ visited := by
        have hn := he ▸ hn
        exact fun hv => (List.nodup_append.mp hn).2.2 s hv s List.mem_cons_self rfl
      refine ⟨visited ++ [s], Function.update moment s st, Function.update f s server, by simpa using he,
        fun t => ?_, ?_⟩
      · by_cases ht : t = s
        · subst ht
          simpa using h
        · simpa [ht] using ⟨Or.inl (hm t).1, (hm t).2⟩
      · have hv : visited.flatMap (Function.update f s server) = visited.flatMap f := by
          refine List.flatMap_congr fun t hv => ?_
          have ht : t ≠ s := fun ht => hs (ht ▸ hv)
          exact Function.update_of_ne ht _ _
        have hf : final_values = q.final_values ++ visited.flatMap f := hf
        simp [hv, hf]

lemma Run.reachable {init : Server → σ} {tr : Trace Client Server Op Res}
    (h : Run S read q moments q') (ht : Cluster.Run S init tr q.cluster) :
    ∀ m ∈ moments, ∃ tr', Cluster.Run S init tr' m := by
  have hh : (∃ tr', Cluster.Run S init tr' q'.cluster) ∧ ∀ m ∈ moments, ∃ tr', Cluster.Run S init tr' m := by
    induction h with
    | call => exact ⟨⟨tr, ht⟩, by simpa using ⟨tr, ht⟩⟩
    | snoc _ hs ih =>
      obtain ⟨⟨tr', ht'⟩, hall⟩ := ih
      cases hs with
      | @other _ _ _ _ es hs =>
        have hc := ht'.snoc hs
        refine ⟨⟨_, hc⟩, fun m hm => ?_⟩
        rcases List.mem_append.mp hm with hm | hm
        · exact hall m hm
        · exact List.mem_singleton.mp hm ▸ ⟨_, hc⟩
      | read hs =>
        refine ⟨⟨_, ht'⟩, fun m hm => ?_⟩
        rcases List.mem_append.mp hm with hm | hm
        · exact hall m hm
        · exact List.mem_singleton.mp hm ▸ ⟨_, ht'⟩
  exact hh.2

end Gather

end Basket.Library
