import Basket.Library.CriticalSection

/-! Bodies under a mutex refine operations handled in one step: the step stands where the mutex is
unlocked. -/

namespace Basket.Library.CriticalSection

open Cluster Linearizability List

section Named

variable {Client Server Op Res σ : Type*}

def named : Cluster.Event Client Server Op Res → Cluster.Event Client Server (Client × Op) Res
  | .invoke i c o => .invoke i c (c, o)
  | .handle i c s o r => .handle i c s (c, o) r
  | .respond i c r => .respond i c r

def namedService (S : Service Client Server Op Res σ) : Service Client Server (Client × Op) Res σ where
  attached := S.attached
  dispatch _ o := .rpc (S.server o.1 o.2)
  handle o := S.handle o.2

variable {S : Service Client Server Op Res σ}

lemma namedService_server {d : Client} {o : Client × Op} :
    (namedService S).server d o = S.server o.1 o.2 := by
  exact Service.server_rpc _ rfl

lemma named_id {e : Cluster.Event Client Server Op Res} : (named e).id = e.id := by
  cases e <;> rfl

variable [DecidableEq Server] {init shard : Server → σ} {tr : Trace Client Server Op Res}

lemma atomic_named (h : Atomic S init tr shard) : Atomic (namedService S) init (tr.map named) shard := by
  induction h with
  | nil => exact .nil
  | invoke _ hi ih =>
    rw [map_append]
    apply ih.invoke
    intro e he
    obtain ⟨f, hf, rfl⟩ := mem_map.mp he
    rw [named_id]
    exact hi f hf
  | @handle tr shard i c o _ hi hu ih =>
    have hn : ∀ d s p r, .handle i d s p r ∉ tr.map named := by
      intro d s p r hm
      obtain ⟨f, hf, he⟩ := mem_map.mp hm
      cases f <;> simp only [named, reduceCtorEq, Cluster.Event.handle.injEq] at he
      exact hu _ _ _ _ (he.1 ▸ hf)
    have hh := ih.handle (mem_map_of_mem hi) hn
    rw [namedService_server] at hh
    rw [map_append]
    exact hh
  | @respond tr shard i c s o r _ hh hu ih =>
    rw [map_append]
    apply ih.respond (mem_map_of_mem hh)
    intro d q hm
    obtain ⟨f, hf, he⟩ := mem_map.mp hm
    cases f <;> simp only [named, reduceCtorEq, Cluster.Event.respond.injEq] at he
    exact hu _ _ (he.1 ▸ hf)

def callerHistory (tr : Trace Client Server Op Res) : List (Linearizability.Event ℕ (Client × Op) Res) :=
  clientHistory (tr.map named)

omit [DecidableEq Server] in
lemma callerHistory_append {tr' : Trace Client Server Op Res} :
    callerHistory (tr ++ tr') = callerHistory tr ++ callerHistory tr' := by
  simp [callerHistory, clientHistory, history]

section Callers

omit [DecidableEq Server]

variable {tr : Trace Client Server Op Res} {i j : ℕ} {c d : Client} {o p : Op} {r : Res}
variable {e : Cluster.Event Client Server Op Res}

lemma view_invoke : view (named e) = .invoke i (c, o) ↔ e = .invoke i c o := by
  cases e <;> simp [named, view]

lemma view_respond : view (named e) = .respond i r ↔ ∃ c, e = .respond i c r := by
  cases e <;> simp [named, view]

lemma invoke_mem_callerHistory : .invoke i (c, o) ∈ callerHistory tr ↔ .invoke i c o ∈ tr := by
  simp [callerHistory, clientHistory, history, Linearizability.Event.visible, view_invoke]

lemma respond_mem_callerHistory : .respond i r ∈ callerHistory tr ↔ ∃ c, .respond i c r ∈ tr := by
  simp [callerHistory, clientHistory, history, Linearizability.Event.visible, view_respond]

lemma before_of_callerHistory (h : [.respond i r, .invoke j (d, p)] <+ callerHistory tr) :
    ∃ c, [.respond i c r, .invoke j d p] <+ tr := by
  have hs := h.trans filter_sublist
  rw [map_map] at hs
  obtain ⟨l, hl, he⟩ := sublist_map_iff.mp hs
  obtain ⟨e, l, rfl, hr, he⟩ := map_eq_cons_iff.mp he.symm
  obtain ⟨f, l, rfl, hi, he⟩ := map_eq_cons_iff.mp he
  obtain rfl := map_eq_nil_iff.mp he
  obtain ⟨c, rfl⟩ := view_respond.mp hr
  obtain rfl := view_invoke.mp hi
  exact ⟨c, hl⟩

end Callers

section Answers

variable {i k : ℕ} {c d : Client} {o p : Op} {r q : Res}

lemma handled_of_callerHistory (h : Atomic S init tr shard) (hi : .invoke i (c, o) ∈ callerHistory tr)
    (hr : .respond i r ∈ callerHistory tr) :
    .handle i c (S.server c o) o r ∈ tr ∧ .respond i c r ∈ tr := by
  have hi := invoke_mem_callerHistory.mp hi
  obtain ⟨d, hr⟩ := respond_mem_callerHistory.mp hr
  obtain ⟨s, p, hs⟩ := h.responded hr
  have hv : .invoke i d p ∈ tr := hs.subset mem_cons_self
  obtain ⟨rfl, rfl⟩ := h.invoke_unique hi hv
  exact ⟨h.handle_mem hi hr, hr⟩

lemma handled_before_of_callerHistory {s : Server} (h : Atomic S init tr shard)
    (hi : .invoke i (c, o) ∈ callerHistory tr)
    (hb : [.respond i r, .invoke k (d, p)] <+ callerHistory tr) (hk : .handle k d s p q ∈ tr) :
    [.handle i c (S.server c o) o r, .handle k d s p q] <+ tr := by
  obtain ⟨hhi, -⟩ := handled_of_callerHistory h hi (hb.subset mem_cons_self)
  obtain ⟨c', hb⟩ := before_of_callerHistory hb
  obtain ⟨t, o', hs⟩ := h.responded (hb.subset mem_cons_self)
  have hv : .invoke i c' o' ∈ tr := hs.subset mem_cons_self
  obtain ⟨rfl, rfl⟩ := h.invoke_unique (invoke_mem_callerHistory.mp hi) hv
  exact h.handled_before hb hhi hk

end Answers

end Named

variable {Client Server Op Res Lock : Type*} {σ : Lock → Type*}

namespace Program

variable [DecidableEq Lock]

def handle (P : Program Client Server Op Res σ) (o : Op) (parts : ∀ l, σ l) : Res × ∀ l, σ l :=
  (((P.body o).run (parts (P.lock o))).1,
    Function.update parts (P.lock o) ((P.body o).run (parts (P.lock o))).2)

def service (P : Program Client Server Op Res σ) :
    Service Client Server Op Res (∀ l, σ l) where
  attached := P.attached
  dispatch := P.dispatch
  handle := P.handle

variable [DecidableEq Server] {P : Program Client Server Op Res σ}
variable {shard : Server → ∀ l, σ l} {s t : Server} {o : Op} {l : Lock}

lemma apply_self : P.service.apply o s shard s (P.lock o) = ((P.body o).run (shard s (P.lock o))).2 := by
  simp [service, handle]

lemma apply_other (h : ¬(t = s ∧ l = P.lock o)) : P.service.apply o s shard t l = shard t l := by
  by_cases ht : t = s
  · subst ht
    have hl : l ≠ P.lock o := fun hl => h ⟨rfl, hl⟩
    simp [service, handle, hl]
  · rw [P.service.apply_other o ht]

end Program

variable {P : Program Client Server Op Res σ} {w : ℕ}

/-- Data under a free mutex is what the handled operations made of it. A body that holds its mutex
will still turn its data into that and come to the same result. -/
structure Guarded (shard : Server → ∀ l, σ l) (st : State P w) : Prop where
  holder : ∀ s l c, st.mutex s l = some c ↔ (st.phase c).held = some (s, l)
  free : ∀ s l, st.mutex s l = none → st.shard s l = shard s l
  inside : ∀ c i s o j rest, st.phase c = .inside i s o j rest →
    rest.run (st.shard s (P.lock o)) = (P.body o).run (shard s (P.lock o))

namespace Guarded

variable {shard : Server → ∀ l, σ l} {st : State P w} {c : Client} {i : ℕ} {s : Server} {o : Op}
variable {j : Option (Fin w)}

lemma mutex_inside (hg : Guarded shard st) {rest : Code (σ (P.lock o)) Res}
    (hp : st.phase c = .inside i s o j rest) : st.mutex s (P.lock o) = some c :=
  (hg.holder s (P.lock o) c).mpr (by rw [hp, Phase.held])

variable [DecidableEq Client]

lemma outside (hg : Guarded shard st) {p : Phase P w} (hc : (st.phase c).held = none)
    (hp : p.held = none) : Guarded shard (st.setPhase c p) where
  holder s l d := by
    by_cases hd : d = c
    · subst hd
      rw [State.setPhase_self, hp, ← hc]
      exact hg.holder s l d
    · rw [State.setPhase_other _ _ hd]
      exact hg.holder s l d
  free := hg.free
  inside d i s o j rest hi := by
    by_cases hd : d = c
    · subst hd
      rw [State.setPhase_self] at hi
      rw [hi] at hp
      cases hp
    · rw [State.setPhase_other _ _ hd] at hi
      exact hg.inside d i s o j rest hi

variable [DecidableEq Lock] [DecidableEq Server]

lemma lock (hg : Guarded shard st) (hp : st.phase c = .entering i s o j)
    (hm : st.mutex s (P.lock o) = none) :
    Guarded shard ((st.setMutex s (P.lock o) (some c)).setPhase c (.inside i s o j (P.body o))) where
  holder t l d := by
    change (st.setMutex s (P.lock o) (some c)).mutex t l = _ ↔ _
    rw [State.mutex_setMutex]
    by_cases hd : d = c
    · subst hd
      rw [State.setPhase_self, Phase.held]
      split_ifs with ht
      · simp [ht]
      · rw [hg.holder, hp, Phase.held]
        refine iff_of_false (by simp) ?_
        rintro he
        cases he
        exact ht ⟨rfl, rfl⟩
    · rw [State.setPhase_other _ _ hd]
      change _ ↔ (st.phase d).held = _
      split_ifs with ht
      · obtain ⟨rfl, rfl⟩ := ht
        rw [← hg.holder, hm]
        simp [Ne.symm hd]
      · exact hg.holder t l d
  free t l hf := by
    change (st.setMutex s (P.lock o) (some c)).mutex t l = none at hf
    rw [State.mutex_setMutex] at hf
    split_ifs at hf
    exact hg.free t l hf
  inside d k t p m rest hi := by
    by_cases hd : d = c
    · subst hd
      rw [State.setPhase_self] at hi
      cases hi
      exact congrArg _ (hg.free s _ hm)
    · rw [State.setPhase_other _ _ hd] at hi
      exact hg.inside d k t p m rest hi

lemma work (hg : Guarded shard st) {change : σ (P.lock o) → σ (P.lock o)}
    {next : σ (P.lock o) → Code (σ (P.lock o)) Res} (hp : st.phase c = .inside i s o j (.step change next)) :
    Guarded shard ((st.setShard s (P.lock o) (change (st.shard s (P.lock o)))).setPhase c
      (.inside i s o j (next (st.shard s (P.lock o))))) where
  holder t l d := by
    change st.mutex t l = _ ↔ _
    by_cases hd : d = c
    · subst hd
      rw [State.setPhase_self, hg.holder, hp]
      rfl
    · rw [State.setPhase_other _ _ hd]
      exact hg.holder t l d
  free t l hf := by
    have hn : ¬(t = s ∧ l = P.lock o) := by
      rintro ⟨rfl, rfl⟩
      cases (hg.mutex_inside hp).symm.trans hf
    exact (st.setShard_other _ hn).trans (hg.free t l hf)
  inside d k t p m rest hi := by
    by_cases hd : d = c
    · subst hd
      rw [State.setPhase_self] at hi
      cases hi
      rw [← hg.inside d i s o j _ hp]
      exact congrArg _ (st.setShard_self s (P.lock o) _)
    · rw [State.setPhase_other _ _ hd] at hi
      have hi : st.phase d = .inside k t p m rest := hi
      have hn : ¬(t = s ∧ P.lock p = P.lock o) := by
        rintro ⟨rfl, hl⟩
        have hm := hg.mutex_inside hi
        rw [hl, hg.mutex_inside hp] at hm
        exact hd (Option.some.inj hm).symm
      rw [← hg.inside d k t p m rest hi]
      exact congrArg _ (st.setShard_other _ hn)

lemma unlock (hg : Guarded shard st) {r : Res} (hp : st.phase c = .inside i s o j (.ret r)) :
    Guarded (P.service.apply o s shard)
      ((st.setMutex s (P.lock o) none).setPhase c (.reply i r)) where
  holder t l d := by
    change (st.setMutex s (P.lock o) none).mutex t l = _ ↔ _
    rw [State.mutex_setMutex]
    by_cases hd : d = c
    · subst hd
      rw [State.setPhase_self, Phase.held]
      refine iff_of_false ?_ (by simp)
      split_ifs with ht
      · simp
      · rw [hg.holder, hp, Phase.held]
        rintro he
        cases he
        exact ht ⟨rfl, rfl⟩
    · rw [State.setPhase_other _ _ hd]
      change _ ↔ (st.phase d).held = _
      split_ifs with ht
      · obtain ⟨rfl, rfl⟩ := ht
        rw [← hg.holder, hg.mutex_inside hp]
        simp [Ne.symm hd]
      · exact hg.holder t l d
  free t l hf := by
    change (st.setMutex s (P.lock o) none).mutex t l = none at hf
    change st.shard t l = _
    rw [State.mutex_setMutex] at hf
    split_ifs at hf with ht
    · obtain ⟨rfl, rfl⟩ := ht
      rw [Program.apply_self, ← hg.inside c i t o j _ hp]
      rfl
    · rw [Program.apply_other ht]
      exact hg.free t l hf
  inside d k t p m rest hi := by
    by_cases hd : d = c
    · subst hd
      rw [State.setPhase_self] at hi
      cases hi
    · rw [State.setPhase_other _ _ hd] at hi
      have hi : st.phase d = .inside k t p m rest := hi
      have hn : ¬(t = s ∧ P.lock p = P.lock o) := by
        rintro ⟨rfl, hl⟩
        have hm := hg.mutex_inside hi
        rw [hl, hg.mutex_inside hp] at hm
        exact hd (Option.some.inj hm).symm
      rw [Program.apply_other hn]
      exact hg.inside d k t p m rest hi

end Guarded

section Runs

variable {init shard : Server → ∀ l, σ l} {tr : Trace Client Server Op Res} {st st' : State P w}
variable {h es : List (Linearizability.Event ℕ (Client × Op) Res)}

section Phases

variable [DecidableEq Client]

lemma flight_setPhase {p : Phase P w} (st : State P w) (c : Client) :
    (fun d => ((st.setPhase c p).phase d).flight) =
      Function.update (fun d => (st.phase d).flight) c p.flight := by
  funext d
  by_cases hd : d = c
  · subst hd
    simp
  · simp [State.setPhase_other _ _ hd, hd]

lemma flight_setPhase_eq {c : Client} {p : Phase P w} (hp : p.flight = (st.phase c).flight) :
    (fun d => ((st.setPhase c p).phase d).flight) = fun d => (st.phase d).flight := by
  rw [flight_setPhase, hp]
  exact Function.update_eq_self _ _

end Phases

variable [DecidableEq Server] [DecidableEq Lock]

structure Refines (init : Server → ∀ l, σ l) (tr : Trace Client Server Op Res)
    (shard : Server → ∀ l, σ l) (st : State P w) : Prop where
  atomic : Atomic P.service init tr shard
  linked : Linked P.service tr ⟨shard, fun c => (st.phase c).flight, st.calls⟩
  guarded : Guarded shard st

lemma refines_initial : Refines init [] init (.initial P w init) where
  atomic := .nil
  linked := linked_nil
  guarded := by
    constructor
    · intro s l c
      exact iff_of_false (by simp [State.initial]) (by simp [State.initial, Phase.held])
    · exact fun s l _ => rfl
    · intro c i s o j rest hp
      cases hp

variable [DecidableEq Client]

namespace Refines

lemma newCall (hr : Refines init tr shard st) {c : Client} {s : Server} {o : Op} {p : Phase P w}
    (hc : st.phase c = .idle) (hs : s = P.service.server c o) (hf : p.flight = .request st.calls s o)
    (hp : p.held = none) :
    Refines init (tr ++ [.invoke st.calls c o]) shard (st.newCall c p) where
  atomic := hr.atomic.invoke hr.linked.fresh
  linked := by
    have hl := hr.linked.send hs
    rw [← hf] at hl
    change Linked P.service _ ⟨shard, fun d => ((st.setPhase c p).phase d).flight, st.calls + 1⟩
    rw [flight_setPhase]
    exact hl
  guarded := by
    have hg := hr.guarded.outside (c := c) (by rw [hc, Phase.held]) hp
    exact ⟨hg.holder, hg.free, hg.inside⟩

lemma silent (hr : Refines init tr shard st) {c : Client} {p : Phase P w} {st' : State P w}
    (hf : p.flight = (st.phase c).flight) (hg : Guarded shard (st'.setPhase c p))
    (hp : st'.phase = st.phase) (hn : st'.calls = st.calls) :
    Refines init tr shard (st'.setPhase c p) where
  atomic := hr.atomic
  linked := by
    rw [← hp] at hf
    have hl := hr.linked
    rw [flight_setPhase_eq hf, hp]
    change Linked P.service tr ⟨shard, _, st'.calls⟩
    rw [hn]
    exact hl
  guarded := hg

lemma unlock (hr : Refines init tr shard st) {c : Client} {i : ℕ} {s : Server} {o : Op}
    {j : Option (Fin w)} {r : Res} (hp : st.phase c = .inside i s o j (.ret r)) :
    Refines init (tr ++ [.handle i c s o r]) (P.service.apply o s shard)
      ((st.setMutex s (P.lock o) none).setPhase c (.reply i r)) := by
  have hf : (st.phase c).flight = .request i s o := by rw [hp, Phase.flight]
  obtain ⟨rfl, hi, hu⟩ := hr.linked.request c i s o hf
  have ha : P.service.answer o (P.service.server c o) shard = r := by
    have hh := hr.guarded.inside c i _ o j _ hp
    exact (congrArg Prod.fst hh).symm
  refine ⟨?_, ?_, hr.guarded.unlock hp⟩
  · rw [← ha]
    exact hr.atomic.handle hi hu
  · rw [flight_setPhase]
    exact hr.linked.serve hr.atomic hf r _

lemma reply (hr : Refines init tr shard st) {c : Client} {i : ℕ} {r : Res}
    (hp : st.phase c = .reply i r) :
    Refines init (tr ++ [.respond i c r]) shard (st.setPhase c .idle) := by
  have hf : (st.phase c).flight = .reply i r := by rw [hp, Phase.flight]
  obtain ⟨⟨s, o, hh⟩, hu⟩ := hr.linked.reply c i r hf
  refine ⟨hr.atomic.respond hh hu, ?_, hr.guarded.outside (by rw [hp, Phase.held]) rfl⟩
  rw [flight_setPhase]
  exact hr.linked.receive hr.atomic hf

/-- Unlocking stands for the handling of the whole call, every other step inside a server for nothing. -/
lemma step (hr : Refines init tr shard st) (hs : Step P w st es st') :
    ∃ tr' shard', Refines init (tr ++ tr') shard' st' ∧ callerHistory tr' = es := by
  cases hs with
  | @here c o hp hd =>
    exact ⟨_, _, hr.newCall hp (P.service.server_here hd).symm rfl rfl, rfl⟩
  | @request c o s hp hd =>
    exact ⟨_, _, hr.newCall hp (P.service.server_rpc hd).symm rfl rfl, rfl⟩
  | take hp hj =>
    refine ⟨[], shard, ?_, rfl⟩
    rw [append_nil]
    exact hr.silent (by rw [hp]; rfl) (hr.guarded.outside (by rw [hp]; rfl) rfl) rfl rfl
  | lock hp hm =>
    refine ⟨[], shard, ?_, rfl⟩
    rw [append_nil]
    exact hr.silent (by rw [hp]; rfl) (hr.guarded.lock hp hm) rfl rfl
  | work hp =>
    refine ⟨[], shard, ?_, rfl⟩
    rw [append_nil]
    exact hr.silent (by rw [hp]; rfl) (hr.guarded.work hp) rfl rfl
  | unlock hp => exact ⟨_, _, hr.unlock hp, rfl⟩
  | reply hp => exact ⟨_, _, hr.reply hp, rfl⟩

end Refines

theorem Run.refines (hr : Run P w init h st) :
    ∃ tr shard, Refines init tr shard st ∧ callerHistory tr = h := by
  induction hr with
  | nil => exact ⟨[], init, refines_initial, rfl⟩
  | snoc _ hs ih =>
    obtain ⟨tr, shard, hr, rfl⟩ := ih
    obtain ⟨tr', shard', hr', rfl⟩ := hr.step hs
    exact ⟨_, _, hr', callerHistory_append⟩

end Runs

end Basket.Library.CriticalSection
