import Basket.Library.Objects

/-! One object among many: what is left of a run when only the calls of that object are looked at. -/

namespace Basket.Library.Objects

open Cluster Linearizability CriticalSection List

variable {Client Server Obj : Type} {attached : Client → Server} {objects : Obj → Object Client Server}
variable [DecidableEq Obj] {x : Obj}

section Parts

variable (x) in
def part? {β : Obj → Type} (o : Σ y, β y) : Option (β x) :=
  if h : o.1 = x then some (h ▸ o.2) else none

lemma part?_eq_some {β : Obj → Type} {o : Σ y, β y} {b : β x} : part? x o = some b ↔ o = ⟨x, b⟩ := by
  obtain ⟨y, a⟩ := o
  by_cases hy : y = x
  · subst hy
    simp [part?]
  · refine iff_of_false (by simp [part?, hy]) ?_
    rintro he
    exact hy (congrArg Sigma.fst he)

lemma part?_mk {β : Obj → Type} {b : β x} : part? x ⟨x, b⟩ = some b := part?_eq_some.mpr rfl

lemma part?_other {β : Obj → Type} {o : Σ y, β y} (h : o.1 ≠ x) : part? x o = none := dif_neg h

end Parts

variable (x) in
def event? : Cluster.Event Client Server (Operation objects) (Result objects) →
    Option (Cluster.Event Client Server (objects x).Op (objects x).Res)
  | .invoke i c o => (part? x o).map (.invoke i c)
  | .handle i c s o r => (part? x o).bind fun o => (part? x r).map (.handle i c s o)
  | .respond i c r => (part? x r).map (.respond i c)

variable (x) in
/-- The calls of the object as their callers see them. -/
def call? : Linearizability.Event ℕ (Client × Operation objects) (Result objects) →
    Option (Linearizability.Event ℕ (Client × (objects x).Op) (objects x).Res)
  | .invoke i o => (part? x o.2).map fun p => .invoke i (o.1, p)
  | .effect i o r => (part? x o.2).bind fun p => (part? x r).map (.effect i (o.1, p))
  | .respond i r => (part? x r).map (.respond i)

section Events

variable {e : Cluster.Event Client Server (Operation objects) (Result objects)} {i : ℕ} {c : Client}
variable {s : Server} {o : (objects x).Op} {r : (objects x).Res}

lemma event?_invoke : event? x e = some (.invoke i c o) ↔ e = .invoke i c ⟨x, o⟩ := by
  cases e <;> simp [event?, Option.bind_eq_some_iff, part?_eq_some]
  tauto

lemma event?_handle : event? x e = some (.handle i c s o r) ↔ e = .handle i c s ⟨x, o⟩ ⟨x, r⟩ := by
  cases e <;> simp [event?, Option.bind_eq_some_iff, part?_eq_some]
  tauto

lemma event?_respond : event? x e = some (.respond i c r) ↔ e = .respond i c ⟨x, r⟩ := by
  cases e <;> simp [event?, Option.bind_eq_some_iff, part?_eq_some]
  tauto

lemma event?_id {f : Cluster.Event Client Server (objects x).Op (objects x).Res}
    (h : event? x e = some f) : e.id = f.id := by
  cases f with
  | invoke i c o => rw [event?_invoke.mp h]; rfl
  | handle i c s o r => rw [event?_handle.mp h]; rfl
  | respond i c r => rw [event?_respond.mp h]; rfl

end Events

variable {tr : Trace Client Server (Operation objects) (Result objects)}

lemma callerHistory_filterMap :
    callerHistory (tr.filterMap (event? x)) = (callerHistory tr).filterMap (call? x) := by
  induction tr with
  | nil => rfl
  | cons e tr ih =>
    rw [← singleton_append, filterMap_append, callerHistory_append, callerHistory_append,
      filterMap_append, ih]
    congr 1
    cases e with
    | invoke i c o =>
      cases ho : part? x o <;>
        simp [event?, call?, callerHistory, clientHistory, history, named, view, ho, Event.visible,
          filter_cons]
    | handle i c s o r =>
      cases ho : part? x o <;> cases hr : part? x r <;>
        simp [event?, callerHistory, clientHistory, history, named, view, ho, hr, Event.visible]
    | respond i c r =>
      cases hr : part? x r <;>
        simp [event?, call?, callerHistory, clientHistory, history, named, view, hr, Event.visible,
          filter_cons]

section Traces

variable {init shard : Server → ∀ y, (objects y).Data}

lemma answer_eq {o : (objects x).Op} {s : Server} :
    (system attached objects).service.answer ⟨x, o⟩ s shard =
      ⟨x, ((objects x).service attached).answer o s fun t => shard t x⟩ := by
  rw [Service.answer, system_handle]
  rfl

variable [DecidableEq Server]

lemma result_object {i : ℕ} {c : Client} {s : Server} {o : Operation objects} {r : Result objects}
    (h : Atomic (system attached objects).service init tr shard) (hh : .handle i c s o r ∈ tr) :
    r.1 = o.1 := by
  obtain ⟨pre, post, rfl⟩ := append_of_mem hh
  obtain ⟨-, rfl⟩ := h.handled
  rw [Service.answer, system_handle]

lemma atomic_alone (h : Atomic (system attached objects).service init tr shard) (x : Obj) :
    Atomic ((objects x).service attached) (fun s => init s x) (tr.filterMap (event? x))
      (fun s => shard s x) := by
  induction h with
  | nil => exact .nil
  | @invoke tr shard i c o h hi ih =>
    rw [filterMap_snoc]
    cases ho : part? x o with
    | none => simpa [event?, ho] using ih
    | some p =>
      rw [event?, ho]
      apply ih.invoke
      intro e he
      obtain ⟨f, hf, he⟩ := mem_filterMap.mp he
      exact event?_id he ▸ hi f hf
  | @handle tr shard i c o h hi hu ih =>
    rw [filterMap_snoc]
    by_cases ho : o.1 = x
    · obtain ⟨y, o⟩ := o
      obtain rfl : y = x := ho
      rw [answer_eq, event?, part?_mk, part?_mk, system_apply_self]
      apply ih.handle
      · exact mem_filterMap.mpr ⟨_, hi, event?_invoke.mpr rfl⟩
      · intro d s p r hm
        obtain ⟨e, he, hh⟩ := mem_filterMap.mp hm
        exact hu _ _ _ _ (event?_handle.mp hh ▸ he)
    · rw [event?, part?_other ho, system_apply_other (Ne.symm ho)]
      simpa using ih
  | @respond tr shard i c s o r h hh hu ih =>
    rw [filterMap_snoc]
    by_cases hr : r.1 = x
    · obtain ⟨y, r⟩ := r
      obtain rfl : y = x := hr
      obtain ⟨z, o⟩ := o
      obtain rfl : y = z := result_object h hh
      rw [event?, part?_mk]
      apply ih.respond (mem_filterMap.mpr ⟨_, hh, event?_handle.mpr rfl⟩)
      intro d q hm
      obtain ⟨e, he, hr⟩ := mem_filterMap.mp hm
      exact hu _ _ (event?_respond.mp hr ▸ he)
    · rw [event?, part?_other hr]
      simpa using ih

end Traces

variable [DecidableEq Server] [DecidableEq Client] {w : ℕ} {init : Server → ∀ y, (objects y).Data}
variable {st : CriticalSection.State (system attached objects) w}
variable {h : List (Linearizability.Event ℕ (Client × Operation objects) (Result objects))}

theorem alone (hr : CriticalSection.Run (system attached objects) w init h st) (x : Obj) :
    ∃ tr shard, Atomic ((objects x).service attached) (fun s => init s x) tr shard ∧
      callerHistory tr = h.filterMap (call? x) ∧ ∀ s, st.mutex s x = none → st.shard s x = shard s := by
  obtain ⟨tr, shard, hf, rfl⟩ := hr.refines
  exact ⟨_, _, atomic_alone hf.atomic x, callerHistory_filterMap, fun s => hf.guarded.free s x⟩

end Basket.Library.Objects
