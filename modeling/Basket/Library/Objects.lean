import Basket.Library.CriticalSectionRefinement

/-! Many objects used side by side, every one spread over the same servers with a mutex of its own on
each of them. -/

namespace Basket.Library.Objects

open Cluster Linearizability CriticalSection

/-- What the clients call, and the body by which a server carries out the call. -/
structure Object (Client Server : Type) where
  Op : Type
  Res : Type
  Data : Type
  dispatch : Client → Op → Dispatch Server
  body : Op → Code Data Res

/-- What an object is for: one sequential object that its data on all servers stand for. -/
structure Specification {Client Server : Type} (X : Object Client Server) where
  Abstract : Type
  spec : Client → X.Op → Abstract → X.Res × Abstract
  Represents : (Server → X.Data) → Abstract → Prop

variable {Client Server : Type}

namespace Object

variable (X : Object Client Server) (attached : Client → Server)

def service : Service Client Server X.Op X.Res X.Data where
  attached := attached
  dispatch := X.dispatch
  handle o := (X.body o).run

variable [DecidableEq Server]

/-- Whatever a call finds on the server it reaches, the sequential object does the same. -/
def Meets (Y : Specification X) : Prop :=
  ∀ c o shard a, Y.Represents shard a →
    (X.service attached).answer o ((X.service attached).server c o) shard = (Y.spec c o a).1 ∧
      Y.Represents ((X.service attached).apply o ((X.service attached).server c o) shard) (Y.spec c o a).2

variable {X attached}

omit [DecidableEq Server] in
lemma service_eq (S : Service Client Server X.Op X.Res X.Data) (ha : S.attached = attached)
    (hd : S.dispatch = X.dispatch) (hb : ∀ o d, (X.body o).run d = S.handle o d) :
    X.service attached = S := by
  obtain ⟨attached', dispatch', handle'⟩ := S
  obtain rfl := ha
  obtain rfl := hd
  rw [service, Service.mk.injEq]
  exact ⟨rfl, rfl, funext fun o => funext fun d => hb o d⟩

/-- Enough to know of the bodies: without interruption they do what a service does that meets the
specification. -/
lemma meets_of_simulates {Y : Specification X} (S : Service Client Server X.Op X.Res X.Data)
    (ha : S.attached = attached) (hd : S.dispatch = X.dispatch)
    (hb : ∀ o d, (X.body o).run d = S.handle o d)
    (hS : ∀ c o shard a, Y.Represents shard a → S.answer o (S.server c o) shard = (Y.spec c o a).1 ∧
      Y.Represents (S.apply o (S.server c o) shard) (Y.spec c o a).2) : X.Meets attached Y := by
  rw [Meets, service_eq S ha hd hb]
  exact hS

end Object

def perServer {Op Res σ : Type} [DecidableEq Server] (S : Service Client Server Op Res σ) (c : Client)
    (o : Op) (shard : Server → σ) : Res × (Server → σ) :=
  (S.answer o (S.server c o) shard, S.apply o (S.server c o) shard)

section System

variable {Obj : Type} (attached : Client → Server) (objects : Obj → Object Client Server)

abbrev Operation := Σ x, (objects x).Op

abbrev Result := Σ x, (objects x).Res

def system : Program Client Server (Operation objects) (Result objects) (fun x => (objects x).Data) where
  attached := attached
  dispatch c o := (objects o.1).dispatch c o.2
  lock := Sigma.fst
  body o := do
    let r ← (objects o.1).body o.2
    return ⟨o.1, r⟩

variable (specs : ∀ x, Specification (objects x)) [DecidableEq Obj]

def spec (o : Client × Operation objects) (a : ∀ x, (specs x).Abstract) :
    Result objects × ∀ x, (specs x).Abstract :=
  (⟨o.2.1, ((specs o.2.1).spec o.1 o.2.2 (a o.2.1)).1⟩,
    Function.update a o.2.1 ((specs o.2.1).spec o.1 o.2.2 (a o.2.1)).2)

def Represents (shard : Server → ∀ x, (objects x).Data) (a : ∀ x, (specs x).Abstract) : Prop :=
  ∀ x, (specs x).Represents (fun s => shard s x) (a x)

variable {attached objects specs}

lemma system_handle {o : Operation objects} {parts : ∀ x, (objects x).Data} :
    (system attached objects).service.handle o parts =
      (⟨o.1, (((objects o.1).body o.2).run (parts o.1)).1⟩,
        Function.update parts o.1 (((objects o.1).body o.2).run (parts o.1)).2) := by
  simp [Program.service, Program.handle, system]

variable [DecidableEq Server]

lemma system_apply_self {o : Operation objects} {s : Server} {shard : Server → ∀ x, (objects x).Data} :
    (fun t => (system attached objects).service.apply o s shard t o.1) =
      ((objects o.1).service attached).apply o.2 s (fun t => shard t o.1) := by
  funext t
  by_cases ht : t = s
  · subst ht
    rw [Service.apply_same, Service.apply_same, system_handle]
    exact Function.update_self _ _ _
  · rw [Service.apply_other _ _ ht, Service.apply_other _ _ ht]

lemma system_apply_other {o : Operation objects} {s : Server} {shard : Server → ∀ x, (objects x).Data}
    {x : Obj} (hx : x ≠ o.1) :
    (fun t => (system attached objects).service.apply o s shard t x) = fun t => shard t x := by
  funext t
  by_cases ht : t = s
  · subst ht
    rw [Service.apply_same, system_handle]
    exact Function.update_of_ne hx _ _
  · rw [Service.apply_other _ _ ht]

lemma system_simulates (hm : ∀ x, (objects x).Meets attached (specs x)) :
    Simulates (namedService (system attached objects).service) (spec objects specs)
      (Represents objects specs) := by
  rintro d ⟨c, x, o⟩ shard a hR
  rw [namedService_server]
  obtain ⟨ha, hu⟩ := hm x c o _ _ (hR x)
  refine ⟨?_, fun y => ?_⟩
  · change ((system attached objects).service.handle ⟨x, o⟩ _).1 = ⟨x, _⟩
    rw [system_handle, ← ha]
    rfl
  · change (specs y).Represents (fun t => (system attached objects).service.apply ⟨x, o⟩ _ shard t y)
      (Function.update a x ((specs x).spec c o (a x)).2 y)
    by_cases hy : y = x
    · subst hy
      rw [system_apply_self, Function.update_self]
      exact hu
    · rw [system_apply_other hy, Function.update_of_ne hy]
      exact hR y

theorem linearizes [DecidableEq Client] {w : ℕ} {init : Server → ∀ x, (objects x).Data}
    {a : ∀ x, (specs x).Abstract} {st : CriticalSection.State (system attached objects) w}
    {h : List (Linearizability.Event ℕ (Client × Operation objects) (Result objects))}
    (hm : ∀ x, (objects x).Meets attached (specs x)) (ha : Represents objects specs init a)
    (hr : CriticalSection.Run (system attached objects) w init h st) :
    Linearizable (spec objects specs) a h := by
  obtain ⟨tr, shard, hf, rfl⟩ := hr.refines
  exact (system_simulates hm).linearizes_atomic ha (atomic_named hf.atomic)

end System

end Basket.Library.Objects
