import Basket.Library.Objects

/-! Objects whose calls may throw. The mutex is unlocked on the way out, and the caller gets the
exception in place of an answer. -/

namespace Basket.Library

open Cluster CriticalSection Objects

/-- Which statements of a call may throw, in their order, and the bodies with these statements. The
answer to `reads o` tells which statements the call `o` comes to, and `effect` is the call that does
what was done before the throw. -/
structure Failures (Op Res σ Point : Type) where
  reads : Op → Op
  points : Op → Res → List Point
  effect : Op → Point → Option Op
  body : Op → (Point → Bool) → Code σ (Except Point Res)

namespace Failures

section Statements

variable {σ Point α β : Type} (fails : Point → Bool)

/-- A statement of its own, which throws `p` or does nothing. -/
def attempt (p : Point) : ExceptT Point (Code σ) Unit :=
  ExceptT.mk (Code.read fun _ => if fails p then .error p else .ok ())

def attempts : List Point → ExceptT Point (Code σ) Unit
  | [] => pure ()
  | p :: ps => do
    attempt fails p
    attempts ps

variable {fails} {s : σ} {x : ExceptT Point (Code σ) α} {f : α → ExceptT Point (Code σ) β}

lemma run_throwing_bind : Code.run (x >>= f).run s = match Code.run x.run s with
    | (.ok a, s') => Code.run (f a).run s'
    | (.error p, s') => (.error p, s') := by
  rw [ExceptT.run_bind, Code.run_bind]
  obtain ⟨r, s'⟩ := Code.run x.run s
  cases r <;> rfl

lemma run_lift {x : Code σ α} : Code.run (ExceptT.lift x : ExceptT Point (Code σ) α).run s =
    (.ok (x.run s).1, (x.run s).2) :=
  Code.run_bind

lemma run_attempt {p : Point} : Code.run (attempt fails p).run s =
    (if fails p then .error p else .ok (), s) := rfl

lemma run_attempts {ps : List Point} : Code.run (attempts fails ps).run s = match ps.find? fails with
    | none => (.ok (), s)
    | some p => (.error p, s) := by
  induction ps with
  | nil => rfl
  | cons p ps ih =>
    rw [attempts, run_throwing_bind, run_attempt]
    by_cases hp : fails p
    · rw [if_pos hp, List.find?_cons_of_pos hp]
    · rw [if_neg hp, List.find?_cons_of_neg hp]
      exact ih

lemma run_attempts_bind {y : ExceptT Point (Code σ) β} {ps : List Point} :
    Code.run (attempts fails ps >>= fun _ => y).run s = match ps.find? fails with
      | none => Code.run y.run s
      | some p => (.error p, s) := by
  rw [run_throwing_bind, run_attempts]
  cases ps.find? fails <;> rfl

end Statements

variable {Op Res σ Point β : Type} (F : Failures Op Res σ Point)

/-- A call with the statements that fail while it is carried out. -/
abbrev Call (Op Point : Type) := Op × (Point → Bool)

def outcome (f : Op → β → Res × β) (o : Call Op Point) (b : β) : Except Point Res × β :=
  match (F.points o.1 (f (F.reads o.1) b).1).find? o.2 with
  | none => (.ok (f o.1 b).1, (f o.1 b).2)
  | some p => (.error p, ((F.effect o.1 p).map fun o' => (f o' b).2).getD b)

def never (body : Op → Code σ Res) : Failures Op Res σ Point where
  reads o := o
  points _ _ := []
  effect _ _ := none
  body o _ := do return .ok (← body o)

/-- On data with `valid`, the bodies that may throw do what the points and effects say. -/
def Describes (body : Op → Code σ Res) (valid : σ → Prop) : Prop :=
  ∀ o d, valid d → (F.body o.1 o.2).run d = F.outcome (fun o => (body o).run) o d

variable {F} {f : Op → β → Res × β} {o : Call Op Point} {b : β}

lemma outcome_none (h : F.points o.1 (f (F.reads o.1) b).1 = []) : F.outcome f o b =
    (.ok (f o.1 b).1, (f o.1 b).2) := by
  simp [outcome, h]

lemma never_describes {body : Op → Code σ Res} {valid : σ → Prop} :
    (never body : Failures Op Res σ Point).Describes body valid := by
  intro o d _
  rw [outcome_none rfl, never, Code.run_bind, Code.run_pure]

lemma outcome_simulates {γ : Type} {R : β → γ → Prop} {g : Op → γ → Res × γ} {c : γ} (hR : R b c)
    (hr : (f (F.reads o.1) b).1 = (g (F.reads o.1) c).1)
    (h : (f o.1 b).1 = (g o.1 c).1 ∧ R (f o.1 b).2 (g o.1 c).2)
    (he : ∀ p o', F.effect o.1 p = some o' → R (f o' b).2 (g o' c).2) :
    (F.outcome f o b).1 = (F.outcome g o c).1 ∧ R (F.outcome f o b).2 (F.outcome g o c).2 := by
  rw [outcome, outcome, hr]
  cases (F.points o.1 (g (F.reads o.1) c).1).find? o.2 with
  | none => exact ⟨congrArg Except.ok h.1, h.2⟩
  | some p =>
    refine ⟨rfl, ?_⟩
    cases hp : F.effect o.1 p with
    | none => simpa [hp] using hR
    | some o' => simpa [hp] using he p o' hp

lemma outcome_update {Part : Type} [DecidableEq Part] {s : Part} {parts : Part → β} :
    F.outcome (fun o parts => ((f o (parts s)).1, Function.update parts s (f o (parts s)).2)) o parts =
      ((F.outcome f o (parts s)).1, Function.update parts s (F.outcome f o (parts s)).2) := by
  simp only [outcome]
  cases (F.points o.1 (f (F.reads o.1) (parts s)).1).find? o.2 with
  | none => rfl
  | some p => cases hp : F.effect o.1 p <;> simp [hp]

section Object

variable {Client Server : Type} (X : Object Client Server) (F : Failures X.Op X.Res X.Data Point)

def object : Object Client Server where
  Op := Call X.Op Point
  Res := Except Point X.Res
  Data := X.Data
  dispatch c o := X.dispatch c o.1
  body o := F.body o.1 o.2

def specification (Y : Specification X) : Specification (object X F) where
  Abstract := Y.Abstract
  spec c := F.outcome (Y.spec c)
  Represents := Y.Represents

variable {X F} {Y : Specification X} {attached : Client → Server} {valid : X.Data → Prop}

variable [DecidableEq Server] {shard : Server → X.Data} {t : Server}

lemma service_outcome (hb : F.Describes X.body valid) (o : Call X.Op Point) (hv : valid (shard t)) :
    (((object X F).service attached).answer o t shard, ((object X F).service attached).apply o t shard) =
      F.outcome (fun o shard => ((X.service attached).answer o t shard,
        (X.service attached).apply o t shard)) o shard := by
  have hr : ((object X F).service attached).handle o (shard t) =
      F.outcome (X.service attached).handle o (shard t) := hb o (shard t) hv
  exact (congrArg (fun r => (r.1, Function.update shard t r.2)) hr).trans outcome_update.symm

theorem meets (hm : X.Meets attached Y) (hb : F.Describes X.body valid)
    (hv : ∀ shard a s, Y.Represents shard a → valid (shard s))
    (hr : ∀ c o, X.dispatch c (F.reads o) = X.dispatch c o)
    (he : ∀ c o p o', F.effect o p = some o' → X.dispatch c o' = X.dispatch c o) :
    (object X F).Meets attached (specification X F Y) := by
  intro c o shard a hR
  have hs {o' : X.Op} (hd : X.dispatch c o' = X.dispatch c o.1) :
      (X.service attached).server c o' = (X.service attached).server c o.1 := by
    simp only [Service.server, Object.service, hd]
  have hmeet {o' : X.Op} (hd : X.dispatch c o' = X.dispatch c o.1) := hs hd ▸ hm c o' shard a hR
  have ho := outcome_simulates (R := Y.Represents) (g := Y.spec c) (F := F) (o := o)
    (f := fun o' shard => ((X.service attached).answer o' ((X.service attached).server c o.1) shard,
      (X.service attached).apply o' ((X.service attached).server c o.1) shard))
    hR (hmeet (hr c o.1)).1 (hmeet rfl) fun p o' hp => (hmeet (he c o.1 p o' hp)).2
  rw [← service_outcome hb o (hv shard a _ hR)] at ho
  exact ho

end Object

end Failures

end Basket.Library
