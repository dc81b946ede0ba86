import Mathlib.Data.List.Basic
import Mathlib.Tactic.Common

/-! Programs whose steps may throw. A throw ends the program and leaves the state as it stands. -/

namespace Basket.Library.Throwing

variable {Point σ α : Type}

def attempt (fails : Point → Bool) (p : Point) : EStateM Point σ Unit :=
  if fails p then throw p else pure ()

def attempts (fails : Point → Bool) : List Point → EStateM Point σ Unit
  | [] => pure ()
  | p :: ps => do
    attempt fails p
    attempts fails ps

/-- What is left to whoever catches the exception and goes on. -/
def leaves (x : EStateM Point σ α) (s : σ) : σ :=
  match x.run s with
  | .ok _ s => s
  | .error _ s => s

def Throws (x : EStateM Point σ α) (s : σ) : Prop := ∃ p s', x.run s = .error p s'

def Intact (x : EStateM Point σ α) (s : σ) : Prop := Throws x s → leaves x s = s

variable {fails : Point → Bool} {ps : List Point} {s : σ} {f g : σ → σ} {a : α} {x : EStateM Point σ α}

lemma run_attempts : (attempts fails ps : EStateM Point σ Unit).run s =
    match ps.find? fails with
    | none => .ok () s
    | some p => .error p s := by
  induction ps with
  | nil => rfl
  | cons p ps ih =>
    rw [attempts, attempt, EStateM.run_bind]
    by_cases hp : fails p
    · rw [if_pos hp, List.find?_cons_of_pos hp]
      rfl
    · rw [if_neg hp, List.find?_cons_of_neg hp]
      exact ih

lemma run_attempts_bind : (attempts fails ps >>= fun _ => x).run s =
    match ps.find? fails with
    | none => x.run s
    | some p => .error p s := by
  rw [EStateM.run_bind, run_attempts]
  cases ps.find? fails <;> rfl

lemma run_attempts_none (h : ∀ p ∈ ps, fails p = false) :
    (attempts fails ps >>= fun _ => x).run s = x.run s := by
  have hf : ps.find? fails = none := List.find?_eq_none.mpr fun p hp => by simp [h p hp]
  rw [run_attempts_bind, hf]

lemma leaves_of_error {p : Point} {s' : σ} (h : x.run s = .error p s') : leaves x s = s' := by
  rw [leaves, h]

lemma intact_get {k : σ → EStateM Point σ α} : Intact (get >>= k) s ↔ Intact (k s) s := .rfl

lemma not_throws_update : ¬Throws (do
    modify f
    return a : EStateM Point σ α) s := by
  rintro ⟨p, s', hr⟩
  cases hr

lemma intact_attempts (hx : ∀ s, ¬Throws x s) : Intact (do
    attempts fails ps
    x) s := by
  rintro ⟨p, s', hr⟩
  rw [leaves_of_error hr]
  rw [run_attempts_bind] at hr
  cases hf : ps.find? fails with
  | none =>
    rw [hf] at hr
    exact absurd ⟨p, s', hr⟩ (hx s)
  | some q =>
    rw [hf] at hr
    cases hr
    rfl

lemma intact_update_attempts_iff (hx : ∀ s, ¬Throws x s) : Intact (do
    modify g
    attempts fails ps
    x) s ↔ g s = s ∨ ∀ p ∈ ps, fails p = false := by
  have hr : (do
      modify g
      attempts fails ps
      x : EStateM Point σ α).run s = (attempts fails ps >>= fun _ => x).run (g s) := rfl
  cases hf : ps.find? fails with
  | none =>
    have hn : ∀ p ∈ ps, fails p = false := fun p hp => by simpa using List.find?_eq_none.mp hf p hp
    refine iff_of_true ?_ (.inr hn)
    rintro ⟨p, s', he⟩
    rw [hr, run_attempts_none hn] at he
    exact absurd ⟨p, s', he⟩ (hx (g s))
  | some q =>
    rw [run_attempts_bind, hf] at hr
    have hq : ¬∀ p ∈ ps, fails p = false := by
      intro hn
      have hh := hn q (List.mem_of_find?_eq_some hf)
      rw [List.find?_some hf] at hh
      cases hh
    rw [Intact, leaves_of_error hr, or_iff_left hq]
    exact ⟨fun h => h ⟨q, g s, hr⟩, fun h _ => h⟩

end Basket.Library.Throwing
