import Mathlib.Tactic.Common

/-! Objects that answer one call after another, and when two of them cannot be told apart. -/

namespace Basket.Library.Machine

variable {Call Answer σ τ : Type*}

def run (step : Call → σ → Answer × σ) : List Call → σ → List Answer × σ
  | [], s => ([], s)
  | c :: cs, s =>
    let (a, s) := step c s
    let (as, s) := run step cs s
    (a :: as, s)

variable {step : Call → σ → Answer × σ} {step' : Call → τ → Answer × τ} {c : Call} {cs : List Call}
variable {s : σ} {t : τ}

@[simp] lemma run_nil : run step [] s = ([], s) := rfl

@[simp] lemma run_cons_fst : (run step (c :: cs) s).1 = (step c s).1 :: (run step cs (step c s).2).1 := rfl

@[simp] lemma run_cons_snd : (run step (c :: cs) s).2 = (run step cs (step c s).2).2 := rfl

lemma run_cons_congr {step₁ step₂ : Call → σ → Answer × σ} (h : step₁ c s = step₂ c s) :
    run step₁ (c :: cs) s = run step₂ (c :: cs) s ↔
      run step₁ cs (step₂ c s).2 = run step₂ cs (step₂ c s).2 := by
  rw [Prod.ext_iff, Prod.ext_iff, run_cons_fst, run_cons_fst, run_cons_snd, run_cons_snd, h,
    List.cons_inj_right]

def Simulates (step : Call → σ → Answer × σ) (step' : Call → τ → Answer × τ) (R : σ → τ → Prop) : Prop :=
  ∀ c s t, R s t → (step c s).1 = (step' c t).1 ∧ R (step c s).2 (step' c t).2

lemma Simulates.run {R : σ → τ → Prop} (h : Simulates step step' R) (hr : R s t) :
    (run step cs s).1 = (run step' cs t).1 ∧ R (run step cs s).2 (run step' cs t).2 := by
  induction cs generalizing s t with
  | nil => exact ⟨rfl, hr⟩
  | cons c cs ih =>
    obtain ⟨ha, hn⟩ := h c s t hr
    obtain ⟨has, hns⟩ := ih hn
    rw [run_cons_fst, run_cons_fst, ha, has]
    exact ⟨rfl, hns⟩

end Basket.Library.Machine
