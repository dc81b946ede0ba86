import Mathlib.Data.List.Infix
import Mathlib.Tactic.Common

/-! An object that is set up step by step while requests to it may already arrive. -/

namespace Basket.Library.Initialization

open List

variable {Resource Name : Type*}

inductive Step (Resource Name : Type*)
  | start
  | construct (r : Resource)
  | bind (n : Name)
  deriving DecidableEq, Repr

/-- A request is handled after the steps `done`, or refused. -/
inductive Event (Resource Name : Type*)
  | handle (n : Name) (done : List (Step Resource Name))
  | refuse (n : Name)

inductive Run (prog : List (Step Resource Name)) :
    List (Event Resource Name) → List (Step Resource Name) → Prop
  | nil : Run prog [] []
  | step {tr : List (Event Resource Name)} {done : List (Step Resource Name)}
      {s : Step Resource Name} : Run prog tr done → done ++ [s] <+: prog → Run prog tr (done ++ [s])
  | handle {tr : List (Event Resource Name)} {done : List (Step Resource Name)} {n : Name} :
      Run prog tr done → .start ∈ done → .bind n ∈ done → Run prog (tr ++ [.handle n done]) done
  | refuse {tr : List (Event Resource Name)} {done : List (Step Resource Name)} {n : Name} :
      Run prog tr done → .start ∈ done → .bind n ∉ done → Run prog (tr ++ [.refuse n]) done

def Safe (needs : Name → List Resource) (prog : List (Step Resource Name)) : Prop :=
  ∀ tr done, Run prog tr done → ∀ n at', .handle n at' ∈ tr → ∀ r ∈ needs n, .construct r ∈ at'

def Ordered (needs : Name → List Resource) (prog : List (Step Resource Name)) : Prop :=
  ∀ done, done <+: prog → .start ∈ done → ∀ n, .bind n ∈ done → ∀ r ∈ needs n, .construct r ∈ done

variable {needs : Name → List Resource} {prog done : List (Step Resource Name)}
variable {tr : List (Event Resource Name)} {resources : List Resource} {names : List Name} {n : Name}

lemma run_steps (h : done <+: prog) : Run prog [] done := by
  induction done using List.reverseRecOn with
  | nil => exact .nil
  | append_singleton done s ih => exact (ih ((prefix_append done [s]).trans h)).step h

lemma Run.handled (h : Run prog tr done) : done <+: prog ∧
    ∀ n at', .handle n at' ∈ tr → at' <+: prog ∧ .start ∈ at' ∧ .bind n ∈ at' := by
  induction h with
  | nil => exact ⟨List.prefix_append [] prog, by simp⟩
  | step _ hp ih => exact ⟨hp, ih.2⟩
  | refuse _ _ _ ih =>
    refine ⟨ih.1, fun n at' hm => ih.2 n at' ?_⟩
    simpa using hm
  | handle _ hs hb ih =>
    refine ⟨ih.1, fun n at' hm => ?_⟩
    rcases mem_append.mp hm with hm | hm
    · exact ih.2 n at' hm
    · obtain ⟨rfl, rfl⟩ : n = _ ∧ at' = _ := by simpa using hm
      exact ⟨ih.1, hs, hb⟩

theorem safe_iff : Safe needs prog ↔ Ordered needs prog := by
  constructor
  · intro h done hp hs n hb
    exact h _ _ ((run_steps hp).handle hs hb) n done (by simp)
  · intro h tr done hr n at' hm
    obtain ⟨hp, hs, hb⟩ := hr.handled.2 n at' hm
    exact h at' hp hs n hb

def constructThenBind (resources : List Resource) (names : List Name) : List (Step Resource Name) :=
  .start :: resources.map .construct ++ names.map .bind

def bindThenConstruct (names : List Name) (resources : List Resource) : List (Step Resource Name) :=
  .start :: names.map .bind ++ resources.map .construct

lemma ordered_constructThenBind (h : ∀ n ∈ names, ∀ r ∈ needs n, r ∈ resources) :
    Ordered needs (constructThenBind resources names) := by
  intro done hp hs n hb r hr
  have hn : n ∈ names := by
    have hm := hp.subset hb
    simpa [constructThenBind] using hm
  have hm := h n hn r hr
  have hc : .start :: resources.map .construct <+: constructThenBind resources names := prefix_append _ _
  rcases prefix_or_prefix_of_prefix hp hc with hd | hd
  · simpa using hd.subset hb
  · exact hd.subset (by simp [hm])

lemma not_ordered_bindThenConstruct (hn : n ∈ names) {r : Resource} (hr : r ∈ needs n) :
    ¬Ordered needs (bindThenConstruct names resources) := by
  intro h
  have hm := h (.start :: names.map .bind) (prefix_append _ _) (by simp) n (by simp [hn]) r hr
  simp at hm

end Basket.Library.Initialization
