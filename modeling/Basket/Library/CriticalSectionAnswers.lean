import Basket.Library.CriticalSectionRefinement

/-! A call that was made has its result or is what some client waits for. -/

namespace Basket.Library.CriticalSection

open Cluster

variable {Client Server Op Res Lock : Type*} {σ : Lock → Type*}
variable {P : Program Client Server Op Res σ} {w : ℕ}

namespace Phase

def call : Phase P w → Option ℕ
  | idle => none
  | request i _ _ => some i
  | entering i _ _ _ => some i
  | inside i _ _ _ _ => some i
  | reply i _ => some i

end Phase

variable {st st' : State P w} [DecidableEq Client] {h : List (Linearizability.Event ℕ (Client × Op) Res)}

def Answers (h : List (Linearizability.Event ℕ (Client × Op) Res)) (st : State P w) : Prop :=
  ∀ i o, .invoke i o ∈ h → (∃ r, .respond i r ∈ h) ∨ ∃ c, (st.phase c).call = some i

lemma Answers.invoke {c : Client} {p : Phase P w} {o : Client × Op} (ha : Answers h st)
    (hc : st.phase c = .idle) (hp : p.call = some st.calls) :
    Answers (h ++ [.invoke st.calls o]) (st.newCall c p) := by
  intro i q hi
  rcases List.mem_append.mp hi with hi | hi
  · rcases ha i q hi with ⟨r, hr⟩ | ⟨d, hd⟩
    · exact .inl ⟨r, List.mem_append_left _ hr⟩
    · have hn : d ≠ c := by
        rintro rfl
        rw [hc] at hd
        cases hd
      exact .inr ⟨d, (congrArg Phase.call (st.setPhase_other p hn)).trans hd⟩
  · obtain ⟨rfl, rfl⟩ := Linearizability.Event.invoke.inj (List.mem_singleton.mp hi)
    exact .inr ⟨c, (congrArg Phase.call (st.setPhase_self c p)).trans hp⟩

lemma Answers.move {c : Client} {p : Phase P w} (ha : Answers h st) (hp : p.call = (st.phase c).call)
    (hu : st'.phase = Function.update st.phase c p) : Answers h st' := by
  intro i o hi
  refine (ha i o hi).imp_right ?_
  rintro ⟨d, hd⟩
  refine ⟨d, ?_⟩
  rw [hu]
  by_cases hn : d = c
  · subst hn
    rw [Function.update_self, hp, hd]
  · rw [Function.update_of_ne hn, hd]

lemma Answers.respond {c : Client} {j : ℕ} {r : Res} (ha : Answers h st) (hc : st.phase c = .reply j r) :
    Answers (h ++ [.respond j r]) (st.setPhase c .idle) := by
  intro i o hi
  rcases List.mem_append.mp hi with hi | hi
  · rcases ha i o hi with ⟨q, hq⟩ | ⟨d, hd⟩
    · exact .inl ⟨q, List.mem_append_left _ hq⟩
    · by_cases hn : d = c
      · subst hn
        rw [hc] at hd
        obtain rfl := Option.some.inj hd
        exact .inl ⟨r, List.mem_append_right _ (List.mem_singleton_self _)⟩
      · exact .inr ⟨d, (congrArg Phase.call (st.setPhase_other _ hn)).trans hd⟩
  · cases List.mem_singleton.mp hi

variable [DecidableEq Server] [DecidableEq Lock] {init : Server → ∀ l, σ l}

lemma Run.answers (hr : Run P w init h st) : Answers h st := by
  induction hr with
  | nil => exact fun i o hi => absurd hi List.not_mem_nil
  | snoc _ hs ih =>
    cases hs with
    | here hp hd => exact ih.invoke hp rfl
    | request hp hd => exact ih.invoke hp rfl
    | take hp hj => exact (List.append_nil _).symm ▸ ih.move (hp ▸ rfl) rfl
    | lock hp hm => exact (List.append_nil _).symm ▸ ih.move (hp ▸ rfl) rfl
    | work hp => exact (List.append_nil _).symm ▸ ih.move (hp ▸ rfl) rfl
    | unlock hp => exact (List.append_nil _).symm ▸ ih.move (hp ▸ rfl) rfl
    | reply hp => exact ih.respond hp

end Basket.Library.CriticalSection
