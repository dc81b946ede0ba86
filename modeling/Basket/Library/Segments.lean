import Mathlib.Data.List.Infix
import Mathlib.Data.List.Nodup
import Mathlib.Logic.Function.Basic
import Mathlib.Tactic.Common

/-! Memory-mapped files with named objects, which processes create, open and search while others run. -/

namespace Basket.Library.Segments

open List

inductive Action (Name : Type*)
  | remove
  | createOnly
  | construct (n : Name)
  | openOnly
  | find (n : Name)
  deriving DecidableEq, Repr

/-- A segment is called by the process that created it. It lives on without its file while it is mapped.
A pointer to a named object says in which segment the object lies. -/
structure State (X Path Name : Type*) where
  files : Path → Option X
  objects : X → List Name
  segment : X → Option X
  pointer : X → Name → Option X

def State.empty {X Path Name : Type*} : State X Path Name where
  files _ := none
  objects _ := []
  segment _ := none
  pointer _ _ := none

abbrev Trace (X Name : Type*) := List (X × Action Name)

variable {X Path Name : Type*} [DecidableEq X] [DecidableEq Path] [DecidableEq Name]

section Execution

variable (path : X → Path)

/-- What throws leaves nothing. -/
def act (x : X) (st : State X Path Name) : Action Name → Option (State X Path Name)
  | .remove => some { st with files := Function.update st.files (path x) none }
  | .createOnly =>
    if st.files (path x) = none then
      some { st with
        files := Function.update st.files (path x) (some x)
        segment := Function.update st.segment x (some x) }
    else none
  | .construct n => (st.segment x).bind fun y =>
    if n ∈ st.objects y then none
    else some { st with
      objects := Function.update st.objects y (n :: st.objects y)
      pointer := Function.update st.pointer x (Function.update (st.pointer x) n (some y)) }
  | .openOnly => (st.files (path x)).map fun y =>
    { st with segment := Function.update st.segment x (some y) }
  | .find n => (st.segment x).map fun y =>
    let found := if n ∈ st.objects y then some y else none
    { st with pointer := Function.update st.pointer x (Function.update (st.pointer x) n found) }

def exec (st : State X Path Name) (tr : Trace X Name) : Option (State X Path Name) :=
  tr.foldlM (fun st e => act path e.1 st e.2) st

omit [DecidableEq Path] [DecidableEq Name] in
def actions (x : X) (tr : Trace X Name) : List (Action Name) :=
  tr.filterMap fun e => if e.1 = x then some e.2 else none

structure Run (program : X → List (Action Name)) (init : State X Path Name) (tr : Trace X Name)
    (st : State X Path Name) : Prop where
  executes : exec path init tr = some st
  follows : ∀ x, actions x tr <+: program x

end Execution

variable {path : X → Path} {x y z : X} {n : Name} {p : Path} {a : Action Name}
variable {st st' init : State X Path Name} {tr tr' : Trace X Name}

section Steps

lemma act_cases (h : act path x st a = some st') :
    (a = .remove ∧ st' = { st with files := Function.update st.files (path x) none }) ∨
    (a = .createOnly ∧ st.files (path x) = none ∧ st' = { st with
      files := Function.update st.files (path x) (some x)
      segment := Function.update st.segment x (some x) }) ∨
    (∃ n y, a = .construct n ∧ st.segment x = some y ∧ n ∉ st.objects y ∧ st' = { st with
      objects := Function.update st.objects y (n :: st.objects y)
      pointer := Function.update st.pointer x (Function.update (st.pointer x) n (some y)) }) ∨
    (∃ y, a = .openOnly ∧ st.files (path x) = some y ∧
      st' = { st with segment := Function.update st.segment x (some y) }) ∨
    ∃ n y, a = .find n ∧ st.segment x = some y ∧ st' = { st with
      pointer := Function.update st.pointer x
        (Function.update (st.pointer x) n (if n ∈ st.objects y then some y else none)) } := by
  cases a with
  | remove => exact .inl ⟨rfl, (Option.some.inj h).symm⟩
  | createOnly =>
    obtain ⟨hf, he⟩ := Option.ite_none_right_eq_some.mp h
    exact .inr (.inl ⟨rfl, hf, (Option.some.inj he).symm⟩)
  | construct n =>
    obtain ⟨y, hs, he⟩ := Option.bind_eq_some_iff.mp h
    obtain ⟨hn, he⟩ := Option.ite_none_left_eq_some.mp he
    exact .inr (.inr (.inl ⟨n, y, rfl, hs, hn, (Option.some.inj he).symm⟩))
  | openOnly =>
    obtain ⟨y, hf, he⟩ := Option.map_eq_some_iff.mp h
    exact .inr (.inr (.inr (.inl ⟨y, rfl, hf, he.symm⟩)))
  | find n =>
    obtain ⟨y, hs, he⟩ := Option.map_eq_some_iff.mp h
    exact .inr (.inr (.inr (.inr ⟨n, y, rfl, hs, he.symm⟩)))

lemma act_files (h : act path x st a = some st') (ha : ¬(a = .remove ∧ path x = p))
    (hc : ¬(a = .createOnly ∧ path x = p)) : st'.files p = st.files p := by
  rcases act_cases h with ⟨rfl, rfl⟩ | ⟨rfl, -, rfl⟩ |
    ⟨n, y, rfl, -, -, rfl⟩ | ⟨y, rfl, -, rfl⟩ | ⟨n, y, rfl, -, rfl⟩
  · exact Function.update_of_ne (fun hp => ha ⟨rfl, hp.symm⟩) ..
  · exact Function.update_of_ne (fun hp => hc ⟨rfl, hp.symm⟩) ..
  · rfl
  · rfl
  · rfl

lemma act_segment (h : act path x st a = some st') (hz : x = z → a ≠ .createOnly ∧ a ≠ .openOnly) :
    st'.segment z = st.segment z := by
  rcases act_cases h with ⟨rfl, rfl⟩ | ⟨rfl, -, rfl⟩ |
    ⟨n, y, rfl, -, -, rfl⟩ | ⟨y, rfl, -, rfl⟩ | ⟨n, y, rfl, -, rfl⟩
  · rfl
  · exact Function.update_of_ne (fun he => (hz he.symm).1 rfl) ..
  · rfl
  · exact Function.update_of_ne (fun he => (hz he.symm).2 rfl) ..
  · rfl

lemma act_pointer (h : act path x st a = some st') (hz : x = z → a ≠ .construct n ∧ a ≠ .find n) :
    st'.pointer z n = st.pointer z n := by
  have hu {m : Name} {v : Option X} (hm : x = z → m ≠ n) :
      Function.update st.pointer x (Function.update (st.pointer x) m v) z n = st.pointer z n := by
    by_cases he : z = x
    · subst he
      rw [Function.update_self, Function.update_of_ne (hm rfl).symm]
    · rw [Function.update_of_ne he]
  rcases act_cases h with ⟨rfl, rfl⟩ | ⟨rfl, -, rfl⟩ |
    ⟨m, y, rfl, -, -, rfl⟩ | ⟨y, rfl, -, rfl⟩ | ⟨m, y, rfl, -, rfl⟩
  · rfl
  · rfl
  · exact hu fun he hm => (hz he).1 (by rw [hm])
  · rfl
  · exact hu fun he hm => (hz he).2 (by rw [hm])

lemma act_objects (h : act path x st a = some st') :
    n ∈ st'.objects y ↔ n ∈ st.objects y ∨ a = .construct n ∧ st.segment x = some y := by
  rcases act_cases h with ⟨rfl, rfl⟩ | ⟨rfl, -, rfl⟩ |
    ⟨m, z, rfl, hs, -, rfl⟩ | ⟨z, rfl, -, rfl⟩ | ⟨m, z, rfl, -, rfl⟩
  · simp
  · simp
  · by_cases hy : y = z
    · subst hy
      simp [hs, or_comm, eq_comm]
    · simp [hs, hy, Ne.symm hy]
  · simp
  · simp

end Steps

section Runs

variable {program : X → List (Action Name)}

lemma exec_append : exec path st (tr ++ tr') = (exec path st tr).bind fun st => exec path st tr' := by
  exact List.foldlM_append

lemma exec_cons : exec path st ((x, a) :: tr) = (act path x st a).bind fun st => exec path st tr := by
  exact List.foldlM_cons

omit [DecidableEq Path] [DecidableEq Name] in
lemma actions_append : actions x (tr ++ tr') = actions x tr ++ actions x tr' := by
  simp [actions]

omit [DecidableEq Path] [DecidableEq Name] in
lemma mem_actions : a ∈ actions x tr ↔ (x, a) ∈ tr := by
  simp [actions, and_comm]

lemma Run.earlier (hr : Run path program init (tr ++ tr') st') :
    ∃ st, Run path program init tr st ∧ exec path st tr' = some st' := by
  obtain ⟨st, hs, he⟩ := Option.bind_eq_some_iff.mp (exec_append.symm.trans hr.executes)
  refine ⟨st, ⟨hs, fun x => ?_⟩, he⟩
  have hf := hr.follows x
  rw [actions_append] at hf
  exact (List.prefix_append _ _).trans hf

lemma Run.last (hr : Run path program init (tr ++ [(x, a)]) st') :
    ∃ st, Run path program init tr st ∧ act path x st a = some st' := by
  obtain ⟨st, hs, he⟩ := hr.earlier
  obtain ⟨st'', ha, he⟩ := Option.bind_eq_some_iff.mp (exec_cons.symm.trans he)
  obtain rfl := Option.some.inj he
  exact ⟨st, hs, ha⟩

lemma Run.planned (hr : Run path program init tr st) (h : (x, a) ∈ tr) : a ∈ program x :=
  (hr.follows x).subset (mem_actions.mpr h)

def Kept (path : X → Path) (p : Path) (tr : Trace X Name) : Prop :=
  ∀ z, path z = p → (z, .remove) ∉ tr

def Latest (path : X → Path) (p : Path) (y : X) (tr : Trace X Name) : Prop :=
  ∃ pre mid, tr = pre ++ (y, .createOnly) :: mid ∧ path y = p ∧ Kept path p mid

/-- The file of a path is the one that `y` created, in this run or before it. -/
def Current (path : X → Path) (init : State X Path Name) (p : Path) (y : X) (tr : Trace X Name) : Prop :=
  Latest path p y tr ∨ init.files p = some y ∧ Kept path p tr

section Files

omit [DecidableEq X] [DecidableEq Path] [DecidableEq Name]

lemma kept_concat : Kept path p (tr ++ [(x, a)]) ↔ Kept path p tr ∧ ¬(a = .remove ∧ path x = p) := by
  simp only [Kept, List.mem_append, List.mem_singleton, Prod.mk.injEq, not_or]
  constructor
  · refine fun h => ⟨fun z hz => (h z hz).1, ?_⟩
    rintro ⟨rfl, hx⟩
    exact (h x hx).2 ⟨rfl, rfl⟩
  · rintro ⟨hk, hn⟩ z hz
    refine ⟨hk z hz, ?_⟩
    rintro ⟨rfl, rfl⟩
    exact hn ⟨rfl, hz⟩

lemma latest_concat : Latest path p y (tr ++ [(x, a)]) ↔
    (a = .createOnly ∧ x = y ∧ path y = p) ∨ (Latest path p y tr ∧ ¬(a = .remove ∧ path x = p)) := by
  constructor
  · rintro ⟨pre, mid, he, hy, hm⟩
    rcases mid.eq_nil_or_concat' with rfl | ⟨mid, e, rfl⟩
    · obtain ⟨-, hc⟩ := List.append_inj' he rfl
      obtain ⟨rfl, rfl⟩ := Prod.mk.inj (List.cons.inj hc).1
      exact .inl ⟨rfl, rfl, hy⟩
    · rw [← List.cons_append, ← List.append_assoc] at he
      obtain ⟨rfl, hc⟩ := List.append_inj' he rfl
      obtain rfl := (List.cons.inj hc).1
      obtain ⟨hm, hn⟩ := kept_concat.mp hm
      exact .inr ⟨⟨pre, mid, rfl, hy, hm⟩, hn⟩
  · rintro (⟨rfl, rfl, hy⟩ | ⟨⟨pre, mid, rfl, hy, hm⟩, hn⟩)
    · exact ⟨tr, [], rfl, hy, fun z _ => List.not_mem_nil⟩
    · exact ⟨pre, mid ++ [(x, a)], by simp, hy, kept_concat.mpr ⟨hm, hn⟩⟩

lemma Current.append (h : Current path init p y tr) (hk : Kept path p tr') :
    Current path init p y (tr ++ tr') := by
  have hj {t : Trace X Name} (ht : Kept path p t) : Kept path p (t ++ tr') := fun z hz hm =>
    (List.mem_append.mp hm).elim (ht z hz) (hk z hz)
  rcases h with ⟨pre, mid, rfl, hy, hm⟩ | ⟨hi, hm⟩
  · exact .inl ⟨pre, mid ++ tr', by simp, hy, hj hm⟩
  · exact .inr ⟨hi, hj hm⟩

lemma current_concat : Current path init p y (tr ++ [(x, a)]) ↔
    (a = .createOnly ∧ x = y ∧ path y = p) ∨ (Current path init p y tr ∧ ¬(a = .remove ∧ path x = p)) := by
  rw [Current, Current, latest_concat, kept_concat, or_assoc, or_and_right,
    and_assoc (a := init.files p = some y)]

end Files

lemma Run.files_iff (hr : Run path program init tr st) :
    st.files p = some y ↔ Current path init p y tr := by
  induction tr using List.reverseRecOn generalizing st with
  | nil =>
    obtain rfl := Option.some.inj hr.executes
    refine ⟨fun h => .inr ⟨h, fun z _ => List.not_mem_nil⟩, ?_⟩
    rintro (⟨pre, mid, he, -⟩ | ⟨h, -⟩)
    · simp at he
    · exact h
  | append_singleton tr e ih =>
    obtain ⟨x, a⟩ := e
    obtain ⟨st₀, hr₀, ha⟩ := hr.last
    rw [current_concat, ← ih hr₀]
    by_cases hm : a = .remove ∧ path x = p
    · obtain ⟨rfl, rfl⟩ := hm
      obtain rfl := Option.some.inj ha
      simp
    by_cases hc : a = .createOnly ∧ path x = p
    · obtain ⟨rfl, rfl⟩ := hc
      obtain ⟨hn, he⟩ := Option.ite_none_right_eq_some.mp ha
      obtain rfl := Option.some.inj he
      simp only [Function.update_self, hn, Option.some.injEq, true_and, reduceCtorEq, false_and, or_false]
      exact ⟨fun h => ⟨h, h ▸ rfl⟩, And.left⟩
    · rw [act_files ha hm hc]
      constructor
      · exact fun h => .inr ⟨h, hm⟩
      · rintro (⟨rfl, rfl, hy⟩ | ⟨h, -⟩)
        · exact absurd ⟨rfl, hy⟩ hc
        · exact h

lemma Run.segment_own (hr : Run path program init tr st) (hi : init.segment x = none)
    (ho : .openOnly ∉ program x) (hs : st.segment x = some y) : y = x := by
  induction tr using List.reverseRecOn generalizing st with
  | nil =>
    obtain rfl := Option.some.inj hr.executes
    rw [hi] at hs
    cases hs
  | append_singleton tr e ih =>
    obtain ⟨z, a⟩ := e
    obtain ⟨st₀, hr₀, ha⟩ := hr.last
    by_cases hc : z = x ∧ a = .createOnly
    · obtain ⟨rfl, rfl⟩ := hc
      obtain ⟨-, he⟩ := Option.ite_none_right_eq_some.mp ha
      obtain rfl := Option.some.inj he
      have hs : Function.update st₀.segment z (some z) z = some y := hs
      rw [Function.update_self] at hs
      exact (Option.some.inj hs).symm
    · apply ih hr₀
      rw [← hs]
      refine (act_segment ha fun hz => ⟨fun he => hc ⟨hz, he⟩, ?_⟩).symm
      rintro rfl
      exact ho (hz ▸ hr.planned (List.mem_append_right _ (List.mem_singleton_self _)))

def Owned (program : X → List (Action Name)) : Prop :=
  ∀ x n, .construct n ∈ program x → .openOnly ∉ program x

lemma Run.objects_iff (hr : Run path program init tr st) (hi : ∀ x, init.segment x = none)
    (ho : Owned program) : n ∈ st.objects y ↔ n ∈ init.objects y ∨ (y, .construct n) ∈ tr := by
  induction tr using List.reverseRecOn generalizing st with
  | nil =>
    obtain rfl := Option.some.inj hr.executes
    simp
  | append_singleton tr e ih =>
    obtain ⟨x, a⟩ := e
    obtain ⟨st₀, hr₀, ha⟩ := hr.last
    have hc : a = .construct n ∧ st₀.segment x = some y ↔ (x, a) = (y, .construct n) := by
      rw [Prod.mk.injEq, and_comm]
      refine and_congr_left ?_
      rintro rfl
      have hp := hr.planned (List.mem_append_right _ (List.mem_singleton_self _))
      obtain ⟨z, hz, -⟩ := Option.bind_eq_some_iff.mp ha
      obtain rfl := hr₀.segment_own (hi x) (ho x n hp) hz
      rw [hz, Option.some_inj]
    rw [act_objects ha, ih hr₀, hc, List.mem_append, List.mem_singleton, or_assoc, eq_comm (a := (x, a))]

lemma exec_segment (h : exec path st tr = some st')
    (hx : ∀ a, (x, a) ∈ tr → a ≠ .createOnly ∧ a ≠ .openOnly) : st'.segment x = st.segment x := by
  induction tr generalizing st with
  | nil =>
    obtain rfl := Option.some.inj h
    rfl
  | cons e tr ih =>
    obtain ⟨z, a⟩ := e
    obtain ⟨st₀, ha, h⟩ := Option.bind_eq_some_iff.mp (exec_cons.symm.trans h)
    rw [ih h fun a hm => hx a (List.mem_cons_of_mem _ hm)]
    exact act_segment ha fun hz => hx a (hz ▸ List.mem_cons_self)

lemma exec_pointer (h : exec path st tr = some st')
    (hx : ∀ a, (x, a) ∈ tr → a ≠ .construct n ∧ a ≠ .find n) : st'.pointer x n = st.pointer x n := by
  induction tr generalizing st with
  | nil =>
    obtain rfl := Option.some.inj h
    rfl
  | cons e tr ih =>
    obtain ⟨z, a⟩ := e
    obtain ⟨st₀, ha, h⟩ := Option.bind_eq_some_iff.mp (exec_cons.symm.trans h)
    rw [ih h fun a hm => hx a (List.mem_cons_of_mem _ hm)]
    exact act_pointer ha fun hz => hx a (hz ▸ List.mem_cons_self)

omit [DecidableEq Path] [DecidableEq Name] in
lemma actions_split {l l' : List (Action Name)} (h : actions x tr = l ++ a :: l') :
    ∃ pre post, tr = pre ++ (x, a) :: post ∧ actions x pre = l ∧ actions x post = l' := by
  obtain ⟨t₁, t₂, rfl, h₁, h₂⟩ := List.filterMap_eq_append_iff.mp h
  obtain ⟨t₃, e, t₄, rfl, hn, he, h₄⟩ := List.filterMap_eq_cons_iff.mp h₂
  obtain ⟨rfl, rfl⟩ : e.1 = x ∧ e.2 = a := by
    by_cases hx : e.1 = x
    · simpa [hx] using he
    · simp [hx] at he
  have h₃ : actions e.1 t₃ = [] := List.filterMap_eq_nil_iff.mpr hn
  refine ⟨t₁ ++ t₃, t₄, by simp, ?_, h₄⟩
  rw [actions_append, h₃, List.append_nil]
  exact h₁

omit [DecidableEq X] [DecidableEq Path] [DecidableEq Name] in
lemma opened_iff {post : Trace X Name} {e : X × Action Name} {P : Trace X Name → Prop} (hb : e ∉ tr)
    (ha : e ∉ post) : (∃ pre post', tr ++ e :: post = pre ++ e :: post' ∧ P pre) ↔ P tr := by
  constructor
  · rintro ⟨pre, post', he, hP⟩
    obtain ⟨rfl, -⟩ := (List.append_cons_inj_of_notMem hb ha).mp he
    exact hP
  · exact fun hP => ⟨tr, post, rfl, hP⟩

lemma before_iff {α : Type*} {a b : α} {l l' : List α} (hb : b ∉ l) (ha : b ∉ l') :
    [a, b] <+ l ++ b :: l' ↔ a ∈ l := by
  constructor
  · intro h
    induction l with
    | nil =>
      cases h with
      | cons _ h => exact absurd (h.subset (by simp)) ha
      | cons_cons _ h => exact absurd (h.subset (by simp)) ha
    | cons x l ih =>
      cases h with
      | cons _ h => exact List.mem_cons_of_mem _ (ih (fun hm => hb (List.mem_cons_of_mem _ hm)) h)
      | cons_cons _ h => exact List.mem_cons_self
  · exact fun hm => (List.singleton_sublist.mpr hm).append ((List.nil_sublist l').cons_cons b)

lemma act_openOnly (h : act path x st .openOnly = some st') : st'.segment x = st.files (path x) := by
  obtain ⟨w, hw, rfl⟩ := Option.map_eq_some_iff.mp h
  rw [hw]
  exact Function.update_self _ _ _

lemma act_find (h : act path x st (.find n) = some st') :
    st'.pointer x n = some y ↔ st.segment x = some y ∧ n ∈ st.objects y := by
  obtain ⟨w, hw, rfl⟩ := Option.map_eq_some_iff.mp h
  simp only [Function.update_self, hw, Option.some_inj]
  by_cases hy : w = y
  · subst hy
    simp
  · by_cases hn : n ∈ st.objects w <;> simp [hn, hy]

lemma Run.segment_iff {pre mid : Trace X Name}
    (hr : Run path program init (pre ++ (x, .openOnly) :: mid) st)
    (hm : ∀ a, (x, a) ∈ mid → a ≠ .createOnly ∧ a ≠ .openOnly) :
    st.segment x = some y ↔ Current path init (path x) y pre := by
  obtain ⟨st₀, hr₀, he⟩ := hr.earlier
  obtain ⟨st₁, ha, he⟩ := Option.bind_eq_some_iff.mp (exec_cons.symm.trans he)
  rw [exec_segment he hm, act_openOnly ha, hr₀.files_iff]

lemma Run.pointer_found {post : Trace X Name}
    (hr : Run path program init (tr ++ (x, .find n) :: post) st)
    (hp : ∀ a, (x, a) ∈ post → a ≠ .construct n ∧ a ≠ .find n) :
    ∃ st₀, Run path program init tr st₀ ∧
      (st.pointer x n = some y ↔ st₀.segment x = some y ∧ n ∈ st₀.objects y) := by
  obtain ⟨st₀, hr₀, he⟩ := hr.earlier
  obtain ⟨st₁, ha, he⟩ := Option.bind_eq_some_iff.mp (exec_cons.symm.trans he)
  refine ⟨st₀, hr₀, ?_⟩
  rw [exec_pointer he hp, act_find ha]

theorem Run.pointer_iff {names : List Name} (hr : Run path program init tr st)
    (hi : ∀ x, init.segment x = none) (ho : Owned program) (hp : program x = .openOnly :: names.map .find)
    (hn : names.Nodup) (hm : n ∈ names) (hd : actions x tr = program x) :
    st.pointer x n = some y ↔
      (∃ pre post, tr = pre ++ (x, .openOnly) :: post ∧ Current path init (path x) y pre) ∧
        (n ∈ init.objects y ∨ [(y, .construct n), (x, .find n)] <+ tr) := by
  obtain ⟨l, l', rfl⟩ := List.append_of_mem hm
  have hnl : n ∉ l ++ l' := (List.nodup_middle.mp hn).notMem
  obtain ⟨pre, rest, rfl, h₀, hrest⟩ := actions_split (l := []) (hd.trans hp)
  have hs := hrest
  rw [List.map_append, List.map_cons] at hs
  obtain ⟨mid, post, rfl, h₁, h₂⟩ := actions_split hs
  have hpre (a : Action Name) : (x, a) ∉ pre := by
    rw [← mem_actions, h₀]
    exact List.not_mem_nil
  have hopen : (x, .openOnly) ∉ mid ++ (x, .find n) :: post := by
    rw [← mem_actions, hrest]
    simp
  have hmid : (x, .find n) ∉ mid := by
    rw [← mem_actions, h₁]
    simpa using fun hm => hnl (List.mem_append_left _ hm)
  have hpost : (x, .find n) ∉ post := by
    rw [← mem_actions, h₂]
    simpa using fun hm => hnl (List.mem_append_right _ hm)
  have hearly : (x, .find n) ∉ pre ++ (x, .openOnly) :: mid := by
    simpa using ⟨hpre _, hmid⟩
  have hsplit : pre ++ (x, .openOnly) :: (mid ++ (x, .find n) :: post) =
      (pre ++ (x, .openOnly) :: mid) ++ (x, .find n) :: post := by simp
  rw [opened_iff (hpre _) hopen, hsplit, before_iff hearly hpost]
  rw [hsplit] at hr
  obtain ⟨st₀, hr₀, hfound⟩ := hr.pointer_found (y := y) fun a ha => by
    refine ⟨?_, fun he => hpost (he ▸ ha)⟩
    rintro rfl
    rw [← mem_actions, h₂] at ha
    simp at ha
  rw [hfound, hr₀.objects_iff hi ho, hr₀.segment_iff fun a ha => ?_]
  rw [← mem_actions, h₁] at ha
  obtain ⟨m, -, rfl⟩ := List.mem_map.mp ha
  exact ⟨by simp, by simp⟩

end Runs

end Basket.Library.Segments
