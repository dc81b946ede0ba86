import Basket.FunctionNames

/-! The handler that answers a remote call, among those of all objects that a server has constructed. -/

namespace Basket.Delivery

open Common Construction FunctionNames RPCImplementation

/-- The objects that bind their handlers in one table: on rpclib those of one RPC object, on Thallium
those of the process. -/
def handlers (implementation : RPCImplementation) (objects : List SharedObject) : List Handler :=
  objects.flatMap fun o => (bindings implementation o.kind).map (Handler.mk o)

def Answers (t : Table) (x : SharedObject) (a : Operation) : Prop :=
  ∃ str, functionName x a = some str ∧ t str = some ⟨x, a⟩

def Compatible (implementation : RPCImplementation) (x y : SharedObject) : Prop :=
  x.name = y.name → ∀ a ∈ bindings implementation x.kind, a ∉ bindings implementation y.kind

variable {implementation : RPCImplementation} {rebinding : Rebinding} {objects : List SharedObject}
variable {x y : SharedObject} {a : Operation} {t t' : Table} {str : CharStruct} {f func : Handler}
variable {funcs : List Handler}

lemma mem_handlers : f ∈ handlers implementation objects ↔
    f.object ∈ objects ∧ f.operation ∈ bindings implementation f.object.kind := by
  simp only [handlers, List.mem_flatMap, List.mem_map]
  constructor
  · rintro ⟨o, ho, a, ha, rfl⟩
    exact ⟨ho, ha⟩
  · rintro ⟨ho, ha⟩
    exact ⟨f.object, ho, f.operation, ha, rfl⟩

lemma bound_register (h : register rebinding str func t = some t') :
    t' str ≠ none ∧ ∀ s, t s ≠ none → t' s ≠ none := by
  have hu : Function.update t str (some func) str ≠ none ∧
      ∀ s, t s ≠ none → Function.update t str (some func) s ≠ none := by
    refine ⟨by simp, fun s hs => ?_⟩
    by_cases he : s = str
    · subst he
      simp
    · rwa [Function.update_of_ne he]
  cases hg : t str with
  | none =>
    simp only [register, hg, Option.some_inj] at h
    exact h ▸ hu
  | some g =>
    cases rebinding with
    | replace =>
      simp only [register, hg, Option.some_inj] at h
      exact h ▸ hu
    | keep =>
      simp only [register, hg, Option.some_inj] at h
      subst h
      exact ⟨by simp [hg], fun s => id⟩
    | throw => simp [register, hg] at h

lemma bound_kept (h : funcs.foldlM (bind rebinding) t = some t') (hs : t str ≠ none) : t' str ≠ none := by
  induction funcs generalizing t with
  | nil =>
    cases h
    exact hs
  | cons func funcs ih =>
    obtain ⟨u, hu, hr⟩ := Option.bind_eq_some_iff.mp h
    obtain ⟨name, -, hu⟩ := Option.bind_eq_some_iff.mp hu
    exact ih hr ((bound_register hu).2 str hs)

lemma bound_of_mem (h : funcs.foldlM (bind rebinding) t = some t') (hf : f ∈ funcs)
    (hs : functionName f.object f.operation = some str) : t' str ≠ none := by
  induction funcs generalizing t with
  | nil => cases hf
  | cons func funcs ih =>
    obtain ⟨u, hu, hr⟩ := Option.bind_eq_some_iff.mp h
    obtain ⟨name, hn, hu⟩ := Option.bind_eq_some_iff.mp hu
    rcases List.mem_cons.mp hf with rfl | hf
    · obtain rfl := Option.some.inj (hn.symm.trans hs)
      exact bound_kept hr (bound_register hu).1
    · exact ih hr hf

lemma handler_of_bound (ht : bindAll rebinding (handlers implementation objects) = some t)
    (hs : functionName x a = some str) (hf : t str = some f) :
    f.object ∈ objects ∧ a ∈ bindings implementation f.object.kind ∧ f.object.name = x.name ∧
      f.operation = a := by
  obtain ⟨hm, hn, rfl⟩ := (found ht hs hf).resolve_left (Option.some_ne_none f ∘ Eq.symm)
  exact ⟨(mem_handlers.mp hm).1, (mem_handlers.mp hm).2, hn, rfl⟩

lemma answers (ht : bindAll rebinding (handlers implementation objects) = some t) (hx : x ∈ objects)
    (ha : a ∈ bindings implementation x.kind) (hl : (x.name ++ suffix a).length ≤ 255)
    (hc : ∀ y ∈ objects, x ≠ y → Compatible implementation x y) : Answers t x a := by
  obtain ⟨str, hs⟩ := functionName_isSome hl
  have hm : Handler.mk x a ∈ handlers implementation objects := mem_handlers.mpr ⟨hx, ha⟩
  obtain ⟨f, hf⟩ := Option.ne_none_iff_exists'.mp (bound_of_mem ht hm hs)
  obtain ⟨ho, hb, hn, hop⟩ := handler_of_bound ht hs hf
  refine ⟨str, hs, ?_⟩
  have he : x = f.object := by
    by_contra hne
    exact hc f.object ho hne hn.symm a ha hb
  rw [hf, he, ← hop]

end Basket.Delivery
