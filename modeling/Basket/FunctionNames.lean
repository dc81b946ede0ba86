import Basket.Construction

/-! The names under which the handlers of shared objects are bound and called. -/

namespace Basket.FunctionNames

open Common Construction

structure SharedObject where
  kind : Kind
  name : Text
  nul_free : '\x00' ∉ name

def suffix : Operation → Text
  | .put => "_Put".toList
  | .get => "_Get".toList
  | .erase => "_Erase".toList
  | .getAllData => "_GetAllData".toList
  | .contains => "_Contains".toList
  | .seekFirst => "_SeekFirst".toList
  | .popFirst => "_PopFirst".toList
  | .seekFirstN => "_SeekFirstN".toList
  | .size => "_Size".toList
  | .push => "_Push".toList
  | .pop => "_Pop".toList
  | .waitForElement => "_WaitForElement".toList
  | .top => "_Top".toList
  | .getNextSequence => "_GetNextSequence".toList
  | .getTime => "_GetTime".toList

/-- `func_prefix` with the suffix, in the constructors and in `RPC_CALL_WRAPPER`. -/
def functionName (o : SharedObject) (operation : Operation) : Option CharStruct :=
  match o.kind with
  | .set =>
    (CharStruct.ofText? o.name).bind fun func_prefix => CharStruct.append func_prefix (suffix operation)
  | .unordered_map =>
    (CharStruct.ofText? o.name).bind fun func_prefix => CharStruct.append func_prefix (suffix operation)
  | _ => CharStruct.ofText? (o.name ++ suffix operation)

structure Handler where
  object : SharedObject
  operation : Operation

/-- What a server does with a second handler of one name. -/
inductive Rebinding
  | replace
  | keep
  | throw

abbrev Table := CharStruct → Option Handler

def register (rebinding : Rebinding) (str : CharStruct) (func : Handler) (t : Table) : Option Table :=
  match t str, rebinding with
  | none, _ => some (Function.update t str (some func))
  | some _, .replace => some (Function.update t str (some func))
  | some _, .keep => some t
  | some _, .throw => none

def bind (rebinding : Rebinding) (t : Table) (func : Handler) : Option Table := do
  register rebinding (← functionName func.object func.operation) func t

def bindAll (rebinding : Rebinding) (funcs : List Handler) : Option Table :=
  funcs.foldlM (bind rebinding) fun _ => none

lemma suffix_eq (a : Operation) : ∃ s, suffix a = '_' :: s ∧ '_' ∉ s := by
  cases a <;> exact ⟨_, rfl, by decide⟩

lemma suffix_nul_free (a : Operation) : '\x00' ∉ suffix a := by
  cases a <;> decide

def operations : List Operation :=
  [.put, .get, .erase, .getAllData, .contains, .seekFirst, .popFirst, .seekFirstN, .size, .push, .pop,
    .waitForElement, .top, .getNextSequence, .getTime]

def operation? (t : Text) : Option Operation := operations.find? fun o => suffix o = t

lemma operation?_suffix (a : Operation) : operation? (suffix a) = some a := by
  cases a <;> decide

lemma suffix_injective : Function.Injective suffix := fun a b h => by
  rw [← Option.some_inj, ← operation?_suffix, h, operation?_suffix]

lemma append_suffix_inj {x y : Text} {a b : Operation} :
    x ++ suffix a = y ++ suffix b ↔ x = y ∧ a = b := by
  obtain ⟨s, hs, hsc⟩ := suffix_eq a
  obtain ⟨t, ht, htc⟩ := suffix_eq b
  rw [hs, ht, append_cons_inj hsc htc]
  refine and_congr_right fun _ => ⟨fun he => suffix_injective ?_, fun he => ?_⟩
  · rw [hs, ht, he]
  · subst he
    exact (List.cons.inj (hs.symm.trans ht)).2

lemma ofText?_bind_append {name s : Text} (h : '\x00' ∉ name) :
    ((CharStruct.ofText? name).bind fun func_prefix => CharStruct.append func_prefix s) =
      CharStruct.ofText? (name ++ s) := by
  ext c
  rw [Option.bind_eq_some_iff, CharStruct.ofText?_eq_some, cStr_append h]
  constructor
  · rintro ⟨p, hp, hc⟩
    rw [CharStruct.append_eq_some.mp hc, CharStruct.ofText?_eq_some.mp hp, cStr_eq h]
  · intro hc
    have hl := c.length_lt
    rw [hc, List.length_append] at hl
    refine ⟨⟨name, h, by omega⟩, ?_, CharStruct.append_eq_some.mpr hc⟩
    rw [CharStruct.ofText?_eq_some, cStr_eq h]

lemma functionName_eq (o : SharedObject) (a : Operation) :
    functionName o a = CharStruct.ofText? (o.name ++ suffix a) := by
  rw [functionName, ofText?_bind_append o.nul_free]
  cases o.kind <;> rfl

lemma functionName_eq_some {o : SharedObject} {a : Operation} {str : CharStruct} :
    functionName o a = some str ↔ str.text = o.name ++ suffix a := by
  rw [functionName_eq, CharStruct.ofText?_eq_some, cStr_append o.nul_free, cStr_eq (suffix_nul_free a)]

lemma functionName_isSome {o : SharedObject} {a : Operation} (h : (o.name ++ suffix a).length ≤ 255) :
    ∃ str, functionName o a = some str := by
  refine ⟨⟨o.name ++ suffix a, ?_, Nat.lt_succ_of_le h⟩, functionName_eq_some.mpr rfl⟩
  rw [List.mem_append, not_or]
  exact ⟨o.nul_free, suffix_nul_free a⟩

section Run

variable {rebinding : Rebinding} {t t' : Table} {str : CharStruct} {func f : Handler}
variable {funcs : List Handler} {x : SharedObject} {a : Operation}

lemma register_cases (h : register rebinding str func t = some t') :
    t' = Function.update t str (some func) ∨ t' = t := by
  cases hg : t str with
  | none =>
    simp only [register, hg, Option.some_inj] at h
    exact .inl h.symm
  | some g =>
    cases rebinding with
    | replace =>
      simp only [register, hg, Option.some_inj] at h
      exact .inl h.symm
    | keep =>
      simp only [register, hg, Option.some_inj] at h
      exact .inr h.symm
    | throw => simp [register, hg] at h

lemma bind_cases (h : bind rebinding t func = some t') (hs : functionName x a = some str) :
    t' str = t str ∨ t' str = some func ∧ func.object.name = x.name ∧ func.operation = a := by
  obtain ⟨name, hn, hr⟩ := Option.bind_eq_some_iff.mp h
  rcases register_cases hr with rfl | rfl
  · by_cases he : str = name
    · subst he
      refine .inr ⟨Function.update_self .., append_suffix_inj.mp ?_⟩
      rw [← functionName_eq_some.mp hn, functionName_eq_some.mp hs]
    · exact .inl (Function.update_of_ne he ..)
  · exact .inl rfl

lemma unchanged (h : funcs.foldlM (bind rebinding) t = some t') (hs : functionName x a = some str)
    (hf : ∀ f ∈ funcs, ¬(f.object.name = x.name ∧ f.operation = a)) : t' str = t str := by
  induction funcs generalizing t with
  | nil =>
    cases h
    rfl
  | cons func funcs ih =>
    obtain ⟨u, hu, hr⟩ := Option.bind_eq_some_iff.mp h
    rw [List.forall_mem_cons] at hf
    rw [ih hr hf.2]
    exact (bind_cases hu hs).resolve_right fun hh => hf.1 hh.2

lemma found (h : funcs.foldlM (bind rebinding) t = some t') (hs : functionName x a = some str)
    (hf : t' str = some f) :
    t str = some f ∨ f ∈ funcs ∧ f.object.name = x.name ∧ f.operation = a := by
  induction funcs generalizing t with
  | nil =>
    cases h
    exact .inl hf
  | cons func funcs ih =>
    obtain ⟨u, hu, hr⟩ := Option.bind_eq_some_iff.mp h
    rcases ih hr with hh | ⟨hm, hh⟩
    · rcases bind_cases hu hs with he | ⟨he, hn⟩
      · exact .inl (he.symm.trans hh)
      · obtain rfl := Option.some.inj (he.symm.trans hh)
        exact .inr ⟨List.mem_cons_self, hn⟩
    · exact .inr ⟨List.mem_cons_of_mem func hm, hh⟩

end Run

theorem names_identify (rebinding : Rebinding) :
    (∀ (x y : SharedObject) (a b : Operation), (x.name ++ suffix a).length ≤ 255 →
      (y.name ++ suffix b).length ≤ 255 →
      (functionName x a = functionName y b ↔ x.name ++ suffix a = y.name ++ suffix b) ∧
        (x.name ++ suffix a = y.name ++ suffix b → x.name = y.name ∧ a = b)) ∧
    ∀ (funcs later : List Handler) (t t' : Table), bindAll rebinding funcs = some t →
      later.foldlM (bind rebinding) t = some t' → ∀ (x : SharedObject) (a : Operation) (str : CharStruct),
      functionName x a = some str →
        (∀ f, t str = some f → f ∈ funcs ∧ f.object.name = x.name ∧ f.operation = a) ∧
        ((∀ f ∈ later, ¬(f.object.name = x.name ∧ f.operation = a)) → t' str = t str) := by
  refine ⟨fun x y a b hx _ => ⟨⟨fun he => ?_, fun he => ?_⟩, append_suffix_inj.mp⟩,
    fun funcs later t t' h h' x a str hs => ?_⟩
  · obtain ⟨str, hs⟩ := functionName_isSome hx
    rw [← functionName_eq_some.mp hs, ← functionName_eq_some.mp (he.symm.trans hs)]
  · rw [functionName_eq, functionName_eq, he]
  · refine ⟨fun f hf => ?_, unchanged h' hs⟩
    exact (found h hs hf).resolve_left fun hn => Option.some_ne_none f hn.symm

def short : SharedObject := ⟨.queue, ['q'], by decide⟩

def long : SharedObject := ⟨.queue, "q_Push".toList, by decide⟩

theorem names_identify_queues : functionName short .push ≠ functionName long .push := by
  intro he
  have hh := (names_identify .replace).1 short long .push .push (by decide) (by decide)
  exact absurd (hh.2 (hh.1.mp he)).1 (by decide)

end Basket.FunctionNames
