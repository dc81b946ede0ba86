import Basket.Common.CharStruct
import Basket.UnorderedMap.Model

/-! What the operations with a callback do with the callback and its result. -/

namespace Basket.UnorderedMap

open Common

variable {KeyType MappedType σ ρ Sig : Type*} {ArgsType ReturnType : Sig → Type*}

structure Callback (ArgsType ReturnType : Sig → Type*) where
  sig : Sig
  run : ArgsType sig → ReturnType sig

inductive CallbackEvent (ArgsType ReturnType : Sig → Type*)
  | invoked (sig : Sig) (run : ArgsType sig → ReturnType sig) (cb_args : ArgsType sig)
  | undefined

/-- The bound names with what their untyped pointers hold, and the objects that are alive. -/
structure Registry (ArgsType ReturnType : Sig → Type*) where
  binding_map : AList (fun _ : CharStruct => ℕ)
  objects : ℕ → Option (Callback ArgsType ReturnType)

namespace Registry

def empty : Registry ArgsType ReturnType := ⟨∅, fun _ => none⟩

/-- `Bind` stores the address of its parameter `callback_func`, which ends with the call. -/
def bind (callback_name : CharStruct) (address : ℕ) (callback_func : Callback ArgsType ReturnType)
    (r : Registry ArgsType ReturnType) : Registry ArgsType ReturnType :=
  let inside : Registry ArgsType ReturnType :=
    ⟨r.binding_map.insert callback_name address, Function.update r.objects address (some callback_func)⟩
  ⟨inside.binding_map, Function.update inside.objects address none⟩

structure Binding (ArgsType ReturnType : Sig → Type*) where
  callback_name : CharStruct
  address : ℕ
  callback_func : Callback ArgsType ReturnType

def bindAll (binds : List (Binding ArgsType ReturnType)) : Registry ArgsType ReturnType :=
  binds.foldr (fun b => bind b.callback_name b.address b.callback_func) empty

lemma objects_bindAll (binds : List (Binding ArgsType ReturnType)) :
    (bindAll binds).objects = fun _ => none := by
  induction binds with
  | nil => rfl
  | cons b binds ih =>
    change Function.update (Function.update (bindAll binds).objects b.address (some b.callback_func))
      b.address none = fun _ => none
    rw [Function.update_idem, ih]
    exact Function.update_eq_self b.address (fun _ => none)

variable [DecidableEq Sig] (s : Sig) (cb_args : ArgsType s)

/-- `(*cb_func)(cb_args...)`, with `cb_func` the pointer cast to the type the caller asks for. -/
def invoke (r : Registry ArgsType ReturnType) (cb_func : ℕ) : List (CallbackEvent ArgsType ReturnType) :=
  match r.objects cb_func with
  | none => [.undefined]
  | some f => if h : f.sig = s then [.invoked s (h ▸ f.run) cb_args] else [.undefined]

/-- `Call` has no `return`, hence no value for any name. -/
def call (r : Registry ArgsType ReturnType) (cb_name : CharStruct) :
    List (CallbackEvent ArgsType ReturnType) × Option (ReturnType s) :=
  match r.binding_map.lookup cb_name with
  | some cb_func => (r.invoke s cb_args cb_func, none)
  | none => ([], none)

end Registry

structure Outcome (σ ρ : Type*) (ArgsType ReturnType : Sig → Type*) (s : Sig) where
  myHashMap : σ
  ret_1 : ρ
  ret_2 : Option (ReturnType s)
  events : List (CallbackEvent ArgsType ReturnType)

section Operations

variable [DecidableEq KeyType] [DecidableEq Sig] (r : Registry ArgsType ReturnType) (s : Sig)
variable (cb_args : ArgsType s)

def withCall (ret_1 : ρ × σ) (ret_2 : List (CallbackEvent ArgsType ReturnType) × Option (ReturnType s)) :
    Outcome σ ρ ArgsType ReturnType s :=
  ⟨ret_1.2, ret_1.1, ret_2.2, ret_2.1⟩

def localPutWithCallback (key : KeyType) (data : MappedType) (cb_name : CharStruct)
    (myHashMap : MyHashMap KeyType MappedType) :
    Outcome (MyHashMap KeyType MappedType) Bool ArgsType ReturnType s :=
  withCall s (localPut key data myHashMap) (r.call s cb_args cb_name)

variable [Inhabited MappedType]

def localGetWithCallback (key : KeyType) (cb_name : CharStruct)
    (myHashMap : MyHashMap KeyType MappedType) :
    Outcome (MyHashMap KeyType MappedType) (Bool × MappedType) ArgsType ReturnType s :=
  withCall s (localGet key myHashMap, myHashMap) (r.call s cb_args cb_name)

/-- The name is a `std::string` here, and has to fit into a `CharStruct` for `Call`. -/
def localEraseWithCallback (key : KeyType) (cb_name : Text) (myHashMap : MyHashMap KeyType MappedType) :
    Outcome (MyHashMap KeyType MappedType) (Bool × MappedType) ArgsType ReturnType s :=
  withCall s (localErase key myHashMap)
    (match CharStruct.ofText? cb_name with
    | some cb_name => r.call s cb_args cb_name
    | none => ([.undefined], none))

end Operations

section Delivery

variable {s : Sig} {f : ArgsType s → ReturnType s} {cb_args : ArgsType s} {ret : ρ × σ}
variable {o : Outcome σ ρ ArgsType ReturnType s}

def Delivers (ret : ρ × σ) (f : ArgsType s → ReturnType s) (cb_args : ArgsType s)
    (o : Outcome σ ρ ArgsType ReturnType s) : Prop :=
  o.myHashMap = ret.2 ∧ o.ret_1 = ret.1 ∧ o.events = [.invoked s f cb_args] ∧ o.ret_2 = some (f cb_args)

structure Undelivered (ret : ρ × σ) (o : Outcome σ ρ ArgsType ReturnType s) : Prop where
  myHashMap : o.myHashMap = ret.2
  ret_1 : o.ret_1 = ret.1
  ret_2 : o.ret_2 = none
  events : ∀ t f cb_args, .invoked t f cb_args ∉ o.events

lemma Undelivered.not_delivers (h : Undelivered ret o) : ¬Delivers ret f cb_args o := by
  rintro ⟨-, -, -, hr⟩
  rw [h.ret_2] at hr
  cases hr

variable [DecidableEq Sig]

/-- Every object that a bound name points to is gone. -/
lemma not_invoked (binds : List (Registry.Binding ArgsType ReturnType)) (cb_func : ℕ) :
    (Registry.bindAll binds).invoke s cb_args cb_func = [.undefined] := by
  rw [Registry.invoke, Registry.objects_bindAll]

lemma undelivered_call (binds : List (Registry.Binding ArgsType ReturnType)) (cb_args : ArgsType s)
    (cb_name : CharStruct) (ret : ρ × σ) :
    Undelivered ret (withCall s ret ((Registry.bindAll binds).call s cb_args cb_name)) := by
  rw [Registry.call]
  cases (Registry.bindAll binds).binding_map.lookup cb_name with
  | none => exact ⟨rfl, rfl, rfl, fun _ _ _ => List.not_mem_nil⟩
  | some cb_func =>
    refine ⟨rfl, rfl, rfl, fun t f cb_args => ?_⟩
    simp [withCall, not_invoked]

variable [DecidableEq KeyType] [Inhabited MappedType]

theorem callback_never_delivered (binds : List (Registry.Binding ArgsType ReturnType))
    (f : ArgsType s → ReturnType s) (cb_args : ArgsType s) (key : KeyType) (data : MappedType)
    (cb_name : CharStruct) (text : Text) (myHashMap : MyHashMap KeyType MappedType) :
    let r := Registry.bindAll binds
    (Undelivered (localPut key data myHashMap) (localPutWithCallback r s cb_args key data cb_name myHashMap) ∧
      ¬Delivers (localPut key data myHashMap) f cb_args
        (localPutWithCallback r s cb_args key data cb_name myHashMap)) ∧
    (Undelivered (localGet key myHashMap, myHashMap)
        (localGetWithCallback r s cb_args key cb_name myHashMap) ∧
      ¬Delivers (localGet key myHashMap, myHashMap) f cb_args
        (localGetWithCallback r s cb_args key cb_name myHashMap)) ∧
    Undelivered (localErase key myHashMap) (localEraseWithCallback r s cb_args key text myHashMap) ∧
      ¬Delivers (localErase key myHashMap) f cb_args
        (localEraseWithCallback r s cb_args key text myHashMap) := by
  have hp := undelivered_call binds cb_args cb_name (localPut key data myHashMap)
  have hg := undelivered_call binds cb_args cb_name (localGet key myHashMap, myHashMap)
  have he : Undelivered (localErase key myHashMap)
      (localEraseWithCallback (Registry.bindAll binds) s cb_args key text myHashMap) := by
    rw [localEraseWithCallback]
    cases CharStruct.ofText? text with
    | some cb_name => exact undelivered_call binds cb_args cb_name _
    | none => exact ⟨rfl, rfl, rfl, by simp [withCall]⟩
  exact ⟨⟨hp, hp.not_delivers⟩, ⟨hg, hg.not_delivers⟩, he, he.not_delivers⟩

def cbName : CharStruct := ⟨['C', 'B', '_', 'P', 'u', 't'], by decide, by decide⟩

theorem callback_undelivered : ¬∀ (binds : List (Registry.Binding (fun _ : Unit => ℕ) (fun _ => ℕ)))
    (f : ℕ → ℕ) (cb_args key data : ℕ) (cb_name : CharStruct) (myHashMap : MyHashMap ℕ ℕ),
    (∃ address, ⟨cb_name, address, ⟨(), f⟩⟩ ∈ binds) →
      Delivers (localPut key data myHashMap) f cb_args
        (localPutWithCallback (Registry.bindAll binds) () cb_args key data cb_name myHashMap) := by
  intro h
  have hd := h [⟨cbName, 0, ⟨(), (· + 1)⟩⟩] (· + 1) 5 1 2 cbName ∅ ⟨0, List.mem_singleton_self _⟩
  exact (undelivered_call _ _ _ _).not_delivers hd

end Delivery

end Basket.UnorderedMap
