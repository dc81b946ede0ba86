import Basket.Common.ConfigurationManager
import Basket.UnorderedMap.Model

/-! The calls that the operations with a callback make, on the local server or in a request. -/

namespace Basket.UnorderedMap

open Library Cluster Communication Common RPCImplementation

variable {KeyType MappedType Value Client : Type*}

/-- An argument of a caller function. A name travels as its text. -/
inductive Arg (KeyType MappedType Value : Type*)
  | key (key : KeyType)
  | data (data : MappedType)
  | cb_name (text : Text)
  | cb_arg (value : Value)
  deriving DecidableEq, Repr

/-- `EraseWithCallback` takes its names as a `std::string`. -/
inductive CallbackOp (KeyType MappedType Value : Type*)
  | put (key : KeyType) (data : MappedType) (c_name cb_name : CharStruct) (cb_args : List Value)
  | get (key : KeyType) (c_name cb_name : CharStruct) (cb_args : List Value)
  | erase (key : KeyType) (c_name cb_name : Text) (cb_args : List Value)
  deriving DecidableEq

namespace CallbackOp

def key : CallbackOp KeyType MappedType Value → KeyType
  | put key _ _ _ _ => key
  | get key _ _ _ => key
  | erase key _ _ _ => key

def c_name : CallbackOp KeyType MappedType Value → Text
  | put _ _ c_name _ _ => c_name.text
  | get _ c_name _ _ => c_name.text
  | erase _ c_name _ _ => c_name

def cb_args : CallbackOp KeyType MappedType Value → List Value
  | put _ _ _ _ cb_args => cb_args
  | get _ _ _ cb_args => cb_args
  | erase _ _ _ cb_args => cb_args

def args : CallbackOp KeyType MappedType Value → List (Arg KeyType MappedType Value)
  | put key data _ cb_name _ => [.key key, .data data, .cb_name cb_name.text]
  | get key _ cb_name _ => [.key key, .cb_name cb_name.text]
  | erase key _ cb_name _ => [.key key, .cb_name cb_name]

end CallbackOp

structure Request (KeyType MappedType Value : Type*) where
  server : UInt16
  func_name : CharStruct
  args : List (Arg KeyType MappedType Value)
  deriving DecidableEq

section Macros

variable ( func_prefix : CharStruct) (funcname : Text) (serverVar : UInt16)
variable (args : List (Arg KeyType MappedType Value)) (cb_args : List Value)

def rpcCallWrapperRpclibCb : Option (Request KeyType MappedType Value) :=
  (CharStruct.ofText? funcname).map fun func_name => ⟨serverVar, func_name, args ++ cb_args.map .cb_arg⟩

def rpcCallWrapperThallium : Option (Request KeyType MappedType Value) :=
  (CharStruct.append func_prefix funcname).map fun func_name => ⟨serverVar, func_name, args⟩

def rpcCallWrapperCb (implementation : RPCImplementation) : Option (Request KeyType MappedType Value) :=
  match implementation with
  | RPCLIB => rpcCallWrapperRpclibCb funcname serverVar args cb_args
  | THALLIUM_TCP => rpcCallWrapperThallium func_prefix funcname serverVar args
  | THALLIUM_ROCE => rpcCallWrapperThallium func_prefix funcname serverVar args

end Macros

inductive Call (KeyType MappedType Value : Type*)
  | here (args : List (Arg KeyType MappedType Value))
  | rpc (request : Request KeyType MappedType Value)
  deriving DecidableEq

section Calls

variable (D : Deployment Client) (keyHash : KeyType → UInt64) (implementation : RPCImplementation)
variable ( func_prefix : CharStruct) (c : Client)

def callbackDispatch : CallbackOp KeyType MappedType Value → Dispatch UInt16
  | .put key _ _ _ _ => putWithCallback D keyHash c key
  | .get key _ _ _ => getWithCallback D keyHash c key
  | .erase key _ _ _ => eraseWithCallback D keyHash c key

/-- `PutWithCallback`, `GetWithCallback` and `EraseWithCallback`. -/
def withCallback (o : CallbackOp KeyType MappedType Value) : Option (Call KeyType MappedType Value) :=
  match callbackDispatch D keyHash c o with
  | .here => some (.here (o.args ++ o.cb_args.map .cb_arg))
  | .rpc s => (rpcCallWrapperCb func_prefix o.c_name s o.args o.cb_args implementation).map .rpc

end Calls

section Registration

structure Bindings where
  binding_map : List CharStruct
  functions : List CharStruct

def bind (callback_name caller_func_name : CharStruct) (b : Bindings) : Bindings where
  binding_map := callback_name :: b.binding_map
  functions := caller_func_name :: b.functions

def bindAll (binds : List (CharStruct × CharStruct)) : Bindings :=
  binds.foldr (fun b => bind b.1 b.2) ⟨[], []⟩

lemma functions_bindAll (binds : List (CharStruct × CharStruct)) :
    (bindAll binds).functions = binds.map Prod.snd := by
  induction binds with
  | nil => rfl
  | cons b binds ih => exact congrArg (b.2 :: ·) ih

end Registration

variable {D : Deployment Client} {keyHash : KeyType → UInt64} {implementation : RPCImplementation}
variable {n func_prefix : CharStruct} {c : Client} {s : UInt16} {o : CallbackOp KeyType MappedType Value}
variable {binds : UInt16 → List (CharStruct × CharStruct)}

def SameCall (binds : UInt16 → List (CharStruct × CharStruct)) (o : CallbackOp KeyType MappedType Value)
    (call : Option (Call KeyType MappedType Value)) : Prop :=
  ∃ request, call = some (.rpc request) ∧ request.func_name ∈ (bindAll (binds request.server)).functions ∧
    request.args = o.args ++ o.cb_args.map .cb_arg

theorem same_call_iff (hd : callbackDispatch D keyHash c o = .rpc s)
    (hn : CharStruct.ofText? o.c_name = some n) (hb : n ∈ (bindAll (binds s)).functions) :
    SameCall binds o (withCallback D keyHash implementation func_prefix c o) ↔
      implementation = RPCLIB ∨ o.cb_args = [] ∧
        ∃ m ∈ (bindAll (binds s)).functions, func_prefix.append o.c_name = some m := by
  have hr : SameCall binds o
      ((rpcCallWrapperRpclibCb o.c_name s o.args o.cb_args).map .rpc) := by
    refine ⟨⟨s, n, _⟩, ?_, hb, rfl⟩
    rw [rpcCallWrapperRpclibCb, hn]
    rfl
  have ht : SameCall binds o ((rpcCallWrapperThallium func_prefix o.c_name s o.args).map .rpc) ↔
      o.cb_args = [] ∧ ∃ m ∈ (bindAll (binds s)).functions, func_prefix.append o.c_name = some m := by
    constructor
    · rintro ⟨request, hc, hm, ha⟩
      obtain ⟨r, hw, he⟩ := Option.map_eq_some_iff.mp hc
      cases he
      obtain ⟨m, hp, he⟩ := Option.map_eq_some_iff.mp hw
      cases he
      exact ⟨by simpa using ha, m, hm, hp⟩
    · rintro ⟨ha, m, hm, hp⟩
      refine ⟨⟨s, m, o.args⟩, ?_, hm, by simp [ha]⟩
      rw [rpcCallWrapperThallium, hp]
      rfl
  rw [withCallback, hd]
  cases implementation with
  | RPCLIB => simpa [rpcCallWrapperCb] using hr
  | THALLIUM_TCP => simpa [rpcCallWrapperCb] using ht
  | THALLIUM_ROCE => simpa [rpcCallWrapperCb] using ht

def away : Deployment Unit where
  num_servers := 1
  process _ := ⟨0, false⟩
  num_servers_pos := Nat.one_pos
  my_server_lt _ := by decide

def aPut : CharStruct := ⟨['A', 'P', 'u', 't'], by decide, by decide⟩

def cbPut : CharStruct := ⟨['C', 'B'], by decide, by decide⟩

def mapName : CharStruct := ⟨['M'], by decide, by decide⟩

def putOp : CallbackOp ℕ ℕ ℕ := .put 1 2 aPut cbPut [3, 4]

theorem same_call_rpclib : SameCall (fun _ => [(cbPut, aPut)]) putOp
    (withCallback away (fun _ => 0) RPCLIB mapName () putOp) := by
  have hb : aPut ∈ (bindAll [(cbPut, aPut)]).functions := by simp [functions_bindAll]
  exact (same_call_iff rfl (by decide +kernel) hb).mpr (.inl rfl)

theorem other_call : ¬∀ (D : Deployment Unit) (keyHash : ℕ → UInt64) (implementation : RPCImplementation)
    (n func_prefix : CharStruct) (o : CallbackOp ℕ ℕ ℕ) (s : UInt16)
    (binds : UInt16 → List (CharStruct × CharStruct)), callbackDispatch D keyHash () o = .rpc s →
    CharStruct.ofText? o.c_name = some n → n ∈ (bindAll (binds s)).functions →
    SameCall binds o (withCallback D keyHash implementation func_prefix () o) := by
  intro h
  have hb : aPut ∈ (bindAll [(cbPut, aPut)]).functions := by simp [functions_bindAll]
  obtain ⟨request, hc, hm, -⟩ := h away (fun _ => 0) THALLIUM_TCP aPut mapName putOp 0
    (fun _ => [(cbPut, aPut)]) rfl (by decide +kernel) hb
  have hw : (withCallback away (fun _ => 0) THALLIUM_TCP mapName () putOp).map (fun call =>
      match call with
      | .here _ => none
      | .rpc request => some request.func_name.text) = some (some ['M', 'A', 'P', 'u', 't']) := by
    decide +kernel
  rw [hc, Option.map_some, Option.some_inj, Option.some_inj] at hw
  rw [functions_bindAll, List.map_cons, List.map_nil, List.mem_singleton] at hm
  rw [hm] at hw
  exact absurd hw (by decide)

end Basket.UnorderedMap
