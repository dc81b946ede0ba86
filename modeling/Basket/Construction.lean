import Basket.Common.ConfigurationManager
import Basket.Library.Initialization

/-! The constructors of the shared objects on their server, and the requests that come meanwhile. -/

namespace Basket.Construction

open Common Library.Initialization RPCImplementation

inductive Resource
  | segment
  | data
  | mutex
  deriving DecidableEq, Repr

inductive Operation
  | put
  | get
  | erase
  | getAllData
  | contains
  | seekFirst
  | popFirst
  | seekFirstN
  | size
  | push
  | pop
  | waitForElement
  | top
  | getNextSequence
  | getTime
  deriving DecidableEq, Repr

open Operation (put get erase getAllData contains seekFirst popFirst seekFirstN size push pop waitForElement
  top getNextSequence getTime)
open Resource (data mutex)

def bindings (implementation : RPCImplementation) : Kind → List Operation
  | .map => [put, get, erase, getAllData, contains]
  | .multimap => [put, get, erase, getAllData, contains]
  | .set =>
    match implementation with
    | RPCLIB => [put, get, erase, getAllData, contains, seekFirst, popFirst, seekFirstN, size]
    | _ => [put, get, erase, getAllData, contains, seekFirst, popFirst, size]
  | .unordered_map => [put, get, erase, getAllData]
  | .queue => [push, pop, waitForElement, size]
  | .priority_queue => [push, pop, top, size]
  | .global_sequence => [getNextSequence]
  | .global_clock => [getTime]

def dereferences : Kind → Operation → List Resource
  | .set, size => [data]
  | .queue, waitForElement => [data]
  | _, _ => [mutex, data]

def construction (implementation : RPCImplementation) (kind : Kind) : List (Step Resource Operation) :=
  match kind with
  | .unordered_map => constructThenBind [.segment, mutex, data] (bindings implementation kind)
  | .global_sequence => bindThenConstruct (bindings implementation kind) [.segment, data, mutex]
  | .global_clock => bindThenConstruct (bindings implementation kind) [.segment, data, mutex]
  | _ => constructThenBind [.segment, data, mutex] (bindings implementation kind)

lemma dereferences_constructed (kind : Kind) (o : Operation) : dereferences kind o ⊆ [data, mutex] := by
  cases kind <;> cases o <;> decide

lemma not_ordered_sequencer {implementation : RPCImplementation} {kind : Kind} {o : Operation}
    (hk : construction implementation kind = bindThenConstruct [o] [.segment, data, mutex])
    (hm : mutex ∈ dereferences kind o) :
    ¬Ordered (dereferences kind) (construction implementation kind) := by
  rw [hk]
  exact not_ordered_bindThenConstruct (List.mem_singleton_self o) hm

theorem handlers_safe_iff (implementation : RPCImplementation) (kind : Kind) :
    Safe (dereferences kind) (construction implementation kind) ↔
      kind ≠ .global_sequence ∧ kind ≠ .global_clock := by
  rw [safe_iff]
  have hc (resources : List Resource) (hr : [data, mutex] ⊆ resources) :
      Ordered (dereferences kind) (constructThenBind resources (bindings implementation kind)) :=
    ordered_constructThenBind fun o _ r hm => hr (dereferences_constructed kind o hm)
  cases kind with
  | global_sequence =>
    have hn := not_ordered_sequencer (rfl : construction implementation .global_sequence = _) (by decide)
    simpa using hn
  | global_clock =>
    have hn := not_ordered_sequencer (rfl : construction implementation .global_clock = _) (by decide)
    simpa using hn
  | unordered_map => simpa [construction] using hc [.segment, mutex, data] (by simp)
  | map => simpa [construction] using hc [.segment, data, mutex] (by simp)
  | multimap => simpa [construction] using hc [.segment, data, mutex] (by simp)
  | set => simpa [construction] using hc [.segment, data, mutex] (by simp)
  | queue => simpa [construction] using hc [.segment, data, mutex] (by simp)
  | priority_queue => simpa [construction] using hc [.segment, data, mutex] (by simp)

theorem early_request : ¬∀ (implementation : RPCImplementation) (kind : Kind),
    Safe (dereferences kind) (construction implementation kind) := by
  intro h
  have hr : Run (construction RPCLIB .global_sequence) [] [.start, .bind getNextSequence] :=
    run_steps (by decide)
  have hh := hr.handle (by simp) (List.mem_cons_of_mem _ List.mem_cons_self)
  have hm := h _ _ _ _ hh getNextSequence _ (by simp; rfl) mutex (by decide)
  simp at hm

end Basket.Construction
