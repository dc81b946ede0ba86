import Basket.Communication.Rpc

/-! The singletons of a process through which its objects share their RPC objects. -/

namespace Basket.Communication

open Common RPCImplementation

structure Object where
  kind : Kind
  /-- `RPC_PORT` when the object was constructed. -/
  port : UInt16
  num_servers : Int32
  rpc : ℕ
  deriving DecidableEq, Repr

structure Globals where
  conf : ConfigurationManager
  /-- The RPC objects in the order of their creation. -/
  heap : List Rpc
  rpcs : List (UInt16 × ℕ)
  /-- `Singleton<RPC>::instance` -/
  rpcInstance : Option ℕ
  /-- `Singleton<tl::engine>::instance` -/
  engineInstance : Option Engine
  objects : List Object

namespace Globals

def initial (conf : ConfigurationManager) : Globals where
  conf := conf
  heap := []
  rpcs := []
  rpcInstance := none
  engineInstance := none
  objects := []

def setPort (RPC_PORT : UInt16) (g : Globals) : Globals :=
  { g with conf := { g.conf with RPC_PORT := RPC_PORT } }

@[simp] lemma setPort_port (RPC_PORT : UInt16) (g : Globals) :
    (g.setPort RPC_PORT).conf.RPC_PORT = RPC_PORT :=
  rfl

@[simp] lemma setPort_objects (RPC_PORT : UInt16) (g : Globals) :
    (g.setPort RPC_PORT).objects = g.objects :=
  rfl

variable (files : Files)

/-- `std::make_shared<RPC>()` -/
def makeRpc (g : Globals) : Option (ℕ × Globals) := do
  let (rpc, conf, engine) ← Rpc.new files g.conf g.engineInstance
  return (g.heap.length, { g with conf := conf, heap := g.heap ++ [rpc], engineInstance := engine })

def getRPC (server_port : UInt16) (g : Globals) : Option (ℕ × Globals) :=
  match g.rpcs.lookup server_port with
  | some rpc => some (rpc, g)
  | none => do
    let temp := g.conf.RPC_PORT
    let (rpc, g) ← makeRpc files (g.setPort server_port)
    return (rpc, { g with rpcs := (server_port, rpc) :: g.rpcs }.setPort temp)

/-- `Singleton<RPC>::GetInstance()` -/
def singletonRpc (g : Globals) : Option (ℕ × Globals) :=
  match g.rpcInstance with
  | some rpc => some (rpc, g)
  | none => do
    let (rpc, g) ← makeRpc files g
    return (rpc, { g with rpcInstance := some rpc })

def rpcFor (kind : Kind) (g : Globals) : Option (ℕ × Globals) :=
  match kind with
  | .global_clock => singletonRpc files g
  | _ => getRPC files g.conf.RPC_PORT g

/-- The member initialisers of a constructor copy `num_servers` before its body takes the RPC object. -/
def construct (kind : Kind) (g : Globals) : Option Globals := do
  let num_servers := g.conf.NUM_SERVERS
  let port := g.conf.RPC_PORT
  let (rpc, g) ← rpcFor files kind g
  return { g with objects := g.objects ++ [⟨kind, port, num_servers, rpc⟩] }

end Globals

inductive Command
  | getRPC (server_port : UInt16)
  | construct (RPC_PORT : UInt16) (kind : Kind)
  deriving DecidableEq, Repr

namespace Globals

variable (files : Files)

def step (g : Globals) : Command → Option Globals
  | .getRPC server_port => (getRPC files server_port g).map Prod.snd
  | .construct RPC_PORT kind => construct files kind (g.setPort RPC_PORT)

def run (cmds : List Command) (conf : ConfigurationManager) : Option Globals :=
  cmds.foldlM (step files) (initial conf)

variable {files} {g g' : Globals} {conf : ConfigurationManager} {cmds : List Command} {c : Command}
variable {server_port : UInt16} {i : ℕ} {kind : Kind}

lemma mem_snoc {α : Type*} {l : List α} {a x : α} : x ∈ l ++ [a] ↔ x ∈ l ∨ x = a := by
  rw [List.mem_append, List.mem_singleton]

lemma lookup_mem {rpcs : List (UInt16 × ℕ)} (h : rpcs.lookup server_port = some i) :
    (server_port, i) ∈ rpcs := by
  obtain ⟨l, l', rfl, -⟩ := List.lookup_eq_some_iff.mp h
  simp

lemma run_concat : run files (cmds ++ [c]) conf = some g' ↔
    ∃ g, run files cmds conf = some g ∧ step files g c = some g' := by
  rw [run, List.foldlM_append]
  simp [run, Option.bind_eq_some_iff]

lemma makeRpc_eq_some (h : makeRpc files g = some (i, g')) :
    i = g.heap.length ∧ ∃ rpc conf engine,
      Rpc.new files g.conf g.engineInstance = some (rpc, conf, engine) ∧
      g' = { g with conf := conf, heap := g.heap ++ [rpc], engineInstance := engine } := by
  simp only [makeRpc, Option.bind_eq_bind, Option.bind_eq_some_iff, Option.pure_def, Option.some_inj,
    Prod.mk.injEq] at h
  obtain ⟨⟨rpc, conf, engine⟩, hn, rfl, rfl⟩ := h
  exact ⟨rfl, rpc, conf, engine, hn, rfl⟩

lemma getRPC_cases (h : getRPC files server_port g = some (i, g')) :
    (g.rpcs.lookup server_port = some i ∧ g' = g) ∨
    (g.rpcs.lookup server_port = none ∧ i = g.heap.length ∧ ∃ rpc conf engine,
      Rpc.new files { g.conf with RPC_PORT := server_port } g.engineInstance = some (rpc, conf, engine) ∧
      g' = { g with
        conf := { conf with RPC_PORT := g.conf.RPC_PORT }
        heap := g.heap ++ [rpc]
        rpcs := (server_port, i) :: g.rpcs
        engineInstance := engine }) := by
  rw [getRPC] at h
  split at h
  · next j hl =>
    cases h
    exact .inl ⟨hl, rfl⟩
  · next hl =>
    obtain ⟨⟨j, g₁⟩, hm, h⟩ := Option.bind_eq_some_iff.mp h
    cases h
    obtain ⟨hi, rpc, conf, engine, hn, rfl⟩ := makeRpc_eq_some hm
    exact .inr ⟨hl, hi, rpc, conf, engine, hn, rfl⟩

lemma singletonRpc_cases (h : singletonRpc files g = some (i, g')) :
    (g.rpcInstance = some i ∧ g' = g) ∨
    (g.rpcInstance = none ∧ i = g.heap.length ∧ ∃ rpc conf engine,
      Rpc.new files g.conf g.engineInstance = some (rpc, conf, engine) ∧
      g' = { g with
        conf := conf
        heap := g.heap ++ [rpc]
        rpcInstance := some i
        engineInstance := engine }) := by
  rw [singletonRpc] at h
  split at h
  · next j hl =>
    cases h
    exact .inl ⟨hl, rfl⟩
  · next hl =>
    obtain ⟨⟨j, g₁⟩, hm, h⟩ := Option.bind_eq_some_iff.mp h
    cases h
    obtain ⟨hi, rpc, conf, engine, hn, rfl⟩ := makeRpc_eq_some hm
    exact .inr ⟨hl, hi, rpc, conf, engine, hn, rfl⟩

lemma construct_eq_some (h : construct files kind g = some g') :
    ∃ i g₁, rpcFor files kind g = some (i, g₁) ∧
      g' = { g₁ with objects := g₁.objects ++ [⟨kind, g.conf.RPC_PORT, g.conf.NUM_SERVERS, i⟩] } := by
  simp only [construct, Option.bind_eq_bind, Option.bind_eq_some_iff, Option.pure_def,
    Option.some_inj] at h
  obtain ⟨⟨i, g₁⟩, hr, rfl⟩ := h
  exact ⟨i, g₁, hr, rfl⟩

lemma rpcFor_factory (h : kind ≠ .global_clock) :
    rpcFor files kind g = getRPC files g.conf.RPC_PORT g := by
  cases kind <;> first | rfl | exact absurd rfl h

lemma getRPC_port (h : getRPC files server_port g = some (i, g')) :
    g'.conf.RPC_PORT = g.conf.RPC_PORT := by
  obtain ⟨-, rfl⟩ | ⟨-, -, rpc, conf, engine, -, rfl⟩ := getRPC_cases h <;> rfl

end Globals

end Basket.Communication
