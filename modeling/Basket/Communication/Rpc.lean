import Basket.Common.ConfigurationManager

/-! The RPC object of a process: the server it starts, and the addresses its calls dial. -/

namespace Basket.Communication

open Common RPCImplementation

/-- `GetInstance` keeps the instance of the first call and ignores the arguments of later ones. -/
def getInstance {T : Type*} (instance? : Option T) (new : T) : T := instance?.getD new

/-- The port that an address names after its last colon. -/
def portOf (address : Text) : Option ℕ :=
  let port := address.rtakeWhile (· ≠ ':')
  if port ≠ [] ∧ port.all Char.isDigit then some (Nat.ofDigitChars 10 port 0) else none

inductive Mode
  | server
  | client
  deriving DecidableEq, Repr

structure Engine where
  address : Text
  mode : Mode
  threads : UInt16
  deriving DecidableEq, Repr

def Engine.port (engine : Engine) : Option ℕ :=
  match engine.mode with
  | .server => (portOf engine.address).filter (· < 65536)
  | .client => none

/-- An `rpc::server`, which takes its port as an unsigned 16-bit integer. -/
structure RpclibServer where
  port : UInt16
  workers : UInt16
  deriving DecidableEq, Repr

structure Rpc where
  server_port : UInt16
  server_list : List CharStruct
  rpclib_server : Option RpclibServer
  thallium_engine : Option Engine
  deriving DecidableEq

def serverHost (conf : ConfigurationManager) : Option CharStruct := conf.SERVER_LIST[conf.MPI_RANK]?

def engineInitStr (conf : ConfigurationManager) (server_port : UInt16) : Option CharStruct :=
  let port := decimal (server_port.toNat + conf.MY_SERVER.toNat)
  match conf.RPC_IMPLEMENTATION with
  | RPCLIB => none
  | THALLIUM_TCP => do
    let host ← serverHost conf
    conf.TCP_CONF.concat ["://".toList, host.text, [':'], port]
  | THALLIUM_ROCE => do
    let host ← serverHost conf
    conf.VERBS_CONF.concat ["://".toList, conf.VERBS_DOMAIN.text, "://".toList, host.text, [':'], port]

def clientConf (conf : ConfigurationManager) : CharStruct :=
  match conf.RPC_IMPLEMENTATION with
  | THALLIUM_ROCE => conf.VERBS_CONF
  | _ => conf.TCP_CONF

/-- `RPC::RPC` and `RPC::run`, with the configuration and the engine of the process as they leave
them. -/
def Rpc.new (files : Files) (conf : ConfigurationManager) (engine : Option Engine) :
    Option (Rpc × ConfigurationManager × Option Engine) := do
  let server_port := conf.RPC_PORT
  let conf ← conf.loadServers files
  let server_list := conf.SERVER_LIST
  match conf.RPC_IMPLEMENTATION with
  | RPCLIB =>
    let rpclib_server : Option RpclibServer :=
      if conf.IS_SERVER then some ⟨server_port + conf.MY_SERVER, conf.RPC_THREADS⟩ else none
    return (⟨server_port, server_list, rpclib_server, none⟩, conf, engine)
  | _ =>
    if conf.IS_SERVER then do
      let engine_init_str ← engineInitStr conf server_port
      let e := getInstance engine ⟨engine_init_str.text, .server, conf.RPC_THREADS⟩
      return (⟨server_port, server_list, none, some e⟩, conf, some e)
    else
      let e := getInstance engine ⟨(clientConf conf).text, .client, 0⟩
      return (⟨server_port, server_list, none, some e⟩, conf, some e)

def Rpc.port (rpc : Rpc) : Option ℕ :=
  match rpc.rpclib_server with
  | some server => some server.port.toNat
  | none => rpc.thallium_engine.bind Engine.port

section Creation

variable {files : Files} {conf conf' : ConfigurationManager} {engine engine' : Option Engine} {rpc : Rpc}

lemma Rpc.new_lists (h : Rpc.new files conf engine = some (rpc, conf', engine')) :
    conf.loadServers files = some conf' ∧ rpc.server_port = conf.RPC_PORT ∧
      rpc.server_list = conf'.SERVER_LIST := by
  simp only [Rpc.new, Option.bind_eq_bind, Option.bind_eq_some_iff] at h
  obtain ⟨conf₁, hl, h⟩ := h
  split at h
  · cases h
    exact ⟨hl, rfl, rfl⟩
  · split_ifs at h
    · obtain ⟨l, -, h⟩ := Option.bind_eq_some_iff.mp h
      cases h
      exact ⟨hl, rfl, rfl⟩
    · cases h
      exact ⟨hl, rfl, rfl⟩

lemma Rpc.new_rpclib (hv : conf.RPC_IMPLEMENTATION = RPCLIB) (hs : conf.IS_SERVER = true)
    (h : Rpc.new files conf engine = some (rpc, conf', engine')) :
    rpc.port = some (conf.RPC_PORT + conf.MY_SERVER).toNat := by
  obtain ⟨file, list, hf, hl, -⟩ := ConfigurationManager.loadServers_eq_some (Rpc.new_lists h).1
  have hc := ConfigurationManager.loadServers_eq hf hl
  simp only [Rpc.new, hc, Option.bind_eq_bind, Option.bind_some, ConfigurationManager.setServers, hv, hs] at h
  cases h
  rfl

lemma Rpc.new_thallium (hv : conf.RPC_IMPLEMENTATION ≠ RPCLIB) (hs : conf.IS_SERVER = true)
    (h : Rpc.new files conf engine = some (rpc, conf', engine')) :
    ∃ l, engineInitStr conf' conf.RPC_PORT = some l ∧
      engine' = some (getInstance engine ⟨l.text, .server, conf.RPC_THREADS⟩) ∧
      rpc.port = engine'.bind Engine.port := by
  have hl := (Rpc.new_lists h).1
  obtain ⟨file, list, hf, hm, rfl⟩ := ConfigurationManager.loadServers_eq_some hl
  simp only [Rpc.new, hl, Option.bind_eq_bind, Option.bind_some] at h
  split at h
  · next hr => exact absurd hr hv
  · have hs' : (conf.setServers list).IS_SERVER = true := hs
    rw [if_pos hs'] at h
    obtain ⟨l, hi, h⟩ := Option.bind_eq_some_iff.mp h
    cases h
    exact ⟨l, hi, rfl, rfl⟩

end Creation

section Calls

structure Target where
  host : CharStruct
  port : Option ℕ
  deriving DecidableEq

variable (conf : ConfigurationManager) (rpc : Rpc) (inet_ntoa : CharStruct → CharStruct)
variable (server_index : UInt16)

/-- `int16_t port = server_port + server_index` -/
def clientPort (server_port server_index : UInt16) : Int16 :=
  Int16.ofNat (server_port.toNat + server_index.toNat)

def lookupStr (host : CharStruct) (port : Int16) : Option CharStruct :=
  (clientConf conf).concat ["://".toList, (inet_ntoa host).text, [':'], decimal port.toInt]

/-- The `switch` of the calls. `rpc::client` takes the port as an unsigned 16-bit integer. -/
def dial (host : CharStruct) (port : Int16) : Option Target :=
  match conf.RPC_IMPLEMENTATION with
  | RPCLIB => some ⟨host, some port.toUInt16.toNat⟩
  | _ => do
    let lookup_str ← lookupStr conf inet_ntoa host port
    return ⟨host, portOf lookup_str.text⟩

/-- `server_list.at`, which throws when there is no such entry. -/
def clientHost : Option CharStruct := rpc.server_list[server_index.toNat]?

def call : Option Target := do
  let host ← clientHost rpc server_index
  dial conf inet_ntoa host (clientPort rpc.server_port server_index)

def callWithTimeout : Option Target := do
  let host ← conf.SERVER_LIST[server_index.toNat]?
  dial conf inet_ntoa host (clientPort rpc.server_port server_index)

def asyncCall : Option Target :=
  match conf.RPC_IMPLEMENTATION with
  | RPCLIB => do
    let host ← clientHost rpc server_index
    dial conf inet_ntoa host (clientPort rpc.server_port server_index)
  | _ => none

end Calls

section Ports

lemma portOf_natCast {a : Text} (n : ℕ) : portOf (a ++ ':' :: decimal n) = some n := by
  have hc : ':' ∉ decimal n := not_mem_decimal rfl (by decide) _
  have hd : (Nat.toDigits 10 n).all Char.isDigit := List.all_eq_true.mpr fun c hm =>
    Nat.isDigit_of_mem_toDigits (by norm_num) (by norm_num) hm
  rw [portOf, rtakeWhile_append_cons hc, decimal_natCast, if_pos ⟨Nat.toDigits_ne_nil, hd⟩,
    Nat.ofDigitChars_ten_toDigits]

lemma portOf_neg {a : Text} {n : ℤ} (h : n < 0) : portOf (a ++ ':' :: decimal n) = none := by
  have hc : ':' ∉ decimal n := not_mem_decimal rfl (by decide) _
  rw [portOf, rtakeWhile_append_cons hc, decimal_neg h, if_neg]
  rintro ⟨-, hd⟩
  exact absurd (List.all_eq_true.mp hd '-' List.mem_cons_self) (by decide)

end Ports

end Basket.Communication
