import Basket.Communication.Routing

/-! The processes that use one container, and the operations of the containers with keys. -/

namespace Basket.Communication

open Library Cluster

structure Deployment (Client : Type*) where
  num_servers : ℕ
  process : Client → Process
  num_servers_pos : 0 < num_servers
  my_server_lt : ∀ c, (process c).my_server.toNat < num_servers

inductive Op (KeyType MappedType : Type*)
  | put (key : KeyType) (data : MappedType)
  | get (key : KeyType)
  | erase (key : KeyType)
  deriving DecidableEq, Repr

def Op.key {KeyType MappedType : Type*} : Op KeyType MappedType → KeyType
  | put key _ => key
  | get key => key
  | erase key => key

inductive Reply (MappedType : Type*)
  | put (success : Bool)
  | get (found : Bool × MappedType)
  | erase (found : Bool × MappedType)
  deriving DecidableEq, Repr

namespace Deployment

def single {Client : Type*} : Deployment Client where
  num_servers := 1
  process _ := ⟨0, true⟩
  num_servers_pos := by decide
  my_server_lt _ := by decide

def pair : Deployment Bool where
  num_servers := 2
  process c := ⟨if c then 1 else 0, true⟩
  num_servers_pos := by decide
  my_server_lt c := by cases c <;> decide

variable {Client KeyType Oper Res σ : Type*} (D : Deployment Client)

def home (keyHash : KeyType → UInt64) (key : KeyType) : UInt16 :=
  modThenCast D.num_servers (keyHash key)

lemma home_lt (keyHash : KeyType → UInt64) (key : KeyType) :
    (D.home keyHash key).toNat < D.num_servers :=
  modThenCast_lt D.num_servers_pos

lemma home_congr {keyHash : KeyType → UInt64} {r : KeyType → KeyType → Prop}
    (hc : ∀ a b, r a b → keyHash a = keyHash b) (a b : KeyType) (h : r a b) :
    D.home keyHash a = D.home keyHash b := by
  rw [home, home, hc a b h]

lemma home_mem_askOrder (keyHash : KeyType → UInt64) (key : KeyType) (c : Client) :
    D.home keyHash key ∈ askOrder D.num_servers (D.process c).my_server :=
  mem_askOrder (D.my_server_lt c) (D.home_lt keyHash key)

variable {D} {S : Service Client UInt16 Oper Res σ} {c : Client} {o : Oper} {key_int : UInt16}

lemma server_target (ha : S.attached c = (D.process c).my_server) :
    S.server c o = (D.process c).target (S.dispatch c o) := by
  cases hd : S.dispatch c o with
  | here => rw [S.server_here hd, ha, Process.target]
  | rpc s => rw [S.server_rpc hd, Process.target]

lemma server_callServer (ha : S.attached c = (D.process c).my_server)
    (hd : S.dispatch c o = (D.process c).callServer key_int) : S.server c o = key_int := by
  have ht := (D.process c).target_callServer key_int
  cases hc : (D.process c).callServer key_int with
  | here => rw [S.server_here (hd.trans hc), ha, ← ht, hc, Process.target]
  | rpc s => rw [S.server_rpc (hd.trans hc), ← ht, hc, Process.target]

lemma server_callOwn (ha : S.attached c = (D.process c).my_server)
    (hd : S.dispatch c o = (D.process c).callOwn) : S.server c o = (D.process c).my_server := by
  have ht := (D.process c).target_callOwn
  cases hc : (D.process c).callOwn with
  | here => rw [S.server_here (hd.trans hc), ha]
  | rpc s => rw [S.server_rpc (hd.trans hc), ← ht, hc, Process.target]

lemma server_askServer (ha : S.attached c = (D.process c).my_server)
    (hd : S.dispatch c o = (D.process c).askServer key_int) : S.server c o = key_int := by
  rw [server_target ha, hd, Process.target_askServer]

end Deployment

end Basket.Communication
