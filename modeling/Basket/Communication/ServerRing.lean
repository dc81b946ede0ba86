import Basket.Common.ServerList
import Basket.Communication.RpcFactory

/-! What the text of the server list file has to say for a process to be configured with a server. -/

namespace Basket.Communication

open Common ConfigurationManager

/-- The file names a server, and not so many that their number turns negative in an `int`. -/
structure Populated (file : Text) : Prop where
  readable : ∀ file_line ∈ getlines file, Readable file_line
  pos : 0 < total file % 2 ^ 32
  lt : total file % 2 ^ 32 < 2 ^ 31

/-- Objects that are constructed from now on have a number of servers to divide by. -/
def Divides (files : Files) (conf : ConfigurationManager) : Prop :=
  ∀ (g g' : Globals) (cmds : List Command), g.conf = conf →
    cmds.foldlM (Globals.step files) g = some g' →
      ∃ objects, g'.objects = g.objects ++ objects ∧ ∀ o ∈ objects, o.num_servers ≠ 0

structure Ring (files : Files) (conf : ConfigurationManager) : Prop where
  my_server_lt : (conf.MY_SERVER.toNat : ℤ) < conf.NUM_SERVERS.toInt
  divides : Divides files conf

section Reloading

variable {files : Files} {conf conf₁ conf₂ : ConfigurationManager} {g g' : Globals} {c : Command}
variable {kind : Kind} {server_port : UInt16} {i : ℕ} {cmds : List Command}

/-- The configuration still names the file, and the number of servers that was loaded from it. -/
structure Keeps (conf conf₁ : ConfigurationManager) : Prop where
  path : conf₁.SERVER_LIST_PATH = conf.SERVER_LIST_PATH
  count : conf₁.NUM_SERVERS = conf.NUM_SERVERS

lemma Keeps.loadServers (hk : Keeps conf conf₁) (hr : loadServers files conf = some conf)
    (h : conf₁.loadServers files = some conf₂) : Keeps conf conf₂ := by
  obtain ⟨file, list, hf, hl, he⟩ := loadServers_eq_some hr
  rw [← hk.path] at hf
  rw [loadServers_eq hf hl] at h
  cases h
  exact ⟨hk.path, by rw [he]; rfl⟩

lemma Keeps.getRPC (hk : Keeps conf g.conf) (hr : conf.loadServers files = some conf)
    (h : Globals.getRPC files server_port g = some (i, g')) :
    Keeps conf g'.conf ∧ g'.objects = g.objects := by
  obtain ⟨-, rfl⟩ | ⟨-, -, rpc, conf₁, engine, hn, rfl⟩ := Globals.getRPC_cases h
  · exact ⟨hk, rfl⟩
  · have hl := (Rpc.new_lists hn).1
    have hp : Keeps conf { g.conf with RPC_PORT := server_port } := ⟨hk.path, hk.count⟩
    exact ⟨⟨(hp.loadServers hr hl).path, (hp.loadServers hr hl).count⟩, rfl⟩

lemma Keeps.singletonRpc (hk : Keeps conf g.conf) (hr : conf.loadServers files = some conf)
    (h : Globals.singletonRpc files g = some (i, g')) :
    Keeps conf g'.conf ∧ g'.objects = g.objects := by
  obtain ⟨-, rfl⟩ | ⟨-, -, rpc, conf₁, engine, hn, rfl⟩ := Globals.singletonRpc_cases h
  · exact ⟨hk, rfl⟩
  · exact ⟨hk.loadServers hr (Rpc.new_lists hn).1, rfl⟩

lemma Keeps.rpcFor (hk : Keeps conf g.conf) (hr : conf.loadServers files = some conf)
    (h : Globals.rpcFor files kind g = some (i, g')) : Keeps conf g'.conf ∧ g'.objects = g.objects := by
  by_cases hc : kind = .global_clock
  · subst hc
    exact hk.singletonRpc hr h
  · rw [Globals.rpcFor_factory hc] at h
    exact hk.getRPC hr h

lemma Keeps.step (hk : Keeps conf g.conf) (hr : conf.loadServers files = some conf)
    (h : Globals.step files g c = some g') : Keeps conf g'.conf ∧
      ∃ objects, g'.objects = g.objects ++ objects ∧ ∀ o ∈ objects, o.num_servers = conf.NUM_SERVERS := by
  cases c with
  | getRPC server_port =>
    obtain ⟨⟨i, g₁⟩, hg, rfl⟩ := Option.map_eq_some_iff.mp h
    obtain ⟨hc, ho⟩ := hk.getRPC hr hg
    exact ⟨hc, [], by rw [ho, List.append_nil], fun o hm => absurd hm List.not_mem_nil⟩
  | construct RPC_PORT kind =>
    obtain ⟨i, g₁, hg, rfl⟩ := Globals.construct_eq_some h
    have hp : Keeps conf (g.setPort RPC_PORT).conf := ⟨hk.path, hk.count⟩
    obtain ⟨hc, ho⟩ := hp.rpcFor hr hg
    refine ⟨hc, [⟨kind, RPC_PORT, g.conf.NUM_SERVERS, i⟩], ?_, ?_⟩
    · change g₁.objects ++ _ = _
      rw [ho]
      rfl
    · intro o hm
      rw [List.mem_singleton.mp hm]
      exact hk.count

lemma Keeps.run (hk : Keeps conf g.conf) (hr : conf.loadServers files = some conf)
    (h : cmds.foldlM (Globals.step files) g = some g') :
    ∃ objects, g'.objects = g.objects ++ objects ∧ ∀ o ∈ objects, o.num_servers = conf.NUM_SERVERS := by
  induction cmds generalizing g with
  | nil =>
    cases h
    exact ⟨[], (List.append_nil _).symm, fun o hm => absurd hm List.not_mem_nil⟩
  | cons c cmds ih =>
    obtain ⟨g₁, hs, hrun⟩ := Option.bind_eq_some_iff.mp h
    obtain ⟨hk₁, objects, ho, hn⟩ := hk.step hr hs
    obtain ⟨objects', ho', hn'⟩ := ih hk₁ hrun
    refine ⟨objects ++ objects', by rw [ho', ho, List.append_assoc], fun o hm => ?_⟩
    rcases List.mem_append.mp hm with hm | hm
    · exact hn o hm
    · exact hn' o hm

lemma divides_of_reload (hr : conf.loadServers files = some conf) (hn : conf.NUM_SERVERS ≠ 0) :
    Divides files conf := by
  rintro g g' cmds rfl h
  obtain ⟨objects, ho, hc⟩ := Keeps.run ⟨rfl, rfl⟩ hr h
  exact ⟨objects, ho, fun o hm => hc o hm ▸ hn⟩

end Reloading

section Configuring

variable {files : Files} {conf : ConfigurationManager} {server_list_path file : Text} {path : CharStruct}

lemma num_servers_pos_iff {n : ℕ} :
    0 < (Int32.ofNat n).toInt ↔ 0 < n % 2 ^ 32 ∧ n % 2 ^ 32 < 2 ^ 31 := by
  have hs : Int32.size = 2 ^ 32 := rfl
  rw [Int32.toInt_ofNat', Int.bmod_def, hs]
  split_ifs <;> omega

lemma my_server_lt {MPI_RANK : ℕ} {NUM_SERVERS : ℤ} (h : 0 < NUM_SERVERS) :
    ((UInt16.ofInt ((MPI_RANK : ℤ).tmod NUM_SERVERS)).toNat : ℤ) < NUM_SERVERS := by
  obtain ⟨n, rfl⟩ := Int.eq_ofNat_of_zero_le h.le
  have hm := Nat.mod_lt MPI_RANK (Int.natCast_pos.mp h)
  rw [← Int.ofNat_tmod, UInt16.ofInt, UInt16.toNat_ofNat']
  omega

/-- `ConfigureDefaultClient` and `ConfigureDefaultServer` differ in two flags. -/
def configured (files : Files) (server_list_path : Text) (conf : ConfigurationManager) (flag : Bool) :
    Option ConfigurationManager :=
  (configureDefault files server_list_path conf).map fun conf =>
    { conf with IS_SERVER := flag, SERVER_ON_NODE := flag }

def withServers (path : CharStruct) (list : List CharStruct) (flag : Bool) (conf : ConfigurationManager) :
    ConfigurationManager :=
  { conf with
    SERVER_LIST_PATH := path
    SERVER_LIST := list
    NUM_SERVERS := Int32.ofNat list.length
    MY_SERVER := UInt16.ofInt ((conf.MPI_RANK : ℤ).tmod (Int32.ofNat list.length).toInt)
    IS_SERVER := flag
    SERVER_ON_NODE := flag }

lemma configured_eq_some (hp : serverListPath server_list_path conf = some path)
    (hf : files path = some file) {flag : Bool} {conf' : ConfigurationManager} :
    configured files server_list_path conf flag = some conf' ↔ ∃ list, serverList file = some list ∧
      Int32.ofNat list.length ≠ 0 ∧ withServers path list flag conf = conf' := by
  have hc (list : List CharStruct) (hl : serverList file = some list) :
      configured files server_list_path conf flag =
        if Int32.ofNat list.length = 0 then none else some (withServers path list flag conf) := by
    simp only [configured, configureDefault, hp, loadServers, hf, hl, Option.bind_eq_bind,
      Option.bind_some, Option.pure_def, setServers]
    split_ifs <;> rfl
  constructor
  · intro h
    cases hl : serverList file with
    | none => simp [configured, configureDefault, hp, loadServers, hf, hl] at h
    | some list =>
      rw [hc list hl] at h
      split_ifs at h with hz
      exact ⟨list, rfl, hz, Option.some.inj h⟩
  · rintro ⟨list, hl, hz, rfl⟩
    rw [hc list hl, if_neg hz]

lemma configured_iff (hp : serverListPath server_list_path conf = some path) (hf : files path = some file)
    {flag : Bool} : (∃ conf', configured files server_list_path conf flag = some conf' ∧ Ring files conf') ↔
      Populated file := by
  constructor
  · rintro ⟨conf', hc, hr⟩
    obtain ⟨list, hl, -, rfl⟩ := (configured_eq_some hp hf).mp hc
    obtain ⟨hm, hn⟩ := readable_of_serverList hl
    have hpos : 0 < (Int32.ofNat list.length).toInt := (Int.natCast_nonneg _).trans_lt hr.my_server_lt
    rw [num_servers_pos_iff, hn] at hpos
    exact ⟨hm, hpos.1, hpos.2⟩
  · intro h
    obtain ⟨list, hl, hn⟩ := serverList_readable h.readable
    have hpos : 0 < (Int32.ofNat list.length).toInt := num_servers_pos_iff.mpr (hn ▸ ⟨h.pos, h.lt⟩)
    have hz : Int32.ofNat list.length ≠ 0 := by
      intro he
      rw [he] at hpos
      exact absurd hpos (by decide)
    refine ⟨_, (configured_eq_some hp hf).mpr ⟨list, hl, hz, rfl⟩, my_server_lt hpos, ?_⟩
    exact divides_of_reload (loadServers_eq hf hl) hz

theorem ring_iff (hp : serverListPath server_list_path conf = some path) (hf : files path = some file) :
    ((∃ conf', conf.configureDefaultClient files server_list_path = some conf' ∧ Ring files conf') ↔
      Populated file) ∧
    ((∃ conf', conf.configureDefaultServer files server_list_path = some conf' ∧ Ring files conf') ↔
      Populated file) := by
  have hc : conf.configureDefaultClient files server_list_path =
      configured files server_list_path conf false := Option.map_eq_bind.symm
  have hs : conf.configureDefaultServer files server_list_path =
      configured files server_list_path conf true := Option.map_eq_bind.symm
  rw [hc, hs]
  exact ⟨configured_iff hp hf, configured_iff hp hf⟩

def serversAB : Files := fun _ => some ['a', ':', '1', '\n', 'b', ':', '1']

lemma populated_AB : Populated ['a', ':', '1', '\n', 'b', ':', '1'] := by
  have hg : getlines ['a', ':', '1', '\n', 'b', ':', '1'] = [['a', ':', '1'], ['b', ':', '1']] := by
    decide +kernel
  refine ⟨fun file_line hm => ?_, by decide +kernel, by decide +kernel⟩
  rw [hg, List.mem_cons, List.mem_singleton] at hm
  rcases hm with rfl | rfl
  · exact ⟨['a'], 1, by decide +kernel, fun _ => by decide⟩
  · exact ⟨['b'], 1, by decide +kernel, fun _ => by decide⟩

theorem ring_pair : ∃ conf, (ConfigurationManager.initial .RPCLIB 3).configureDefaultServer serversAB [] =
    some conf ∧ Ring serversAB conf :=
  (@ring_iff serversAB (.initial .RPCLIB 3) [] _ _ rfl rfl).2.mpr populated_AB

theorem empty_ring : ¬∀ (files : Files) (conf : ConfigurationManager) (server_list_path file : Text)
    (path : CharStruct), serverListPath server_list_path conf = some path → files path = some file →
    (∃ conf', conf.configureDefaultClient files server_list_path = some conf' ∧ Ring files conf') ∧
      ∃ conf', conf.configureDefaultServer files server_list_path = some conf' ∧ Ring files conf' := by
  intro h
  obtain ⟨⟨conf', hc, -⟩, -⟩ := h (fun _ => some []) (.initial .RPCLIB 0) [] [] _ rfl rfl
  cases hc

end Configuring

end Basket.Communication
