import Basket.Communication.Addresses
import Basket.Communication.RpcFactory
import Mathlib.Data.List.Nodup

/-! When a server process has one RPC object for each port, which serves the port of its server. -/

namespace Basket.Communication

open Common RPCImplementation

namespace Command

def factoryPort? : Command → Option UInt16
  | .getRPC server_port => some server_port
  | .construct RPC_PORT kind => if kind = .global_clock then none else some RPC_PORT

def constructed? : Command → Option (Kind × UInt16)
  | .getRPC _ => none
  | .construct RPC_PORT kind => some (kind, RPC_PORT)

def clockPort? : Command → Option UInt16
  | .getRPC _ => none
  | .construct RPC_PORT kind => if kind = .global_clock then some RPC_PORT else none

end Command

section Ports

variable (cmds : List Command)

def factoryPorts : List UInt16 := cmds.filterMap Command.factoryPort?

def firstClock : Option UInt16 := (cmds.filterMap Command.clockPort?).head?

def createdPorts : List UInt16 := (firstClock cmds).toList ++ factoryPorts cmds

def constructed : List (Kind × UInt16) := cmds.filterMap Command.constructed?

variable {cmds} {c : Command}

lemma factoryPorts_concat : factoryPorts (cmds ++ [c]) = factoryPorts cmds ++ c.factoryPort?.toList := by
  cases h : c.factoryPort? <;> simp [factoryPorts, h]

lemma constructed_concat : constructed (cmds ++ [c]) = constructed cmds ++ c.constructed?.toList := by
  cases h : c.constructed? <;> simp [constructed, h]

lemma firstClock_concat : firstClock (cmds ++ [c]) = (firstClock cmds).or c.clockPort? := by
  cases h : c.clockPort? <;> simp [firstClock, List.head?_append, h]

end Ports

namespace Globals

variable {files : Files} {conf : ConfigurationManager} {g g' : Globals} {cmds : List Command}
variable {c : Command} {i : ℕ} {server_port RPC_PORT : UInt16} {kind : Kind} {o : Object}

/-- The RPC objects of a process whose factory was asked for the ports `req` and whose first clock was
constructed under the port `clock`. -/
structure Created (req : List UInt16) (clock : Option UInt16) (g : Globals) : Prop where
  ports : (g.heap.map Rpc.server_port).Perm (clock.toList ++ g.rpcs.map Prod.fst)
  nodup : (g.rpcs.map Prod.fst).Nodup
  keys : ∀ p, p ∈ g.rpcs.map Prod.fst ↔ p ∈ req
  instance_none : g.rpcInstance = none ↔ clock = none
  apart : ∀ i ∈ g.rpcInstance, ∀ q ∈ g.rpcs, q.2 ≠ i
  values : ∀ q ∈ g.rpcs, q.2 < g.heap.length
  instance_lt : ∀ i ∈ g.rpcInstance, i < g.heap.length

variable {req : List UInt16} {clock : Option UInt16}

lemma initial_created : Created [] none (initial conf) := by
  constructor <;> simp [initial]

lemma Created.setObjects (hc : Created req clock g) (objects : List Object) :
    Created req clock { g with objects := objects } :=
  ⟨hc.ports, hc.nodup, hc.keys, hc.instance_none, hc.apart, hc.values, hc.instance_lt⟩

lemma not_mem_of_lookup {rpcs : List (UInt16 × ℕ)} (h : rpcs.lookup server_port = none) :
    server_port ∉ rpcs.map Prod.fst := by
  intro hm
  obtain ⟨q, hq, rfl⟩ := List.mem_map.mp hm
  have hh := List.lookup_eq_none_iff.mp h q hq
  simp at hh

lemma Created.getRPC (hc : Created req clock g)
    (h : getRPC files server_port (g.setPort RPC_PORT) = some (i, g')) :
    Created (req ++ [server_port]) clock g' ∧ (server_port, i) ∈ g'.rpcs ∧ g.rpcs ⊆ g'.rpcs ∧
      g'.rpcInstance = g.rpcInstance ∧ g'.objects = g.objects := by
  obtain ⟨hl, rfl⟩ | ⟨hl, rfl, rpc, conf, engine, hn, rfl⟩ := getRPC_cases h
  · have hm := lookup_mem hl
    have hk : server_port ∈ req := (hc.keys _).mp (List.mem_map.mpr ⟨_, hm, rfl⟩)
    refine ⟨⟨hc.ports, hc.nodup, fun p => ?_, hc.instance_none, hc.apart, hc.values, hc.instance_lt⟩,
      hm, fun q hq => hq, rfl, rfl⟩
    rw [List.mem_append, List.mem_singleton, ← hc.keys]
    exact ⟨.inl, fun hp => hp.elim id fun he => he ▸ (hc.keys _).mpr hk⟩
  · have hp := (Rpc.new_lists hn).2.1
    have hlen : (g.heap ++ [rpc]).length = g.heap.length + 1 := by simp
    refine ⟨⟨?_, List.nodup_cons.mpr ⟨not_mem_of_lookup hl, hc.nodup⟩, fun p => ?_, hc.instance_none,
      ?_, ?_, fun i hi => hlen ▸ Nat.lt_succ_of_lt (hc.instance_lt i hi)⟩, by simp,
      fun q hq => List.mem_cons_of_mem _ hq, rfl, rfl⟩
    · simp only [List.map_append, List.map_cons, List.map_nil, hp]
      refine (hc.ports.append_right _).trans ?_
      rw [List.append_assoc]
      exact (List.perm_append_singleton _ _).append_left _
    · have hk := hc.keys p
      simp only [setPort, List.map_cons, List.mem_cons, List.mem_append, List.not_mem_nil, or_false]
      rw [hk, or_comm]
    · intro j hj q hq
      obtain rfl | hq := List.mem_cons.mp hq
      · exact (hc.instance_lt j hj).ne'
      · exact hc.apart j hj q hq
    · intro q hq
      obtain rfl | hq := List.mem_cons.mp hq
      · exact hlen ▸ Nat.lt_succ_self _
      · exact hlen ▸ Nat.lt_succ_of_lt (hc.values q hq)

lemma Created.singletonRpc (hc : Created req clock g)
    (h : singletonRpc files (g.setPort RPC_PORT) = some (i, g')) :
    Created req (clock.or (some RPC_PORT)) g' ∧ g'.rpcInstance = some i ∧ g'.rpcs = g.rpcs ∧
      (∀ j ∈ g.rpcInstance, j = i) ∧ g'.objects = g.objects := by
  obtain ⟨hi, rfl⟩ | ⟨hi, rfl, rpc, conf, engine, hn, rfl⟩ := singletonRpc_cases h
  · have hi : g.rpcInstance = some i := hi
    have ho : clock.or (some RPC_PORT) = clock := by
      cases clock with
      | none => exact absurd (hc.instance_none.mpr rfl) (by simp [hi])
      | some q => rfl
    rw [ho]
    exact ⟨⟨hc.ports, hc.nodup, hc.keys, hc.instance_none, hc.apart, hc.values, hc.instance_lt⟩, hi, rfl,
      fun j hj => Option.some_inj.mp (hj.symm.trans hi), rfl⟩
  · have hi : g.rpcInstance = none := hi
    obtain rfl := hc.instance_none.mp hi
    have hp := (Rpc.new_lists hn).2.1
    have hlen : (g.heap ++ [rpc]).length = g.heap.length + 1 := by simp
    refine ⟨⟨?_, hc.nodup, hc.keys, by simp, ?_, fun q hq => hlen ▸ Nat.lt_succ_of_lt (hc.values q hq), ?_⟩,
      rfl, rfl, by simp [hi], rfl⟩
    · simp only [List.map_append, List.map_cons, List.map_nil, hp]
      exact (hc.ports.append_right _).trans (List.perm_append_singleton _ _)
    · intro j hj q hq
      cases hj
      exact (hc.values q hq).ne
    · intro j hj
      cases hj
      exact hlen ▸ Nat.lt_succ_self _

structure Traced (cmds : List Command) (g : Globals) : Prop where
  created : Created (factoryPorts cmds) (firstClock cmds) g
  objects : g.objects.map (fun o => (o.kind, o.port)) = constructed cmds
  clocks : ∀ o ∈ g.objects, o.kind = .global_clock → g.rpcInstance = some o.rpc
  others : ∀ o ∈ g.objects, o.kind ≠ .global_clock → (o.port, o.rpc) ∈ g.rpcs

lemma Traced.step (ht : Traced cmds g) (h : step files g c = some g') : Traced (cmds ++ [c]) g' := by
  have hr := ht.created
  cases c with
  | getRPC server_port =>
    obtain ⟨⟨i, g₁⟩, hg, rfl⟩ := Option.map_eq_some_iff.mp h
    have hg : Globals.getRPC files server_port (g.setPort g.conf.RPC_PORT) = some (i, g₁) := hg
    obtain ⟨hc, -, hs, hi, ho⟩ := hr.getRPC hg
    refine ⟨?_, ?_, ?_, ?_⟩
    · simpa [factoryPorts_concat, firstClock_concat, Command.factoryPort?, Command.clockPort?] using hc
    · simpa [constructed_concat, Command.constructed?, ho] using ht.objects
    · simpa [ho, hi] using ht.clocks
    · intro o hm hk
      exact hs (ht.others o (ho ▸ hm) hk)
  | construct RPC_PORT kind =>
    obtain ⟨i, g₁, hg, rfl⟩ := construct_eq_some h
    by_cases hk : kind = .global_clock
    · subst hk
      obtain ⟨hc, hi, hs, hj, ho⟩ := hr.singletonRpc hg
      refine ⟨?_, ?_, ?_, ?_⟩
      · simpa [factoryPorts_concat, firstClock_concat, Command.factoryPort?, Command.clockPort?] using
          hc.setObjects _
      · simp [constructed_concat, Command.constructed?, ho, ← ht.objects]
      · intro o hm hk
        rw [ho] at hm
        obtain hm | rfl := mem_snoc.mp hm
        · rw [hi, hj _ (ht.clocks o hm hk)]
        · exact hi
      · intro o hm hk
        rw [ho] at hm
        obtain hm | rfl := mem_snoc.mp hm
        · exact hs ▸ ht.others o hm hk
        · exact absurd rfl hk
    · rw [rpcFor_factory hk] at hg
      obtain ⟨hc, hn, hs, hi, ho⟩ := hr.getRPC hg
      refine ⟨?_, ?_, ?_, ?_⟩
      · simpa [factoryPorts_concat, firstClock_concat, Command.factoryPort?, Command.clockPort?, hk] using
          hc.setObjects _
      · simp [constructed_concat, Command.constructed?, ho, ← ht.objects]
      · intro o hm hk'
        rw [ho] at hm
        obtain hm | rfl := mem_snoc.mp hm
        · rw [hi, ht.clocks o hm hk']
        · exact absurd hk' hk
      · intro o hm hk'
        rw [ho] at hm
        obtain hm | rfl := mem_snoc.mp hm
        · exact hs (ht.others o hm hk')
        · exact hn

lemma run_traced (h : run files cmds conf = some g) : Traced cmds g := by
  induction cmds using List.reverseRecOn generalizing g with
  | nil =>
    cases h
    exact ⟨initial_created, rfl, by simp [initial], by simp [initial]⟩
  | append_singleton cmds c ih =>
    obtain ⟨g₁, hr, hs⟩ := run_concat.mp h
    exact (ih hr).step hs

def serverPort (conf : ConfigurationManager) (server_port : UInt16) : Option ℕ :=
  (some (server_port.toNat + conf.MY_SERVER.toNat)).filter (· < 65536)

/-- The ports on which the RPC objects of a server process serve: on Thallium the first engine serves
for all of them. -/
structure Served (conf c : ConfigurationManager) (heap : List Rpc) (engine : Option Engine) : Prop where
  server : c.IS_SERVER = true
  my_server : c.MY_SERVER = conf.MY_SERVER
  implementation : c.RPC_IMPLEMENTATION = conf.RPC_IMPLEMENTATION
  rpclib : conf.RPC_IMPLEMENTATION = RPCLIB →
    ∀ rpc ∈ heap, rpc.port = some (rpc.server_port + conf.MY_SERVER).toNat
  thallium : conf.RPC_IMPLEMENTATION ≠ RPCLIB → heap = [] ∧ engine = none ∨
    ∃ rpc₀ e, heap.head? = some rpc₀ ∧ engine = some e ∧ e.port = serverPort conf rpc₀.server_port ∧
      ∀ rpc ∈ heap, rpc.port = e.port

variable {c₁ c₂ : ConfigurationManager} {heap : List Rpc} {engine engine' : Option Engine} {rpc : Rpc}

lemma Served.setPort (hs : Served conf c₁ heap engine) (RPC_PORT : UInt16) :
    Served conf { c₁ with RPC_PORT := RPC_PORT } heap engine :=
  ⟨hs.server, hs.my_server, hs.implementation, hs.rpclib, hs.thallium⟩

lemma Served.create (hs : Served conf c₁ heap engine)
    (hn : Rpc.new files c₁ engine = some (rpc, c₂, engine')) :
    Served conf c₂ (heap ++ [rpc]) engine' := by
  obtain ⟨hl, hp, -⟩ := Rpc.new_lists hn
  obtain ⟨file, list, -, -, rfl⟩ := ConfigurationManager.loadServers_eq_some hl
  refine ⟨hs.server, hs.my_server, hs.implementation, ?_, ?_⟩
  · intro hv r hm
    obtain hm | rfl := mem_snoc.mp hm
    · exact hs.rpclib hv r hm
    · rw [Rpc.new_rpclib (hs.implementation.trans hv) hs.server hn, hp, hs.my_server]
  · intro hv
    obtain ⟨l, hi, rfl, hr⟩ := Rpc.new_thallium (hs.implementation ▸ hv) hs.server hn
    have he := engineInitStr_port hi
    refine .inr ?_
    obtain ⟨rfl, rfl⟩ | ⟨rpc₀, e, h₀, rfl, hq, ha⟩ := hs.thallium hv
    · refine ⟨rpc, _, rfl, rfl, ?_, ?_⟩
      · have hm : (c₁.setServers list).MY_SERVER = conf.MY_SERVER := hs.my_server
        simp only [getInstance, Option.getD_none, Engine.port, he, hp, hm, serverPort]
      · simpa using hr
    · refine ⟨rpc₀, e, by simp [h₀], rfl, hq, ?_⟩
      intro r hm
      obtain hm | rfl := mem_snoc.mp hm
      · exact ha r hm
      · exact hr

lemma getRPC_served (hs : Served conf g.conf g.heap g.engineInstance)
    (h : getRPC files server_port g = some (i, g')) : Served conf g'.conf g'.heap g'.engineInstance := by
  obtain ⟨-, rfl⟩ | ⟨-, -, rpc, conf₁, engine, hn, rfl⟩ := getRPC_cases h
  · exact hs
  · exact ((hs.setPort server_port).create hn).setPort _

lemma singletonRpc_served (hs : Served conf g.conf g.heap g.engineInstance)
    (h : singletonRpc files g = some (i, g')) : Served conf g'.conf g'.heap g'.engineInstance := by
  obtain ⟨-, rfl⟩ | ⟨-, -, rpc, conf₁, engine, hn, rfl⟩ := singletonRpc_cases h
  · exact hs
  · exact hs.create hn

lemma run_served (hv : conf.IS_SERVER = true) (h : run files cmds conf = some g) :
    Served conf g.conf g.heap g.engineInstance := by
  induction cmds using List.reverseRecOn generalizing g with
  | nil =>
    cases h
    exact ⟨hv, rfl, rfl, by simp [initial], fun _ => .inl ⟨rfl, rfl⟩⟩
  | append_singleton cmds c ih =>
    obtain ⟨g₁, hr, hs⟩ := run_concat.mp h
    have hi := ih hr
    cases c with
    | getRPC server_port =>
      obtain ⟨⟨i, g₁⟩, hg, rfl⟩ := Option.map_eq_some_iff.mp hs
      exact getRPC_served hi hg
    | construct RPC_PORT kind =>
      obtain ⟨i, g₂, hg, rfl⟩ := construct_eq_some hs
      have hi : Served conf (g₁.setPort RPC_PORT).conf (g₁.setPort RPC_PORT).heap
        (g₁.setPort RPC_PORT).engineInstance := hi.setPort RPC_PORT
      suffices hh : Served conf g₂.conf g₂.heap g₂.engineInstance from hh
      by_cases hk : kind = .global_clock
      · subst hk
        exact singletonRpc_served hi hg
      · rw [rpcFor_factory hk] at hg
        exact getRPC_served hi hg

/-- One RPC object for each port, the same for all objects constructed under it, which serves the port
of its server. -/
def OneEndpoint (files : Files) (g : Globals) : Prop :=
  (g.heap.map Rpc.server_port).Nodup ∧
  (∀ o ∈ g.objects, ∀ o' ∈ g.objects, o.port = o'.port → o.rpc = o'.rpc) ∧
  (∀ rpc ∈ g.heap, rpc.port = some (rpc.server_port.toNat + g.conf.MY_SERVER.toNat)) ∧
  ∀ p i g', getRPC files p g = some (i, g') → g'.conf.RPC_PORT = g.conf.RPC_PORT

structure Respects (conf : ConfigurationManager) (cmds : List Command) : Prop where
  clock : ∀ p ∈ firstClock cmds, p ∉ factoryPorts cmds
  kinds : ∀ p kind, (.global_clock, p) ∈ constructed cmds → (kind, p) ∈ constructed cmds →
    kind = .global_clock
  bound : ∀ p ∈ createdPorts cmds, p.toNat + conf.MY_SERVER.toNat ≤ 65535
  engine : conf.RPC_IMPLEMENTATION ≠ RPCLIB → ∀ p ∈ createdPorts cmds, ∀ q ∈ createdPorts cmds, p = q

lemma Created.mem_ports {p : UInt16} (hc : Created req clock g) :
    p ∈ g.heap.map Rpc.server_port ↔ p ∈ clock.toList ++ req := by
  rw [hc.ports.mem_iff, List.mem_append, List.mem_append, hc.keys]

lemma Created.nodup_iff (hc : Created req clock g) :
    (g.heap.map Rpc.server_port).Nodup ↔ ∀ p ∈ clock, p ∉ req := by
  rw [hc.ports.nodup_iff]
  cases clock with
  | none => simp [hc.nodup]
  | some p => simp [List.nodup_cons, hc.nodup, ← hc.keys p]

lemma Traced.shared_iff (ht : Traced cmds g) :
    (∀ o ∈ g.objects, ∀ o' ∈ g.objects, o.port = o'.port → o.rpc = o'.rpc) ↔
      ∀ p kind, (.global_clock, p) ∈ constructed cmds → (kind, p) ∈ constructed cmds →
        kind = .global_clock := by
  have hr := ht.created
  rw [← ht.objects]
  constructor
  · intro h p kind hm hm'
    obtain ⟨o, ho, he⟩ := List.mem_map.mp hm
    obtain ⟨o', ho', he'⟩ := List.mem_map.mp hm'
    simp only [Prod.mk.injEq] at he he'
    by_contra hk
    have hi := ht.clocks o ho he.1
    have hq := ht.others o' ho' (he'.1 ▸ hk)
    exact hr.apart _ hi _ hq (h o ho o' ho' (he.2.trans he'.2.symm)).symm
  · intro h o ho o' ho' he
    have hm : (o.kind, o.port) ∈ g.objects.map (fun o => (o.kind, o.port)) := List.mem_map_of_mem ho
    have hm' : (o'.kind, o.port) ∈ g.objects.map (fun o => (o.kind, o.port)) :=
      he ▸ List.mem_map_of_mem ho'
    by_cases hk : o.kind = .global_clock <;> by_cases hk' : o'.kind = .global_clock
    · exact Option.some_inj.mp ((ht.clocks o ho hk).symm.trans (ht.clocks o' ho' hk'))
    · exact absurd (h _ _ (hk ▸ hm) hm') hk'
    · exact absurd (h _ _ (hk' ▸ hm') hm) hk
    · have hq := ht.others o ho hk
      have hq' := ht.others o' ho' hk'
      rw [← he] at hq'
      exact congrArg Prod.snd (List.inj_on_of_nodup_map hr.nodup hq hq' rfl)

lemma Served.ports_iff (hs : Served conf c₁ g.heap engine) :
    (∀ rpc ∈ g.heap, rpc.port = some (rpc.server_port.toNat + conf.MY_SERVER.toNat)) ↔
      (∀ p ∈ g.heap.map Rpc.server_port, p.toNat + conf.MY_SERVER.toNat ≤ 65535) ∧
      (conf.RPC_IMPLEMENTATION ≠ RPCLIB → ∀ p ∈ g.heap.map Rpc.server_port,
        ∀ q ∈ g.heap.map Rpc.server_port, p = q) := by
  simp only [List.forall_mem_map]
  by_cases hv : conf.RPC_IMPLEMENTATION = RPCLIB
  · simp only [hv, not_true_eq_false, false_implies, and_true, ne_eq]
    refine forall₂_congr fun rpc hm => ?_
    rw [hs.rpclib hv rpc hm, Option.some_inj, UInt16.toNat_add]
    omega
  · simp only [ne_eq, hv, not_false_eq_true, true_implies]
    obtain ⟨hn, -⟩ | ⟨rpc₀, e, h₀, -, he, ha⟩ := hs.thallium hv
    · simp [hn]
    · have hm₀ : rpc₀ ∈ g.heap := List.mem_of_mem_head? h₀
      have hp : ∀ rpc ∈ g.heap, (rpc.port = some (rpc.server_port.toNat + conf.MY_SERVER.toNat) ↔
          rpc₀.server_port = rpc.server_port ∧ rpc.server_port.toNat + conf.MY_SERVER.toNat ≤ 65535) := by
        intro rpc hm
        rw [ha rpc hm, he, serverPort, Option.filter_eq_some_iff, Option.some_inj, ← UInt16.toNat_inj]
        simp only [decide_eq_true_eq]
        omega
      constructor
      · intro h
        refine ⟨fun rpc hm => ((hp rpc hm).mp (h rpc hm)).2, fun rpc hm rpc' hm' => ?_⟩
        rw [← ((hp rpc hm).mp (h rpc hm)).1, ← ((hp rpc' hm').mp (h rpc' hm')).1]
      · rintro ⟨hb, he⟩ rpc hm
        exact (hp rpc hm).mpr ⟨he rpc₀ hm₀ rpc hm, hb rpc hm⟩

theorem one_endpoint_iff (hv : conf.IS_SERVER = true) (h : run files cmds conf = some g) :
    OneEndpoint files g ↔ Respects conf cmds := by
  have ht := run_traced h
  have hs := run_served hv h
  have hp := hs.ports_iff
  simp only [ht.created.mem_ports] at hp
  rw [OneEndpoint, ht.created.nodup_iff, ht.shared_iff, hs.my_server, hp]
  constructor
  · rintro ⟨hc, hk, ⟨hb, he⟩, -⟩
    exact ⟨hc, hk, hb, he⟩
  · intro hr
    exact ⟨hr.clock, hr.kinds, ⟨hr.bound, hr.engine⟩, fun p i g' => getRPC_port⟩

def serverConf (implementation : RPCImplementation) : ConfigurationManager :=
  { ConfigurationManager.initial implementation 0 with IS_SERVER := true }

theorem one_endpoint_containers : ∃ g, run oneServer
    [.construct 8080 .map, .getRPC 8081, .construct 8081 .global_sequence, .construct 8080 .set]
      (serverConf RPCLIB) = some g ∧ OneEndpoint oneServer g := by
  have hs : (run oneServer [.construct 8080 .map, .getRPC 8081, .construct 8081 .global_sequence,
      .construct 8080 .set] (serverConf RPCLIB)).isSome := by
    decide +kernel
  obtain ⟨g, hg⟩ := Option.isSome_iff_exists.mp hs
  refine ⟨g, hg, (one_endpoint_iff rfl hg).mpr ⟨?_, ?_, ?_, ?_⟩⟩
  · rintro p ⟨⟩
  · simp [constructed, Command.constructed?]
  · intro p hp
    have hm : p ∈ [8080, 8081, 8081, 8080] := hp
    simp only [List.mem_cons, List.not_mem_nil, or_false] at hm
    rcases hm with rfl | rfl | rfl | rfl <;> decide
  · exact fun hn => absurd rfl hn

theorem two_ports : ¬∀ (files : Files) (conf : ConfigurationManager) (cmds : List Command) (g : Globals),
    conf.IS_SERVER = true → run files cmds conf = some g →
    ∀ rpc ∈ g.heap, rpc.port = some (rpc.server_port.toNat + g.conf.MY_SERVER.toNat) := by
  intro h
  have hr : (run oneServer [.getRPC 8080, .getRPC 8081] (serverConf THALLIUM_TCP)).map
      (fun g => g.heap.map fun rpc => (rpc.server_port, rpc.port)) =
      some [(8080, some 8080), (8081, some 8080)] := by
    decide +kernel
  obtain ⟨g, hg, he⟩ := Option.map_eq_some_iff.mp hr
  have hm : (8081, some 8080) ∈ g.heap.map fun rpc => (rpc.server_port, rpc.port) := by simp [he]
  obtain ⟨rpc, hi, hq⟩ := List.mem_map.mp hm
  obtain ⟨hp, hv⟩ := Prod.mk.inj hq
  have hh := h _ _ _ _ rfl hg rpc hi
  rw [hv, hp, (run_served rfl hg).my_server] at hh
  exact absurd hh (by decide)

end Globals

end Basket.Communication
