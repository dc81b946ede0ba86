import Basket.Communication.RpcFactory
import Basket.Communication.Routing

/-! When the containers of a process route by the length of the server list they call through. -/

namespace Basket.Communication

open Common

/-- `hash % num_servers`, where the `int` becomes a `size_t`. -/
def Object.home (o : Object) (hash : UInt64) : UInt16 :=
  modThenCast o.num_servers.toInt64.toUInt64.toNat hash

/-- `(uint16_t)hash % num_servers`, computed in `int`. -/
def Object.castHome (o : Object) (hash : UInt64) : UInt16 :=
  UInt16.ofInt ((hash.toUInt16.toNat : ℤ).tmod o.num_servers.toInt)

def Command.IsContainer : Command → Prop
  | .getRPC _ => False
  | .construct _ kind => kind ≠ .global_sequence ∧ kind ≠ .global_clock

namespace Globals

def Matched (g : Globals) : Prop :=
  ∀ o ∈ g.objects, ∃ rpc, g.heap[o.rpc]? = some rpc ∧ o.num_servers.toInt = rpc.server_list.length ∧
    ∀ hash, (o.home hash).toNat < rpc.server_list.length ∧
      (o.castHome hash).toNat < rpc.server_list.length

variable {files : Files} {conf : ConfigurationManager} {L : List CharStruct} {g g' : Globals}
variable {cmds : List Command} {c : Command} {o : Object} {hash : UInt64} {i : ℕ} {RPC_PORT : UInt16}

lemma home_lt (hn : o.num_servers.toInt = L.length) (hL : L ≠ []) : (o.home hash).toNat < L.length := by
  have hp := List.length_pos_iff.mpr hL
  have hm : o.num_servers.toInt64.toUInt64.toNat = L.length := by
    have hi : o.num_servers.toInt64.toInt = L.length := by rw [Int32.toInt_toInt64, hn]
    have hz : (0 : Int64) ≤ o.num_servers.toInt64 := by
      rw [Int64.le_iff_toInt_le, hi]
      simp
    rw [Int64.toNat_toUInt64_of_le hz, Int64.toNatClampNeg, hi, Int.toNat_natCast]
  rw [Object.home, hm]
  exact modThenCast_lt hp

lemma castHome_lt (hn : o.num_servers.toInt = L.length) (hL : L ≠ []) :
    (o.castHome hash).toNat < L.length := by
  have hp := List.length_pos_iff.mpr hL
  have hm := Nat.mod_lt hash.toUInt16.toNat hp
  rw [Object.castHome, hn, ← Int.ofNat_tmod, UInt16.ofInt, UInt16.toNat_ofNat']
  omega

structure Loaded (conf : ConfigurationManager) (L : List CharStruct) (g : Globals) : Prop where
  path : g.conf.SERVER_LIST_PATH = conf.SERVER_LIST_PATH
  lists : ∀ rpc ∈ g.heap, rpc.server_list = L
  values : ∀ q ∈ g.rpcs, q.2 < g.heap.length
  rpcs : ∀ o ∈ g.objects, o.rpc < g.heap.length
  counts : g.heap = [] ∧ g.objects = [] ∧ g.conf.NUM_SERVERS = conf.NUM_SERVERS ∨
    ∃ o l, g.objects = o :: l ∧ o.num_servers = conf.NUM_SERVERS ∧
      (∀ o ∈ l, o.num_servers = Int32.ofNat L.length) ∧ g.conf.NUM_SERVERS = Int32.ofNat L.length

lemma initial_loaded : Loaded conf L (initial conf) := by
  constructor <;> simp [initial]

lemma loadServers_list {conf₁ conf₂ : ConfigurationManager}
    (hf : (files conf.SERVER_LIST_PATH).bind serverList = some L) (h : conf₁.loadServers files = some conf₂)
    (hp : conf₁.SERVER_LIST_PATH = conf.SERVER_LIST_PATH) : conf₂ = conf₁.setServers L := by
  obtain ⟨file, list, hfile, hlist, rfl⟩ := ConfigurationManager.loadServers_eq_some h
  rw [hp] at hfile
  rw [hfile, Option.bind_some, hlist] at hf
  rw [Option.some_inj.mp hf]

lemma Loaded.getRPC {server_port : UInt16} (hl : Loaded conf L g)
    (hf : (files conf.SERVER_LIST_PATH).bind serverList = some L)
    (h : getRPC files server_port (g.setPort RPC_PORT) = some (i, g')) :
    g'.conf.SERVER_LIST_PATH = conf.SERVER_LIST_PATH ∧ (∀ rpc ∈ g'.heap, rpc.server_list = L) ∧
      (∀ q ∈ g'.rpcs, q.2 < g'.heap.length) ∧ i < g'.heap.length ∧ g.heap.length ≤ g'.heap.length ∧
      g'.objects = g.objects ∧ g'.conf.NUM_SERVERS = Int32.ofNat L.length := by
  obtain ⟨hw, rfl⟩ | ⟨-, rfl, rpc, conf₁, engine, hn, rfl⟩ := getRPC_cases h
  · have hi : i < g.heap.length := hl.values _ (lookup_mem hw)
    obtain ⟨he, -⟩ | ⟨o, l, -, -, -, hv⟩ := hl.counts
    · simp [he] at hi
    · exact ⟨hl.path, hl.lists, hl.values, hi, le_rfl, rfl, hv⟩
  · obtain ⟨hc, -, hs⟩ := Rpc.new_lists hn
    have he := loadServers_list hf hc hl.path
    subst he
    have hlen : (g.heap ++ [rpc]).length = g.heap.length + 1 := by simp
    refine ⟨hl.path, ?_, ?_, ?_, ?_, rfl, rfl⟩
    · intro r hm
      obtain hm | rfl := mem_snoc.mp hm
      · exact hl.lists r hm
      · exact hs
    · intro q hm
      obtain rfl | hm := List.mem_cons.mp hm
      · exact hlen ▸ Nat.lt_succ_self _
      · exact hlen ▸ Nat.lt_succ_of_lt (hl.values q hm)
    · exact hlen ▸ Nat.lt_succ_self _
    · exact hlen ▸ Nat.le_succ _

lemma Loaded.construct {kind : Kind} (hl : Loaded conf L g)
    (hf : (files conf.SERVER_LIST_PATH).bind serverList = some L) (hk : kind ≠ .global_clock)
    (h : construct files kind (g.setPort RPC_PORT) = some g') : Loaded conf L g' := by
  obtain ⟨i, g₁, hr, rfl⟩ := construct_eq_some h
  rw [rpcFor_factory hk] at hr
  obtain ⟨hp, hs, hv, hi, hle, ho, hn⟩ := hl.getRPC hf hr
  refine ⟨hp, hs, hv, ?_, .inr ?_⟩
  · intro o hm
    rw [ho] at hm
    obtain hm | rfl := mem_snoc.mp hm
    · exact (hl.rpcs o hm).trans_le hle
    · exact hi
  · rw [ho]
    obtain ⟨-, he, hc⟩ | ⟨o, l, he, hc, hr, hc'⟩ := hl.counts
    · exact ⟨_, [], by rw [he]; rfl, hc, by simp, hn⟩
    · refine ⟨o, l ++ [⟨kind, RPC_PORT, g.conf.NUM_SERVERS, i⟩], by rw [he]; rfl, hc, ?_, hn⟩
      intro o' hm
      obtain hm | rfl := mem_snoc.mp hm
      · exact hr o' hm
      · exact hc'

lemma run_loaded (hf : (files conf.SERVER_LIST_PATH).bind serverList = some L)
    (hc : ∀ c ∈ cmds, c.IsContainer) (h : run files cmds conf = some g) :
    Loaded conf L g ∧ (g.objects = [] ↔ cmds = []) := by
  induction cmds using List.reverseRecOn generalizing g with
  | nil =>
    cases h
    exact ⟨initial_loaded, by simp [initial]⟩
  | append_singleton cmds c ih =>
    obtain ⟨g₁, hr, hs⟩ := run_concat.mp h
    have hk := hc c (by simp)
    cases c with
    | getRPC server_port => exact hk.elim
    | construct RPC_PORT kind =>
      have hl := (ih (fun c hm => hc c (by simp [hm])) hr).1
      refine ⟨hl.construct hf hk.2 hs, ?_⟩
      obtain ⟨i, g₂, -, rfl⟩ := construct_eq_some hs
      simp

lemma Loaded.modulus (hl : Loaded conf L g) (hm : g.Matched) (ho : o ∈ g.objects) :
    o.num_servers.toInt = L.length := by
  obtain ⟨rpc, hi, hn, -⟩ := hm o ho
  rw [hn, hl.lists rpc (List.mem_of_getElem? hi)]

lemma matched_iff (hf : (files conf.SERVER_LIST_PATH).bind serverList = some L) (hL : L ≠ [])
    (hc : ∀ c ∈ cmds, c.IsContainer) (h : run files cmds conf = some g) :
    g.Matched ↔ cmds = [] ∨ conf.NUM_SERVERS.toInt = L.length := by
  obtain ⟨hl, he⟩ := run_loaded hf hc h
  rw [← he]
  have hr : ∀ o ∈ g.objects, ∃ rpc, g.heap[o.rpc]? = some rpc ∧ rpc.server_list = L := by
    intro o ho
    have hi := hl.rpcs o ho
    exact ⟨g.heap[o.rpc], List.getElem?_eq_getElem hi, hl.lists _ (List.getElem_mem hi)⟩
  obtain ⟨-, hn, -⟩ | ⟨o, l, ho, hn, hs, -⟩ := hl.counts
  · simp [Matched, hn]
  · constructor
    · intro hm
      have hv := hl.modulus hm (by simp [ho] : o ∈ g.objects)
      exact .inr (hn ▸ hv)
    · rintro (hnil | hv) o' ho'
      · simp [hnil] at ho'
      · have hv' : o'.num_servers.toInt = L.length := by
          rw [ho] at ho'
          obtain rfl | hm := List.mem_cons.mp ho'
          · rw [hn, hv]
          · rw [hs o' hm]
            exact Int32.toInt_ofNat_of_lt (by have hlt := conf.NUM_SERVERS.toInt_lt; omega)
        obtain ⟨rpc, hi, rfl⟩ := hr o' ho'
        exact ⟨rpc, hi, hv', fun hash => ⟨home_lt hv' hL, castHome_lt hv' hL⟩⟩

theorem modulus_iff {files₁ files₂ : Files} {conf₁ conf₂ : ConfigurationManager}
    {cmds₁ cmds₂ : List Command} {g₁ g₂ : Globals}
    (hf₁ : (files₁ conf₁.SERVER_LIST_PATH).bind serverList = some L)
    (hf₂ : (files₂ conf₂.SERVER_LIST_PATH).bind serverList = some L) (hL : L ≠ [])
    (hc₁ : ∀ c ∈ cmds₁, c.IsContainer) (hc₂ : ∀ c ∈ cmds₂, c.IsContainer)
    (h₁ : run files₁ cmds₁ conf₁ = some g₁) (h₂ : run files₂ cmds₂ conf₂ = some g₂) :
    (g₁.Matched ∧ g₂.Matched ∧ ∀ o₁ ∈ g₁.objects, ∀ o₂ ∈ g₂.objects, ∀ hash,
      o₁.home hash = o₂.home hash ∧ o₁.castHome hash = o₂.castHome hash) ↔
    (cmds₁ = [] ∨ conf₁.NUM_SERVERS.toInt = L.length) ∧
      (cmds₂ = [] ∨ conf₂.NUM_SERVERS.toInt = L.length) := by
  rw [← matched_iff hf₁ hL hc₁ h₁, ← matched_iff hf₂ hL hc₂ h₂]
  refine ⟨fun h => ⟨h.1, h.2.1⟩, fun h => ⟨h.1, h.2, ?_⟩⟩
  intro o₁ ho₁ o₂ ho₂ hash
  have hn₁ := (run_loaded hf₁ hc₁ h₁).1.modulus h.1 ho₁
  have hn₂ := (run_loaded hf₂ hc₂ h₂).1.modulus h.2 ho₂
  have he : o₁.num_servers = o₂.num_servers := Int32.toInt_inj.mp (hn₁.trans hn₂.symm)
  rw [Object.home, Object.home, Object.castHome, Object.castHome, he]
  exact ⟨rfl, rfl⟩

def oneHost : Files := fun _ => some ['a']

def twoHosts : Files := fun _ => some ['a', '\n', 'b']

def hostList : List CharStruct := [⟨['a'], by decide, by decide⟩, ⟨['b'], by decide, by decide⟩]

def mapThenSet : List Command := [.construct 8080 .map, .construct 8080 .set]

theorem modulus_one : ∃ g₁ g₂, run oneHost mapThenSet (.initial .RPCLIB 0) = some g₁ ∧
    run oneHost mapThenSet.tail (.initial .RPCLIB 1) = some g₂ ∧ g₁.Matched ∧
    ∀ o₁ ∈ g₁.objects, ∀ o₂ ∈ g₂.objects, ∀ hash,
      o₁.home hash = o₂.home hash ∧ o₁.castHome hash = o₂.castHome hash := by
  have hs₁ : (run oneHost mapThenSet (.initial .RPCLIB 0)).isSome := by decide +kernel
  have hs₂ : (run oneHost mapThenSet.tail (.initial .RPCLIB 1)).isSome := by decide +kernel
  obtain ⟨g₁, h₁⟩ := Option.isSome_iff_exists.mp hs₁
  obtain ⟨g₂, h₂⟩ := Option.isSome_iff_exists.mp hs₂
  have hl : serverList ['a'] = some (hostList.take 1) := by decide +kernel
  have hf (path : CharStruct) : (oneHost path).bind serverList = some (hostList.take 1) := hl
  have hc : ∀ c ∈ mapThenSet, c.IsContainer := by simp [mapThenSet, Command.IsContainer]
  have hh := (modulus_iff (hf _) (hf _) (by decide) hc (fun c hm => hc c (List.mem_of_mem_tail hm)) h₁ h₂).mpr
    ⟨.inr (by decide), .inr (by decide)⟩
  exact ⟨g₁, g₂, h₁, h₂, hh.1, hh.2.2⟩

theorem first_container : ¬∀ (files : Files) (conf : ConfigurationManager) (cmds : List Command)
    (g : Globals) (L : List CharStruct), (files conf.SERVER_LIST_PATH).bind serverList = some L → L ≠ [] →
    (∀ c ∈ cmds, c.IsContainer) → run files cmds conf = some g → g.Matched := by
  intro h
  have hl : serverList ['a', '\n', 'b'] = some hostList := by decide +kernel
  have hr : (run twoHosts [.construct 8080 .map] (.initial .RPCLIB 0)).map
      (fun g => (g.objects, g.heap)) = some ([⟨.map, 8080, 1, 0⟩], [⟨8080, hostList, none, none⟩]) := by
    decide +kernel
  obtain ⟨g, hg, he⟩ := Option.map_eq_some_iff.mp hr
  obtain ⟨ho, hh⟩ := Prod.mk.inj he
  have hm := h twoHosts _ _ g hostList hl (by decide) (by simp [Command.IsContainer]) hg
  obtain ⟨rpc, hi, hn, -⟩ := hm ⟨.map, 8080, 1, 0⟩ (by simp [ho])
  rw [hh] at hi
  cases hi
  exact absurd hn (by decide)

end Globals

end Basket.Communication
