import Basket.Communication.Rpc

/-! When the address that a server opens is the one that its clients dial. -/

namespace Basket.Communication

open Common RPCImplementation

section Ports

variable {files : Files} {conf sconf sconf' : ConfigurationManager} {rpc server : Rpc}
variable {inet_ntoa : CharStruct → CharStruct} {host : CharStruct} {server_port i : UInt16}
variable {engine : Option Engine} {t t' : Target}

lemma clientPort_toUInt16 (h : server_port.toNat + i.toNat ≤ 65535) :
    (clientPort server_port i).toUInt16.toNat = server_port.toNat + i.toNat := by
  rw [clientPort, Int16.toUInt16_ofNat', UInt16.toNat_ofNat']
  exact Nat.mod_eq_of_lt (by omega)

lemma clientPort_toInt (h : server_port.toNat + i.toNat ≤ 32767) :
    (clientPort server_port i).toInt = (server_port.toNat + i.toNat : ℕ) :=
  Int16.toInt_ofNat_of_lt (by omega)

lemma clientPort_neg (hl : 32767 < server_port.toNat + i.toNat)
    (h : server_port.toNat + i.toNat ≤ 65535) : (clientPort server_port i).toInt < 0 := by
  rw [clientPort, Int16.toInt_ofNat', Int.bmod, Int16.size]
  omega

lemma portOf_concat {a b : CharStruct} (parts : List Text) {n : ℤ}
    (h : a.concat (parts ++ [[':'], decimal n]) = some b) :
    ∃ c, b.text = c ++ ':' :: decimal n := by
  have hb := CharStruct.concat_eq_some.mp h
  have hc : cStr [':'] = [':'] := rfl
  rw [List.map_append, List.flatten_append, List.map_cons, List.map_cons, cStr_decimal, hc] at hb
  exact ⟨a.text ++ (parts.map cStr).flatten, by simpa using hb⟩

lemma dial_port (hd : dial conf inet_ntoa host (clientPort server_port i) = some t)
    (h : server_port.toNat + i.toNat ≤ 65535) :
    t.port = some (server_port.toNat + i.toNat) ↔
      conf.RPC_IMPLEMENTATION = RPCLIB ∨ server_port.toNat + i.toNat ≤ 32767 := by
  by_cases hc : conf.RPC_IMPLEMENTATION = RPCLIB
  · simp only [dial, hc, Option.some_inj] at hd
    subst hd
    simp [clientPort_toUInt16 h, hc]
  · obtain ⟨l, hl, rfl⟩ : ∃ l, lookupStr conf inet_ntoa host (clientPort server_port i) = some l ∧
        ⟨host, portOf l.text⟩ = t := by
      cases hv : conf.RPC_IMPLEMENTATION with
      | RPCLIB => exact absurd hv hc
      | THALLIUM_TCP => simpa [dial, hv, Option.bind_eq_some_iff] using hd
      | THALLIUM_ROCE => simpa [dial, hv, Option.bind_eq_some_iff] using hd
    obtain ⟨c, hl⟩ := portOf_concat [_, _] hl
    simp only [hc, false_or]
    rcases Nat.lt_or_ge 32767 (server_port.toNat + i.toNat) with hlt | hle
    · simp [hl, portOf_neg (clientPort_neg hlt h), hlt]
    · rw [hl, clientPort_toInt hle, portOf_natCast]
      simp [hle]

lemma engineInitStr_port {l : CharStruct} (h : engineInitStr conf server_port = some l) :
    portOf l.text = some (server_port.toNat + conf.MY_SERVER.toNat) := by
  have hl : ∃ c, l.text = c ++ ':' :: decimal (server_port.toNat + conf.MY_SERVER.toNat) := by
    cases hv : conf.RPC_IMPLEMENTATION with
    | RPCLIB => simp [engineInitStr, hv] at h
    | THALLIUM_TCP =>
      obtain ⟨host, -, hc⟩ : ∃ host, serverHost conf = some host ∧ _ := by
        simpa [engineInitStr, hv, Option.bind_eq_some_iff] using h
      exact portOf_concat [_, _] hc
    | THALLIUM_ROCE =>
      obtain ⟨host, -, hc⟩ : ∃ host, serverHost conf = some host ∧ _ := by
        simpa [engineInitStr, hv, Option.bind_eq_some_iff] using h
      exact portOf_concat [_, _, _, _] hc
  obtain ⟨c, hl⟩ := hl
  rw [hl, ← Nat.cast_add, portOf_natCast]

lemma Engine.port_of_server {address : Text} {threads : UInt16} {n : ℕ} (h : portOf address = some n)
    (hn : n ≤ 65535) : Engine.port ⟨address, .server, threads⟩ = some n := by
  have hn : n < 65536 := by omega
  simp [Engine.port, h, hn]

lemma Rpc.new_port (hs : conf.IS_SERVER = true)
    (h : conf.RPC_PORT.toNat + conf.MY_SERVER.toNat ≤ 65535)
    (hn : Rpc.new files conf none = some (server, sconf', engine)) :
    server.port = some (conf.RPC_PORT.toNat + conf.MY_SERVER.toNat) := by
  by_cases hc : conf.RPC_IMPLEMENTATION = RPCLIB
  · rw [Rpc.new_rpclib hc hs hn, UInt16.toNat_add, Nat.mod_eq_of_lt (by omega)]
  · obtain ⟨l, hl, he, hp⟩ := Rpc.new_thallium hc hs hn
    obtain ⟨file, list, -, -, rfl⟩ := ConfigurationManager.loadServers_eq_some (Rpc.new_lists hn).1
    have hq := engineInitStr_port hl
    rw [hp, he]
    exact Engine.port_of_server hq h

theorem port_agrees_iff (hs : sconf.IS_SERVER = true)
    (hc : conf.RPC_IMPLEMENTATION = sconf.RPC_IMPLEMENTATION) (hp : rpc.server_port = sconf.RPC_PORT)
    (hb : sconf.RPC_PORT.toNat + sconf.MY_SERVER.toNat ≤ 65535)
    (hn : Rpc.new files sconf none = some (server, sconf', engine))
    (ht : call conf rpc inet_ntoa sconf.MY_SERVER = some t)
    (ht' : callWithTimeout conf rpc inet_ntoa sconf.MY_SERVER = some t') :
    (server.port = some (sconf.RPC_PORT.toNat + sconf.MY_SERVER.toNat) ∧
      t.port = some (sconf.RPC_PORT.toNat + sconf.MY_SERVER.toNat) ∧
      t'.port = some (sconf.RPC_PORT.toNat + sconf.MY_SERVER.toNat) ∧
      ∀ t'', asyncCall conf rpc inet_ntoa sconf.MY_SERVER = some t'' →
        t''.port = some (sconf.RPC_PORT.toNat + sconf.MY_SERVER.toNat)) ↔
    sconf.RPC_IMPLEMENTATION = RPCLIB ∨ sconf.RPC_PORT.toNat + sconf.MY_SERVER.toNat ≤ 32767 := by
  obtain ⟨host, -, hd⟩ := Option.bind_eq_some_iff.mp ht
  obtain ⟨host', -, hd'⟩ := Option.bind_eq_some_iff.mp ht'
  rw [hp] at hd hd'
  have hi := dial_port hd hb
  have hi' := dial_port hd' hb
  have ha : ∀ t'', asyncCall conf rpc inet_ntoa sconf.MY_SERVER = some t'' → t'' = t := by
    intro t'' h
    rw [asyncCall] at h
    split at h
    · exact Option.some_inj.mp (h.symm.trans ht)
    · cases h
  rw [← hc, hi, hi']
  refine ⟨fun h => h.2.1, fun h => ⟨Rpc.new_port hs hb hn, h, h, fun t'' hh => ?_⟩⟩
  rw [ha t'' hh]
  exact hi.mpr h

def ares01 : CharStruct := ⟨"ares-01".toList, by decide, by decide⟩

def localhost : CharStruct := ⟨"127.0.0.1".toList, by decide, by decide⟩

def oneServer : Files := fun _ => some ares01.text

def serverAt (implementation : RPCImplementation) (RPC_PORT : UInt16) : ConfigurationManager :=
  { ConfigurationManager.initial implementation 0 with RPC_PORT := RPC_PORT, IS_SERVER := true }

def clientAt (implementation : RPCImplementation) : ConfigurationManager :=
  { ConfigurationManager.initial implementation 0 with SERVER_LIST := [ares01] }

def rpcAt (server_port : UInt16) : Rpc := ⟨server_port, [ares01], none, none⟩

theorem port_agrees_default : ∃ server sconf' engine t,
    Rpc.new oneServer (serverAt THALLIUM_TCP 8080) none = some (server, sconf', engine) ∧
    call (clientAt THALLIUM_TCP) (rpcAt 8080) (fun _ => localhost) 0 = some t ∧
    server.port = some 8080 ∧ t.port = some 8080 := by
  have hs : (Rpc.new oneServer (serverAt THALLIUM_TCP 8080) none).isSome := by decide +kernel
  have hc : (call (clientAt THALLIUM_TCP) (rpcAt 8080) (fun _ => localhost) 0).isSome := by decide +kernel
  obtain ⟨⟨server, sconf', engine⟩, hn⟩ := Option.isSome_iff_exists.mp hs
  obtain ⟨t, ht⟩ := Option.isSome_iff_exists.mp hc
  have hw : callWithTimeout (clientAt THALLIUM_TCP) (rpcAt 8080) (fun _ => localhost) 0 = some t := ht
  have hv : (clientAt THALLIUM_TCP).RPC_IMPLEMENTATION = (serverAt THALLIUM_TCP 8080).RPC_IMPLEMENTATION :=
    rfl
  have hh := (port_agrees_iff rfl hv rfl (by decide) hn ht hw).mpr (.inr (by decide))
  exact ⟨server, sconf', engine, t, hn, ht, hh.1, hh.2.1⟩

theorem negative_port : ¬∀ (files : Files) (conf sconf sconf' : ConfigurationManager) (rpc server : Rpc)
    (inet_ntoa : CharStruct → CharStruct) (engine : Option Engine) (t : Target), sconf.IS_SERVER = true →
    conf.RPC_IMPLEMENTATION = sconf.RPC_IMPLEMENTATION → rpc.server_port = sconf.RPC_PORT →
    sconf.RPC_PORT.toNat + sconf.MY_SERVER.toNat ≤ 65535 →
    Rpc.new files sconf none = some (server, sconf', engine) →
    call conf rpc inet_ntoa sconf.MY_SERVER = some t → t.port = server.port := by
  intro h
  have hs : (Rpc.new oneServer (serverAt THALLIUM_TCP 40000) none).isSome := by decide +kernel
  obtain ⟨⟨server, sconf', engine⟩, hn⟩ := Option.isSome_iff_exists.mp hs
  have hc : call (clientAt THALLIUM_TCP) (rpcAt 40000) (fun _ => localhost) 0 = some ⟨ares01, none⟩ := by
    decide +kernel
  have hp := Rpc.new_port rfl (by decide) hn
  have hh := h _ _ _ _ _ _ _ _ _ rfl rfl rfl (by decide) hn hc
  rw [hp] at hh
  cases hh

end Ports

section Hosts

variable {sconf : ConfigurationManager} {rpc : Rpc} {L : List CharStruct} {m : UInt16}

def SameHost (sconf : ConfigurationManager) (rpc : Rpc) (m : UInt16) : Prop :=
  ∃ host, serverHost sconf = some host ∧ clientHost rpc m = some host

lemma sameHost_iff (hs : sconf.SERVER_LIST = L) (hr : rpc.server_list = L) (hm : m.toNat < L.length) :
    SameHost sconf rpc m ↔ sconf.MPI_RANK < L.length ∧ L[sconf.MPI_RANK]? = L[m.toNat]? := by
  rw [SameHost, serverHost, clientHost, hs, hr, List.getElem?_eq_getElem hm]
  constructor
  · rintro ⟨host, hi, he⟩
    exact ⟨(List.getElem?_eq_some_iff.mp hi).1, hi.trans he.symm⟩
  · rintro ⟨-, he⟩
    exact ⟨_, he, rfl⟩

lemma strictMono_eq {n : ℕ} {rank : ℕ → ℕ} (hr : ∀ j k, j < k → k < n → rank j < rank k)
    (hb : ∀ j < n, rank j < n) : ∀ j < n, rank j = j := by
  have hle : ∀ j, j < n → j ≤ rank j := by
    intro j
    induction j with
    | zero => simp
    | succ j ih =>
      intro hj
      have hh := ih (by omega)
      have hlt := hr j (j + 1) (by omega) hj
      omega
  have hge : ∀ k j, j + k + 1 = n → rank j ≤ j := by
    intro k
    induction k with
    | zero =>
      intro j hj
      have hh := hb j (by omega)
      omega
    | succ k ih =>
      intro j hj
      have hh := ih (j + 1) (by omega)
      have hlt := hr j (j + 1) (by omega) (by omega)
      omega
  intro j hj
  exact le_antisymm (hge (n - j - 1) j (by omega)) (hle j hj)

lemma configureDefault_eq_some {files : Files} {path : Text} {conf sconf : ConfigurationManager}
    (h : ConfigurationManager.configureDefaultServer files path conf = some sconf)
    (hl : sconf.SERVER_LIST.length ≤ 65536) :
    sconf.MPI_RANK = conf.MPI_RANK ∧ 0 < sconf.SERVER_LIST.length ∧
      sconf.MY_SERVER.toNat = conf.MPI_RANK % sconf.SERVER_LIST.length := by
  simp only [ConfigurationManager.configureDefaultServer, ConfigurationManager.configureDefault,
    Option.bind_eq_bind, Option.bind_eq_some_iff, Option.pure_def, Option.some_inj] at h
  obtain ⟨conf₁, ⟨p, -, conf₂, hc, hd⟩, rfl⟩ := h
  obtain ⟨file, list, -, -, rfl⟩ := ConfigurationManager.loadServers_eq_some hc
  split_ifs at hd with hz
  cases hd
  simp only [ConfigurationManager.setServers] at hz hl ⊢
  have hn : (Int32.ofNat list.length).toInt = list.length := Int32.toInt_ofNat_of_lt (by omega)
  have hpos : 0 < list.length := by
    rw [List.length_pos_iff]
    rintro rfl
    exact hz rfl
  refine ⟨trivial, hpos, ?_⟩
  have hm := Nat.mod_lt conf.MPI_RANK hpos
  rw [hn, ← Int.ofNat_tmod, UInt16.ofInt, UInt16.toNat_ofNat']
  omega

theorem host_agrees_iff (L : List CharStruct) :
    (∀ (sconf : ConfigurationManager) (rpc : Rpc) (m : UInt16), sconf.SERVER_LIST = L →
      rpc.server_list = L → m.toNat < L.length →
      (SameHost sconf rpc m ↔ sconf.MPI_RANK < L.length ∧ L[sconf.MPI_RANK]? = L[m.toNat]?)) ∧
    (∀ (files : Files) (path : Text) (conf sconf : ConfigurationManager) (rpc : Rpc),
      conf.configureDefaultServer files path = some sconf → sconf.SERVER_LIST = L →
      rpc.server_list = L → L.length ≤ 65536 →
      (SameHost sconf rpc sconf.MY_SERVER ↔ conf.MPI_RANK < L.length)) ∧
    ∀ (server : ℕ → ConfigurationManager) (rpc : Rpc), L.length ≤ 65536 →
      (∀ j < L.length, (server j).SERVER_LIST = L) → rpc.server_list = L →
      (∀ j k, j < k → k < L.length → (server j).MPI_RANK < (server k).MPI_RANK) →
      ((∀ j < L.length, SameHost (server j) rpc (UInt16.ofNat j)) ↔
        ∀ j < L.length, (server j).MPI_RANK = j) := by
  refine ⟨fun sconf rpc m => sameHost_iff, ?_, ?_⟩
  · intro files path conf sconf rpc hc hs hr hl
    obtain ⟨he, hpos, hm⟩ := configureDefault_eq_some hc (hs ▸ hl)
    rw [hs] at hpos hm
    rw [sameHost_iff hs hr (hm ▸ Nat.mod_lt _ hpos), he, hm]
    refine ⟨And.left, fun hlt => ⟨hlt, ?_⟩⟩
    rw [Nat.mod_eq_of_lt hlt]
  · intro server rpc hl hs hr hi
    have hj : ∀ j < L.length, (UInt16.ofNat j).toNat = j := by
      intro j hj
      rw [UInt16.toNat_ofNat']
      exact Nat.mod_eq_of_lt (by omega)
    have hh : ∀ j < L.length, (SameHost (server j) rpc (UInt16.ofNat j) ↔
        (server j).MPI_RANK < L.length ∧ L[(server j).MPI_RANK]? = L[j]?) := by
      intro j hlt
      rw [sameHost_iff (hs j hlt) hr (by rw [hj j hlt]; exact hlt), hj j hlt]
    constructor
    · intro ha
      exact strictMono_eq hi fun j hlt => ((hh j hlt).mp (ha j hlt)).1
    · intro ha j hlt
      rw [hh j hlt, ha j hlt]
      exact ⟨hlt, rfl⟩

def twoServers : Files := fun _ => some "ares-01\nares-02".toList

theorem host_differs : ¬∀ (files : Files) (path : Text) (conf sconf : ConfigurationManager) (rpc : Rpc),
    conf.configureDefaultServer files path = some sconf → rpc.server_list = sconf.SERVER_LIST →
    SameHost sconf rpc sconf.MY_SERVER := by
  intro h
  have hs : ((ConfigurationManager.initial THALLIUM_TCP 2).configureDefaultServer twoServers []).map
      serverHost = some none := by
    decide +kernel
  obtain ⟨sconf, hc, hn⟩ := Option.map_eq_some_iff.mp hs
  obtain ⟨host, hv, -⟩ := h _ _ _ _ ⟨8080, sconf.SERVER_LIST, none, none⟩ hc rfl
  rw [hn] at hv
  cases hv

end Hosts

end Basket.Communication
