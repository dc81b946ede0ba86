import Basket.Communication.ServerRing

/-! The start of a program: every process configures itself by the same server list file. -/

namespace Basket.Communication

open Common ConfigurationManager

structure Startup (Client : Type*) where
  files : Files
  server_list_path : Text
  path : CharStruct
  file : Text
  conf : Client → ConfigurationManager
  is_server : Client → Bool
  listed : ∀ c, serverListPath server_list_path (conf c) = some path
  opened : files path = some file
  populated : Populated file

namespace Startup

variable {Client : Type*} (U : Startup Client)

def configure (c : Client) : Option ConfigurationManager :=
  if U.is_server c then (U.conf c).configureDefaultServer U.files U.server_list_path
  else (U.conf c).configureDefaultClient U.files U.server_list_path

def num_servers : ℕ := total U.file % 2 ^ 32

def my_server (c : Client) : UInt16 := UInt16.ofNat ((U.conf c).MPI_RANK % U.num_servers)

variable {U} {c d : Client}

lemma my_server_toNat : (U.my_server c).toNat = (U.conf c).MPI_RANK % U.num_servers % 2 ^ 16 :=
  UInt16.toNat_ofNat'

lemma configure_eq : U.configure c = configured U.files U.server_list_path (U.conf c) (U.is_server c) := by
  rw [configure]
  cases U.is_server c <;> exact Option.map_eq_bind.symm

lemma toInt_total : (Int32.ofNat (total U.file)).toInt = U.num_servers := by
  have hs : Int32.size = 2 ^ 32 := rfl
  have hl := U.populated.lt
  rw [Int32.toInt_ofNat', Int.bmod_def, hs, num_servers]
  split_ifs <;> omega

lemma configure_eq_some : ∃ list, list.length = total U.file ∧
    U.configure c = some (withServers U.path list (U.is_server c) (U.conf c)) := by
  obtain ⟨list, hl, hn⟩ := serverList_readable U.populated.readable
  have hz : Int32.ofNat list.length ≠ 0 := by
    intro he
    have hp := num_servers_pos_iff.mpr ⟨U.populated.pos, U.populated.lt⟩
    rw [hn.symm, he] at hp
    exact absurd hp (by decide)
  refine ⟨list, hn, ?_⟩
  rw [configure_eq]
  exact (configured_eq_some (U.listed c) U.opened).mpr ⟨list, hl, hz, rfl⟩

lemma withServers_my_server {list : List CharStruct} {flag : Bool} (h : list.length = total U.file) :
    (withServers U.path list flag (U.conf c)).MY_SERVER = U.my_server c := by
  change UInt16.ofInt (((U.conf c).MPI_RANK : ℤ).tmod (Int32.ofNat list.length).toInt) = _
  rw [h, toInt_total, ← Int.ofNat_tmod, ← UInt16.toNat_inj, my_server_toNat, UInt16.ofInt,
    UInt16.toNat_ofNat']
  omega

structure Ranked (U : Startup Client) (m : ℕ) : Prop where
  lt : ∀ c, U.is_server c = true → (U.conf c).MPI_RANK < m
  exists_rank : ∀ i < m, ∃ c, U.is_server c = true ∧ (U.conf c).MPI_RANK = i
  unique : ∀ c d, U.is_server c = true → U.is_server d = true →
    (U.conf c).MPI_RANK = (U.conf d).MPI_RANK → c = d

variable {m : ℕ} {s : UInt16}

def Serves (U : Startup Client) (s : UInt16) (c : Client) : Prop :=
  ∃ conf, U.configure c = some conf ∧ conf.IS_SERVER = true ∧ conf.MY_SERVER = s

lemma serves_iff : Serves U s c ↔
    U.is_server c = true ∧ (U.conf c).MPI_RANK % U.num_servers % 2 ^ 16 = s.toNat := by
  obtain ⟨list, hn, hc⟩ := @configure_eq_some _ U c
  rw [← my_server_toNat, UInt16.toNat_inj, ← withServers_my_server hn, Serves, hc]
  constructor
  · rintro ⟨conf, he, hs⟩
    obtain rfl := Option.some.inj he
    exact hs
  · exact fun hs => ⟨_, rfl, hs⟩

lemma serves_iff_rank (hr : Ranked U m) (hm : m ≤ min U.num_servers (2 ^ 16)) :
    Serves U s c ↔ U.is_server c = true ∧ (U.conf c).MPI_RANK = s.toNat := by
  rw [serves_iff]
  apply and_congr_right
  intro hc
  have hl := hr.lt c hc
  have hn : (U.conf c).MPI_RANK < U.num_servers := by omega
  have hb : (U.conf c).MPI_RANK < 2 ^ 16 := by omega
  rw [Nat.mod_eq_of_lt hn, Nat.mod_eq_of_lt hb]

lemma min_mod {n : ℕ} : min n (2 ^ 16) % n % 2 ^ 16 = 0 := by
  rcases le_or_gt n (2 ^ 16) with hn | hn
  · rw [min_eq_left hn, Nat.mod_self, Nat.zero_mod]
  · rw [min_eq_right hn.le, Nat.mod_eq_of_lt hn, Nat.mod_self]

lemma existsUnique_serves (hr : Ranked U m) (he : m = min U.num_servers (2 ^ 16))
    (hs : s.toNat < U.num_servers) : ∃! c, Serves U s c := by
  have hb := s.toNat_lt
  obtain ⟨c, hc, hi⟩ := hr.exists_rank s.toNat (by omega)
  refine ⟨c, (serves_iff_rank hr he.le).mpr ⟨hc, hi⟩, fun d hd => ?_⟩
  obtain ⟨hd, hj⟩ := (serves_iff_rank hr he.le).mp hd
  exact hr.unique d c hd hc (hj.trans hi.symm)

theorem one_server_each_iff (hr : Ranked U m) :
    (∀ s : UInt16, s.toNat < U.num_servers → ∃! c, Serves U s c) ↔
      m = min U.num_servers (2 ^ 16) := by
  have hpos : 0 < U.num_servers := U.populated.pos
  constructor
  · intro h
    apply le_antisymm
    · by_contra hlt
      obtain ⟨c, hc, hi⟩ := hr.exists_rank (min U.num_servers (2 ^ 16)) (by omega)
      obtain ⟨d, hd, hj⟩ := hr.exists_rank 0 (by omega)
      have hsc : Serves U 0 c := serves_iff.mpr ⟨hc, by rw [hi, min_mod]; rfl⟩
      have hsd : Serves U 0 d := serves_iff.mpr ⟨hd, by rw [hj, Nat.zero_mod]; rfl⟩
      obtain rfl := (h 0 hpos).unique hsc hsd
      omega
    · by_contra hlt
      obtain ⟨hl, hb⟩ := lt_min_iff.mp (not_le.mp hlt)
      have hs : (UInt16.ofNat m).toNat = m := UInt16.toNat_ofNat_of_lt' hb
      obtain ⟨c, hc, -⟩ := h (UInt16.ofNat m) (by rwa [hs])
      obtain ⟨hc, hi⟩ := (serves_iff_rank hr (by omega)).mp hc
      exact absurd (hr.lt c hc) (by omega)
  · exact fun he s hs => existsUnique_serves hr he hs

def serversAndClient : Startup (Fin 3) where
  files := serversAB
  server_list_path := []
  path := (initial .RPCLIB 0).SERVER_LIST_PATH
  file := ['a', ':', '1', '\n', 'b', ':', '1']
  conf c := initial .RPCLIB c
  is_server c := c < 2
  listed _ := rfl
  opened := rfl
  populated := populated_AB

theorem one_server_each_pair : ∃! c, Serves serversAndClient 1 c := by
  have hn : serversAndClient.num_servers = 2 := by decide +kernel
  have hr : Ranked serversAndClient 2 := by
    refine ⟨by decide, fun i hi => ⟨⟨i, by omega⟩, ?_, rfl⟩, by decide⟩
    exact decide_eq_true (Fin.mk_lt_mk.mpr hi)
  exact (one_server_each_iff hr).mpr (by rw [hn]; rfl) 1 (by rw [hn]; decide)

end Startup

end Basket.Communication
