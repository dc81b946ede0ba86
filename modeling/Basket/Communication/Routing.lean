import Basket.Library.Gather
import Mathlib.Data.Int.CardIntervalMod
import Mathlib.Data.List.Range
import Mathlib.Data.List.Perm.Basic
import Mathlib.Tactic.NormNum

/-! Which server a call of the containers reaches. -/

namespace Basket.Communication

open Library Cluster

structure Process where
  my_server : UInt16
  server_on_node : Bool
  deriving DecidableEq, Repr

namespace Process

/-- The test `key_int == my_server && server_on_node` of every operation addressed to one server. -/
def callServer (m : Process) (key_int : UInt16) : Dispatch UInt16 :=
  if key_int == m.my_server && m.server_on_node then .here else .rpc key_int

/-- The test `server_on_node` of the operations on the caller's own server. -/
def callOwn (m : Process) : Dispatch UInt16 :=
  if m.server_on_node then .here else .rpc m.my_server

/-- The loop of a query over all servers: its own server by `callOwn`, every other by a message. -/
def askServer (m : Process) (i : UInt16) : Dispatch UInt16 :=
  if i == m.my_server then m.callOwn else .rpc i

def target (m : Process) : Dispatch UInt16 → UInt16
  | .here => m.my_server
  | .rpc s => s

@[simp] lemma target_callServer (m : Process) (key_int : UInt16) :
    m.target (m.callServer key_int) = key_int := by
  rw [callServer]
  split_ifs with h
  · simp only [Bool.and_eq_true, beq_iff_eq] at h
    exact h.1.symm
  · rfl

@[simp] lemma target_callOwn (m : Process) : m.target m.callOwn = m.my_server := by
  rw [callOwn]
  split_ifs <;> rfl

@[simp] lemma target_askServer (m : Process) (i : UInt16) : m.target (m.askServer i) = i := by
  rw [askServer]
  split_ifs with h
  · rw [target_callOwn]
    exact (beq_iff_eq.mp h).symm
  · rfl

end Process

/-- `(uint16_t)(hash % num_servers)` -/
def modThenCast (num_servers : ℕ) (hash : UInt64) : UInt16 :=
  UInt16.ofNat (hash.toNat % num_servers)

/-- `(uint16_t)hash % num_servers`, where the cast binds tighter than `%` -/
def castThenMod (num_servers : ℕ) (hash : UInt64) : UInt16 :=
  UInt16.ofNat (hash.toUInt16.toNat % num_servers)

def askNext {α : Type*} (my_server : ℕ) (ask : UInt16 → Option (List α)) (final_values : List α)
    (i : ℕ) : Option (List α) :=
  if i = my_server then some final_values
  else do
    let server ← ask (UInt16.ofNat i)
    return final_values ++ server

/-- The loop over all servers of a query, its own server first. The index `i` becomes the
`uint16_t server_index` of the call. -/
def askAll {α : Type*} (num_servers : ℕ) (m : Process) (ask : UInt16 → Option (List α)) :
    Option (List α) := do
  let current_server ← ask (m.target m.callOwn)
  (List.range num_servers).foldlM (askNext m.my_server.toNat ask) current_server

def otherServers (num_servers : ℕ) (my_server : UInt16) : List UInt16 :=
  ((List.range num_servers).filter (fun i => i ≠ my_server.toNat)).map UInt16.ofNat

def askOrder (num_servers : ℕ) (my_server : UInt16) : List UInt16 :=
  my_server :: otherServers num_servers my_server

def calls (num_servers : ℕ) (s : UInt16) : ℕ :=
  ((List.range num_servers).map UInt16.ofNat).count s

section Indices

variable {num_servers : ℕ} {hash : UInt64}

lemma modThenCast_toNat (hn : 1 ≤ num_servers) (hmax : num_servers ≤ 65536) :
    (modThenCast num_servers hash).toNat = hash.toNat % num_servers := by
  have hlt := Nat.mod_lt hash.toNat hn
  simp only [modThenCast, UInt16.toNat_ofNat']
  exact Nat.mod_eq_of_lt (by omega)

lemma castThenMod_toNat :
    (castThenMod num_servers hash).toNat = hash.toNat % 65536 % num_servers := by
  have hlt := Nat.mod_lt hash.toNat (by norm_num : 0 < 65536)
  have hle := Nat.mod_le (hash.toNat % 65536) num_servers
  simp only [castThenMod, UInt16.toNat_ofNat', UInt64.toNat_toUInt16]
  norm_num
  omega

lemma modThenCast_lt (hn : 1 ≤ num_servers) : (modThenCast num_servers hash).toNat < num_servers := by
  have hlt := Nat.mod_lt hash.toNat hn
  have hle := Nat.mod_le (hash.toNat % num_servers) 65536
  simp only [modThenCast, UInt16.toNat_ofNat']
  norm_num
  omega

lemma castThenMod_lt (hn : 1 ≤ num_servers) : (castThenMod num_servers hash).toNat < num_servers := by
  rw [castThenMod_toNat]
  exact Nat.mod_lt _ hn

end Indices

section Loops

variable {num_servers : ℕ} {α : Type*}

lemma foldlM_askNext {ask : UInt16 → Option (List α)} {f : UInt16 → List α}
    (hf : ∀ s, ask s = some (f s)) (my : ℕ) (l : List ℕ) (final_values : List α) :
    l.foldlM (askNext my ask) final_values =
      some (final_values ++ ((l.filter (fun i => i ≠ my)).map UInt16.ofNat).flatMap f) := by
  induction l generalizing final_values with
  | nil => simp
  | cons i l ih =>
    by_cases hi : i = my
    · have hn : askNext my ask final_values i = some final_values := if_pos hi
      rw [List.foldlM_cons, hn, Option.bind_eq_bind, Option.bind_some, ih]
      simp [hi]
    · have hn : askNext my ask final_values i = some (final_values ++ f (UInt16.ofNat i)) := by
        simp [askNext, hi, hf]
      rw [List.foldlM_cons, hn, Option.bind_eq_bind, Option.bind_some, ih]
      simp [hi]

lemma askAll_eq {m : Process} {ask : UInt16 → Option (List α)} {f : UInt16 → List α}
    (hf : ∀ s, ask s = some (f s)) :
    askAll num_servers m ask = some ((askOrder num_servers m.my_server).flatMap f) := by
  simp only [askAll, hf, Process.target_callOwn, Option.bind_eq_bind, Option.bind_some]
  exact foldlM_askNext hf _ _ _

lemma askOrder_perm {my_server : UInt16} (hm : my_server.toNat < num_servers) :
    (askOrder num_servers my_server).Perm ((List.range num_servers).map UInt16.ofNat) := by
  have hp := List.perm_cons_erase (List.mem_range.mpr hm)
  rw [List.nodup_range.erase_eq_filter] at hp
  have hh := (hp.map UInt16.ofNat).symm
  rw [List.map_cons, UInt16.ofNat_toNat] at hh
  have hf : (fun i : ℕ => decide (i ≠ my_server.toNat)) = (fun i => i != my_server.toNat) := by
    funext i
    simp [bne, Bool.beq_eq_decide_eq]
  simpa only [askOrder, otherServers, hf] using hh

lemma mem_askOrder {my_server s : UInt16} (hm : my_server.toNat < num_servers)
    (hs : s.toNat < num_servers) : s ∈ askOrder num_servers my_server := by
  rw [(askOrder_perm hm).mem_iff, List.mem_map]
  exact ⟨s.toNat, List.mem_range.mpr hs, UInt16.ofNat_toNat⟩

lemma askOrder_nodup {my_server : UInt16} (hmax : num_servers ≤ 65536)
    (hm : my_server.toNat < num_servers) : (askOrder num_servers my_server).Nodup := by
  rw [(askOrder_perm hm).nodup_iff]
  refine List.nodup_range.map_on fun i hi j hj he => ?_
  have hh := congrArg UInt16.toNat he
  rw [List.mem_range] at hi hj
  rwa [UInt16.toNat_ofNat', UInt16.toNat_ofNat', Nat.mod_eq_of_lt (by omega : i < 2 ^ 16),
    Nat.mod_eq_of_lt (by omega : j < 2 ^ 16)] at hh

lemma count_askOrder {my_server s : UInt16} (hm : my_server.toNat < num_servers) :
    (askOrder num_servers my_server).count s = calls num_servers s :=
  (askOrder_perm hm).count_eq s

lemma calls_eq_count (num_servers : ℕ) (s : UInt16) :
    calls num_servers s = num_servers.count (fun i => i ≡ s.toNat [MOD 65536]) := by
  induction num_servers with
  | zero => simp [calls]
  | succ n ih =>
    have hs : UInt16.ofNat n = s ↔ n ≡ s.toNat [MOD 65536] := by
      rw [← UInt16.toNat_inj, Nat.ModEq, UInt16.toNat_ofNat', Nat.mod_eq_of_lt s.toNat_lt]
    rw [Nat.count_succ, ← ih, calls, List.range_succ, List.map_append, List.count_append]
    simp [calls, List.count_singleton, hs]

lemma calls_eq (num_servers : ℕ) (s : UInt16) :
    calls num_servers s = num_servers / 65536 + if s.toNat < num_servers % 65536 then 1 else 0 := by
  rw [calls_eq_count, Nat.count_modEq_card _ (by norm_num), Nat.mod_eq_of_lt s.toNat_lt]

lemma calls_pos {s : UInt16} (hs : s.toNat < num_servers) : 0 < calls num_servers s := by
  rw [calls_eq]
  split_ifs <;> omega

lemma calls_eq_one_iff {s : UInt16} (hs : s.toNat < num_servers) :
    calls num_servers s = 1 ↔ num_servers ≤ s.toNat + 65536 := by
  have hlt := s.toNat_lt
  rw [calls_eq]
  split_ifs <;> omega

end Loops

end Basket.Communication
