import Basket.Multimap.Model

/-! What the containment query of the distributed multimap returns for keys that contain only
themselves. -/

namespace Basket.Multimap

open Library Cluster Communication

variable {KeyType MappedType Client : Type*} [LinearOrder KeyType]
variable {Contains : KeyType → KeyType → Bool} {q : KeyType}
variable {mymap : MyMap KeyType MappedType (· < ·)}

lemma stepBack_lowerBound (hc : ∀ a b, Contains a b = true ↔ a = b) :
    stepBack Contains q (mymap.lowerBound q) = some (mymap.lowerBound q) := by
  rw [stepBack]
  cases hb : (mymap.lowerBound q).before with
  | nil => simp [Iterator.isBegin, hb]
  | cons e before =>
    have hlt : e.1 < q := (MultiTree.mem_before.mp (hb ▸ List.mem_cons_self)).2
    have hq : Contains q e.1 = false := Bool.eq_false_iff.mpr fun ht => hlt.ne' ((hc _ _).mp ht)
    obtain ⟨it, hp, hd, hn⟩ := Iterator.prev_next hb
    simp [Iterator.isBegin, hb, hp, hd, hn, hq]

lemma walk_eq (hc : ∀ a b, Contains a b = true ↔ a = b) :
    (mymap.lowerBound q).scan (fun e => !(Contains q e.1 || Contains e.1 q)) [] =
      some (mymap.entries.filter (fun e => e.1 = q)) := by
  have hp : ∀ e ∈ (mymap.lowerBound q).after,
      (!!(Contains q e.1 || Contains e.1 q)) = decide (¬q < e.1) := by
    intro e he
    have hge : ¬e.1 < q := (MultiTree.mem_after.mp he).2
    rw [Bool.not_not, Bool.eq_iff_iff]
    simp only [Bool.or_eq_true, hc, decide_eq_true_eq]
    constructor
    · rintro (rfl | rfl) <;> exact lt_irrefl _
    · exact fun hle => .inr (le_antisymm (not_lt.mp hle) (not_lt.mp hge))
  rw [Iterator.scan_eq, Iterator.takeWhile_congr hp, List.nil_append]
  refine congrArg some (mymap.sorted.takeWhile_lowerBound.trans ?_)
  simp only [SortedSequence.incomp_iff_eq]

def found (q : KeyType) (mymap : MyMap KeyType MappedType (· < ·)) : List (KeyType × MappedType) :=
  if mymap.size = 1 then mymap.entries else mymap.entries.filter (fun e => e.1 = q)

lemma localContainsInServer_eq (hc : ∀ a b, Contains a b = true ↔ a = b) :
    localContainsInServer Contains q mymap = some (found q mymap) := by
  rw [localContainsInServer, found]
  by_cases h₀ : mymap.size = 0
  · have he : mymap.entries = [] := List.length_eq_zero_iff.mp h₀
    simp [h₀, he]
  by_cases h₁ : mymap.size = 1
  · obtain ⟨e, he⟩ := List.length_eq_one_iff.mp h₁
    simp [h₁, he, MultiTree.begin, Iterator.start, Iterator.deref]
  · simp only [h₀, h₁, if_false, stepBack_lowerBound hc, Option.bind_eq_bind, Option.bind_some,
      walk_eq hc]
    split_ifs with hn
    · have hw := mymap.sorted.takeWhile_lowerBound (k := q)
      have hn : SortedSequence.lowerBound Prod.fst (· < ·) q mymap.entries = [] :=
        List.isEmpty_iff.mp hn
      rw [hn] at hw
      simpa only [SortedSequence.incomp_iff_eq, List.takeWhile_nil, Option.some.injEq] using hw
    · rfl

lemma found_single {e : KeyType × MappedType} (h : mymap.entries = [e]) : e ∈ found q mymap := by
  simp [found, MultiTree.size, h]

lemma mem_found (hs : ∀ e, mymap.entries = [e] → e.1 = q) {e : KeyType × MappedType} :
    e ∈ found q mymap ↔ e ∈ mymap.entries ∧ e.1 = q := by
  rw [found]
  split_ifs with h
  · obtain ⟨d, hd⟩ := List.length_eq_one_iff.mp h
    simp only [hd, List.mem_singleton, iff_self_and]
    rintro rfl
    exact hs e hd
  · simp

lemma found_nodup (hu : mymap.Unique) : (found q mymap).Nodup := by
  have hn : mymap.entries.Nodup := .of_map Prod.fst hu.nodup_keys
  rw [found]
  split_ifs
  · exact hn
  · exact hn.filter _

variable {D : Deployment Client} {keyHash : KeyType → UInt64} {c : Client}
variable {shard : UInt16 → MyMap KeyType MappedType (· < ·)} {r : List (KeyType × MappedType)}

def Answers (shard : UInt16 → MyMap KeyType MappedType (· < ·)) (q : KeyType)
    (r : List (KeyType × MappedType)) : Prop :=
  (∀ e : KeyType × MappedType, e.1 = q → (∃ s, e ∈ (shard s).entries) → r = [e]) ∧
    ((∀ s, ∀ e ∈ (shard s).entries, e.1 ≠ q) → r = [])

lemma contains_eq (hc : ∀ a b, Contains a b = true ↔ a = b) : contains Contains D c shard q =
    some ((askOrder D.num_servers (D.process c).my_server).flatMap fun s => found q (shard s)) :=
  askAll_eq fun _ => localContainsInServer_eq hc

lemma count_found [DecidableEq MappedType] (hh : ∀ s, ∀ e ∈ (shard s).entries, D.home keyHash e.1 = s)
    (hs : ∀ s e, (shard s).entries = [e] → e.1 = q)
    (e : KeyType × MappedType) :
    ((askOrder D.num_servers (D.process c).my_server).flatMap fun s => found q (shard s)).count e =
      calls D.num_servers (D.home keyHash q) * (found q (shard (D.home keyHash q))).count e := by
  rw [count_flatMap_home fun s hne he => ?_, count_askOrder (D.my_server_lt c)]
  obtain ⟨hm, rfl⟩ := (mem_found (hs s)).mp he
  exact hne (hh s e hm).symm

lemma single_key (hh : ∀ s, ∀ e ∈ (shard s).entries, D.home keyHash e.1 = s) (ha : Answers shard q
    ((askOrder D.num_servers (D.process c).my_server).flatMap fun s => found q (shard s)))
    {s : UInt16} {e : KeyType × MappedType} (he : (shard s).entries = [e]) : e.1 = q := by
  have hm : e ∈ (shard s).entries := he ▸ List.mem_singleton_self e
  have hr : e ∈ (askOrder D.num_servers (D.process c).my_server).flatMap fun s => found q (shard s) :=
    List.mem_flatMap.mpr ⟨s, hh s e hm ▸ D.home_mem_askOrder keyHash e.1 c, found_single he⟩
  by_contra hne
  by_cases hq : ∃ s, ∃ d ∈ (shard s).entries, d.1 = q
  · obtain ⟨t, d, hd, hk⟩ := hq
    rw [ha.1 d hk ⟨t, hd⟩, List.mem_singleton] at hr
    exact hne (hr ▸ hk)
  · rw [ha.2 fun t d hd hk => hq ⟨t, d, hd, hk⟩] at hr
    simp at hr

lemma found_home (hu : mymap.Unique) (hs : ∀ e, mymap.entries = [e] → e.1 = q)
    {e : KeyType × MappedType} (he : e ∈ mymap.entries) (hk : e.1 = q) : found q mymap = [e] := by
  refine List.perm_singleton.mp ?_
  refine (List.perm_ext_iff_of_nodup (found_nodup hu) (List.nodup_singleton e)).mpr fun d => ?_
  rw [mem_found hs, List.mem_singleton]
  constructor
  · rintro ⟨hd, hdk⟩
    exact SortedSequence.Sorted.unique hu hd he (SortedSequence.incomp_iff_eq.mpr (hdk.trans hk.symm))
  · rintro rfl
    exact ⟨he, hk⟩

lemma answers_iff (hu : ∀ s, (shard s).Unique)
    (hh : ∀ s, ∀ e ∈ (shard s).entries, D.home keyHash e.1 = s) :
    Answers shard q
        ((askOrder D.num_servers (D.process c).my_server).flatMap fun s => found q (shard s)) ↔
      (∀ s e, (shard s).entries = [e] → e.1 = q) ∧
        ((∃ s, ∃ e ∈ (shard s).entries, e.1 = q) →
          D.num_servers ≤ (D.home keyHash q).toNat + 65536) := by
  classical
  rw [← calls_eq_one_iff (D.home_lt keyHash q)]
  constructor
  · intro ha
    have hs : ∀ s e, (shard s).entries = [e] → e.1 = q := fun s e he => single_key hh ha he
    refine ⟨hs, ?_⟩
    rintro ⟨s, e, he, hk⟩
    have hc := count_found (c := c) hh hs e
    rw [ha.1 e hk ⟨s, he⟩] at hc
    obtain rfl : s = D.home keyHash q := (hh s e he).symm.trans (by rw [hk])
    rw [found_home (hu _) (hs _) he hk, List.count_singleton_self, mul_one] at hc
    exact hc.symm
  · rintro ⟨hs, hn⟩
    constructor
    · rintro e hk ⟨s, he⟩
      obtain rfl : s = D.home keyHash q := (hh s e he).symm.trans (by rw [hk])
      refine List.perm_singleton.mp (List.perm_iff_count.mpr fun d => ?_)
      rw [count_found hh hs, hn ⟨_, e, he, hk⟩, one_mul, found_home (hu _) (hs _) he hk]
    · intro hne
      refine List.flatMap_eq_nil_iff.mpr fun s _ => List.eq_nil_iff_forall_not_mem.mpr fun e he => ?_
      obtain ⟨hm, hk⟩ := (mem_found (hs s)).mp he
      exact hne s e hm hk

theorem contains_answers_iff [Inhabited MappedType] [DecidableEq Client]
    (hc : ∀ a b, Contains a b = true ↔ a = b)
    {tr : Trace Client UInt16 (Op KeyType MappedType) (Reply MappedType)}
    {st : State Client UInt16 (Op KeyType MappedType) (Reply MappedType)
      (MyMap KeyType MappedType (· < ·))}
    (h : Run (service (· < ·) D keyHash) (fun _ => .empty) tr st) (c : Client) (q : KeyType) :
    ∃ r, contains Contains D c st.shard q = some r ∧
      (Answers st.shard q r ↔
        (∀ s e, (st.shard s).entries = [e] → e.1 = q) ∧
          ((∃ s, ∃ e ∈ (st.shard s).entries, e.1 = q) →
            D.num_servers ≤ (D.home keyHash q).toNat + 65536)) :=
  ⟨_, contains_eq hc,
    answers_iff (unique (fun _ => rfl) h.atomic) (home_eq (fun _ => rfl) h.atomic)⟩

lemma mem_put_empty [Inhabited MappedType] {key : KeyType} {data : MappedType} {s t : UInt16}
    {e : KeyType × MappedType} (he : e ∈ ((service (· < ·) D keyHash).apply (.put key data) t
      (fun _ => (.empty : MyMap KeyType MappedType (· < ·))) s).entries) : e = (key, data) := by
  by_cases hs : s = t
  · rw [hs, Service.apply_same] at he
    exact List.mem_singleton.mp he
  · rw [Service.apply_other _ _ hs] at he
    exact absurd he List.not_mem_nil

/-- Server 1 has two keys and is asked for one of them. -/
theorem contains_answers_pair : ∃ r, contains (fun a b : ℕ => a == b) .pair true
    ((service (· < ·) .pair UInt64.ofNat).apply (.put 3 9) 1
      ((service (· < ·) .pair UInt64.ofNat).apply (.put 1 7) 1
        (fun _ => (.empty : MyMap ℕ ℕ (· < ·))))) 1 = some r ∧
    Answers ((service (· < ·) .pair UInt64.ofNat).apply (.put 3 9) 1
      ((service (· < ·) .pair UInt64.ofNat).apply (.put 1 7) 1
        (fun _ => (.empty : MyMap ℕ ℕ (· < ·))))) 1 r := by
  have hn : Run (service (· < ·) .pair UInt64.ofNat)
      (fun _ => (.empty : MyMap ℕ ℕ (· < ·))) [] _ := .nil
  obtain ⟨r, hr, hi⟩ := contains_answers_iff (fun a b => beq_iff_eq)
    ((hn.call true (.put 1 7) rfl).call true (.put 3 9) rfl) true 1
  refine ⟨r, hr, hi.mpr ⟨fun s e he => ?_, fun _ => by decide⟩⟩
  by_cases hs : s = 1
  · subst hs
    have he : [(1, 7), (3, 9)] = [e] := he
    cases he
  · have he : ((service (· < ·) .pair UInt64.ofNat).apply (.put 3 9) 1 ((service (· < ·) .pair
        UInt64.ofNat).apply (.put 1 7) 1 (fun _ => (.empty : MyMap ℕ ℕ (· < ·)))) s).entries = [e] := he
    rw [Service.apply_other _ _ hs, Service.apply_other _ _ hs] at he
    cases he

/-- One server that holds the key 1 returns it when it is asked for the key 2. -/
theorem contains_other_key :
    ¬∀ (D : Deployment Bool) (shard : UInt16 → MyMap ℕ ℕ (· < ·)) (c : Bool) (q : ℕ) (r : List (ℕ × ℕ)),
      Settled (service (· < ·) D UInt64.ofNat) (fun _ => .empty) shard →
      contains (fun a b => a == b) D c shard q = some r → Answers shard q r := by
  intro h
  have hs : Settled (service (· < ·) (.single : Deployment Bool) UInt64.ofNat)
      (fun _ => (.empty : MyMap ℕ ℕ (· < ·))) (fun _ => .empty) := .nil
  have ha := h .single _ true 2 _ (hs.call true (.put 1 7)) (contains_eq fun a b => beq_iff_eq)
  have hr := ha.2 fun s e he => by simp [mem_put_empty he]
  exact absurd hr (by decide)

end Basket.Multimap
