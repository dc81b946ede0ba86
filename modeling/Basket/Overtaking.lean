import Basket.Queue.Fifo
import Basket.Retention

/-! Values that leave a container in its own order, from a queue, a priority queue or the front of a set: the
callers of any program see none of them passed over. -/

namespace Basket.Overtaking

open Library Cluster CriticalSection Objects Library.Retention Basket.System Guarantees Retention
open Communication hiding calls

variable {Client Obj : Type} {D : Deployment Client}
variable {others : Obj → Container} {threads : ℕ}

lemma taken_of_balance {m n : ℕ} {taken given : Bool} (h : m + taken.toNat = n + given.toNat) (hm : m = 0)
    (hn : 0 < n) : taken = true := by
  cases taken with
  | true => rfl
  | false =>
    rw [Bool.toNat_false] at h
    omega

section Queue

variable {MappedType : Type} {v u : MappedType} {s : UInt16}

def queueShows (s : UInt16) : Queue.Op MappedType → Queue.Reply MappedType → Prop
  | .push _ _, _ => True
  | .pop key_int, r => key_int = s → ∃ value, r = .pop (true, value)
  | .size key_int, r => key_int = s → ∃ value, r = .size value ∧ 0 < value

lemma queue_server {o : Queue.Op MappedType} {r : Queue.Reply MappedType} (h : ¬queueShows s o r) :
    o.key_int = s := by
  by_contra hn
  refine h ?_
  cases o with
  | push data key_int => trivial
  | pop key_int => exact fun hs => absurd hs hn
  | size key_int => exact fun hs => absurd hs hn

variable {my_queue : List MappedType} {tr : Trace Client UInt16 (Queue.Op MappedType) _}
variable {shard : UInt16 → List MappedType}

def Ahead (v u : MappedType) (my_queue : List MappedType) : Prop :=
  ∃ front back, my_queue = front ++ v :: back ∧ u ∉ front

lemma Ahead.push (h : u ∉ my_queue) : Ahead v u (my_queue ++ [v]) := ⟨my_queue, [], rfl, h⟩

variable [Inhabited MappedType]

lemma queue_asks (hv : v ∈ my_queue) (o : Queue.Op MappedType) :
    queueShows s o (Queue.handle o my_queue).1 := by
  have hn : my_queue ≠ [] := List.ne_nil_of_mem hv
  cases o with
  | push data key_int => trivial
  | pop key_int =>
    have hf : (Queue.localPop my_queue).1.1 = true :=
      Bool.of_not_eq_false fun he => hn (Queue.localPop_fails.mp he)
    exact fun _ => ⟨_, congrArg Queue.Reply.pop (Prod.ext hf rfl)⟩
  | size key_int => exact fun _ => ⟨_, rfl, List.length_pos_of_ne_nil hn⟩

lemma mem_of_localPop (h : (Queue.localPop my_queue).1 = (true, u)) : u ∈ my_queue := by
  cases my_queue with
  | nil => simp [Queue.localPop_nil] at h
  | cons w l =>
    rw [Queue.localPop_cons] at h
    cases h
    exact List.mem_cons_self

lemma Ahead.pop_ne (h : Ahead v u my_queue) (hn : v ≠ u) : (Queue.localPop my_queue).1 ≠ (true, u) := by
  obtain ⟨front, back, rfl, hu⟩ := h
  cases front with
  | nil => simpa [Queue.localPop_cons] using hn
  | cons w front =>
    rw [List.cons_append, Queue.localPop_cons]
    rintro he
    cases he
    exact hu List.mem_cons_self

lemma pushed (h : Atomic (Queue.service D) (fun _ => []) tr shard) (hu : u ∈ shard s) :
    ∃ j d r, .handle j d s (.push u s) r ∈ tr := by
  have hp : u ∈ (Queue.pushes s tr).map Prod.snd := by
    rw [← Queue.pops_append h s]
    exact List.mem_append_right _ hu
  obtain ⟨⟨j, a⟩, hm, rfl⟩ := List.mem_map.mp hp
  obtain ⟨d, r, hj⟩ := Queue.mem_pushes h hm
  exact ⟨j, d, r, hj⟩

variable {i j k : ℕ} {c d e : Client} {r : Queue.Reply MappedType}

lemma pushed_after {pre post : Trace Client UInt16 (Queue.Op MappedType) _}
    (h : Atomic (Queue.service D) (fun _ => []) (pre ++ post) shard)
    (hi : .invoke i (c, .push v s) ∈ callerHistory (pre ++ post))
    (hb : [.respond i r, .invoke j (d, .push u s)].Sublist (callerHistory (pre ++ post)))
    (hu : ∀ j' d', .invoke j' (d', .push u s) ∈ callerHistory (pre ++ post) → j' = j)
    (hm : u ∈ (Queue.service D).after (fun _ => []) pre s) :
    ∃ q, .handle j d s (.push u s) q ∈ pre ∧
      [.handle i c s (.push v s) r, .handle j d s (.push u s) q].Sublist (pre ++ post) := by
  obtain ⟨j', d', q, hj⟩ := pushed h.earlier hm
  have hj' := List.mem_append_left post hj
  have hv := (h.invoke_before hj').subset List.mem_cons_self
  obtain rfl := hu j' d' (invoke_mem_callerHistory.mpr hv)
  have hw : .invoke j' (d, .push u s) ∈ callerHistory (pre ++ post) := hb.subset (by simp)
  obtain ⟨rfl, -⟩ := h.invoke_unique (invoke_mem_callerHistory.mp hw) hv
  have hh := handled_before_of_callerHistory h hi hb hj'
  rw [Queue.service_server] at hh
  exact ⟨q, hj, hh⟩

lemma popped_after (h : Atomic (Queue.service D) (fun _ => []) tr shard)
    (hi : .invoke i (c, .push v s) ∈ callerHistory tr)
    (hb : [.respond i r, .invoke j (d, .push u s)].Sublist (callerHistory tr))
    (hu : ∀ j' d', .invoke j' (d', .push u s) ∈ callerHistory tr → j' = j)
    (hk : .handle k e s (.pop s) (.pop (true, u)) ∈ tr) :
    ∃ q, [.handle i c s (.push v s) r, .handle j d s (.push u s) q,
      .handle k e s (.pop s) (.pop (true, u))].Sublist tr := by
  obtain ⟨pre, post, rfl⟩ := List.append_of_mem hk
  have hm : u ∈ (Queue.service D).after (fun _ => []) pre s := by
    have ha : Queue.Reply.pop (true, u) = .pop (Queue.localPop ((Queue.service D).after _ pre s)).1 :=
      h.handled.2
    exact mem_of_localPop (Queue.Reply.pop.inj ha).symm
  obtain ⟨q, hj, hij⟩ := pushed_after h hi hb hu hm
  exact ⟨q, before_trans h.nodup hij (before_append hj List.mem_cons_self)⟩

variable [DecidableEq MappedType]

lemma queue_popped (hv : v ∈ my_queue) {o : Queue.Op MappedType} (ho : o.key_int = s)
    (hn : v ∉ (Queue.handle o my_queue).2) :
    o = .pop s ∧ (Queue.handle o my_queue).1 = .pop (true, v) := by
  cases o with
  | push data key_int => exact absurd (List.mem_append_left [data] hv) hn
  | size key_int => exact absurd hv hn
  | pop key_int =>
    obtain rfl : key_int = s := ho
    have hp := taken_of_balance (queue_balance v (.pop key_int) my_queue) (List.count_eq_zero.mpr hn)
      (List.count_pos_iff.mpr hv)
    exact ⟨rfl, congrArg Queue.Reply.pop (of_decide_eq_true hp)⟩

omit [DecidableEq MappedType] in
lemma Ahead.popped (h : Ahead v u my_queue) {o : Queue.Op MappedType} (ho : o.key_int = s)
    (hn : ¬Ahead v u (Queue.handle o my_queue).2) :
    o = .pop s ∧ (Queue.handle o my_queue).1 = .pop (true, v) := by
  obtain ⟨front, back, rfl, hu⟩ := h
  cases o with
  | push data key_int => exact absurd ⟨front, back ++ [data], by simp [Queue.handle, Queue.localPush], hu⟩ hn
  | size key_int => exact absurd ⟨front, back, rfl, hu⟩ hn
  | pop key_int =>
    obtain rfl : key_int = s := ho
    cases front with
    | nil => exact ⟨rfl, by simp [Queue.handle, Queue.localPop_cons]⟩
    | cons w front =>
      rw [List.cons_append, Queue.handle, Queue.localPop_cons] at hn
      exact absurd ⟨front, back, rfl, fun hm => hu (List.mem_cons_of_mem w hm)⟩ hn

omit [DecidableEq MappedType] in
lemma ahead_or_popped (h : Atomic (Queue.service D) (fun _ => []) tr shard)
    (hi : .invoke i (c, .push v s) ∈ callerHistory tr)
    (hb : [.respond i r, .invoke j (d, .push u s)].Sublist (callerHistory tr))
    (hu : ∀ j' d', .invoke j' (d', .push u s) ∈ callerHistory tr → j' = j)
    (hk : .invoke k (e, .pop s) ∈ callerHistory tr) (hr : .respond k (.pop (true, u)) ∈ callerHistory tr) :
    Interfered (callerHistory tr) (fun o => o = .pop s) (fun _ r => r = .pop (true, v)) i k := by
  obtain ⟨hhk, hrk⟩ := handled_of_callerHistory h hk hr
  rw [Queue.service_server] at hhk
  obtain ⟨q, hs⟩ := popped_after h hi hb hu hhk
  have hij := (List.sublist_append_left [_, _] [_]).trans hs
  have hik := ((List.sublist_cons_self _ _).cons_cons _).trans hs
  have hne : v ≠ u := by
    rintro rfl
    exact id_ne h hij (hu i c hi)
  refine interfered_of_handled (Ahead v u) h hik hrk ?_ ?_ fun c' o my_queue ho ha => ha.popped ?_
  · rintro pre post rfl
    refine Ahead.push fun hm => ?_
    obtain ⟨q', hj, hij'⟩ := pushed_after h hi hb hu hm
    exact not_before h.nodup hij' (before_append hj List.mem_cons_self)
  · intro my_queue ha he
    exact ha.pop_ne hne (Queue.Reply.pop.inj he)
  · exact (Queue.service_server D c' o).symm.trans ho

variable [DecidableEq Client] [DecidableEq Obj]

lemma queue_kept : Kept D (.queue MappedType) others threads (fun o => o = .push v s) (queueShows s)
    (fun o => o = .pop s) (fun _ r => r = .pop (true, v)) := by
  have hs (c : Client) (o : Queue.Op MappedType) : (Queue.service D).server c o = o.key_int :=
    Queue.service_server D c o
  refine kept_of_holds (y := .queue MappedType) s (fun my_queue : List MappedType => v ∈ my_queue)
    (fun d p q hp => (hs d p).trans (queue_server hp)) ?_ ?_ (fun o _ hv => queue_asks hv o)
    fun c o _ ho hv hn => queue_popped hv ((hs c o).symm.trans ho) hn
  · rintro c o rfl
    exact hs c _
  · rintro o my_queue rfl
    exact List.mem_append_right my_queue (List.mem_singleton_self v)

end Queue

section PriorityQueue

variable {MappedType : Type} {Compare : MappedType → MappedType → Prop} {v : MappedType} {s : UInt16}

/-- What the calls of server `s` answer while it has `v`: they give no value that `v` exceeds. -/
def priorityQueueShows (Compare : MappedType → MappedType → Prop) (v : MappedType) (s : UInt16) :
    PriorityQueue.Op MappedType → PriorityQueue.Reply MappedType → Prop
  | .push _ _, _ => True
  | .pop key_int, r => key_int = s → ∃ value, r = .pop (true, value) ∧ ¬Compare value v
  | .top key_int, r => key_int = s → ∃ value, r = .top (true, value) ∧ ¬Compare value v
  | .size key_int, r => key_int = s → ∃ value, r = .size value ∧ 0 < value

lemma priorityQueue_server {o : PriorityQueue.Op MappedType} {r : PriorityQueue.Reply MappedType}
    (h : ¬priorityQueueShows Compare v s o r) : o.key_int = s := by
  by_contra hn
  refine h ?_
  cases o with
  | push data key_int => trivial
  | pop key_int => exact fun hs => absurd hs hn
  | top key_int => exact fun hs => absurd hs hn
  | size key_int => exact fun hs => absurd hs hn

variable {Q : StdPriorityQueue.{0, 0} MappedType Compare} {queue : Q.Carrier}

lemma mem_push (queue : Q.Carrier) : v ∈ Q.contents (Q.push v queue) := by
  rw [Q.contents_push]
  exact Multiset.mem_cons_self v _

variable [Inhabited MappedType]

lemma localPop_top (hv : v ∈ Q.contents queue) :
    ∃ value, (PriorityQueue.localPop Q queue).1 = (true, value) ∧ ¬Compare value v := by
  have hf : (PriorityQueue.localPop Q queue).1.1 = true := by
    refine Bool.of_not_eq_false fun he => ?_
    rw [PriorityQueue.localPop_fails.mp he] at hv
    exact Multiset.notMem_zero v hv
  exact ⟨_, Prod.ext hf rfl, (PriorityQueue.localPop_contents hf).2 v hv⟩

lemma priorityQueue_asks (hv : v ∈ Q.contents queue) (o : PriorityQueue.Op MappedType) :
    priorityQueueShows Compare v s o (PriorityQueue.handle Q o queue).1 := by
  obtain ⟨value, hf, hn⟩ := localPop_top hv
  cases o with
  | push data key_int => trivial
  | pop key_int => exact fun _ => ⟨value, congrArg PriorityQueue.Reply.pop hf, hn⟩
  | top key_int =>
    exact fun _ => ⟨value, congrArg PriorityQueue.Reply.top (PriorityQueue.localTop_eq.trans hf), hn⟩
  | size key_int =>
    exact fun _ => ⟨_, rfl, Q.size_pos_iff.mpr fun he => Multiset.notMem_zero v (he ▸ hv)⟩

variable [DecidableEq MappedType]

lemma priorityQueue_popped (hv : v ∈ Q.contents queue) {o : PriorityQueue.Op MappedType}
    (ho : o.key_int = s) (hn : v ∉ Q.contents (PriorityQueue.handle Q o queue).2) :
    o = .pop s ∧ (PriorityQueue.handle Q o queue).1 = .pop (true, v) := by
  cases o with
  | push data key_int =>
    have hm : v ∉ Q.contents (Q.push data queue) := hn
    rw [Q.contents_push] at hm
    exact absurd (Multiset.mem_cons_of_mem hv) hm
  | top key_int => exact absurd hv hn
  | size key_int => exact absurd hv hn
  | pop key_int =>
    obtain rfl : key_int = s := ho
    have hp := taken_of_balance (priorityQueue_balance v (.pop key_int) queue)
      (Multiset.count_eq_zero.mpr hn) (Multiset.count_pos.mpr hv)
    exact ⟨rfl, congrArg PriorityQueue.Reply.pop (of_decide_eq_true hp)⟩

variable [DecidableRel Compare] [IsStrictWeakOrder MappedType Compare]
variable [DecidableEq Client] [DecidableEq Obj]

lemma priorityQueue_kept (Q : StdPriorityQueue.{0, 0} MappedType Compare) :
    Kept D (.priorityQueue MappedType Compare Q) others threads (fun o => o = .push v s)
      (priorityQueueShows Compare v s) (fun o => o = .pop s) (fun _ r => r = .pop (true, v)) := by
  have hs (c : Client) (o : PriorityQueue.Op MappedType) : (PriorityQueue.service D Q).server c o = o.key_int :=
    PriorityQueue.service_server D c Q o
  refine kept_of_holds (y := .priorityQueue MappedType Compare Q) s
    (fun queue : Q.Carrier => v ∈ Q.contents queue)
    (fun d p q hp => (hs d p).trans (priorityQueue_server hp)) ?_ ?_ (fun o _ hv => priorityQueue_asks hv o)
    fun c o _ ho hv hn => priorityQueue_popped hv ((hs c o).symm.trans ho) hn
  · rintro c o rfl
    exact hs c _
  · rintro o queue rfl
    exact mem_push queue

end PriorityQueue

section Set

variable {KeyType : Type} {Compare : KeyType → KeyType → Prop} {k : KeyType} {u : Bool}
variable {home : KeyType → UInt16}

def mayBeFirst (Compare : KeyType → KeyType → Prop) (k : KeyType) (u : Bool) (found : Bool × KeyType) :
    Prop :=
  if u then found.1 = true ∧ ¬Compare k found.2 else found ≠ (true, k)

def setShows (Compare : KeyType → KeyType → Prop) (home : KeyType → UInt16) (k : KeyType) (u : Bool)
    (o : Set.LockedCall KeyType) (r : Set.ServerAnswer KeyType) : Prop :=
  match o.1 with
  | .op (.get key) => key = k → r = .op (.get u)
  | .op (.erase key) => key = k → r = .op (.erase u)
  | .op (.seekFirst s) => s = home k → ∃ found, r = .op (.seekFirst found) ∧ mayBeFirst Compare k u found
  | .op (.popFirst s) => s = home k → ∃ found, r = .op (.popFirst found) ∧ mayBeFirst Compare k u found
  | .getAllDataInServer s =>
    s = home k → ∃ keys, r = .getAllDataInServer (some keys) ∧ (k ∈ keys ↔ u = true)
  | _ => True

def setBegins (k : KeyType) (u : Bool) (o : Set.LockedCall KeyType) : Prop :=
  o.1 = .op (if u then .put k else .erase k)

def setEnds (home : KeyType → UInt16) (k : KeyType) (u : Bool) (o : Set.LockedCall KeyType) : Prop :=
  if u then o.1 = .op (.erase k) ∨ o.1 = .op (.popFirst (home k)) else o.1 = .op (.put k)

/-- What a call answers that brings `k` into the set or takes it out. -/
def setTells (k : KeyType) (o : Set.LockedCall KeyType) (r : Set.ServerAnswer KeyType) : Prop :=
  match o.1 with
  | .op (.put _) => r = .op (.put true)
  | .op (.erase _) => r = .op (.erase true)
  | .op (.popFirst _) => r = .op (.popFirst (true, k))
  | _ => True

variable {o : Set.LockedCall KeyType} {r : Set.ServerAnswer KeyType}

lemma set_server_begins (h : setBegins k u o) : o.1.server home = home k := by
  rw [h]
  cases u <;> rfl

lemma set_server_shows (h : ¬setShows Compare home k u o r) : o.1.server home = home k := by
  by_contra hn
  refine h ?_
  obtain ⟨o, ho⟩ := o
  cases o with
  | op o =>
    cases o with
    | put key => trivial
    | size key_int => trivial
    | get key => exact fun hk => absurd (congrArg home hk) hn
    | erase key => exact fun hk => absurd (congrArg home hk) hn
    | seekFirst s => exact fun hs => absurd hs hn
    | popFirst s => exact fun hs => absurd hs hn
  | containsInServer s key_start key_end => trivial
  | getAllDataInServer s => exact fun hs => absurd hs hn

variable [DecidableRel Compare] [IsStrictTotalOrder KeyType Compare] {myset : Set.MySet KeyType Compare}

lemma localGet_eq (h : k ∈ myset.entries ↔ u = true) : Set.localGet k myset = u := by
  have hg : Set.localGet k myset = (myset.find k).isSome := by
    rw [Set.localGet]
    cases myset.find k <;> rfl
  rw [hg, Bool.eq_iff_iff, Tree.isSome_find, ← h]
  simp [SortedSequence.incomp_iff_eq]

lemma localErase_eq (h : k ∈ myset.entries ↔ u = true) : (Set.localErase k myset).1 = u := by
  rw [Bool.eq_iff_iff, Set.localErase_iff, h]

variable [Inhabited KeyType]

omit [DecidableRel Compare] in
lemma mayBeFirst_localPopFirst (h : k ∈ myset.entries ↔ u = true) :
    mayBeFirst Compare k u (Set.localPopFirst myset).1 := by
  rw [mayBeFirst]
  cases he : myset.entries with
  | nil =>
    rw [Set.localPopFirst_empty he]
    cases u with
    | false => simp
    | true => simp [he] at h
  | cons m l =>
    rw [(Set.localPopFirst_cons he).1]
    cases u with
    | false =>
      intro hf
      cases hf
      simp [he] at h
    | true =>
      refine ⟨rfl, fun hc => ?_⟩
      by_cases hk : k = m
      · exact irrefl_of Compare m (hk ▸ hc)
      · exact asymm_of Compare hc (Tree.head_lt he (h.mpr rfl) hk)

variable [LT KeyType] [DecidableLT KeyType] [LE KeyType] [DecidableLE KeyType]

lemma set_asks (h : k ∈ myset.entries ↔ u = true) (o : Set.LockedCall KeyType) :
    setShows Compare home k u o (Set.serverHandle o.1 myset).1 := by
  obtain ⟨o, ho⟩ := o
  cases o with
  | op o =>
    cases o with
    | put key => trivial
    | size key_int => trivial
    | get key =>
      rintro rfl
      exact congrArg (fun found => Set.ServerAnswer.op (.get found)) (localGet_eq h)
    | erase key =>
      rintro rfl
      exact congrArg (fun found => Set.ServerAnswer.op (.erase found)) (localErase_eq h)
    | seekFirst s =>
      have hs : Set.localSeekFirst myset = (Set.localPopFirst myset).1 := by
        rw [Set.localSeekFirst, Set.localPopFirst]
        split_ifs <;> rfl
      exact fun _ => ⟨_, rfl, hs ▸ mayBeFirst_localPopFirst h⟩
    | popFirst s => exact fun _ => ⟨_, rfl, mayBeFirst_localPopFirst h⟩
  | containsInServer s key_start key_end => trivial
  | getAllDataInServer s =>
    refine fun _ => ⟨myset.entries, ?_, h⟩
    exact congrArg Set.ServerAnswer.getAllDataInServer Set.localGetAllDataInServer_eq

lemma set_begins (h : setBegins k u o) : k ∈ (Set.serverHandle o.1 myset).2.entries ↔ u = true := by
  rw [h]
  cases u with
  | true => exact iff_of_true (Set.mem_localPut.mpr (.inl rfl)) rfl
  | false => exact iff_of_false (fun hm => (Set.mem_localErase.mp hm).2 rfl) Bool.false_ne_true

lemma set_removed (ho : o.1.server home = home k) (h : k ∈ myset.entries)
    (hn : k ∉ (Set.serverHandle o.1 myset).2.entries) :
    setEnds home k true o ∧ setTells k o (Set.serverHandle o.1 myset).1 := by
  obtain ⟨o, hl⟩ := o
  cases o with
  | op o =>
    cases o with
    | put key => exact absurd (Set.mem_localPut.mpr (.inr h)) hn
    | get key => exact absurd h hn
    | size key_int => cases hl
    | seekFirst s => exact absurd h hn
    | erase key =>
      obtain rfl : k = key := by
        by_contra hk
        exact hn (Set.mem_localErase.mpr ⟨h, hk⟩)
      exact ⟨.inl rfl, congrArg (fun found => Set.ServerAnswer.op (.erase found)) (Set.localErase_iff.mpr h)⟩
    | popFirst s =>
      obtain rfl : s = home k := ho
      refine ⟨.inr rfl, ?_⟩
      have hn : k ∉ (Set.localPopFirst myset).2.entries := hn
      cases he : myset.entries with
      | nil => simp [he] at h
      | cons m l =>
        obtain ⟨hm, hl⟩ := Set.localPopFirst_cons he
        rw [hl] at hn
        rw [he] at h
        obtain rfl := (List.mem_cons.mp h).resolve_right hn
        exact congrArg (fun found => Set.ServerAnswer.op (.popFirst found)) hm
  | containsInServer s key_start key_end => exact absurd h hn
  | getAllDataInServer s => exact absurd h hn

lemma set_added (h : k ∉ myset.entries) (hm : k ∈ (Set.serverHandle o.1 myset).2.entries) :
    setEnds home k false o ∧ setTells k o (Set.serverHandle o.1 myset).1 := by
  have ho := (mem_of_serverHandle hm).resolve_right h
  refine ⟨ho, ?_⟩
  rw [setTells, ho]
  rfl

lemma set_change (ho : o.1.server home = home k) (h : k ∈ myset.entries ↔ u = true)
    (hn : ¬(k ∈ (Set.serverHandle o.1 myset).2.entries ↔ u = true)) :
    setEnds home k u o ∧ setTells k o (Set.serverHandle o.1 myset).1 := by
  cases u with
  | true => exact set_removed ho (h.mpr rfl) fun hm => hn (iff_of_true hm rfl)
  | false =>
    refine set_added (fun hm => Bool.false_ne_true (h.mp hm)) ?_
    by_contra hm
    exact hn (iff_of_false hm Bool.false_ne_true)

variable [DecidableEq Client] [DecidableEq Obj]

lemma set_kept (keyHash : KeyType → UInt64) :
    Kept D (.set KeyType Compare keyHash) others threads (setBegins k u)
      (setShows Compare (D.home keyHash) k u) (setEnds (D.home keyHash) k u) (setTells k) := by
  have hs (c : Client) (o : Set.LockedCall KeyType) :
      (Set.serverService Compare D keyHash).server c o = o.1.server (D.home keyHash) :=
    Set.serverService_server D keyHash c o
  exact kept_of_holds (y := .set KeyType Compare keyHash) (D.home keyHash k)
    (fun myset : Set.MySet KeyType Compare => k ∈ myset.entries ↔ u = true)
    (fun d p q hp => (hs d p).trans (set_server_shows hp))
    (fun c o ho => (hs c o).trans (set_server_begins ho)) (fun _ _ => set_begins)
    (fun o _ h => set_asks h o) fun c o _ ho h hn => set_change ((hs c o).symm.trans ho) h hn

end Set

section Theorems

/-- The first of three pops has not returned when the second is given the value behind its own. -/
def threePops : History .pair (beside (.queue ℕ) multimap) :=
  [.invoke 0 (true, ⟨none, .push 7 1⟩), .respond 0 ⟨none, .push true⟩,
    .invoke 1 (true, ⟨none, .push 8 1⟩), .respond 1 ⟨none, .push true⟩,
    .invoke 2 (false, ⟨none, .pop 1⟩), .invoke 3 (true, ⟨none, .pop 1⟩), .respond 3 ⟨none, .pop (true, 8)⟩,
    .invoke 4 (true, ⟨none, .pop 1⟩), .respond 4 ⟨none, .pop (false, 0)⟩]

lemma run_threePops : ∃ st : CriticalSection.State (program .pair (beside (.queue ℕ) multimap)) 1,
    Run (.queue ℕ) multimap threePops st := by
  have hn : CriticalSection.Run (program .pair (beside (.queue ℕ) multimap)) 1
    (constructed .pair (beside (.queue ℕ) multimap)) [] _ := .nil
  have h₁ := hn.snoc (.here (c := true) (o := ⟨none, .push 7 1⟩) rfl (by decide))
  have h₂ := h₁.snoc (.lock (c := true) rfl rfl)
  have h₃ := h₂.snoc (.work (c := true) rfl)
  have h₄ := h₃.snoc (.unlock (c := true) rfl)
  have h₅ := h₄.snoc (.reply (c := true) rfl)
  have h₆ := h₅.snoc (.here (c := true) (o := ⟨none, .push 8 1⟩) rfl (by decide))
  have h₇ := h₆.snoc (.lock (c := true) rfl rfl)
  have h₈ := h₇.snoc (.work (c := true) rfl)
  have h₉ := h₈.snoc (.unlock (c := true) rfl)
  have h₁₀ := h₉.snoc (.reply (c := true) rfl)
  have h₁₁ := h₁₀.snoc (.request (c := false) (o := ⟨none, .pop 1⟩) (s := 1) rfl (by decide))
  have h₁₂ := h₁₁.snoc (.here (c := true) (o := ⟨none, .pop 1⟩) rfl (by decide))
  have h₁₃ := h₁₂.snoc (.take (c := false) (j := 0) rfl (by decide))
  have h₁₄ := h₁₃.snoc (.lock (c := false) rfl rfl)
  have h₁₅ := h₁₄.snoc (.work (c := false) rfl)
  have h₁₆ := h₁₅.snoc (.work (c := false) rfl)
  have h₁₇ := h₁₆.snoc (.work (c := false) rfl)
  have h₁₈ := h₁₇.snoc (.unlock (c := false) rfl)
  have h₁₉ := h₁₈.snoc (.lock (c := true) rfl rfl)
  have h₂₀ := h₁₉.snoc (.work (c := true) rfl)
  have h₂₁ := h₂₀.snoc (.work (c := true) rfl)
  have h₂₂ := h₂₁.snoc (.work (c := true) rfl)
  have h₂₃ := h₂₂.snoc (.unlock (c := true) rfl)
  have h₂₄ := h₂₃.snoc (.reply (c := true) rfl)
  have h₂₅ := h₂₄.snoc (.here (c := true) (o := ⟨none, .pop 1⟩) rfl (by decide))
  have h₂₆ := h₂₅.snoc (.lock (c := true) rfl rfl)
  have h₂₇ := h₂₆.snoc (.work (c := true) rfl)
  have h₂₈ := h₂₇.snoc (.unlock (c := true) rfl)
  exact ⟨_, h₂₈.snoc (.reply (c := true) rfl)⟩

variable {MappedType KeyType : Type} [Inhabited MappedType] [DecidableEq MappedType]
variable [LT KeyType] [DecidableLT KeyType] [LE KeyType] [DecidableLE KeyType] [Inhabited KeyType]
variable [DecidableEq Client] [DecidableEq Obj]

theorem values_kept (Compare : MappedType → MappedType → Prop) [DecidableRel Compare]
    [IsStrictWeakOrder MappedType Compare] (Q : StdPriorityQueue.{0, 0} MappedType Compare)
    (CompareKey : KeyType → KeyType → Prop) [DecidableRel CompareKey]
    [IsStrictTotalOrder KeyType CompareKey] (keyHash : KeyType → UInt64)
    (others : Obj → Container) (threads : ℕ) :
    (∀ v s, Kept D (.queue MappedType) others threads (fun o => o = .push v s) (queueShows s)
      (fun o => o = .pop s) (fun _ r => r = .pop (true, v))) ∧
    (∀ v s, Kept D (.priorityQueue MappedType Compare Q) others threads (fun o => o = .push v s)
      (priorityQueueShows Compare v s) (fun o => o = .pop s) (fun _ r => r = .pop (true, v))) ∧
    ∀ k u, Kept D (.set KeyType CompareKey keyHash) others threads (setBegins k u)
      (setShows CompareKey (D.home keyHash) k u) (setEnds (D.home keyHash) k u) (setTells k) :=
  ⟨fun _ _ => queue_kept, fun _ _ => priorityQueue_kept Q, fun _ _ => set_kept keyHash⟩

theorem values_kept_pair :
    Interfered (calls threePops) (fun o => o = .pop 1) (fun _ r => r = .pop (true, 8)) 1 4 := by
  obtain ⟨st, hr⟩ := run_threePops
  have hk := (values_kept (· < · : ℕ → ℕ → Prop) .sequence (· < · : ℕ → ℕ → Prop) UInt64.ofNat
    multimap 1).1 8 1 threePops st hr 1 4 true true (.push 8 1) (.pop 1) (.push true) (.pop (false, 0)) rfl
    (.tail _ (.tail _ (.head _)))
    (.cons _ (.cons _ (.cons _ (.cons_cons _
      (.cons _ (.cons _ (.cons _ (.cons_cons _ (List.nil_sublist _)))))))))
    (.tail _ (.tail _ (.tail _ (.tail _ (.tail _ (.tail _ (.tail _ (.tail _ (.head _)))))))))
  refine hk.resolve_left fun hs => ?_
  obtain ⟨value, hr⟩ := hs rfl
  cases hr

omit [DecidableEq MappedType] in
theorem queue_in_order {h : History D (beside (.queue MappedType) others)}
    {st : CriticalSection.State (program D (beside (.queue MappedType) others)) threads}
    (hr : Run (.queue MappedType) others h st) {i j k : ℕ} {c d e : Client} {v u : MappedType} {s : UInt16}
    {r : Queue.Reply MappedType} (hi : .invoke i (c, .push v s) ∈ calls h)
    (hb : [.respond i r, .invoke j (d, .push u s)].Sublist (calls h))
    (hu : ∀ j' d', .invoke j' (d', .push u s) ∈ calls h → j' = j)
    (hk : .invoke k (e, .pop s) ∈ calls h) (hq : .respond k (.pop (true, u)) ∈ calls h) :
    Interfered (calls h) (fun o => o = .pop s) (fun _ r => r = .pop (true, v)) i k := by
  obtain ⟨tr, shard, ha, hh⟩ := calls_alone hr
  rw [← hh] at hi hb hu hk hq ⊢
  exact ahead_or_popped ha hi hb hu hk hq

theorem queue_in_order_pair :
    Interfered (calls threePops) (fun o => o = .pop 1) (fun _ r => r = .pop (true, 7)) 0 3 := by
  obtain ⟨st, hr⟩ := run_threePops
  refine queue_in_order hr (i := 0) (j := 1) (k := 3) (c := true) (d := true) (e := true) (v := 7) (u := 8)
    (s := 1) (r := .push true) (.head _)
    (.cons _ (.cons_cons _ (.cons_cons _ (List.nil_sublist _)))) ?_
    (.tail _ (.tail _ (.tail _ (.tail _ (.tail _ (.head _))))))
    (.tail _ (.tail _ (.tail _ (.tail _ (.tail _ (.tail _ (.head _)))))))
  intro j' d' hm
  have hm : .invoke j' (d', .push 8 1) ∈ ([.invoke 0 (true, .push 7 1), .respond 0 (.push true),
    .invoke 1 (true, .push 8 1), .respond 1 (.push true), .invoke 2 (false, .pop 1), .invoke 3 (true, .pop 1),
    .respond 3 (.pop (true, 8)), .invoke 4 (true, .pop 1), .respond 4 (.pop (false, 0))] :
      List (Linearizability.Event ℕ (Bool × Queue.Op ℕ) (Queue.Reply ℕ))) := hm
  have hj : j' = 1 ∧ d' = true := by simpa using hm
  exact hj.1

end Theorems

end Basket.Overtaking
