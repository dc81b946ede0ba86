import Basket.Library.Machine
import Basket.Queue.Model

/-! A client that pushes the values of its variables, with the target server on its node or not. -/

namespace Basket.Queue

open Library Cluster Communication

variable {Var MappedType : Type*} [DecidableEq Var]

structure Memory (Var MappedType : Type*) where
  value : Var → MappedType
  my_queue : UInt16 → List MappedType

/-- `push_back(std::move(data))`, with what the move leaves in `data`. -/
def localPushMove (move : MappedType → MappedType) (data : MappedType) (my_queue : List MappedType) :
    Bool × MappedType × List MappedType :=
  ((localPush data my_queue).1, move data, (localPush data my_queue).2)

/-- On the node the push moves from the variable itself, over the wire from a copy of it. -/
def pushVariable (move : MappedType → MappedType) (m : Process) (p : Var × UInt16)
    (mem : Memory Var MappedType) : Bool × Memory Var MappedType :=
  match m.callServer p.2 with
  | .here =>
    let (success, data, my_queue) := localPushMove move (mem.value p.1) (mem.my_queue m.my_server)
    (success, ⟨Function.update mem.value p.1 data, Function.update mem.my_queue m.my_server my_queue⟩)
  | .rpc s =>
    let (success, _, my_queue) := localPushMove move (mem.value p.1) (mem.my_queue s)
    (success, ⟨mem.value, Function.update mem.my_queue s my_queue⟩)

variable {move : MappedType → MappedType} {m m' : Process} {mem mem' : Memory Var MappedType}
variable {p : Var × UInt16} {program : List (Var × UInt16)} {x : Var} {t : UInt16}

lemma pushVariable_my_queue : (pushVariable move m p mem).2.my_queue =
    Function.update mem.my_queue p.2 (mem.my_queue p.2 ++ [mem.value p.1]) := by
  have ht := m.target_callServer p.2
  rw [pushVariable]
  cases hd : m.callServer p.2 with
  | here =>
    rw [hd] at ht
    rw [← ht]
    rfl
  | rpc s =>
    rw [hd] at ht
    rw [← ht]
    rfl

lemma pushVariable_value_other (hx : x ≠ p.1) : (pushVariable move m p mem).2.value x = mem.value x := by
  rw [pushVariable]
  cases m.callServer p.2 with
  | here => exact Function.update_of_ne hx _ _
  | rpc s => rfl

lemma pushVariable_here (s : UInt16) : pushVariable move ⟨s, true⟩ (x, s) mem =
    (true, ⟨Function.update mem.value x (move (mem.value x)),
      Function.update mem.my_queue s (mem.my_queue s ++ [mem.value x])⟩) := by
  simp [pushVariable, Process.callServer, localPushMove, localPush]

lemma pushVariable_away {s : UInt16} (ht : t ≠ s) :
    pushVariable move ⟨s, true⟩ (x, t) mem = pushVariable move ⟨s, false⟩ (x, t) mem := by
  simp [pushVariable, Process.callServer, ht]

lemma pushVariable_rpc (s : UInt16) : pushVariable move ⟨s, false⟩ (x, t) mem =
    (true, ⟨mem.value, Function.update mem.my_queue t (mem.my_queue t ++ [mem.value x])⟩) := by
  simp [pushVariable, Process.callServer, localPushMove, localPush]

lemma prefix_run (move : MappedType → MappedType) (m : Process) (program : List (Var × UInt16))
    (mem : Memory Var MappedType) (t : UInt16) :
    mem.my_queue t <+: (Machine.run (pushVariable move m) program mem).2.my_queue t := by
  induction program generalizing mem with
  | nil => exact List.prefix_rfl
  | cons p program ih =>
    have hp := ih (pushVariable move m p mem).2
    rw [pushVariable_my_queue] at hp
    refine List.IsPrefix.trans ?_ hp
    by_cases ht : t = p.2
    · subst ht
      rw [Function.update_self]
      exact List.prefix_append _ _
    · rw [Function.update_of_ne ht]

lemma run_ne (hx : mem.value x ≠ mem'.value x)
    (hl : ∀ t, (mem.my_queue t).length = (mem'.my_queue t).length) :
    (Machine.run (pushVariable move m) program mem).2 ≠
      (Machine.run (pushVariable move m') program mem').2 := by
  induction program generalizing mem mem' with
  | nil => exact fun he => hx (congrArg (fun mem => mem.value x) he)
  | cons p program ih =>
    rw [Machine.run_cons_snd, Machine.run_cons_snd]
    by_cases hp : x = p.1
    · intro he
      obtain ⟨l, hq⟩ := prefix_run move m program (pushVariable move m p mem).2 p.2
      obtain ⟨l', hq'⟩ := prefix_run move m' program (pushVariable move m' p mem').2 p.2
      rw [he] at hq
      have hm := hq.trans hq'.symm
      rw [pushVariable_my_queue, pushVariable_my_queue, Function.update_self, Function.update_self,
        List.append_assoc, List.append_assoc] at hm
      exact hx (hp ▸ (List.cons.inj (List.append_inj hm (hl p.2)).2).1)
    · have hv : (pushVariable move m p mem).2.value x ≠ (pushVariable move m' p mem').2.value x := by
        rwa [pushVariable_value_other hp, pushVariable_value_other hp]
      refine ih hv fun t => ?_
      rw [pushVariable_my_queue, pushVariable_my_queue]
      by_cases ht : t = p.2
      · subst ht
        simp [hl]
      · simp [Function.update_of_ne ht, hl]

theorem push_placement_iff (move : MappedType → MappedType) (my_server : UInt16)
    (program : List (Var × UInt16)) (mem : Memory Var MappedType) :
    Machine.run (pushVariable move ⟨my_server, true⟩) program mem =
        Machine.run (pushVariable move ⟨my_server, false⟩) program mem ↔
      ∀ p ∈ program, p.2 = my_server → move (mem.value p.1) = mem.value p.1 := by
  induction program generalizing mem with
  | nil => exact iff_of_true rfl (List.forall_mem_nil _)
  | cons p program ih =>
    obtain ⟨x, t⟩ := p
    rw [List.forall_mem_cons]
    by_cases hs : pushVariable move ⟨my_server, true⟩ (x, t) mem =
        pushVariable move ⟨my_server, false⟩ (x, t) mem
    · rw [Machine.run_cons_congr hs, ih, pushVariable_rpc]
      refine (and_iff_right fun ht => ?_).symm
      subst ht
      rw [pushVariable_here, pushVariable_rpc] at hs
      have hv := congrArg (fun mem => mem.value x) (Prod.ext_iff.mp hs).2
      simpa using hv
    · have ht : t = my_server := by
        by_contra ht
        exact hs (pushVariable_away ht)
      subst ht
      have hm : move (mem.value x) ≠ mem.value x := by
        intro hm
        apply hs
        rw [pushVariable_here, pushVariable_rpc, hm, Function.update_eq_self]
      have hv : (pushVariable move ⟨t, true⟩ (x, t) mem).2.value x ≠
          (pushVariable move ⟨t, false⟩ (x, t) mem).2.value x := by
        rw [pushVariable_here, pushVariable_rpc]
        simpa using hm
      refine iff_of_false (fun he => ?_) fun h => hm (h.1 rfl)
      have hr := (Prod.ext_iff.mp he).2
      rw [Machine.run_cons_snd, Machine.run_cons_snd] at hr
      refine run_ne hv (fun s => ?_) hr
      rw [pushVariable_my_queue, pushVariable_my_queue]

def moveText (_ : String) : String := ""

/-- One variable pushed twice arrives once as it was and once empty. -/
theorem push_placement_differs : ¬∀ (move : String → String) (my_server : UInt16)
    (program : List (Unit × UInt16)) (mem : Memory Unit String),
    Machine.run (pushVariable move ⟨my_server, true⟩) program mem =
      Machine.run (pushVariable move ⟨my_server, false⟩) program mem := by
  intro h
  have hq := congrArg (fun r => r.2.my_queue 0)
    (h moveText 0 [((), 0), ((), 0)] ⟨fun _ => "a", fun _ => []⟩)
  exact absurd hq (by decide)

end Basket.Queue
