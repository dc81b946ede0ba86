import Basket.BackedFile
import Basket.Construction
import Basket.Library.Segments

/-! The processes of one node that construct objects: servers, which put them into files, and clients,
which look for them there. -/

namespace Basket.Attachment

open Common BackedFile Construction Library Segments List

structure Process where
  object : SharedObject
  is_server : Bool
  server_on_node : Bool

def mtx : Text := "mtx".toList

def dataName (o : SharedObject) : Text :=
  match o.kind with
  | .queue => "Queue".toList
  | .priority_queue => "Queue".toList
  | .global_clock => "Time".toList
  | .set => cStr o.name ++ '_' :: decimal o.my_server.toNat
  | .unordered_map => cStr o.name ++ '_' :: decimal o.my_server.toNat
  | _ => cStr (o.name ++ '_' :: decimal o.my_server.toNat)

def action? (o : SharedObject) : Initialization.Step Resource Operation → Option (Action Text)
  | .start => none
  | .bind _ => none
  | .construct .segment => some .createOnly
  | .construct .data => some (.construct (dataName o))
  | .construct .mutex => some (.construct mtx)

def constructor (implementation : RPCImplementation) (o : SharedObject) : List (Action Text) :=
  .remove :: (construction implementation o.kind).filterMap (action? o)

/-- The constructor and, for a server, the destructor. -/
def program (implementation : RPCImplementation) (p : Process) : List (Action Text) :=
  if p.is_server then constructor implementation p.object ++ [.remove]
  else if p.server_on_node then [.openOnly, .find (dataName p.object), .find mtx]
  else []

variable {X : Type*} [DecidableEq X] {process : X → Process} {implementation : RPCImplementation}

/-- Files of earlier programs may be left over. Nobody has mapped them, and the processes of this
program have constructed nothing yet. -/
structure Leftover (process : X → Process) (init : State X CharStruct Text) : Prop where
  segment : ∀ x, init.segment x = none
  objects : ∀ y, (process y).is_server = true → init.objects y = []

lemma constructor_eq {o : SharedObject} : constructor implementation o =
    .remove :: .createOnly :: if o.kind = .unordered_map then [.construct mtx, .construct (dataName o)]
      else [.construct (dataName o), .construct mtx] := by
  obtain ⟨kind, name, my_server⟩ := o
  cases kind <;> cases implementation <;> rfl

lemma dataName_ne_mtx {o : SharedObject} (h : '\x00' ∉ o.name) : dataName o ≠ mtx := by
  have hn {t : Text} (ht : '_' ∈ t) : t ≠ mtx := by
    rintro rfl
    exact absurd ht (by decide)
  have hc : '_' ∈ cStr (o.name ++ '_' :: decimal o.my_server.toNat) := by
    rw [cStr_append h]
    exact List.mem_append_right _ (by simp [cStr])
  rw [dataName]
  split
  · decide
  · decide
  · decide
  · exact hn (List.mem_append_right _ List.mem_cons_self)
  · exact hn (List.mem_append_right _ List.mem_cons_self)
  · exact hn hc

section Programs

variable {p : Process} {a : Action Text} {n : Text}

lemma program_server (hs : p.is_server = true) :
    program implementation p = constructor implementation p.object ++ [.remove] := by
  rw [program, if_pos hs]

lemma program_client (hs : p.is_server = false) (hn : p.server_on_node = true) :
    program implementation p = .openOnly :: [dataName p.object, mtx].map .find := by
  simp [program, hs, hn]

lemma mem_program_server (hs : p.is_server = true) : a ∈ program implementation p ↔
    a = .remove ∨ a = .createOnly ∨ a = .construct (dataName p.object) ∨ a = .construct mtx := by
  rw [program_server hs, constructor_eq]
  split_ifs <;> simp <;> tauto

lemma server_of_mem (ha : a ∈ program implementation p) (hf : a ≠ .openOnly ∧ ∀ n, a ≠ .find n) :
    p.is_server = true := by
  by_contra hs
  rw [program, if_neg hs] at ha
  split_ifs at ha
  · simp only [List.mem_cons, List.not_mem_nil, or_false] at ha
    rcases ha with rfl | rfl | rfl
    · exact hf.1 rfl
    · exact hf.2 _ rfl
    · exact hf.2 _ rfl
  · exact absurd ha List.not_mem_nil

omit [DecidableEq X] in
lemma owned : Owned fun x => program implementation (process x) := by
  intro x n hc ho
  have hs : (process x).is_server = true := server_of_mem hc ⟨by simp, by simp⟩
  have hm := (mem_program_server hs).mp ho
  simp at hm

end Programs

section Runs

variable {path : SharedObject → CharStruct} {init st : State X CharStruct Text} {tr : Trace X Text}

abbrev NodeRun (implementation : RPCImplementation) (process : X → Process)
    (path : SharedObject → CharStruct) (init : State X CharStruct Text) (tr : Trace X Text)
    (st : State X CharStruct Text) : Prop :=
  Segments.Run (fun x => path (process x).object) (fun x => program implementation (process x)) init tr st

structure Client (p : Process) : Prop where
  apart : p.is_server = false
  here : p.server_on_node = true
  nul_free : '\x00' ∉ p.object.name

variable {x y : X} {n : Text} {dir : CharStruct}

abbrev current (process : X → Process) (path : SharedObject → CharStruct)
    (init : State X CharStruct Text) (p : CharStruct) (y : X) (tr : Trace X Text) : Prop :=
  Current (fun x => path (process x).object) init p y tr

theorem attached_iff (hl : Leftover process init) (hr : NodeRun implementation process path init tr st)
    (hx : Client (process x)) (hy : (process y).is_server = true)
    (hd : actions x tr = program implementation (process x))
    (hn : n = dataName (process x).object ∨ n = mtx) :
    st.pointer x n = some y ↔
      (∃ pre post, tr = pre ++ (x, .openOnly) :: post ∧
        current process path init (path (process x).object) y pre) ∧
      [(y, .construct n), (x, .find n)] <+ tr := by
  have hne := dataName_ne_mtx hx.nul_free
  rw [hr.pointer_iff hl.segment owned (program_client hx.apart hx.here) (by simp [hne])
    (by simpa using hn) hd, hl.objects y hy, or_iff_right List.not_mem_nil]

def mapProcess : Bool → Process
  | true => ⟨⟨.map, ['a'], 0⟩, true, true⟩
  | false => ⟨⟨.map, ['a'], 0⟩, false, true⟩

def mapServer : Trace Bool Text := (constructor RPCImplementation.RPCLIB ⟨.map, ['a'], 0⟩).map (Prod.mk true)

def mapClient : Trace Bool Text := [(false, .find "a_0".toList), (false, .find mtx)]

omit [DecidableEq X] in
lemma leftover_empty : Leftover process (State.empty : State X CharStruct Text) :=
  ⟨fun _ => rfl, fun _ _ => rfl⟩

lemma mapClient_client : Client (mapProcess false) := ⟨rfl, rfl, by decide⟩

lemma mapRun : ∃ st, NodeRun RPCImplementation.RPCLIB mapProcess pathOf .empty
    (mapServer ++ (false, .openOnly) :: mapClient) st := by
  have hs : (exec (fun x => pathOf (mapProcess x).object) .empty
      (mapServer ++ (false, .openOnly) :: mapClient)).isSome := by
    decide +kernel
  obtain ⟨st, hs⟩ := Option.isSome_iff_exists.mp hs
  exact ⟨st, hs, by decide⟩

theorem attached_iff_map : ∃ st, NodeRun RPCImplementation.RPCLIB mapProcess pathOf .empty
    (mapServer ++ (false, .openOnly) :: mapClient) st ∧
    (st.pointer false mtx = some true ↔
      (∃ pre post, mapServer ++ (false, .openOnly) :: mapClient = pre ++ (false, .openOnly) :: post ∧
        current mapProcess pathOf .empty (pathOf ⟨.map, ['a'], 0⟩) true pre) ∧
      [(true, .construct mtx), (false, .find mtx)] <+ mapServer ++ (false, .openOnly) :: mapClient) := by
  obtain ⟨st, hr⟩ := mapRun
  exact ⟨st, hr, attached_iff leftover_empty hr mapClient_client rfl (by decide) (.inr rfl)⟩

theorem clients_share (hl : Leftover process init)
    (hr : NodeRun implementation process path init tr st) (hx : Client (process x))
    (hd : actions x tr = program implementation (process x)) (hy : (process y).is_server = true)
    (ho : (process y).object = (process x).object)
    (hp : ∀ z, backedFile dir (process z).object = some (path (process z).object))
    (hs : ∀ z, (process z).is_server = true → z ≠ y → Separate (process z).object (process y).object)
    (hb : ∀ pre post, tr = pre ++ (x, .openOnly) :: post →
      actions y pre = constructor implementation (process y).object) :
    st.pointer x (dataName (process x).object) = some y ∧ st.pointer x mtx = some y := by
  have hpr := hd
  rw [program_client hx.apart hx.here] at hpr
  obtain ⟨pre, post, rfl, hn, hf⟩ := actions_split (l := []) hpr
  have hc := hb pre post rfl
  have hcurrent : current process path init (path (process x).object) y pre := by
    rw [constructor_eq] at hc
    obtain ⟨A, B, rfl, -, hB⟩ := actions_split (l := [.remove]) hc
    refine .inl ⟨A, B, rfl, congrArg path ho, fun z hz hm => ?_⟩
    have hrm : Action.remove ∈ program implementation (process z) :=
      hr.planned (List.mem_append_left _ (List.mem_append_right _ (List.mem_cons_of_mem _ hm)))
    obtain rfl : z = y := by
      by_contra hzy
      have hz : path (process z).object = path (process y).object := hz.trans (congrArg path ho.symm)
      exact (backedFile_ne_iff (hp z) (hp y)).mpr (hs z (server_of_mem hrm ⟨by simp, by simp⟩) hzy) hz
    rw [← mem_actions, hB] at hm
    split_ifs at hm <;> simp at hm
  have hfind (n : Text) (hm : n = dataName (process x).object ∨ n = mtx) :
      st.pointer x n = some y := by
    rw [attached_iff hl hr hx hy hd hm]
    refine ⟨⟨pre, post, rfl, hcurrent⟩, ?_⟩
    have hy : (y, .construct n) ∈ pre := by
      rw [← mem_actions, hc, constructor_eq, ho]
      split_ifs
      · simpa [or_comm] using hm
      · simpa using hm
    have hx : (x, .find n) ∈ (x, .openOnly) :: post := by
      refine List.mem_cons_of_mem _ ?_
      rw [← mem_actions, hf]
      simpa using hm
    exact (List.singleton_sublist.mpr hy).append (List.singleton_sublist.mpr hx)
  exact ⟨hfind _ (.inl rfl), hfind _ (.inr rfl)⟩

theorem clients_share_map : ∃ st, NodeRun RPCImplementation.RPCLIB mapProcess pathOf .empty
    (mapServer ++ (false, .openOnly) :: mapClient) st ∧
    st.pointer false "a_0".toList = some true ∧ st.pointer false mtx = some true := by
  obtain ⟨st, hr⟩ := mapRun
  have hp : ∀ z, backedFile devShm (mapProcess z).object = some (pathOf (mapProcess z).object) := by
    decide +kernel
  refine ⟨st, hr, clients_share leftover_empty hr mapClient_client (by decide) rfl rfl hp
    (by decide) fun pre post he => ?_⟩
  obtain ⟨rfl, -⟩ := (List.append_cons_inj_of_notMem (by decide) (by decide)).mp he
  decide

lemma kept_of_quiet (hr : NodeRun implementation process path init tr st) {p : CharStruct}
    {pre post : Trace X Text} {e : X × Action Text} (ht : tr = pre ++ e :: post) (he : e.2 = .openOnly)
    (hq : ∀ e ∈ post, (process e.1).is_server = true → path (process e.1).object ≠ p) :
    Kept (fun x => path (process x).object) p (e :: post) := by
  intro z hz hm
  rcases List.mem_cons.mp hm with rfl | hm
  · cases he
  · have hp := hr.planned (ht ▸ List.mem_append_right pre (List.mem_cons_of_mem e hm))
    exact hq _ hm (server_of_mem hp ⟨by simp, by simp⟩) hz

def Settled (process : X → Process) (path : SharedObject → CharStruct) (tr : Trace X Text) (x : X) : Prop :=
  ∀ pre post, tr = pre ++ (x, .openOnly) :: post →
    (∃ y, path (process y).object = path (process x).object ∧ (y, .remove) ∈ pre) ∧
      ∀ e ∈ post, (process e.1).is_server = true →
        path (process e.1).object ≠ path (process x).object

lemma attached_server (hl : Leftover process init)
    (hr : NodeRun implementation process path init tr st) (hx : Client (process x))
    (hd : actions x tr = program implementation (process x)) (hb : Settled process path tr x)
    (hn : st.pointer x (dataName (process x).object) = some y) :
    st.files (path (process x).object) = some y ∧
      dataName (process x).object = dataName (process y).object := by
  have hne := dataName_ne_mtx hx.nul_free
  rw [hr.pointer_iff hl.segment owned (program_client hx.apart hx.here) (by simp [hne]) (by simp) hd] at hn
  obtain ⟨⟨pre, post, ht, hc⟩, hn⟩ := hn
  obtain ⟨⟨z, hz, hm⟩, hq⟩ := hb pre post ht
  have hy : (process y).is_server = true := by
    rcases hc with ⟨A, B, rfl, -⟩ | ⟨-, hk⟩
    · have hm : (y, .createOnly) ∈ tr := by simp [ht]
      exact server_of_mem (hr.planned hm) ⟨by simp, by simp⟩
    · exact absurd hm (hk z hz)
  refine ⟨hr.files_iff.mpr (ht ▸ hc.append (kept_of_quiet hr ht rfl hq)), ?_⟩
  rw [hl.objects y hy, or_iff_right List.not_mem_nil] at hn
  have hm : (y, .construct (dataName (process x).object)) ∈ tr := hn.subset List.mem_cons_self
  have hp := (mem_program_server hy).mp (hr.planned hm)
  simpa [hne] using hp

lemma backedFile_sequence {o o' : SharedObject} (h : o.kind = .global_sequence)
    (h' : o'.kind = .global_sequence) (hn : o.name = o'.name) : backedFile dir o = backedFile dir o' := by
  rw [backedFile, backedFile, h, h', hn]

lemma dataName_sequence {o : SharedObject} (h : o.kind = .global_sequence) (hn : '\x00' ∉ o.name) :
    dataName o = o.name ++ '_' :: decimal o.my_server.toNat := by
  have hd : '\x00' ∉ decimal o.my_server.toNat := not_mem_decimal rfl (by decide) _
  rw [dataName, h]
  exact cStr_eq (by simp [hn, hd])

/-- The servers of one node keep a global sequence in one file, under names of their own. -/
theorem sequence_lost {x₁ x₂ : X} (hl : Leftover process init)
    (hr : NodeRun implementation process path init tr st)
    (hp : ∀ z, backedFile dir (process z).object = some (path (process z).object))
    (hx₁ : Client (process x₁)) (hx₂ : Client (process x₂))
    (hd₁ : actions x₁ tr = program implementation (process x₁))
    (hd₂ : actions x₂ tr = program implementation (process x₂))
    (hk₁ : (process x₁).object.kind = .global_sequence) (hk₂ : (process x₂).object.kind = .global_sequence)
    (hn : (process x₁).object.name = (process x₂).object.name)
    (hs : (process x₁).object.my_server ≠ (process x₂).object.my_server)
    (hb₁ : Settled process path tr x₁) (hb₂ : Settled process path tr x₂) :
    st.pointer x₁ (dataName (process x₁).object) = none ∨
      st.pointer x₂ (dataName (process x₂).object) = none := by
  by_contra hnone
  rw [not_or, ← Ne, ← Ne, Option.ne_none_iff_exists', Option.ne_none_iff_exists'] at hnone
  obtain ⟨⟨w₁, h₁⟩, w₂, h₂⟩ := hnone
  obtain ⟨hf₁, he₁⟩ := attached_server hl hr hx₁ hd₁ hb₁ h₁
  obtain ⟨hf₂, he₂⟩ := attached_server hl hr hx₂ hd₂ hb₂ h₂
  have hpath : path (process x₁).object = path (process x₂).object := by
    have hpq := (hp x₁).symm.trans ((backedFile_sequence hk₁ hk₂ hn).trans (hp x₂))
    exact Option.some.inj hpq
  rw [hpath, hf₂] at hf₁
  obtain rfl := Option.some.inj hf₁
  have hname := he₁.trans he₂.symm
  rw [dataName_sequence hk₁ hx₁.nul_free, dataName_sequence hk₂ hx₂.nul_free, hn,
    List.append_cancel_left_eq, List.cons_inj_right, decimal_injective.eq_iff, Nat.cast_inj,
    UInt16.toNat_inj] at hname
  exact hs hname

def sequenceProcess (x : Fin 4) : Process :=
  ⟨⟨.global_sequence, ['a'], if x.val % 2 = 0 then 0 else 1⟩, x < 2, true⟩

def sequenceServers : Trace (Fin 4) Text :=
  (constructor RPCImplementation.RPCLIB (sequenceProcess 0).object).map (Prod.mk 0) ++
    (constructor RPCImplementation.RPCLIB (sequenceProcess 1).object).map (Prod.mk 1)

def sequenceTrace : Trace (Fin 4) Text :=
  sequenceServers ++ (2, .openOnly) :: (2, .find "a_0".toList) :: (2, .find mtx) ::
    (3, .openOnly) :: [(3, .find "a_1".toList), (3, .find mtx)]

theorem sequence_lost_pair : ∃ st, NodeRun RPCImplementation.RPCLIB sequenceProcess pathOf .empty
    sequenceTrace st ∧ (st.pointer 2 "a_0".toList = none ∨ st.pointer 3 "a_1".toList = none) := by
  have hs : (exec (fun x => pathOf (sequenceProcess x).object) .empty sequenceTrace).isSome := by
    decide +kernel
  obtain ⟨st, hs⟩ := Option.isSome_iff_exists.mp hs
  have hr : NodeRun RPCImplementation.RPCLIB sequenceProcess pathOf .empty sequenceTrace st :=
    ⟨hs, by decide⟩
  have hp (z) : backedFile devShm (sequenceProcess z).object = some (pathOf (sequenceProcess z).object) := by
    revert z
    decide +kernel
  refine ⟨st, hr, sequence_lost leftover_empty hr hp ⟨rfl, rfl, by decide⟩
    ⟨rfl, rfl, by decide⟩ (by decide) (by decide) rfl rfl rfl (by decide) ?_ ?_⟩
  · intro pre post he
    obtain ⟨rfl, -, rfl⟩ := (List.append_cons_inj_of_notMem (by decide) (by decide)).mp he
    exact ⟨⟨0, rfl, by decide⟩, by decide⟩
  · intro pre post he
    have ht : sequenceTrace =
        (sequenceServers ++ [(2, .openOnly), (2, .find "a_0".toList), (2, .find mtx)]) ++
          (3, .openOnly) :: [(3, .find "a_1".toList), (3, .find mtx)] := rfl
    obtain ⟨rfl, -, rfl⟩ := (List.append_cons_inj_of_notMem (by decide) (by decide)).mp (ht.symm.trans he)
    exact ⟨⟨0, by decide +kernel, by decide⟩, by decide⟩

end Runs

end Basket.Attachment
