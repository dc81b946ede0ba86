import Basket.Common.ConfigurationManager

/-! The files that the objects of one node keep their data in. -/

namespace Basket.BackedFile

open Common

structure SharedObject where
  kind : Kind
  name : Text
  my_server : UInt16
  deriving DecidableEq

/-- The initialiser of `backed_file` in the containers. -/
def containerFile (BACKED_FILE_DIR : CharStruct) (name : Text) (my_server : UInt16) : Option CharStruct :=
  BACKED_FILE_DIR.concat [['/'], name, ['_'], decimal my_server.toNat]

/-- The initialiser of `backed_file` in `global_sequence` and `global_clock`. -/
def sequencerFile (BACKED_FILE_DIR : CharStruct) (name : Text) : Option CharStruct :=
  BACKED_FILE_DIR.concat [['/'], name]

def backedFile (BACKED_FILE_DIR : CharStruct) (o : SharedObject) : Option CharStruct :=
  match o.kind with
  | .global_sequence => sequencerFile BACKED_FILE_DIR o.name
  | .global_clock => sequencerFile BACKED_FILE_DIR o.name
  | _ => containerFile BACKED_FILE_DIR o.name o.my_server

abbrev FileSystem := CharStruct → Option SharedObject

inductive Event
  | construct (o : SharedObject)
  | destruct (o : SharedObject)

def Event.object : Event → SharedObject
  | construct o => o
  | destruct o => o

/-- A constructor removes the file and creates it again, a destructor removes it. -/
def Event.apply (path : SharedObject → CharStruct) (fs : FileSystem) : Event → FileSystem
  | construct o => Function.update (Function.update fs (path o) none) (path o) (some o)
  | destruct o => Function.update fs (path o) none

def run (path : SharedObject → CharStruct) (events : List Event) (fs : FileSystem) : FileSystem :=
  events.foldl (Event.apply path) fs

def Different (a b : SharedObject) : Prop := a.name ≠ b.name ∨ a.my_server ≠ b.my_server

instance decidableDifferent (a b : SharedObject) : Decidable (Different a b) := instDecidableOr

def Isolated (path : SharedObject → CharStruct) (objects : List SharedObject) : Prop :=
  ∀ b ∈ objects, ∀ events : List Event, (∀ e ∈ events, e.object ∈ objects ∧ Different e.object b) →
    ∀ fs, run path events fs (path b) = fs (path b)

def IsContainer (o : SharedObject) : Prop := o.kind ≠ .global_sequence ∧ o.kind ≠ .global_clock

instance decidableIsContainer (o : SharedObject) : Decidable (IsContainer o) := instDecidableAnd

/-- The name of the file, without the server for `global_sequence` and `global_clock`. -/
def Separate (a b : SharedObject) : Prop :=
  if IsContainer a then
    if IsContainer b then cStr a.name ≠ cStr b.name ∨ a.my_server ≠ b.my_server
    else cStr b.name ≠ cStr a.name ++ '_' :: decimal a.my_server.toNat
  else if IsContainer b then cStr a.name ≠ cStr b.name ++ '_' :: decimal b.my_server.toNat
  else cStr a.name ≠ cStr b.name

instance decidableSeparate (a b : SharedObject) : Decidable (Separate a b) :=
  inferInstanceAs (Decidable (ite _ (ite _ _ _) (ite _ _ _)))

variable {dir : CharStruct} {path : SharedObject → CharStruct} {objects : List SharedObject}
variable {a b o : SharedObject} {p q : CharStruct}

lemma backedFile_container (ho : IsContainer o) (h : backedFile dir o = some p) :
    p.text = dir.text ++ '/' :: (cStr o.name ++ '_' :: decimal o.my_server.toNat) := by
  have hc : containerFile dir o.name o.my_server = some p := by
    rw [← h, backedFile]
    split
    · next hk => exact absurd hk ho.1
    · next hk => exact absurd hk ho.2
    · rfl
  have hs : cStr ['/'] = ['/'] := rfl
  have hu : cStr ['_'] = ['_'] := rfl
  rw [CharStruct.concat_eq_some.mp hc]
  simp [hs, hu, cStr_decimal]

lemma backedFile_sequencer (ho : ¬IsContainer o) (h : backedFile dir o = some p) :
    p.text = dir.text ++ '/' :: cStr o.name := by
  have hc : sequencerFile dir o.name = some p := by
    rw [← h, backedFile]
    split
    · rfl
    · rfl
    · next hs hk => exact absurd ⟨hs, hk⟩ ho
  have hs : cStr ['/'] = ['/'] := rfl
  rw [CharStruct.concat_eq_some.mp hc]
  simp [hs]

lemma backedFile_ne_iff (ha : backedFile dir a = some p) (hb : backedFile dir b = some q) :
    p ≠ q ↔ Separate a b := by
  have hd (i : UInt16) : '_' ∉ decimal i.toNat := not_mem_decimal rfl (by decide) _
  rw [Separate, Ne, CharStruct.ext_iff]
  by_cases ca : IsContainer a <;> by_cases cb : IsContainer b
  · rw [if_pos ca, if_pos cb, backedFile_container ca ha, backedFile_container cb hb,
      List.append_cancel_left_eq, List.cons_inj_right, append_cons_inj (hd _) (hd _),
      decimal_injective.eq_iff, Nat.cast_inj, UInt16.toNat_inj, not_and_or]
  · rw [if_pos ca, if_neg cb, backedFile_container ca ha, backedFile_sequencer cb hb,
      List.append_cancel_left_eq, List.cons_inj_right, eq_comm]
  · rw [if_neg ca, if_pos cb, backedFile_sequencer ca ha, backedFile_container cb hb,
      List.append_cancel_left_eq, List.cons_inj_right]
  · rw [if_neg ca, if_neg cb, backedFile_sequencer ca ha, backedFile_sequencer cb hb,
      List.append_cancel_left_eq, List.cons_inj_right]

lemma apply_other {e : Event} {fs : FileSystem} (h : path e.object ≠ path b) :
    e.apply path fs (path b) = fs (path b) := by
  cases e with
  | construct o =>
    have hn : path b ≠ path o := h.symm
    rw [Event.apply, Function.update_of_ne hn, Function.update_of_ne hn]
  | destruct o =>
    have hn : path b ≠ path o := h.symm
    rw [Event.apply, Function.update_of_ne hn]

lemma run_other {events : List Event} (h : ∀ e ∈ events, path e.object ≠ path b) (fs : FileSystem) :
    run path events fs (path b) = fs (path b) := by
  induction events generalizing fs with
  | nil => rfl
  | cons e events ih =>
    rw [run, List.foldl_cons]
    exact (ih (fun e he => h e (by simp [he])) _).trans (apply_other (h e (by simp)))

theorem files_distinct_iff (hp : ∀ o ∈ objects, backedFile dir o = some (path o)) :
    ((∀ a ∈ objects, ∀ b ∈ objects, Different a b → path a ≠ path b) ∧ Isolated path objects) ↔
      ∀ a ∈ objects, ∀ b ∈ objects, Different a b → Separate a b := by
  have hs : (∀ a ∈ objects, ∀ b ∈ objects, Different a b → path a ≠ path b) ↔
      ∀ a ∈ objects, ∀ b ∈ objects, Different a b → Separate a b :=
    forall₂_congr fun a ha => forall₂_congr fun b hb =>
      imp_congr_right fun _ => backedFile_ne_iff (hp a ha) (hp b hb)
  rw [← hs]
  refine ⟨And.left, fun h => ⟨h, ?_⟩⟩
  intro b hb events he fs
  exact run_other (fun e hm => h _ (he e hm).1 b hb (he e hm).2) fs

def devShm : CharStruct := (ConfigurationManager.initial RPCImplementation.RPCLIB 0).BACKED_FILE_DIR

def pathOf (o : SharedObject) : CharStruct := (backedFile devShm o).getD devShm

def node : List SharedObject :=
  [⟨.map, ['a'], 0⟩, ⟨.map, ['a'], 1⟩, ⟨.queue, ['a', '_', '1'], 1⟩, ⟨.global_clock, ['a'], 0⟩]

theorem files_distinct_node : (∀ a ∈ node, ∀ b ∈ node, Different a b → pathOf a ≠ pathOf b) ∧
    Isolated pathOf node := by
  have hp : ∀ o ∈ node, backedFile devShm o = some (pathOf o) := by decide +kernel
  exact (files_distinct_iff hp).mpr (by decide +kernel)

theorem sequences_share : ¬∀ (dir : CharStruct) (path : SharedObject → CharStruct)
    (objects : List SharedObject), (∀ o ∈ objects, backedFile dir o = some (path o)) →
    ∀ a ∈ objects, ∀ b ∈ objects, Different a b → path a ≠ path b := by
  intro h
  have hh := h devShm pathOf [⟨.global_sequence, ['a'], 0⟩, ⟨.global_sequence, ['a'], 1⟩]
    (by decide +kernel) ⟨.global_sequence, ['a'], 0⟩ (by simp) ⟨.global_sequence, ['a'], 1⟩ (by simp)
    (.inr (by decide))
  exact hh (by decide +kernel)

end Basket.BackedFile
