import Basket.Common.CharStruct
import Basket.Library.CheckedArray

/-! The 256 characters behind a `CharStruct`, and what each operation writes into them. -/

namespace Basket.Common

open Library

abbrev Buffer := CheckedArray Char 256

namespace Buffer

def snprintf (size : ℕ) (data : Text) (value : Buffer) : Option Buffer :=
  if size = 0 then some value else value.writeFrom 0 ((cStr data).take (size - 1) ++ ['\x00'])

def strcpy (data : Text) (value : Buffer) : Option Buffer := value.writeFrom 0 (cStr data ++ ['\x00'])

/-- Without a NUL a reader leaves the buffer. -/
def c_str (value : Buffer) : Option Text := if '\x00' ∈ value.cells then some (cStr value.cells) else none

def string (value : Buffer) : Option Text := c_str value

def size (value : Buffer) : Option ℕ := (c_str value).map List.length

section Operations

/-- `CharStruct(const char*)`; `value` is what the memory of the new object holds. -/
def ofCString (data : Text) (value : Buffer) : Option Buffer := snprintf ((cStr data).length + 1) data value

/-- `CharStruct(std::string)` -/
def ofString (data : Text) (value : Buffer) : Option Buffer := ofCString (cStr data) value

/-- `CharStruct(char*, size_t)` -/
def ofChars (data : Text) (size : ℕ) (value : Buffer) : Option Buffer := snprintf size data value

/-- `Set(std::string)` -/
def set (data : Text) (value : Buffer) : Option Buffer := snprintf (data.length + 1) data value

def copy (other value : Buffer) : Option Buffer := do
  ofCString (← c_str other) value

def move (other value : Buffer) : Option Buffer := do
  ofCString (← c_str other) value

def assign (other value : Buffer) : Option Buffer := do
  strcpy (← c_str other) value

def plus (a o value : Buffer) : Option Buffer := do
  ofString ((← c_str a) ++ (← c_str o)) value

def plusString (a : Buffer) (o : Text) (value : Buffer) : Option Buffer := do
  ofString ((← c_str a) ++ o) value

def plusAssign (rhs value : Buffer) : Option Buffer := do
  set ((← c_str value) ++ (← c_str rhs)) value

/-- `input = CharStruct(v)`, with `temporary` the memory of the object on the right. -/
def convert (v : Text) (temporary input : Buffer) : Option Buffer := do
  assign (← ofString v temporary) input

end Operations

section Specs

variable {data t u : Text} {size : ℕ} {value other a b : Buffer}

lemma c_str_eq_some : c_str b = some t ↔ '\x00' ∈ b.cells ∧ cStr b.cells = t := by
  rw [c_str]
  split_ifs with h <;> simp [h]

lemma nul_free_of_c_str (h : c_str b = some t) : '\x00' ∉ t :=
  (c_str_eq_some.mp h).2 ▸ cStr_nul_free b.cells

lemma length_cStr_lt_iff : (cStr b.cells).length < 256 ↔ '\x00' ∈ b.cells := by
  constructor
  · intro hl
    by_contra hn
    rw [cStr_eq hn, b.length_eq] at hl
    exact lt_irrefl 256 hl
  · intro hm
    have hp : cStr b.cells <+: b.cells := List.takeWhile_prefix _
    have hl := hp.length_le
    rw [b.length_eq] at hl
    refine lt_of_le_of_ne hl fun he => cStr_nul_free b.cells ?_
    rw [hp.eq_of_length (he.trans b.length_eq.symm)]
    exact hm

/-- The text arrives when it fits; otherwise a write fails, or no NUL is left. -/
def Builds (t : Text) (r : Option Buffer) : Prop :=
  (t.length < 256 → ∃ b, r = some b ∧ c_str b = some t) ∧
    (¬t.length < 256 → ∀ b, r = some b → c_str b = none)

lemma builds_writeFrom (ht : '\x00' ∉ t) (value : Buffer) :
    Builds t (value.writeFrom 0 (t ++ ['\x00'])) := by
  have hw {b : Buffer} : value.writeFrom 0 (t ++ ['\x00']) = some b ↔
      t.length + 1 ≤ 256 ∧ b.cells = t ++ '\x00' :: value.cells.drop (t.length + 1) := by
    rw [CheckedArray.writeFrom_eq_some (Nat.zero_le 256)]
    simp
  constructor
  · intro hl
    have hd : (t ++ '\x00' :: value.cells.drop (t.length + 1)).length = 256 := by
      rw [List.length_append, List.length_cons, List.length_drop, value.length_eq]
      omega
    refine ⟨⟨_, hd⟩, hw.mpr ⟨hl, rfl⟩, c_str_eq_some.mpr ⟨by simp, ?_⟩⟩
    rw [cStr_append ht]
    simp [cStr]
  · intro hl b hb
    exact absurd (hw.mp hb).1 hl

lemma builds_ofCString (data : Text) (value : Buffer) : Builds (cStr data) (ofCString data value) := by
  rw [ofCString, snprintf, if_neg (Nat.succ_ne_zero _), Nat.add_sub_cancel, List.take_length]
  exact builds_writeFrom (cStr_nul_free data) value

lemma builds_ofString (data : Text) (value : Buffer) : Builds (cStr data) (ofString data value) := by
  have hb := builds_ofCString (cStr data) value
  rwa [cStr_eq (cStr_nul_free data)] at hb

lemma builds_ofChars : Builds (if size = 0 then cStr value.cells else (cStr data).take (size - 1))
    (ofChars data size value) := by
  rw [ofChars, snprintf]
  split_ifs with hs
  · rw [Builds, length_cStr_lt_iff]
    refine ⟨fun hm => ⟨value, rfl, c_str_eq_some.mpr ⟨hm, rfl⟩⟩, fun hn b hb => ?_⟩
    obtain rfl := Option.some.inj hb
    exact if_neg hn
  · exact builds_writeFrom (fun hm => cStr_nul_free data (List.mem_of_mem_take hm)) value

lemma builds_set (data : Text) (value : Buffer) : Builds (cStr data) (set data value) := by
  have hl : (cStr data).length ≤ data.length := (List.takeWhile_prefix _).length_le
  rw [set, snprintf, if_neg (Nat.succ_ne_zero _), Nat.add_sub_cancel, List.take_of_length_le hl]
  exact builds_writeFrom (cStr_nul_free data) value

lemma builds_copy (h : c_str other = some t) : Builds t (copy other value) := by
  have hb := builds_ofCString t value
  rw [cStr_eq (nul_free_of_c_str h)] at hb
  rw [copy, h]
  exact hb

lemma builds_assign (h : c_str other = some t) : Builds t (assign other value) := by
  have hb := builds_writeFrom (nul_free_of_c_str h) value
  rw [assign, h, Option.bind_eq_bind, Option.bind_some, strcpy, cStr_eq (nul_free_of_c_str h)]
  exact hb

lemma cStr_append_c_str (h : c_str a = some t) (h' : c_str b = some u) : cStr (t ++ u) = t ++ u := by
  rw [cStr_append (nul_free_of_c_str h), cStr_eq (nul_free_of_c_str h')]

lemma builds_plus (h : c_str a = some t) (h' : c_str b = some u) : Builds (t ++ u) (plus a b value) := by
  have hb := builds_ofString (t ++ u) value
  rw [cStr_append_c_str h h'] at hb
  rw [plus, h, h']
  exact hb

lemma builds_plusString (h : c_str a = some t) : Builds (t ++ cStr data) (plusString a data value) := by
  have hb := builds_ofString (t ++ data) value
  rw [cStr_append (nul_free_of_c_str h)] at hb
  rw [plusString, h]
  exact hb

lemma builds_plusAssign (h : c_str a = some t) (h' : c_str b = some u) :
    Builds (t ++ u) (plusAssign b a) := by
  have hb := builds_set (t ++ u) a
  rw [cStr_append_c_str h h'] at hb
  rw [plusAssign, h, h']
  exact hb

lemma builds_convert : Builds (cStr data) (convert data a value) := by
  obtain ⟨hf, hn⟩ := builds_ofString data a
  rw [convert]
  constructor
  · intro hl
    obtain ⟨b, hb, ht⟩ := hf hl
    rw [hb]
    exact (builds_assign ht).1 hl
  · intro hl b hb
    obtain ⟨c, hc, ha⟩ := Option.bind_eq_some_iff.mp hb
    rw [assign, hn hl c hc] at ha
    cases ha

lemma Builds.length_lt {r : Option Buffer} (h : Builds t r) (hb : r = some b) (hn : '\x00' ∈ b.cells) :
    t.length < 256 := by
  by_contra hl
  have hc := c_str_eq_some.mpr ⟨hn, rfl⟩
  rw [h.2 hl b hb] at hc
  cases hc

lemma Builds.bind_c_str {r : Option Buffer} (h : Builds t r) :
    r.bind c_str = if t.length < 256 then some t else none := by
  split_ifs with hl
  · obtain ⟨b, hb, ht⟩ := h.1 hl
    rw [hb, Option.bind_some, ht]
  · cases hr : r with
    | none => rfl
    | some b => exact h.2 hl b hr

theorem ofString_refines (data : Text) (value : Buffer) :
    (ofString data value).bind c_str = (CharStruct.ofText? data).map CharStruct.text := by
  rw [(builds_ofString data value).bind_c_str, CharStruct.ofText?]
  split_ifs <;> rfl

theorem plusString_refines {c : CharStruct} (h : c_str a = some c.text) (data : Text) (value : Buffer) :
    (plusString a data value).bind c_str = (c.append data).map CharStruct.text := by
  have hb := ofString_refines (c.text ++ data) value
  rw [plusString, h]
  exact hb

end Specs

end Buffer

structure Value where
  buffer : Buffer
  nul : '\x00' ∈ buffer.cells

def Value.toCharStruct (v : Value) : CharStruct :=
  ⟨cStr v.buffer.cells, cStr_nul_free v.buffer.cells, Buffer.length_cStr_lt_iff.mpr v.nul⟩

lemma Value.c_str_buffer (v : Value) : Buffer.c_str v.buffer = some v.toCharStruct.text :=
  Buffer.c_str_eq_some.mpr ⟨v.nul, rfl⟩

/-- An operation on the variables, with the memory of each object that it creates. -/
inductive Command (Var : Type*)
  | ofCString (x : Var) (data : Text) (value : Buffer)
  | ofString (x : Var) (data : Text) (value : Buffer)
  | ofChars (x : Var) (data : Text) (size : ℕ) (value : Buffer)
  | copy (x other : Var) (value : Buffer)
  | move (x other : Var) (value : Buffer)
  | assign (x other : Var)
  | plus (x a o : Var) (value : Buffer)
  | plusString (x a : Var) (o : Text) (value : Buffer)
  | plusAssign (x rhs : Var)
  | convert (x : Var) (v : Text) (temporary input : Buffer)

namespace Command

variable {Var : Type*} (st : Var → Value) (texts : Var → Text)

def target : Command Var → Var
  | ofCString x _ _ => x
  | ofString x _ _ => x
  | ofChars x _ _ _ => x
  | copy x _ _ => x
  | move x _ _ => x
  | assign x _ => x
  | plus x _ _ _ => x
  | plusString x _ _ _ => x
  | plusAssign x _ => x
  | convert x _ _ _ => x

def result : Command Var → Option Buffer
  | ofCString _ data value => Buffer.ofCString data value
  | ofString _ data value => Buffer.ofString data value
  | ofChars _ data size value => Buffer.ofChars data size value
  | copy _ other value => Buffer.copy (st other).buffer value
  | move _ other value => Buffer.move (st other).buffer value
  | assign x other => Buffer.assign (st other).buffer (st x).buffer
  | plus _ a o value => Buffer.plus (st a).buffer (st o).buffer value
  | plusString _ a o value => Buffer.plusString (st a).buffer o value
  | plusAssign x rhs => Buffer.plusAssign (st rhs).buffer (st x).buffer
  | convert _ v temporary input => Buffer.convert v temporary input

/-- The text that the operation stands for, were there no end to the buffer. -/
def text : Command Var → Text
  | ofCString _ data _ => cStr data
  | ofString _ data _ => cStr data
  | ofChars _ data size value => if size = 0 then cStr value.cells else (cStr data).take (size - 1)
  | copy _ other _ => texts other
  | move _ other _ => texts other
  | assign _ other => texts other
  | plus _ a o _ => texts a ++ texts o
  | plusString _ a o _ => texts a ++ cStr o
  | plusAssign x rhs => texts x ++ texts rhs
  | convert _ v _ _ => cStr v

variable {st}

lemma builds_result (c : Command Var) :
    Buffer.Builds (c.text fun x => (st x).toCharStruct.text) (c.result st) := by
  cases c with
  | ofCString x data value => exact Buffer.builds_ofCString data value
  | ofString x data value => exact Buffer.builds_ofString data value
  | ofChars x data size value => exact Buffer.builds_ofChars
  | copy x other value => exact Buffer.builds_copy (st other).c_str_buffer
  | move x other value => exact Buffer.builds_copy (st other).c_str_buffer
  | assign x other => exact Buffer.builds_assign (st other).c_str_buffer
  | plus x a o value => exact Buffer.builds_plus (st a).c_str_buffer (st o).c_str_buffer
  | plusString x a o value => exact Buffer.builds_plusString (st a).c_str_buffer
  | plusAssign x rhs => exact Buffer.builds_plusAssign (st x).c_str_buffer (st rhs).c_str_buffer
  | convert x v temporary input => exact Buffer.builds_convert

variable [DecidableEq Var]

def InBuffer : List (Command Var) → (Var → Value) → Prop
  | [], _ => True
  | c :: cs, st => ∃ b, c.result st = some b ∧
      ∃ h : '\x00' ∈ b.cells, InBuffer cs (Function.update st c.target ⟨b, h⟩)

def built : List (Command Var) → (Var → Text) → List Text
  | [], _ => []
  | c :: cs, texts => c.text texts :: built cs (Function.update texts c.target (c.text texts))

lemma texts_update (c : Command Var) (v : Value)
    (h : v.toCharStruct.text = c.text fun x => (st x).toCharStruct.text) :
    (fun x => (Function.update st c.target v x).toCharStruct.text) =
      Function.update (fun x => (st x).toCharStruct.text) c.target
        (c.text fun x => (st x).toCharStruct.text) := by
  funext x
  rcases eq_or_ne x c.target with rfl | hx
  · rw [Function.update_self, Function.update_self, h]
  · rw [Function.update_of_ne hx, Function.update_of_ne hx]

theorem in_buffer_iff (program : List (Command Var)) (st : Var → Value) : InBuffer program st ↔
    ∀ t ∈ built program (fun x => (st x).toCharStruct.text), t.length < 256 := by
  induction program generalizing st with
  | nil => exact iff_of_true trivial (List.forall_mem_nil _)
  | cons c cs ih =>
    rw [built, List.forall_mem_cons]
    constructor
    · rintro ⟨b, hb, h, hs⟩
      have hl := c.builds_result.length_lt hb h
      obtain ⟨b', hb', ht⟩ := c.builds_result.1 hl
      obtain rfl := Option.some.inj (hb.symm.trans hb')
      rw [ih, texts_update c ⟨b, h⟩ (Buffer.c_str_eq_some.mp ht).2] at hs
      exact ⟨hl, hs⟩
    · rintro ⟨hl, hs⟩
      obtain ⟨b, hb, ht⟩ := c.builds_result.1 hl
      obtain ⟨h, he⟩ := Buffer.c_str_eq_some.mp ht
      refine ⟨b, hb, h, ?_⟩
      rw [ih, texts_update c ⟨b, h⟩ he]
      exact hs

def blank : Value where
  buffer := ⟨List.replicate 256 '\x00', List.length_replicate⟩
  nul := List.mem_replicate.mpr ⟨Nat.succ_ne_zero 255, rfl⟩

theorem not_in_buffer :
    ¬∀ (program : List (Command Unit)) (st : Unit → Value), InBuffer program st := by
  intro h
  obtain ⟨b, hb, hm, -⟩ := h [ofCString () (List.replicate 256 'a') blank.buffer] fun _ => blank
  have ha : '\x00' ∉ List.replicate 256 'a' := fun ha =>
    absurd (List.eq_of_mem_replicate ha) (by decide)
  have hl := (Buffer.builds_ofCString (List.replicate 256 'a') blank.buffer).length_lt hb hm
  rw [cStr_eq ha, List.length_replicate] at hl
  exact lt_irrefl 256 hl

end Command

end Basket.Common
