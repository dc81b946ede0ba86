import Basket.Common.CharBuffer
import Basket.Library.SortedSequence
import Basket.Library.Terminated
import Mathlib.Data.Char

/-! The comparisons of `CharStruct` and its hash. -/

namespace Basket.Common

open Library

namespace Buffer

def strcmp (a b : Buffer) : Option Ordering := Terminated.scan '\x00' a.cells b.cells

def eq (a o : Buffer) : Option Bool := (strcmp a o).map Ordering.isEq

def gt (a o : Buffer) : Option Bool := (strcmp a o).map Ordering.isGT

def ge (a o : Buffer) : Option Bool := (strcmp a o).map Ordering.isGE

def lt (a o : Buffer) : Option Bool := (strcmp a o).map Ordering.isLT

def le (a o : Buffer) : Option Bool := (strcmp a o).map Ordering.isLE

/-- `std::hash<CharStruct>`, with the hash of a `std::string` as a parameter. -/
def hash (stdHash : Text → UInt64) (k : Buffer) : Option UInt64 := (c_str k).map stdHash

end Buffer

namespace Value

def text (v : Value) : Text := v.toCharStruct.text

def Equal (a b : Value) : Prop := Buffer.eq a.buffer b.buffer = some true

def Less (a b : Value) : Prop := Buffer.lt a.buffer b.buffer = some true

variable {a b c d : Value} {stdHash : Text → UInt64}

lemma length_text_lt (v : Value) : v.text.length < 256 := v.toCharStruct.length_lt

lemma exists_of_builds {t : Text} {r : Option Buffer} (h : Buffer.Builds t r) (hl : t.length < 256) :
    ∃ v : Value, r = some v.buffer ∧ v.text = t := by
  obtain ⟨b, hb, ht⟩ := h.1 hl
  obtain ⟨hn, he⟩ := Buffer.c_str_eq_some.mp ht
  exact ⟨⟨b, hn⟩, hb, he⟩

lemma nul_le (c : Char) : '\x00' ≤ c := by
  rw [Char.le_def]
  exact UInt32.zero_le

lemma strcmp_compares (a b : Value) :
    ∃ o, Buffer.strcmp a.buffer b.buffer = some o ∧ o.Compares a.text b.text :=
  Terminated.scan_compares nul_le a.nul b.nul

lemma strcmp_swap (a b : Value) :
    Buffer.strcmp b.buffer a.buffer = (Buffer.strcmp a.buffer b.buffer).map Ordering.swap := by
  obtain ⟨o, hc, ho⟩ := strcmp_compares a b
  obtain ⟨o', hc', ho'⟩ := strcmp_compares b a
  rw [hc, hc', Option.map_some, ho'.inj ho.swap]

lemma less_iff : Less a b ↔ a.text < b.text := by
  obtain ⟨o, hc, ho⟩ := strcmp_compares a b
  rw [Less, Buffer.lt, hc, Option.map_some, Option.some_inj, ← ho.eq_lt]
  cases o <;> decide

lemma equal_iff : Equal a b ↔ a.text = b.text := by
  obtain ⟨o, hc, ho⟩ := strcmp_compares a b
  rw [Equal, Buffer.eq, hc, Option.map_some, Option.some_inj, ← ho.eq_eq]
  cases o <;> decide

lemma strcmp_congr (h : Equal a b) (h' : Equal c d) :
    Buffer.strcmp a.buffer c.buffer = Buffer.strcmp b.buffer d.buffer := by
  obtain ⟨o, hc, ho⟩ := strcmp_compares a c
  obtain ⟨o', hc', ho'⟩ := strcmp_compares b d
  rw [equal_iff.mp h, equal_iff.mp h'] at ho
  rw [hc, hc', ho.inj ho']

lemma gt_eq (a b : Value) : Buffer.gt a.buffer b.buffer = Buffer.lt b.buffer a.buffer := by
  rw [Buffer.gt, Buffer.lt, strcmp_swap a b, Option.map_map]
  congr 1
  funext o
  cases o <;> rfl

lemma ge_eq (a b : Buffer) : Buffer.ge a b = (Buffer.lt a b).map not := by
  rw [Buffer.ge, Buffer.lt, Option.map_map]
  congr 1
  funext o
  cases o <;> rfl

lemma le_eq (a b : Buffer) : Buffer.le a b = (Buffer.gt a b).map not := by
  rw [Buffer.le, Buffer.gt, Option.map_map]
  congr 1
  funext o
  cases o <;> rfl

lemma size_eq (v : Value) : Buffer.size v.buffer = some v.text.length := by
  rw [Buffer.size, v.c_str_buffer]
  rfl

lemma hash_eq (v : Value) : Buffer.hash stdHash v.buffer = some (stdHash v.text) := by
  rw [Buffer.hash, v.c_str_buffer]
  rfl

instance decidableLess : DecidableRel Less := fun a b =>
  inferInstanceAs (Decidable (Buffer.lt a.buffer b.buffer = some true))

lemma incomp_iff : IncompRel Less a b ↔ Equal a b := by
  rw [IncompRel, less_iff, less_iff, equal_iff, not_lt, not_lt]
  exact ⟨fun h => le_antisymm h.2 h.1, fun h => ⟨h.ge, h.le⟩⟩

instance strictWeakLess : IsStrictWeakOrder Value Less where
  irrefl _ h := lt_irrefl _ (less_iff.mp h)
  trans _ _ _ h h' := less_iff.mpr ((less_iff.mp h).trans (less_iff.mp h'))
  incomp_trans _ _ _ h h' :=
    incomp_iff.mpr (equal_iff.mpr ((equal_iff.mp (incomp_iff.mp h)).trans
      (equal_iff.mp (incomp_iff.mp h'))))

end Value

end Basket.Common
