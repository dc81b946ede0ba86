import Basket.CharKey
import Basket.Library.Msgpack

/-! `CharStruct` as an argument of a call: packed on one side and converted on the other. -/

namespace Basket.Wire

open Library Common Value CharKey

variable {Stream : Type} (m : Msgpack Stream)

/-- The first `n` characters behind the pointer that `c_str()` gives. -/
def read (n : ℕ) (value : Buffer) : Option Text := if n ≤ 256 then some (value.cells.take n) else none

def convert (o : StrObject) (temporary input : Buffer) : Option Buffer := Buffer.convert o.ptr temporary input

def pack (o : Stream) (input : Buffer) : Option Stream := do
  let size ← m.checked_get_container_size (← Buffer.size input)
  let ptr ← read size.toNat input
  return m.pack_str_body ptr (m.pack_str size o)

/-- `zone n` is what the memory holds that `allocate_align` returns for `n` characters. -/
def objectWithZone (zone : (n : ℕ) → CheckedArray Char n) (input : Buffer) : Option StrObject := do
  let size ← m.checked_get_container_size (← Buffer.size input)
  let ptr ← (zone size.toNat).writeFrom 0 (← read (← Buffer.size input) input)
  return ⟨size, ptr.cells, ptr.length_eq⟩

def object (c : Value) : StrObject where
  size := UInt32.ofNat c.text.length
  ptr := c.text
  length_eq := by rw [UInt32.toNat_ofNat_of_lt' (lt_trans c.length_text_lt (by decide))]

variable {m} {c : Value} {s : Stream} {zone : (n : ℕ) → CheckedArray Char n}

lemma read_text (c : Value) : read c.text.length c.buffer = some c.text := by
  have hp : c.text <+: c.buffer.cells := List.takeWhile_prefix _
  rw [read, if_pos c.length_text_lt.le, ← List.prefix_iff_eq_take.mp hp]

lemma checked (hm : m.Transmits) (c : Value) :
    m.checked_get_container_size c.text.length = some (object c).size :=
  hm.checked _ (lt_trans c.length_text_lt (by decide))

lemma pack_eq (hm : m.Transmits) (c : Value) (s : Stream) :
    pack m s c.buffer = some (m.packStr (object c) s) := by
  have hr : read (object c).size.toNat c.buffer = some c.text := by
    rw [← (object c).length_eq]
    exact read_text c
  simp only [pack, size_eq, checked hm, hr, Option.bind_eq_bind, Option.bind_some]
  rfl

lemma objectWithZone_eq (hm : m.Transmits) (c : Value) :
    objectWithZone m zone c.buffer = some (object c) := by
  have hl : c.text.length = (object c).size.toNat := (object c).length_eq
  have hw : (zone (object c).size.toNat).writeFrom 0 c.text = some ⟨c.text, hl⟩ := by
    rw [CheckedArray.writeFrom_eq_some (Nat.zero_le _), zero_add]
    have hd := List.drop_of_length_le ((zone (object c).size.toNat).length_eq.trans hl.symm).le
    exact ⟨hl.le, by rw [hd, List.take_zero, List.nil_append, List.append_nil]⟩
  simp only [objectWithZone, size_eq, checked hm, read_text, Option.bind_eq_bind, Option.bind_some, hw]
  rfl

lemma size_eq_none {value : Buffer} (h : '\x00' ∉ value.cells) : Buffer.size value = none := by
  rw [Buffer.size, Buffer.c_str, if_neg h]
  rfl

lemma convert_eq {o : StrObject} (h : (cStr o.ptr).length < 256) (temporary input : Buffer) :
    ∃ v : Value, convert o temporary input = some v.buffer ∧ v.text = cStr o.ptr :=
  exists_of_builds Buffer.builds_convert h

lemma object_eq {o : StrObject} (h : c.text = o.ptr) : object c = o := by
  cases o with
  | mk size ptr hl =>
    subst h
    rw [object, StrObject.mk.injEq]
    exact ⟨by rw [hl, UInt32.ofNat_toNat], rfl⟩

theorem survives_wire (m : Msgpack Stream) (hm : m.Transmits) (stdHash : Text → UInt64) :
    (∀ (c : Value) (temporary input : Buffer), ∃ (o : StrObject) (b : Value) (hash : UInt64),
      (pack m m.empty c.buffer).bind m.unpack = some o ∧ convert o temporary input = some b.buffer ∧
      Equal b c ∧ Buffer.hash stdHash b.buffer = some hash ∧ Buffer.hash stdHash c.buffer = some hash ∧
      ∀ n ≥ 1, OneHome stdHash b c n) ∧
    (∀ (c : Buffer) (zone : (n : ℕ) → CheckedArray Char n) (s : Stream),
      pack m s c = (objectWithZone m zone c).map (m.packStr · s)) ∧
    ∀ (o : StrObject) (temporary input : Buffer) (s : Stream), o.size.toNat ≤ 255 → '\x00' ∉ o.ptr →
      (convert o temporary input).bind (pack m s) = some (m.packStr o s) := by
  refine ⟨fun c temporary input => ?_, fun c zone s => ?_, fun o temporary input s hs hn => ?_⟩
  · have ht : cStr c.text = c.text := cStr_eq (cStr_nul_free c.buffer.cells)
    obtain ⟨b, hb, hc⟩ := @convert_eq (object c) (ht ▸ c.length_text_lt) temporary input
    have he : Equal b c := equal_iff.mpr (hc.trans ht)
    refine ⟨object c, b, stdHash c.text, ?_, hb, he, ?_, hash_eq c, fun n _ => oneHome he n⟩
    · rw [pack_eq hm, Option.bind_some, hm.unpack]
    · rw [hash_eq, equal_iff.mp he]
  · by_cases hn : '\x00' ∈ c.cells
    · have hp := pack_eq hm ⟨c, hn⟩ s
      have ho := @objectWithZone_eq _ _ zone hm ⟨c, hn⟩
      rw [hp, ho, Option.map_some]
    · rw [pack, objectWithZone, size_eq_none hn]
      rfl
  · have hl : (cStr o.ptr).length < 256 := by
      rw [cStr_eq hn, o.length_eq]
      omega
    obtain ⟨v, hv, ht⟩ := convert_eq hl temporary input
    rw [hv, Option.bind_some, pack_eq hm, object_eq (ht.trans (cStr_eq hn))]

theorem survives_wire_a : (convert ⟨1, ['a'], rfl⟩ Command.blank.buffer Command.blank.buffer).bind
    (pack Msgpack.bytes []) = some [0xa1, 97] :=
  (survives_wire Msgpack.bytes Msgpack.bytes_transmits fun _ => 0).2.2 ⟨1, ['a'], rfl⟩
    Command.blank.buffer Command.blank.buffer [] (by decide) (by decide)

end Basket.Wire
