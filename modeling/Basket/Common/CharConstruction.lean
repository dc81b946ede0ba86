import Basket.Common.CharBuffer

/-! The ways in which a `CharStruct` is built from a text. -/

namespace Basket.Common

open Buffer

inductive Way
  | ofCString
  | ofString
  | ofChars
  | plus
  | plusAssign
  deriving DecidableEq

/-- `left` and `right` are the memory of the operands. -/
def Way.build (u v : Text) (left right value : Buffer) : Way → Option Buffer
  | ofCString => Buffer.ofCString (u ++ v) value
  | ofString => Buffer.ofString (u ++ v) value
  | ofChars => Buffer.ofChars (u ++ v) (u ++ v).length value
  | plus => do Buffer.plus (← Buffer.ofCString u left) (← Buffer.ofCString v right) value
  | plusAssign => do Buffer.plusAssign (← Buffer.ofCString v right) (← Buffer.ofCString u left)

structure Holds (t : Text) (r : Option Buffer) : Prop where
  string : r.bind Buffer.string = some t
  size : r.bind Buffer.size = some t.length

variable {s t u v data : Text} {left right value : Buffer} {r : Option Buffer} {w : Way}

lemma holds_iff : Holds t r ↔ r.bind c_str = some t := by
  refine ⟨Holds.string, fun h => ⟨h, ?_⟩⟩
  obtain ⟨b, rfl, hb⟩ := Option.bind_eq_some_iff.mp h
  rw [Option.bind_some, Buffer.size, hb, Option.map_some]

lemma Buffer.Builds.holds_iff (h : Builds s r) : Holds t r ↔ s.length < 256 ∧ s = t := by
  rw [Common.holds_iff, h.bind_c_str]
  split_ifs with hl <;> simp [hl]

lemma Buffer.Builds.holds (h : Builds s r) (hl : s.length < 256) : Holds s r := h.holds_iff.mpr ⟨hl, rfl⟩

lemma cStr_eq_nil_iff : cStr value.cells = [] ↔ value.cells.head? = some '\x00' := by
  have hl := value.length_eq
  cases hc : value.cells with
  | nil => simp [hc] at hl
  | cons c cells => by_cases h : c = '\x00' <;> simp [cStr, h]

lemma holds_ofChars_nil : Holds [] (Buffer.ofChars [] 0 value) ↔ value.cells.head? = some '\x00' := by
  have hb := @builds_ofChars [] 0 value
  rw [if_pos rfl] at hb
  rw [hb.holds_iff, ← cStr_eq_nil_iff]
  refine and_iff_right_of_imp fun h => ?_
  rw [h]
  decide

/-- One character is lost, since the size that `snprintf` takes counts the NUL. -/
lemma not_holds_ofChars (hn : '\x00' ∉ t) (ht : t ≠ []) :
    ¬Holds t (Buffer.ofChars t t.length value) := by
  have hp := List.length_pos_iff.mpr ht
  have hb := @builds_ofChars t t.length value
  rw [if_neg hp.ne', cStr_eq hn] at hb
  rw [hb.holds_iff]
  rintro ⟨-, he⟩
  have hl := congrArg List.length he
  rw [List.length_take] at hl
  omega

lemma holds_ofChars (hn : '\x00' ∉ t) :
    Holds t (Buffer.ofChars t t.length value) ↔ t = [] ∧ value.cells.head? = some '\x00' := by
  by_cases ht : t = []
  · subst ht
    exact holds_ofChars_nil.trans (and_iff_right rfl).symm
  · exact iff_of_false (not_holds_ofChars hn ht) fun h => ht h.1

lemma operands (hn : '\x00' ∉ u ++ v) (hl : (u ++ v).length < 256) (left right : Buffer) :
    ∃ a b, Buffer.ofCString u left = some a ∧ c_str a = some u ∧
      Buffer.ofCString v right = some b ∧ c_str b = some v := by
  rw [List.mem_append, not_or] at hn
  rw [List.length_append] at hl
  have hu := builds_ofCString u left
  have hv := builds_ofCString v right
  rw [cStr_eq hn.1] at hu
  rw [cStr_eq hn.2] at hv
  obtain ⟨a, ha, hta⟩ := hu.1 (by omega)
  obtain ⟨b, hb, htb⟩ := hv.1 (by omega)
  exact ⟨a, b, ha, hta, hb, htb⟩

lemma holds_of_ne (hn : '\x00' ∉ u ++ v) (hl : (u ++ v).length < 256) (hw : w ≠ .ofChars) :
    Holds (u ++ v) (w.build u v left right value) := by
  obtain ⟨a, b, ha, hta, hb, htb⟩ := operands hn hl left right
  cases w with
  | ofCString =>
    have h := builds_ofCString (u ++ v) value
    rw [cStr_eq hn] at h
    exact h.holds hl
  | ofString =>
    have h := builds_ofString (u ++ v) value
    rw [cStr_eq hn] at h
    exact h.holds hl
  | ofChars => exact absurd rfl hw
  | plus =>
    rw [Way.build, ha, hb]
    exact (builds_plus hta htb).holds hl
  | plusAssign =>
    rw [Way.build, ha, hb]
    exact (builds_plusAssign hta htb).holds hl

theorem ways_agree_iff (hn : '\x00' ∉ u ++ v) (hl : (u ++ v).length ≤ 255)
    (left right value : Way → Buffer) :
    (∀ w : Way, w ≠ .ofChars → Holds (u ++ v) (w.build u v (left w) (right w) (value w))) ∧
      ((∀ w : Way, Holds (u ++ v) (w.build u v (left w) (right w) (value w))) ↔
        u ++ v = [] ∧ (value .ofChars).cells.head? = some '\x00') := by
  have hf (w : Way) (hw : w ≠ .ofChars) : Holds (u ++ v) (w.build u v (left w) (right w) (value w)) :=
    holds_of_ne hn (Nat.lt_succ_of_le hl) hw
  refine ⟨hf, fun h => (holds_ofChars hn).mp (h .ofChars), fun h w => ?_⟩
  by_cases hw : w = .ofChars
  · subst hw
    exact (holds_ofChars hn).mpr h
  · exact hf w hw

theorem ways_agree_plus :
    Holds ['a', 'b'] (Way.plus.build ['a'] ['b'] Command.blank.buffer Command.blank.buffer
      Command.blank.buffer) :=
  (@ways_agree_iff ['a'] ['b'] (by decide) (by decide) (fun _ => Command.blank.buffer)
    (fun _ => Command.blank.buffer) fun _ => Command.blank.buffer).1 .plus (by decide)

theorem ways_differ : ¬∀ (u v : Text) (left right value : Way → Buffer), '\x00' ∉ u ++ v →
    (u ++ v).length ≤ 255 → ∀ w : Way, Holds (u ++ v) (w.build u v (left w) (right w) (value w)) := by
  intro h
  let blank : Way → Buffer := fun _ => Command.blank.buffer
  have hh := h ['a'] [] blank blank blank (by decide) (by decide) .ofChars
  exact not_holds_ofChars (by decide) (by decide) hh

end Basket.Common
