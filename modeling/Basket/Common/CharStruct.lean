import Mathlib.Data.List.DropRight
import Mathlib.Data.List.TakeWhile
import Mathlib.Data.Int.Basic
import Mathlib.Tactic.NormNum

/-! Texts of the C library, and the strings that a `CharStruct` can hold. -/

namespace Basket.Common

/-- The bytes of a `std::string`, written as characters. -/
abbrev Text := List Char

/-- What `c_str()` shows of a `std::string`: the characters before the first NUL. -/
def cStr (data : Text) : Text := data.takeWhile (· ≠ '\x00')

/-- `std::to_string` -/
def decimal (n : ℤ) : Text :=
  if n < 0 then '-' :: Nat.toDigits 10 n.natAbs else Nat.toDigits 10 n.natAbs

structure CharStruct where
  text : Text
  nul_free : '\x00' ∉ text
  length_lt : text.length < 256
  deriving DecidableEq

section Separators

variable {a b s t : Text} {c : Char}

lemma rtakeWhile_append_cons (h : c ∉ s) : (a ++ c :: s).rtakeWhile (· ≠ c) = s := by
  have hp : ∀ x ∈ s.reverse, decide (x ≠ c) = true := by
    intro x hx
    have hn : x ≠ c := fun he => h (he ▸ List.mem_reverse.mp hx)
    simpa using hn
  rw [List.rtakeWhile, List.reverse_append, List.reverse_cons, List.append_assoc,
    List.takeWhile_append_of_pos hp]
  simp

lemma append_cons_inj (hs : c ∉ s) (ht : c ∉ t) : a ++ c :: s = b ++ c :: t ↔ a = b ∧ s = t := by
  constructor
  · intro he
    have hst : s = t := by
      rw [← rtakeWhile_append_cons (a := a) hs, he, rtakeWhile_append_cons ht]
    subst hst
    exact ⟨List.append_cancel_right he, rfl⟩
  · rintro ⟨rfl, rfl⟩
    rfl

end Separators

@[simp] lemma cStr_nul_free (data : Text) : '\x00' ∉ cStr data := by
  intro hm
  have hh := List.mem_takeWhile_imp hm
  simp at hh

lemma cStr_eq {data : Text} (h : '\x00' ∉ data) : cStr data = data := by
  rw [cStr, List.takeWhile_eq_self_iff]
  intro a ha
  have hn : a ≠ '\x00' := fun he => h (he ▸ ha)
  simpa using hn

lemma cStr_append {a b : Text} (h : '\x00' ∉ a) : cStr (a ++ b) = a ++ cStr b := by
  refine List.takeWhile_append_of_pos fun c hc => ?_
  have hn : c ≠ '\x00' := fun he => h (he ▸ hc)
  simpa using hn

lemma decimal_natCast (n : ℕ) : decimal n = Nat.toDigits 10 n := by
  simp [decimal]

lemma decimal_neg {n : ℤ} (h : n < 0) : decimal n = '-' :: Nat.toDigits 10 n.natAbs := if_pos h

lemma not_mem_decimal {c : Char} (hd : c.isDigit = false) (hm : c ≠ '-') (n : ℤ) : c ∉ decimal n := by
  have ht : c ∉ Nat.toDigits 10 n.natAbs := fun hc => by
    have hh := Nat.isDigit_of_mem_toDigits (by norm_num) (by norm_num) hc
    simp [hd] at hh
  rw [decimal]
  split_ifs <;> simp [hm, ht]

lemma cStr_decimal (n : ℤ) : cStr (decimal n) = decimal n :=
  cStr_eq (not_mem_decimal rfl (by decide) n)

lemma decimal_injective : Function.Injective decimal := by
  have hp (m : ℤ) (n : ℤ) (hm : m < 0) (hn : ¬n < 0) : decimal m ≠ decimal n := by
    intro he
    have hd : '-' ∈ Nat.toDigits 10 n.natAbs := by
      rw [decimal_neg hm, decimal, if_neg hn] at he
      exact he ▸ List.mem_cons_self
    have hh := Nat.isDigit_of_mem_toDigits (by norm_num) (by norm_num) hd
    simp at hh
  intro m n he
  by_cases hm : m < 0 <;> by_cases hn : n < 0
  · rw [decimal_neg hm, decimal_neg hn] at he
    have hh := congrArg (fun l => Nat.ofDigitChars 10 l 0) (List.cons.inj he).2
    simp only [Nat.ofDigitChars_ten_toDigits] at hh
    omega
  · exact absurd he (hp m n hm hn)
  · exact absurd he.symm (hp n m hn hm)
  · rw [decimal, decimal, if_neg hm, if_neg hn] at he
    have hh := congrArg (fun l => Nat.ofDigitChars 10 l 0) he
    simp only [Nat.ofDigitChars_ten_toDigits] at hh
    omega

namespace CharStruct

/-- `CharStruct(std::string)`; nothing when the string and its NUL do not fit into the buffer. -/
def ofText? (data : Text) : Option CharStruct :=
  if h : (cStr data).length < 256 then some ⟨cStr data, cStr_nul_free data, h⟩ else none

def append (a : CharStruct) (o : Text) : Option CharStruct := ofText? (a.text ++ o)

def concat (a : CharStruct) (parts : List Text) : Option CharStruct := parts.foldlM append a

variable {a b : CharStruct} {data o : Text}

lemma ext_iff : a = b ↔ a.text = b.text := by
  cases a
  cases b
  simp

lemma ofText?_eq_some : ofText? data = some b ↔ b.text = cStr data := by
  rw [ofText?]
  split_ifs with h
  · rw [Option.some_inj, ext_iff, eq_comm]
  · simp only [false_iff]
    intro he
    exact h (he ▸ b.length_lt)

lemma append_eq_some : a.append o = some b ↔ b.text = a.text ++ cStr o := by
  rw [append, ofText?_eq_some, cStr_append a.nul_free]

lemma isSome_ofText? : (ofText? data).isSome ↔ (cStr data).length < 256 := by
  rw [ofText?]
  split_ifs with h <;> simp [h]

lemma isSome_append : (a.append o).isSome ↔ a.text.length + (cStr o).length < 256 := by
  rw [append, isSome_ofText?, cStr_append a.nul_free, List.length_append]

lemma concat_cons {part : Text} {parts : List Text} :
    a.concat (part :: parts) = (a.append part).bind fun c => c.concat parts := by
  simp [concat]

lemma concat_eq_some {parts : List Text} :
    a.concat parts = some b ↔ b.text = a.text ++ (parts.map cStr).flatten := by
  induction parts generalizing a with
  | nil => simp [concat, ext_iff, eq_comm]
  | cons part parts ih =>
    rw [concat_cons, List.map_cons, List.flatten_cons, ← List.append_assoc]
    cases hc : a.append part with
    | some c => rw [Option.bind_some, ih, append_eq_some.mp hc]
    | none =>
      have hl := (not_congr isSome_append).mp (by simp [hc] : ¬(a.append part).isSome)
      simp only [Option.bind_none, reduceCtorEq, false_iff]
      intro he
      have hb := b.length_lt
      rw [he] at hb
      simp only [List.length_append] at hb
      omega

end CharStruct

end Basket.Common
