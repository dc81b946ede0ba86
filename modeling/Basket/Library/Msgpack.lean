import Mathlib.Data.List.Basic
import Mathlib.Tactic.NormNum

/-! The strings of msgpack: a packer that writes size and body, and an unpacker that reads them. -/

namespace Basket.Library

/-- An object of type `STR`, with the bytes at its pointer. -/
structure StrObject where
  size : UInt32
  ptr : List Char
  length_eq : ptr.length = size.toNat

structure Msgpack (Stream : Type*) where
  /-- Throws when the size of a container does not fit. -/
  checked_get_container_size : ℕ → Option UInt32
  empty : Stream
  pack_str : UInt32 → Stream → Stream
  pack_str_body : List Char → Stream → Stream
  unpack : Stream → Option StrObject

namespace Msgpack

variable {Stream : Type*}

def packStr (m : Msgpack Stream) (o : StrObject) (s : Stream) : Stream :=
  m.pack_str_body o.ptr (m.pack_str o.size s)

structure Transmits (m : Msgpack Stream) : Prop where
  checked (n : ℕ) (h : n < 2 ^ 32) : m.checked_get_container_size n = some (UInt32.ofNat n)
  unpack (o : StrObject) : m.unpack (m.packStr o m.empty) = some o

section Format

def header (n : ℕ) : List ℕ :=
  if n < 32 then [0xa0 + n]
  else if n < 2 ^ 8 then [0xd9, n]
  else if n < 2 ^ 16 then [0xda, n / 2 ^ 8, n % 2 ^ 8]
  else [0xdb, n / 2 ^ 24, n / 2 ^ 16 % 2 ^ 8, n / 2 ^ 8 % 2 ^ 8, n % 2 ^ 8]

def body (n : ℕ) (s : List ℕ) : Option StrObject :=
  if h : s.length = n ∧ n < 2 ^ 32 then
    some ⟨UInt32.ofNat n, s.map Char.ofNat, by rw [List.length_map, h.1, UInt32.toNat_ofNat_of_lt' h.2]⟩
  else none

def number (digits : List ℕ) : ℕ := digits.foldl (fun n d => n * 2 ^ 8 + d) 0

def sized (k : ℕ) (s : List ℕ) : Option StrObject :=
  if k ≤ s.length then body (number (s.take k)) (s.drop k) else none

def unpackBytes : List ℕ → Option StrObject
  | [] => none
  | b :: s =>
    if 0xa0 ≤ b ∧ b < 0xc0 then body (b - 0xa0) s
    else if b = 0xd9 then sized 1 s
    else if b = 0xda then sized 2 s
    else if b = 0xdb then sized 4 s
    else none

/-- The four headers of the format, on streams of bytes. -/
def bytes : Msgpack (List ℕ) where
  checked_get_container_size n := if n < 2 ^ 32 then some (UInt32.ofNat n) else none
  empty := []
  pack_str size s := s ++ header size.toNat
  pack_str_body ptr s := s ++ ptr.map Char.toNat
  unpack := unpackBytes

lemma body_eq (o : StrObject) : body o.size.toNat (o.ptr.map Char.toNat) = some o := by
  have hl : (o.ptr.map Char.toNat).length = o.size.toNat := by rw [List.length_map, o.length_eq]
  have hp : (o.ptr.map Char.toNat).map Char.ofNat = o.ptr := by
    rw [List.map_map]
    exact List.map_id'' (fun c => Char.ofNat_toNat c) o.ptr
  rw [body, dif_pos ⟨hl, o.size.toNat_lt⟩, Option.some_inj]
  cases o
  exact StrObject.mk.injEq .. ▸ ⟨UInt32.ofNat_toNat, hp⟩

lemma sized_append (digits s : List ℕ) : sized digits.length (digits ++ s) = body (number digits) s := by
  rw [sized, if_pos (by simp), List.take_left, List.drop_left]

lemma unpackBytes_header (n : ℕ) (s : List ℕ) : unpackBytes (header n ++ s) = body n s := by
  rw [header]
  split_ifs with h₁ h₂ h₃
  · have hb : 0xa0 ≤ 0xa0 + n ∧ 0xa0 + n < 0xc0 := by omega
    rw [List.singleton_append, unpackBytes, if_pos hb, Nat.add_sub_cancel_left]
  · exact sized_append [n] s |>.trans (by simp [number])
  · refine (sized_append [n / 2 ^ 8, n % 2 ^ 8] s).trans (congrArg (body · s) ?_)
    simp only [number, List.foldl_cons, List.foldl_nil]
    omega
  · refine (sized_append [n / 2 ^ 24, n / 2 ^ 16 % 2 ^ 8, n / 2 ^ 8 % 2 ^ 8, n % 2 ^ 8] s).trans
      (congrArg (body · s) ?_)
    simp only [number, List.foldl_cons, List.foldl_nil]
    omega

lemma bytes_transmits : bytes.Transmits where
  checked _ h := if_pos h
  unpack o := by
    rw [← body_eq o, ← unpackBytes_header]
    rfl

end Format

end Msgpack

end Basket.Library
