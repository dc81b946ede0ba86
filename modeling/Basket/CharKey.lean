import Basket.Common.CharOrder
import Basket.Communication.Routing
import Basket.Library.Tree

/-! `CharStruct` as the key of the containers. -/

namespace Basket.CharKey

open Library Common Communication Value

structure Order : Prop where
  defined (a b : Value) : (Buffer.lt a.buffer b.buffer).isSome
  irrefl (a : Value) : Buffer.lt a.buffer a.buffer = some false
  trans (a b c : Value) : Less a b → Less b c → Less a c
  total (a b : Value) : Less a b ∨ Equal a b ∨ Less b a
  gt (a b : Value) : Buffer.gt a.buffer b.buffer = Buffer.lt b.buffer a.buffer
  ge (a b : Value) : Buffer.ge a.buffer b.buffer = (Buffer.lt a.buffer b.buffer).map not
  le (a b : Value) : Buffer.le a.buffer b.buffer = (Buffer.lt b.buffer a.buffer).map not

structure Equality (stdHash : Text → UInt64) : Prop where
  defined (a : Value) : (Buffer.hash stdHash a.buffer).isSome ∧ (Buffer.size a.buffer).isSome
  equivalence : Equivalence Equal
  texts (a b : Value) :
    Buffer.eq a.buffer b.buffer = some (decide (cStr a.buffer.cells = cStr b.buffer.cells))
  lt (a b c d : Value) : Equal a b → Equal c d → Buffer.lt a.buffer c.buffer = Buffer.lt b.buffer d.buffer
  hash (a b : Value) : Equal a b → Buffer.hash stdHash a.buffer = Buffer.hash stdHash b.buffer
  size (a b : Value) : Equal a b → Buffer.size a.buffer = Buffer.size b.buffer

def Yields (a : Value) (r : Option Buffer) : Prop := ∃ v : Value, r = some v.buffer ∧ Equal v a

structure Copies : Prop where
  copy (a : Value) (value : Buffer) : Yields a (Buffer.copy a.buffer value)
  move (a : Value) (value : Buffer) : Yields a (Buffer.move a.buffer value)
  assign (a : Value) (value : Buffer) : Yields a (Buffer.assign a.buffer value)

structure OneHome (stdHash : Text → UInt64) (a b : Value) (num_servers : ℕ) : Prop where
  modThenCast : (Buffer.hash stdHash a.buffer).map (modThenCast num_servers) =
    (Buffer.hash stdHash b.buffer).map (modThenCast num_servers)
  castThenMod : (Buffer.hash stdHash a.buffer).map (castThenMod num_servers) =
    (Buffer.hash stdHash b.buffer).map (castThenMod num_servers)

variable {α : Type*} {key : α → Value}

structure OneSlot (t : Tree key Less) (a b : Value) : Prop where
  find : t.find a = t.find b
  erase : t.erase a = t.erase b
  unique (e d : α) : e ∈ t.entries → d ∈ t.entries → Equal (key e) a → Equal (key d) b → e = d
  insertOrAssign (assign : α → α → α) (ha : ∀ e x, key (assign e x) = key e) (e x : α) :
    e ∈ t.entries → Equal (key e) a → Equal (key x) b → (t.insertOrAssign assign ha x).size = t.size

variable {stdHash : Text → UInt64} {t : Tree key Less} {a b : Value} {r : Option Buffer}

lemma order : Order where
  defined a b := by
    obtain ⟨o, hc, -⟩ := strcmp_compares a b
    rw [Buffer.lt, hc]
    rfl
  irrefl a := by
    obtain ⟨o, hc, ho⟩ := strcmp_compares a a
    rw [Buffer.lt, hc, ho.eq_eq.mpr rfl]
    rfl
  trans a b c h h' := less_iff.mpr ((less_iff.mp h).trans (less_iff.mp h'))
  total a b := by
    rw [less_iff, less_iff, equal_iff]
    exact lt_trichotomy a.text b.text
  gt := gt_eq
  ge a b := ge_eq a.buffer b.buffer
  le a b := by rw [le_eq, gt_eq]

lemma equality : Equality stdHash where
  defined a := by
    rw [hash_eq, size_eq]
    exact ⟨rfl, rfl⟩
  equivalence := by
    refine ⟨fun a => equal_iff.mpr rfl, fun h => equal_iff.mpr (equal_iff.mp h).symm, fun h h' => ?_⟩
    exact equal_iff.mpr ((equal_iff.mp h).trans (equal_iff.mp h'))
  texts a b := by
    obtain ⟨o, hc, ho⟩ := strcmp_compares a b
    have he : o.isEq = decide (a.text = b.text) := by
      rw [Bool.eq_iff_iff, decide_eq_true_iff, ← ho.eq_eq]
      cases o <;> decide
    rw [Buffer.eq, hc, Option.map_some, he]
    rfl
  lt a b c d h h' := by rw [Buffer.lt, Buffer.lt, strcmp_congr h h']
  hash a b h := by rw [hash_eq, hash_eq, equal_iff.mp h]
  size a b h := by rw [size_eq, size_eq, equal_iff.mp h]

lemma yields_of_builds (h : Buffer.Builds a.text r) : Yields a r := by
  obtain ⟨v, hv, ht⟩ := exists_of_builds h a.length_text_lt
  exact ⟨v, hv, equal_iff.mpr ht⟩

lemma copies : Copies where
  copy a _ := yields_of_builds (Buffer.builds_copy a.c_str_buffer)
  move a _ := yields_of_builds (Buffer.builds_copy a.c_str_buffer)
  assign a _ := yields_of_builds (Buffer.builds_assign a.c_str_buffer)

lemma oneHome (h : Equal a b) (num_servers : ℕ) : OneHome stdHash a b num_servers := by
  constructor <;> rw [equality.hash a b h]

lemma oneSlot (h : Equal a b) : OneSlot t a b where
  find := t.find_congr (incomp_iff.mpr h)
  erase := t.erase_congr (incomp_iff.mpr h)
  unique e d he hd ha hb := by
    refine t.sorted.unique he hd (incomp_iff.mpr (equal_iff.mpr ?_))
    rw [equal_iff.mp ha, equal_iff.mp hb, equal_iff.mp h]
  insertOrAssign assign ha e x he hea hxb := by
    have hi : IncompRel Less (key e) (key x) := by
      rw [incomp_iff, equal_iff, equal_iff.mp hea, equal_iff.mp hxb, equal_iff.mp h]
    rw [Tree.size_insertOrAssign, if_pos (Tree.isSome_find.mpr ⟨e, he, hi⟩)]

theorem lawful_key (stdHash : Text → UInt64) : Order ∧ Equality stdHash ∧ Copies ∧
    ∀ a b, Equal a b → (∀ num_servers, OneHome stdHash a b num_servers) ∧
      ∀ {α : Type*} {key : α → Value} (t : Tree key Less), OneSlot t a b :=
  ⟨order, equality, copies, fun _ _ h => ⟨oneHome h, fun _ => oneSlot h⟩⟩

/-- The key `ab`, with `j` in the cells behind the NUL. -/
def withJunk (j : Char) : Value where
  buffer := ⟨'a' :: 'b' :: '\x00' :: List.replicate 253 j, by
    rw [List.length_cons, List.length_cons, List.length_cons, List.length_replicate]⟩
  nul := .tail _ (.tail _ (.head _))

theorem lawful_key_junk : Equal (withJunk 'j') (withJunk '\x00') ∧
    OneHome (fun t => UInt64.ofNat t.length) (withJunk 'j') (withJunk '\x00') 3 := by
  have he : Equal (withJunk 'j') (withJunk '\x00') := equal_iff.mpr rfl
  exact ⟨he, ((lawful_key.{0} fun t => UInt64.ofNat t.length).2.2.2 _ _ he).1 3⟩

end Basket.CharKey
