import Basket.Library.CriticalSection
import Basket.Library.Iterator

/-! Loops over a sequence that is read one element at a time. An iterator is a position. -/

namespace Basket.Library.CriticalSection.Code

variable {σ α : Type} (entries : σ → List α) (stop : α → Bool)

/-- `while (it != end) { if (stop(*it)) break; final_values.push_back(*it); it++; }`, in at most `fuel`
rounds. -/
def walk : ℕ → ℕ → List α → Code σ (List α)
  | 0, _, final_values => return final_values
  | fuel + 1, pos, final_values => do
    match ← read (fun s => (entries s)[pos]?) with
    | none => return final_values
    | some e => if stop e then return final_values else walk fuel (pos + 1) (final_values ++ [e])

/-- `if (it != begin) { --it; if (skip(*it)) it++; }` -/
def stepBack (skip : α → Bool) (pos : ℕ) : Code σ ℕ :=
  if pos = 0 then return pos
  else do
    match ← read (fun s => (entries s)[pos - 1]?) with
    | none => return pos
    | some e => return if skip e then pos else pos - 1

variable {entries stop} {s : σ}

lemma run_walk {fuel pos : ℕ} {final_values : List α} (h : (entries s).length ≤ pos + fuel) :
    (walk entries stop fuel pos final_values).run s =
      (final_values ++ ((entries s).drop pos).takeWhile (fun e => !stop e), s) := by
  induction fuel generalizing pos final_values with
  | zero =>
    rw [List.drop_eq_nil_of_le (by omega), List.takeWhile_nil, List.append_nil]
    rfl
  | succ fuel ih =>
    rw [walk, run_bind, run_read]
    cases he : (entries s)[pos]? with
    | none =>
      rw [List.drop_eq_nil_of_le (List.getElem?_eq_none_iff.mp he), List.takeWhile_nil, List.append_nil]
      rfl
    | some e =>
      obtain ⟨hl, rfl⟩ := List.getElem?_eq_some_iff.mp he
      rw [List.drop_eq_getElem_cons hl]
      by_cases hs : stop (entries s)[pos]
      · simp [hs]
      · simp only [hs, if_false, Bool.false_eq_true]
        rw [ih (by omega), List.takeWhile_cons_of_pos (by simpa using hs), List.append_assoc]
        rfl

def At (it : Iterator α) (l : List α) (pos : ℕ) : Prop :=
  it.before.length = pos ∧ it.before.reverse ++ it.after = l

lemma At.drop {it : Iterator α} {l : List α} {pos : ℕ} (h : At it l pos) : l.drop pos = it.after := by
  obtain ⟨rfl, rfl⟩ := h
  rw [← List.length_reverse, List.drop_left]

lemma At.isBegin_iff {it : Iterator α} {l : List α} {pos : ℕ} (h : At it l pos) :
    it.isBegin = true ↔ pos = 0 := by
  rw [Iterator.isBegin, List.isEmpty_iff, ← List.length_eq_zero_iff, h.1]

lemma At.scan {it : Iterator α} {pos fuel : ℕ} (h : At it (entries s) pos)
    (hl : (entries s).length ≤ pos + fuel) :
    ((do
      let final_values ← walk entries stop fuel pos []
      return some final_values : Code σ (Option (List α)))).run s = (it.scan stop [], s) := by
  rw [run_bind, run_walk hl, h.drop, Iterator.scan_eq]
  rfl

lemma run_stepBack_begin {skip : α → Bool} {pos : ℕ} (h : pos = 0) :
    (stepBack entries skip pos).run s = (pos, s) := by
  rw [stepBack, if_pos h]
  rfl

/-- The iterator before one that is not the first, and what the body makes of the two. -/
lemma At.exists_prev {it : Iterator α} {pos : ℕ} (h : At it (entries s) pos) (hp : pos ≠ 0) :
    ∃ it' e, it.prev = some it' ∧ it'.deref = some e ∧ it'.next = some it ∧
      At it' (entries s) (pos - 1) ∧
        ∀ skip : α → Bool, (stepBack entries skip pos).run s = (if skip e then pos else pos - 1, s) := by
  obtain ⟨hl, he⟩ := h
  cases hb : it.before with
  | nil =>
    rw [hb] at hl
    exact absurd hl.symm hp
  | cons e l =>
    obtain ⟨it', hv, hd, hn⟩ := Iterator.prev_next hb
    rw [hb] at hl he
    have hi : it' = ⟨l, e :: it.after⟩ := by
      rw [Iterator.prev, hb] at hv
      exact (Option.some.inj hv).symm
    have hlen : l.length = pos - 1 := by
      rw [← hl]
      rfl
    have ha : At it' (entries s) (pos - 1) := by
      rw [hi]
      refine ⟨hlen, ?_⟩
      rw [← he]
      simp
    refine ⟨it', e, hv, hd, hn, ha, fun skip => ?_⟩
    have hg : (entries s)[pos - 1]? = some e := by
      rw [← he, ← hlen]
      simp
    rw [stepBack, if_neg hp, run_bind, run_read, hg]
    rfl

section Query

variable (entries : σ → List α) (lower : σ → Iterator α) (single skip stop : α → Bool)

def walkAll : Code σ (Option (List α)) := do
  let size ← read (fun s => (entries s).length)
  let final_values ← walk entries (fun _ => false) size 0 []
  return some final_values

/-- The walk from a lower bound on, with a case of its own for a lone element. -/
def query : Code σ (Option (List α)) := do
  let size ← read (fun s => (entries s).length)
  if size = 0 then return some []
  else if size = 1 then
    let e ← read (fun s => (entries s).head?)
    return e.map (fun e => if single e then [e] else [])
  else
    let pos ← read (fun s => (lower s).before.length)
    if pos = size then return some []
    else
      let pos ← stepBack entries skip pos
      let final_values ← walk entries stop size pos []
      return some final_values

/-- `stepBack` on the iterators themselves. -/
def iteratorBack (it : Iterator α) : Option (Iterator α) :=
  if it.isBegin then some it
  else do
    let it' ← it.prev
    let e ← it'.deref
    if skip e then it'.next else some it'

variable {entries lower single skip stop}

lemma run_walkAll {l : List α} (h : entries s = l) :
    (walkAll entries).run s = ((Iterator.start l).scan (fun _ => false) [], s) := by
  subst h
  have ha : At (Iterator.start (entries s)) (entries s) 0 := ⟨rfl, rfl⟩
  exact ha.scan (Nat.zero_add _).ge

lemma At.run_back {it : Iterator α} {pos size : ℕ} (h : At it (entries s) pos)
    (hs : (entries s).length ≤ size) :
    ((do
      let pos ← stepBack entries skip pos
      let final_values ← walk entries stop size pos []
      return some final_values : Code σ (Option (List α)))).run s =
        ((iteratorBack skip it).bind (fun it => it.scan stop []), s) := by
  rw [run_bind, iteratorBack]
  by_cases hp : pos = 0
  · rw [run_stepBack_begin hp, if_pos (h.isBegin_iff.mpr hp), Option.bind_some]
    exact h.scan (by omega)
  · obtain ⟨it', e, hv, hd, hn, ha, hb⟩ := h.exists_prev hp
    rw [hb, if_neg (mt h.isBegin_iff.mp hp)]
    simp only [hv, hd, Option.bind_eq_bind, Option.bind_some]
    by_cases hk : skip e
    · rw [if_pos hk, if_pos hk, hn, Option.bind_some]
      exact h.scan (by omega)
    · rw [if_neg hk, if_neg hk, Option.bind_some]
      exact ha.scan (by omega)

lemma run_query (hl : (lower s).before.reverse ++ (lower s).after = entries s) :
    (query entries lower single skip stop).run s =
      (if (entries s).length = 0 then some []
      else if (entries s).length = 1 then
        (entries s).head?.map (fun e => if single e then [e] else [])
      else if (lower s).isEnd then some []
      else (iteratorBack skip (lower s)).bind (fun it => it.scan stop []), s) := by
  have ha : At (lower s) (entries s) (lower s).before.length := ⟨rfl, hl⟩
  have he : (lower s).before.length = (entries s).length ↔ (lower s).isEnd = true := by
    rw [← hl, List.length_append, List.length_reverse, Iterator.isEnd, List.isEmpty_iff,
      ← List.length_eq_zero_iff]
    omega
  rw [query, run_bind, run_read]
  by_cases h₀ : (entries s).length = 0
  · rw [if_pos h₀, if_pos h₀]
    rfl
  by_cases h₁ : (entries s).length = 1
  · rw [if_neg h₀, if_neg h₀, if_pos h₁, if_pos h₁]
    rfl
  rw [if_neg h₀, if_neg h₀, if_neg h₁, if_neg h₁, run_bind, run_read]
  by_cases hn : (lower s).isEnd = true
  · rw [if_pos hn, if_pos (he.mpr hn)]
    rfl
  · rw [if_neg hn, if_neg (mt he.mp hn)]
    exact ha.run_back le_rfl

end Query

end Basket.Library.CriticalSection.Code
