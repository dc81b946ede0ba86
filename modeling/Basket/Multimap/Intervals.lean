import Basket.Multimap.Model

/-! What the containment query of one server returns when the keys are intervals. -/

namespace Basket.Multimap

open Library

variable {K MappedType : Type*} [LinearOrder K]

structure Interval (K : Type*) [LinearOrder K] where
  lo : K
  hi : K
  lo_le_hi : lo ≤ hi

namespace Interval

def Compare (a b : Interval K) : Prop := a.lo < b.lo ∨ a.lo = b.lo ∧ a.hi < b.hi

instance decidableCompare : DecidableRel (Compare (K := K)) := fun _ _ =>
  inferInstanceAs (Decidable (_ ∨ _))

def contains (a b : Interval K) : Bool := a.lo ≤ b.lo && b.hi ≤ a.hi

lemma ext_iff {a b : Interval K} : a = b ↔ a.lo = b.lo ∧ a.hi = b.hi := by
  cases a
  cases b
  simp

lemma contains_iff {a b : Interval K} : a.contains b = true ↔ a.lo ≤ b.lo ∧ b.hi ≤ a.hi := by
  simp [contains]

lemma not_compare_iff {a b : Interval K} : ¬Compare a b ↔ b.lo < a.lo ∨ a.lo = b.lo ∧ b.hi ≤ a.hi := by
  rw [Compare]
  rcases lt_trichotomy a.lo b.lo with h | h | h
  · simp [h, h.not_gt, h.ne]
  · simp [h]
  · simp [h, h.not_gt, h.ne']

instance strictTotalCompare : IsStrictTotalOrder (Interval K) Compare where
  trichotomous a b hab hba := by
    rw [not_compare_iff] at hab hba
    rw [ext_iff]
    rcases hab with hab | ⟨hab, hh⟩ <;> rcases hba with hba | ⟨hba, hh'⟩
    · exact absurd hba hab.not_gt
    · exact absurd hba.symm hab.ne'
    · exact absurd hab hba.ne
    · exact ⟨hab, le_antisymm hh' hh⟩
  irrefl a h := by
    rcases h with h | h
    · exact lt_irrefl _ h
    · exact lt_irrefl _ h.2
  trans a b c hab hbc := by
    rcases hab with hab | ⟨hab, hh⟩ <;> rcases hbc with hbc | ⟨hbc, hh'⟩
    · exact .inl (hab.trans hbc)
    · exact .inl (hbc ▸ hab)
    · exact .inl (hab ▸ hbc)
    · exact .inr ⟨hab.trans hbc, hh.trans hh'⟩

end Interval

variable {q : Interval K} {mymap : MyMap (Interval K) MappedType Interval.Compare}

def related (q : Interval K) (e : Interval K × MappedType) : Bool := q.contains e.1 || e.1.contains q

lemma related_iff {e : Interval K × MappedType} : related q e = true ↔
    q.lo ≤ e.1.lo ∧ e.1.hi ≤ q.hi ∨ e.1.lo ≤ q.lo ∧ q.hi ≤ e.1.hi := by
  rw [related, Bool.or_eq_true, Interval.contains_iff, Interval.contains_iff]

/-- The one entry before the lower bound that the walk can take along. -/
def taken (q : Interval K) (before : List (Interval K × MappedType)) : List (Interval K × MappedType) :=
  (before.head?.filter (fun p => q.contains p.1)).toList

lemma mem_taken {before : List (Interval K × MappedType)} {e : Interval K × MappedType} :
    e ∈ taken q before ↔ before.head? = some e ∧ q.contains e.1 := by
  simp [taken, Option.mem_toList, Option.filter_eq_some_iff]

lemma stepBack_taken (lower_bound : Iterator (Interval K × MappedType)) :
    ∃ it, stepBack Interval.contains q lower_bound = some it ∧
      it.after = taken q lower_bound.before ++ lower_bound.after := by
  obtain ⟨before, after⟩ := lower_bound
  cases before with
  | nil => exact ⟨_, rfl, rfl⟩
  | cons p before =>
    by_cases hp : q.contains p.1
    · exact ⟨⟨before, p :: after⟩, by simp [stepBack, Iterator.isBegin, Iterator.prev, Iterator.deref, hp],
        by simp [taken, Option.filter, hp]⟩
    · exact ⟨⟨p :: before, after⟩,
        by simp [stepBack, Iterator.isBegin, Iterator.prev, Iterator.deref, Iterator.next, hp],
        by simp [taken, Option.filter, hp]⟩

lemma walked (h : 2 ≤ mymap.size) : localContainsInServer Interval.contains q mymap =
    some (if (mymap.lowerBound q).after = [] then [] else
      taken q (mymap.lowerBound q).before ++ (mymap.lowerBound q).after.takeWhile (related q)) := by
  have h₀ : mymap.size ≠ 0 := by omega
  have h₁ : mymap.size ≠ 1 := by omega
  obtain ⟨it, hs, ha⟩ := stepBack_taken (q := q) (mymap.lowerBound q)
  have ht : ∀ e ∈ taken q (mymap.lowerBound q).before, related q e = true := by
    intro e he
    simp [related, (mem_taken.mp he).2]
  rw [localContainsInServer, if_neg h₀, if_neg h₁]
  simp only [Iterator.isEnd, List.isEmpty_iff, hs, Option.bind_eq_bind, Option.bind_some,
    Iterator.scan_eq, ha, List.nil_append, Bool.not_not]
  split_ifs with hn
  · rfl
  · rw [← List.takeWhile_append_of_pos ht]
    rfl

/-- Nothing that the query should find lies before the entry next to the lower bound. -/
structure Reached (q : Interval K) (mymap : MyMap (Interval K) MappedType Interval.Compare) : Prop where
  no_wider : ∀ e ∈ mymap.entries, e.1.lo < q.lo → e.1.hi < q.hi
  one_within : (mymap.entries.filter (fun e => e.1.lo = q.lo ∧ e.1.hi < q.hi)).length ≤ 1
  followed : (∃ e ∈ mymap.entries, e.1.lo = q.lo ∧ e.1.hi < q.hi) →
    ∃ e ∈ mymap.entries, q.lo < e.1.lo ∨ e.1.lo = q.lo ∧ q.hi ≤ e.1.hi

/-- No entry that reaches beyond `q` comes between `q` and an entry within it. -/
def Unbroken (q : Interval K) (mymap : MyMap (Interval K) MappedType Interval.Compare) : Prop :=
  ∀ e ∈ mymap.entries, ∀ d ∈ mymap.entries,
    q.lo < e.1.lo → q.hi < e.1.hi → e.1.lo < d.1.lo → q.hi < d.1.hi

def Apart (mymap : MyMap (Interval K) MappedType Interval.Compare) : Prop :=
  mymap.entries.Pairwise (fun a b => a.1.hi ≤ b.1.lo)

lemma Apart.unbroken (h : Apart mymap) : Unbroken q mymap := by
  intro e he d hd hlo hhi hlt
  have hr : e.1.hi ≤ d.1.lo := mymap.sorted.rel_of_lt h he hd (.inl hlt)
  exact hhi.trans_le (hr.trans d.1.lo_le_hi)

lemma contains_before {e : Interval K × MappedType} (he : e ∈ (mymap.lowerBound q).before) :
    q.contains e.1 = true ↔ e.1.lo = q.lo ∧ e.1.hi < q.hi := by
  rw [Interval.contains_iff]
  rcases (MultiTree.mem_before.mp he).2 with hk | ⟨hk, hh⟩
  · simp [hk.not_ge, hk.ne]
  · simp [hk, hh, hh.le]

lemma related_before {e : Interval K × MappedType} (he : e ∈ (mymap.lowerBound q).before) :
    related q e = true ↔ (e.1.lo < q.lo ∧ q.hi ≤ e.1.hi) ∨ (e.1.lo = q.lo ∧ e.1.hi < q.hi) := by
  rw [related_iff]
  rcases (MultiTree.mem_before.mp he).2 with hk | ⟨hk, hh⟩
  · simp [hk, hk.le, hk.not_ge, hk.ne]
  · simp [hk, hh, hh.le]

lemma related_after {e : Interval K × MappedType} (he : e ∈ (mymap.lowerBound q).after) :
    related q e = true ↔ e.1.lo = q.lo ∨ e.1.hi ≤ q.hi := by
  rw [related_iff]
  rcases Interval.not_compare_iff.mp (MultiTree.mem_after.mp he).2 with hk | ⟨hk, hh⟩
  · simp [hk.le, hk.not_ge, hk.ne']
  · simp [hk, hh]

lemma unbroken_iff : (mymap.lowerBound q).after.takeWhile (related q) =
    (mymap.lowerBound q).after.filter (related q) ↔ Unbroken q mymap := by
  have hs : SortedSequence.WeaklySorted Prod.fst Interval.Compare (mymap.lowerBound q).after :=
    mymap.sorted.sublist (List.dropWhile_sublist _)
  rw [Iterator.takeWhile_eq_filter_iff]
  constructor
  · intro hp e he d hd hlo hhi hlt
    have hea := MultiTree.mem_after.mpr ⟨he, Interval.not_compare_iff.mpr (.inl hlo)⟩
    have hda := MultiTree.mem_after.mpr ⟨hd, Interval.not_compare_iff.mpr (.inl (hlo.trans hlt))⟩
    have hr := hs.rel_of_lt hp hea hda (.inl hlt)
    rw [related_after hea, related_after hda] at hr
    by_contra hn
    rcases hr (.inr (not_lt.mp hn)) with hk | hk
    · exact hlo.ne' hk
    · exact hhi.not_ge hk
  · intro hu
    refine hs.imp_of_mem fun {a b} ha hb hab => ?_
    rw [related_after ha, related_after hb]
    intro hr
    by_contra hn
    obtain ⟨hlo, hhi⟩ := not_or.mp hn
    have hlt : q.lo < a.1.lo := by
      rcases Interval.not_compare_iff.mp (MultiTree.mem_after.mp ha).2 with hk | hk
      · exact hk
      · exact absurd hk.1 hlo
    rcases Interval.not_compare_iff.mp hab with hk | ⟨hk, hh⟩
    · have hw := hu a (MultiTree.mem_after.mp ha).1 b (MultiTree.mem_after.mp hb).1 hlt (not_le.mp hhi) hk
      rcases hr with hr | hr
      · exact (hlt.trans hk).ne' hr
      · exact hw.not_ge hr
    · rcases hr with hr | hr
      · exact hlo (hk.symm.trans hr)
      · exact hhi (hh.trans hr)

lemma within_of_tail {p e : Interval K × MappedType} {before : List (Interval K × MappedType)}
    (hb : (mymap.lowerBound q).before = p :: before) (he : e ∈ before)
    (hk : e.1.lo = q.lo ∧ e.1.hi < q.hi) : p.1.lo = q.lo ∧ p.1.hi < q.hi := by
  have hs : (p :: before).Pairwise (fun a b => ¬Interval.Compare a.1 b.1) := by
    have ht := mymap.sorted
    rw [← mymap.lowerBound_append (k := q)] at ht
    exact hb ▸ List.pairwise_reverse.mp (List.pairwise_append.mp ht).1
  have hp : p ∈ (mymap.lowerBound q).before := hb ▸ List.mem_cons_self
  rcases (MultiTree.mem_before.mp hp).2 with hlt | hlt
  · rcases Interval.not_compare_iff.mp ((List.pairwise_cons.mp hs).1 e he) with hn | hn
    · exact absurd (hk.1 ▸ hn) hlt.not_gt
    · exact absurd (hn.1.trans hk.1) hlt.ne
  · exact hlt

lemma taken_eq_iff : taken q (mymap.lowerBound q).before =
    ((mymap.lowerBound q).before.filter (fun e => e.1.lo = q.lo ∧ e.1.hi < q.hi)).reverse ↔
      ((mymap.lowerBound q).before.filter (fun e => e.1.lo = q.lo ∧ e.1.hi < q.hi)).length ≤ 1 := by
  cases hb : (mymap.lowerBound q).before with
  | nil => simp [taken]
  | cons p before =>
    have hc := contains_before (hb ▸ List.mem_cons_self : p ∈ (mymap.lowerBound q).before)
    by_cases hp : p.1.lo = q.lo ∧ p.1.hi < q.hi
    · have ht : taken q (p :: before) = [p] := by simp [taken, Option.filter, hc.mpr hp]
      rw [List.filter_cons_of_pos (by simpa using hp), ht]
      cases before.filter (fun e => e.1.lo = q.lo ∧ e.1.hi < q.hi) with
      | nil => simp
      | cons e l => exact iff_of_false (fun he => by simpa using congrArg List.length he) (by simp)
    · have hn : before.filter (fun e => e.1.lo = q.lo ∧ e.1.hi < q.hi) = [] := by
        refine List.filter_eq_nil_iff.mpr fun e he hk => hp (within_of_tail hb he ?_)
        simpa using hk
      have ht : taken q (p :: before) = [] := by
        refine List.eq_nil_iff_forall_not_mem.mpr fun e he => ?_
        obtain ⟨hh, hq⟩ := mem_taken.mp he
        obtain rfl := Option.some.inj hh
        exact hp (hc.mp hq)
      rw [List.filter_cons_of_neg (by simpa using hp), hn, ht]
      simp

lemma entries_filter (p : Interval K × MappedType → Bool) : mymap.entries.filter p =
    ((mymap.lowerBound q).before.filter p).reverse ++ (mymap.lowerBound q).after.filter p := by
  rw [← List.filter_reverse, ← List.filter_append, MultiTree.lowerBound_append]

lemma filter_before (h : ∀ e ∈ mymap.entries, e.1.lo < q.lo → e.1.hi < q.hi) :
    (mymap.lowerBound q).before.filter (related q) =
      (mymap.lowerBound q).before.filter (fun e => e.1.lo = q.lo ∧ e.1.hi < q.hi) := by
  refine List.filter_congr fun e he => ?_
  rw [Bool.eq_iff_iff, related_before he, decide_eq_true_eq, or_iff_right]
  exact fun hk => hk.2.not_gt (h e (MultiTree.mem_before.mp he).1 hk.1)

lemma filter_after : (mymap.lowerBound q).after.filter
    (fun e => e.1.lo = q.lo ∧ e.1.hi < q.hi) = [] := by
  refine List.filter_eq_nil_iff.mpr fun e he hk => (MultiTree.mem_after.mp he).2 ?_
  exact .inr (by simpa using hk)

lemma reached_iff (ha : (mymap.lowerBound q).after ≠ []) : taken q (mymap.lowerBound q).before =
    ((mymap.lowerBound q).before.filter (related q)).reverse ↔ Reached q mymap := by
  constructor
  · intro ht
    have hw : ∀ e ∈ mymap.entries, e.1.lo < q.lo → e.1.hi < q.hi := by
      intro e he hlo
      by_contra hn
      have hb := MultiTree.mem_before.mpr ⟨he, .inl hlo⟩
      have hm : e ∈ taken q (mymap.lowerBound q).before := by
        rw [ht, List.mem_reverse, List.mem_filter]
        exact ⟨hb, (related_before hb).mpr (.inl ⟨hlo, not_lt.mp hn⟩)⟩
      exact hlo.ne ((contains_before hb).mp (mem_taken.mp hm).2).1
    refine ⟨hw, ?_, fun _ => ?_⟩
    · rw [entries_filter (q := q), filter_after, List.append_nil, List.length_reverse]
      exact taken_eq_iff.mp (filter_before hw ▸ ht)
    · obtain ⟨e, he⟩ := List.exists_mem_of_ne_nil _ ha
      obtain ⟨hm, hn⟩ := MultiTree.mem_after.mp he
      exact ⟨e, hm, Interval.not_compare_iff.mp hn⟩
  · intro hr
    have hl := hr.one_within
    rw [entries_filter (q := q), filter_after, List.append_nil, List.length_reverse] at hl
    rw [filter_before hr.no_wider]
    exact taken_eq_iff.mpr hl

lemma reached_end (ha : (mymap.lowerBound q).after = []) :
    mymap.entries.filter (related q) = [] ↔ Reached q mymap := by
  have hb : ∀ e ∈ mymap.entries, e ∈ (mymap.lowerBound q).before := by
    intro e he
    rw [← MultiTree.lowerBound_append (k := q), ha, List.append_nil] at he
    exact List.mem_reverse.mp he
  rw [List.filter_eq_nil_iff]
  constructor
  · intro hn
    have hw : ∀ e ∈ mymap.entries, ¬(e.1.lo = q.lo ∧ e.1.hi < q.hi) :=
      fun e he hk => hn e he ((related_before (hb e he)).mpr (.inr hk))
    refine ⟨fun e he hlo => ?_, ?_, ?_⟩
    · by_contra hk
      exact hn e he ((related_before (hb e he)).mpr (.inl ⟨hlo, not_lt.mp hk⟩))
    · rw [List.filter_eq_nil_iff.mpr fun e he hk => hw e he (by simpa using hk)]
      exact Nat.zero_le 1
    · rintro ⟨e, he, hk⟩
      exact absurd hk (hw e he)
  · intro hr e he hk
    rcases (related_before (hb e he)).mp hk with hk | hk
    · exact hk.2.not_gt (hr.no_wider e he hk.1)
    · obtain ⟨d, hd, hn⟩ := hr.followed ⟨e, he, hk⟩
      exact Interval.not_compare_iff.mpr hn (MultiTree.mem_before.mp (hb d hd)).2

lemma perm_append_iff {α : Type*} {a b c d : List α} (h : a.Sublist c) (h' : b.Sublist d) :
    (a ++ b).Perm (c ++ d) ↔ a = c ∧ b = d := by
  constructor
  · intro hp
    have hl := hp.length_eq
    have hac := h.length_le
    have hbd := h'.length_le
    rw [List.length_append, List.length_append] at hl
    exact ⟨h.eq_of_length (by omega), h'.eq_of_length (by omega)⟩
  · rintro ⟨rfl, rfl⟩
    exact .refl _

lemma taken_sublist : (taken q (mymap.lowerBound q).before).Sublist
    ((mymap.lowerBound q).before.filter (related q)).reverse := by
  cases ht : (mymap.lowerBound q).before.head?.filter (fun p => q.contains p.1) with
  | none => simp [taken, ht]
  | some e =>
    obtain ⟨hh, hq⟩ := Option.filter_eq_some_iff.mp ht
    have hm : e ∈ (mymap.lowerBound q).before := List.mem_of_head? hh
    rw [taken, ht, Option.toList_some, List.singleton_sublist, List.mem_reverse, List.mem_filter]
    exact ⟨hm, by simp [related, hq]⟩

theorem containment_iff (mymap : MyMap (Interval K) MappedType Interval.Compare) (q : Interval K)
    (h : 2 ≤ mymap.size) :
    ((∃ final_values, localContainsInServer Interval.contains q mymap = some final_values ∧
        final_values.Perm (mymap.entries.filter (related q))) ↔ Reached q mymap ∧ Unbroken q mymap) ∧
      (Apart mymap → Unbroken q mymap) := by
  refine ⟨?_, Apart.unbroken⟩
  simp only [walked h, Option.some.injEq, exists_eq_left']
  split_ifs with ha
  · rw [List.nil_perm, reached_end ha]
    refine (and_iff_left fun e he d _ hlo => ?_).symm
    have hm := MultiTree.mem_after.mpr ⟨he, Interval.not_compare_iff.mpr (.inl hlo)⟩
    rw [ha] at hm
    exact absurd hm List.not_mem_nil
  · have hs : ((mymap.lowerBound q).after.takeWhile (related q)).Sublist
        ((mymap.lowerBound q).after.filter (related q)) := by
      have ht : ((mymap.lowerBound q).after.takeWhile (related q)).filter (related q) =
          (mymap.lowerBound q).after.takeWhile (related q) :=
        List.filter_eq_self.mpr fun e he => List.mem_takeWhile_imp he
      exact ht ▸ (List.takeWhile_sublist _).filter _
    rw [entries_filter (q := q), perm_append_iff taken_sublist hs, reached_iff ha, unbroken_iff]

def twoIntervals : MyMap (Interval ℕ) ℕ Interval.Compare where
  entries := [(⟨0, 10, Nat.zero_le 10⟩, 1), (⟨20, 30, by decide⟩, 2)]
  sorted := by simp [SortedSequence.WeaklySorted, Interval.not_compare_iff]

theorem containment_within : ∃ final_values,
    localContainsInServer Interval.contains ⟨15, 30, by decide⟩ twoIntervals = some final_values ∧
      final_values.Perm (twoIntervals.entries.filter (related ⟨15, 30, by decide⟩)) := by
  refine (containment_iff twoIntervals ⟨15, 30, by decide⟩ (by decide)).1.mpr ⟨⟨?_, ?_, ?_⟩, ?_⟩
  · simp [twoIntervals]
  · simp [twoIntervals]
  · simp [twoIntervals]
  · simp [Unbroken, twoIntervals]

/-- The interval from 0 to 10 contains the one from 5 to 6 and is not found. -/
theorem containing_missed : ¬∀ (mymap : MyMap (Interval ℕ) ℕ Interval.Compare) (q : Interval ℕ),
    2 ≤ mymap.size → Apart mymap →
      ∃ final_values, localContainsInServer Interval.contains q mymap = some final_values ∧
        final_values.Perm (mymap.entries.filter (related q)) := by
  intro h
  obtain ⟨final_values, hr, hp⟩ :=
    h twoIntervals ⟨5, 6, by decide⟩ (by decide) (by simp [Apart, twoIntervals])
  rw [walked (by decide)] at hr
  obtain rfl := Option.some.inj hr
  exact absurd hp.length_eq (by decide)

end Basket.Multimap
