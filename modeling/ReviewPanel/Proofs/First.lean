import Mathlib.Data.List.Forall2
import Mathlib.Data.List.Induction
import Mathlib.Data.List.Nodup

/-!
# The first of a kind

Much of what a panel decides goes by the first thing of a list that has a
property: the agent that is selected, the category that is missing, the
override that is refused. `IsFirst` says which thing that is without saying
how it is looked for.

* `find?_eq_some_iff_isFirst` — searching finds the first of a kind.
* `mapM_eq_ok_iff`            — a list of checks passes iff each one does.
* `mapM_eq_error_iff`         — and else fails as the first one that fails.
* `isFirst_iff_of_pairwise`   — in an ordered list, the first is the least.
* `find?_eraseDups`           — repetitions do not matter for what is first.
* `pairwise_idxOf_eraseDups`  — things without repetitions stand in order of first occurrence.
-/

namespace ReviewPanel

variable {α β ε : Type}

/-- `x` is in the list and has the property, and nothing before it has. -/
def IsFirst (P : α → Prop) (xs : List α) (x : α) : Prop :=
  ∃ before after, xs = before ++ x :: after ∧ P x ∧ ∀ y ∈ before, ¬ P y

theorem find?_eq_some_iff_isFirst {p : α → Bool} {P : α → Prop} {xs : List α} {x : α}
    (hp : ∀ y, p y = true ↔ P y) : xs.find? p = some x ↔ IsFirst P xs x := by
  simp only [List.find?_eq_some_iff_append, IsFirst, hp, Bool.not_eq_true', Bool.eq_false_iff,
    ne_eq]
  constructor
  · rintro ⟨hx, before, after, hxs, hBefore⟩
    exact ⟨before, after, hxs, hx, hBefore⟩
  · rintro ⟨before, after, hxs, hx, hBefore⟩
    exact ⟨hx, before, after, hxs, hBefore⟩

/-- What is found stands at a place, and nothing at the places before it would do. -/
theorem find?_eq_some_iff_getElem? {p : α → Bool} {xs : List α} {x : α} :
    xs.find? p = some x ↔
      p x = true ∧ ∃ k : Nat, xs[k]? = some x ∧ ∀ j < k, ∀ y, xs[j]? = some y → p y = false := by
  simp only [List.find?_eq_some_iff_getElem, Bool.not_eq_true']
  constructor
  · rintro ⟨hx, k, hk, hAt, hBefore⟩
    refine ⟨hx, k, List.getElem?_eq_some_iff.mpr ⟨hk, hAt⟩, ?_⟩
    intro j hj y hy
    rw [← (List.getElem?_eq_some_iff.mp hy).2]
    exact hBefore j hj
  · rintro ⟨hx, k, hAt, hBefore⟩
    obtain ⟨hk, hEq⟩ := List.getElem?_eq_some_iff.mp hAt
    exact ⟨hx, k, hk, hEq, fun j hj => hBefore j hj _ (List.getElem?_eq_getElem _)⟩

theorem IsFirst.mem {P : α → Prop} {xs : List α} {x : α} (hFirst : IsFirst P xs x) : x ∈ xs := by
  obtain ⟨before, after, rfl, -, -⟩ := hFirst
  simp

/-- What is first stays first when more is put behind the list. -/
theorem IsFirst.append {P : α → Prop} {xs : List α} {x : α} (hFirst : IsFirst P xs x)
    (more : List α) : IsFirst P (xs ++ more) x := by
  obtain ⟨before, after, rfl, hx, hBefore⟩ := hFirst
  exact ⟨before, after ++ more, by rw [List.append_assoc, List.cons_append], hx, hBefore⟩

/-- What stands in front of a list is first, or leaves the rest as it is. -/
theorem isFirst_cons_iff {P : α → Prop} {y x : α} {xs : List α} :
    IsFirst P (y :: xs) x ↔ (P y ∧ x = y) ∨ (¬ P y ∧ IsFirst P xs x) := by
  constructor
  · rintro ⟨before, after, hxs, hx, hBefore⟩
    cases before with
    | nil =>
      obtain ⟨rfl, -⟩ := List.cons_eq_cons.mp hxs
      exact Or.inl ⟨hx, rfl⟩
    | cons z rest =>
      obtain ⟨rfl, hRest⟩ := List.cons_eq_cons.mp hxs
      exact Or.inr ⟨hBefore y (List.mem_cons_self ..), rest, after, hRest, hx,
        fun w hw => hBefore w (List.mem_cons_of_mem _ hw)⟩
  · rintro (⟨hy, rfl⟩ | ⟨hy, before, after, rfl, hx, hBefore⟩)
    · exact ⟨[], xs, rfl, hy, by simp⟩
    · refine ⟨y :: before, after, rfl, hx, ?_⟩
      intro w hw
      rcases List.mem_cons.mp hw with rfl | hw'
      · exact hy
      · exact hBefore w hw'

/-- In an ordered list the first of a kind is the one that none of its kind
comes before. -/
theorem isFirst_iff_of_pairwise {R : α → α → Prop} {P : α → Prop} {xs : List α} {x : α}
    (hAsymm : ∀ a b, R a b → ¬ R b a) (hOrdered : xs.Pairwise R) :
    IsFirst P xs x ↔ x ∈ xs ∧ P x ∧ ∀ y ∈ xs, P y → ¬ R y x := by
  constructor
  · rintro ⟨before, after, rfl, hx, hBefore⟩
    obtain ⟨-, hRest, -⟩ := List.pairwise_append.mp hOrdered
    refine ⟨by simp, hx, ?_⟩
    intro y hy hKind
    rcases List.mem_append.mp hy with hEarly | hLate
    · exact absurd hKind (hBefore y hEarly)
    · rcases List.mem_cons.mp hLate with rfl | hAfter
      · exact fun hSelf => hAsymm y y hSelf hSelf
      · exact hAsymm x y (List.rel_of_pairwise_cons hRest hAfter)
  · rintro ⟨hMem, hx, hLeast⟩
    obtain ⟨before, after, rfl⟩ := List.append_of_mem hMem
    obtain ⟨-, -, hApart⟩ := List.pairwise_append.mp hOrdered
    refine ⟨before, after, rfl, hx, ?_⟩
    intro y hy hKind
    exact hLeast y (by simp [hy]) hKind (hApart y hy x (by simp))

/-! ## Lists of checks -/

/-- A list of checks passes iff each one does. -/
theorem mapM_eq_ok_iff {f : α → Except ε β} {xs : List α} {ys : List β} :
    xs.mapM f = .ok ys ↔ List.Forall₂ (fun x y => f x = .ok y) xs ys := by
  induction xs generalizing ys with
  | nil =>
    rw [List.forall₂_nil_left_iff]
    exact ⟨fun h => (Except.ok.inj h).symm, fun h => h ▸ rfl⟩
  | cons x rest ih =>
    rw [List.mapM_cons, List.forall₂_cons_left_iff]
    -- the first that fails decides
    cases hHead : f x with
    | error e => simp [bind, Except.bind]
    | ok y =>
      cases hTail : rest.mapM f with
      | error e =>
        simp only [bind, Except.bind, reduceCtorEq, false_iff]
        rintro ⟨_, ys', _, hRest, _⟩
        rw [ih.mpr hRest] at hTail
        cases hTail
      | ok ys' =>
        simp only [bind, Except.bind, pure, Except.pure, Except.ok.injEq]
        constructor
        · rintro rfl
          exact ⟨y, ys', rfl, ih.mp hTail, rfl⟩
        · rintro ⟨z, zs, rfl, hRest, rfl⟩
          rw [ih.mpr hRest] at hTail
          rw [Except.ok.inj hTail]

/-- Where a list of checks passes, each of them does. -/
theorem exists_ok_of_mem {f : α → Except ε β} {xs : List α} {ys : List β} {x : α}
    (hOk : xs.mapM f = .ok ys) (hMem : x ∈ xs) : ∃ y, f x = .ok y := by
  have hAll := mapM_eq_ok_iff.mp hOk
  clear hOk
  induction hAll with
  | nil => exact absurd hMem List.not_mem_nil
  | cons hHead _ ih =>
    rcases List.mem_cons.mp hMem with rfl | hRest
    · exact ⟨_, hHead⟩
    · exact ih hRest

/-- What a list of checks passes is what each of them passes. -/
theorem mem_of_mapM_ok {f : α → Except ε β} {xs : List α} {ys : List β} (y : β)
    (hOk : xs.mapM f = .ok ys) : y ∈ ys ↔ ∃ x ∈ xs, f x = .ok y := by
  have hAll := mapM_eq_ok_iff.mp hOk
  clear hOk
  induction hAll with
  | nil => simp
  | cons hHead _ ih => simp [ih, hHead, eq_comm]

/-- Where each check passes, so does their list. -/
theorem exists_mapM_ok {f : α → Except ε β} {xs : List α}
    (hAll : ∀ x ∈ xs, ∃ y, f x = .ok y) : ∃ ys, xs.mapM f = .ok ys := by
  induction xs with
  | nil => exact ⟨[], rfl⟩
  | cons x rest ih =>
    obtain ⟨hHead, hRest⟩ := List.forall_mem_cons.mp hAll
    obtain ⟨y, hy⟩ := hHead
    obtain ⟨ys, hys⟩ := ih hRest
    exact ⟨y :: ys, mapM_eq_ok_iff.mpr (.cons hy (mapM_eq_ok_iff.mp hys))⟩

/-- A list of checks fails iff one of them does, and as the first one that does. -/
theorem mapM_eq_error_iff {f : α → Except ε β} {xs : List α} {e : ε} :
    xs.mapM f = .error e ↔
      ∃ x, IsFirst (fun x => ∃ e, f x = .error e) xs x ∧ f x = .error e := by
  induction xs with
  | nil =>
    constructor
    · intro h
      cases h
    · rintro ⟨x, ⟨before, after, hNil, -, -⟩, -⟩
      simp at hNil
  | cons x rest ih =>
    rw [List.mapM_cons]
    simp only [isFirst_cons_iff]
    cases hHead : f x with
    | error e' =>
      -- the checks behind the one that fails are not made
      simp only [bind, Except.bind, Except.error.injEq, exists_eq', true_and, not_true_eq_false,
        false_and, or_false, exists_eq_left, hHead]
    | ok y =>
      simp only [bind, Except.bind, reduceCtorEq, exists_false, false_and, not_false_eq_true,
        true_and, false_or, ← ih]
      cases rest.mapM f <;> simp [pure, Except.pure]

/-- Where something is found for every member of a list, what is found is in line
with the list. -/
theorem forall₂_filterMap {f : α → Option β} {R : α → β → Prop} {xs : List α}
    (hFound : ∀ x ∈ xs, ∃ y, f x = some y ∧ R x y) : List.Forall₂ R xs (xs.filterMap f) := by
  induction xs with
  | nil => exact .nil
  | cons x rest ih =>
    obtain ⟨y, hHead, hRel⟩ := hFound x List.mem_cons_self
    rw [List.filterMap_cons_some hHead]
    exact .cons hRel (ih fun z hz => hFound z (List.mem_cons_of_mem _ hz))

/-! ## Repetitions -/

section Repetitions

variable [BEq α] [LawfulBEq α]

/-- Another thing at the end of a list counts if it is not there already. -/
theorem eraseDups_concat {xs : List α} {x : α} :
    (xs ++ [x]).eraseDups = if xs.contains x then xs.eraseDups else xs.eraseDups ++ [x] := by
  rw [List.eraseDups_append]
  by_cases hx : x ∈ xs
  · simp [List.removeAll, hx]
  · simp [List.removeAll, List.eraseDups_cons, hx]

theorem nodup_eraseDups {xs : List α} : xs.eraseDups.Nodup := by
  induction xs using List.reverseRecOn with
  | nil => exact List.nodup_nil
  | append_singleton before x ih =>
    rw [eraseDups_concat]
    split
    · exact ih
    · rename_i hNew
      rw [List.nodup_append]
      refine ⟨ih, List.nodup_singleton x, ?_⟩
      intro y hy z hz hEq
      rw [List.mem_singleton.mp hz] at hEq
      rw [hEq, List.mem_eraseDups] at hy
      exact hNew (List.contains_iff_mem.mpr hy)

/-- Repetitions do not matter for what is first. -/
theorem find?_eraseDups {p : α → Bool} {xs : List α} : xs.eraseDups.find? p = xs.find? p := by
  induction xs using List.reverseRecOn with
  | nil => rfl
  | append_singleton before x ih =>
    rw [eraseDups_concat, List.find?_append]
    split
    · -- if nothing before is of the kind, its repetition is not either
      rename_i hOld
      rw [ih]
      cases hFound : before.find? p with
      | some y => rfl
      | none =>
        have hx : ¬ p x = true :=
          List.find?_eq_none.mp hFound x (List.contains_iff_mem.mp hOld)
        simp [hx]
    · rw [List.find?_append, ih]

/-- Whether repetitions are erased before or after the choice of a kind does not matter. -/
theorem eraseDups_filter {p : α → Bool} {xs : List α} :
    (xs.filter p).eraseDups = xs.eraseDups.filter p := by
  induction xs using List.reverseRecOn with
  | nil => rfl
  | append_singleton before x ih =>
    rw [List.filter_append, List.filter_singleton, eraseDups_concat]
    cases hKind : p x with
    | true =>
      rw [cond_true, eraseDups_concat, ih]
      by_cases hOld : x ∈ before
      · simp [hOld, hKind]
      · simp [hOld, hKind]
    | false =>
      rw [cond_false, List.append_nil, ih]
      split
      · rfl
      · simp [hKind]

/-- Things without repetitions stand in the order of their first occurrence. -/
theorem pairwise_idxOf_eraseDups {xs : List α} :
    xs.eraseDups.Pairwise fun a b => xs.idxOf a < xs.idxOf b := by
  induction xs using List.reverseRecOn with
  | nil => exact List.Pairwise.nil
  | append_singleton before x ih =>
    -- what is there already keeps its place
    have hEarlier : before.eraseDups.Pairwise fun a b =>
        (before ++ [x]).idxOf a < (before ++ [x]).idxOf b := by
      refine ih.imp_of_mem fun {a b} ha hb hLt => ?_
      rwa [List.idxOf_append_of_mem (List.mem_eraseDups.mp ha),
        List.idxOf_append_of_mem (List.mem_eraseDups.mp hb)]
    rw [eraseDups_concat]
    split
    · exact hEarlier
    · rename_i hNew
      rw [List.contains_iff_mem] at hNew
      refine List.pairwise_append.mpr ⟨hEarlier, List.pairwise_singleton _ _, ?_⟩
      intro a ha b hb
      rw [List.mem_eraseDups] at ha
      rw [List.mem_singleton.mp hb, List.idxOf_append_of_mem ha, List.idxOf_append_of_notMem hNew]
      have hBound := List.idxOf_lt_length_of_mem ha
      omega

end Repetitions

end ReviewPanel
