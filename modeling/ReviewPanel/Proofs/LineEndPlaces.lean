import ReviewPanel.Pattern.Basic
import ReviewPanel.Proofs.LineEnds

/-!
# Line ends and places

With returns, a text has one more place at each line end, between return and line feed
(`Cursor.Split`); any other place is a place of both spellings (`Cursor.twin`), although the
characters before it are more. The order of places is the same, and no two become one
(`Text.spelledOffset_inj`).

Lists of places that stand for one another have the twins in the same order, and splits in
between (`Cursor.Doubles`). Such lists stay so when they are put together, when places are
replaced by others that can be reached from them, and when places are dropped that came before.

* `Doubles.flatMap`  — places reached from others.
* `Doubles.distinct` — places without repetitions.
* `Doubles.eq_map`   — without splits, there are the twins and nothing else.
-/

namespace ReviewPanel

open Text

variable {text : List Char} {m n : Nat} {x : Char} {rest : List Char}

/-! ## Places -/

/-- The number of characters of the other spelling before a place. -/
def Text.spelledOffset (text : List Char) (n : Nat) : Nat := (withReturns (text.take n)).length

namespace Text

/-- What stands from a place on, cut off after some characters, in the other spelling. -/
theorem spelledOffset_add {k : Nat} :
    spelledOffset text (n + k) =
      spelledOffset text n + (withReturns ((text.drop n).take k)).length := by
  rw [spelledOffset, List.take_add, withReturns_append, List.length_append]
  rfl

theorem take_one_of_drop (hDrop : text.drop n = x :: rest) : (text.drop n).take 1 = [x] := by
  rw [hDrop]
  rfl

/-- A character that ends no line moves both places by one. -/
theorem spelledOffset_succ (hDrop : text.drop n = x :: rest) (hText : x ≠ '\n') :
    spelledOffset text (n + 1) = spelledOffset text n + 1 := by
  rw [spelledOffset_add, take_one_of_drop hDrop, withReturns_cons hText]
  rfl

/-- A line end moves the other place by two. -/
theorem spelledOffset_feed (hDrop : text.drop n = '\n' :: rest) :
    spelledOffset text (n + 1) = spelledOffset text n + 2 := by
  rw [spelledOffset_add, take_one_of_drop hDrop]
  rfl

theorem spelledOffset_mono (text : List Char) (hLe : m ≤ n) :
    spelledOffset text m ≤ spelledOffset text n := by
  obtain ⟨k, rfl⟩ := Nat.exists_eq_add_of_le hLe
  rw [spelledOffset_add]
  exact Nat.le_add_right _ _

/-- Every character of a text is one of the other spelling at least. -/
theorem spelledOffset_lt (hLt : m < n) (hLength : n ≤ text.length) :
    spelledOffset text m < spelledOffset text n := by
  have hMono := spelledOffset_mono text (show m + 1 ≤ n from hLt)
  have hDrop : text.drop m = text[m] :: text.drop (m + 1) := List.drop_eq_getElem_cons (by omega)
  by_cases hFeed : text[m] = '\n'
  · rw [hFeed] at hDrop
    have hNext := spelledOffset_feed hDrop
    omega
  · have hNext := spelledOffset_succ hDrop hFeed
    omega

/-- Different places stay different. -/
theorem spelledOffset_inj (hm : m ≤ text.length) (hn : n ≤ text.length) :
    spelledOffset text m = spelledOffset text n ↔ m = n := by
  constructor
  · intro hSame
    rcases Nat.lt_trichotomy m n with hLt | hEq | hGt
    · have hOffset := spelledOffset_lt hLt hn
      omega
    · exact hEq
    · have hOffset := spelledOffset_lt hGt hm
      omega
  · rintro rfl
    rfl

/-- What stands between two places, in the other spelling; nothing if they are out of order. -/
theorem spelledOffset_sub : spelledOffset text m - spelledOffset text n =
    (withReturns ((text.drop n).take (m - n))).length := by
  rcases Nat.le_total n m with hLe | hGe
  · obtain ⟨k, rfl⟩ := Nat.exists_eq_add_of_le hLe
    rw [spelledOffset_add, Nat.add_sub_cancel_left, Nat.add_sub_cancel_left]
  · have hMono := spelledOffset_mono text hGe
    rw [Nat.sub_eq_zero_of_le hMono, Nat.sub_eq_zero_of_le hGe]
    rfl

/-- No place has its twin in the middle of a line end. -/
theorem spelledOffset_ne_split (hDrop : text.drop n = '\n' :: rest) (m : Nat) :
    spelledOffset text m ≠ spelledOffset text n + 1 := by
  have hNext := spelledOffset_feed hDrop
  -- a place after the line end is two characters further at least, any other is not further
  rcases Nat.lt_or_ge n m with hGt | hLe
  · have hMono := spelledOffset_mono text (show n + 1 ≤ m from hGt)
    omega
  · have hMono := spelledOffset_mono text hLe
    omega

/-- In the other spelling, no line feed comes without its return. -/
theorem withReturns_ne_feed {cs : List Char} : withReturns cs ≠ '\n' :: rest := by
  intro hSame
  cases cs with
  | nil => cases hSame
  | cons c tail =>
    by_cases hFeed : c = '\n'
    · subst hFeed
      cases hSame
    · rw [withReturns_cons hFeed] at hSame
      exact hFeed (List.cons.inj hSame).1

end Text

namespace Cursor

variable {c d : Cursor} {cs ds : List Cursor}

/-- A place of a text. -/
structure IsAt (text : List Char) (c : Cursor) : Prop where
  offset : c.offset ≤ text.length
  rest   : text.drop c.offset = c.rest

/-- The same place of the other spelling. -/
def twin (text : List Char) (c : Cursor) : Cursor :=
  ⟨spelledOffset text c.offset, c.before, withReturns c.rest⟩

/-- A place between the two characters of a line end. -/
inductive Split (text : List Char) : Cursor → Prop
  | mk {n : Nat} {rest : List Char} (hDrop : text.drop n = '\n' :: rest) :
      Split text ⟨spelledOffset text n + 1, some '\r', '\n' :: withReturns rest⟩

/-- Places of a text, and those of the other spelling: the twins in the same order, and splits
in between. -/
inductive Doubles (text : List Char) : List Cursor → List Cursor → Prop
  | nil : Doubles text [] []
  | twin {c : Cursor} {cs ds : List Cursor} (hAt : IsAt text c) (hRest : Doubles text cs ds) :
      Doubles text (c :: cs) (c.twin text :: ds)
  | split {d : Cursor} {cs ds : List Cursor} (hSplit : Split text d) (hRest : Doubles text cs ds) :
      Doubles text cs (d :: ds)

/-- The next place of a text is one of it. -/
theorem IsAt.next {before : Option Char} (hAt : IsAt text ⟨n, before, x :: rest⟩) :
    IsAt text ⟨n + 1, some x, rest⟩ := by
  have hDrop : text.drop n = x :: rest := hAt.rest
  have hLength := congrArg List.length hDrop
  rw [List.length_drop, List.length_cons] at hLength
  refine ⟨by show n + 1 ≤ text.length; omega, ?_⟩
  show text.drop (n + 1) = rest
  rw [← List.drop_drop, hDrop]
  rfl

/-- The twin of the next place is next to the twin, unless a line ends between them. -/
theorem twin_next {before : Option Char} (hAt : IsAt text ⟨n, before, x :: rest⟩)
    (hText : x ≠ '\n') :
    twin text ⟨n + 1, some x, rest⟩ = ⟨spelledOffset text n + 1, some x, withReturns rest⟩ := by
  rw [twin, spelledOffset_succ hAt.rest hText]

namespace Doubles

theorem single (hAt : IsAt text c) : Doubles text [c] [c.twin text] := .twin hAt .nil

theorem ite (hAt : IsAt text c) {P : Prop} [Decidable P] :
    Doubles text (if P then [c] else []) (if P then [c.twin text] else []) := by
  by_cases hHere : P
  · rw [if_pos hHere, if_pos hHere]
    exact single hAt
  · rw [if_neg hHere, if_neg hHere]
    exact .nil

theorem append {cs' ds' : List Cursor} (hFirst : Doubles text cs ds)
    (hSecond : Doubles text cs' ds') : Doubles text (cs ++ cs') (ds ++ ds') := by
  induction hFirst with
  | nil => exact hSecond
  | twin hAt _ ih => exact .twin hAt ih
  | split hSplit _ ih => exact .split hSplit ih

/-- Places within line ends have no twin and need none. -/
theorem of_splits (hSplits : ∀ d ∈ ds, Split text d) : Doubles text [] ds := by
  induction ds with
  | nil => exact .nil
  | cons d rest ih =>
    have hRest : ∀ e ∈ rest, Split text e := fun e he => hSplits e (List.mem_cons_of_mem _ he)
    exact .split (hSplits d List.mem_cons_self) (ih hRest)

/-- Places reached from twins and splits: from a split, none but splits may be reached. -/
theorem flatMap {f : Cursor → List Cursor} (hDoubles : Doubles text cs ds)
    (hTwin : ∀ c, IsAt text c → Doubles text (f c) (f (c.twin text)))
    (hSplit : ∀ d ∈ ds, Split text d → Doubles text [] (f d)) :
    Doubles text (cs.flatMap f) (ds.flatMap f) := by
  induction hDoubles with
  | nil => exact .nil
  | twin hAt _ ih =>
    rw [List.flatMap_cons, List.flatMap_cons]
    exact (hTwin _ hAt).append (ih fun d hd => hSplit d (List.mem_cons_of_mem _ hd))
  | split hHere _ ih =>
    rw [List.flatMap_cons]
    exact (hSplit _ List.mem_cons_self hHere).append
      (ih fun d hd => hSplit d (List.mem_cons_of_mem _ hd))

/-- A place of the other spelling is a twin or within a line end. -/
theorem twin_or_split (hDoubles : Doubles text cs ds) (hMem : d ∈ ds) :
    (∃ c ∈ cs, IsAt text c ∧ d = c.twin text) ∨ Split text d := by
  induction hDoubles with
  | nil => cases hMem
  | @twin c cs ds hAt _ ih =>
    rcases List.mem_cons.mp hMem with rfl | hRest
    · exact .inl ⟨c, List.mem_cons_self, hAt, rfl⟩
    · rcases ih hRest with ⟨b, hb, hTwin⟩ | hSplit
      · exact .inl ⟨b, List.mem_cons_of_mem _ hb, hTwin⟩
      · exact .inr hSplit
  | split hSplit _ ih =>
    rcases List.mem_cons.mp hMem with rfl | hRest
    · exact .inr hSplit
    · exact ih hRest

/-- Without splits, there are the twins and nothing else. -/
theorem eq_map (hDoubles : Doubles text cs ds) (hWhole : ∀ d ∈ ds, ¬ Split text d) :
    ds = cs.map (Cursor.twin text) := by
  induction hDoubles with
  | nil => rfl
  | twin hAt _ ih => rw [List.map_cons, ih fun d hd => hWhole d (List.mem_cons_of_mem _ hd)]
  | split hSplit _ _ => exact absurd hSplit (hWhole _ List.mem_cons_self)

/-- What is found at the first place where something is found. -/
theorem findSome? {α β : Type} {f : Cursor → Option α} {g : Cursor → Option β} {φ : α → β}
    (hDoubles : Doubles text cs ds)
    (hTwin : ∀ c ∈ cs, IsAt text c → g (c.twin text) = (f c).map φ)
    (hSplit : ∀ d ∈ ds, Split text d → g d = none) : ds.findSome? g = (cs.findSome? f).map φ := by
  induction hDoubles with
  | nil => rfl
  | twin hAt _ ih =>
    rw [List.findSome?_cons, List.findSome?_cons, hTwin _ List.mem_cons_self hAt,
      ih (fun c hc => hTwin c (List.mem_cons_of_mem _ hc))
        fun d hd => hSplit d (List.mem_cons_of_mem _ hd)]
    cases f _ <;> rfl
  | split hHere _ ih =>
    rw [List.findSome?_cons, hSplit _ List.mem_cons_self hHere]
    exact ih hTwin fun d hd => hSplit d (List.mem_cons_of_mem _ hd)

end Doubles

/-! ## Places that are dropped -/

theorem testBit_mark {seen k : Nat} :
    (seen ||| 1 <<< k).testBit n = (seen.testBit n || decide (k = n)) := by
  rw [Nat.testBit_or, Nat.one_shiftLeft, Nat.testBit_two_pow]

/-- Of places that have been seen, the twins have been seen, too, and dropping either keeps what
remains in line. -/
theorem Doubles.distinct (hDoubles : Doubles text cs ds) {seen seen' : Nat}
    (hSeen : ∀ n ≤ text.length, seen'.testBit (spelledOffset text n) = seen.testBit n) :
    Doubles text (distinct seen cs) (Cursor.distinct seen' ds) := by
  induction hDoubles generalizing seen seen' with
  | nil => exact .nil
  | @twin c cs ds hAt _ ih =>
    rw [Cursor.distinct, Cursor.distinct]
    have hHere : seen'.testBit (c.twin text).offset = seen.testBit c.offset := hSeen _ hAt.offset
    -- so both are dropped, or both are kept and marked
    rw [hHere]
    split
    · exact ih hSeen
    · refine .twin hAt (ih fun n hn => ?_)
      rw [testBit_mark, testBit_mark, hSeen n hn]
      show (_ || decide (spelledOffset text c.offset = spelledOffset text n)) = _
      simp only [spelledOffset_inj hAt.offset hn]
  | split hSplit _ ih =>
    rw [Cursor.distinct]
    split
    · exact ih hSeen
    · refine .split hSplit (ih fun n hn => ?_)
      obtain ⟨hDrop⟩ := hSplit
      -- the mark of a split is the mark of no twin
      rw [testBit_mark, hSeen n hn, decide_eq_false (spelledOffset_ne_split hDrop n).symm,
        Bool.or_false]

end Cursor

end ReviewPanel
