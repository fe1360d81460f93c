import ReviewPanel.Proofs.Roster
import ReviewPanel.Registry

/-!
# Registrations — what a registry remembers

A registry is filled by one registration after the other. Of each category it
remembers who was registered first, so that the first one can stand in for the
others, and under each name only the last agent. A registration under one
category leaves the others alone, so what is registered under different
categories may come in any order.

* `agents_register`             — what one registration does.
* `agents_registerAll`          — and what a sequence of them does.
* `get?_registerAll_iff`        — the last agent of a name is the one that is found.
* `registerAll_swap`            — registrations under different categories commute.
* `registrations_are_recorded`  — all that a registry says of its registrations.
-/

namespace ReviewPanel.Registry

variable {r : Registry} {c c' : Category} {i j : Instance} {name : String}
  {calls : List (Category × Instance)}

/-! ## One registration -/

/-- A registration changes one category, and leaves every other one alone. -/
theorem agents_register :
    (r.register c i).agents c' =
      if c' = c then Roster.put Instance.name i (r.agents c') else r.agents c' := by
  by_cases hSame : c' = c
  · subst hSame
    rfl
  · rw [if_neg hSame]
    exact if_neg hSame

/-- A registration under one category changes no other. -/
theorem agents_register_of_ne (hOther : c' ≠ c) : (r.register c i).agents c' = r.agents c' := by
  rw [agents_register, if_neg hOther]

theorem ext_agents {r r' : Registry} (hAgents : ∀ c, r.agents c = r'.agents c) : r = r' := by
  obtain ⟨agents⟩ := r
  obtain ⟨agents'⟩ := r'
  exact congrArg mk (funext hAgents)

/-- Two registrations under different categories may come in either order. -/
theorem register_comm (hOther : c ≠ c') :
    (r.register c i).register c' j = (r.register c' j).register c i := by
  apply ext_agents
  intro x
  simp only [agents_register]
  by_cases hx : x = c
  · have hNot : ¬ x = c' := fun hx' => hOther (hx.symm.trans hx')
    simp only [if_neg hNot]
  · simp only [if_neg hx]

/-! ## Registrations one after the other -/

/-- The agents that registrations put under a category, repetitions included. -/
def registeredUnder (c : Category) (calls : List (Category × Instance)) : List Instance :=
  (calls.filter fun e => e.1 == c).map Prod.snd

theorem mem_registeredUnder_iff : i ∈ registeredUnder c calls ↔ (c, i) ∈ calls := by
  simp [registeredUnder]

/-- A category has the agents that were put under it one by one. -/
theorem agents_registerAll :
    (r.registerAll calls).agents c =
      (registeredUnder c calls).foldl (fun roster i => Roster.put Instance.name i roster)
        (r.agents c) := by
  induction calls generalizing r with
  | nil => rfl
  | cons e rest ih =>
    have hStep : r.registerAll (e :: rest) = (r.register e.1 e.2).registerAll rest := rfl
    rw [hStep, ih, agents_register, registeredUnder, registeredUnder, List.filter_cons]
    by_cases hHere : e.1 = c
    · rw [if_pos hHere.symm, if_pos (beq_iff_eq.mpr hHere)]
      rfl
    · rw [if_neg fun hSame => hHere hSame.symm, if_neg fun hBeq => hHere (beq_iff_eq.mp hBeq)]

/-- Wherever two registrations under different categories follow each other,
they may be swapped. -/
theorem registerAll_swap {before after : List (Category × Instance)} {e e' : Category × Instance}
    (hOther : e.1 ≠ e'.1) :
    r.registerAll (before ++ e :: e' :: after) = r.registerAll (before ++ e' :: e :: after) := by
  have hBoth : ∀ s : Registry, s.registerAll (e :: e' :: after) =
      s.registerAll (e' :: e :: after) := by
    intro s
    change ((s.register e.1 e.2).register e'.1 e'.2).registerAll after = _
    rw [register_comm hOther]
    rfl
  have hSplit : ∀ xs, r.registerAll (before ++ xs) = (r.registerAll before).registerAll xs :=
    fun xs => List.foldl_append
  rw [hSplit, hSplit, hBoth]

/-! ## Names -/

/-- The names of a category stand in the order in which they were first registered. -/
theorem names_registerAll :
    (empty.registerAll calls).names c =
      ((registeredUnder c calls).map Instance.name).eraseDups := by
  rw [names, agents_registerAll]
  exact Roster.map_fill

/-- A name is replaced, not repeated. -/
theorem names_nodup : ((empty.registerAll calls).names c).Nodup := by
  rw [names_registerAll]
  exact nodup_eraseDups

/-- The names of a category are those it was given. -/
theorem mem_names_registerAll_iff :
    name ∈ (empty.registerAll calls).names c ↔ ∃ e ∈ calls, e.1 = c ∧ e.2.name = name := by
  rw [names_registerAll, List.mem_eraseDups, List.mem_map]
  constructor
  · rintro ⟨i, hMem, hName⟩
    exact ⟨(c, i), mem_registeredUnder_iff.mp hMem, rfl, hName⟩
  · rintro ⟨⟨_, i⟩, hMem, rfl, hName⟩
    exact ⟨i, mem_registeredUnder_iff.mpr hMem, hName⟩

/-! ## Look-up -/

/-- Under a name the last agent is found that was registered with it. -/
theorem get?_registerAll_iff :
    (empty.registerAll calls).get? c name = some i ↔
      IsFirst (fun e => e.1 = c ∧ e.2.name = name) calls.reverse (c, i) := by
  have hKind : ∀ e : Category × Instance,
      (e.1 == c && e.2.name == name) = true ↔ e.1 = c ∧ e.2.name = name := by
    intro e
    rw [Bool.and_eq_true, beq_iff_eq, beq_iff_eq]
  have hFind : (empty.registerAll calls).get? c name =
      (calls.reverse.find? fun e => e.1 == c && e.2.name == name).map Prod.snd := by
    rw [get?, agents_registerAll]
    change Roster.find? _ _ (List.foldl _ [] _) = _
    rw [Roster.find?_fill, Roster.find?, registeredUnder, ← List.map_reverse, ← List.filter_reverse,
      List.find?_map, List.find?_filter]
    simp only [Bool.decide_and, Bool.decide_eq_true]
    rfl
  rw [hFind, Option.map_eq_some_iff]
  simp only [find?_eq_some_iff_isFirst hKind]
  constructor
  · rintro ⟨⟨x, j⟩, hFirst, rfl⟩
    -- what is found is of the category that was asked for
    obtain ⟨_, _, _, ⟨rfl, _⟩, _⟩ := id hFirst
    exact hFirst
  · intro hFirst
    exact ⟨(c, i), hFirst, rfl⟩

/-- Nobody is found under a name iff nobody was registered with it. -/
theorem get?_eq_none_iff : r.get? c name = none ↔ name ∉ r.names c := by
  rw [get?, Roster.find?, List.find?_eq_none, names, List.mem_map, not_exists]
  constructor
  · rintro hNone i ⟨hMem, hName⟩
    exact hNone i hMem (beq_iff_eq.mpr hName)
  · intro hNone i hMem hName
    exact hNone i ⟨hMem, beq_iff_eq.mp hName⟩

/-- An agent is required as it is found. -/
theorem require_eq_ok_iff : r.require c name = .ok i ↔ r.get? c name = some i := by
  rw [require]
  cases r.get? c name <;> simp

/-- One that is not found is asked for by category and name in the error. -/
theorem require_eq_error_iff {error : AgentError} :
    r.require c name = .error error ↔
      r.get? c name = none ∧ error = .notFound (c.label ++ "/" ++ name) := by
  rw [require]
  cases r.get? c name <;> simp [eq_comm]

/-- Where no name is repeated, an agent is what is found under its name. -/
theorem get?_of_mem (hNames : (r.names c).Nodup) (hMem : i ∈ r.agents c) :
    r.get? c i.name = some i := Roster.find?_name hNames hMem

/-- Where no name is repeated, the agents are those that are found under the names. -/
theorem map_get?_names (hNames : (r.names c).Nodup) :
    (r.names c).map (r.get? c) = (r.agents c).map some := by
  rw [names, List.map_map]
  exact List.map_congr_left fun i hMem => get?_of_mem hNames hMem

/-- The first agent is the one that is found under the first name. -/
theorem first?_eq_get? (hNames : (r.names c).Nodup) :
    r.first? c = (r.names c).head?.bind (r.get? c) := by
  rw [first?, names, List.head?_map]
  cases hHead : (r.agents c).head? with
  | none => rfl
  | some i => exact (get?_of_mem hNames (List.mem_of_head? hHead)).symm

/-! ## Categories and counts -/

/-- A category is listed iff it has an agent. -/
theorem mem_categories_iff : c ∈ r.categories ↔ ∃ name, name ∈ r.names c := by
  have hAll : c ∈ Category.all := by cases c <;> decide
  rw [categories, List.mem_filter, names]
  cases r.agents c <;> simp [hAll]

/-- The pairs of category and name under which a registry has agents. -/
def places (r : Registry) : List (Category × String) :=
  Category.all.flatMap fun c => (r.names c).map fun name => (c, name)

theorem mem_places_iff {place : Category × String} :
    place ∈ r.places ↔ place.2 ∈ r.names place.1 := by
  obtain ⟨c, name⟩ := place
  have hAll : c ∈ Category.all := by cases c <;> decide
  simp [places, hAll]

/-- No place is listed twice. -/
theorem places_nodup (hNames : ∀ c, (r.names c).Nodup) : r.places.Nodup := by
  rw [places, List.nodup_flatMap]
  refine ⟨fun c _ => (hNames c).map fun _ _ hPair => (Prod.mk.inj hPair).2, ?_⟩
  have hApart : Category.all.Nodup := by decide
  refine hApart.imp ?_
  -- places of different categories differ
  intro c c' hNe place hHere hThere
  obtain ⟨_, -, rfl⟩ := List.mem_map.mp hHere
  obtain ⟨_, -, hPair⟩ := List.mem_map.mp hThere
  exact hNe (Prod.mk.inj hPair).1.symm

/-- The size counts places, not calls. -/
theorem size_eq_length_places : r.size = r.places.length := by
  rw [size, places, List.length_flatMap, List.length_flatMap]
  simp [names]

/-- A registry counts each pair of category and name once. -/
theorem size_registerAll :
    (empty.registerAll calls).size =
      ((calls.map fun e => (e.1, e.2.name)).eraseDups).length := by
  have hMem : ∀ place, place ∈ (empty.registerAll calls).places ↔
      place ∈ (calls.map fun e => (e.1, e.2.name)).eraseDups := by
    intro place
    rw [mem_places_iff, mem_names_registerAll_iff, List.mem_eraseDups, List.mem_map]
    simp only [Prod.ext_iff]
  rw [size_eq_length_places]
  exact ((List.perm_ext_iff_of_nodup (places_nodup fun _ => names_nodup) nodup_eraseDups).mpr
    hMem).length_eq

/-! ## The record of all registrations -/

/-- What a registry says of the registrations that filled it. -/
structure Records (r : Registry) (calls : List (Category × Instance)) : Prop where
  distinct   : ∀ c, (r.names c).Nodup
  order      : ∀ c, r.names c = ((registeredUnder c calls).map Instance.name).eraseDups
  found      : ∀ c name i, r.get? c name = some i ↔
                 IsFirst (fun e => e.1 = c ∧ e.2.name = name) calls.reverse (c, i)
  missing    : ∀ c name, r.get? c name = none ↔ ¬ ∃ e ∈ calls, e.1 = c ∧ e.2.name = name
  required   : ∀ c name i, r.require c name = .ok i ↔ r.get? c name = some i
  refused    : ∀ c name error, r.require c name = .error error ↔
                 r.get? c name = none ∧ error = .notFound (c.label ++ "/" ++ name)
  agents     : ∀ c, (r.agents c).map some = (r.names c).map (r.get? c)
  first      : ∀ c, r.first? c = (r.names c).head?.bind (r.get? c)
  sorted     : r.categories.Sublist Category.all
  categories : ∀ c, c ∈ r.categories ↔ ∃ e ∈ calls, e.1 = c
  size       : r.size = ((calls.map fun e => (e.1, e.2.name)).eraseDups).length

theorem records_registerAll (calls : List (Category × Instance)) :
    (empty.registerAll calls).Records calls where
  distinct _ := names_nodup
  order _ := names_registerAll
  found _ _ _ := get?_registerAll_iff
  missing c name := by rw [get?_eq_none_iff, mem_names_registerAll_iff]
  required _ _ _ := require_eq_ok_iff
  refused _ _ _ := require_eq_error_iff
  agents _ := (map_get?_names names_nodup).symm
  first _ := first?_eq_get? names_nodup
  sorted := List.filter_sublist
  categories c := by
    rw [mem_categories_iff]
    simp only [mem_names_registerAll_iff]
    constructor
    · rintro ⟨_, e, hMem, hHere, -⟩
      exact ⟨e, hMem, hHere⟩
    · rintro ⟨e, hMem, hHere⟩
      exact ⟨e.2.name, e, hMem, hHere, rfl⟩
  size := size_registerAll

/--
**A registry records its registrations.** Let a registry be filled in any way.
Each category lists its names without repetition, in the order in which they
were first registered; a name leads to the agent that was last registered with
it, and to nobody, as an error that names the place, iff nobody was. The agents
of a category, and the first of them, are those that its names lead to. The
categories are those that somebody was registered under, in their fixed order,
and the size is the number of different pairs of category and name. A
registration changes no other category than its own; so two of them under
different categories have the same effect in either order, wherever they follow
each other.
-/
theorem registrations_are_recorded (calls : List (Category × Instance)) :
    (empty.registerAll calls).Records calls ∧
    (∀ c c' i, c' ≠ c →
      (empty.registerAll (calls ++ [(c, i)])).agents c' = (empty.registerAll calls).agents c') ∧
    (∀ e e' after, e.1 ≠ e'.1 →
      empty.registerAll (calls ++ e :: e' :: after) =
        empty.registerAll (calls ++ e' :: e :: after)) := by
  refine ⟨records_registerAll calls, ?_, ?_⟩
  · intro c c' i hOther
    have hStep : empty.registerAll (calls ++ [(c, i)]) = (empty.registerAll calls).register c i :=
      List.foldl_append
    rw [hStep, agents_register_of_ne hOther]
  · intro e e' after hOther
    exact registerAll_swap hOther

end ReviewPanel.Registry
