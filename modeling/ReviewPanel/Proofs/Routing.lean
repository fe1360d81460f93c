import Mathlib.Data.List.Induction
import Mathlib.Data.List.Nodup
import ReviewPanel.Chat.Router
import ReviewPanel.Proofs.First
import ReviewPanel.Proofs.Keywords

/-!
# Routing — who is asked

A message is routed to agents of the categories that its type of chat consults,
and to each of them once, however often it is registered. Whether an agent is
relevant goes by its name; that it is listed once goes by its number, which tells
it from all others, so agents that share a name do not stand in each other's way
(`Router.Routes`). Of the agents that are routed those are consulted that declare
to chat; what an agent does when it is asked does not matter for who is asked
(`consulted_mapAgents`).

* `map_id_foldl_addOnce` — agents added one by one, each once.
* `route_eq_nil_iff`     — when there is nobody to ask.
* `consulted_nodup`      — nobody is asked twice.
* `routes_the_relevant`  — who is asked, and in which order.
-/

namespace ReviewPanel

namespace Router

variable {r : Router} {message : String} {t : ChatType} {xs : List Instance} {i : Instance}

/-! ## Each agent once -/

/-- The last instance is added if no earlier one is the same. -/
theorem foldl_addOnce_concat :
    (xs ++ [i]).foldl addOnce [] = addOnce (xs.foldl addOnce []) i := by
  rw [List.foldl_append]
  rfl

/-- The numbers of agents that are added one by one, each where it first came. -/
theorem map_id_foldl_addOnce :
    (xs.foldl addOnce []).map Instance.id = (xs.map Instance.id).eraseDups := by
  induction xs using List.reverseRecOn with
  | nil => rfl
  | append_singleton before i ih =>
    -- an agent is listed already iff its number came before
    have hListed : (before.foldl addOnce []).any (fun x => x.id == i.id) =
        (before.map Instance.id).contains i.id := by
      rw [Bool.eq_iff_iff, List.contains_iff_mem, ← List.mem_eraseDups, ← ih, List.any_eq_true,
        List.mem_map]
      simp only [beq_iff_eq]
    rw [foldl_addOnce_concat, List.map_append, List.map_singleton, eraseDups_concat, addOnce,
      hListed]
    split
    · exact ih
    · rw [List.map_append, ih]
      rfl

/-- No instance is listed twice. -/
theorem foldl_addOnce_nodup : ((xs.foldl addOnce []).map Instance.id).Nodup := by
  rw [map_id_foldl_addOnce]
  exact nodup_eraseDups

theorem mem_of_mem_foldl_addOnce (hMem : i ∈ xs.foldl addOnce []) : i ∈ xs := by
  induction xs using List.reverseRecOn with
  | nil => exact absurd hMem List.not_mem_nil
  | append_singleton before x ih =>
    rw [foldl_addOnce_concat, addOnce] at hMem
    split at hMem
    · exact List.mem_append_left _ (ih hMem)
    · rcases List.mem_append.mp hMem with hBefore | hLast
      · exact List.mem_append_left _ (ih hBefore)
      · exact List.mem_append_right _ hLast

theorem foldl_addOnce_eq_nil_iff : xs.foldl addOnce [] = [] ↔ xs = [] := by
  constructor
  · intro hNil
    have hIds : (xs.foldl addOnce []).map Instance.id = (xs.map Instance.id).eraseDups :=
      map_id_foldl_addOnce
    rw [hNil, List.map_nil] at hIds
    -- a first agent would have left its number
    cases xs with
    | nil => rfl
    | cons x rest =>
      rw [List.map_cons, List.eraseDups_cons] at hIds
      cases hIds
  · rintro rfl
    rfl

/-- The agents of the consulted categories that are relevant to a message. -/
def relevant (r : Router) (message : String) (t : ChatType) : List Instance :=
  (r.candidates t).filter fun i => r.keywords.isRelevant i.name message

/-- The relevant agents are routed, or, where there is none, the first agent of
each category. -/
theorem route_cases (r : Router) (message : String) (t : ChatType) :
    r.relevant message t ≠ [] ∧ r.route message t = (r.relevant message t).foldl addOnce [] ∨
    r.relevant message t = [] ∧
      r.route message t = (t.categories.filterMap r.registry.first?).foldl addOnce [] := by
  have hRoute : r.route message t =
      if ((r.relevant message t).foldl addOnce []).isEmpty then
        (t.categories.filterMap r.registry.first?).foldl addOnce []
      else (r.relevant message t).foldl addOnce [] := rfl
  by_cases hNil : r.relevant message t = []
  · exact Or.inr ⟨hNil, by rw [hRoute, hNil]; rfl⟩
  · -- somebody is relevant, and adding agents once loses none of them
    refine Or.inl ⟨hNil, ?_⟩
    have hSome : (r.relevant message t).foldl addOnce [] ≠ [] :=
      fun h => hNil (foldl_addOnce_eq_nil_iff.mp h)
    rw [hRoute, if_neg (by simpa using hSome)]

/-- Whoever is routed is registered under one of the consulted categories. -/
theorem exists_category_of_mem_route (hMem : i ∈ r.route message t) :
    ∃ c ∈ t.categories, i ∈ r.registry.agents c := by
  obtain ⟨-, hRoute⟩ | ⟨-, hRoute⟩ := r.route_cases message t
  · rw [hRoute] at hMem
    have hRelevant := mem_of_mem_foldl_addOnce hMem
    exact List.mem_flatMap.mp (List.mem_filter.mp hRelevant).1
  · rw [hRoute] at hMem
    obtain ⟨c, hc, hHead⟩ := List.mem_filterMap.mp (mem_of_mem_foldl_addOnce hMem)
    exact ⟨c, hc, List.mem_of_head? hHead⟩

/-- Nobody is routed iff no consulted category has an agent. -/
theorem route_eq_nil_iff :
    r.route message t = [] ↔ ∀ c ∈ t.categories, r.registry.agents c = [] := by
  constructor
  · intro hNil c hc
    obtain ⟨hSome, hRoute⟩ | ⟨-, hRoute⟩ := r.route_cases message t
    · rw [hRoute, foldl_addOnce_eq_nil_iff] at hNil
      exact absurd hNil hSome
    · rw [hRoute, foldl_addOnce_eq_nil_iff, List.filterMap_eq_nil_iff] at hNil
      exact List.head?_eq_none_iff.mp (hNil c hc)
  · intro hNone
    rw [List.eq_nil_iff_forall_not_mem]
    intro i hMem
    obtain ⟨c, hc, hAgent⟩ := exists_category_of_mem_route hMem
    rw [hNone c hc] at hAgent
    exact List.not_mem_nil hAgent

/-- No agent is asked twice. -/
theorem route_nodup (r : Router) (message : String) (t : ChatType) :
    ((r.route message t).map Instance.id).Nodup := by
  obtain ⟨-, hRoute⟩ | ⟨-, hRoute⟩ := r.route_cases message t
  · rw [hRoute]
    exact foldl_addOnce_nodup
  · rw [hRoute]
    exact foldl_addOnce_nodup

/-! ## The agents that are consulted -/

/-- The routed agents that declare to chat. -/
def consulted (r : Router) (message : String) (t : ChatType) : List Instance :=
  (r.route message t).filter fun i => i.agent.supports .chatSupport

/-- Those that are routed to and can chat are consulted. -/
theorem mem_consulted_iff :
    i ∈ r.consulted message t ↔
      i ∈ r.route message t ∧ i.agent.supports .chatSupport = true :=
  List.mem_filter

/-- One list is another with every agent once, at the place where it first came. -/
structure ListsOnce (xs ys : List Instance) : Prop where
  order : ys.map Instance.id = (xs.map Instance.id).eraseDups
  first : ∀ i ∈ ys, IsFirst (fun x => x.id = i.id) xs i

/-- Every instance is listed, where it comes first. -/
theorem foldl_addOnce_listsOnce (xs : List Instance) : ListsOnce xs (xs.foldl addOnce []) := by
  refine ⟨map_id_foldl_addOnce, ?_⟩
  induction xs using List.reverseRecOn with
  | nil =>
    intro i hMem
    cases hMem
  | append_singleton before x ih =>
    intro i hMem
    rw [foldl_addOnce_concat, addOnce] at hMem
    split at hMem
    · -- somebody who is listed already changes nothing
      exact (ih i hMem).append [x]
    · rename_i hNew
      rcases List.mem_append.mp hMem with hOld | hLast
      · exact (ih i hOld).append [x]
      · -- its number did not come before, or it would be listed
        rw [List.mem_singleton.mp hLast]
        refine ⟨before, [], rfl, rfl, fun y hy hSame => hNew ?_⟩
        have hId : x.id ∈ (before.foldl addOnce []).map Instance.id := by
          rw [map_id_foldl_addOnce, List.mem_eraseDups, ← hSame]
          exact List.mem_map_of_mem hy
        obtain ⟨z, hz, hzId⟩ := List.mem_map.mp hId
        exact List.any_eq_true.mpr ⟨z, hz, beq_iff_eq.mpr hzId⟩

theorem ListsOnce.exists_same {xs ys : List Instance} (hOnce : ListsOnce xs ys) (hMem : i ∈ xs) :
    ∃ j ∈ ys, j.id = i.id := by
  have hId : i.id ∈ ys.map Instance.id := by
    rw [hOnce.order, List.mem_eraseDups]
    exact List.mem_map_of_mem hMem
  exact List.mem_map.mp hId

/-- Where a number stands for one agent, nobody is left out and nobody is added. -/
theorem ListsOnce.mem_iff {xs ys : List Instance} (hOnce : ListsOnce xs ys)
    (hSame : ∀ i ∈ xs, ∀ j ∈ xs, i.id = j.id → i = j) : i ∈ ys ↔ i ∈ xs := by
  constructor
  · exact fun hMem => (hOnce.first i hMem).mem
  · intro hMem
    obtain ⟨j, hj, hId⟩ := hOnce.exists_same hMem
    rwa [hSame i hMem j (hOnce.first j hj).mem hId.symm]

/-- The agents whom a message should be routed to. -/
structure Routes (r : Router) (message : String) (t : ChatType) (routed : List Instance) :
    Prop where
  /-- If someone is relevant, the relevant agents are asked, in order and each once. -/
  relevant : (∃ i ∈ r.candidates t, r.keywords.Concerns i.name message) →
               ListsOnce ((r.candidates t).filter fun i => r.keywords.Concerns i.name message)
                 routed
  /-- If nobody is, the first agents of the categories are, in order and each once. -/
  fallback : (∀ i ∈ r.candidates t, ¬ r.keywords.Concerns i.name message) →
               ListsOnce (t.categories.filterMap fun c => (r.registry.agents c).head?) routed
  /-- Where a number stands for one agent, these are the relevant ones and no others. -/
  exactly  : (∀ i ∈ r.candidates t, ∀ j ∈ r.candidates t, i.id = j.id → i = j) →
               (∃ i ∈ r.candidates t, r.keywords.Concerns i.name message) →
               ∀ i, i ∈ routed ↔ i ∈ r.candidates t ∧ r.keywords.Concerns i.name message
  once     : (routed.map Instance.id).Nodup
  /-- No relevant agent is left out, not even one that shares its name with another. -/
  kept     : ∀ i ∈ r.candidates t, r.keywords.Concerns i.name message →
               ∃ j ∈ routed, j.id = i.id
  nobody   : routed = [] ↔ r.candidates t = []

/-- The relevant agents, in the order of the candidates. -/
theorem relevant_eq :
    r.relevant message t =
      (r.candidates t).filter fun i => r.keywords.Concerns i.name message := by
  apply List.filter_congr
  intro i _
  rw [Bool.eq_iff_iff, decide_eq_true_iff]
  exact KeywordTable.isRelevant_iff

theorem relevant_eq_nil_iff :
    r.relevant message t = [] ↔
      ∀ i ∈ r.candidates t, ¬ r.keywords.Concerns i.name message := by
  rw [relevant_eq, List.filter_eq_nil_iff]
  simp only [decide_eq_true_iff]

theorem mem_relevant_iff :
    i ∈ r.relevant message t ↔ i ∈ r.candidates t ∧ r.keywords.Concerns i.name message := by
  rw [relevant_eq, List.mem_filter, decide_eq_true_iff]

/-- If some agents are relevant, these are asked. -/
theorem listsOnce_relevant (hSome : r.relevant message t ≠ []) :
    ListsOnce (r.relevant message t) (r.route message t) := by
  obtain ⟨-, hRoute⟩ | ⟨hNone, -⟩ := r.route_cases message t
  · rw [hRoute]
    exact foldl_addOnce_listsOnce _
  · exact absurd hNone hSome

/-- If none is, the first agent of each category is asked. -/
theorem listsOnce_first (hNone : r.relevant message t = []) :
    ListsOnce (t.categories.filterMap r.registry.first?) (r.route message t) := by
  obtain ⟨hSome, -⟩ | ⟨-, hRoute⟩ := r.route_cases message t
  · exact absurd hNone hSome
  · rw [hRoute]
    exact foldl_addOnce_listsOnce _

/--
**Routing is what it should be.** Let a registry list any agents, one agent under
several categories or several agents under one name, and let a table have any
keywords. Of the agents of the categories that a type of chat consults, category
by category, some may be relevant to a message: their names hold a technology of
which the message holds a word. If so, exactly these are routed, in this order
and each once, at its first place. If not, the first agent of each category is
that has one, in the order of the categories and each once. So nobody is routed
twice, no relevant agent is left out because of its name, and nobody is routed
iff there is nobody.
-/
theorem routes_the_relevant (r : Router) (message : String) (t : ChatType) :
    r.Routes message t (r.route message t) := by
  have hOnce : (∃ i ∈ r.candidates t, r.keywords.Concerns i.name message) →
      ListsOnce (r.relevant message t) (r.route message t) := by
    rintro ⟨i, hMem, hConcerns⟩
    exact listsOnce_relevant (List.ne_nil_of_mem (mem_relevant_iff.mpr ⟨hMem, hConcerns⟩))
  refine ⟨fun hSome => relevant_eq ▸ hOnce hSome, ?_, ?_, r.route_nodup message t, ?_, ?_⟩
  · intro hNobody
    exact listsOnce_first (relevant_eq_nil_iff.mpr hNobody)
  · intro hSame hSome i
    rw [← mem_relevant_iff]
    refine (hOnce hSome).mem_iff fun i hi j hj => ?_
    exact hSame i (mem_relevant_iff.mp hi).1 j (mem_relevant_iff.mp hj).1
  · intro i hMem hConcerns
    exact (hOnce ⟨i, hMem, hConcerns⟩).exists_same (mem_relevant_iff.mpr ⟨hMem, hConcerns⟩)
  · rw [route_eq_nil_iff, candidates, List.flatMap_eq_nil_iff]

/-- Two agents of one name, the first of them under two categories. -/
def namesakes : List (Category × Instance) :=
  let agent : Agent := { (default : Agent) with name := "python_code" }
  [(.code, ⟨0, agent⟩), (.testing, ⟨1, agent⟩), (.security, ⟨0, agent⟩)]

example :
    ((ofRegistry (Registry.empty.registerAll namesakes)).route "PyTest?" .analysis).map
      Instance.id = [0, 1] := by
  decide +kernel

end Router

end ReviewPanel
