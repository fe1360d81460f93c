import Mathlib.Data.Finset.Card
import ReviewPanel.Slots
import ReviewPanel.Proofs.Roster

/-!
# Slots — filling them one by one

Outcomes that are inserted under distinct keys stand in the order of their
insertion, and none of them is touched again. This is the fact that both ways
of running agents rest on. Keys that are not distinct do no harm either: slots
are a map that remembers the order in which its keys first came
(`insertions_are_recorded`).

* `toList_fill`             — slots filled under distinct keys, listed.
* `keys_ofInsertions`       — any insertions leave distinct keys, in order.
* `get?_eq_some_iff`        — a key leads to the slot that carries it.
* `failures_eq_nil_iff`     — no slot fails iff every slot holds a result.
* `successes_eq_nil_iff`    — no slot holds a result iff every slot fails.
* `insert_comm_iff`         — when two insertions may be exchanged.
* `insertions_are_recorded` — what slots say of any insertions.
-/

namespace ReviewPanel.Slots

/-- Inserting under a new key adds a slot at the end. -/
theorem toList_insert_of_new {s : Slots} {key : String} {outcome : Outcome}
    (hNew : key ∉ s.keys) : (s.insert key outcome).toList = s.toList ++ [⟨key, outcome⟩] := by
  have hPut : Slot.key ⟨key, outcome⟩ ∉ s.toList.map Slot.key := hNew
  exact Roster.put_of_new hPut

/-- Slots filled one by one under keys that are new and distinct. -/
theorem toList_foldl_insert {β : Type} {key : β → String} {outcome : β → Outcome} :
    ∀ {xs : List β} {s : Slots}, (s.keys ++ xs.map key).Nodup →
      (xs.foldl (fun slots x => slots.insert (key x) (outcome x)) s).toList =
        s.toList ++ xs.map fun x => ⟨key x, outcome x⟩ := by
  intro xs
  induction xs with
  | nil =>
    intro s _
    simp
  | cons x rest ih =>
    intro s hKeys
    rw [List.map_cons, List.nodup_append] at hKeys
    obtain ⟨hOld, hNew, hApart⟩ := hKeys
    have hx : key x ∉ s.keys := fun hMem => hApart _ hMem _ (List.mem_cons_self ..) rfl
    have hStep := @toList_insert_of_new s (key x) (outcome x) hx
    -- the slot just added joins the old ones, the rest stays new
    have hKeys' : ((s.insert (key x) (outcome x)).keys ++ rest.map key).Nodup := by
      rw [keys, hStep, List.map_append, List.append_assoc, List.nodup_append]
      exact ⟨hOld, hNew, hApart⟩
    rw [List.foldl_cons, ih hKeys', hStep, List.append_assoc]
    rfl

/-- Slots filled one by one from none, under distinct keys. -/
theorem toList_fill {β : Type} {key : β → String} {outcome : β → Outcome} {xs : List β}
    (hKeys : (xs.map key).Nodup) :
    (xs.foldl (fun slots x => slots.insert (key x) (outcome x)) empty).toList =
      xs.map fun x => ⟨key x, outcome x⟩ := by
  have hFresh : (empty.keys ++ xs.map key).Nodup := hKeys
  rw [toList_foldl_insert hFresh]
  rfl

/-! ## Any insertions -/

/-- The slots that are left by inserting outcomes under keys, one after the other. -/
def ofInsertions (entries : List (String × Outcome)) : Slots :=
  entries.foldl (fun s e => s.insert e.1 e.2) empty

/-- The slots are those of the insertions, one after the other. -/
theorem toList_ofInsertions {entries : List (String × Outcome)} :
    (ofInsertions entries).toList =
      (entries.map fun e => (⟨e.1, e.2⟩ : Slot)).foldl (fun slots x => Roster.put Slot.key x slots)
        [] := by
  induction entries using List.reverseRecOn with
  | nil => rfl
  | append_singleton before e ih =>
    rw [List.map_append, List.foldl_append, ← ih, ofInsertions, List.foldl_append]
    rfl

/-- Keys stand where they were first inserted, each once. -/
theorem keys_ofInsertions {entries : List (String × Outcome)} :
    (ofInsertions entries).keys = (entries.map Prod.fst).eraseDups := by
  rw [keys, toList_ofInsertions, Roster.map_fill, List.map_map]
  rfl

/-- With distinct keys, each slot is what its key leads to. -/
theorem get?_of_mem {s : Slots} (hKeys : s.keys.Nodup) {slot : Slot} (hMem : slot ∈ s.toList) :
    s.get? slot.key = some slot.outcome := by
  rw [get?, Roster.find?_name hKeys hMem]
  rfl

/-- With distinct keys, a key leads to an outcome iff a slot holds the two. -/
theorem get?_eq_some_iff {s : Slots} (hKeys : s.keys.Nodup) {key : String} {outcome : Outcome} :
    s.get? key = some outcome ↔ ⟨key, outcome⟩ ∈ s.toList := by
  constructor
  · intro hFound
    obtain ⟨slot, hSlot, rfl⟩ := Option.map_eq_some_iff.mp hFound
    obtain ⟨hMem, rfl⟩ := Roster.mem_of_find? hSlot
    exact hMem
  · exact fun hMem => get?_of_mem hKeys hMem

/-! ## Slots that succeeded and slots that failed -/

/-- A success has no error. -/
theorem error?_eq_none_iff {o : Outcome} : o.error? = none ↔ o.isSuccess = true := by
  cases o <;> simp [Outcome.error?, Outcome.isSuccess]

/-- A failure has no result. -/
theorem result?_eq_none_iff {o : Outcome} : o.result? = none ↔ o.isSuccess = false := by
  cases o <;> simp [Outcome.result?, Outcome.isSuccess]

theorem isSome_result? (o : Outcome) : o.result?.isSome = o.isSuccess := by
  cases o <;> rfl

theorem isSome_error? (o : Outcome) : o.error?.isSome = !o.isSuccess := by
  cases o <;> rfl

theorem result?_eq_some_iff {o : Outcome} {result : RawResult} :
    o.result? = some result ↔ o = .success result := by
  cases o <;> simp [Outcome.result?]

theorem error?_eq_some_iff {o : Outcome} {message : String} :
    o.error? = some message ↔ ∃ f : Failure, o = .failure f ∧ f.message = message := by
  cases o <;> simp [Outcome.error?]

/-- No slot fails iff every slot holds a result. -/
theorem failures_eq_nil_iff {s : Slots} :
    s.failures = [] ↔ ∀ slot ∈ s.toList, slot.outcome.isSuccess = true := by
  simp [failures, List.filterMap_eq_nil_iff, error?_eq_none_iff]

/-- No slot holds a result iff every slot fails. -/
theorem successes_eq_nil_iff {s : Slots} :
    s.successes = [] ↔ ∀ slot ∈ s.toList, slot.outcome.isSuccess = false := by
  simp [successes, List.filterMap_eq_nil_iff, result?_eq_none_iff]

/-- What is read off some outcomes stands under the keys of their slots. -/
theorem mem_filterMap_iff {β : Type} {part : Outcome → Option β} {s : Slots} {key : String}
    {b : β} :
    (key, b) ∈ s.toList.filterMap (fun slot => (part slot.outcome).map (slot.key, ·)) ↔
      ∃ o, ⟨key, o⟩ ∈ s.toList ∧ part o = some b := by
  rw [List.mem_filterMap]
  constructor
  · rintro ⟨⟨k, o⟩, hMem, hSome⟩
    obtain ⟨x, hPart, hEq⟩ := Option.map_eq_some_iff.mp hSome
    cases hEq
    exact ⟨o, hMem, hPart⟩
  · rintro ⟨o, hMem, hPart⟩
    exact ⟨⟨key, o⟩, hMem, Option.map_eq_some_iff.mpr ⟨b, hPart, rfl⟩⟩

/-- A part of the slots keeps their keys, in their order. -/
theorem map_fst_filterMap {β : Type} {part : Outcome → Option β} {s : Slots} :
    (s.toList.filterMap fun slot => (part slot.outcome).map (slot.key, ·)).map Prod.fst =
      (s.toList.filter fun slot => (part slot.outcome).isSome).map Slot.key := by
  induction s.toList with
  | nil => rfl
  | cons slot rest ih =>
    rw [List.filterMap_cons, List.filter_cons]
    cases part slot.outcome with
    | none => exact ih
    | some b => exact congrArg (List.cons slot.key) ih

/-- The results are those of the slots that hold one. -/
theorem mem_successes_iff {s : Slots} {key : String} {result : RawResult} :
    (key, result) ∈ s.successes ↔ ⟨key, .success result⟩ ∈ s.toList := by
  rw [successes, mem_filterMap_iff]
  constructor
  · rintro ⟨o, hMem, hResult⟩
    rwa [result?_eq_some_iff.mp hResult] at hMem
  · intro hMem
    exact ⟨_, hMem, rfl⟩

/-- The messages are those of the slots that hold a failure. -/
theorem mem_failures_iff {s : Slots} {key message : String} :
    (key, message) ∈ s.failures ↔
      ∃ f : Failure, ⟨key, .failure f⟩ ∈ s.toList ∧ f.message = message := by
  rw [failures, mem_filterMap_iff]
  constructor
  · rintro ⟨o, hMem, hMessage⟩
    obtain ⟨f, rfl, hText⟩ := error?_eq_some_iff.mp hMessage
    exact ⟨f, hMem, hText⟩
  · rintro ⟨f, hMem, rfl⟩
    exact ⟨_, hMem, rfl⟩

/-- The results have the keys of the slots that succeeded. -/
theorem map_fst_successes {s : Slots} :
    s.successes.map Prod.fst =
      (s.toList.filter fun slot => slot.outcome.isSuccess).map Slot.key := by
  rw [successes, map_fst_filterMap]
  simp only [isSome_result?]

/-- The errors have the keys of the others. -/
theorem map_fst_failures {s : Slots} :
    s.failures.map Prod.fst =
      (s.toList.filter fun slot => !slot.outcome.isSuccess).map Slot.key := by
  rw [failures, map_fst_filterMap]
  simp only [isSome_error?]

/-! ## The record of all insertions -/

section Insertions

variable {entries : List (String × Outcome)} {s : Slots} {key : String} {outcome : Outcome}

/-- A key is there iff it was inserted. -/
theorem mem_keys_ofInsertions_iff :
    key ∈ (ofInsertions entries).keys ↔ ∃ e ∈ entries, e.1 = key := by
  rw [keys_ofInsertions, List.mem_eraseDups, List.mem_map]

/-- A key leads to the outcome that was last inserted under it. -/
theorem get?_ofInsertions_iff :
    (ofInsertions entries).get? key = some outcome ↔
      IsFirst (fun e => e.1 = key) entries.reverse (key, outcome) := by
  have hKey : ∀ e : String × Outcome, (e.1 == key) = true ↔ e.1 = key := fun e => beq_iff_eq
  have hFind : (ofInsertions entries).get? key =
      (entries.reverse.find? fun e => e.1 == key).map Prod.snd := by
    rw [get?, toList_ofInsertions, Roster.find?_fill, Roster.find?, ← List.map_reverse,
      List.find?_map, Option.map_map]
    rfl
  rw [hFind, Option.map_eq_some_iff]
  simp only [find?_eq_some_iff_isFirst hKey]
  constructor
  · rintro ⟨⟨k, o⟩, hFirst, rfl⟩
    -- what is found was inserted under the key that was asked for
    obtain ⟨_, _, _, rfl, _⟩ := id hFirst
    exact hFirst
  · intro hFirst
    exact ⟨(key, outcome), hFirst, rfl⟩

theorem contains_iff : s.contains key = true ↔ key ∈ s.keys := by
  rw [contains, get?, Option.isSome_map, Roster.find?, List.find?_isSome, keys, List.mem_map]
  simp only [beq_iff_eq]

/-- With distinct keys, the outcomes are those that the keys lead to. -/
theorem map_get?_keys (hKeys : s.keys.Nodup) :
    s.keys.map s.get? = s.toList.map fun slot => some slot.outcome := by
  rw [keys, List.map_map]
  exact List.map_congr_left fun slot hMem => get?_of_mem hKeys hMem

/-- Every key is that of one success or of one failure. -/
theorem successes_append_failures_perm :
    (s.successes.map Prod.fst ++ s.failures.map Prod.fst).Perm s.keys := by
  rw [map_fst_successes, map_fst_failures, ← List.map_append]
  exact (List.filter_append_perm (fun slot => slot.outcome.isSuccess) s.toList).map Slot.key

/-- Insertions under two keys go in either order iff one of the keys is there. -/
theorem insert_comm_iff {key' : String} {outcome' : Outcome} (hKeys : key ≠ key') :
    (s.insert key outcome).insert key' outcome' = (s.insert key' outcome').insert key outcome ↔
      key ∈ s.keys ∨ key' ∈ s.keys := by
  have hNames : Slot.key ⟨key, outcome⟩ ≠ Slot.key ⟨key', outcome'⟩ := hKeys
  rw [insert, insert, insert, insert, mk.injEq]
  exact Roster.put_comm_iff hNames

/-- What slots say of the insertions that filled them. -/
structure Records (s : Slots) (entries : List (String × Outcome)) : Prop where
  distinct   : s.keys.Nodup
  order      : s.keys = (entries.map Prod.fst).eraseDups
  found      : ∀ key outcome, s.get? key = some outcome ↔
                 IsFirst (fun e => e.1 = key) entries.reverse (key, outcome)
  contained  : ∀ key, s.contains key = true ↔ ∃ e ∈ entries, e.1 = key
  outcomes   : s.toList.map (fun slot => some slot.outcome) = s.keys.map s.get?
  size       : s.size = (entries.map Prod.fst).toFinset.card
  /-- Successes and failures stand in the order of the slots, and are all there is. -/
  ordered    : (s.successes.map Prod.fst).Sublist s.keys ∧
                 (s.failures.map Prod.fst).Sublist s.keys
  parted     : (s.successes.map Prod.fst ++ s.failures.map Prod.fst).Perm s.keys
  successes  : ∀ key result, (key, result) ∈ s.successes ↔ s.get? key = some (.success result)
  failures   : ∀ key message, (key, message) ∈ s.failures ↔
                 ∃ f : Failure, s.get? key = some (.failure f) ∧ f.message = message
  exchanged  : ∀ key key' outcome outcome', key ≠ key' →
                 ((s.insert key outcome).insert key' outcome' =
                     (s.insert key' outcome').insert key outcome ↔
                   s.contains key = true ∨ s.contains key' = true)

/--
**Slots are a map that remembers an order.** Whatever outcomes are inserted under
whatever keys, the keys are pairwise distinct and stand where they were first
inserted, while each leads to the outcome that was last inserted under it, and no
other key leads anywhere; there are as many slots as different keys. Successes
and failures each keep the order of the slots, and every slot is one of the two.
Insertions under two different keys may be exchanged iff one of the keys is there
already, so in particular where both are.
-/
theorem insertions_are_recorded (entries : List (String × Outcome)) :
    (ofInsertions entries).Records entries where
  distinct := keys_ofInsertions ▸ nodup_eraseDups
  order := keys_ofInsertions
  found _ _ := get?_ofInsertions_iff
  contained _ := contains_iff.trans mem_keys_ofInsertions_iff
  outcomes := (map_get?_keys (keys_ofInsertions ▸ nodup_eraseDups)).symm
  size := by
    have hDistinct : (ofInsertions entries).keys.Nodup := keys_ofInsertions ▸ nodup_eraseDups
    -- the keys are those of the insertions, as sets
    have hSame : (ofInsertions entries).keys.toFinset = (entries.map Prod.fst).toFinset := by
      ext key
      rw [List.mem_toFinset, List.mem_toFinset, mem_keys_ofInsertions_iff, List.mem_map]
    rw [← hSame, List.toFinset_card_of_nodup hDistinct, keys, List.length_map]
    rfl
  ordered := by
    rw [map_fst_successes, map_fst_failures]
    exact ⟨List.filter_sublist.map Slot.key, List.filter_sublist.map Slot.key⟩
  parted := successes_append_failures_perm
  successes key result := by
    rw [mem_successes_iff, get?_eq_some_iff (keys_ofInsertions ▸ nodup_eraseDups)]
  failures key message := by
    simp only [mem_failures_iff, get?_eq_some_iff (keys_ofInsertions ▸ nodup_eraseDups)]
  exchanged _ _ _ _ hKeys := by
    rw [contains_iff, contains_iff]
    exact insert_comm_iff hKeys

end Insertions

end ReviewPanel.Slots
