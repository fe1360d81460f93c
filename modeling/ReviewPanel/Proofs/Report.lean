import Mathlib.Algebra.GroupWithZero.Nat
import ReviewPanel.Proofs.Search
import ReviewPanel.Proofs.Slots
import ReviewPanel.Proofs.Table
import ReviewPanel.Report

/-!
# Reports — nothing is lost, and the counts are right

A report keeps the slots that it is made of. Its findings are those of the
slots that succeeded, its views tell these by words in their keys, and its
metadata holds one message for each slot that failed beside six counts. All
metadata is in one table of texts: the messages stand under derived names, and
neither do two of these meet nor one of them and the name of a count
(`Report.metadataKeys_nodup`).

* `Report.issues_ofSlots`  — the issues of a report, slot by slot.
* `Report.agentError?_iff` — whose message is found.
* `Report.get?_view`       — which results a view holds.
* `Report.merges_slots`    — a report says all of this of any slots.
-/

namespace ReviewPanel

theorem Severity.mem_all (x : Severity) : x ∈ Severity.all := by cases x <;> decide

/-! ## What a slot brings in -/

/-- The issues that an outcome brings into a report. -/
def Outcome.issues : Outcome → List Finding
  | .success r => r.issues
  | .failure _ => []

/-- The suggestions that an outcome brings into a report. -/
def Outcome.suggestions : Outcome → List Finding
  | .success r => r.suggestions
  | .failure _ => []

/-- Reading off something of every result is reading it off every slot. -/
theorem Slots.flatMap_successes {β : Type} {s : Slots} {part : RawResult → List β}
    {whole : Outcome → List β} (hSuccess : ∀ r, whole (.success r) = part r)
    (hFailure : ∀ f, whole (.failure f) = []) :
    s.successes.flatMap (fun e => part e.2) = s.toList.flatMap fun slot => whole slot.outcome := by
  rw [successes]
  induction s.toList with
  | nil => rfl
  | cons slot rest ih =>
    rw [List.filterMap_cons, List.flatMap_cons, ← ih]
    cases hOutcome : slot.outcome with
    | failure f => simp [Outcome.result?, hFailure]
    | success r => simp [Outcome.result?, hSuccess]

namespace Report

variable {s : Slots}

/-- The issues of a report are those of its slots, in their order. -/
theorem issues_ofSlots (s : Slots) :
    (ofSlots s).issues = s.toList.flatMap fun slot => slot.outcome.issues :=
  Slots.flatMap_successes (fun _ => rfl) fun _ => rfl

/-- So are the suggestions. -/
theorem suggestions_ofSlots (s : Slots) :
    (ofSlots s).suggestions = s.toList.flatMap fun slot => slot.outcome.suggestions :=
  Slots.flatMap_successes (fun _ => rfl) fun _ => rfl

/-! ## Counts of severities -/

/-- Every issue is counted under one severity. -/
theorem sum_countSeverity (r : Report) :
    (Severity.all.map r.countSeverity).sum = r.issues.length := by
  simp only [countSeverity, Severity.all, List.map_cons, List.map_nil, List.sum_cons, List.sum_nil]
  induction r.issues with
  | nil => rfl
  | cons i rest ih =>
    simp only [List.filter_cons, List.length_cons]
    cases hSeverity : i.severity <;> simp <;> omega

theorem severityLabels_nodup : (Severity.all.map Severity.label).Nodup := by decide

/-- There is a count for every severity, zero included. -/
theorem entries_severityCounts (r : Report) :
    r.severityCounts.entries.Perm (Severity.all.map fun x => (x.label, r.countSeverity x)) :=
  Table.entries_ofList_perm severityLabels_nodup

/-- Each count is found under the label of its severity. -/
theorem get?_severityCounts (r : Report) (x : Severity) :
    r.severityCounts.get? x.label = some (r.countSeverity x) := by
  have hLabels : ((Severity.all.map fun x => (x.label, r.countSeverity x)).map Prod.fst).Nodup :=
    severityLabels_nodup
  exact (Table.get?_ofList_iff hLabels).mpr (List.mem_map.mpr ⟨x, Severity.mem_all x, rfl⟩)

/-! ## The names of metadata -/

/-- The names of the counts. -/
def countNames : List String :=
  ["total_agents", "successful_agents", "failed_agents", "total_issues", "total_suggestions",
    "severity_counts"]

/-- Every slot has an error key of its own. -/
theorem errorKey_inj {key key' : String} : errorKey key = errorKey key' ↔ key = key' := by
  constructor
  · intro hEq
    have hChars := congrArg String.toList hEq
    simp only [errorKey, String.toList_append] at hChars
    exact String.toList_inj.mp (List.append_cancel_right hChars)
  · rintro rfl
    rfl

/-- The name of a message is not the name of a count: they end in different letters. -/
theorem errorKey_ne_countName {key name : String} (hName : name ∈ countNames) :
    errorKey key ≠ name := by
  rintro rfl
  have hError : (errorKey key).toList.getLast? = some 'r' := by
    rw [errorKey, String.toList_append, List.getLast?_append]
    rfl
  have hCount : ∀ n ∈ countNames, n.toList.getLast? = some 's' := by decide
  rw [hCount _ hName] at hError
  cases hError

/-- Slots with distinct keys have distinct names for their messages, none of
which is the name of a count. -/
theorem metadataKeys_nodup {keys : List String} (hKeys : keys.Nodup) :
    (keys.map errorKey ++ countNames).Nodup := by
  rw [List.nodup_append]
  refine ⟨hKeys.map fun _ _ hEq => errorKey_inj.mp hEq, by decide, ?_⟩
  intro name hMem count hCount
  obtain ⟨key, -, rfl⟩ := List.mem_map.mp hMem
  exact errorKey_ne_countName hCount

/-- The entries of the metadata of the slots of a run. -/
def metadataEntries (s : Slots) : List (String × Json) :=
  errorEntries s ++ totals s (ofSlots s)

theorem metadata_ofSlots (s : Slots) : (ofSlots s).metadata = .ofList (metadataEntries s) := rfl

/-- The metadata have the errors first, one for every slot that failed, and then the counts. -/
theorem map_fst_metadataEntries (s : Slots) :
    (metadataEntries s).map Prod.fst =
      ((s.toList.filter fun slot => !slot.outcome.isSuccess).map Slot.key).map errorKey ++
        countNames := by
  rw [metadataEntries, List.map_append, errorEntries, List.map_map, ← Slots.map_fst_failures,
    List.map_map]
  rfl

/-- No entry is overwritten by a later one, since no error key is the name of a count. -/
theorem metadataEntries_nodup (hKeys : s.keys.Nodup) :
    ((metadataEntries s).map Prod.fst).Nodup := by
  rw [map_fst_metadataEntries]
  exact metadataKeys_nodup ((List.filter_sublist.map Slot.key).nodup hKeys)

/-- A count is found under its name. -/
theorem get?_total (hKeys : s.keys.Nodup) {name : String} {value : Json}
    (hTotal : (name, value) ∈ totals s (ofSlots s)) :
    (ofSlots s).metadata.get? name = some value :=
  (Table.get?_ofList_iff (metadataEntries_nodup hKeys)).mpr (List.mem_append_right _ hTotal)

/-- The message that is found for a key is that of the failed slot of the key. -/
theorem agentError?_iff (hKeys : s.keys.Nodup) {key message : String} :
    (ofSlots s).agentError? key = some message ↔
      ∃ f : Failure, s.get? key = some (.failure f) ∧ f.message = message := by
  simp only [Slots.get?_eq_some_iff hKeys, ← Slots.mem_failures_iff]
  rw [agentError?, Option.bind_eq_some_iff, metadata_ofSlots]
  simp only [Table.get?_ofList_iff (metadataEntries_nodup hKeys)]
  simp only [metadataEntries, List.mem_append]
  constructor
  · rintro ⟨value, hError | hTotal, hText⟩
    · obtain ⟨⟨key', message'⟩, hFailure, hEntry⟩ := List.mem_map.mp hError
      obtain ⟨hKey, rfl⟩ := Prod.ext_iff.mp hEntry
      cases errorKey_inj.mp hKey
      cases hText
      exact hFailure
    · -- no count has the name of a message
      have hName : errorKey key ∈ (totals s (ofSlots s)).map Prod.fst := List.mem_map_of_mem hTotal
      exact absurd rfl (errorKey_ne_countName hName)
  · intro hFailure
    exact ⟨.text message, Or.inl (List.mem_map.mpr ⟨_, hFailure, rfl⟩), rfl⟩

/-! ## Views -/

theorem keys_successes_nodup (hKeys : s.keys.Nodup) : (s.successes.map Prod.fst).Nodup := by
  rw [Slots.map_fst_successes]
  exact (List.filter_sublist.map Slot.key).nodup hKeys

/-- A view holds the results of the slots whose key holds its word. -/
theorem get?_view (hKeys : s.keys.Nodup) {word key : String} {result : RawResult} :
    (view word s.successes).get? key = some result ↔
      s.get? key = some (.success result) ∧ word.toList <:+: key.toList := by
  have hView : ((s.successes.filter fun e => Text.contains e.1 word).map Prod.fst).Nodup :=
    (List.filter_sublist.map Prod.fst).nodup (keys_successes_nodup hKeys)
  rw [view, Table.get?_ofList_iff hView, List.mem_filter, Slots.mem_successes_iff,
    Slots.get?_eq_some_iff hKeys, Text.contains_iff]

/-! ## The whole report -/

/-- A report says of slots what there is to say of them. -/
structure Merges (s : Slots) (r : Report) : Prop where
  slots       : r.slots = s
  issues      : r.issues = s.toList.flatMap fun slot => slot.outcome.issues
  suggestions : r.suggestions = s.toList.flatMap fun slot => slot.outcome.suggestions
  /-- Every slot is counted, as a success or as a failure. -/
  agents      : r.metadata.get? "total_agents" = some (.nat s.size) ∧
                  s.size = s.toList.countP (fun slot => slot.outcome.isSuccess) +
                    s.toList.countP fun slot => !slot.outcome.isSuccess
  successful  : r.metadata.get? "successful_agents" =
                  some (.nat (s.toList.countP fun slot => slot.outcome.isSuccess))
  failed      : r.metadata.get? "failed_agents" =
                  some (.nat (s.toList.countP fun slot => !slot.outcome.isSuccess))
  findings    : r.metadata.get? "total_issues" = some (.nat r.issues.length) ∧
                  r.metadata.get? "total_suggestions" = some (.nat r.suggestions.length)
  /-- Every severity has its count, and the counts add up. -/
  severities  : ∃ counts : Table Nat,
                  r.metadata.get? "severity_counts" = some (.ofTable (counts.map .nat)) ∧
                    counts.keys.Perm (Severity.all.map Severity.label) ∧
                    (∀ x : Severity, counts.get? x.label =
                      some (r.issues.countP fun i => i.severity == x)) ∧
                    (counts.entries.map Prod.snd).sum = r.issues.length
  errors      : ∀ key message, r.agentError? key = some message ↔
                  ∃ f : Failure, s.get? key = some (.failure f) ∧ f.message = message
  /-- No two slots share the name of a message, and no slot has the name of a count. -/
  apart       : (s.keys.map errorKey ++ countNames).Nodup
  names       : r.metadata.keys.Perm
                  (((s.toList.filter fun slot => !slot.outcome.isSuccess).map Slot.key).map
                    errorKey ++ countNames)
  code        : ∀ key result, r.codeAnalysis.get? key = some result ↔
                  s.get? key = some (.success result) ∧ "code".toList <:+: key.toList
  tests       : ∀ key result, r.testResults.get? key = some result ↔
                  s.get? key = some (.success result) ∧ "test".toList <:+: key.toList
  security    : ∀ key result, r.securityFindings.get? key = some result ↔
                  s.get? key = some (.success result) ∧ "security".toList <:+: key.toList

/-- The views have as many results as there are slots that succeeded. -/
theorem length_successes (s : Slots) :
    s.successes.length = s.toList.countP fun slot => slot.outcome.isSuccess := by
  have hLength := congrArg List.length (Slots.map_fst_successes (s := s))
  rwa [List.length_map, List.length_map, ← List.countP_eq_length_filter] at hLength

/-- A slot succeeded or failed. -/
theorem size_eq_countP (s : Slots) :
    s.size = s.toList.countP (fun slot => slot.outcome.isSuccess) +
      s.toList.countP fun slot => !slot.outcome.isSuccess := by
  rw [Slots.size, List.length_eq_countP_add_countP fun slot => slot.outcome.isSuccess]
  simp

/-- The parts of a report, one lemma each. -/
theorem ofSlots_merges (hKeys : s.keys.Nodup) : Merges s (ofSlots s) := by
  -- all slots that did not succeed failed
  have hFailed : s.size - s.successes.length =
      s.toList.countP fun slot => !slot.outcome.isSuccess := by
    have hSize := size_eq_countP s
    rw [length_successes]
    omega
  refine ⟨rfl, issues_ofSlots s, suggestions_ofSlots s, ⟨?_, size_eq_countP s⟩, ?_, ?_, ⟨?_, ?_⟩,
    ⟨(ofSlots s).severityCounts, ?_, ?_, ?_, ?_⟩, fun _ _ => agentError?_iff hKeys,
    metadataKeys_nodup hKeys, ?_, fun _ _ => get?_view hKeys, fun _ _ => get?_view hKeys,
    fun _ _ => get?_view hKeys⟩
  · exact get?_total hKeys (by simp [totals])
  · exact get?_total hKeys (by simp [totals, length_successes])
  · exact get?_total hKeys (by simp [totals, hFailed])
  · exact get?_total hKeys (by simp [totals])
  · exact get?_total hKeys (by simp [totals])
  · exact get?_total hKeys (by simp [totals, countsJson])
  · -- the counts have the labels of the severities, and add up to all issues
    exact (entries_severityCounts _).map Prod.fst
  · intro x
    rw [get?_severityCounts, countSeverity, List.countP_eq_length_filter]
  · rw [((entries_severityCounts _).map Prod.snd).sum_nat, List.map_map]
    exact sum_countSeverity _
  · rw [← map_fst_metadataEntries]
    exact Table.keys_ofList_perm (metadataEntries_nodup hKeys)

/--
**Reports lose nothing and count right.** Whatever outcomes were inserted under
whatever keys, the report of the slots keeps them all; its issues and
suggestions are those of the slots that succeeded, in the order of the slots and
none left out; its counts of agents, findings and severities are those of the
slots and of these lists, and add up; the message that it gives for a key is
that of the failed slot of the key, and there is none for any other key; and
each view leads from a key to a result iff the slot of the key holds the result
and the key holds the word of the view.
-/
theorem merges_slots (entries : List (String × Outcome)) :
    Merges (.ofInsertions entries) (ofSlots (.ofInsertions entries)) :=
  ofSlots_merges (Slots.keys_ofInsertions ▸ nodup_eraseDups)

end Report

end ReviewPanel
