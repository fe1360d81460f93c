import ReviewPanel.Proofs.Report
import ReviewPanel.Proofs.WrittenValues

/-!
# Written reports — outcomes and reports are read back

Findings, results, failures, outcomes, slots and reports come back from what they were written
as. A written outcome does not say what it is: a result is told from a failure
by what a failure must have and a result never has, the message of an error.

* `Finding.readsBack`, `RawResult.readsBack`, `Failure.readsBack` — the parts of an outcome.
* `Outcome.readsBack`          — and the outcome, as what it was.
* `Slots.readsBack`, `Report.readsBack` — whatever the keys of the slots.
* `Report.isWritable_ofSlots`  — the reports that are merged from slots are such reports.
* `reports_are_read_back`      — the whole report, with either spelling of numbers.
-/

namespace ReviewPanel

open Numeric

variable {g : Number → Number}

/-! ## What programs can hold -/

/-- A finding with a confidence that is a finite number of 32 bits. -/
def Finding.IsWritable (f : Finding) : Prop :=
  f.confidence.isFinite = true ∧ f.confidence.IsOf .single

/-- A table of free values: its entries are in order, and the values in canonical form. -/
def Table.IsFree (t : Table Json) : Prop :=
  Table.Ascending t.entries ∧ ∀ e ∈ t.entries, e.2.IsCanonical

structure RawResult.IsWritable (r : RawResult) : Prop where
  issues : ∀ f ∈ r.issues, f.IsWritable
  suggestions : ∀ f ∈ r.suggestions, f.IsWritable
  metrics : r.metrics.IsFree

def Outcome.IsWritable : Outcome → Prop
  | .success r => r.IsWritable
  | .failure _ => True

/-- Slots with any keys, also repeated ones. -/
def Slots.IsWritable (s : Slots) : Prop := ∀ slot ∈ s.toList, slot.outcome.IsWritable

/-- A view of results by category. -/
def Report.IsWritableView (t : Table RawResult) : Prop :=
  Table.Ascending t.entries ∧ ∀ e ∈ t.entries, e.2.IsWritable

structure Report.IsWritable (r : Report) : Prop where
  issues : ∀ f ∈ r.issues, f.IsWritable
  suggestions : ∀ f ∈ r.suggestions, f.IsWritable
  slots : r.slots.IsWritable
  codeAnalysis : IsWritableView r.codeAnalysis
  testResults : IsWritableView r.testResults
  securityFindings : IsWritableView r.securityFindings
  metadata : r.metadata.IsFree

/-! ## Findings -/

/-- A severity is written as its label. -/
theorem Severity.readsBack (s : Severity) : ReadsBack g ofDatum toJson s := by
  show ofDatum (.ofJson s.toJson) = .ok s
  cases s <;> decide +kernel

namespace Finding

/-- Whole numbers are not touched by the spelling of the others. -/
theorem lineOfDatum_readsBack (hSpelling : IsRespelling g) (n : UInt32) :
    ReadsBack g lineOfDatum (fun n => .nat n.toNat) n := by
  have hNat : (Datum.number (.integer n.toNat)).asNat Datum.bound32 = .ok n.toNat := by
    have hRange : (0 : ℤ) ≤ n.toNat ∧ (n.toNat : ℤ) < Datum.bound32 :=
      ⟨Int.natCast_nonneg _, by exact_mod_cast n.toNat_lt⟩
    rw [Datum.asNat, if_pos hRange, Int.toNat_natCast]
  rw [ReadsBack, Json.nat, Json.respell, hSpelling.integer, Datum.ofJson, lineOfDatum, hNat]
  exact congrArg Except.ok UInt32.ofNat_toNat

/-- A confidence is rounded to the format it came from, so it stays. -/
theorem confidence_readsBack (hSpelling : IsRespelling g) {x : Binary} (hFinite : x.isFinite = true)
    (hOf : x.IsOf .single) : ReadsBack g (Datum.asBinary .single) confidenceJson x := by
  rw [ReadsBack, confidenceJson, if_pos hFinite]
  exact hSpelling.single x hOf

/-- The members that a finding is written with. -/
def members (f : Finding) : List (String × Json) :=
  [("type", .text f.kind), ("severity", f.severity.toJson), ("title", .text f.title),
    ("description", .text f.description), ("source_agent", .text f.agent),
    ("confidence_score", confidenceJson f.confidence)]
    ++ Json.ifSome "line_number" (f.line.map fun n => .nat n.toNat)
    ++ Json.ifSome "suggestion_text" (f.suggestion.map .text)

theorem keys_members (f : Finding) : (f.members.map Prod.fst).Nodup := by
  have hSublist : (f.members.map Prod.fst).Sublist
      (["type", "severity", "title", "description", "source_agent", "confidence_score"]
        ++ ["line_number"] ++ ["suggestion_text"]) := by
    rw [members, List.map_append, List.map_append]
    exact ((List.Sublist.refl _).append (Json.keys_ifSome_sublist ..)).append
      (Json.keys_ifSome_sublist ..)
  exact hSublist.nodup (by decide)

/-- A finding is read back. -/
theorem readsBack (hSpelling : IsRespelling g) {f : Finding} (hWritable : f.IsWritable) :
    ReadsBack g ofDatum toJson f := by
  apply readsBack_object members f.keys_members
  intro fs hFields
  have hKind : fs.required 0 Datum.asText = Except.ok f.kind :=
    hFields.readsBack "type" rfl (by simp [members]) (readsBack_text _)
  have hSeverity : fs.orElse 1 Severity.ofDatum .info = Except.ok f.severity :=
    hFields.readsBack "severity" rfl (by simp [members]) (Severity.readsBack _)
  have hTitle : fs.required 2 Datum.asText = Except.ok f.title :=
    hFields.readsBack "title" rfl (by simp [members]) (readsBack_text _)
  have hDescription : fs.orElse 3 Datum.asText "" = Except.ok f.description :=
    hFields.readsBack "description" rfl (by simp [members]) (readsBack_text _)
  have hAgent : fs.orElse 4 Datum.asText "" = Except.ok f.agent :=
    hFields.readsBack "source_agent" rfl (by simp [members]) (readsBack_text _)
  have hConfidence : fs.orElse 5 (Datum.asBinary .single) fullConfidence =
      Except.ok f.confidence :=
    hFields.readsBack "confidence_score" rfl (by simp [members])
      (confidence_readsBack hSpelling hWritable.1 hWritable.2)
  have hLine : fs.optionalOrElse 6 lineOfDatum = Except.ok f.line :=
    hFields.readsBack_option "line_number" rfl (fun n hn => by simp [members, hn])
      (fun hNone => by simp [members, hNone]) (fun n => by simp [Json.nat])
      (lineOfDatum_readsBack hSpelling)
  have hSuggestion : fs.optionalOrElse 7 Datum.asText = Except.ok f.suggestion :=
    hFields.readsBack_option "suggestion_text" rfl (fun s hs => by simp [members, hs])
      (fun hNone => by simp [members, hNone]) (fun s => by simp) readsBack_text
  rw [hKind, hSeverity, hTitle, hDescription, hAgent, hConfidence, hLine, hSuggestion]
  rfl

end Finding

/-- Findings are read back one by one. -/
theorem readsBack_findings (hSpelling : IsRespelling g) {fs : List Finding}
    (hWritable : ∀ f ∈ fs, f.IsWritable) :
    ReadsBack g (Datum.asList Finding.ofDatum) (fun fs => .list (fs.map Finding.toJson)) fs :=
  readsBack_list fun f hMem => Finding.readsBack hSpelling (hWritable f hMem)

/-! ## Results and failures -/

namespace RawResult

/-- The members that a result is written with. -/
def members (r : RawResult) : List (String × Json) :=
  [("agent", .text r.agent), ("issues", .list (r.issues.map Finding.toJson)),
    ("suggestions", .list (r.suggestions.map Finding.toJson)), ("metrics", .ofTable r.metrics)]
    ++ Json.ifSome "summary" (r.summary.map .text)

theorem keys_members (r : RawResult) : (r.members.map Prod.fst).Nodup := by
  have hSublist : (r.members.map Prod.fst).Sublist
      (["agent", "issues", "suggestions", "metrics"] ++ ["summary"]) := by
    rw [members, List.map_append]
    exact (List.Sublist.refl _).append (Json.keys_ifSome_sublist ..)
  exact hSublist.nodup (by decide)

/-- A result is read back. -/
theorem readsBack (hSpelling : IsRespelling g) {r : RawResult} (hWritable : r.IsWritable) :
    ReadsBack g ofDatum toJson r := by
  apply readsBack_object members r.keys_members
  intro fs hFields
  have hAgent : fs.required 0 Datum.asText = Except.ok r.agent :=
    hFields.readsBack "agent" rfl (by simp [members]) (readsBack_text _)
  have hIssues : fs.orElse 1 (Datum.asList Finding.ofDatum) [] = Except.ok r.issues :=
    hFields.readsBack "issues" rfl (by simp [members])
      (readsBack_findings hSpelling hWritable.issues)
  have hSuggestions : fs.orElse 2 (Datum.asList Finding.ofDatum) [] = Except.ok r.suggestions :=
    hFields.readsBack "suggestions" rfl (by simp [members])
      (readsBack_findings hSpelling hWritable.suggestions)
  have hSummary : fs.optionalOrElse 3 Datum.asText = Except.ok r.summary :=
    hFields.readsBack_option "summary" rfl (fun s hs => by simp [members, hs])
      (fun hNone => by simp [members, hNone]) (fun s => by simp) readsBack_text
  have hMetrics : fs.orElse 4 (Datum.asTable Datum.asJson) .empty = Except.ok r.metrics :=
    hFields.readsBack "metrics" rfl (by simp [members])
      (readsBack_jsonTable hSpelling hWritable.metrics.1 hWritable.metrics.2)
  rw [hAgent, hIssues, hSuggestions, hSummary, hMetrics]
  rfl

/-- A result has no message of an error, so it is never read as a failure. -/
theorem failure_ofDatum_toJson (r : RawResult) :
    Failure.ofDatum (.ofJson (r.toJson.respell g)) = .error .mismatch := by
  have hObject : r.toJson.respell g = .object (Json.respelled g r.members) := Json.respell_object
  rw [hObject, Failure.ofDatum]
  apply Datum.asStructure_object_error (by rw [Json.keys_respelled]; exact r.keys_members)
  intro fs hFields
  have hNoMessage : fs.required 0 Datum.asText = Except.error (fs.size, .mismatch) :=
    hFields.required_of_absent "error" rfl (by simp [members])
  have hNoKind : fs.required 1 (Datum.asVariant .json FailureKind.ofLabel?) =
      Except.error (fs.size, .mismatch) :=
    hFields.required_of_absent "kind" rfl (by simp [members])
  refine ⟨fs.size, Located.seq_eq_error ?_ hNoKind⟩
  rw [hNoMessage]
  rfl

end RawResult

namespace Failure

/-- The kind of a failure is written as its label. -/
theorem kind_readsBack (k : FailureKind) :
    ReadsBack g (Datum.asVariant .json FailureKind.ofLabel?) (fun k => .text k.label) k := by
  show (Datum.text k.label).asVariant .json FailureKind.ofLabel? = .ok k
  cases k <;> rfl

/-- A failure is read back. -/
theorem readsBack (f : Failure) : ReadsBack g ofDatum toJson f := by
  apply readsBack_object fun f : Failure => [("error", .text f.message), ("kind", .text f.kind.label)]
  · show ["error", "kind"].Nodup
    decide
  intro fs hFields
  have hMessage : fs.required 0 Datum.asText = Except.ok f.message :=
    hFields.readsBack "error" rfl (by simp) (readsBack_text _)
  have hKind : fs.required 1 (Datum.asVariant .json FailureKind.ofLabel?) = Except.ok f.kind :=
    hFields.readsBack "kind" rfl (by simp) (kind_readsBack _)
  rw [hMessage, hKind]
  rfl

end Failure

/-! ## Outcomes and slots -/

namespace Outcome

theorem readsBack_failure (f : Failure) : ReadsBack g ofDatum toJson (.failure f) := by
  have hFailure : Failure.ofDatum (.ofJson (f.toJson.respell g)) = .ok f := f.readsBack
  rw [ReadsBack, toJson, ofDatum, Datum.isReadable_ofJson, hFailure]
  rfl

/-- What is written as a result is read as a result, whatever it is read as. -/
theorem ofDatum_success (r : RawResult) :
    ofDatum (.ofJson ((success r).toJson.respell g)) =
      (RawResult.ofDatum (.ofJson (r.toJson.respell g))).map .success := by
  rw [toJson, ofDatum, Datum.isReadable_ofJson, r.failure_ofDatum_toJson]
  rfl

/-- An outcome is read back, as what it was. -/
theorem readsBack (hSpelling : IsRespelling g) {o : Outcome} (hWritable : o.IsWritable) :
    ReadsBack g ofDatum toJson o := by
  cases o with
  | failure f => exact readsBack_failure f
  | success r =>
    have hResult : RawResult.ofDatum (.ofJson (r.toJson.respell g)) = .ok r :=
      RawResult.readsBack hSpelling hWritable
    rw [ReadsBack, ofDatum_success, hResult]
    rfl

end Outcome

/-- A slot is its key with its outcome. -/
theorem Slot.readsBack (hSpelling : IsRespelling g) {s : Slot} (hWritable : s.outcome.IsWritable) :
    ReadsBack g ofDatum toJson s := by
  apply readsBack_object fun s : Slot => [("key", .text s.key), ("outcome", s.outcome.toJson)]
  · show ["key", "outcome"].Nodup
    decide
  intro fs hFields
  have hKey : fs.required 0 Datum.asText = Except.ok s.key :=
    hFields.readsBack "key" rfl (by simp) (readsBack_text _)
  have hOutcome : fs.required 1 Outcome.ofDatum = Except.ok s.outcome :=
    hFields.readsBack "outcome" rfl (by simp) (Outcome.readsBack hSpelling hWritable)
  rw [hKey, hOutcome]
  rfl

/-- Slots are read back in their order, whatever their keys. -/
theorem Slots.readsBack (hSpelling : IsRespelling g) {s : Slots} (hWritable : s.IsWritable) :
    ReadsBack g ofDatum toJson s := by
  have hList : ReadsBack g (Datum.asList Slot.ofDatum) (fun xs => .list (xs.map Slot.toJson))
      s.toList :=
    readsBack_list fun slot hMem => Slot.readsBack hSpelling (hWritable slot hMem)
  rw [ReadsBack] at hList ⊢
  rw [ofDatum, toJson, hList]
  rfl

/-! ## Reports -/

namespace Report

/-- A view is a table of results. -/
theorem readsBack_view (hSpelling : IsRespelling g) {t : Table RawResult}
    (hWritable : IsWritableView t) :
    ReadsBack g (Datum.asTable RawResult.ofDatum) viewJson t :=
  readsBack_table hWritable.1 fun e he => RawResult.readsBack hSpelling (hWritable.2 e he)

/-- The members that a report is written with. -/
def members (r : Report) : List (String × Json) :=
  [("issues", .list (r.issues.map Finding.toJson)),
    ("suggestions", .list (r.suggestions.map Finding.toJson)),
    ("agent_results", r.slots.toJson), ("code_analysis", viewJson r.codeAnalysis),
    ("test_results", viewJson r.testResults),
    ("security_findings", viewJson r.securityFindings), ("metadata", .ofTable r.metadata)]

/-- A report is read back. -/
theorem readsBack (hSpelling : IsRespelling g) {r : Report} (hWritable : r.IsWritable) :
    ReadsBack g ofDatum toJson r := by
  apply readsBack_object members
  · show ["issues", "suggestions", "agent_results", "code_analysis", "test_results",
      "security_findings", "metadata"].Nodup
    decide
  intro fs hFields
  -- field by field, in the order in which they are written
  have hIssues : fs.required 0 (Datum.asList Finding.ofDatum) = Except.ok r.issues :=
    hFields.readsBack "issues" rfl (by simp [members])
      (readsBack_findings hSpelling hWritable.issues)
  have hSuggestions : fs.required 1 (Datum.asList Finding.ofDatum) = Except.ok r.suggestions :=
    hFields.readsBack "suggestions" rfl (by simp [members])
      (readsBack_findings hSpelling hWritable.suggestions)
  have hSlots : fs.required 2 Slots.ofDatum = Except.ok r.slots :=
    hFields.readsBack "agent_results" rfl (by simp [members])
      (Slots.readsBack hSpelling hWritable.slots)
  have hCode : fs.required 3 (Datum.asTable RawResult.ofDatum) = Except.ok r.codeAnalysis :=
    hFields.readsBack "code_analysis" rfl (by simp [members])
      (readsBack_view hSpelling hWritable.codeAnalysis)
  have hTests : fs.required 4 (Datum.asTable RawResult.ofDatum) = Except.ok r.testResults :=
    hFields.readsBack "test_results" rfl (by simp [members])
      (readsBack_view hSpelling hWritable.testResults)
  have hSecurity : fs.required 5 (Datum.asTable RawResult.ofDatum) =
      Except.ok r.securityFindings :=
    hFields.readsBack "security_findings" rfl (by simp [members])
      (readsBack_view hSpelling hWritable.securityFindings)
  have hMetadata : fs.required 6 (Datum.asTable Datum.asJson) = Except.ok r.metadata :=
    hFields.readsBack "metadata" rfl (by simp [members])
      (readsBack_jsonTable hSpelling hWritable.metadata.1 hWritable.metadata.2)
  rw [hIssues, hSuggestions, hSlots, hCode, hTests, hSecurity, hMetadata]
  rfl

/-! ## Merged reports -/

/-- The results of writable slots are writable. -/
theorem isWritable_of_mem_successes {s : Slots} (hSlots : s.IsWritable) {e : String × RawResult}
    (hMem : e ∈ s.successes) : e.2.IsWritable :=
  hSlots _ (Slots.mem_successes_iff.mp hMem)

/-- So a view of them is, whatever word it is for. -/
theorem isWritableView_view {s : Slots} (hSlots : s.IsWritable) (word : String) :
    IsWritableView (view word s.successes) := by
  refine ⟨Table.ascending_ofList, fun e hMem => ?_⟩
  have hSuccess := List.mem_of_mem_filter (Table.mem_of_mem_ofList hMem)
  exact isWritable_of_mem_successes hSlots hSuccess

/-- Counts are whole numbers, so they are written in one way only. -/
theorem isCanonical_countsJson (r : Report) : (countsJson r.severityCounts).IsCanonical := by
  refine .record (Table.ascending_map Table.ascending_ofList) fun m hMem => ?_
  obtain ⟨e, -, rfl⟩ := List.mem_map.mp hMem
  exact .integer _

/-- The messages and the counts of a merged report are free values. -/
theorem isFree_metadata (s : Slots) : (ofSlots s).metadata.IsFree := by
  refine ⟨Table.ascending_ofList, fun e hMem => ?_⟩
  rw [metadata_ofSlots] at hMem
  rcases List.mem_append.mp (Table.mem_of_mem_ofList hMem) with hError | hTotal
  · obtain ⟨failure, -, rfl⟩ := List.mem_map.mp hError
    exact .text _
  · simp only [totals, List.mem_cons, List.not_mem_nil, or_false] at hTotal
    rcases hTotal with rfl | rfl | rfl | rfl | rfl | rfl
    · exact .integer _
    · exact .integer _
    · exact .integer _
    · exact .integer _
    · exact .integer _
    · exact isCanonical_countsJson _

/-- The report that is merged from slots can be written if they can. -/
theorem isWritable_ofSlots {s : Slots} (hSlots : s.IsWritable) : (ofSlots s).IsWritable where
  issues f hMem := by
    obtain ⟨e, hSuccess, hIssue⟩ := List.mem_flatMap.mp hMem
    exact (isWritable_of_mem_successes hSlots hSuccess).issues f hIssue
  suggestions f hMem := by
    obtain ⟨e, hSuccess, hSuggestion⟩ := List.mem_flatMap.mp hMem
    exact (isWritable_of_mem_successes hSlots hSuccess).suggestions f hSuggestion
  slots := hSlots
  codeAnalysis := isWritableView_view hSlots _
  testResults := isWritableView_view hSlots _
  securityFindings := isWritableView_view hSlots _
  metadata := isFree_metadata s

/-- Outcomes, slots and reports are read back from what they were written as, with the numbers
as they are and with all of them widened to 64 bits; so is the report that is merged from
any such slots. What was written as a result is never read as a failure, nor the
other way round. -/
theorem reports_are_read_back :
    (∀ o : Outcome, o.IsWritable →
      Outcome.ofDatum (.ofJson o.toJson) = .ok o ∧
        Outcome.ofDatum (.ofJson o.toJson.widened) = .ok o) ∧
    (∀ s : Slots, s.IsWritable →
      Slots.ofDatum (.ofJson s.toJson) = .ok s ∧
        Slots.ofDatum (.ofJson s.toJson.widened) = .ok s) ∧
    (∀ r : Report, r.IsWritable →
      ofDatum (.ofJson r.toJson) = .ok r ∧ ofDatum (.ofJson r.toJson.widened) = .ok r) ∧
    (∀ s : Slots, s.IsWritable →
      ofDatum (.ofJson (ofSlots s).toJson) = .ok (ofSlots s)) ∧
    (∀ r f, Outcome.ofDatum (.ofJson (Outcome.success r).toJson) ≠ .ok (.failure f)) ∧
    ∀ f r, Outcome.ofDatum (.ofJson (Outcome.failure f).toJson) ≠ .ok (.success r) := by
  -- a value that is not respelled is the one that was written
  have hExact : ∀ {α : Type} {reader : Datum → Reading α} {write : α → Json} {x : α},
      ReadsBack id reader write x → reader (.ofJson (write x)) = .ok x := by
    intro α reader write x hBack
    rwa [ReadsBack, Json.respell_id] at hBack
  refine ⟨fun o ho => ?_, fun s hs => ?_, fun r hr => ?_, fun s hs => ?_, fun r f hRead => ?_,
    fun f r hRead => ?_⟩
  · exact ⟨hExact (Outcome.readsBack isRespelling_id ho), Outcome.readsBack isRespelling_wide ho⟩
  · exact ⟨hExact (Slots.readsBack isRespelling_id hs), Slots.readsBack isRespelling_wide hs⟩
  · exact ⟨hExact (readsBack isRespelling_id hr), readsBack isRespelling_wide hr⟩
  · exact hExact (readsBack isRespelling_id (isWritable_ofSlots hs))
  · -- a success is read as one or not at all
    have hResult := Outcome.ofDatum_success (g := id) r
    rw [Json.respell_id, hRead] at hResult
    cases hInner : RawResult.ofDatum (.ofJson (r.toJson.respell id)) with
    | error fault =>
      rw [hInner] at hResult
      cases hResult
    | ok r' =>
      rw [hInner] at hResult
      cases hResult
  · -- a failure is read as the one it was
    have hFailure := hExact (Outcome.readsBack_failure f)
    rw [hRead] at hFailure
    cases hFailure

/-- Two slots under one key, a result with a finding and a metric and a failure, come back in
their order, and so does their report. -/
theorem reports_are_read_back_repeated_keys :
    let finding : Finding := { Finding.plain "style" .low "Long line" with line := some 7 }
    let result : RawResult :=
      { RawResult.empty "linter" with
        issues := [finding], metrics := .ofList [("lines", .nat 12), ("files", .nat 1)] }
    let slots : Slots :=
      ⟨[⟨"code_linter", .success result⟩, ⟨"code_linter", .failure ⟨"late", .timeout⟩⟩]⟩
    Slots.ofDatum (.ofJson slots.toJson) = .ok slots ∧
      ofDatum (.ofJson (ofSlots slots).toJson) = .ok (ofSlots slots) := by
  intro finding result slots
  have hFinding : finding.IsWritable := ⟨by decide +kernel, by decide +kernel⟩
  have hMetrics : result.metrics.IsFree := by
    refine ⟨Table.ascending_ofList, fun e hMem => ?_⟩
    have hListed := Table.mem_of_mem_ofList hMem
    simp only [List.mem_cons, List.not_mem_nil, or_false] at hListed
    rcases hListed with rfl | rfl <;> exact .integer _
  have hResult : result.IsWritable :=
    { issues := fun f hMem => List.mem_singleton.mp hMem ▸ hFinding
      suggestions := fun f hMem => absurd hMem List.not_mem_nil
      metrics := hMetrics }
  have hSlots : slots.IsWritable := by
    intro slot hMem
    simp only [slots, List.mem_cons, List.not_mem_nil, or_false] at hMem
    rcases hMem with rfl | rfl
    · exact hResult
    · trivial
  -- both slots come back, in spite of their key
  obtain ⟨-, hReadSlots, -, hReadReport, -, -⟩ := reports_are_read_back
  exact ⟨(hReadSlots slots hSlots).1, hReadReport slots hSlots⟩

end Report

end ReviewPanel
