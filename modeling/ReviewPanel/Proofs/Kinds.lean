import ReviewPanel.Proofs.Reviewer
import ReviewPanel.Proofs.Scan

/-!
# Kinds — what the built-in agents report about

The agents for code and for tests report issues of a few kinds, whatever the
file (`Builtin.hasKinds_review`), and the security scanner reports on manifests
only about dependencies (`Builtin.Security.hasKinds_manifest`). What is scanned has the
kinds of the rules (`Builtin.hasKinds_scan`); what is made line by line has those
of the parts (`Builtin.hasKinds_walk`).
-/

namespace ReviewPanel.Builtin

/-- Findings whose kinds are all in a list. -/
def HasKinds (kinds : List String) (fs : List Finding) : Prop := ∀ f ∈ fs, f.kind ∈ kinds

variable {kinds : List String} {fs gs : List Finding}

/-- Findings of two scans have the kinds that each of them has. -/
theorem HasKinds.append (hFirst : HasKinds kinds fs) (hSecond : HasKinds kinds gs) :
    HasKinds kinds (fs ++ gs) := by
  intro f hMem
  rcases List.mem_append.mp hMem with hf | hg
  · exact hFirst f hf
  · exact hSecond f hg

theorem hasKinds_nil : HasKinds kinds [] := by
  intro f hMem
  cases hMem

theorem hasKinds_singleton {f : Finding} (kind : String) (hKind : f.kind = kind)
    (hListed : kind ∈ kinds) : HasKinds kinds [f] := by
  intro g hMem
  rwa [List.mem_singleton.mp hMem, hKind]

/-- At most one finding, under a condition. -/
theorem hasKinds_ite {b : Prop} [Decidable b] {f : Finding} (kind : String)
    (hKind : f.kind = kind) (hListed : kind ∈ kinds) : HasKinds kinds (if b then [f] else []) :=
  forall_mem_ite (hKind ▸ hListed)

/-- A scan of a blank result reports issues of the kinds of its rules. -/
theorem hasKinds_scan {rules : List Rule} {agent content : String}
    (hRules : ∀ r ∈ rules, r.kind ∈ kinds) :
    HasKinds kinds (Rule.scan rules agent content (.empty agent)).1.issues := by
  intro f hMem
  rw [Rule.issues_scan] at hMem
  obtain ⟨-, -, r, hr, -, rfl⟩ := Rule.exists_rule_of_mem_findingsFor hMem
  exact hRules r hr

/-- Issues of test files only: those of a scan, and more. -/
theorem hasKinds_tests {rules : List Rule} {agent content : String} {isTest : Bool}
    (hRules : ∀ r ∈ rules, r.kind ∈ kinds) (hMore : HasKinds kinds fs) :
    HasKinds kinds
      (if isTest then (Rule.scan rules agent content (.empty agent)).1.issues ++ fs else []) := by
  split
  · exact (hasKinds_scan hRules).append hMore
  · exact hasKinds_nil

/-- Findings that are made line by line, each of them of one of the kinds. -/
theorem hasKinds_walk {walk : Nat → List (List Char) → List Finding}
    (hNil : ∀ index, walk index [] = [])
    (hCons : ∀ index line rest, ∃ part, HasKinds kinds part ∧
      walk index (line :: rest) = part ++ walk (index + 1) rest)
    (lines : List (List Char)) : ∀ index, HasKinds kinds (walk index lines) := by
  intro index f hMem
  obtain ⟨-, -, hListed⟩ :=
    exists_of_mem_walk (β := Finding) (P := fun _ f => f.kind ∈ kinds) hNil hCons hMem
  exact hListed

/-! ## Reviews of code and tests -/

/-- The kinds of issue that the agents for code and for tests report. -/
def reviewKinds : List String :=
  ["style", "best_practice", "performance", "error_handling", "bug_risk", "test_quality"]

variable {path content : String} {context : Context}

/-- The issues come from rules, effects and lists. -/
theorem React.hasKinds_reviewCode : HasKinds reviewKinds (reviewCode path content).issues := by
  -- three sources: the rules, and two walks over the lines
  have hEffects : ∀ lines index, HasKinds reviewKinds (effectsWithoutDependencies index lines) :=
    hasKinds_walk (fun _ => rfl) fun _ _ _ => ⟨_, hasKinds_ite "performance" rfl (by decide), rfl⟩
  have hLists : ∀ lines index, HasKinds reviewKinds (listsWithoutKey index lines) :=
    hasKinds_walk (fun _ => rfl) fun _ _ _ => ⟨_, hasKinds_ite "best_practice" rfl (by decide), rfl⟩
  exact ((hasKinds_scan (by decide)).append (hEffects _ 0)).append (hLists _ 0)

/-- Those of a test file come from rules and from the search for assertions. -/
theorem React.hasKinds_reviewTests :
    HasKinds reviewKinds (reviewTests path content context).issues := by
  rw [issues_reviewTests]
  exact hasKinds_tests (by decide) (hasKinds_ite "test_quality" rfl (by decide))

/-- Here all issues come from rules. -/
theorem Python.hasKinds_reviewCode : HasKinds reviewKinds (reviewCode path content).issues := by
  have hLines : ∀ lines index, HasKinds reviewKinds (longLines index lines) :=
    hasKinds_walk (fun _ => rfl) fun _ _ _ => ⟨_, hasKinds_ite "style" rfl (by decide), rfl⟩
  exact (hasKinds_scan (by decide)).append (hLines _ 0)

/-- Those of a test file come from rules and from the search for assertions. -/
theorem Python.hasKinds_reviewTests :
    HasKinds reviewKinds (reviewTests path content context).issues := by
  rw [issues_reviewTests]
  exact hasKinds_tests (by decide) (hasKinds_ite "test_quality" rfl (by decide))

/-- Every agent for code or for tests is a reviewer that reports issues of these kinds. -/
theorem hasKinds_review {client : Option Llm.Client} {c : Category} {i : Instance}
    (hMem : i ∈ (Registry.builtin client).agents c) (hCategory : c ≠ .security) :
    ∃ p review, Reviews i.agent p review ∧
      ∀ path content context, HasKinds reviewKinds (review path content context).issues := by
  cases c with
  | code =>
    simp only [agents_code, List.mem_cons, List.not_mem_nil, or_false] at hMem
    rcases hMem with rfl | rfl
    · exact ⟨_, _, reviews_reactCode, fun _ _ _ => React.hasKinds_reviewCode⟩
    · exact ⟨_, _, reviews_pythonCode, fun _ _ _ => Python.hasKinds_reviewCode⟩
  | testing =>
    simp only [agents_testing, List.mem_cons, List.not_mem_nil, or_false] at hMem
    rcases hMem with rfl | rfl
    · exact ⟨_, _, reviews_reactTest, fun _ _ _ => React.hasKinds_reviewTests⟩
    · exact ⟨_, _, reviews_pythonTest, fun _ _ _ => Python.hasKinds_reviewTests⟩
  | security => exact absurd rfl hCategory

/-! ## The security scanner -/

namespace Security

/-- The manifests that the scanner looks into for dependencies. -/
def manifestNames : List String := ["requirements.txt", "package.json"]

/-- Entries without a pin are found line by line, and all are about dependencies. -/
theorem hasKinds_openRequirements (lines : List (List Char)) :
    ∀ index, HasKinds ["dependency"] (openRequirements index lines) := by
  refine hasKinds_walk (fun _ => rfl) (fun index line rest => ⟨_, ?_, rfl⟩) lines
  split
  · split
    · exact hasKinds_nil
    · exact hasKinds_singleton "dependency" rfl (by decide)
  · exact hasKinds_nil

/-- So is what is found in a package manifest. -/
theorem hasKinds_reviewManifest : HasKinds ["dependency"] (reviewManifest content).issues := by
  unfold reviewManifest
  split
  · intro f hMem
    obtain ⟨table, -, hTable⟩ := List.mem_flatMap.mp hMem
    unfold openPackages at hTable
    split at hTable
    · obtain ⟨entry, -, rfl⟩ := List.mem_map.mp hTable
      exact List.mem_singleton.mpr rfl
    · cases hTable
  · exact hasKinds_nil

theorem issues_review : (review path content).issues = (findings path content).1.issues := by
  rw [review]
  cases findings path content
  rfl

/-- About a manifest the scanner reports nothing but dependencies. -/
theorem hasKinds_manifest (hManifest : manifestName path ∈ manifestNames) :
    HasKinds ["dependency"] (review path content).issues := by
  rw [issues_review, findings]
  rcases List.mem_pair.mp hManifest with hName | hName
  · simp only [hName, if_true]
    exact hasKinds_openRequirements _ 0
  · simp only [hName]
    exact hasKinds_reviewManifest

end Security

end ReviewPanel.Builtin
