import ReviewPanel.Builtin.Base
import ReviewPanel.Json.Reader

/-!
# The security scanner

An agent for files of every kind. It looks for exploitable code and leaked
secrets line by line, and in two kinds of manifest for dependencies whose
version is left open.
-/

namespace ReviewPanel.Builtin.Security

open Pattern

def profile : Profile :=
  { name := "security_scanner"
    instruction := "You are an application security engineer. Reference CWE ids where relevant."
    fallback := "Validate input at the boundary, parameterize queries, and keep secrets out of source control."
    extensions := []
    frameworks := []
    capabilities := [.securityAnalysis, .dependencyAnalysis, .chatSupport] }

/-- A single or a double quote. -/
def quote : Pattern := among "\"'"

/-- What assigns a value to a name. -/
def assignment : Pattern := sequence [blanks, among "=:", blanks]

def isKeyChar (c : Char) : Bool := (foldCase c).isAlphanum || c == '_' || c == '-'

def isAccessKeyChar (c : Char) : Bool := isUpperAscii c || c.isDigit

def rules : List Rule :=
  [{ id := "eval"
     pattern := sequence [wordEdge, literal "eval("]
     kind := "vulnerability"
     severity := .high
     title := "Use of eval()"
     description := "CWE-94: evaluating strings can lead to code injection"
     suggestion := some "Parse data with JSON.parse or ast.literal_eval instead"
     target := .issue
     confidence := 90 },
   { id := "inner-html-template"
     pattern := sequence
       [literal ".innerHTML", blanks, literal "=", anything,
         oneOf [literal "$\x7b", literal "+"]]
     kind := "vulnerability"
     severity := .high
     title := "Dynamic innerHTML"
     description := "CWE-79: interpolated HTML may allow XSS"
     suggestion := some "Use textContent or sanitize before insertion"
     target := .issue
     confidence := 85 },
   { id := "dangerous-html"
     pattern := literal "dangerouslySetInnerHTML"
     kind := "vulnerability"
     severity := .medium
     title := "dangerouslySetInnerHTML"
     description := "CWE-79: unsanitized HTML can lead to XSS"
     suggestion := some "Sanitize with DOMPurify or similar"
     target := .issue
     confidence := 80 },
   { id := "sql-format"
     pattern := sequence
       [oneOf [folded "execute", folded "query"], literal "(", blanks,
         oneOf
           [sequence [folded "f", quote],
            sequence
              [quote, anything, quote, blanks,
                oneOf [literal "%", literal "+", folded ".format("]],
            sequence [literal "`", anything, literal "$\x7b"]],
         anything, wordEdge,
         oneOf [folded "select", folded "insert", folded "update", folded "delete"], wordEdge]
     kind := "vulnerability"
     severity := .critical
     title := "SQL built from strings"
     description := "CWE-89: formatted SQL is open to injection"
     suggestion := some "Use parameterized queries"
     target := .issue
     confidence := 80 },
   { id := "shell-command"
     pattern := oneOf
       [literal "os.system(",
        sequence [literal "shell", blanks, literal "=", blanks, literal "True"],
        literal "child_process.exec("]
     kind := "vulnerability"
     severity := .high
     title := "Shell command execution"
     description := "CWE-78: shell interpolation enables command injection"
     suggestion := some "Pass arguments as a list without a shell"
     target := .issue
     confidence := 85 },
   { id := "pickle"
     pattern := sequence [literal "pickle.load", maybe (literal "s"), literal "("]
     kind := "vulnerability"
     severity := .high
     title := "Pickle deserialization"
     description := "CWE-502: unpickling untrusted data executes code"
     suggestion := some "Use JSON or another data-only format"
     target := .issue
     confidence := 90 },
   { id := "hardcoded-password"
     pattern := sequence
       [wordEdge, oneOf [folded "password", folded "passwd", folded "pwd"], assignment, quote,
         run (fun c => !"\"'$".toList.contains c) 4 none, quote]
     kind := "security"
     severity := .critical
     title := "Hardcoded password"
     description := "CWE-798: credentials committed to source"
     suggestion := some "Load secrets from the environment or a vault"
     target := .issue
     confidence := 80 },
   { id := "api-key"
     pattern := sequence
       [wordEdge,
         oneOf
           [sequence [folded "api", maybe (among "_-"), folded "key"],
            sequence [folded "secret", maybe (among "_-"), folded "key"],
            sequence [folded "access", maybe (among "_-"), folded "token"]],
         assignment, quote, run isKeyChar 20 none, quote]
     kind := "security"
     severity := .high
     title := "Hardcoded API key"
     description := "CWE-798: API key committed to source"
     suggestion := some "Load secrets from the environment or a vault"
     target := .issue
     confidence := 80 },
   { id := "aws-access-key"
     pattern := sequence [literal "AKIA", run isAccessKeyChar 16 (some 16)]
     kind := "security"
     severity := .critical
     title := "AWS access key ID"
     description := "CWE-798: AWS credentials committed to source"
     suggestion := some "Revoke the key and use IAM roles or the credential chain"
     target := .issue
     confidence := 95 },
   { id := "private-key"
     pattern := sequence
       [literal "-----BEGIN ",
         maybe (oneOf [literal "RSA ", literal "EC ", literal "OPENSSH ", literal "DSA "]),
         literal "PRIVATE KEY-----"]
     kind := "security"
     severity := .critical
     title := "Private key in source"
     description := "CWE-321: private key material committed to source"
     suggestion := some "Remove the key from history and rotate it"
     target := .issue
     confidence := 100 }]

/-! ## Manifests -/

/-- The requirement on a line: what stands before a comment, unless it is
blank or an option. -/
def requirementOf? (line : List Char) : Option (List Char) :=
  let entry := Text.trimChars (line.takeWhile (· != '#'))
  if entry.isEmpty || entry.head? == some '-' then none else some entry

def unpinned (name : String) : Finding :=
  profile.finding "dependency" .medium ("Unpinned dependency: " ++ name)

def requirementFinding (index : Nat) (entry : List Char) : Finding :=
  { unpinned (String.ofList entry) with
    description := "Unpinned versions can pull in vulnerable releases"
    line := some (lineNumber index)
    suggestion := some "Pin an exact version with ==" }

/-- The requirements without an exact version, on lines of which the first has
the given index. -/
def openRequirements (index : Nat) : List (List Char) → List Finding
  | [] => []
  | line :: rest =>
    (match requirementOf? line with
      | some entry =>
        if Text.occursIn "==".toList entry then [] else [requirementFinding index entry]
      | none => [])
      ++ openRequirements (index + 1) rest

/-- The tables of a package manifest that list dependencies. -/
def dependencyTables : List String := ["dependencies", "devDependencies"]

/-- Whether a version leaves everything open. -/
def isOpenVersion (version : Json) : Bool :=
  (version.text?.getD "") ∈ ["*", "latest", ""]

def packageFinding (table name : String) : Finding :=
  { unpinned name with
    description := table ++ " accepts any version"
    suggestion := some "Pin a version range and commit the lockfile" }

/-- The dependencies of one table that leave their version open. -/
def openPackages (manifest : Json) (table : String) : List Finding :=
  match manifest.member? table with
  | some (.record entries) =>
    (entries.filter fun e => isOpenVersion e.2).map fun e => packageFinding table e.1
  | _ => []

/-- The data value of a text. -/
def parseManifest? (content : String) : Option Json :=
  let source := Json.Source.ofText content
  if source.complete then source.root.asJson.toOption else none

/-- What the scanner finds in a package manifest. -/
def reviewManifest (content : String) : RawResult :=
  match parseManifest? content with
  | some manifest => { profile.blank with issues := dependencyTables.flatMap (openPackages manifest) }
  | none =>
    { profile.blank with
      suggestions := [profile.finding "dependency" .info "package.json could not be parsed"] }

/-! ## The agent -/

/-- The name by which the scanner tells manifests from other files. -/
def manifestName (path : String) : String := (Text.fileName? path).getD path

/-- The findings in a file, and the number of rule hits among them. -/
def findings (path content : String) : RawResult × Nat :=
  let name := manifestName path
  if name = "requirements.txt" then
    ({ profile.blank with issues := openRequirements 0 (Text.lines content.toList) }, 0)
  else if name = "package.json" then (reviewManifest content, 0)
  else Rule.scan rules profile.name content profile.blank

/-- What the scanner finds in a file that it accepts. -/
def review (path content : String) : RawResult :=
  let (found, hits) := findings path content
  let critical := (found.issues.filter (·.severity == .critical)).length
  let summary := s!"{found.issues.length} security findings ({critical} critical) in {path}"
  (found.withSummary summary
    |>.withMetric "rule_hits" (.nat hits)
    |>.withMetric "critical" (.nat critical))

def agent (client : Option Llm.Client) : Agent :=
  { name := profile.name
    version
    capabilities := .ofList profile.capabilities
    extensions := []
    frameworks := []
    analyze := fun path content _ =>
      profile.onFile path content (Profile.finished (review path content))
    chat := profile.chat client
    generateTests := fun _ _ _ => profile.lacking .testGeneration
    optimize := fun _ _ _ => profile.lacking .codeOptimization }

end ReviewPanel.Builtin.Security
