import ScaffoldRunner.Command.Result
import ScaffoldRunner.Data.Distinct
import ScaffoldRunner.Instant
import ScaffoldRunner.Text.Search

/-!
# Diagnosis of failures

Failed commands are sorted into categories and into those that block and those that do not, their
missing dependencies are collected, and a list of things to do is drawn up, the urgent ones first.
A failed commit is looked at on its own.
-/

namespace ScaffoldRunner

structure CategoryEntry where
  command : String
  severity : Severity
  recommendations : List String

/-- What a failure means for the work that follows. -/
structure ImpactEntry where
  command : String
  reason : String
  impact : String

/-- Failures that do not block, and failures that do. -/
structure OrphanAnalysis where
  orphans : List ImpactEntry
  blockers : List ImpactEntry

/-- A failure that names missing dependencies. -/
structure DependencyFailure where
  command : String
  dependencies : List String
  severity : Severity

/-- The missing dependencies of all failures. -/
structure DependencyImpact where
  affected : List String
  failures : List DependencyFailure

/-- How urgent a thing to do is. -/
inductive Priority where
  | high
  | medium
  | low
  deriving DecidableEq, Repr

structure ActionItem where
  priority : Priority
  kind : String
  description : String
  recommendations : List String
  effort : String

structure Diagnosis where
  timestamp : Instant
  totalFailures : Nat
  categories : Dict (List CategoryEntry)
  orphanAnalysis : OrphanAnalysis
  dependencyImpact : DependencyImpact
  recommendations : List String
  actionItems : List ActionItem

/-- Why a commit failed. -/
inductive CommitFailureKind where
  | preCommitHook
  | noChanges
  | gitConfig
  | unknown
  deriving DecidableEq, Repr

/-- What is known about a failed commit. -/
structure CommitFailure where
  kind : CommitFailureKind
  failedCommands : List String
  recommendations : List String

namespace CategoryEntry

def ofResult (r : CommandResult) : CategoryEntry := ⟨r.command, r.severity, r.recommendations⟩

/-- Write an entry into a document. -/
def toJson (e : CategoryEntry) : Json :=
  .obj [("command", .str e.command), ("severity", .str e.severity.name),
    ("recommendations", .strings e.recommendations)]

end CategoryEntry

namespace ImpactEntry

/-- Write an entry into a document. -/
def toJson (e : ImpactEntry) : Json :=
  .obj [("command", .str e.command), ("reason", .str e.reason), ("impact", .str e.impact)]

end ImpactEntry

namespace OrphanAnalysis

/-- Whether a command only looks after the quality of the code. -/
def isQualityTool (command : String) : Bool :=
  let cs := command.toList
  (Text.afterPrefix? "npm run".toList cs).isSome || Text.contains "eslint".toList cs ||
    Text.contains "prettier".toList cs

/-- The entry of a failure that does not block. -/
def orphanEntry (r : CommandResult) : ImpactEntry where
  command := r.command
  reason := "Non-blocking tool failure"
  impact := "Code quality tools failed but core operations may continue"

def blockerEntry (r : CommandResult) : ImpactEntry :=
  if (Text.afterPrefix? "git".toList r.command.toList).isSome then
    ⟨r.command, "Core git operation failure", "Blocks version control operations"⟩
  else ⟨r.command, "Unknown command type", "May block operations"⟩

/-- Split failures into those that do not block and those that do. -/
def ofFailures (failed : List CommandResult) : OrphanAnalysis where
  orphans := (failed.filter fun r => isQualityTool r.command).map orphanEntry
  blockers := (failed.filter fun r => !isQualityTool r.command).map blockerEntry

/-- Write the split into a document. -/
def toJson (a : OrphanAnalysis) : Json :=
  .obj [("orphans", .arr (a.orphans.map ImpactEntry.toJson)),
    ("blockers", .arr (a.blockers.map ImpactEntry.toJson)),
    ("orphan_count", .nat a.orphans.length), ("blocker_count", .nat a.blockers.length)]

end OrphanAnalysis

namespace DependencyImpact

/-- The entry of a failure that names missing dependencies. -/
def entry (r : CommandResult) : DependencyFailure := ⟨r.command, r.dependenciesAffected, r.severity⟩

/-- Collect the missing dependencies of all failures. -/
def ofFailures (failed : List CommandResult) : DependencyImpact where
  affected := ascending (failed.flatMap CommandResult.dependenciesAffected)
  failures := (failed.filter fun r => !r.dependenciesAffected.isEmpty).map entry

/-- Write the missing dependencies into a document. -/
def toJson (d : DependencyImpact) : Json :=
  .obj [("affected_dependencies", .strings d.affected),
    ("dependency_failures", .arr (d.failures.map fun f =>
      .obj [("command", .str f.command), ("dependencies", .strings f.dependencies),
        ("severity", .str f.severity.name)])),
    ("total_affected", .nat d.affected.length)]

end DependencyImpact

namespace Priority

def name : Priority → String
  | high => "high"
  | medium => "medium"
  | low => "low"

end Priority

namespace ActionItem

/-- The thing to do about an escalated failure. -/
def fix (r : CommandResult) : ActionItem where
  priority := .high
  kind := "fix"
  description := "Fix " ++ r.label ++ " in " ++ r.command
  recommendations := r.recommendations
  effort := "medium"

/-- The thing to do about missing dependencies. -/
def resolve (count : Nat) : ActionItem where
  priority := .medium
  kind := "dependency"
  description := "Resolve " ++ toString count ++ " dependency issues"
  recommendations := ["Run npm install", "Check package.json", "Verify Node.js version"]
  effort := "low"

/-- The thing to do about failures that do not block. -/
def tidy (count : Nat) : ActionItem where
  priority := .low
  kind := "quality"
  description := "Address " ++ toString count ++ " code quality issues"
  recommendations :=
    ["Run eslint --fix", "Run prettier --write", "Check linting configuration"]
  effort := "low"

/-- The things to do about some failures, the urgent ones first. -/
def ofFailures (failed : List CommandResult) (orphans dependencies : Nat) : List ActionItem :=
  (failed.filter fun r => r.severity.isCritical).map fix ++
    (if 0 < dependencies then [resolve dependencies] else []) ++
    (if 0 < orphans then [tidy orphans] else [])

/-- Write a thing to do into a document. -/
def toJson (i : ActionItem) : Json :=
  .obj [("priority", .str i.priority.name), ("type", .str i.kind),
    ("description", .str i.description), ("recommendations", .strings i.recommendations),
    ("estimated_effort", .str i.effort)]

end ActionItem

namespace Diagnosis

/-- Enter a failure into its category. -/
def categorize (categories : Dict (List CategoryEntry)) (r : CommandResult) :
    Dict (List CategoryEntry) :=
  categories.modify r.label [] (· ++ [CategoryEntry.ofResult r])

def ofFailures (now : Instant) (failed : List CommandResult) : Diagnosis :=
  let orphans := OrphanAnalysis.ofFailures failed
  let impact := DependencyImpact.ofFailures failed
  { timestamp := now
    totalFailures := failed.length
    categories := failed.foldl categorize []
    orphanAnalysis := orphans
    dependencyImpact := impact
    recommendations := distinct (failed.flatMap CommandResult.recommendations)
    actionItems := ActionItem.ofFailures failed orphans.orphans.length impact.affected.length }

/-- Write a diagnosis into a document. -/
def toJson (d : Diagnosis) : Json :=
  .obj [("timestamp", .str d.timestamp.iso), ("total_failures", .nat d.totalFailures),
    ("failure_categories",
      .obj (d.categories.mapValues fun es => .arr (es.map CategoryEntry.toJson))),
    ("orphan_analysis", d.orphanAnalysis.toJson),
    ("dependency_impact", d.dependencyImpact.toJson),
    ("recommendations", .strings d.recommendations),
    ("action_items", .arr (d.actionItems.map ActionItem.toJson))]

end Diagnosis

namespace CommitFailure

/-- The characters of the name of a script. -/
def isScriptChar (c : Char) : Bool := c.isAlphanum || c = '-'

/-- A call of a script at the front of a text. -/
def scriptCallAt? (cs : List Char) : Option (String × List Char) := do
  let rest ← Text.afterPrefix? "npm run ".toList cs
  match rest.takeWhile isScriptChar with
  | [] => none
  | name => some ("npm run " ++ String.ofList name, rest.dropWhile isScriptChar)

/-- The commands that failed inside a commit hook, as far as the output names them. -/
def hookCommands (output : List Char) : List String :=
  distinct
    ((if Text.contains "eslint".toList output then ["eslint --fix"] else []) ++
      (if Text.contains "prettier".toList output then ["prettier --write"] else []) ++
      Text.findAll scriptCallAt? output)

/-- Look at both outputs of a failed commit, in lower case. -/
def ofResult (r : CommandResult) : CommitFailure :=
  let output := Text.lower (r.stderr.toList ++ '\n' :: r.stdout.toList)
  if ["husky", "lint-staged", "pre-commit"].any fun mark => Text.contains mark.toList output then
    let failed := hookCommands output
    { kind := .preCommitHook
      failedCommands := failed
      recommendations :=
        ["Pre-commit hooks failed - this is likely due to linting/formatting issues",
          "Check the specific lint-staged commands that failed",
          "Review package.json lint-staged configuration",
          "Consider running lint-staged commands manually to identify issues"] ++
        (if failed.isEmpty then [] else ["Failed commands: " ++ ", ".intercalate failed]) }
  else if Text.contains "nothing to commit".toList output then
    { kind := .noChanges
      failedCommands := []
      recommendations :=
        ["No changes to commit - this is normal if no files were modified"] }
  else if Text.contains "author identity".toList output then
    { kind := .gitConfig
      failedCommands := []
      recommendations :=
        ["Git author identity not configured",
          "Run: git config --global user.name 'Your Name'",
          "Run: git config --global user.email 'your.email@example.com'"] }
  else { kind := .unknown, failedCommands := [], recommendations := [] }

/-- The name of the kind of a failed commit. -/
def kindName : CommitFailureKind → String
  | .preCommitHook => "pre_commit_hook"
  | .noChanges => "no_changes"
  | .gitConfig => "git_config"
  | .unknown => "unknown"

/-- Write what is known about a failed commit into a document. -/
def toJson (f : CommitFailure) : Json :=
  .obj [("failure_type", .str (kindName f.kind)),
    ("failed_commands", .strings f.failedCommands),
    ("recommendations", .strings f.recommendations)]

end CommitFailure

end ScaffoldRunner
