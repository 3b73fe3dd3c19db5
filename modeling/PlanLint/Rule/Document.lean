import PlanLint.Rule.TopLevel
import PlanLint.Rule.Repositories
import PlanLint.Rule.Monitors
import PlanLint.Rule.Lifecycle

/-! All rules together. -/

namespace PlanLint

/-- A rule for a document, given its entries and its lines. -/
abbrev Check := Entries → List Line → Findings

/-- The rules in the order in which they report. -/
def checks : List Check :=
  [checkProject, checkVersion, checkRepositories, checkReleases, checkRegistries, checkMonitors,
    checkLifecycle, checkUnknownKeys]

/-- The findings of every rule, in order. -/
def validateDocument (document : Entries) (lines : List Line) : Findings :=
  gather (fun check => check document lines) checks

end PlanLint
