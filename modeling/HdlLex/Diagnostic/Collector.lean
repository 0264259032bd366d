import HdlLex.Diagnostic

/-!
# Diagnostic — the collector of reports

Reports are collected in the order in which they are emitted, and counted by
severity.
-/

namespace HdlLex.Diagnostic

/-- The reports emitted so far, oldest first. -/
structure Collector where
  diagnostics : Array Diagnostic := #[]
  deriving DecidableEq, Repr

namespace Collector

/-- The collector before any report. -/
def empty : Collector := {}

instance : Inhabited Collector := ⟨empty⟩

/-- The collector with one more report. -/
def emit (collector : Collector) (diagnostic : Diagnostic) : Collector :=
  ⟨collector.diagnostics.push diagnostic⟩

/-- How many reports have this severity. -/
def count (collector : Collector) (level : Level) : Nat :=
  collector.diagnostics.countP (·.level == level)

/-- How many errors were reported. -/
def errorCount (collector : Collector) : Nat := collector.count .error

/-- How many warnings were reported. -/
def warningCount (collector : Collector) : Nat := collector.count .warning

/-- Whether an error was reported. -/
def hasErrors (collector : Collector) : Bool :=
  collector.diagnostics.any (·.level.isError)

/-- A short account of the collector: how many errors and warnings it holds. -/
def summary (collector : Collector) : String :=
  "Handler \x7b errors: " ++ toString collector.errorCount ++ ", warnings: " ++
    toString collector.warningCount ++ " \x7d"

@[simp]
theorem toList_emit (collector : Collector) (diagnostic : Diagnostic) :
    (collector.emit diagnostic).diagnostics.toList =
      collector.diagnostics.toList ++ [diagnostic] := by
  simp [emit]

end Collector

end HdlLex.Diagnostic
