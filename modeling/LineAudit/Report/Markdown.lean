import LineAudit.Report.Basic

/-!
A report for people, in Markdown.
-/

namespace LineAudit.Markdown

/-- A date as it stands in a report, with the name of its time zone if it has one. -/
def dateText (t : Moment) : String :=
  let d := t.date
  let day := s!"{d.year}-{Date.padded 2 d.month}-{Date.padded 2 d.day}"
  Text.strip s!"{day} {t.clockText} {t.zoneName}"

/-- The head of a report, with a date in words. -/
def head (target date : String) : List String := [
  "# Security Audit Report",
  "",
  s!"**Generated by:** solgrep {version}  ",
  s!"**Date:** {date}  ",
  s!"**Target:** {target}",
  "",
  "## Executive Summary",
  "",
  "This automated audit checks for common vulnerabilities using line-oriented",
  "pattern rules and, when available, Slither static analysis.",
  "",
  "**Note:** This is an automated scan. A full security audit requires manual review.",
  ""]

def overviewRow (t : SeverityTotal) : String :=
  s!"| {t.severity.title} | {t.found} | {t.analyzed} | {t.found + t.analyzed} |"

def overview (totals : List SeverityTotal) : List String := [
  "## Findings Overview",
  "",
  "| Severity | Pattern scan | Slither | Total |",
  "|----------|--------------|---------|-------|"] ++ totals.map overviewRow

def factLabels : List (String × String) := [
  ("deps.openzeppelin", "Uses OpenZeppelin contracts"),
  ("guards.reentrancy", "ReentrancyGuard / nonReentrant in use"),
  ("compiler.pragma", "Solidity pragma"),
  ("compiler.checked_arithmetic", "Built-in overflow checks (0.8+)")]

def factText (w : Writable) : String :=
  match w.value with
  | .bool true => "yes"
  | .bool false => "no"
  | .null => "not found"
  | v => "`" ++ v.text ++ "`"

def factLine (f : Fact) : String :=
  "- " ++ (factLabels.lookup f.key).getD f.key ++ ": " ++ factText f.value

def quality (facts : List Fact) : List String :=
  if facts.isEmpty then [] else ["", "## Code Quality", ""] ++ facts.map factLine

def ruleHeading (r : Rule Severity) : String :=
  s!"### {r.id}: {r.description.text} ({r.severity.capitals})"

def recommendation (r : Rule Severity) : List String :=
  if r.recommendation.isTrue then [s!"*Recommendation:* {r.recommendation.text}", ""] else []

def findingLine (f : Finding Severity) : String :=
  s!"- `{f.file}:{f.line}`: `{f.snippet}`"

def ruleSection (group : Rule Severity × List (Finding Severity)) : List String :=
  [ruleHeading group.1, ""] ++ recommendation group.1 ++ group.2.map findingLine ++ [""]

def findings (groups : List (Rule Severity × List (Finding Severity))) : List String :=
  ["", "## Pattern Findings", ""] ++
    (if groups.isEmpty then ["No pattern rules matched."] else []) ++ groups.flatMap ruleSection

def analyzerLine (f : AnalyzerFinding) : String :=
  let location := match f.location? with
    | some place => " at `" ++ place ++ "`"
    | none => ""
  s!"- **[{f.severity.capitals}] {f.check}**{location}: {f.description}"

def analyzed (fs : List AnalyzerFinding) : List String :=
  ["", "## Slither Results", ""] ++
    (if fs.isEmpty then ["Slither was not run or reported no results."] else []) ++
    (fs.mergeSort AnalyzerFinding.le).map analyzerLine

def warnings (ws : List String) : List String :=
  if ws.isEmpty then [] else ["", "## Warnings", ""] ++ ws.map ("- " ++ ·)

def closing : List String := [
  "",
  "## Recommendations",
  "",
  "1. Address all High and Medium severity findings before deployment.",
  "2. Consider a professional audit for contracts handling significant value.",
  "3. Implement comprehensive test coverage (aim for >90%).",
  "4. Use battle-tested libraries (OpenZeppelin) where possible.",
  "",
  "## References",
  "",
  "- [OWASP Smart Contract Top 10](https://owasp.org/www-project-smart-contract-top-10/)",
  "- [Slither Documentation](https://github.com/crytic/slither)",
  "- [OpenZeppelin Security](https://docs.openzeppelin.com/contracts)",
  ""]

def lines (r : Report) (date : String)
    (groups : List (Rule Severity × List (Finding Severity))) : List String :=
  head r.target date ++ overview (severityTotals r.result r.analyzed) ++ quality r.facts ++
    findings groups ++ analyzed r.analyzed ++ warnings r.warnings ++ closing

def isWritable (r : Report) (groups : List (Rule Severity × List (Finding Severity))) : Bool :=
  (groups.all fun g => !g.1.recommendation.isTrue || g.1.recommendation.isWritable) &&
    r.analyzed.all AnalyzerFinding.isWritable

def render (r : Report) (date : String) : Except RenderFailure String :=
  match groupByRule? r.registry.rules r.result.findings with
  | none => .error .unknownRule
  | some groups =>
    if isWritable r groups then .ok ("\n".intercalate (lines r date groups))
    else .error .longNumber

end LineAudit.Markdown
