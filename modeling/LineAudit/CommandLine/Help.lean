import LineAudit.CommandLine.Arguments
import LineAudit.Report.Basic

/-!
What the command line says about itself.
-/

namespace LineAudit.CommandLine

def programName : String := "solgrep"

def usage : List String := [
  "usage: solgrep [-h] [--json] [--rules RULES]",
  "               [--fail-on \x7bcritical,high,medium,low,informational\x7d]",
  "               [--output-dir OUTPUT_DIR] [--max-lines MAX_LINES]",
  "               [--timeout TIMEOUT] [--workers WORKERS] [--no-slither] [-v]",
  "               [--version]",
  "               [target]"]

def help : List String := usage ++ [
  "",
  "Pattern-based security audit for Solidity sources",
  "",
  "positional arguments:",
  "  target                Solidity file or project directory (default: .)",
  "",
  "options:",
  "  -h, --help            show this help message and exit",
  "  --json                Output results as JSON",
  "  --rules RULES         Path to a custom rule pack YAML",
  "  --fail-on \x7bcritical,high,medium,low,informational\x7d",
  "                        Minimum severity that causes a non-zero exit code",
  "                        (default: high)",
  "  --output-dir OUTPUT_DIR",
  "                        Write REPORT.md, patterns.txt and findings.json here",
  "  --max-lines MAX_LINES",
  "                        Abort if the corpus has more lines than this",
  "  --timeout TIMEOUT     Abort the pattern scan after this many seconds",
  "  --workers WORKERS     Scan files on this many threads (default: 1)",
  "  --no-slither          Do not run Slither",
  "  -v, --verbose         Enable debug logging",
  "  --version             show program's version number and exit"]

def versionText : String := programName ++ " " ++ version

def complaint (e : ArgumentProblem) : List String :=
  usage ++ [programName ++ ": error: " ++ e.message]

end LineAudit.CommandLine
