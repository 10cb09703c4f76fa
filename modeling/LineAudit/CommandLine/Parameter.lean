/-!
The named parameters of the command line.
-/

namespace LineAudit.CommandLine

inductive Parameter
  | help
  | json
  | rules
  | failOn
  | outputDir
  | maxLines
  | timeout
  | workers
  | noSlither
  | verbose
  | version
  deriving DecidableEq, Repr

namespace Parameter

def all : List Parameter := [
  help, json, rules, failOn, outputDir, maxLines, timeout, workers, noSlither, verbose, version]

def name : Parameter → String
  | help => "--help"
  | json => "--json"
  | rules => "--rules"
  | failOn => "--fail-on"
  | outputDir => "--output-dir"
  | maxLines => "--max-lines"
  | timeout => "--timeout"
  | workers => "--workers"
  | noSlither => "--no-slither"
  | verbose => "--verbose"
  | version => "--version"

def letter? : Parameter → Option Char
  | help => some 'h'
  | verbose => some 'v'
  | _ => none

def label (p : Parameter) : String :=
  match p.letter? with
  | some letter => String.ofList ['-', letter, '/'] ++ p.name
  | none => p.name

def takesValue : Parameter → Bool
  | rules | failOn | outputDir | maxLines | timeout | workers => true
  | help | json | noSlither | verbose | version => false

def ofName? (s : String) : Option Parameter := all.find? fun p => p.name = s

def ofLetter? (c : Char) : Option Parameter := all.find? fun p => p.letter? = some c

def startingWith (s : String) : List Parameter :=
  all.filter fun p => s.toList.isPrefixOf p.name.toList

end Parameter

end LineAudit.CommandLine
