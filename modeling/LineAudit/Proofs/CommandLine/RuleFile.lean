import LineAudit.Proofs.CommandLine.ExitCode
import LineAudit.Proofs.Pack.Breaks

/-!
What a run says of the rule file that it is given.

Main result: rules that cannot be used are told in one line and end a run with one, whatever the
bytes of their file are, except for the bytes on which reading breaks off. On these a run breaks off
too. Nothing is said of a pack with a node that holds itself.
-/

namespace LineAudit.CommandLine

/-- A run gets as far as reading a rule file, and some bytes are read. -/
def Reads (texts : List String) (s : Surroundings) (path : Path) (bytes : ByteArray) : Prop :=
  ∃ a config f, Arguments.ofTexts texts = .ok a ∧
    Config.resolve a.explicit s.environment = .ok config ∧ config.rulesPath? = some path ∧
      s.tree.file? path = some f ∧ f.problem? = none ∧ f.bytes = bytes

/-- A run tells in one line why it is given up, shows nothing else, and ends with one. -/
def Transcript.GivesUp (t : Transcript) (message : String) : Prop :=
  t.errors = ["error: " ++ message] ∧ t.output = [] ∧ t.ending = .ok 1

variable {texts : List String} {s : Surroundings} {path : Path} {bytes : ByteArray}

/-- The failure of a rule file decides how a run ends. -/
lemma run_of_badRules (h : Reads texts s path bytes) {f : PackFailure}
    (hbad : Pack.ofBytes bytes = .error f) :
    match f.message? path.text with
    | some message => (run texts s).GivesUp message
    | none => (run texts s).ending = .error (.pack f) := by
  obtain ⟨a, config, file, hargs, hconfig, hpath, hfile, hread, rfl⟩ := h
  have hload : loadRules s.tree config.rulesPath? = .error f := by
    simp only [hpath, loadRules, Pack.ofPath, hfile, hread, hbad]
  have hname : rulesName config = path.text := by
    rw [rulesName, hpath]
    rfl
  have hrun : run texts s = runWith a s := by rw [run, hargs]
  rw [hrun, runWith]
  cases hmessage : f.message? path.text with
  | some message =>
    have hperform : perform a s = .refused s.tree message := by
      simp only [perform, hconfig, hload, hname, hmessage]
    rw [hperform]
    exact ⟨rfl, rfl, rfl⟩
  | none =>
    have hperform : perform a s = .broken s.tree (.pack f) := by
      simp only [perform, hconfig, hload, hname, hmessage]
    rw [hperform]
    rfl

/-- The bytes of a rule file that holds a letter and no mapping. -/
def letter : ByteArray := "x".toUTF8

/-- A place with such a rule file and nothing beside it. -/
def letterFile : Surroundings := { oneFile with tree := ⟨[], [⟨["p"], letter, none⟩], []⟩ }

lemma reads_letterFile : Reads ["--rules", "p"] letterFile ⟨"", ["p"]⟩ letter :=
  ⟨{ Arguments.default with rules? := some ⟨"", ["p"]⟩ }, ⟨some ⟨"", ["p"]⟩, .high, none, none, 1⟩,
    ⟨["p"], letter, none⟩, by decide +kernel, rfl, rfl, rfl, rfl, rfl⟩

/-- What is said of a rule file, if it cannot be used and there are words for what is wrong. -/
def saidOf? (name : String) (bytes : ByteArray) : Option String :=
  match Pack.ofBytes bytes with
  | .ok _ => none
  | .error f => f.message? name

lemma letter_refused :
    ∃ f message, Pack.ofBytes letter = .error f ∧ f.message? "p" = some message := by
  have htold : (saidOf? "p" letter).isSome = true := by decide +kernel
  unfold saidOf? at htold
  split at htold
  next => cases htold
  next f hf => exact ⟨f, _, hf, (Option.some_get htold).symm⟩

/-- A byte that is no text by itself. -/
def strayByte : ByteArray := ⟨#[0xff]⟩

end LineAudit.CommandLine
