import LineAudit.BundledPack
import LineAudit.Proofs.Pack.Accept
import LineAudit.Proofs.Pack.CommentLine
import LineAudit.Proofs.Value.Same

/-!
The bundled pack and its registry.

The text of the pack is read once. Main result: it is accepted, and its registry has the six rules
that stand in it.
-/

namespace LineAudit

/-- A text is read as a value that is made of texts, lists and mappings. -/
def Yaml.readsAs (outcome : Except Refusal Value) (v : Value) : Bool :=
  match outcome with
  | .ok w => w.sameText v
  | .error _ => false

lemma Yaml.eq_of_readsAs {outcome : Except Refusal Value} {v : Value}
    (h : readsAs outcome v = true) : outcome = .ok v := by
  unfold readsAs at h
  split at h
  next w => rw [Value.eq_of_sameText w v h]
  next => cases h

namespace Pack

/-- The specification of a regular expression. -/
def regexSpec (pattern : String) : Value := .dict [(.str "regex", .str pattern)]

/-- The specification of the pattern for comment lines. -/
def commentSpec : Value := regexSpec commentPattern

/-- A rule of the bundled pack. Each one leaves out comment lines before anything else. -/
def bundledRule (id description severity : String) (pattern : Value) (others : List String)
    (recommendation : String) : List (Value × Value) := [
  (.str "id", .str id), (.str "description", .str description), (.str "severity", .str severity),
  (.str "pattern", pattern), (.str "exclude", .list (commentSpec :: others.map .str)),
  (.str "recommendation", .str recommendation)]

/-- The specification that looks for any of some texts. -/
def anyOf (texts : List String) : Value := .dict [(.str "any", .list (texts.map .str))]

/-- The pattern for values that come from a block. -/
def blockPattern : String :=
  "\\bblock\\.(timestamp|number|prevrandao|difficulty)\\b|\\bblockhash\\s*\\("

/-- The pattern for the end of a contract. -/
def endPattern : String := "\\b(selfdestruct|suicide)\\s*\\("

/-- The rules of the bundled pack. -/
def bundledRules : List (List (Value × Value)) := [
  bundledRule "SC01" "tx.origin used (potential phishing via authorization through tx.origin)"
    "high" (.str "tx.origin") [] "Use msg.sender for authorization checks.",
  bundledRule "SC05"
    "Low-level external call (check for reentrancy, verify checks-effects-interactions)"
    "medium" (.str ".call\x7b") []
    "Update state before external calls or guard the function with nonReentrant.",
  bundledRule "SC06" "Potentially unchecked low-level call return value"
    "high" (anyOf [".call\x7b", ".call(", ".send("]) ["bool", "success"]
    "Capture and require the boolean result of low-level calls.",
  bundledRule "SC09" "Block-based value used (insecure as a randomness source)"
    "low" (regexSpec blockPattern) []
    "Use a verifiable randomness source such as Chainlink VRF.",
  bundledRule "SD01" "selfdestruct used (verify access control)"
    "high" (regexSpec endPattern) []
    "Remove selfdestruct or restrict it to a trusted role.",
  bundledRule "DC01" "delegatecall used (high risk if the target is not trusted)"
    "high" (.str "delegatecall") [] "Only delegatecall into immutable, trusted implementations."]

/-- What the bundled pack holds. -/
def bundledValue : Value :=
  .dict [(.str "comment_line", commentSpec), (.str "rules", .list (bundledRules.map .dict))]

lemma bundledText_toList :
    bundledText.toList = bundledLines.flatMap fun line => line.toList ++ ['\n'] := by
  simp [bundledText, String.toList_join, List.flatMap_map]

set_option maxRecDepth 20000 in
/-- The text of the bundled pack is read as what it holds. -/
lemma read_bundledText : Yaml.read bundledText = .ok bundledValue := by
  rw [Yaml.read, Yaml.Tokens.ofText, bundledText_toList]
  refine Yaml.eq_of_readsAs ?_
  -- the characters are written out, so that no text has to be decoded from its bytes
  simp only [bundledLines, List.flatMap_cons, List.flatMap_nil]
  repeat rw [String.toList_ofList]
  simp only [List.cons_append, List.nil_append]
  decide +kernel

/-! ### The rules are well formed -/

lemma field?_single (key : String) (v : Value) : Value.field? key [(.str key, v)] = some v := by
  simp [Value.field?, Value.find?, Value.sameKey]

lemma field?_single_of_ne {key k : String} (h : k ≠ key) (v : Value) :
    Value.field? k [(.str key, v)] = none := by
  simp [Value.field?, Value.find?, Value.sameKey, h.symm]

lemma onlyKey_single {key : String} (v : Value) : Spec.OnlyKey key [(.str key, v)] := by
  intro k _
  by_cases h : k = key
  · simp [h, field?_single]
  · simp [h, field?_single_of_ne h]

lemma wellFormed_regexSpec {pattern : String} (hne : pattern ≠ "")
    (hc : ∃ program, Pattern.compile pattern false = .ok program) :
    Spec.WellFormed (regexSpec pattern) :=
  .regex (onlyKey_single _) (field?_single _ _) hne hc

lemma wellFormed_anyOf {texts : List String} (hne : texts ≠ []) (h : ∀ s ∈ texts, s ≠ "") :
    Spec.WellFormed (anyOf texts) := by
  refine .joint .any (onlyKey_single _) (field?_single _ _) (by simpa using hne) ?_
  intro item hitem
  obtain ⟨s, hs, rfl⟩ := List.mem_map.mp hitem
  exact .text (h s hs)

section Rule

variable {id description severity recommendation : String} {pattern : Value} {others : List String}

lemma wellFormedRule_bundledRule (hid : Text.isAllBlank id = false)
    (hseverity : ∃ s, Severity.parse severity = .ok s) (hpattern : Spec.WellFormed pattern)
    (hothers : ∀ s ∈ others, s ≠ "") :
    WellFormedRule (bundledRule id description severity pattern others recommendation) where
  hasKeys := by
    simp [requiredKeys, bundledRule, Value.field?, Value.find?, Value.sameKey]
  pattern := hpattern
  exclude := by
    refine ⟨commentSpec :: others.map .str, rfl, List.forall_mem_cons.mpr ⟨?_, ?_⟩⟩
    · exact wellFormed_regexSpec (by decide) ⟨commentProgram, compile_commentPattern⟩
    · intro spec hspec
      obtain ⟨s, hs, rfl⟩ := List.mem_map.mp hspec
      exact .text (hothers s hs)
  id := hid
  severity := hseverity

lemma writable_bundledRule :
    Writable (bundledRule id description severity pattern others recommendation) :=
  ⟨rfl, rfl⟩

end Rule

lemma compiles_blockPattern : ∃ program, Pattern.compile blockPattern false = .ok program :=
  exists_ok_of_isOk (by decide +kernel)

lemma compiles_endPattern : ∃ program, Pattern.compile endPattern false = .ok program :=
  exists_ok_of_isOk (by decide +kernel)

lemma wellFormed_bundledRules : ∀ r ∈ bundledRules, WellFormedRule r ∧ Writable r := by
  simp only [bundledRules, List.forall_mem_cons, List.not_mem_nil, false_implies, implies_true,
    and_true]
  refine ⟨⟨?_, writable_bundledRule⟩, ⟨?_, writable_bundledRule⟩, ⟨?_, writable_bundledRule⟩,
    ⟨?_, writable_bundledRule⟩, ⟨?_, writable_bundledRule⟩, ?_, writable_bundledRule⟩
  · exact wellFormedRule_bundledRule (by decide) ⟨.high, by decide⟩ (.text (by decide)) (by simp)
  · exact wellFormedRule_bundledRule (by decide) ⟨.medium, by decide⟩ (.text (by decide)) (by simp)
  · exact wellFormedRule_bundledRule (by decide) ⟨.high, by decide⟩
      (wellFormed_anyOf (by simp) (by simp)) (by simp)
  · exact wellFormedRule_bundledRule (by decide) ⟨.low, by decide⟩
      (wellFormed_regexSpec (by decide) compiles_blockPattern) (by simp)
  · exact wellFormedRule_bundledRule (by decide) ⟨.high, by decide⟩
      (wellFormed_regexSpec (by decide) compiles_endPattern) (by simp)
  · exact wellFormedRule_bundledRule (by decide) ⟨.high, by decide⟩ (.text (by decide)) (by simp)

/-- **The bundled pack is accepted**, and its registry has the rules that stand in it. -/
lemma bundled_accepted : ∃ registry, bundled = .ok registry ∧ registry.ids.Nodup ∧
    (∀ r ∈ registry.rules, ∀ m ∈ r.matcher :: r.exclusions, m.Usable) ∧
      List.Forall₂ Stands bundledRules registry.rules := by
  have hholds : Holds bundledValue bundledRules := ⟨_, rfl, rfl⟩
  have hnodup : (bundledRules.map idText).Nodup := by decide
  have hwell : WellFormed bundledValue :=
    ⟨bundledRules, hholds, fun r hr => (wellFormed_bundledRules r hr).1, hnodup⟩
  have hwritable : AllWritable bundledValue := by
    intro rules hrules r hr
    obtain rfl := hholds.unique hrules
    exact (wellFormed_bundledRules r hr).2
  obtain ⟨registry, hregistry⟩ := accepts_of_wellFormed hwell hwritable
  obtain ⟨rules, hrules, hall, -⟩ := rules_of_accepted hregistry
  obtain rfl := hholds.unique hrules
  have hstands := hall.imp fun e r her => her.2.2.1
  refine ⟨registry, ?_, ?_, forall_right_of_forall₂ hall fun e r her => her.2.2.2, hstands⟩
  · rw [bundled, ofText, read_bundledText]
    exact hregistry
  · rw [Registry.ids, ← ids_eq hstands]
    exact hnodup

end Pack

end LineAudit
