import LineAudit.Pack

/-!
The rules that are used when no pack is named.
-/

namespace LineAudit.Pack

/-- The lines of the bundled pack. Comment lines are excluded from every rule. -/
def bundledLines : List String := [
  "# Default Solidity rule pack.",
  "#",
  "# Every rule is evaluated line by line. A rule fires when its pattern matches",
  "# and none of its exclude patterns match the same line.",
  "",
  "comment_line: &comment_line",
  "  regex: '^\\s*(//|/\\*|\\*)'",
  "",
  "rules:",
  "  - id: SC01",
  "    description: tx.origin used (potential phishing via authorization through tx.origin)",
  "    severity: high",
  "    pattern: tx.origin",
  "    exclude:",
  "      - *comment_line",
  "    recommendation: Use msg.sender for authorization checks.",
  "",
  "  - id: SC05",
  "    description: Low-level external call (check for reentrancy, verify checks-effects-interactions)",
  "    severity: medium",
  "    pattern: '.call\x7b'",
  "    exclude:",
  "      - *comment_line",
  "    recommendation: Update state before external calls or guard the function with nonReentrant.",
  "",
  "  - id: SC06",
  "    description: Potentially unchecked low-level call return value",
  "    severity: high",
  "    pattern:",
  "      any:",
  "        - '.call\x7b'",
  "        - '.call('",
  "        - '.send('",
  "    exclude:",
  "      - *comment_line",
  "      - bool",
  "      - success",
  "    recommendation: Capture and require the boolean result of low-level calls.",
  "",
  "  - id: SC09",
  "    description: Block-based value used (insecure as a randomness source)",
  "    severity: low",
  "    pattern:",
  "      regex: '\\bblock\\.(timestamp|number|prevrandao|difficulty)\\b|\\bblockhash\\s*\\('",
  "    exclude:",
  "      - *comment_line",
  "    recommendation: Use a verifiable randomness source such as Chainlink VRF.",
  "",
  "  - id: SD01",
  "    description: selfdestruct used (verify access control)",
  "    severity: high",
  "    pattern:",
  "      regex: '\\b(selfdestruct|suicide)\\s*\\('",
  "    exclude:",
  "      - *comment_line",
  "    recommendation: Remove selfdestruct or restrict it to a trusted role.",
  "",
  "  - id: DC01",
  "    description: delegatecall used (high risk if the target is not trusted)",
  "    severity: high",
  "    pattern: delegatecall",
  "    exclude:",
  "      - *comment_line",
  "    recommendation: Only delegatecall into immutable, trusted implementations."
]

def bundledText : String := String.join (bundledLines.map (· ++ "\n"))

def bundled : Except PackFailure (Registry Severity) := ofText bundledText

/-- What stands for the path of the bundled pack. -/
def bundledPath : String := "<default>"

end LineAudit.Pack
