import NexusAgent.Go.Regexp
import NexusAgent.Tools.Types

/-!
# Screening a text

The admission scanner of tool descriptors (`internal/tools/admit.go`) and the screening of memory
files that is built on it (`internal/memory/screen.go`). The team board screens cards with the
latter.
-/

namespace NexusAgent.Tools

open Go

/-- A compiled pattern with its source text. -/
structure Pattern where
  source : String
  regexp : Regexp

def Pattern.matchString (p : Pattern) (text : String) : Bool := p.regexp.matchString text

/-- Phrases that have no reason to be in a descriptor. -/
def injectionPatterns : List Pattern :=
  [{ source := "(?i)ignore (all )?(previous|prior|above) instructions"
     regexp := .all [.fold "ignore ", .opt (.fold "all "),
       .alt (.fold "previous") (.alt (.fold "prior") (.fold "above")), .fold " instructions"] },
   { source := "(?i)disregard (the )?system prompt"
     regexp := .all [.fold "disregard ", .opt (.fold "the "), .fold "system prompt"] },
   { source := "(?i)you must (always|now) "
     regexp := .all [.fold "you must ", .alt (.fold "always") (.fold "now"), .lit " "] },
   { source := "(?i)<!--.*-->"
     regexp := .all [.lit "<!--", .star .any, .lit "-->"] }]

/-- Weaker signals: characters of no width and controls of direction. -/
def suspiciousPatterns : List Pattern :=
  [{ source := "[\\x\x7b200B\x7d-\\x\x7b200F\x7d\\x\x7b2060\x7d-\\x\x7b206F\x7d]"
     regexp := .ranges [(0x200b, 0x200f), (0x2060, 0x206f)] }]

structure Finding where
  pattern : String
  field : String

def check (patterns : List Pattern) (field text : String) : List Finding :=
  (patterns.filter (·.matchString text)).map fun p => { pattern := p.source, field }

/-- `Scan` of a descriptor's description and input schema. -/
def scan (description inputSchema : String) : AdmissionStatus × List Finding :=
  let findings := check injectionPatterns "description" description ++
    check injectionPatterns "input_schema" inputSchema
  if findings ≠ [] then (.rejected, findings)
  else
    let findings := check suspiciousPatterns "description" description ++
      check suspiciousPatterns "input_schema" inputSchema
    if findings ≠ [] then (.flagged, findings)
    else if Go.trimSpace description = "" then
      (.flagged, [{ pattern := "empty description", field := "description" }])
    else (.clean, [])

end NexusAgent.Tools

namespace NexusAgent.Memory

open Tools

inductive Status
  | clean
  | flagged
  | rejected
  deriving DecidableEq

/-- Letters without regard to case, digits, and the other characters of a bearer token. -/
def tokenChar : Go.Regexp :=
  .ranges [(65, 90), (97, 122), (48, 57), (46, 46), (95, 95), (45, 45), (0x17f, 0x17f),
    (0x212a, 0x212a)]

/-- Secrets that have no business in a durable text. -/
def exfiltrationPatterns : List Pattern :=
  [{ source := "(?i)-----BEGIN [A-Z ]*PRIVATE KEY-----"
     regexp := .all [.fold "-----BEGIN ",
       .star (.ranges [(65, 90), (97, 122), (32, 32), (0x17f, 0x17f), (0x212a, 0x212a)]),
       .fold "PRIVATE KEY-----"] },
   { source := "\\bsk-[A-Za-z0-9]\x7b20,\x7d\\b"
     regexp := .all [.wordBoundary, .lit "sk-",
       .atLeast (.ranges [(65, 90), (97, 122), (48, 57)]) 20, .wordBoundary] },
   { source := "\\bAKIA[0-9A-Z]\x7b16\x7d\\b"
     regexp := .all [.wordBoundary, .lit "AKIA", .times (.ranges [(48, 57), (65, 90)]) 16,
       .wordBoundary] },
   { source := "(?i)\\bbearer [A-Za-z0-9._-]\x7b20,\x7d\\b"
     regexp := .all [.wordBoundary, .fold "bearer ", .atLeast tokenChar 20, .wordBoundary] }]

/-- Whether some finding begins with `exfiltration:`. -/
def containsExfiltration (findings : List String) : Bool :=
  findings.any fun f => "exfiltration:".toList.isPrefixOf f.toList

def screen (text : String) : Status × List String :=
  if Go.trimSpace text = "" then (.clean, [])
  else
    let (scanStatus, scanFindings) := scan text ""
    let findings := scanFindings.map (fun f => "injection: " ++ f.pattern) ++
      (exfiltrationPatterns.filter (·.matchString text)).map fun p => "exfiltration: " ++ p.source
    if scanStatus = .rejected ∨ containsExfiltration findings then (.rejected, findings)
    else if scanStatus = .flagged ∨ findings ≠ [] then (.flagged, findings)
    else (.clean, findings)

def Accepted (text : String) : Prop := (screen text).1 = .clean

instance (text : String) : Decidable (Accepted text) :=
  inferInstanceAs (Decidable ((screen text).1 = .clean))

lemma accepted_empty : Accepted "" := by decide +kernel

end NexusAgent.Memory
