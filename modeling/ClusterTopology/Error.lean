import ClusterTopology.Kind
import ClusterTopology.Address

/-!
What can go wrong, and the one wording of each cause. Running out of addresses
is the only cause that ends a run; every other cause drops what it concerns and
lets the rest go on, or is met before any work has begun.
-/

namespace ClusterTopology

/-- The causes of failure. -/
inductive Error where
  /-- A template lists a key under which nothing of the wanted kind is stored. -/
  | notFound (kind : Kind) (key : String) (parentKind : Kind) (parentKey : String)
  /-- A record or a request does not fit its rules. -/
  | invalid (reason : String)
  /-- A line of the template file cannot be used. -/
  | malformedLine (line : Nat) (reason : String)
  /-- No address follows the last one issued. -/
  | addressesExhausted (kind : Kind) (key : String) (last : Address)
  /-- A setting cannot be read. -/
  | badSetting (reason : String)
  /-- The file system refuses. -/
  | fileAccess (reason : String)
  /-- A settings document is no document at all, as the reader of documents reports. -/
  | brokenDocument (report : String)
  /-- A settings document holds a value that no setting can have. -/
  | unfitDocument (report : String)
  deriving DecidableEq, Repr

namespace Error

/-- The wording of a cause. -/
def message : Error → String
  | notFound kind key parentKind parentKey =>
    s!"Reference error: {kind.name} '{key}' not found (referenced by {parentKind.name} '{parentKey}')"
  | invalid reason => s!"Validation error: {reason}"
  | malformedLine line reason => s!"Malformed input at line {line}: {reason}"
  | addressesExhausted kind key last =>
    s!"Address space exhausted: no valid {kind.name} address follows {last.text} (needed by {kind.name} '{key}')"
  | badSetting reason => s!"Configuration error: {reason}"
  | fileAccess reason => s!"IO error: {reason}"
  | brokenDocument report | unfitDocument report => s!"TOML parse error: {report}"

/-- Whether the cause ends the whole run. -/
def isFatal : Error → Bool
  | addressesExhausted .. => true
  | _ => false

end Error

end ClusterTopology
