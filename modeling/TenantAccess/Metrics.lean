import TenantAccess.Json.Value

set_option autoImplicit false

namespace TenantAccess

namespace Metrics

inductive Operation where
  | create
  | update
  | delete
  deriving DecidableEq, Repr

def Operation.name : Operation → String
  | .create => "create"
  | .update => "update"
  | .delete => "delete"

inductive Series where
  | requests (method path : String) (status : Nat)
  | durations (method path : String)
  | authFailures (reason : String)
  | decisions (allowed : Bool) (reason : String)
  | roleMutations (operation : Operation)
  deriving DecidableEq, Repr

def decisionWord (allowed : Bool) : String := if allowed then "allow" else "deny"

namespace Series

def sample : Series → String
  | .requests _ _ _ => "http_requests_total"
  | .durations _ _ => "http_request_duration_seconds_count"
  | .authFailures _ => "auth_failures_total"
  | .decisions _ _ => "authz_decisions_total"
  | .roleMutations _ => "role_mutations_total"

def labels : Series → List (String × String)
  | .requests method path status =>
    [("method", method), ("path", path), ("status", toString status)]
  | .durations method path => [("method", method), ("path", path)]
  | .authFailures reason => [("reason", reason)]
  | .decisions allowed reason => [("decision", decisionWord allowed), ("reason", reason)]
  | .roleMutations operation => [("operation", operation.name)]

/-- Whether the series is a plain counter, as opposed to a part of a histogram. -/
def isCounter : Series → Bool
  | .durations _ _ => false
  | _ => true

end Series

end Metrics

/-- The series observed so far with their counts. -/
structure Metrics where
  counts : List (Metrics.Series × Nat)
  deriving Repr

namespace Metrics

def zero : Metrics := ⟨[]⟩

def count (metrics : Metrics) (series : Series) : Nat :=
  ((metrics.counts.find? fun entry => entry.1 == series).map (·.2)).getD 0

def raise (series : Series) : List (Series × Nat) → List (Series × Nat)
  | [] => [(series, 1)]
  | (other, count) :: rest =>
    if other = series then (other, count + 1) :: rest else (other, count) :: raise series rest

def observe (series : Series) (metrics : Metrics) : Metrics := ⟨raise series metrics.counts⟩

/-- Counts a request and its duration. -/
def observeRequest (method path : String) (status : Nat) (metrics : Metrics) : Metrics :=
  (metrics.observe (.requests method path status)).observe (.durations method path)

def escapeLabel (c : Char) : List Char :=
  if c = '\\' then ['\\', '\\']
  else if c = '\n' then ['\\', 'n']
  else if c = '"' then ['\\', '"']
  else [c]

def labelText (label : String × String) : String :=
  label.1 ++ "=\"" ++ String.ofList (label.2.toList.flatMap escapeLabel) ++ "\""

/-- The line of a series in the text that monitors read. -/
def exposition (entry : Series × Nat) : String :=
  entry.1.sample ++ "\x7b" ++ ",".intercalate (entry.1.labels.map labelText) ++ "\x7d "
    ++ toString entry.2 ++ ".0"

def expositionLines (metrics : Metrics) : List String :=
  ((metrics.counts.filter fun entry => entry.1.isCounter).map exposition).mergeSort
    fun x y => decide (x ≤ y)

end Metrics

end TenantAccess
