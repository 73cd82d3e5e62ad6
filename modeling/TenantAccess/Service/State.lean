import TenantAccess.Action
import TenantAccess.Config.Settings
import TenantAccess.Metrics
import TenantAccess.Store.Database
import TenantAccess.Token.KeySource

set_option autoImplicit false

namespace TenantAccess

open Time (Instant)

structure ServiceState where
  database : Database
  metrics : Metrics
  keys : Token.KeySource
  correlationIds : Nat

abbrev ServiceAction : Type → Type := Action ServiceState

namespace ServiceState

def start (answer : Nat → Token.Answer) : ServiceState where
  database := .empty
  metrics := .zero
  keys := .start answer
  correlationIds := 0

end ServiceState

/-- New ids by their number, counted from one. -/
structure IdSupply where
  roleId : Nat → Uuid
  correlationId : Nat → Uuid

/-- What the clocks show: the instant, and the seconds on a steady clock. -/
structure Clock where
  now : Instant
  reading : Rat
  deriving DecidableEq, Repr

structure Ambient where
  settings : Settings
  clock : Clock
  signatures : Token.SignatureCheck
  correlationId : Option String
  ids : IdSupply

namespace Ambient

def now (ambient : Ambient) : Instant := ambient.clock.now

/-- The correlation id as spans record it. -/
def spanId (ambient : Ambient) : Json := .string (ambient.correlationId.getD "")

def record (ambient : Ambient) (level : Log.Level) (logger message : String)
    (fields : List (String × Json)) (fault : Option Fault) : LogRecord where
  level := level.name
  logger := logger
  message := message
  correlationId := ambient.correlationId.elim .null .string
  fields := fields
  fault := fault

def log (ambient : Ambient) (level : Log.Level) (logger message : String)
    (fields : List (String × Json)) : ServiceAction Unit :=
  Action.signal (.logged (ambient.record level logger message fields none))

def logFault (ambient : Ambient) (level : Log.Level) (logger message : String)
    (fields : List (String × Json)) (fault : Fault) : ServiceAction Unit :=
  Action.signal (.logged (ambient.record level logger message fields (some fault)))

end Ambient

namespace ServiceAction

def count (series : Metrics.Series) : ServiceAction Unit :=
  Action.modify fun state => { state with metrics := state.metrics.observe series }

def query {α : Type} (view : Database → α) : ServiceAction α :=
  Action.read fun state => view state.database

/-- Reads rows in one step, where a table may be missing. -/
def queryOrFail {α : Type} (view : Database → Except Fault α) : ServiceAction α :=
  Action.readOrFail fun state => view state.database

def commit {α : Type} (change : Database → α × Database) : ServiceAction α :=
  Action.exchange fun state =>
    let (value, database) := change state.database
    (value, { state with database := database })

def finish (span : Span) : ServiceAction Unit := Action.signal (.finished span)

end ServiceAction

end TenantAccess
