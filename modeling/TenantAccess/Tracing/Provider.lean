import TenantAccess.Config.Settings

set_option autoImplicit false

namespace TenantAccess.Tracing

/-- Where finished spans go, in batches or one by one. -/
inductive Processor where
  | batchedNetwork (endpoint : String)
  | simpleConsole
  deriving DecidableEq, Repr

structure Provider where
  serviceName : String
  serviceVersion : String
  processors : List Processor
  deriving DecidableEq, Repr

def valueOf? (env : Environment) (name : String) : Option String := Table.lookup? name env

def processorsOf (env : Environment) : List Processor :=
  let network := ((valueOf? env "OTEL_EXPORTER_OTLP_ENDPOINT").filter (· ≠ "")).map
    Processor.batchedNetwork
  let console := (valueOf? env "OTEL_CONSOLE_EXPORTER").any fun word => word.toLower == "true"
  network.toList ++ if console then [.simpleConsole] else []

def unnamed : String := "unknown_service"

def create (serviceName : String) (env : Environment) : Provider where
  serviceName := if serviceName = "" then unnamed else serviceName
  serviceVersion := (valueOf? env "APP_VERSION").getD "0.1.0"
  processors := processorsOf env

/-- The provider after a setup, and what the setup returns. -/
def setup (current : Option Provider) (serviceName : String) (enable : Bool) (env : Environment) :
    Option Provider × Option Provider :=
  if enable then
    let provider := current.getD (create serviceName env)
    (some provider, some provider)
  else (current, none)

end TenantAccess.Tracing
