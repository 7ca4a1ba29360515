import QtradeClient.Boot.Adapters
import QtradeClient.Library.Named
import QtradeClient.Library.Reading

/-!
# Reading the bootstrap file

`ParseQtradeEngineBootstrapConfig` on a JSON value: first the shape of the value, then the
texts in it, then the support services.  The JSON library is not part of this repository; of
it the sources use the kind of a value, its members, and `value(key, default)`, which raises
where the key is present with a value of another type than the default.  The common
library's `ParseServiceEndpoint` is a parameter.
-/

namespace QtradeClient.Boot

open Library Library.Named Library.Reading

/-! ## JSON values -/

inductive Json where
  | null
  | boolean (value : Bool)
  | integer (value : Int)
  | number (value : Float)
  | string (text : String)
  | array (items : List Json)
  | object (members : List (String × Json))

abbrev Members := List (String × Json)

namespace Json

def asObject? : Json → Option Members
  | .object members => some members
  | _ => none

def asArray? : Json → Option (List Json)
  | .array items => some items
  | _ => none

end Json

/-- What `value(key, default)` raises for a text. -/
inductive TypeError where
  | mustBeString
  deriving DecidableEq

/-- `value(key, default)` of an object. -/
def value (members : Members) (key default : String) : Reading TypeError String :=
  match members.lookup key with
  | none => .found default
  | some (.string text) => .found text
  | some _ => .raised .mustBeString

/-- The key is absent or its value is a text. -/
def TextOrAbsent (members : Members) (key : String) : Prop :=
  members.lookup key = none ∨ ∃ text, members.lookup key = some (.string text)

/-- The text of a key, nothing where its value is not one. -/
def text (members : Members) (key default : String) : String :=
  match members.lookup key with
  | none => default
  | some (.string text) => text
  | some _ => ""

theorem reads_value (members : Members) (key default : String) :
    Reads (value members key default) (TextOrAbsent members key)
      (some (text members key default)) := by
  unfold value TextOrAbsent text
  constructor
  · rintro (habsent | ⟨found, htext⟩)
    · rw [habsent]
      rfl
    · rw [htext]
      rfl
  · intro hnot
    cases hlookup : members.lookup key with
    | none => exact absurd (.inl hlookup) hnot
    | some found =>
        cases found with
        | string found => exact absurd (.inr ⟨found, hlookup⟩) hnot
        | _ => exact ⟨.mustBeString, rfl⟩

/-! ## The parser -/

/-- `qtrade::common::config::ServiceConfig` with its deadline. -/
structure ServiceEndpoint extends Client.ServiceConfig where
  timeoutMs : Int
  deriving DecidableEq

structure SupportEndpoints where
  configService : ServiceEndpoint
  accountService : ServiceEndpoint
  accountRiskService : ServiceEndpoint

/-- What the parser returns; `QtradeEngineBootstrapConfig` is the part of it that the
start-up uses. -/
structure ParsedBootstrapConfig where
  config : QtradeEngineProcessConfig
  supportServices : SupportEndpoints

/-- The sections of a bootstrap file whose kinds have been checked. -/
structure BootstrapShape where
  process : Members
  identity : Members
  strategy : Members
  supportServices : List Json

def bootstrapShape? (configNode : Json) : Option BootstrapShape := do
  let root ← configNode.asObject?
  let process ← (root.lookup "config").bind Json.asObject?
  let supportServices ← (root.lookup "support_services").bind Json.asArray?
  let identity ← (process.lookup "identity").bind Json.asObject?
  let strategy ← (process.lookup "strategy").bind Json.asObject?
  return ⟨process, identity, strategy, supportServices⟩

def readLogs (process : Members) : Reading TypeError (String × String) := do
  let logDir ← value process "log_dir" "logs"
  let logFilename ← value process "log_filename" "trading-engine.log"
  if logDir = "" ∨ logFilename = "" then .refused else return (logDir, logFilename)

def readIdentity (identity : Members) : Reading TypeError QtradeEngineIdentity := do
  let tenantId ← value identity "tenant_id" ""
  let engineId ← value identity "engine_id" ""
  let accountId ← value identity "account_id" ""
  if tenantId = "" ∨ engineId = "" ∨ accountId = "" then .refused
  else return ⟨tenantId, engineId, accountId⟩

def readPluginDir (strategy : Members) : Reading TypeError String := do
  let pluginDir ← value strategy "plugin_dir" ""
  if pluginDir = "" then .refused else return pluginDir

section Services

variable (parseServiceEndpoint : Json → Option ServiceEndpoint)

/-- The loop over the entries: others than objects are skipped, and the first one of the
name ends it. -/
def findService (name : String) : List Json → Reading TypeError (Option ServiceEndpoint)
  | [] => return none
  | .object members :: entries => do
      let found ← value members "name" ""
      if found ≠ name then findService name entries
      else return parseServiceEndpoint (.object members)
  | _ :: entries => findService name entries

def parseSupportServiceByName (supportServices : Json) (name : String) :
    Reading TypeError (Option ServiceEndpoint) :=
  match supportServices with
  | .array entries => findService parseServiceEndpoint name entries
  | _ => return none

/-- The last check of the parser is on the account-risk service. -/
def readServices (supportServices : List Json) : Reading TypeError SupportEndpoints := do
  let configService ←
    parseSupportServiceByName parseServiceEndpoint (.array supportServices) "config_service"
  let accountService ←
    parseSupportServiceByName parseServiceEndpoint (.array supportServices) "account_service"
  let accountRiskService ←
    parseSupportServiceByName parseServiceEndpoint (.array supportServices)
      "account_risk_service"
  match configService, accountService, accountRiskService with
  | some configService, some accountService, some accountRiskService =>
      if accountRiskService.enabled ∧ accountRiskService.timeoutMs ≤ 0 then .refused
      else return ⟨configService, accountService, accountRiskService⟩
  | _, _, _ => .refused

def parseQtradeEngineBootstrapConfig (configNode : Json) :
    Reading TypeError ParsedBootstrapConfig := do
  let shape ← ofOption (bootstrapShape? configNode)
  let (logDir, logFilename) ← readLogs shape.process
  let identity ← readIdentity shape.identity
  let pluginDir ← readPluginDir shape.strategy
  let supportServices ← readServices parseServiceEndpoint shape.supportServices
  return ⟨⟨logDir, logFilename, ⟨pluginDir⟩, identity⟩, supportServices⟩

/-- `LoadBootstrapConfig` on what the file loads as. -/
def loadBootstrapConfig (configNode : Option Json) : Reading TypeError ParsedBootstrapConfig :=
  match configNode with
  | none => .refused
  | some configNode => parseQtradeEngineBootstrapConfig parseServiceEndpoint configNode

end Services

end QtradeClient.Boot
