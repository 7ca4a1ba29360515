import QtradeClient.Boot.Adapters
import QtradeClient.Bridge.Account
import QtradeClient.Bridge.AccountRisk
import QtradeClient.Library.Traced

/-!
# The start-up of the client

`main` from the loaded bootstrap file to the start of the engine, stage by stage.  The
engine, the services and the venues are given as a world of answers.  The engine holds
the account bridge from the moment it is set, so it may have asked it for credentials,
and filled its cache, before the adapters are built.
-/

namespace QtradeClient.Boot

open Bridge Client Library

/-- Everything outside the client answers, as one start-up meets it. -/
structure World where
  environmentReady : Bool
  configAnswer : Answer GetEngineConfigResponse
  engineRequests : List (GetCredentialRequest × Answer GetCredentialResponse)
  credentialAnswer : Answer GetCredentialResponse
  venue : Venue
  engineInit : EngineConfig → ErrorCode
  addStrategy : List StrategyConfig → StrategyConfig → String → ErrorCode
  engineStart : ErrorCode

abbrev Stage := Traced Act String

section Stages

variable (blank : Blank) (world : World) (bootstrap : QtradeEngineBootstrapConfig)

/-- What the start-up knows once the config service has answered or is disabled. -/
structure Fetched where
  engineConfig : EngineConfig
  strategies : List StrategyConfig
  adapterParams : Option AdapterLaunchParams

def fetchConfig : Stage Fetched :=
  let identity := bootstrap.config.identity
  let service := bootstrap.supportServices.configService
  if service.enabled then
    let done := (GrpcConfigBridge.create blank service identity.engineId).init blank
      world.configAnswer
    if done.1 ≠ .kSuccess then .fail "Failed to init config bridge"
    else
      let result := done.2.getEngineConfig
      if result.errorCode ≠ .kSuccess then .fail "Failed to get engine config"
      else
        match result.data with
        | none => .fail "Failed to get engine config"
        | some config =>
            if config.engineId ≠ identity.engineId ∨ config.accountId ≠ identity.accountId then
              .fail "Remote EngineConfig identity mismatch with bootstrap"
            else pure ⟨config, done.2.getStrategies, some done.2.getAdapterLaunchParams⟩
  else
    pure ⟨{ blank.engineConfig with
      engineId := identity.engineId, accountId := identity.accountId }, [], none⟩

/-- The bridge after the engine has used it. -/
def usedByEngine (bridge : GrpcAccountBridge) : GrpcAccountBridge :=
  world.engineRequests.foldl (fun bridge asked => (bridge.getCredential asked.1 asked.2).2) bridge

def injectAccountBridge : Stage (Option GrpcAccountBridge) :=
  let service := bootstrap.supportServices.accountService
  if service.enabled then do
    let done := (GrpcAccountBridge.create service).init
    Traced.attempt [] (done.1 = .kSuccess) "Failed to init account bridge"
    Traced.tell [.setAccountBridge]
    return some (usedByEngine world done.2)
  else return none

def injectAccountRiskBridge : Stage Unit :=
  let service := bootstrap.supportServices.accountRiskService
  if service.enabled then do
    let done := (GrpcAccountRiskBridge.create service).init
    Traced.attempt [] (done.1 = .kSuccess) "Failed to init account risk bridge"
    Traced.tell [.setAccountRiskBridge]
  else return ()

/-- `IAccountBridge::GetCredential` of the bridge at hand. -/
def askCredential (bridge : GrpcAccountBridge) (accountId engineId : String) :
    Result CredentialMaterial :=
  (bridge.getCredential ⟨accountId, engineId⟩ world.credentialAnswer).1

def takeAdapters (adapterParams : Option AdapterLaunchParams)
    (accountBridge : Option GrpcAccountBridge) : Stage AdapterBundle := do
  let built := buildAdapters world.venue bootstrap adapterParams
    (accountBridge.map (askCredential world)) .empty
  Traced.attempt built.acts built.returned "Failed to build/connect quote/trader adapters"
  return built.out

def initEngine (config : EngineConfig) : Stage Unit :=
  let code := world.engineInit config
  Traced.attempt [.initEngine config code] (code = .kSuccess) "Failed to initialize engine"

/-- `operator/` of paths, for a right side that is a file name. -/
def joinPath (directory file : String) : String :=
  if directory = "" || directory.endsWith "/" then directory ++ file
  else directory ++ "/" ++ file

def defaultPluginSoPath (pluginDir strategyName : String) : String :=
  joinPath pluginDir ("lib" ++ strategyName ++ "_strategy.so")

/-- The loop of `LoadStrategies`, which stops at the first failure; the engine's answer
may depend on the strategies it has. -/
def addStrategies (pluginDir : String) :
    List StrategyConfig → List StrategyConfig → List Act × Bool
  | _, [] => ([], true)
  | added, config :: rest =>
      let soPath := defaultPluginSoPath pluginDir config.strategyName
      let code := world.addStrategy added config soPath
      if code ≠ .kSuccess then ([.addStrategy config soPath code], false)
      else
        let more := addStrategies pluginDir (added ++ [config]) rest
        (.addStrategy config soPath code :: more.1, more.2)

def loadStrategies (pluginDir : String) (strategies : List StrategyConfig) : Stage Unit :=
  if pluginDir = "" then .fail "Failed to load strategies"
  else
    let loaded := addStrategies world pluginDir [] strategies
    Traced.attempt loaded.1 loaded.2 "Failed to load strategies"

/-- Everything before the start of the engine. -/
def prepare : Stage Unit := do
  Traced.attempt [] world.environmentReady "Failed to initialize program environment"
  let fetched ← fetchConfig blank world bootstrap
  let accountBridge ← injectAccountBridge world bootstrap
  injectAccountRiskBridge bootstrap
  let adapters ← takeAdapters world bootstrap fetched.adapterParams accountBridge
  Traced.tell [.setQuoteApi adapters.quoteApi, .setTraderApi adapters.traderApi]
  initEngine world fetched.engineConfig
  loadStrategies world bootstrap.config.strategy.pluginDir fetched.strategies

variable {blank world bootstrap}

end Stages

end QtradeClient.Boot
