import QtradeClient.Boot.BootstrapConfig
import QtradeClient.Boot.Start
import QtradeClient.Library.Protocol

/-!
# The process

`main` from the program options to the exit code, with the engine and the bridges that it
owns.  Where it returns, the bridges are destroyed first and the engine last.  What the
client does with the engine, its bridges and its adapters is checked against a protocol
that knows which of them are alive.
-/

namespace QtradeClient.Boot

open Bridge Client Library

/-! ## What the process does -/

/-- The services that a bridge is opened to. -/
inductive SupportService where
  | config
  | account
  | accountRisk
  deriving DecidableEq

/-- What the process does, with the answer it got; acts of the start-up are `perform`. -/
inductive Deed where
  | reportOptions (message : String)
  | notifyError (reason : String)
  | createEngine
  | createBridge (service : SupportService) (code : ErrorCode)
  | perform (act : Act)
  | startEngine (code : ErrorCode)
  | notifyReady (status : String)
  | stopEngine
  | shutdownBridge (service : SupportService)
  | logStopped (name : String)
  | destroyBridge (service : SupportService)
  | destroyEngine

inductive ExitCode where
  | success
  | failure
  deriving DecidableEq

/-- `main` returns, ends in an exception that nobody catches, or still waits for a signal. -/
inductive Ending where
  | exited (code : ExitCode)
  | aborted
  | running
  deriving DecidableEq

structure Process where
  deeds : List Deed
  ending : Ending

structure ProgramOptions where
  configPath : String

/-- What the process meets. -/
structure Host where
  options : Result ProgramOptions
  loadJsonFile : String → Option Json
  parseServiceEndpoint : Json → Option ServiceEndpoint
  world : World
  interrupted : Bool

/-- The part of the bootstrap file that the start-up uses. -/
def ParsedBootstrapConfig.used (parsed : ParsedBootstrapConfig) : QtradeEngineBootstrapConfig where
  config := parsed.config
  supportServices :=
    { configService := parsed.supportServices.configService.toServiceConfig
      accountService := parsed.supportServices.accountService.toServiceConfig
      accountRiskService := parsed.supportServices.accountRiskService.toServiceConfig }

section Main

variable (blank : Blank) (world : World) (bootstrap : QtradeEngineBootstrapConfig)

/-- A bridge is constructed and initialised if its service is enabled. -/
def openBridge (service : SupportService) (enabled : Bool) (code : ErrorCode) :
    Traced Deed String Unit :=
  Traced.tell (if enabled then [.createBridge service code] else [])

def openConfig : Traced Deed String Fetched := do
  let service := bootstrap.supportServices.configService
  let bridge := GrpcConfigBridge.create blank service bootstrap.config.identity.engineId
  openBridge .config service.enabled (bridge.init blank world.configAnswer).1
  (fetchConfig blank world bootstrap).mapActs .perform

def openAccount : Traced Deed String (Option GrpcAccountBridge) := do
  let service := bootstrap.supportServices.accountService
  openBridge .account service.enabled (GrpcAccountBridge.create service).init.1
  (injectAccountBridge world bootstrap).mapActs .perform

def openAccountRisk : Traced Deed String Unit := do
  let service := bootstrap.supportServices.accountRiskService
  openBridge .accountRisk service.enabled (GrpcAccountRiskBridge.create service).init.1
  (injectAccountRiskBridge bootstrap).mapActs .perform

def handOver (adapters : AdapterBundle) : Stage Unit :=
  Traced.tell [.setQuoteApi adapters.quoteApi, .setTraderApi adapters.traderApi]

/-- Everything from the bootstrap file to the start of the engine. -/
def startUp : Traced Deed String Unit := do
  Traced.attempt [] world.environmentReady "Failed to initialize program environment"
  Traced.tell [.createEngine]
  let fetched ← openConfig blank world bootstrap
  let accountBridge ← openAccount world bootstrap
  openAccountRisk bootstrap
  let adapters ←
    (takeAdapters world bootstrap fetched.adapterParams accountBridge).mapActs .perform
  (handOver adapters).mapActs .perform
  (initEngine world fetched.engineConfig).mapActs .perform
  (loadStrategies world bootstrap.config.strategy.pluginDir fetched.strategies).mapActs .perform

def Deed.creates (service : SupportService) : Deed → Bool
  | .createBridge created _ => created = service
  | _ => false

def Deed.createsEngine : Deed → Bool
  | .createEngine => true
  | _ => false

/-- The bridges there are, in the order of their destruction and of their shutdown. -/
def opened (deeds : List Deed) : List SupportService :=
  [.accountRisk, .account, .config].filter fun service => deeds.any (Deed.creates service)

/-- The destructors at the end of `main`; the engine is declared first. -/
def leaveScope (deeds : List Deed) : List Deed :=
  (opened deeds).map .destroyBridge ++
    if deeds.any Deed.createsEngine then [.destroyEngine] else []

def exitWith (deeds : List Deed) (code : ExitCode) : Process :=
  ⟨deeds ++ leaveScope deeds, .exited code⟩

def runEngine (interrupted : Bool) : Process :=
  let prepared := startUp blank world bootstrap
  match prepared.outcome with
  | .error reason => exitWith (prepared.acts ++ [.notifyError reason]) .failure
  | .ok () =>
      let started := prepared.acts ++ [.startEngine world.engineStart]
      if world.engineStart ≠ .kSuccess then
        exitWith (started ++ [.notifyError "Failed to start engine"]) .failure
      else
        let ready := started ++ [.notifyReady "qtrade_client ready"]
        if interrupted then
          exitWith (ready ++ [.stopEngine] ++ (opened ready).map .shutdownBridge ++
            [.logStopped "qtrade_client"]) .success
        else ⟨ready, .running⟩

end Main

/-- `main`. -/
def runProcess (blank : Blank) (host : Host) : Process :=
  if host.options.errorCode ≠ .kSuccess then
    ⟨[.reportOptions host.options.errorMessage], .exited .failure⟩
  else
    match host.options.data with
    | none => ⟨[.reportOptions host.options.errorMessage], .exited .failure⟩
    | some options =>
        match loadBootstrapConfig host.parseServiceEndpoint
            (host.loadJsonFile options.configPath) with
        | .raised _ => ⟨[], .aborted⟩
        | .refused =>
            ⟨[.notifyError "Failed to load engine bootstrap config"], .exited .failure⟩
        | .found parsed => runEngine blank host.world parsed.used host.interrupted

/-! ## The acts are those of the start-up -/

def Deed.act? : Deed → Option Act
  | .perform act => some act
  | _ => none

theorem seen_openBridge (service : SupportService) (enabled : Bool) (code : ErrorCode) :
    (openBridge service enabled code).seen Deed.act? = Traced.tell [] := by
  cases enabled <;> rfl

section Acts

variable (blank : Blank) (world : World) (bootstrap : QtradeEngineBootstrapConfig)

/-- Seen from outside, the start-up is the one without the engine and the bridges. -/
theorem startUp_seen :
    (startUp blank world bootstrap).seen Deed.act? = prepare blank world bootstrap := by
  have hperform (act : Act) : Deed.act? (.perform act) = some act := rfl
  have hengine : (Traced.tell [.createEngine] : Traced Deed String Unit).seen Deed.act? =
      Traced.tell [] := rfl
  have hready (passed : Bool) (reason : String) :
      (Traced.attempt [] passed reason : Traced Deed String Unit).seen Deed.act? =
        Traced.attempt [] passed reason := rfl
  simp only [startUp, openConfig, openAccount, openAccountRisk, prepare, handOver,
    Traced.seen_bind, Traced.seen_mapActs hperform, seen_openBridge, hengine, hready,
    Traced.tell_nil_bind]

end Acts

end QtradeClient.Boot
