import Mathlib.Data.List.Forall2
import QtradeClient.Sdk.Types

/-!
# From messages of the services to values of the engine

The records of the protocol and of the engine list the fields that the conversions
copy.  Prices, thresholds and amounts are only copied, so they are `Float`.
-/

namespace QtradeClient.Bridge

namespace Proto

structure CredentialMaterial where
  accountId : String
  brokerId : String
  connectionString : String
  password : String
  deriving DecidableEq

structure AccountRiskPolicy where
  accountId : String
  version : Int
  validUntilUnixMs : Int
  maxNotional : Float
  maxMargin : Float
  maxGrossExposure : Float
  maxOpenOrders : Int
  safetyBuffer : Float
  enabled : Bool

structure InstanceRisk where
  version : Int
  maxOrderVolume : Int
  maxOrderNotional : Float
  maxOpenOrders : Int
  maxPendingNotional : Float

/-- The optional fields are those with presence in the message. -/
structure StrategyConfig where
  enabled : Bool
  strategyId : String
  strategyName : String
  instruments : List String
  orderCooldownMs : Int
  maxPositionVolume : Int
  orderVolume : Int
  windowSize : Option Int
  orderThreshold : Option Float
  stopLossPercent : Option Float
  takeProfitPercent : Option Float

structure EngineConfig where
  engineId : String
  accountId : String
  executionAdapter : String
  quoteConnectionString : String
  quoteSource : String
  quoteFailover : Bool
  quoteMaxStaleMs : Int
  instanceRisk : InstanceRisk
  strategies : List StrategyConfig

end Proto

structure CredentialMaterial where
  accountId : String
  brokerId : String
  connectionString : String
  password : String
  deriving DecidableEq

structure AccountRiskPolicy where
  accountId : String
  version : Int
  validUntilUnixMs : Int
  maxNotional : Float
  maxMargin : Float
  maxGrossExposure : Float
  maxOpenOrders : Int
  safetyBuffer : Float
  enabled : Bool

structure InstanceRisk where
  version : Int
  maxOrderVolume : Int
  maxOrderNotional : Float
  maxOpenOrders : Int
  maxPendingNotional : Float

/-- `qtrade::engine::EngineConfig`, which carries no strategies and no adapters. -/
structure EngineConfig where
  engineId : String
  accountId : String
  quoteSource : String
  quoteFailover : Bool
  quoteMaxStaleMs : Int
  instanceRisk : InstanceRisk

structure StrategyRisk where
  orderCooldownMs : Int
  maxPositionVolume : Int

structure StrategyArgs where
  orderVolume : Int
  windowSize : Int
  orderThreshold : Float
  stopLossPercent : Float
  takeProfitPercent : Float

structure StrategyConfig where
  enabled : Bool
  strategyId : String
  strategyName : String
  instruments : List String
  risk : StrategyRisk
  args : StrategyArgs

/-- The default-constructed values that the conversions start from. -/
structure Blank where
  engineConfig : EngineConfig
  strategyArgs : StrategyArgs

/-- A message without a staleness bound keeps the default one. -/
def toEngineConfig (blank : Blank) (proto : Proto.EngineConfig) : EngineConfig where
  engineId := proto.engineId
  accountId := proto.accountId
  quoteSource := proto.quoteSource
  quoteFailover := proto.quoteFailover
  quoteMaxStaleMs :=
    if 0 < proto.quoteMaxStaleMs then proto.quoteMaxStaleMs
    else blank.engineConfig.quoteMaxStaleMs
  instanceRisk :=
    { version := proto.instanceRisk.version
      maxOrderVolume := proto.instanceRisk.maxOrderVolume
      maxOrderNotional := proto.instanceRisk.maxOrderNotional
      maxOpenOrders := proto.instanceRisk.maxOpenOrders
      maxPendingNotional := proto.instanceRisk.maxPendingNotional }

def parseStrategyConfigProto (blank : Blank) (config : Proto.StrategyConfig) :
    StrategyConfig where
  enabled := config.enabled
  strategyId := config.strategyId
  strategyName := config.strategyName
  instruments := config.instruments
  risk := ⟨config.orderCooldownMs, config.maxPositionVolume⟩
  args :=
    { orderVolume := config.orderVolume
      windowSize := config.windowSize.getD blank.strategyArgs.windowSize
      orderThreshold := config.orderThreshold.getD blank.strategyArgs.orderThreshold
      stopLossPercent := config.stopLossPercent.getD blank.strategyArgs.stopLossPercent
      takeProfitPercent := config.takeProfitPercent.getD blank.strategyArgs.takeProfitPercent }

def toStrategyConfigs (blank : Blank) (proto : Proto.EngineConfig) : List StrategyConfig :=
  proto.strategies.map (parseStrategyConfigProto blank)

def toCredentialMaterial (proto : Proto.CredentialMaterial) : CredentialMaterial where
  accountId := proto.accountId
  brokerId := proto.brokerId
  connectionString := proto.connectionString
  password := proto.password

def toAccountRiskPolicy (proto : Proto.AccountRiskPolicy) : AccountRiskPolicy where
  accountId := proto.accountId
  version := proto.version
  validUntilUnixMs := proto.validUntilUnixMs
  maxNotional := proto.maxNotional
  maxMargin := proto.maxMargin
  maxGrossExposure := proto.maxGrossExposure
  maxOpenOrders := proto.maxOpenOrders
  safetyBuffer := proto.safetyBuffer
  enabled := proto.enabled

/-! ## What the engine's values say -/

/-- A field with presence has the value that its message gives, and otherwise the default. -/
structure Presents {τ : Type} (field : Option τ) (fallback value : τ) : Prop where
  given : ∀ present, field = some present → value = present
  missing : field = none → value = fallback

/-- A strategy says, field by field, what its message says. -/
structure ConveysStrategy (blank : Blank) (message : Proto.StrategyConfig)
    (config : StrategyConfig) : Prop where
  enabled : config.enabled = message.enabled
  strategyId : config.strategyId = message.strategyId
  strategyName : config.strategyName = message.strategyName
  instruments : config.instruments = message.instruments
  orderCooldownMs : config.risk.orderCooldownMs = message.orderCooldownMs
  maxPositionVolume : config.risk.maxPositionVolume = message.maxPositionVolume
  orderVolume : config.args.orderVolume = message.orderVolume
  windowSize : Presents message.windowSize blank.strategyArgs.windowSize config.args.windowSize
  orderThreshold : Presents message.orderThreshold blank.strategyArgs.orderThreshold
    config.args.orderThreshold
  stopLossPercent : Presents message.stopLossPercent blank.strategyArgs.stopLossPercent
    config.args.stopLossPercent
  takeProfitPercent : Presents message.takeProfitPercent blank.strategyArgs.takeProfitPercent
    config.args.takeProfitPercent

/-- The configuration of an engine says what its message says. -/
structure ConveysEngine (blank : Blank) (message : Proto.EngineConfig)
    (config : EngineConfig) : Prop where
  engineId : config.engineId = message.engineId
  accountId : config.accountId = message.accountId
  quoteSource : config.quoteSource = message.quoteSource
  quoteFailover : config.quoteFailover = message.quoteFailover
  staleGiven : 0 < message.quoteMaxStaleMs → config.quoteMaxStaleMs = message.quoteMaxStaleMs
  staleMissing : message.quoteMaxStaleMs ≤ 0 →
    config.quoteMaxStaleMs = blank.engineConfig.quoteMaxStaleMs
  version : config.instanceRisk.version = message.instanceRisk.version
  maxOrderVolume : config.instanceRisk.maxOrderVolume = message.instanceRisk.maxOrderVolume
  maxOrderNotional : config.instanceRisk.maxOrderNotional = message.instanceRisk.maxOrderNotional
  maxOpenOrders : config.instanceRisk.maxOpenOrders = message.instanceRisk.maxOpenOrders
  maxPendingNotional :
    config.instanceRisk.maxPendingNotional = message.instanceRisk.maxPendingNotional

section Conveyed

variable {blank : Blank}

theorem presents_iff {τ : Type} {field : Option τ} {fallback value : τ} :
    Presents field fallback value ↔ value = field.getD fallback := by
  cases field with
  | none => exact ⟨fun h => h.missing rfl, fun h => ⟨nofun, fun _ => h⟩⟩
  | some present =>
      constructor
      · exact fun h => h.given present rfl
      · rintro rfl
        exact ⟨fun _ h => Option.some.inj h, nofun⟩

theorem strategy_conveys_iff {message : Proto.StrategyConfig} {config : StrategyConfig} :
    ConveysStrategy blank message config ↔ config = parseStrategyConfigProto blank message := by
  constructor
  · obtain ⟨enabled, strategyId, strategyName, instruments, ⟨cooldown, position⟩,
      ⟨order, window, threshold, stopLoss, takeProfit⟩⟩ := config
    rintro ⟨rfl, rfl, rfl, rfl, rfl, rfl, rfl, hwindow, hthreshold, hstopLoss, htakeProfit⟩
    obtain rfl := presents_iff.mp hwindow
    obtain rfl := presents_iff.mp hthreshold
    obtain rfl := presents_iff.mp hstopLoss
    obtain rfl := presents_iff.mp htakeProfit
    rfl
  · rintro rfl
    exact ⟨rfl, rfl, rfl, rfl, rfl, rfl, rfl, presents_iff.mpr rfl, presents_iff.mpr rfl,
      presents_iff.mpr rfl, presents_iff.mpr rfl⟩

theorem engine_conveys_iff {message : Proto.EngineConfig} {config : EngineConfig} :
    ConveysEngine blank message config ↔ config = toEngineConfig blank message := by
  have hstale : (0 < message.quoteMaxStaleMs →
        config.quoteMaxStaleMs = message.quoteMaxStaleMs) ∧
      (message.quoteMaxStaleMs ≤ 0 →
        config.quoteMaxStaleMs = blank.engineConfig.quoteMaxStaleMs) ↔
      config.quoteMaxStaleMs = (toEngineConfig blank message).quoteMaxStaleMs := by
    unfold toEngineConfig
    by_cases hgiven : 0 < message.quoteMaxStaleMs
    · simp [hgiven, Int.not_le.mpr hgiven]
    · simp [hgiven, Int.not_lt.mp hgiven]
  constructor
  · intro h
    have hsame := hstale.mp ⟨h.staleGiven, h.staleMissing⟩
    obtain ⟨engineId, accountId, source, failover, stale, ⟨risk, volume, notional, orders,
      pending⟩⟩ := config
    obtain rfl := hsame
    obtain ⟨rfl, rfl, rfl, rfl, -, -, rfl, rfl, rfl, rfl, rfl⟩ := h
    rfl
  · rintro rfl
    obtain ⟨hgiven, hmissing⟩ := hstale.mpr rfl
    exact ⟨rfl, rfl, rfl, rfl, hgiven, hmissing, rfl, rfl, rfl, rfl, rfl⟩

/-- The strategies of the engine are those of its message, each once and in order. -/
theorem strategies_conveyed_iff {message : Proto.EngineConfig} {strategies : List StrategyConfig} :
    List.Forall₂ (ConveysStrategy blank) message.strategies strategies ↔
      strategies = toStrategyConfigs blank message := by
  unfold toStrategyConfigs
  generalize message.strategies = messages
  induction messages generalizing strategies with
  | nil => exact List.forall₂_nil_left_iff
  | cons first rest ih =>
      rw [List.forall₂_cons_left_iff]
      constructor
      · rintro ⟨config, configs, hfirst, hrest, rfl⟩
        rw [strategy_conveys_iff.mp hfirst, ih.mp hrest]
        rfl
      · rintro rfl
        exact ⟨_, _, strategy_conveys_iff.mpr rfl, ih.mpr rfl, rfl⟩

end Conveyed

end QtradeClient.Bridge
