import QtradeClient.Bridge.Convert
import QtradeClient.Client.Rpc
import QtradeClient.Library.Runs

/-!
# The configuration of the engine through the bridge

`Init` connects the client, asks for the configuration once and keeps it.  Its error
paths after the connection return at once and leave the client initialised, so the next
`Init` is refused by the client itself until somebody calls `Shutdown`.
-/

namespace QtradeClient.Bridge

open Client Library

structure GetEngineConfigResponse where
  engine : Proto.EngineConfig

structure AdapterLaunchParams where
  executionAdapter : String
  quoteConnectionString : String
  deriving DecidableEq

structure GrpcConfigBridge where
  serviceConfig : ServiceConfig
  engineId : String
  client : ConfigClient
  hasConfig : Bool
  cache : EngineConfig
  strategies : List StrategyConfig
  adapterParams : AdapterLaunchParams

namespace GrpcConfigBridge

def create (blank : Blank) (serviceConfig : ServiceConfig) (engineId : String) :
    GrpcConfigBridge where
  serviceConfig := serviceConfig
  engineId := engineId
  client := .create
  hasConfig := false
  cache := blank.engineConfig
  strategies := []
  adapterParams := ⟨"", ""⟩

/-- What a valid response leaves behind. -/
def accept (blank : Blank) (bridge : GrpcConfigBridge) (proto : Proto.EngineConfig) :
    GrpcConfigBridge :=
  { bridge with
    cache := toEngineConfig blank proto
    strategies := toStrategyConfigs blank proto
    adapterParams := ⟨proto.executionAdapter, proto.quoteConnectionString⟩
    hasConfig := true }

/-- `Init`, given what the service would answer to the request for `engineId`. -/
def init (blank : Blank) (bridge : GrpcConfigBridge) (answer : Answer GetEngineConfigResponse) :
    ErrorCode × GrpcConfigBridge :=
  let connected := bridge.client.init bridge.serviceConfig
  let bridge := { bridge with client := connected.2 }
  if connected.1 ≠ .kSuccess then (connected.1, bridge)
  else
    match bridge.client.call answer with
    | .error code => (code, bridge)
    | .ok response =>
        let config := toEngineConfig blank response.engine
        if config.engineId = "" ∨ config.accountId = "" then (.kInvalidArgument, bridge)
        else (.kSuccess, bridge.accept blank response.engine)

def shutdown (bridge : GrpcConfigBridge) : GrpcConfigBridge :=
  { bridge with client := bridge.client.shutdown }

def getEngineConfig (bridge : GrpcConfigBridge) : Result EngineConfig :=
  if bridge.hasConfig then .ok bridge.cache
  else .error .kNotInitialized "engine config not available"

def getStrategies (bridge : GrpcConfigBridge) : List StrategyConfig := bridge.strategies

def getAdapterLaunchParams (bridge : GrpcConfigBridge) : AdapterLaunchParams :=
  bridge.adapterParams

end GrpcConfigBridge

/-- The response names an engine and an account. -/
def isValidAnswer : Answer GetEngineConfigResponse → Bool
  | .ok response => response.engine.engineId ≠ "" && response.engine.accountId ≠ ""
  | .error _ => false

/-! ## The ways through `Init` -/

namespace GrpcConfigBridge

variable {blank : Blank} {bridge : GrpcConfigBridge} {answer : Answer GetEngineConfigResponse}

/-- The client as a first successful `Init` of it leaves it. -/
def connected (bridge : GrpcConfigBridge) : GrpcConfigBridge :=
  { bridge with client := ⟨true, true, rfl⟩ }

theorem init_again (hup : bridge.client.initialized = true) :
    bridge.init blank answer = (.kSystemError, bridge) := by
  simp [init, ServiceClient.init, hup]

theorem init_noEndpoint (hdown : bridge.client.initialized = false)
    (hendpoint : bridge.serviceConfig.hasEndpoint = false) :
    bridge.init blank answer = (.kInternalError, bridge) := by
  simp [init, ServiceClient.init, hdown, hendpoint]

theorem init_valid (hdown : bridge.client.initialized = false)
    (hendpoint : bridge.serviceConfig.hasEndpoint = true)
    {response : GetEngineConfigResponse} (hvalid : isValidAnswer (.ok response) = true) :
    bridge.init blank (.ok response) =
      (.kSuccess, bridge.connected.accept blank response.engine) := by
  rw [isValidAnswer, Bool.and_eq_true, decide_eq_true_iff, decide_eq_true_iff] at hvalid
  simp [init, ServiceClient.init, ServiceClient.call, hdown, hendpoint, toEngineConfig, hvalid,
    connected]

/-- A failure of the service is reported, and the client stays connected. -/
theorem init_refused (blank : Blank) (hdown : bridge.client.initialized = false)
    (hendpoint : bridge.serviceConfig.hasEndpoint = true)
    (hvalid : isValidAnswer answer = false) :
    ∃ code, code ≠ .kSuccess ∧ bridge.init blank answer = (code, bridge.connected) := by
  cases answer with
  | error status =>
      refine ⟨.kTimeout, by decide, ?_⟩
      simp [init, ServiceClient.init, ServiceClient.call, hdown, hendpoint, connected]
  | ok response =>
      refine ⟨.kInvalidArgument, by decide, ?_⟩
      have hempty : response.engine.engineId = "" ∨ response.engine.accountId = "" := by
        simpa [isValidAnswer, Decidable.or_iff_not_imp_left] using hvalid
      simp [init, ServiceClient.init, ServiceClient.call, hdown, hendpoint, toEngineConfig,
        hempty, connected]

/-- An `Init` that succeeds has accepted the response it was given. -/
theorem init_success (hsuccess : (bridge.init blank answer).1 = .kSuccess) :
    ∃ response, answer = .ok response ∧
      (bridge.init blank answer).2 = bridge.connected.accept blank response.engine := by
  cases hup : bridge.client.initialized with
  | true =>
      rw [init_again hup] at hsuccess
      cases hsuccess
  | false =>
      cases hendpoint : bridge.serviceConfig.hasEndpoint with
      | false =>
          rw [init_noEndpoint hup hendpoint] at hsuccess
          cases hsuccess
      | true =>
          cases hvalid : isValidAnswer answer with
          | false =>
              obtain ⟨code, hcode, hinit⟩ := init_refused blank hup hendpoint hvalid
              rw [hinit] at hsuccess
              exact absurd hsuccess hcode
          | true =>
              cases answer with
              | error status => cases hvalid
              | ok response => exact ⟨response, rfl, by rw [init_valid hup hendpoint hvalid]⟩

end GrpcConfigBridge

/-! ## Sessions -/

inductive ConfigEvent where
  | init (answer : Answer GetEngineConfigResponse)
  | shutdown

/-- The bridge, and whether every `Init` since the last `Shutdown` was answered by a
failure of the service. -/
structure ConfigSession where
  bridge : GrpcConfigBridge
  retrying : Bool

namespace ConfigSession

def start (blank : Blank) (serviceConfig : ServiceConfig) (engineId : String) : ConfigSession :=
  ⟨.create blank serviceConfig engineId, true⟩

def next (blank : Blank) (session : ConfigSession) : ConfigEvent → ConfigSession
  | .init answer =>
      ⟨(session.bridge.init blank answer).2, session.retrying && !isValidAnswer answer⟩
  | .shutdown => ⟨session.bridge.shutdown, true⟩

end ConfigSession

/-- An `Init` that fails changes nothing, and one that is answered with a valid response
succeeds after any number of failures of the service. -/
def FailsCleanly (blank : Blank) (session : ConfigSession) : ConfigEvent → Prop
  | .init answer =>
      let done := session.bridge.init blank answer
      (done.1 ≠ .kSuccess → done.2 = session.bridge) ∧
        (session.retrying = true → session.bridge.serviceConfig.hasEndpoint = true →
          isValidAnswer answer = true → done.1 = .kSuccess)
  | .shutdown => True

/-- No `Init` gets through to a service that fails. -/
def ServiceDelivers (session : ConfigSession) : ConfigEvent → Prop
  | .init answer =>
      session.bridge.client.isInitialized = false →
        session.bridge.serviceConfig.hasEndpoint = true → isValidAnswer answer = true
  | .shutdown => True

/-- While only the service has failed, the client is as before the first attempt. -/
def Retriable (session : ConfigSession) : Prop :=
  session.retrying = true → session.bridge.client.initialized = false

theorem retriable_start (blank : Blank) (serviceConfig : ServiceConfig) (engineId : String) :
    Retriable (.start blank serviceConfig engineId) := fun _ => rfl

theorem Retriable.next {blank : Blank} {session : ConfigSession} (h : Retriable session)
    {event : ConfigEvent} (hclean : FailsCleanly blank session event) :
    Retriable (session.next blank event) := by
  cases event with
  | shutdown => exact fun _ => rfl
  | init answer =>
      intro hretrying
      rw [ConfigSession.next, Bool.and_eq_true, Bool.not_eq_true'] at hretrying
      obtain ⟨hbefore, hinvalid⟩ := hretrying
      have hdown := h hbefore
      have hfailed : (session.bridge.init blank answer).1 ≠ .kSuccess := by
        cases hendpoint : session.bridge.serviceConfig.hasEndpoint with
        | false =>
            rw [GrpcConfigBridge.init_noEndpoint hdown hendpoint]
            exact fun hcode => nomatch hcode
        | true =>
            obtain ⟨code, hcode, hinit⟩ :=
              GrpcConfigBridge.init_refused blank hdown hendpoint hinvalid
            rw [hinit]
            exact hcode
      change (session.bridge.init blank answer).2.client.initialized = false
      rw [hclean.1 hfailed]
      exact hdown

theorem Retriable.failsCleanly_iff {blank : Blank} {session : ConfigSession}
    (h : Retriable session) (event : ConfigEvent) :
    FailsCleanly blank session event ↔ ServiceDelivers session event := by
  cases event with
  | shutdown => exact Iff.rfl
  | init answer =>
      rw [FailsCleanly, ServiceDelivers, ServiceClient.isInitialized]
      cases hup : session.bridge.client.initialized with
      | true =>
          rw [GrpcConfigBridge.init_again hup]
          have hnot : session.retrying ≠ true := fun hretrying => by
            rw [h hretrying] at hup
            cases hup
          simp [hnot]
      | false =>
          cases hendpoint : session.bridge.serviceConfig.hasEndpoint with
          | false =>
              rw [GrpcConfigBridge.init_noEndpoint hup hendpoint]
              simp
          | true =>
              cases hvalid : isValidAnswer answer with
              | true =>
                  cases answer with
                  | error status => cases hvalid
                  | ok response =>
                      rw [GrpcConfigBridge.init_valid hup hendpoint hvalid]
                      simp
              | false =>
                  obtain ⟨code, hcode, hinit⟩ :=
                    GrpcConfigBridge.init_refused blank hup hendpoint hvalid
                  rw [hinit]
                  have hchanged : session.bridge.connected ≠ session.bridge := fun hsame => by
                    rw [← hsame] at hup
                    cases hup
                  simp [hcode, hchanged]

/-- In every session, failed attempts change nothing and can be repeated exactly when no
`Init` gets through the client to a service that fails. -/
theorem fails_cleanly_iff (blank : Blank) (serviceConfig : ServiceConfig) (engineId : String)
    (events : List ConfigEvent) :
    Runs.Along (Runs.total (ConfigSession.next blank)) (FailsCleanly blank)
        (.start blank serviceConfig engineId) events ↔
      Runs.Along (Runs.total (ConfigSession.next blank)) ServiceDelivers
        (.start blank serviceConfig engineId) events := by
  apply Runs.along_total_congr ?_ ?_ (retriable_start blank serviceConfig engineId) events
  · intro session event hretriable hclean
    exact hretriable.next hclean
  · intro session event hretriable
    exact hretriable.failsCleanly_iff event

/-- An attempt that the service does not answer, and one that it answers well. -/
theorem retry_refused :
    let risk : InstanceRisk := ⟨0, 0, 0, 0, 0⟩
    let blank : Blank := ⟨⟨"", "", "", false, 0, risk⟩, ⟨0, 0, 0, 0, 0⟩⟩
    let engine : Proto.EngineConfig :=
      ⟨"e", "a", "mock", "mock://local", "mock", false, 0, ⟨0, 0, 0, 0, 0⟩, []⟩
    let start := ConfigSession.start blank ⟨true, "config", 50053⟩ "e"
    let failed := start.next blank (.init (.error .unavailable))
    (failed.bridge.init blank (.ok ⟨engine⟩)).1 = .kSystemError ∧
      ¬ Runs.Along (Runs.total (ConfigSession.next blank)) (FailsCleanly blank) start
        [.init (.error .unavailable), .init (.ok ⟨engine⟩)] := by
  intro risk blank engine start failed
  refine ⟨rfl, fun halong => ?_⟩
  obtain ⟨-, ⟨-, hretry⟩, -⟩ := by
    simpa only [Runs.along_total_cons] using halong
  cases hretry rfl rfl rfl

end QtradeClient.Bridge
