import QtradeClient.Bridge.Config
import QtradeClient.Library.History

/-!
# What the config bridge shows

The three getters are read one after the other, so it matters that what they return is of
one response.  It is the last valid one that an `Init` has got, over any number of `Init`
and `Shutdown`, whatever failed in between.
-/

namespace QtradeClient.Bridge

open Client Library Library.History

/-! ## What is expected -/

/-- What the getters return together. -/
structure Shown where
  config : Result EngineConfig
  strategies : List StrategyConfig
  adapterParams : AdapterLaunchParams

/-- They are of one response, which may be missing. -/
inductive Shown.Reflects (blank : Blank) : Option Proto.EngineConfig → Shown → Prop where
  | nothing :
      Reflects blank none
        ⟨.error .kNotInitialized "engine config not available", [], ⟨"", ""⟩⟩
  | response {engine : Proto.EngineConfig} {config : EngineConfig}
      {strategies : List StrategyConfig} (hconfig : ConveysEngine blank engine config)
      (hstrategies : List.Forall₂ (ConveysStrategy blank) engine.strategies strategies) :
      Reflects blank (some engine)
        ⟨.ok config, strategies, ⟨engine.executionAdapter, engine.quoteConnectionString⟩⟩

/-- The engine that a valid answer carries. -/
def validEngine? : Answer GetEngineConfigResponse → Option Proto.EngineConfig
  | .ok response => if isValidAnswer (.ok response) then some response.engine else none
  | .error _ => none

/-- Whether there has been an `Init` since the last `Shutdown`. -/
def isOpened (opened : Bool) : List ConfigEvent → Bool
  | [] => opened
  | .init _ :: rest => isOpened true rest
  | .shutdown :: rest => isOpened false rest

/-- The answers that have been asked for, where the client can be connected: an `Init` asks
unless there has been no `Shutdown` since the one before. -/
def answers (opened : Bool) : List ConfigEvent → List (Answer GetEngineConfigResponse)
  | [] => []
  | .init answer :: rest =>
      if opened then answers true rest else answer :: answers true rest
  | .shutdown :: rest => answers false rest

/-! ## What is shown -/

def GrpcConfigBridge.shown (bridge : GrpcConfigBridge) : Shown :=
  ⟨bridge.getEngineConfig, bridge.getStrategies, bridge.getAdapterLaunchParams⟩

/-- The bridge shows a response or none, and its client is connected or not. -/
structure Shows (blank : Blank) (serviceConfig : ServiceConfig) (opened : Bool)
    (held : Option Proto.EngineConfig) (bridge : GrpcConfigBridge) : Prop where
  service : bridge.serviceConfig = serviceConfig
  client : bridge.client.initialized = opened
  shown : bridge.shown.Reflects blank held

namespace Shows

variable {blank : Blank} {serviceConfig : ServiceConfig} {session : ConfigSession}
  {opened : Bool} {held : Option Proto.EngineConfig}

theorem start (blank : Blank) (serviceConfig : ServiceConfig) (engineId : String) :
    Shows blank serviceConfig false none
      (ConfigSession.start blank serviceConfig engineId).bridge :=
  ⟨rfl, rfl, .nothing⟩

theorem shutdown (h : Shows blank serviceConfig opened held session.bridge) :
    Shows blank serviceConfig false held (session.next blank .shutdown).bridge :=
  ⟨h.service, rfl, h.shown⟩

/-- Without an address the client is never connected. -/
theorem initUnreachable (h : Shows blank serviceConfig false held session.bridge)
    (hendpoint : serviceConfig.hasEndpoint = false) (answer : Answer GetEngineConfigResponse) :
    Shows blank serviceConfig false held (session.next blank (.init answer)).bridge := by
  rw [← h.service] at hendpoint
  rw [ConfigSession.next, GrpcConfigBridge.init_noEndpoint h.client hendpoint]
  exact h

/-- A client that is connected refuses the `Init`. -/
theorem initAgain (h : Shows blank serviceConfig true held session.bridge)
    (answer : Answer GetEngineConfigResponse) :
    Shows blank serviceConfig true held (session.next blank (.init answer)).bridge := by
  rw [ConfigSession.next, GrpcConfigBridge.init_again h.client]
  exact h

/-- An `Init` that connects its client shows the answer if that is valid. -/
theorem initFirst (h : Shows blank serviceConfig false held session.bridge)
    (hendpoint : serviceConfig.hasEndpoint = true) (answer : Answer GetEngineConfigResponse) :
    Shows blank serviceConfig true ((validEngine? answer).or held)
      (session.next blank (.init answer)).bridge := by
  rw [← h.service] at hendpoint
  rw [ConfigSession.next]
  cases hvalid : isValidAnswer answer with
  | true =>
      cases answer with
      | error status => cases hvalid
      | ok response =>
          rw [GrpcConfigBridge.init_valid h.client hendpoint hvalid, validEngine?, if_pos hvalid]
          exact ⟨h.service, rfl,
            .response (engine_conveys_iff.mpr rfl) (strategies_conveyed_iff.mpr rfl)⟩
  | false =>
      obtain ⟨code, -, hinit⟩ :=
        GrpcConfigBridge.init_refused blank h.client hendpoint hvalid
      have hnone : validEngine? answer = none := by
        cases answer with
        | error status => rfl
        | ok response => rw [validEngine?, hvalid, if_neg Bool.false_ne_true]
      rw [hinit, hnone, Option.none_or]
      exact ⟨h.service, rfl, h.shown⟩

/-- Over a whole session the last valid answer is shown. -/
theorem run (h : Shows blank serviceConfig opened held session.bridge)
    (hendpoint : serviceConfig.hasEndpoint = true) (events : List ConfigEvent) :
    Shows blank serviceConfig (isOpened opened events)
      ((latest? validEngine? (answers opened events)).or held)
      (events.foldl (ConfigSession.next blank) session).bridge := by
  induction events generalizing session opened held with
  | nil => exact h
  | cons event rest ih =>
      rw [List.foldl_cons]
      cases event with
      | shutdown => exact ih h.shutdown
      | init answer =>
          cases opened with
          | true => exact ih (h.initAgain answer)
          | false =>
              have hrest := ih (h.initFirst hendpoint answer)
              rw [← Option.or_assoc, ← latest?_cons] at hrest
              exact hrest

theorem runUnreachable (h : Shows blank serviceConfig false none session.bridge)
    (hendpoint : serviceConfig.hasEndpoint = false) (events : List ConfigEvent) :
    Shows blank serviceConfig false none
      (events.foldl (ConfigSession.next blank) session).bridge := by
  induction events generalizing session with
  | nil => exact h
  | cons event rest ih =>
      rw [List.foldl_cons]
      cases event with
      | shutdown => exact ih h.shutdown
      | init answer => exact ih (h.initUnreachable hendpoint answer)

/-- An `Init` succeeds if it connects the client and is given a valid answer. -/
theorem init_success_iff {bridge : GrpcConfigBridge}
    (h : Shows blank serviceConfig opened held bridge) (answer : Answer GetEngineConfigResponse) :
    (bridge.init blank answer).1 = .kSuccess ↔
      serviceConfig.hasEndpoint = true ∧ opened = false ∧ isValidAnswer answer = true := by
  rw [← h.service]
  cases opened with
  | true =>
      rw [GrpcConfigBridge.init_again h.client]
      exact iff_of_false nofun fun hfirst => Bool.false_ne_true hfirst.2.1.symm
  | false =>
      cases hendpoint : bridge.serviceConfig.hasEndpoint with
      | false =>
          rw [GrpcConfigBridge.init_noEndpoint h.client hendpoint]
          exact iff_of_false nofun fun hfirst => Bool.false_ne_true hfirst.1
      | true =>
          cases hvalid : isValidAnswer answer with
          | true =>
              cases answer with
              | error status => cases hvalid
              | ok response =>
                  rw [GrpcConfigBridge.init_valid h.client hendpoint hvalid]
                  exact iff_of_true rfl ⟨rfl, rfl, rfl⟩
          | false =>
              obtain ⟨code, hcode, hinit⟩ :=
                GrpcConfigBridge.init_refused blank h.client hendpoint hvalid
              rw [hinit]
              exact iff_of_false hcode fun hfirst => Bool.false_ne_true hfirst.2.2

end Shows

/-- After any session the three getters return what belongs to one response, the last valid
one that was asked for, field by field, or that there is none.  The next `Init` succeeds
exactly if the service has an address, there has been a `Shutdown` since the last `Init`,
and the answer is valid. -/
theorem config_latest_accepted (blank : Blank) (serviceConfig : ServiceConfig)
    (engineId : String) (events : List ConfigEvent) :
    let bridge :=
      (events.foldl (ConfigSession.next blank) (.start blank serviceConfig engineId)).bridge
    let asked := if serviceConfig.hasEndpoint then answers false events else []
    bridge.shown.Reflects blank (latest? validEngine? asked) ∧
      ∀ answer, (bridge.init blank answer).1 = .kSuccess ↔
        serviceConfig.hasEndpoint = true ∧ isOpened false events = false ∧
          isValidAnswer answer = true := by
  intro bridge asked
  have hstart := Shows.start blank serviceConfig engineId
  by_cases hendpoint : serviceConfig.hasEndpoint = true
  · have hshows := hstart.run hendpoint events
    rw [Option.or_none] at hshows
    refine ⟨?_, hshows.init_success_iff⟩
    rw [show asked = answers false events from if_pos hendpoint]
    exact hshows.shown
  · have hshows := hstart.runUnreachable (Bool.eq_false_iff.mpr hendpoint) events
    refine ⟨?_, fun answer => ?_⟩
    · rw [show asked = [] from if_neg hendpoint]
      exact hshows.shown
    · rw [hshows.init_success_iff answer]
      exact iff_of_false (fun hfirst => hendpoint hfirst.1) fun hfirst => hendpoint hfirst.1

end QtradeClient.Bridge
