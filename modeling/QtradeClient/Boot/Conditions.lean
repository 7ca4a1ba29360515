import QtradeClient.Boot.AdapterLaws
import QtradeClient.Boot.BootstrapAccepted
import QtradeClient.Boot.PluginPaths
import QtradeClient.Boot.Process
import QtradeClient.Bridge.Isolation

/-!
# What it takes to start

The client becomes ready under conditions on the bootstrap file, the answers of the
services, the venue and the engine, and under no others.  In particular a credential may
have been released to the engine before the adapters are built, and the last release for
the account decides, even if it was made for another engine.
-/

namespace QtradeClient.Boot

open Bridge Client Library Library.History

/-! ## The conditions -/

section Conditions

variable (blank : Blank) (world : World) (bootstrap : QtradeEngineBootstrapConfig)

/-- What the config service has to answer, and what the start-up goes on with. -/
inductive Configured : Fetched → Prop where
  | alone (hdisabled : bootstrap.supportServices.configService.enabled = false) :
      Configured
        ⟨{ blank.engineConfig with
            engineId := bootstrap.config.identity.engineId
            accountId := bootstrap.config.identity.accountId }, [], none⟩
  | served {engine : Proto.EngineConfig} {config : EngineConfig}
      {strategies : List StrategyConfig}
      (henabled : bootstrap.supportServices.configService.enabled = true)
      (hendpoint : bootstrap.supportServices.configService.hasEndpoint = true)
      (hanswer : world.configAnswer = .ok ⟨engine⟩)
      (hengine : engine.engineId = bootstrap.config.identity.engineId)
      (haccount : engine.accountId = bootstrap.config.identity.accountId)
      (hconfig : ConveysEngine blank engine config)
      (hstrategies : List.Forall₂ (ConveysStrategy blank) engine.strategies strategies) :
      Configured
        ⟨config, strategies, some ⟨engine.executionAdapter, engine.quoteConnectionString⟩⟩

/-- The answers of the account service up to the creation of the adapters. -/
def credentialAnswers : List (GetCredentialRequest × Answer GetCredentialResponse) :=
  let identity := bootstrap.config.identity
  world.engineRequests ++ [(⟨identity.accountId, identity.engineId⟩, world.credentialAnswer)]

/-- The credential is of the account and says where and how to log in. -/
structure Admits (accountId : String) (credential : CredentialMaterial) : Prop where
  account : credential.accountId = accountId
  connection : credential.connectionString ≠ ""
  password : credential.password ≠ ""

/-- The pair of adapters that is offered to the venue. -/
inductive Offered : Option AdapterLaunchParams → CreatedAdapters → Prop where
  | localMock :
      Offered none (createMockAdapters "mock://local" bootstrap.config.identity.accountId)
  | remoteMock {quoteConnectionString : String} (hquote : quoteConnectionString ≠ "") :
      Offered (some ⟨"mock", quoteConnectionString⟩)
        (createMockAdapters quoteConnectionString bootstrap.config.identity.accountId)
  | emt {quoteConnectionString : String} (hquote : quoteConnectionString ≠ "")
      (henabled : bootstrap.supportServices.accountService.enabled = true)
      {response : GetCredentialResponse}
      (hreleased : latest? (released? bootstrap.config.identity.accountId)
        (credentialAnswers world bootstrap) = some response)
      (hadmits : Admits bootstrap.config.identity.accountId response.converted) :
      Offered (some ⟨"emt", quoteConnectionString⟩)
        (emtAdapters response.converted quoteConnectionString)

/-- What a start takes besides the adapters. -/
structure Equipped (fetched : Fetched) : Prop where
  environment : world.environmentReady = true
  configured : Configured blank world bootstrap fetched
  account : bootstrap.supportServices.accountService.enabled = true →
    bootstrap.supportServices.accountService.hasEndpoint = true
  accountRisk : bootstrap.supportServices.accountRiskService.enabled = true →
    bootstrap.supportServices.accountRiskService.hasEndpoint = true
  initialized : world.engineInit fetched.engineConfig = .kSuccess
  strategies : Accepts world bootstrap.config.strategy.pluginDir [] fetched.strategies
  started : world.engineStart = .kSuccess

/-- Everything that a start takes. -/
structure Startable (fetched : Fetched) (created : CreatedAdapters) : Prop
    extends Equipped blank world bootstrap fetched where
  offered : Offered world bootstrap fetched.adapterParams created
  connected : world.venue.Accepts created

end Conditions

/-- What the parser has checked of the identity and the plugin directory. -/
structure Checked (bootstrap : QtradeEngineBootstrapConfig) : Prop where
  engineId : bootstrap.config.identity.engineId ≠ ""
  accountId : bootstrap.config.identity.accountId ≠ ""
  pluginDir : bootstrap.config.strategy.pluginDir ≠ ""

/-! ## When each stage succeeds -/

section Stages

open Traced

variable {blank : Blank} {world : World} {bootstrap : QtradeEngineBootstrapConfig}

/-- What the start-up makes of a response that names the engine and the account. -/
theorem fetchConfig_served (hchecked : Checked bootstrap) {engine : Proto.EngineConfig}
    (henabled : bootstrap.supportServices.configService.enabled = true)
    (hendpoint : bootstrap.supportServices.configService.hasEndpoint = true)
    (hanswer : world.configAnswer = .ok ⟨engine⟩)
    (hengine : engine.engineId = bootstrap.config.identity.engineId)
    (haccount : engine.accountId = bootstrap.config.identity.accountId) :
    (fetchConfig blank world bootstrap).outcome =
      .ok ⟨toEngineConfig blank engine, toStrategyConfigs blank engine,
        some ⟨engine.executionAdapter, engine.quoteConnectionString⟩⟩ := by
  have hvalid : isValidAnswer (.ok ⟨engine⟩) = true := by
    simp [isValidAnswer, hengine, haccount, hchecked.engineId, hchecked.accountId]
  let bridge := GrpcConfigBridge.create blank bootstrap.supportServices.configService
    bootstrap.config.identity.engineId
  have hinit : bridge.init blank world.configAnswer =
      (.kSuccess, bridge.connected.accept blank engine) := by
    rw [hanswer]
    exact GrpcConfigBridge.init_valid rfl hendpoint hvalid
  have hidentity : ¬((toEngineConfig blank engine).engineId ≠ bootstrap.config.identity.engineId ∨
      (toEngineConfig blank engine).accountId ≠ bootstrap.config.identity.accountId) :=
    not_or.mpr ⟨not_not.mpr hengine, not_not.mpr haccount⟩
  unfold fetchConfig
  rw [if_pos henabled]
  simp only [bridge] at hinit
  simp only [hinit, GrpcConfigBridge.getEngineConfig, GrpcConfigBridge.accept, if_true,
    Result.ok_errorCode, Result.ok_data, ne_eq, not_true_eq_false, if_false]
  rw [if_neg hidentity]
  rfl

theorem fetchConfig_succeeds (hchecked : Checked bootstrap) (fetched : Fetched) :
    (fetchConfig blank world bootstrap).outcome = .ok fetched ↔
      Configured blank world bootstrap fetched := by
  constructor
  · intro hfetch
    unfold fetchConfig at hfetch
    cases henabled : bootstrap.supportServices.configService.enabled with
    | false =>
        rw [if_neg (Bool.eq_false_iff.mp henabled)] at hfetch
        cases hfetch
        exact .alone henabled
    | true =>
        rw [if_pos henabled] at hfetch
        by_cases hcode : ((GrpcConfigBridge.create blank
            bootstrap.supportServices.configService bootstrap.config.identity.engineId).init blank
            world.configAnswer).1 = .kSuccess
        · obtain ⟨response, hanswer, haccepted⟩ := GrpcConfigBridge.init_success hcode
          have hendpoint : bootstrap.supportServices.configService.hasEndpoint = true := by
            by_contra hnone
            rw [GrpcConfigBridge.init_noEndpoint rfl (Bool.eq_false_iff.mpr hnone)] at hcode
            cases hcode
          simp only [hcode, haccepted, GrpcConfigBridge.getEngineConfig,
            GrpcConfigBridge.accept, if_true, Result.ok_errorCode, Result.ok_data, ne_eq,
            not_true_eq_false, if_false] at hfetch
          split at hfetch
          · cases hfetch
          · rename_i hidentity
            rw [not_or, not_not, not_not] at hidentity
            cases hfetch
            exact .served henabled hendpoint hanswer hidentity.1 hidentity.2
              (engine_conveys_iff.mpr rfl) (strategies_conveyed_iff.mpr rfl)
        · simp only [ne_eq, hcode, not_false_eq_true, if_true] at hfetch
          cases hfetch
  · intro hconfigured
    cases hconfigured with
    | alone hdisabled =>
        rw [fetchConfig, if_neg (Bool.eq_false_iff.mp hdisabled)]
        rfl
    | served henabled hendpoint hanswer hengine haccount hconfig hstrategies =>
        rw [engine_conveys_iff.mp hconfig, strategies_conveyed_iff.mp hstrategies]
        exact fetchConfig_served hchecked henabled hendpoint hanswer hengine haccount

/-- The account bridge that the adapters are built with. -/
def bridgeInUse (world : World) (bootstrap : QtradeEngineBootstrapConfig) :
    Option GrpcAccountBridge :=
  let service := bootstrap.supportServices.accountService
  if service.enabled then some (usedByEngine world (GrpcAccountBridge.create service).init.2)
  else none

theorem accountInit_iff (service : ServiceConfig) :
    (GrpcAccountBridge.create service).init.1 = .kSuccess ↔ service.hasEndpoint = true := by
  cases hendpoint : service.hasEndpoint <;>
    simp [GrpcAccountBridge.create, GrpcAccountBridge.init, ServiceClient.create,
      ServiceClient.init, hendpoint]

theorem accountRiskInit_iff (service : ServiceConfig) :
    (GrpcAccountRiskBridge.create service).init.1 = .kSuccess ↔ service.hasEndpoint = true := by
  cases hendpoint : service.hasEndpoint <;>
    simp [GrpcAccountRiskBridge.create, GrpcAccountRiskBridge.init, AccountRiskClient.create,
      AccountRiskClient.init, hendpoint]

theorem injectAccountBridge_succeeds (bridge : Option GrpcAccountBridge) :
    (injectAccountBridge world bootstrap).outcome = .ok bridge ↔
      (bootstrap.supportServices.accountService.enabled = true →
        bootstrap.supportServices.accountService.hasEndpoint = true) ∧
      bridgeInUse world bootstrap = bridge := by
  unfold injectAccountBridge bridgeInUse
  by_cases henabled : bootstrap.supportServices.accountService.enabled = true
  · rw [if_pos henabled, if_pos henabled, unit_bind_succeeds, attempt_succeeds,
      decide_eq_true_iff, accountInit_iff, forall_prop_of_true henabled]
    exact and_congr_right fun _ => unit_bind_succeeds.trans (and_iff_right rfl) |>.trans
      pure_succeeds
  · rw [if_neg henabled, if_neg henabled, forall_prop_of_false henabled, true_and]
    exact pure_succeeds

theorem injectAccountRiskBridge_succeeds :
    (injectAccountRiskBridge bootstrap).outcome = .ok () ↔
      (bootstrap.supportServices.accountRiskService.enabled = true →
        bootstrap.supportServices.accountRiskService.hasEndpoint = true) := by
  unfold injectAccountRiskBridge
  by_cases henabled : bootstrap.supportServices.accountRiskService.enabled = true
  · rw [if_pos henabled, unit_bind_succeeds, attempt_succeeds, decide_eq_true_iff,
      accountRiskInit_iff, forall_prop_of_true henabled]
    exact and_iff_left rfl
  · rw [if_neg henabled, forall_prop_of_false henabled]
    exact iff_of_true rfl trivial

/-- Building succeeds exactly with a pair that is selected and accepted. -/
theorem buildAdapters_succeeds {adapterParams : Option AdapterLaunchParams}
    {accountBridge : Option (String → String → Result CredentialMaterial)}
    {adapters : AdapterBundle} :
    let built := buildAdapters world.venue bootstrap adapterParams accountBridge .empty
    built.returned = true ∧ built.out = adapters ↔
      ∃ created, Selects bootstrap.config.identity adapterParams accountBridge created ∧
        world.venue.Accepts created ∧ adapters = ⟨some created.kind, some created.kind⟩ := by
  intro built
  constructor
  · rintro ⟨hreturned, rfl⟩
    by_contra hnone
    have hrefused : built.returned = false := by
      refine (buildAdapters_refused fun created hselects haccepts => ?_).1
      have hbuilt : built = _ := buildAdapters_taken hselects haccepts
      exact hnone ⟨created, hselects, haccepts, by rw [hbuilt]⟩
    cases hreturned.symm.trans hrefused
  · rintro ⟨created, hselects, haccepts, rfl⟩
    have hbuilt : built = _ := buildAdapters_taken hselects haccepts
    rw [hbuilt]
    exact ⟨rfl, rfl⟩

theorem takeAdapters_succeeds {adapterParams : Option AdapterLaunchParams}
    {accountBridge : Option GrpcAccountBridge} {adapters : AdapterBundle} :
    (takeAdapters world bootstrap adapterParams accountBridge).outcome = .ok adapters ↔
      ∃ created, Selects bootstrap.config.identity adapterParams
          (accountBridge.map (askCredential world)) created ∧
        world.venue.Accepts created ∧ adapters = ⟨some created.kind, some created.kind⟩ := by
  refine Iff.trans ?_ buildAdapters_succeeds
  rw [takeAdapters, unit_bind_succeeds, attempt_succeeds, pure_succeeds]

theorem initEngine_succeeds (config : EngineConfig) :
    (initEngine world config).outcome = .ok () ↔ world.engineInit config = .kSuccess := by
  rw [initEngine, attempt_succeeds, decide_eq_true_iff]

/-! ## The credential at hand -/

/-- The engine's requests leave a session in which they have been answered. -/
theorem exists_used {session : AccountSession} (hcoherent : session.Coherent)
    (hup : session.bridge.client.isInitialized = true)
    (asked : List (GetCredentialRequest × Answer GetCredentialResponse)) :
    ∃ after : AccountSession, after.Coherent ∧ after.bridge.client.isInitialized = true ∧
      after.answered = session.answered ++ asked ∧
      asked.foldl (fun bridge asked => (bridge.getCredential asked.1 asked.2).2) session.bridge =
        after.bridge := by
  induction asked generalizing session with
  | nil => exact ⟨session, hcoherent, hup, (List.append_nil _).symm, rfl⟩
  | cons entry rest ih =>
      have hnextUp : (session.next (.getCredential entry.1 entry.2)).bridge.client.isInitialized =
          true := by
        rcases session.bridge.getCredential_bridge entry.1 entry.2 with hsame | ⟨_, hstored⟩
        · rw [AccountSession.next, hsame]
          exact hup
        · rw [AccountSession.next, hstored]
          exact hup
      obtain ⟨after, hafter, hafterUp, hanswered, hused⟩ :=
        ih (hcoherent.next (.getCredential entry.1 entry.2)) hnextUp
      refine ⟨after, hafter, hafterUp, ?_, hused⟩
      rw [hanswered, AccountSession.next, AccountSession.heard, if_pos hup, List.append_assoc]
      rfl

/-- The bridge in use answers with the last release for the account, to whichever engine. -/
theorem usable_iff (henabled : bootstrap.supportServices.accountService.enabled = true)
    (hendpoint : bootstrap.supportServices.accountService.hasEndpoint = true)
    {bridge : GrpcAccountBridge} (hbridge : bridgeInUse world bootstrap = some bridge)
    (credential : CredentialMaterial) :
    let identity := bootstrap.config.identity
    Usable identity.accountId (askCredential world bridge identity.accountId identity.engineId)
        credential ↔
      ∃ response, latest? (released? identity.accountId) (credentialAnswers world bootstrap) =
          some response ∧
        credential = response.converted ∧ Admits identity.accountId credential := by
  intro identity
  let service := bootstrap.supportServices.accountService
  have hup : ((AccountSession.start service).next .init).bridge.client.isInitialized = true := by
    simp [AccountSession.next, AccountSession.start, GrpcAccountBridge.create,
      GrpcAccountBridge.init, ServiceClient.create, ServiceClient.init,
      ServiceClient.isInitialized, service, hendpoint]
  obtain ⟨after, hafter, hafterUp, hanswered, hused⟩ :=
    exists_used ((accountCoherent_start service).next .init) hup world.engineRequests
  obtain rfl : after.bridge = bridge := by
    rw [bridgeInUse, if_pos henabled] at hbridge
    exact hused.symm.trans (Option.some.inj hbridge)
  have hheard : after.heard ⟨identity.accountId, identity.engineId⟩ world.credentialAnswer =
      credentialAnswers world bootstrap := by
    rw [AccountSession.heard, if_pos hafterUp, hanswered]
    rfl
  rw [← hheard]
  have hresult {response : GetCredentialResponse}
      (hreleased : latest? (released? identity.accountId)
        (after.heard ⟨identity.accountId, identity.engineId⟩ world.credentialAnswer) =
          some response) :
      askCredential world after.bridge identity.accountId identity.engineId =
        .ok response.converted :=
    hafter.getCredential_released hreleased
  constructor
  · intro husable
    cases hreleased : latest? (released? identity.accountId)
        (after.heard ⟨identity.accountId, identity.engineId⟩ world.credentialAnswer) with
    | none => exact absurd husable.success (hafter.getCredential_unreleased hreleased).1
    | some response =>
        have hdata := husable.data
        rw [hresult hreleased, Result.ok_data] at hdata
        obtain rfl := Option.some.inj hdata
        exact ⟨response, rfl, rfl, husable.account, husable.connection, husable.password⟩
  · rintro ⟨response, hreleased, rfl, hadmits⟩
    constructor
    · rw [hresult hreleased, Result.ok_errorCode]
    · rw [hresult hreleased, Result.ok_data]
    · exact hadmits.account
    · exact hadmits.connection
    · exact hadmits.password

/-- What is selected with the bridge in use is what is offered. -/
theorem selects_iff_offered (hchecked : Checked bootstrap)
    (hendpoint : bootstrap.supportServices.accountService.enabled = true →
      bootstrap.supportServices.accountService.hasEndpoint = true)
    {adapterParams : Option AdapterLaunchParams} {created : CreatedAdapters} :
    Selects bootstrap.config.identity adapterParams
        ((bridgeInUse world bootstrap).map (askCredential world)) created ↔
      Offered world bootstrap adapterParams created := by
  constructor
  · intro hselects
    generalize hbridge : (bridgeInUse world bootstrap).map (askCredential world) = accountBridge
      at hselects
    cases hselects with
    | localMock => exact .localMock
    | @remoteMock params _ hname hquote =>
        obtain ⟨executionAdapter, quoteConnectionString⟩ := params
        obtain rfl : executionAdapter = "mock" := hname
        exact .remoteMock hquote
    | @emt params _ credential hname hquote _ husable =>
        obtain ⟨executionAdapter, quoteConnectionString⟩ := params
        obtain rfl : executionAdapter = "emt" := hname
        obtain ⟨bridge, hinUse, rfl⟩ := Option.map_eq_some_iff.mp hbridge
        have henabled : bootstrap.supportServices.accountService.enabled = true := by
          by_contra hdisabled
          rw [bridgeInUse, if_neg hdisabled] at hinUse
          cases hinUse
        obtain ⟨response, hreleased, rfl, hadmits⟩ :=
          (usable_iff henabled (hendpoint henabled) hinUse credential).mp husable
        exact .emt hquote henabled hreleased hadmits
  · intro hoffered
    cases hoffered with
    | localMock => exact .localMock _
    | remoteMock hquote => exact .remoteMock _ rfl hquote
    | emt hquote henabled hreleased hadmits =>
        obtain ⟨bridge, hinUse⟩ : ∃ bridge, bridgeInUse world bootstrap = some bridge :=
          ⟨_, if_pos henabled⟩
        rw [hinUse, Option.map_some]
        refine .emt rfl hquote hchecked.accountId ?_
        exact (usable_iff henabled (hendpoint henabled) hinUse _).mpr
          ⟨_, hreleased, rfl, hadmits⟩

theorem addStrategies_succeeds {pluginDir : String} {added strategies : List StrategyConfig} :
    (addStrategies world pluginDir added strategies).2 = true ↔
      Accepts world pluginDir added strategies := by
  induction strategies generalizing added with
  | nil => exact iff_of_true rfl trivial
  | cons config rest ih =>
      rw [addStrategies, Accepts, ← ih]
      by_cases hcode : world.addStrategy added config
          (defaultPluginSoPath pluginDir config.strategyName) = .kSuccess
      · simp [hcode]
      · simp [hcode]

theorem loadStrategies_succeeds {pluginDir : String} (hdir : pluginDir ≠ "")
    (strategies : List StrategyConfig) :
    (loadStrategies world pluginDir strategies).outcome = .ok () ↔
      Accepts world pluginDir [] strategies := by
  rw [loadStrategies, if_neg hdir, attempt_succeeds]
  exact addStrategies_succeeds

/-- The engine is prepared and starts. -/
theorem prepare_succeeds (hchecked : Checked bootstrap) :
    (prepare blank world bootstrap).outcome = .ok () ∧ world.engineStart = .kSuccess ↔
      ∃ fetched created, Startable blank world bootstrap fetched created := by
  constructor
  · rintro ⟨hprepare, hstart⟩
    obtain ⟨henvironment, hafterEnvironment⟩ := unit_bind_succeeds.mp hprepare
    obtain ⟨fetched, hfetch, hafterFetch⟩ := bind_succeeds.mp hafterEnvironment
    obtain ⟨bridge, haccount, hafterAccount⟩ := bind_succeeds.mp hafterFetch
    obtain ⟨hrisk, hafterRisk⟩ := unit_bind_succeeds.mp hafterAccount
    obtain ⟨adapters, htake, hafterTake⟩ := bind_succeeds.mp hafterRisk
    obtain ⟨-, hafterSet⟩ := unit_bind_succeeds.mp hafterTake
    obtain ⟨hinit, hload⟩ := unit_bind_succeeds.mp hafterSet
    obtain ⟨hendpoint, rfl⟩ := (injectAccountBridge_succeeds bridge).mp haccount
    obtain ⟨created, hselects, haccepts, rfl⟩ := takeAdapters_succeeds.mp htake
    refine ⟨fetched, created, ⟨?_, ?_, hendpoint, ?_, ?_, ?_, hstart⟩, ?_, haccepts⟩
    · exact attempt_succeeds.mp henvironment
    · exact (fetchConfig_succeeds hchecked fetched).mp hfetch
    · exact injectAccountRiskBridge_succeeds.mp hrisk
    · exact (initEngine_succeeds fetched.engineConfig).mp hinit
    · exact (loadStrategies_succeeds hchecked.pluginDir fetched.strategies).mp hload
    · exact (selects_iff_offered hchecked hendpoint).mp hselects
  · rintro ⟨fetched, created, h⟩
    have hselects := (selects_iff_offered hchecked h.account).mpr h.offered
    refine ⟨?_, h.started⟩
    apply unit_bind_succeeds.mpr ⟨attempt_succeeds.mpr h.environment, _⟩
    apply bind_succeeds.mpr ⟨fetched, (fetchConfig_succeeds hchecked fetched).mpr h.configured, _⟩
    apply bind_succeeds.mpr ⟨_, (injectAccountBridge_succeeds _).mpr ⟨h.account, rfl⟩, _⟩
    apply unit_bind_succeeds.mpr ⟨injectAccountRiskBridge_succeeds.mpr h.accountRisk, _⟩
    apply bind_succeeds.mpr
      ⟨_, takeAdapters_succeeds.mpr ⟨created, hselects, h.connected, rfl⟩, _⟩
    apply unit_bind_succeeds.mpr ⟨rfl, _⟩
    apply unit_bind_succeeds.mpr ⟨(initEngine_succeeds _).mpr h.initialized, _⟩
    exact (loadStrategies_succeeds hchecked.pluginDir _).mpr h.strategies

end Stages

/-! ## The whole process -/

/-- The end of a process that has become ready. -/
def readyEnding (host : Host) : Ending :=
  if host.interrupted then .exited .success else .running

theorem readyEnding_ne (host : Host) :
    Ending.exited .failure ≠ readyEnding host ∧ .aborted ≠ readyEnding host := by
  unfold readyEnding
  split <;> decide

section Ends

variable {blank : Blank} {host : Host} {bootstrap : QtradeEngineBootstrapConfig}

theorem runEngine_failed {reason : String}
    (hfailed : (startUp blank host.world bootstrap).outcome = .error reason) :
    (runEngine blank host.world bootstrap host.interrupted).ending = .exited .failure := by
  simp only [runEngine, hfailed]
  rfl

theorem runEngine_prepared (hprepared : (startUp blank host.world bootstrap).outcome = .ok ()) :
    (runEngine blank host.world bootstrap host.interrupted).ending =
      if host.world.engineStart = .kSuccess then readyEnding host else .exited .failure := by
  simp only [runEngine, hprepared, readyEnding]
  by_cases hstart : host.world.engineStart = .kSuccess
  · simp only [hstart, ne_eq, not_true_eq_false, if_false, if_true]
    cases host.interrupted <;> rfl
  · simp only [ne_eq, hstart, not_false_eq_true, if_true, if_false]
    rfl

theorem runEngine_ready :
    (runEngine blank host.world bootstrap host.interrupted).ending = readyEnding host ↔
      (prepare blank host.world bootstrap).outcome = .ok () ∧
        host.world.engineStart = .kSuccess := by
  have houtcome : (startUp blank host.world bootstrap).outcome =
      (prepare blank host.world bootstrap).outcome :=
    congrArg Traced.outcome (startUp_seen blank host.world bootstrap)
  rw [← houtcome]
  cases hstartUp : (startUp blank host.world bootstrap).outcome with
  | error reason =>
      rw [runEngine_failed hstartUp]
      exact iff_of_false (readyEnding_ne host).1 fun hboth => nomatch hboth.1
  | ok value =>
      rw [runEngine_prepared hstartUp]
      by_cases hstart : host.world.engineStart = .kSuccess
      · rw [if_pos hstart]
        exact iff_of_true rfl ⟨rfl, hstart⟩
      · rw [if_neg hstart]
        exact iff_of_false (readyEnding_ne host).1 fun hboth => hstart hboth.2

/-- A process that becomes ready has got a bootstrap config and runs its engine. -/
theorem runProcess_ready :
    (runProcess blank host).ending = readyEnding host ↔
      ∃ options parsed, (host.options.errorCode = .kSuccess ∧ host.options.data = some options) ∧
        loadBootstrapConfig host.parseServiceEndpoint (host.loadJsonFile options.configPath) =
          .found parsed ∧
        (runEngine blank host.world parsed.used host.interrupted).ending = readyEnding host := by
  obtain ⟨hfailure, haborted⟩ := readyEnding_ne host
  unfold runProcess
  constructor
  · intro hready
    split at hready
    · exact absurd hready hfailure
    · rename_i hcode
      split at hready
      · exact absurd hready hfailure
      · rename_i options hoptions
        split at hready
        · exact absurd hready haborted
        · exact absurd hready hfailure
        · rename_i parsed hfound
          exact ⟨options, parsed, ⟨not_not.mp hcode, hoptions⟩, hfound, hready⟩
  · rintro ⟨options, parsed, ⟨hcode, hoptions⟩, hfound, hready⟩
    simp only [hcode, hoptions, hfound, ne_eq, not_true_eq_false, if_false]
    exact hready

end Ends

theorem loadBootstrapConfig_found {parseServiceEndpoint : Json → Option ServiceEndpoint}
    {loaded : Option Json} {parsed : ParsedBootstrapConfig} :
    loadBootstrapConfig parseServiceEndpoint loaded = .found parsed ↔
      ∃ configNode, loaded = some configNode ∧ Readable configNode ∧
        content? parseServiceEndpoint configNode = some parsed := by
  cases loaded with
  | none =>
      refine iff_of_false nofun ?_
      rintro ⟨configNode, hloaded, -⟩
      cases hloaded
  | some configNode =>
      rw [loadBootstrapConfig, (reads_parse parseServiceEndpoint configNode).found_iff]
      constructor
      · exact fun hfound => ⟨configNode, rfl, hfound⟩
      · rintro ⟨_, ⟨⟩, hfound⟩
        exact hfound

/-- What the parser finds it has checked. -/
theorem checked_of_content {parseServiceEndpoint : Json → Option ServiceEndpoint}
    {configNode : Json} {parsed : ParsedBootstrapConfig}
    (hcontent : content? parseServiceEndpoint configNode = some parsed) :
    Checked parsed.used := by
  simp only [content?, Option.bind_eq_bind, Option.bind_eq_some_iff, Option.some.injEq] at hcontent
  obtain ⟨shape, -, logs, -, identity, hidentity, pluginDir, hplugin, services, -, rfl⟩ := hcontent
  simp only [identity?, Option.ite_none_left_eq_some, Option.some.injEq, not_or] at hidentity
  simp only [pluginDir?, Option.ite_none_left_eq_some, Option.some.injEq] at hplugin
  obtain ⟨⟨-, hengine, haccount⟩, rfl⟩ := hidentity
  obtain ⟨hdir, rfl⟩ := hplugin
  exact ⟨hengine, haccount, hdir⟩

/-- A process becomes ready if and only if it is given a readable and complete bootstrap
file and prepares and starts its engine on it. -/
theorem runProcess_prepared (blank : Blank) (host : Host) :
    (runProcess blank host).ending = readyEnding host ↔
      ∃ options configNode parsed,
        (host.options.errorCode = .kSuccess ∧ host.options.data = some options) ∧
        (host.loadJsonFile options.configPath = some configNode ∧ Readable configNode ∧
          content? host.parseServiceEndpoint configNode = some parsed) ∧
        (prepare blank host.world parsed.used).outcome = .ok () ∧
          host.world.engineStart = .kSuccess := by
  rw [runProcess_ready]
  constructor
  · rintro ⟨options, parsed, hoptions, hfound, hready⟩
    obtain ⟨configNode, hfile⟩ := loadBootstrapConfig_found.mp hfound
    exact ⟨options, configNode, parsed, hoptions, hfile, runEngine_ready.mp hready⟩
  · rintro ⟨options, configNode, parsed, hoptions, hfile, hprepared⟩
    have hfound := loadBootstrapConfig_found.mpr ⟨configNode, hfile⟩
    exact ⟨options, parsed, hoptions, hfound, runEngine_ready.mpr hprepared⟩

/-- The client becomes ready, and then ends with success if it is told to, if and only if
its options name a readable and complete bootstrap file and everything that a start takes
is there. -/
theorem starts_iff (blank : Blank) (host : Host) :
    (runProcess blank host).ending = readyEnding host ↔
      ∃ options configNode parsed fetched created,
        (host.options.errorCode = .kSuccess ∧ host.options.data = some options) ∧
        (host.loadJsonFile options.configPath = some configNode ∧ Readable configNode ∧
          content? host.parseServiceEndpoint configNode = some parsed) ∧
        Startable blank host.world parsed.used fetched created := by
  rw [runProcess_prepared]
  constructor
  · rintro ⟨options, configNode, parsed, hoptions, hfile, hprepared⟩
    obtain ⟨fetched, created, hstartable⟩ :=
      (prepare_succeeds (checked_of_content hfile.2.2)).mp hprepared
    exact ⟨options, configNode, parsed, fetched, created, hoptions, hfile, hstartable⟩
  · rintro ⟨options, configNode, parsed, fetched, created, hoptions, hfile, hstartable⟩
    have hprepared := (prepare_succeeds (checked_of_content hfile.2.2)).mpr
      ⟨fetched, created, hstartable⟩
    exact ⟨options, configNode, parsed, hoptions, hfile, hprepared⟩

/-- A start on the credential of another engine, while the account service is down. -/
example :
    let blank : Blank := ⟨⟨"", "", "", false, 0, ⟨0, 0, 0, 0, 0⟩⟩, ⟨0, 0, 0, 0, 0⟩⟩
    let world : World :=
      { environmentReady := true
        configAnswer :=
          .ok ⟨⟨"engine-1", "acc_001", "emt", "tcp://quote", "emt", false, 0,
            ⟨0, 0, 0, 0, 0⟩, []⟩⟩
        engineRequests :=
          [(⟨"acc_001", "engine-2"⟩, .ok ⟨⟨"acc_001", "emt", "tcp://trade", "secret"⟩⟩)]
        credentialAnswer := .error .unavailable
        venue := ⟨fun _ _ => .kSuccess, fun _ _ => .kSuccess⟩
        engineInit := fun _ => .kSuccess
        addStrategy := fun _ _ _ => .kSuccess
        engineStart := .kSuccess }
    let host : Host := ⟨.ok ⟨"engine.json"⟩, fun _ => some sampleFile, sampleEndpoint, world, false⟩
    (runProcess blank host).ending = .running := by
  rfl

end QtradeClient.Boot
