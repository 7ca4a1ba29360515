import QtradeClient.Bridge.Config

/-!
# Building and connecting the adapters

The start-up takes its quote and trader adapters as a pair, either mock or EMT.  What
the adapters' venues answer to `Connect` is given from outside; every call that leaves
the process is recorded as an act.
-/

namespace QtradeClient.Boot

open Bridge Client

/-! ## The bootstrap file -/

structure QtradeEngineIdentity where
  tenantId : String
  engineId : String
  accountId : String

structure QtradeEngineStrategyBootstrap where
  pluginDir : String

structure QtradeEngineProcessConfig where
  logDir : String
  logFilename : String
  strategy : QtradeEngineStrategyBootstrap
  identity : QtradeEngineIdentity

structure QtradeEngineSupportServices where
  configService : ServiceConfig
  accountService : ServiceConfig
  accountRiskService : ServiceConfig

structure QtradeEngineBootstrapConfig where
  config : QtradeEngineProcessConfig
  supportServices : QtradeEngineSupportServices

/-! ## Adapters and what is done with them -/

inductive AdapterKind where
  | mock
  | emt
  deriving DecidableEq

structure QuoteConnectRequest where
  name : String
  connectionString : String
  user : String
  password : String
  deriving DecidableEq

structure TraderConnectRequest where
  brokerId : String
  accountId : String
  connectionString : String
  password : String
  deriving DecidableEq

/-- What the start-up does before it starts the engine, with the answer it got. -/
inductive Act where
  | setAccountBridge
  | setAccountRiskBridge
  | getCredential (accountId engineId : String) (result : Result CredentialMaterial)
  | connectQuote (kind : AdapterKind) (request : QuoteConnectRequest) (code : ErrorCode)
  | connectTrader (kind : AdapterKind) (request : TraderConnectRequest) (code : ErrorCode)
  | disconnectQuote (kind : AdapterKind)
  | setQuoteApi (quoteApi : Option AdapterKind)
  | setTraderApi (traderApi : Option AdapterKind)
  | initEngine (config : EngineConfig) (code : ErrorCode)
  | addStrategy (config : StrategyConfig) (soPath : String) (code : ErrorCode)

/-- The answers to `Connect` of either adapter. -/
structure Venue where
  connectQuote : AdapterKind → QuoteConnectRequest → ErrorCode
  connectTrader : AdapterKind → TraderConnectRequest → ErrorCode

/-- A created pair of adapters with the requests to connect them. -/
structure CreatedAdapters where
  kind : AdapterKind
  quoteRequest : QuoteConnectRequest
  traderRequest : TraderConnectRequest

/-- The adapters that `main` holds. -/
structure AdapterBundle where
  quoteApi : Option AdapterKind
  traderApi : Option AdapterKind
  deriving DecidableEq

def AdapterBundle.empty : AdapterBundle := ⟨none, none⟩

/-- A call that reports success as a `bool` and fills an output. -/
structure Built where
  acts : List Act
  returned : Bool
  out : AdapterBundle

def createMockAdapters (quoteConnectionString accountId : String) : CreatedAdapters where
  kind := .mock
  quoteRequest := ⟨"mock", quoteConnectionString, "", ""⟩
  traderRequest := ⟨"mock", accountId, quoteConnectionString, ""⟩

/-- The error it reports, the pair it returns, and the question it asked. -/
structure EmtCreation where
  acts : List Act
  outError : ErrorCode
  bundle : Option CreatedAdapters

/-- The pair made of a credential that passed the checks. -/
def emtAdapters (credential : CredentialMaterial) (quoteConnectionString : String) :
    CreatedAdapters where
  kind := .emt
  quoteRequest := ⟨"emt", quoteConnectionString, credential.accountId, credential.password⟩
  traderRequest :=
    ⟨credential.brokerId, credential.accountId, credential.connectionString,
      credential.password⟩

def createEmtAdapters (getCredential : String → String → Result CredentialMaterial)
    (engineId accountId quoteConnectionString : String) : EmtCreation :=
  if accountId = "" ∨ quoteConnectionString = "" then ⟨[], .kInternalError, none⟩
  else
    let result := getCredential accountId engineId
    let acts := [.getCredential accountId engineId result]
    if result.errorCode ≠ .kSuccess then ⟨acts, result.errorCode, none⟩
    else
      match result.data with
      | none => ⟨acts, result.errorCode, none⟩
      | some credential =>
          if credential.accountId ≠ accountId ∨ credential.connectionString = "" ∨
              credential.password = "" then
            ⟨acts, .kInternalError, none⟩
          else ⟨acts, .kSuccess, some (emtAdapters credential quoteConnectionString)⟩

/-- Connect both adapters and hand them over; a trader that does not connect takes the
quote connection down with it. -/
def connectAndTake (venue : Venue) (out : AdapterBundle) (created : CreatedAdapters) : Built :=
  let quote := venue.connectQuote created.kind created.quoteRequest
  let quoteAct := .connectQuote created.kind created.quoteRequest quote
  if quote ≠ .kSuccess then ⟨[quoteAct], false, out⟩
  else
    let trader := venue.connectTrader created.kind created.traderRequest
    let traderAct := .connectTrader created.kind created.traderRequest trader
    if trader ≠ .kSuccess then
      ⟨[quoteAct, traderAct, .disconnectQuote created.kind], false, out⟩
    else ⟨[quoteAct, traderAct], true, ⟨some created.kind, some created.kind⟩⟩

/-- Without parameters from the config service the adapters are mock; with them the
service names the kind. -/
def buildAdapters (venue : Venue) (bootstrap : QtradeEngineBootstrapConfig)
    (adapterParams : Option AdapterLaunchParams)
    (accountBridge : Option (String → String → Result CredentialMaterial))
    (out : AdapterBundle) : Built :=
  let identity := bootstrap.config.identity
  match adapterParams with
  | none =>
      connectAndTake venue out (createMockAdapters "mock://local" identity.accountId)
  | some params =>
      if params.executionAdapter = "" ∨ params.quoteConnectionString = "" then ⟨[], false, out⟩
      else if params.executionAdapter = "mock" then
        connectAndTake venue out
          (createMockAdapters params.quoteConnectionString identity.accountId)
      else if params.executionAdapter = "emt" then
        match accountBridge with
        | none => ⟨[], false, out⟩
        | some getCredential =>
            let created := createEmtAdapters getCredential identity.engineId identity.accountId
              params.quoteConnectionString
            match created.bundle with
            | none => ⟨created.acts, false, out⟩
            | some bundle =>
                let built := connectAndTake venue out bundle
                { built with acts := created.acts ++ built.acts }
      else ⟨[], false, out⟩

/-! ## When EMT adapters are created -/

/-- The answer to a request for a credential is a success with this credential of the
account, and it says where and how to log in. -/
structure Usable (accountId : String) (result : Result CredentialMaterial)
    (credential : CredentialMaterial) : Prop where
  success : result.errorCode = .kSuccess
  data : result.data = some credential
  account : credential.accountId = accountId
  connection : credential.connectionString ≠ ""
  password : credential.password ≠ ""

section Creation

variable {getCredential : String → String → Result CredentialMaterial}
  {engineId accountId quoteConnectionString : String}

theorem createEmtAdapters_unasked (hempty : accountId = "" ∨ quoteConnectionString = "") :
    createEmtAdapters getCredential engineId accountId quoteConnectionString =
      ⟨[], .kInternalError, none⟩ := by
  rw [createEmtAdapters, if_pos hempty]

theorem createEmtAdapters_asked {act : Act}
    (hact : act ∈
      (createEmtAdapters getCredential engineId accountId quoteConnectionString).acts) :
    ∃ result, act = .getCredential accountId engineId result := by
  by_cases hempty : accountId = "" ∨ quoteConnectionString = ""
  · rw [createEmtAdapters_unasked hempty] at hact
    cases hact
  · have hacts :
        (createEmtAdapters getCredential engineId accountId quoteConnectionString).acts =
          [.getCredential accountId engineId (getCredential accountId engineId)] := by
      simp only [createEmtAdapters, hempty, if_false]
      split
      · rfl
      · split
        · rfl
        · split <;> rfl
    rw [hacts] at hact
    exact ⟨_, List.mem_singleton.mp hact⟩

/-- An answer that is not a success with data is passed on as its error code. -/
theorem createEmtAdapters_unanswered (hargs : accountId ≠ "" ∧ quoteConnectionString ≠ "")
    (hanswer : (getCredential accountId engineId).errorCode ≠ .kSuccess ∨
      (getCredential accountId engineId).data = none) :
    (createEmtAdapters getCredential engineId accountId quoteConnectionString).outError =
        (getCredential accountId engineId).errorCode ∧
      (createEmtAdapters getCredential engineId accountId quoteConnectionString).bundle =
        none := by
  have hempty : ¬(accountId = "" ∨ quoteConnectionString = "") := not_or.mpr hargs
  simp only [createEmtAdapters, hempty, if_false]
  by_cases hcode : (getCredential accountId engineId).errorCode = .kSuccess
  · rcases hanswer with hne | hnone
    · exact absurd hcode hne
    · simp [hcode, hnone]
  · simp [hcode]

theorem createEmtAdapters_usable (hargs : accountId ≠ "" ∧ quoteConnectionString ≠ "")
    {credential : CredentialMaterial}
    (husable : Usable accountId (getCredential accountId engineId) credential) :
    createEmtAdapters getCredential engineId accountId quoteConnectionString =
      ⟨[.getCredential accountId engineId (getCredential accountId engineId)], .kSuccess,
        some (emtAdapters credential quoteConnectionString)⟩ := by
  have hempty : ¬(accountId = "" ∨ quoteConnectionString = "") := not_or.mpr hargs
  simp [createEmtAdapters, hempty, husable.success, husable.data, husable.account,
    husable.connection, husable.password]

theorem createEmtAdapters_unusable (hargs : accountId ≠ "" ∧ quoteConnectionString ≠ "")
    {credential : CredentialMaterial}
    (hsuccess : (getCredential accountId engineId).errorCode = .kSuccess)
    (hdata : (getCredential accountId engineId).data = some credential)
    (hunusable : ¬Usable accountId (getCredential accountId engineId) credential) :
    (createEmtAdapters getCredential engineId accountId quoteConnectionString).outError =
        .kInternalError ∧
      (createEmtAdapters getCredential engineId accountId quoteConnectionString).bundle =
        none := by
  have hempty : ¬(accountId = "" ∨ quoteConnectionString = "") := not_or.mpr hargs
  have hbad : credential.accountId ≠ accountId ∨ credential.connectionString = "" ∨
      credential.password = "" := by
    by_contra hgood
    rw [not_or, not_or, not_not] at hgood
    exact hunusable ⟨hsuccess, hdata, hgood.1, hgood.2.1, hgood.2.2⟩
  simp [createEmtAdapters, hempty, hsuccess, hdata, hbad]

/-- A bundle is made of the credential in a usable answer, and of nothing else. -/
theorem createEmtAdapters_bundle_iff {created : CreatedAdapters} :
    (createEmtAdapters getCredential engineId accountId quoteConnectionString).bundle =
        some created ↔
      (accountId ≠ "" ∧ quoteConnectionString ≠ "") ∧
        ∃ credential, Usable accountId (getCredential accountId engineId) credential ∧
          created = emtAdapters credential quoteConnectionString := by
  constructor
  · intro hbundle
    by_cases hempty : accountId = "" ∨ quoteConnectionString = ""
    · rw [createEmtAdapters_unasked hempty] at hbundle
      cases hbundle
    · have hargs := not_or.mp hempty
      refine ⟨hargs, ?_⟩
      by_cases hanswer : (getCredential accountId engineId).errorCode ≠ .kSuccess ∨
          (getCredential accountId engineId).data = none
      · rw [(createEmtAdapters_unanswered hargs hanswer).2] at hbundle
        cases hbundle
      · rw [not_or, not_not] at hanswer
        obtain ⟨credential, hdata⟩ := Option.ne_none_iff_exists'.mp hanswer.2
        by_cases husable : Usable accountId (getCredential accountId engineId) credential
        · rw [createEmtAdapters_usable hargs husable] at hbundle
          exact ⟨credential, husable, (Option.some.inj hbundle).symm⟩
        · rw [(createEmtAdapters_unusable hargs hanswer.1 hdata husable).2] at hbundle
          cases hbundle
  · rintro ⟨hargs, credential, husable, rfl⟩
    rw [createEmtAdapters_usable hargs husable]

end Creation

/-! ## The pair that is selected -/

/-- The pair of adapters that the parameters and the account bridge select.  Without
parameters it is the local mock pair; an adapter of any other name selects nothing. -/
inductive Selects (identity : QtradeEngineIdentity) :
    Option AdapterLaunchParams → Option (String → String → Result CredentialMaterial) →
      CreatedAdapters → Prop where
  | localMock (accountBridge : Option (String → String → Result CredentialMaterial)) :
      Selects identity none accountBridge
        (createMockAdapters "mock://local" identity.accountId)
  | remoteMock {params : AdapterLaunchParams}
      (accountBridge : Option (String → String → Result CredentialMaterial))
      (hname : params.executionAdapter = "mock") (hquote : params.quoteConnectionString ≠ "") :
      Selects identity (some params) accountBridge
        (createMockAdapters params.quoteConnectionString identity.accountId)
  | emt {params : AdapterLaunchParams}
      {getCredential : String → String → Result CredentialMaterial}
      {credential : CredentialMaterial}
      (hname : params.executionAdapter = "emt") (hquote : params.quoteConnectionString ≠ "")
      (haccount : identity.accountId ≠ "")
      (husable : Usable identity.accountId
        (getCredential identity.accountId identity.engineId) credential) :
      Selects identity (some params) (some getCredential)
        (emtAdapters credential params.quoteConnectionString)

/-- The questions of `BuildAdapters` and the pair that it goes on to connect. -/
def selectAdapters (identity : QtradeEngineIdentity) (adapterParams : Option AdapterLaunchParams)
    (accountBridge : Option (String → String → Result CredentialMaterial)) :
    List Act × Option CreatedAdapters :=
  match adapterParams with
  | none => ([], some (createMockAdapters "mock://local" identity.accountId))
  | some params =>
      if params.executionAdapter = "" ∨ params.quoteConnectionString = "" then ([], none)
      else if params.executionAdapter = "mock" then
        ([], some (createMockAdapters params.quoteConnectionString identity.accountId))
      else if params.executionAdapter = "emt" then
        match accountBridge with
        | none => ([], none)
        | some getCredential =>
            let creation := createEmtAdapters getCredential identity.engineId identity.accountId
              params.quoteConnectionString
            (creation.acts, creation.bundle)
      else ([], none)

section Selection

variable {venue : Venue} {bootstrap : QtradeEngineBootstrapConfig}
  {adapterParams : Option AdapterLaunchParams}
  {accountBridge : Option (String → String → Result CredentialMaterial)} {out : AdapterBundle}

/-- Building the adapters is selecting a pair and then connecting it. -/
theorem buildAdapters_eq :
    buildAdapters venue bootstrap adapterParams accountBridge out =
      match selectAdapters bootstrap.config.identity adapterParams accountBridge with
      | (asked, none) => ⟨asked, false, out⟩
      | (asked, some created) =>
          { connectAndTake venue out created with
            acts := asked ++ (connectAndTake venue out created).acts } := by
  unfold buildAdapters selectAdapters
  cases adapterParams with
  | none => rfl
  | some params =>
      simp only
      split
      · rfl
      · split
        · rfl
        · split
          · cases accountBridge with
            | none => rfl
            | some getCredential =>
                simp only
                split <;> simp_all
          · rfl

/-- A selection is a mock pair, for which nothing is asked, the outcome of creating EMT
adapters, or nothing. -/
theorem selectAdapters_cases (identity : QtradeEngineIdentity)
    (adapterParams : Option AdapterLaunchParams)
    (accountBridge : Option (String → String → Result CredentialMaterial)) :
    (∃ quoteConnectionString,
      (∀ params, adapterParams = some params → params.executionAdapter = "mock") ∧
      Selects identity adapterParams accountBridge
        (createMockAdapters quoteConnectionString identity.accountId) ∧
      selectAdapters identity adapterParams accountBridge =
        ([], some (createMockAdapters quoteConnectionString identity.accountId))) ∨
    (∃ params getCredential, adapterParams = some params ∧ params.executionAdapter = "emt" ∧
      params.quoteConnectionString ≠ "" ∧ accountBridge = some getCredential ∧
      selectAdapters identity adapterParams accountBridge =
        let creation := createEmtAdapters getCredential identity.engineId identity.accountId
          params.quoteConnectionString
        (creation.acts, creation.bundle)) ∨
    selectAdapters identity adapterParams accountBridge = ([], none) := by
  cases adapterParams with
  | none =>
      refine .inl ⟨"mock://local", ?_, .localMock accountBridge, rfl⟩
      rintro params ⟨⟩
  | some params =>
      by_cases hempty : params.executionAdapter = "" ∨ params.quoteConnectionString = ""
      · exact .inr (.inr (by simp [selectAdapters, hempty]))
      · have hquote := (not_or.mp hempty).2
        by_cases hmock : params.executionAdapter = "mock"
        · refine .inl ⟨params.quoteConnectionString, ?_, .remoteMock accountBridge hmock hquote, ?_⟩
          · rintro _ ⟨⟩
            exact hmock
          · simp [selectAdapters, hmock, hquote]
        · by_cases hemt : params.executionAdapter = "emt"
          · cases accountBridge with
            | none => exact .inr (.inr (by simp [selectAdapters, hemt]))
            | some getCredential =>
                refine .inr (.inl ⟨params, getCredential, rfl, hemt, hquote, rfl, ?_⟩)
                simp [selectAdapters, hemt, hquote]
          · exact .inr (.inr (by simp [selectAdapters, hmock, hemt]))

theorem selectAdapters_iff {identity : QtradeEngineIdentity} {created : CreatedAdapters} :
    (selectAdapters identity adapterParams accountBridge).2 = some created ↔
      Selects identity adapterParams accountBridge created := by
  constructor
  · intro hselected
    rcases selectAdapters_cases identity adapterParams accountBridge with ⟨_, -, hselects, hpair⟩ |
      ⟨params, getCredential, rfl, hemt, hquote, rfl, hpair⟩ | hpair
    · rw [hpair] at hselected
      cases hselected
      exact hselects
    · rw [hpair] at hselected
      obtain ⟨hargs, credential, husable, rfl⟩ := createEmtAdapters_bundle_iff.mp hselected
      exact .emt hemt hquote hargs.1 husable
    · rw [hpair] at hselected
      cases hselected
  · intro hselects
    cases hselects with
    | localMock => rfl
    | remoteMock _ hname hquote => simp [selectAdapters, hname, hquote]
    | emt hname hquote haccount husable =>
        simpa [selectAdapters, hname, hquote] using
          createEmtAdapters_bundle_iff.mpr ⟨⟨haccount, hquote⟩, _, husable, rfl⟩

/-- The only question is for the credential of the account. -/
theorem selectAdapters_asked {identity : QtradeEngineIdentity} {act : Act}
    (hact : act ∈ (selectAdapters identity adapterParams accountBridge).1) :
    ∃ result, act = .getCredential identity.accountId identity.engineId result := by
  rcases selectAdapters_cases identity adapterParams accountBridge with
    ⟨_, -, -, hpair⟩ | ⟨_, _, -, -, -, -, hpair⟩ | hpair
  · rw [hpair] at hact
    cases hact
  · rw [hpair] at hact
    exact createEmtAdapters_asked hact
  · rw [hpair] at hact
    cases hact

end Selection

/-! ## What a success says -/

/-- The acts of connecting both adapters with success. -/
def connectedActs (created : CreatedAdapters) : List Act :=
  [.connectQuote created.kind created.quoteRequest .kSuccess,
    .connectTrader created.kind created.traderRequest .kSuccess]

end QtradeClient.Boot
