import QtradeClient.Boot.Conditions
import QtradeClient.Emt.QuoteApi
import QtradeClient.Mock.QuoteApi
import QtradeClient.Mock.TraderApi

/-!
# Starting on the adapters of this repository

The venue of the start-up answers as the adapters do that the factories create.  A mock
pair always connects; the EMT pair never does, since it is written ahead of the vendor's
SDK.  So with these adapters a start takes no credential, and none helps.
-/

namespace QtradeClient.Emt

/-- `Connect` of the EMT trader adapter, which keeps nothing of the request. -/
def EmtTraderApi.connect {κ : Type} (_ : κ) : ErrorCode := .kNotSupported

end QtradeClient.Emt

namespace QtradeClient.Boot

open Bridge Client Emt Mock

/-- The adapters of the factories, each of them as constructed. -/
def ownVenue : Venue where
  connectQuote
    | .mock, _ => MockQuoteApi.create.connect.1
    | .emt, request => ((EmtQuoteApi.create ⟨"", "", "", ""⟩).connect request).1
  connectTrader
    | .mock, _ => .kSuccess
    | .emt, request => EmtTraderApi.connect request

/-- The mock trader adapter connects whatever has been done with it. -/
theorem ownVenue_mockTrader (api : MockTraderApi) (request : TraderConnectRequest) :
    api.connect.outcome = .returned (ownVenue.connectTrader .mock request) := rfl

def Host.withOwnAdapters (host : Host) : Host :=
  { host with world := { host.world with venue := ownVenue } }

theorem ownVenue_accepts_iff (created : CreatedAdapters) :
    ownVenue.Accepts created ↔ created.kind = .mock := by
  obtain ⟨kind, quoteRequest, traderRequest⟩ := created
  cases kind with
  | mock => exact iff_of_true ⟨rfl, rfl⟩ rfl
  | emt =>
      refine iff_of_false ?_ nofun
      rintro ⟨hquote, -⟩
      cases hquote

/-- No adapter is named, or the mock one with a place to get its quotes from. -/
def OnMocks : Option AdapterLaunchParams → Prop
  | none => True
  | some params => params.executionAdapter = "mock" ∧ params.quoteConnectionString ≠ ""

theorem exists_offered_mock_iff {world : World} {bootstrap : QtradeEngineBootstrapConfig}
    {adapterParams : Option AdapterLaunchParams} :
    (∃ created, Offered world bootstrap adapterParams created ∧ created.kind = .mock) ↔
      OnMocks adapterParams := by
  constructor
  · rintro ⟨created, hoffered, hkind⟩
    cases hoffered with
    | localMock => trivial
    | remoteMock hquote => exact ⟨rfl, hquote⟩
    | emt => cases hkind
  · intro hmocks
    cases adapterParams with
    | none => exact ⟨_, .localMock, rfl⟩
    | some params =>
        obtain ⟨executionAdapter, quoteConnectionString⟩ := params
        obtain ⟨rfl, hquote⟩ := hmocks
        exact ⟨_, .remoteMock hquote, rfl⟩

/-- With the adapters of this repository the client becomes ready if and only if the
bootstrap file is complete, everything besides the adapters is there, and the config service
is disabled or names the mock adapter; what the account service answers makes no difference. -/
theorem own_adapters_start_iff (blank : Blank) (host : Host) :
    (runProcess blank host.withOwnAdapters).ending = readyEnding host ↔
      ∃ options configNode parsed fetched,
        (host.options.errorCode = .kSuccess ∧ host.options.data = some options) ∧
        (host.loadJsonFile options.configPath = some configNode ∧ Readable configNode ∧
          content? host.parseServiceEndpoint configNode = some parsed) ∧
        Equipped blank host.withOwnAdapters.world parsed.used fetched ∧
        OnMocks fetched.adapterParams := by
  have hready : readyEnding host = readyEnding host.withOwnAdapters := rfl
  rw [hready, runProcess_prepared]
  constructor
  · rintro ⟨options, configNode, parsed, hoptions, hfile, hprepared⟩
    obtain ⟨fetched, created, hstartable⟩ :=
      (prepare_succeeds (checked_of_content hfile.2.2)).mp hprepared
    have hmock : created.kind = .mock := (ownVenue_accepts_iff created).mp hstartable.connected
    have hmocks := exists_offered_mock_iff.mp ⟨created, hstartable.offered, hmock⟩
    exact ⟨options, configNode, parsed, fetched, hoptions, hfile, hstartable.toEquipped, hmocks⟩
  · rintro ⟨options, configNode, parsed, fetched, hoptions, hfile, hequipped, hmocks⟩
    obtain ⟨created, hoffered, hmock⟩ := exists_offered_mock_iff.mpr hmocks
    have hconnected : ownVenue.Accepts created := (ownVenue_accepts_iff created).mpr hmock
    have hprepared := (prepare_succeeds (checked_of_content hfile.2.2)).mpr
      ⟨fetched, created, hequipped, hoffered, hconnected⟩
    exact ⟨options, configNode, parsed, hoptions, hfile, hprepared⟩

end QtradeClient.Boot
