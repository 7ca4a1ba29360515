import QtradeClient.Bridge.Cache
import QtradeClient.Bridge.Convert
import QtradeClient.Client.Rpc
import QtradeClient.Library.Remembered
import QtradeClient.Library.Runs

/-!
# Credentials through the bridge

`GetCredential` asks for the credential of an account on behalf of an engine, keeps the
last one under the account alone, and falls back to it after every status other than
`OK`.  What it returns is therefore the latest release for the account, whichever
engine that was made to and whatever the service has said since.
-/

namespace QtradeClient.Bridge

open Client Library Library.History Library.Remembered

structure GetCredentialRequest where
  accountId : String
  engineId : String
  deriving DecidableEq

structure GetCredentialResponse where
  credential : Proto.CredentialMaterial
  deriving DecidableEq

def GetCredentialResponse.converted (response : GetCredentialResponse) : CredentialMaterial :=
  toCredentialMaterial response.credential

structure GrpcAccountBridge where
  serviceConfig : ServiceConfig
  client : AccountClient
  cache : Cache CredentialMaterial

namespace GrpcAccountBridge

def create (serviceConfig : ServiceConfig) : GrpcAccountBridge := ⟨serviceConfig, .create, ∅⟩

def init (bridge : GrpcAccountBridge) : ErrorCode × GrpcAccountBridge :=
  let done := bridge.client.init bridge.serviceConfig
  (done.1, { bridge with client := done.2 })

def shutdown (bridge : GrpcAccountBridge) : GrpcAccountBridge :=
  { bridge with client := bridge.client.shutdown }

/-- The key leaves out the engine. -/
def cacheKey (accountId : String) : String := accountId

def storeCredential (bridge : GrpcAccountBridge) (accountId : String)
    (material : CredentialMaterial) : GrpcAccountBridge :=
  { bridge with cache := bridge.cache.insert (cacheKey accountId) material }

def cachedCredential (bridge : GrpcAccountBridge) (accountId : String)
    (result : Result CredentialMaterial) : Result CredentialMaterial :=
  fromCache bridge.cache (cacheKey accountId) "credential not available" result

/-- A call, given what the service would answer to its request. -/
def getCredential (bridge : GrpcAccountBridge) (request : GetCredentialRequest)
    (answer : Answer GetCredentialResponse) : Result CredentialMaterial × GrpcAccountBridge :=
  if bridge.client.isInitialized then
    match bridge.client.call answer with
    | .ok response =>
        (.ok response.converted, bridge.storeCredential request.accountId response.converted)
    | .error _ =>
        (bridge.cachedCredential request.accountId (.error .kTimeout "GetCredential RPC failed"),
          bridge)
  else (bridge.cachedCredential request.accountId {}, bridge)

section Calls

variable {bridge : GrpcAccountBridge} (request : GetCredentialRequest)

theorem getCredential_down (hdown : bridge.client.isInitialized = false)
    (answer : Answer GetCredentialResponse) :
    bridge.getCredential request answer =
      (bridge.cachedCredential request.accountId {}, bridge) := by
  simp [getCredential, hdown]

theorem getCredential_ok (hup : bridge.client.isInitialized = true)
    (response : GetCredentialResponse) :
    bridge.getCredential request (.ok response) =
      (.ok response.converted, bridge.storeCredential request.accountId response.converted) := by
  simp [getCredential, ServiceClient.call_ok hup, hup]

theorem getCredential_failed (hup : bridge.client.isInitialized = true) (status : StatusCode) :
    bridge.getCredential request (.error status) =
      (bridge.cachedCredential request.accountId (.error .kTimeout "GetCredential RPC failed"),
        bridge) := by
  simp [getCredential, ServiceClient.call_error hup, hup]

end Calls

end GrpcAccountBridge

/-! ## Sessions -/

inductive AccountEvent where
  | init
  | shutdown
  | getCredential (request : GetCredentialRequest) (answer : Answer GetCredentialResponse)

/-- The bridge and what the service has answered, the latest answer last. -/
structure AccountSession where
  bridge : GrpcAccountBridge
  answered : List (GetCredentialRequest × Answer GetCredentialResponse)

namespace AccountSession

def start (serviceConfig : ServiceConfig) : AccountSession := ⟨.create serviceConfig, []⟩

/-- The answers after a call: none is added when the client makes no request. -/
def heard (session : AccountSession) (request : GetCredentialRequest)
    (answer : Answer GetCredentialResponse) :
    List (GetCredentialRequest × Answer GetCredentialResponse) :=
  if session.bridge.client.isInitialized then session.answered ++ [(request, answer)]
  else session.answered

def next (session : AccountSession) : AccountEvent → AccountSession
  | .init => { session with bridge := session.bridge.init.2 }
  | .shutdown => { session with bridge := session.bridge.shutdown }
  | .getCredential request answer =>
      ⟨(session.bridge.getCredential request answer).2, session.heard request answer⟩

end AccountSession

/-- The cache key of a request. -/
def requestKey (request : GetCredentialRequest) : String :=
  GrpcAccountBridge.cacheKey request.accountId

/-- The releases of an account's credential, to any engine. -/
abbrev released? (accountId : String) :
    GetCredentialRequest × Answer GetCredentialResponse → Option GetCredentialResponse :=
  okUnder requestKey accountId

/-- The releases made to one engine. -/
abbrev releasedTo? (request : GetCredentialRequest) :
    GetCredentialRequest × Answer GetCredentialResponse → Option GetCredentialResponse :=
  okUnder id request

/-- The cache holds the latest release of each account. -/
def AccountSession.Coherent (session : AccountSession) : Prop :=
  Remembers requestKey GetCredentialResponse.converted session.bridge.cache session.answered

theorem accountCoherent_start (serviceConfig : ServiceConfig) :
    (AccountSession.start serviceConfig).Coherent := remembers_nil

namespace AccountSession

variable {session : AccountSession}

theorem Coherent.next (h : session.Coherent) (event : AccountEvent) :
    (session.next event).Coherent := by
  cases event with
  | init => exact h
  | shutdown => exact h
  | getCredential request answer =>
      rw [Coherent, AccountSession.next, heard]
      cases hup : session.bridge.client.isInitialized with
      | false =>
          rw [GrpcAccountBridge.getCredential_down request hup]
          exact h
      | true =>
          cases answer with
          | ok response =>
              rw [GrpcAccountBridge.getCredential_ok request hup]
              exact h.ok request response
          | error status =>
              rw [GrpcAccountBridge.getCredential_failed request hup]
              exact h.error request status

theorem Coherent.cachedCredential_found (h : session.Coherent) {accountId : String}
    {response : GetCredentialResponse}
    (hreleased : latest? (released? accountId) session.answered = some response)
    (result : Result CredentialMaterial) :
    session.bridge.cachedCredential accountId result = .ok response.converted := by
  apply fromCache_found
  exact (h accountId).trans (by rw [hreleased, Option.map_some])

theorem Coherent.cachedCredential_missing (h : session.Coherent) {accountId : String}
    (hnone : latest? (released? accountId) session.answered = none)
    (result : Result CredentialMaterial) :
    (session.bridge.cachedCredential accountId result).errorCode ≠ .kSuccess ∧
      (session.bridge.cachedCredential accountId result).data = result.data := by
  apply fromCache_missing
  exact (h accountId).trans (by rw [hnone, Option.map_none])

/-- A call returns the latest release of its account, its own answer included. -/
theorem Coherent.getCredential_released (h : session.Coherent) {request : GetCredentialRequest}
    {answer : Answer GetCredentialResponse} {response : GetCredentialResponse}
    (hreleased :
      latest? (released? request.accountId) (session.heard request answer) = some response) :
    (session.bridge.getCredential request answer).1 = .ok response.converted := by
  rw [heard] at hreleased
  cases hup : session.bridge.client.isInitialized with
  | false =>
      rw [hup, if_neg Bool.false_ne_true] at hreleased
      rw [GrpcAccountBridge.getCredential_down request hup]
      exact h.cachedCredential_found hreleased {}
  | true =>
      rw [hup, if_pos rfl] at hreleased
      cases answer with
      | ok own =>
          have hown : released? request.accountId (request, .ok own) = some own :=
            okUnder_self request own
          rw [latest?_concat_some hown] at hreleased
          rw [GrpcAccountBridge.getCredential_ok request hup, Option.some.inj hreleased]
      | error status =>
          rw [latest?_concat_none (okUnder_error _ request status)] at hreleased
          rw [GrpcAccountBridge.getCredential_failed request hup]
          exact h.cachedCredential_found hreleased _

/-- An account that was never released gets an error and no credential. -/
theorem Coherent.getCredential_unreleased (h : session.Coherent)
    {request : GetCredentialRequest} {answer : Answer GetCredentialResponse}
    (hnone : latest? (released? request.accountId) (session.heard request answer) = none) :
    (session.bridge.getCredential request answer).1.errorCode ≠ .kSuccess ∧
      (session.bridge.getCredential request answer).1.data = none := by
  rw [heard] at hnone
  cases hup : session.bridge.client.isInitialized with
  | false =>
      rw [hup, if_neg Bool.false_ne_true] at hnone
      rw [GrpcAccountBridge.getCredential_down request hup]
      exact h.cachedCredential_missing hnone {}
  | true =>
      rw [hup, if_pos rfl] at hnone
      cases answer with
      | ok own =>
          have hown : released? request.accountId (request, .ok own) = some own :=
            okUnder_self request own
          rw [latest?_concat_some hown] at hnone
          cases hnone
      | error status =>
          rw [latest?_concat_none (okUnder_error _ request status)] at hnone
          rw [GrpcAccountBridge.getCredential_failed request hup]
          exact h.cachedCredential_missing hnone _

end AccountSession

/-! ## Credentials of other engines -/

/-- A call that succeeds returns the latest credential released to its own engine. -/
def ServesOwnEngine (session : AccountSession) : AccountEvent → Prop
  | .init => True
  | .shutdown => True
  | .getCredential request answer =>
      let result := (session.bridge.getCredential request answer).1
      result.errorCode = .kSuccess →
        ∃ response, result.data = some response.converted ∧
          latest? (releasedTo? request) (session.heard request answer) = some response

/-- When the account of a call has been released at all, its latest release carries
the credential that was last released to the engine of the call. -/
def ReleasedAlike (session : AccountSession) : AccountEvent → Prop
  | .init => True
  | .shutdown => True
  | .getCredential request answer =>
      ∀ response,
        latest? (released? request.accountId) (session.heard request answer) = some response →
        ∃ own, latest? (releasedTo? request) (session.heard request answer) = some own ∧
          own.converted = response.converted

theorem AccountSession.Coherent.servesOwnEngine_iff {session : AccountSession}
    (h : session.Coherent) (event : AccountEvent) :
    ServesOwnEngine session event ↔ ReleasedAlike session event := by
  cases event with
  | init => exact Iff.rfl
  | shutdown => exact Iff.rfl
  | getCredential request answer =>
      constructor
      · intro hserves response hreleased
        have hresult := h.getCredential_released hreleased
        obtain ⟨own, hdata, hown⟩ := hserves (by rw [hresult, Result.ok_errorCode])
        rw [hresult, Result.ok_data] at hdata
        exact ⟨own, hown, (Option.some.inj hdata).symm⟩
      · intro halike hsuccess
        cases hreleased :
            latest? (released? request.accountId) (session.heard request answer) with
        | none => exact absurd hsuccess (h.getCredential_unreleased hreleased).1
        | some response =>
            obtain ⟨own, hown, hsame⟩ := halike response hreleased
            refine ⟨own, ?_, hown⟩
            rw [h.getCredential_released hreleased, Result.ok_data, hsame]

/-- In every session, all calls that succeed return what was last released to their own
engine exactly when no call finds its account last released, with another credential or
for the first time, to another engine. -/
theorem serves_own_engine_iff (serviceConfig : ServiceConfig) (events : List AccountEvent) :
    Runs.Along (Runs.total AccountSession.next) ServesOwnEngine (.start serviceConfig) events ↔
      Runs.Along (Runs.total AccountSession.next) ReleasedAlike (.start serviceConfig) events := by
  apply Runs.along_total_congr ?_ ?_ (accountCoherent_start serviceConfig) events
  · intro session event hcoherent _
    exact hcoherent.next event
  · intro session event hcoherent
    exact hcoherent.servesOwnEngine_iff event

/-- An engine that is refused the account right after another one got its credential. -/
theorem credential_crosses_engines :
    let config : ServiceConfig := ⟨true, "account", 50052⟩
    let events : List AccountEvent :=
      [.init, .getCredential ⟨"a", "e1"⟩ (.ok ⟨⟨"a", "broker", "tcp://emt", "secret"⟩⟩),
        .getCredential ⟨"a", "e2"⟩ (.error .unavailable)]
    ¬ Runs.Along (Runs.total AccountSession.next) ServesOwnEngine (.start config) events := by
  intro config events halong
  obtain ⟨-, -, hlast, -⟩ := by
    simpa only [events, Runs.along_total_cons] using halong
  obtain ⟨response, -, hlatest⟩ := hlast rfl
  cases hlatest

/-! ## Refusals -/

/-- The statuses by which the service refuses an account. -/
def isRefusal (status : StatusCode) : Bool :=
  status = .notFound || status = .permissionDenied || status = .unauthenticated

/-- The statuses of a service that was not reached. -/
def isTransportFailure (status : StatusCode) : Bool :=
  status = .unavailable || status = .deadlineExceeded

/-- What a definite answer says about an account: `true` for a refusal, `false` for a
release. -/
def refused? (accountId : String) (entry : GetCredentialRequest × Answer GetCredentialResponse) :
    Option Bool :=
  if entry.1.accountId = accountId then
    match entry.2 with
    | .ok _ => some false
    | .error status => if isRefusal status then some true else none
  else none

/-- The call comes after a refusal that no release has lifted, its own answer included,
or is itself answered with a status other than `OK` that is no transport failure. -/
def MustFail (session : AccountSession) (request : GetCredentialRequest)
    (answer : Answer GetCredentialResponse) : Prop :=
  latest? (refused? request.accountId) (session.heard request answer) = some true ∨
    (session.bridge.client.isInitialized = true ∧
      ∃ status, answer = .error status ∧ isTransportFailure status = false)

/-- A call that must fail returns an error and no credential. -/
def HonoursRefusals (session : AccountSession) : AccountEvent → Prop
  | .init => True
  | .shutdown => True
  | .getCredential request answer =>
      MustFail session request answer →
        let result := (session.bridge.getCredential request answer).1
        result.errorCode ≠ .kSuccess ∧ result.data = none

/-- A call that must fail is for an account that was never released. -/
def RefusedUnreleased (session : AccountSession) : AccountEvent → Prop
  | .init => True
  | .shutdown => True
  | .getCredential request answer =>
      MustFail session request answer →
        ∀ entry ∈ session.answered, released? request.accountId entry = none

/-- A call that must fail brings no release of its own. -/
theorem MustFail.nothing_released {session : AccountSession} {request : GetCredentialRequest}
    {answer : Answer GetCredentialResponse} (hmust : MustFail session request answer) :
    latest? (released? request.accountId) (session.heard request answer) =
      latest? (released? request.accountId) session.answered := by
  rw [MustFail, AccountSession.heard] at hmust
  rw [AccountSession.heard]
  cases hup : session.bridge.client.isInitialized with
  | false => rw [if_neg Bool.false_ne_true]
  | true =>
      rw [hup, if_pos rfl] at hmust
      rw [if_pos rfl]
      cases answer with
      | error status => exact latest?_concat_none (okUnder_error _ request status) _
      | ok response =>
          have hlifted : refused? request.accountId (request, .ok response) = some false :=
            if_pos rfl
          rcases hmust with hrefused | ⟨-, status, hstatus, -⟩
          · rw [latest?_concat_some hlifted] at hrefused
            cases hrefused
          · cases hstatus

theorem AccountSession.Coherent.honoursRefusals_iff {session : AccountSession}
    (h : session.Coherent) (event : AccountEvent) :
    HonoursRefusals session event ↔ RefusedUnreleased session event := by
  cases event with
  | init => exact Iff.rfl
  | shutdown => exact Iff.rfl
  | getCredential request answer =>
      refine forall_congr' fun hmust => ?_
      rw [← latest?_eq_none_iff, ← hmust.nothing_released]
      constructor
      · rintro ⟨hfails, -⟩
        cases hreleased :
            latest? (released? request.accountId) (session.heard request answer) with
        | none => rfl
        | some response =>
            rw [h.getCredential_released hreleased] at hfails
            exact absurd rfl hfails
      · exact h.getCredential_unreleased

/-- In every session, refusals are honoured exactly when no account that has been
released is refused, or asked for with a status that is no transport failure. -/
theorem honours_refusals_iff (serviceConfig : ServiceConfig) (events : List AccountEvent) :
    Runs.Along (Runs.total AccountSession.next) HonoursRefusals (.start serviceConfig) events ↔
      Runs.Along (Runs.total AccountSession.next) RefusedUnreleased (.start serviceConfig)
        events := by
  apply Runs.along_total_congr ?_ ?_ (accountCoherent_start serviceConfig) events
  · intro session event hcoherent _
    exact hcoherent.next event
  · intro session event hcoherent
    exact hcoherent.honoursRefusals_iff event

/-- An account whose credential is released and then refused. -/
theorem refused_credential_served :
    let config : ServiceConfig := ⟨true, "account", 50052⟩
    let events : List AccountEvent :=
      [.init, .getCredential ⟨"a", "e"⟩ (.ok ⟨⟨"a", "broker", "tcp://emt", "secret"⟩⟩),
        .getCredential ⟨"a", "e"⟩ (.error .permissionDenied)]
    ¬ Runs.Along (Runs.total AccountSession.next) HonoursRefusals (.start config) events := by
  intro config events halong
  obtain ⟨-, -, hlast, -⟩ := by
    simpa only [events, Runs.along_total_cons] using halong
  exact (hlast (.inl rfl)).1 rfl

end QtradeClient.Bridge
