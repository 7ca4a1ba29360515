import QtradeClient.Boot.Adapters

/-!
# Which adapters are built, and what a failure leaves behind

The selection of a pair is set apart from connecting it.  A pair is selected by the
parameters, the bridge and the credential in the bridge's answer; what a call that
does not hand the pair over has connected is disconnected again.
-/

namespace QtradeClient.Boot

open Bridge Client

/-! ## What the creation of EMT adapters reports -/

section Creation

variable {getCredential : String → String → Result CredentialMaterial}
  {engineId accountId quoteConnectionString : String}

/-- What a caller that passes `out_error` relies on. -/
structure Reported (getCredential : String → String → Result CredentialMaterial)
    (engineId accountId quoteConnectionString : String) (creation : EmtCreation) : Prop where
  created : creation.bundle.isSome ↔
    (accountId ≠ "" ∧ quoteConnectionString ≠ "") ∧
      ∃ credential, Usable accountId (getCredential accountId engineId) credential
  error : creation.outError = .kSuccess ↔ creation.bundle.isSome
  requests : ∀ created, creation.bundle = some created →
    ∃ credential, (getCredential accountId engineId).data = some credential ∧
      created.quoteRequest.user = credential.accountId ∧
      created.quoteRequest.password = credential.password ∧
      created.traderRequest.accountId = credential.accountId ∧
      created.traderRequest.password = credential.password

theorem createEmtAdapters_isSome_iff :
    (createEmtAdapters getCredential engineId accountId
        quoteConnectionString).bundle.isSome ↔
      (accountId ≠ "" ∧ quoteConnectionString ≠ "") ∧
        ∃ credential, Usable accountId (getCredential accountId engineId) credential := by
  rw [Option.isSome_iff_exists]
  constructor
  · rintro ⟨created, hbundle⟩
    obtain ⟨hargs, credential, husable, -⟩ := createEmtAdapters_bundle_iff.mp hbundle
    exact ⟨hargs, credential, husable⟩
  · rintro ⟨hargs, credential, husable⟩
    exact ⟨_, createEmtAdapters_bundle_iff.mpr ⟨hargs, credential, husable, rfl⟩⟩

theorem createEmtAdapters_requests {created : CreatedAdapters}
    (hbundle : (createEmtAdapters getCredential engineId accountId
      quoteConnectionString).bundle = some created) :
    ∃ credential, (getCredential accountId engineId).data = some credential ∧
      created.quoteRequest.user = credential.accountId ∧
      created.quoteRequest.password = credential.password ∧
      created.traderRequest.accountId = credential.accountId ∧
      created.traderRequest.password = credential.password := by
  obtain ⟨-, credential, husable, rfl⟩ := createEmtAdapters_bundle_iff.mp hbundle
  exact ⟨credential, husable.data, rfl, rfl, rfl, rfl⟩

/-- A success without a credential: the bridge's code is handed on, although nothing was
created. -/
theorem createEmtAdapters_hollow (hargs : accountId ≠ "" ∧ quoteConnectionString ≠ "")
    (hcode : (getCredential accountId engineId).errorCode = .kSuccess)
    (hdata : (getCredential accountId engineId).data = none) :
    (createEmtAdapters getCredential engineId accountId quoteConnectionString).outError =
        .kSuccess ∧
      (createEmtAdapters getCredential engineId accountId quoteConnectionString).bundle =
        none := by
  obtain ⟨herror, hbundle⟩ := createEmtAdapters_unanswered hargs (.inr hdata)
  exact ⟨herror.trans hcode, hbundle⟩

/-- Every other failure has an error. -/
theorem createEmtAdapters_outError
    (hdata : accountId ≠ "" → quoteConnectionString ≠ "" →
      (getCredential accountId engineId).errorCode = .kSuccess →
      (getCredential accountId engineId).data ≠ none) :
    (createEmtAdapters getCredential engineId accountId quoteConnectionString).outError =
        .kSuccess ↔
      (createEmtAdapters getCredential engineId accountId
        quoteConnectionString).bundle.isSome := by
  by_cases hempty : accountId = "" ∨ quoteConnectionString = ""
  · rw [createEmtAdapters_unasked hempty]
    simp
  · have hargs := not_or.mp hempty
    by_cases hcode : (getCredential accountId engineId).errorCode = .kSuccess
    · obtain ⟨credential, hsome⟩ :=
        Option.ne_none_iff_exists'.mp (hdata hargs.1 hargs.2 hcode)
      by_cases husable : Usable accountId (getCredential accountId engineId) credential
      · rw [createEmtAdapters_usable hargs husable]
        simp
      · obtain ⟨herror, hbundle⟩ := createEmtAdapters_unusable hargs hcode hsome husable
        rw [herror, hbundle]
        simp
    · obtain ⟨herror, hbundle⟩ := createEmtAdapters_unanswered hargs (.inl hcode)
      rw [herror, hbundle]
      simp [hcode]

end Creation

/-- The creation of EMT adapters keeps to its contract unless it gets as far as asking
and the bridge answers with a success that has no credential. -/
theorem emtCreation_reported_iff (getCredential : String → String → Result CredentialMaterial)
    (engineId accountId quoteConnectionString : String) :
    Reported getCredential engineId accountId quoteConnectionString
        (createEmtAdapters getCredential engineId accountId quoteConnectionString) ↔
      ¬(accountId ≠ "" ∧ quoteConnectionString ≠ "" ∧
        (getCredential accountId engineId).errorCode = .kSuccess ∧
        (getCredential accountId engineId).data = none) := by
  constructor
  · rintro hreported ⟨haccount, hquote, hcode, hdata⟩
    obtain ⟨herror, hbundle⟩ := createEmtAdapters_hollow ⟨haccount, hquote⟩ hcode hdata
    have hsome := hreported.error.mp herror
    rw [hbundle] at hsome
    cases hsome
  · intro hfilled
    constructor
    · exact createEmtAdapters_isSome_iff
    · apply createEmtAdapters_outError
      intro haccount hquote hcode hdata
      exact hfilled ⟨haccount, hquote, hcode, hdata⟩
    · intro created hbundle
      exact createEmtAdapters_requests hbundle

/-- A default-constructed result: a success without data. -/
theorem emtCreation_hollow_success :
    let getCredential : String → String → Result CredentialMaterial := fun _ _ => {}
    let creation := createEmtAdapters getCredential "engine1" "acc1" "tcp://quote:1"
    creation.bundle = none ∧ creation.outError = .kSuccess ∧
      ¬Reported getCredential "engine1" "acc1" "tcp://quote:1" creation := by
  intro getCredential creation
  have hbundle : creation.bundle = none := rfl
  have herror : creation.outError = .kSuccess := rfl
  refine ⟨hbundle, herror, fun hreported => ?_⟩
  have hsome := hreported.error.mp herror
  rw [hbundle] at hsome
  cases hsome

/-! ## What is connected, and what of it is left -/

inductive Side where
  | quote
  | trader
  deriving DecidableEq

/-- The adapter that an act has connected with success. -/
def Act.connected : Act → Option (Side × AdapterKind)
  | .connectQuote kind _ .kSuccess => some (.quote, kind)
  | .connectTrader kind _ .kSuccess => some (.trader, kind)
  | _ => none

/-- `BuildAdapters` never disconnects a trader adapter. -/
def Act.disconnected : Act → Option (Side × AdapterKind)
  | .disconnectQuote kind => some (.quote, kind)
  | _ => none

/-- Every adapter that has been connected is disconnected later. -/
def Released : List Act → Prop
  | [] => True
  | act :: rest =>
      (∀ adapter, act.connected = some adapter →
        ∃ later ∈ rest, later.disconnected = some adapter) ∧ Released rest

theorem released_append {before after : List Act} (hbefore : ∀ act ∈ before, act.connected = none)
    (hafter : Released after) : Released (before ++ after) := by
  induction before with
  | nil => exact hafter
  | cons act rest ih =>
      obtain ⟨hact, hrest⟩ := List.forall_mem_cons.mp hbefore
      refine ⟨fun adapter hconnected => ?_, ih hrest⟩
      rw [hact] at hconnected
      cases hconnected

theorem connectQuote_failed {kind : AdapterKind} {request : QuoteConnectRequest}
    {code : ErrorCode} (hcode : code ≠ .kSuccess) :
    (Act.connectQuote kind request code).connected = none := by
  cases code <;> simp_all [Act.connected]

/-- The venue answers both calls of `Connect` with success. -/
def Venue.Accepts (venue : Venue) (created : CreatedAdapters) : Prop :=
  venue.connectQuote created.kind created.quoteRequest = .kSuccess ∧
    venue.connectTrader created.kind created.traderRequest = .kSuccess

section Connecting

variable {venue : Venue} {created : CreatedAdapters} {out : AdapterBundle}

theorem connectAndTake_accepted (haccepts : venue.Accepts created) :
    connectAndTake venue out created =
      ⟨connectedActs created, true, ⟨some created.kind, some created.kind⟩⟩ := by
  simp [connectAndTake, connectedActs, haccepts.1, haccepts.2]

theorem connectAndTake_refused (out : AdapterBundle) (hrefused : ¬venue.Accepts created) :
    (connectAndTake venue out created).returned = false ∧
      (connectAndTake venue out created).out = out ∧
      Released (connectAndTake venue out created).acts := by
  unfold connectAndTake
  by_cases hquote : venue.connectQuote created.kind created.quoteRequest = .kSuccess
  · have htrader : venue.connectTrader created.kind created.traderRequest ≠ .kSuccess :=
      fun htrader => hrefused ⟨hquote, htrader⟩
    simp [hquote, htrader, Released, Act.connected, Act.disconnected]
  · simp [hquote, Released, connectQuote_failed hquote]

end Connecting

section Building

variable {venue : Venue} {bootstrap : QtradeEngineBootstrapConfig}
  {adapterParams : Option AdapterLaunchParams}
  {accountBridge : Option (String → String → Result CredentialMaterial)} {out : AdapterBundle}

theorem buildAdapters_taken {created : CreatedAdapters}
    (hselects : Selects bootstrap.config.identity adapterParams accountBridge created)
    (haccepts : venue.Accepts created) :
    buildAdapters venue bootstrap adapterParams accountBridge out =
      ⟨(selectAdapters bootstrap.config.identity adapterParams accountBridge).1 ++
        connectedActs created, true, ⟨some created.kind, some created.kind⟩⟩ := by
  have hselected := selectAdapters_iff.mpr hselects
  rw [buildAdapters_eq]
  cases hpair : selectAdapters bootstrap.config.identity adapterParams accountBridge with
  | mk asked selected =>
      rw [hpair] at hselected
      cases hselected
      simp only [connectAndTake_accepted haccepts]

theorem buildAdapters_refused
    (hrefused : ∀ created, Selects bootstrap.config.identity adapterParams accountBridge created →
      ¬venue.Accepts created) :
    (buildAdapters venue bootstrap adapterParams accountBridge out).returned = false ∧
      (buildAdapters venue bootstrap adapterParams accountBridge out).out = out ∧
      Released (buildAdapters venue bootstrap adapterParams accountBridge out).acts := by
  have hquestions : ∀ act ∈
      (selectAdapters bootstrap.config.identity adapterParams accountBridge).1,
      act.connected = none := by
    intro act hact
    obtain ⟨_, rfl⟩ := selectAdapters_asked hact
    rfl
  rw [buildAdapters_eq]
  cases hpair : selectAdapters bootstrap.config.identity adapterParams accountBridge with
  | mk asked selected =>
      rw [hpair] at hquestions
      cases selected with
      | none =>
          refine ⟨rfl, rfl, ?_⟩
          rw [← List.append_nil asked]
          exact released_append hquestions trivial
      | some created =>
          have hselects : Selects bootstrap.config.identity adapterParams accountBridge created :=
            selectAdapters_iff.mp (by rw [hpair])
          obtain ⟨hreturned, hout, hreleased⟩ :=
            connectAndTake_refused out (hrefused created hselects)
          exact ⟨hreturned, hout, released_append hquestions hreleased⟩

end Building

end QtradeClient.Boot
