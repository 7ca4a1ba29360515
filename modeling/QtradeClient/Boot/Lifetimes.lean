import Mathlib.Logic.Function.Basic
import QtradeClient.Boot.Process

/-!
# Who is alive when

A protocol over the deeds of the process: an engine is used only while it exists and is
started once, on bridges that are up and on adapters that are connected; a bridge is shut
down or destroyed only while the engine does not run; and either an error is reported or
the process says that it is ready, never both.  Every process keeps to it, whatever the
services, the venues and the engine answer, and leaves nothing behind.
-/

namespace QtradeClient.Boot

open Bridge Client Library

/-! ## The protocol -/

inductive EnginePhase where
  | absent
  | created
  | initialized
  | running
  | stopped
  | destroyed
  deriving DecidableEq

/-- A bridge whose `Init` has failed is `unusable`. -/
inductive BridgePhase where
  | absent
  | unusable
  | up
  | down
  | destroyed
  deriving DecidableEq

/-- The bridge exists. -/
def BridgePhase.isAlive : BridgePhase → Bool
  | .absent => false
  | .destroyed => false
  | _ => true

structure Lifetimes where
  engine : EnginePhase
  bridge : SupportService → BridgePhase
  injected : SupportService → Bool
  quote : Option AdapterKind
  trader : Option AdapterKind
  quoteHanded : Bool
  traderHanded : Bool
  reported : Bool
  ready : Bool

namespace Lifetimes

/-- Before the process does anything. -/
def unborn : Lifetimes :=
  ⟨.absent, fun _ => .absent, fun _ => false, none, none, false, false, false, false⟩

def setBridge (lifetimes : Lifetimes) (service : SupportService) (phase : BridgePhase) :
    Lifetimes :=
  { lifetimes with bridge := Function.update lifetimes.bridge service phase }

def inject (lifetimes : Lifetimes) (service : SupportService) : Lifetimes :=
  { lifetimes with injected := Function.update lifetimes.injected service true }

variable (lifetimes : Lifetimes) {service other : SupportService}

@[simp] theorem setBridge_self (phase : BridgePhase) :
    (lifetimes.setBridge service phase).bridge service = phase := Function.update_self _ _ _

theorem setBridge_of_ne (hother : other ≠ service) (phase : BridgePhase) :
    (lifetimes.setBridge service phase).bridge other = lifetimes.bridge other :=
  Function.update_of_ne hother _ _

theorem inject_of_ne (hother : other ≠ service) :
    (lifetimes.inject service).injected other = lifetimes.injected other :=
  Function.update_of_ne hother _ _

end Lifetimes

def SupportService.all : List SupportService := [.config, .account, .accountRisk]

/-- The engine is given bridges that are up, connected adapters, a configuration and only
then strategies; the account bridge is asked while it is up. -/
def actStep (lifetimes : Lifetimes) : Act → Option Lifetimes
  | .setAccountBridge =>
      if lifetimes.engine = .created ∧ lifetimes.bridge .account = .up then
        some (lifetimes.inject .account)
      else none
  | .setAccountRiskBridge =>
      if lifetimes.engine = .created ∧ lifetimes.bridge .accountRisk = .up then
        some (lifetimes.inject .accountRisk)
      else none
  | .getCredential _ _ _ => if lifetimes.bridge .account = .up then some lifetimes else none
  | .connectQuote kind _ code =>
      if lifetimes.quote = none then
        some (if code = .kSuccess then { lifetimes with quote := some kind } else lifetimes)
      else none
  | .connectTrader kind _ code =>
      if lifetimes.quote = some kind ∧ lifetimes.trader = none then
        some (if code = .kSuccess then { lifetimes with trader := some kind } else lifetimes)
      else none
  | .disconnectQuote kind =>
      if lifetimes.quote = some kind ∧ lifetimes.trader = none then
        some { lifetimes with quote := none }
      else none
  | .setQuoteApi quoteApi =>
      if lifetimes.engine = .created ∧ quoteApi.isSome ∧ quoteApi = lifetimes.quote then
        some { lifetimes with quoteHanded := true }
      else none
  | .setTraderApi traderApi =>
      if lifetimes.engine = .created ∧ traderApi.isSome ∧ traderApi = lifetimes.trader then
        some { lifetimes with traderHanded := true }
      else none
  | .initEngine _ code =>
      if lifetimes.engine = .created ∧ lifetimes.quoteHanded ∧ lifetimes.traderHanded then
        some (if code = .kSuccess then { lifetimes with engine := .initialized } else lifetimes)
      else none
  | .addStrategy _ _ _ => if lifetimes.engine = .initialized then some lifetimes else none

/-- An error is reported at most once, and not by a process that is ready. -/
def report (lifetimes : Lifetimes) : Option Lifetimes :=
  if lifetimes.reported = false ∧ lifetimes.ready = false then
    some { lifetimes with reported := true }
  else none

def deedStep (lifetimes : Lifetimes) : Deed → Option Lifetimes
  | .reportOptions _ => report lifetimes
  | .notifyError _ => report lifetimes
  | .createEngine =>
      if lifetimes.engine = .absent then some { lifetimes with engine := .created } else none
  | .createBridge service code =>
      if lifetimes.engine = .created ∧ lifetimes.bridge service = .absent then
        some (lifetimes.setBridge service (if code = .kSuccess then .up else .unusable))
      else none
  | .perform act => actStep lifetimes act
  | .startEngine code =>
      if lifetimes.engine = .initialized ∧ ∀ service ∈ SupportService.all,
          lifetimes.injected service → lifetimes.bridge service = .up then
        some (if code = .kSuccess then { lifetimes with engine := .running } else lifetimes)
      else none
  | .notifyReady _ =>
      if lifetimes.engine = .running ∧ lifetimes.reported = false ∧ lifetimes.ready = false then
        some { lifetimes with ready := true }
      else none
  | .stopEngine =>
      if lifetimes.engine = .running then some { lifetimes with engine := .stopped } else none
  | .shutdownBridge service =>
      if lifetimes.engine ≠ .running ∧ lifetimes.bridge service = .up then
        some (lifetimes.setBridge service .down)
      else none
  | .logStopped _ =>
      if lifetimes.engine = .stopped ∧
          ∀ service ∈ SupportService.all, lifetimes.bridge service ≠ .up then
        some lifetimes
      else none
  | .destroyBridge service =>
      if lifetimes.engine ≠ .running ∧ (lifetimes.bridge service).isAlive then
        some (lifetimes.setBridge service .destroyed)
      else none
  | .destroyEngine =>
      if lifetimes.engine ≠ .absent ∧ lifetimes.engine ≠ .running ∧
          lifetimes.engine ≠ .destroyed ∧
          ∀ service ∈ SupportService.all, (lifetimes.bridge service).isAlive = false then
        some { lifetimes with engine := .destroyed }
      else none

/-! ## What holds in between -/

/-- The engine stands in this phase on bridges that are up, and nothing has been said. -/
structure Standing (phase : EnginePhase) (lifetimes : Lifetimes) : Prop where
  engine : lifetimes.engine = phase
  bridges : ∀ service, lifetimes.bridge service = .absent ∨ lifetimes.bridge service = .up
  injected : ∀ service, lifetimes.injected service = true → lifetimes.bridge service = .up
  reported : lifetimes.reported = false
  ready : lifetimes.ready = false

/-- The engine has not been started, no bridge has gone, and nothing has been said. -/
structure Failing (lifetimes : Lifetimes) : Prop where
  engine : lifetimes.engine = .absent ∨ lifetimes.engine = .created ∨
    lifetimes.engine = .initialized
  bridges : ∀ service, lifetimes.bridge service = .absent ∨
    lifetimes.bridge service = .unusable ∨ lifetimes.bridge service = .up
  reported : lifetimes.reported = false
  ready : lifetimes.ready = false

/-- The engine stands, and besides one bridge nothing has changed. -/
structure Opens (service : SupportService) (before after : Lifetimes) : Prop where
  standing : Standing .created after
  others : ∀ other, other ≠ service → after.bridge other = before.bridge other
  quote : after.quote = before.quote
  trader : after.trader = before.trader

section Stages

variable {blank : Blank} {world : World} {bootstrap : QtradeEngineBootstrapConfig}
  {before after : Lifetimes} {service : SupportService}

theorem Standing.failing {phase : EnginePhase} (h : Standing phase before)
    (hphase : phase = .created ∨ phase = .initialized) : Failing before where
  engine := by
    rw [h.engine]
    exact .inr hphase
  bridges service := (h.bridges service).imp_right .inr
  reported := h.reported
  ready := h.ready

/-- A bridge that is up may be put into a free place, and injected there. -/
theorem Standing.setBridge (h : Standing .created before) (service : SupportService) :
    Opens service before (before.setBridge service .up) where
  standing :=
    { engine := h.engine
      bridges := by
        intro other
        by_cases hother : other = service
        · rw [hother, Lifetimes.setBridge_self]
          exact .inr rfl
        · rw [Lifetimes.setBridge_of_ne before hother]
          exact h.bridges other
      injected := by
        intro other hinjected
        by_cases hother : other = service
        · rw [hother, Lifetimes.setBridge_self]
        · rw [Lifetimes.setBridge_of_ne before hother]
          exact h.injected other hinjected
      reported := h.reported
      ready := h.ready }
  others _ hother := before.setBridge_of_ne hother .up
  quote := rfl
  trader := rfl

theorem Standing.unusable (h : Standing .created before) (service : SupportService) :
    Failing (before.setBridge service .unusable) where
  engine := .inr (.inl h.engine)
  bridges other := by
    by_cases hother : other = service
    · rw [hother, Lifetimes.setBridge_self]
      exact .inr (.inl rfl)
    · rw [Lifetimes.setBridge_of_ne before hother]
      exact (h.bridges other).imp_right .inr
  reported := h.reported
  ready := h.ready

theorem Opens.inject (h : Opens service before after) (hup : after.bridge service = .up) :
    Opens service before (after.inject service) where
  standing :=
    { engine := h.standing.engine
      bridges := h.standing.bridges
      injected := by
        intro other hinjected
        by_cases hother : other = service
        · rw [hother]
          exact hup
        · rw [Lifetimes.inject_of_ne after hother] at hinjected
          exact h.standing.injected other hinjected
      reported := h.standing.reported
      ready := h.standing.ready }
  others := h.others
  quote := h.quote
  trader := h.trader

theorem Standing.opens (h : Standing .created before) (service : SupportService) :
    Opens service before before :=
  ⟨h, fun _ _ => rfl, rfl, rfl⟩

/-! ## The stages -/

open Traced

/-- The bridge of an enabled service is up or unusable, as its `Init` says. -/
theorem openBridge_keeps (h : Standing .created before) (habsent : before.bridge service = .absent)
    (enabled : Bool) (code : ErrorCode) {failed : String → Lifetimes → Prop} :
    Keeps deedStep before (openBridge service enabled code)
      (fun _ after =>
        (enabled = false ∧ after = before) ∨
        (enabled = true ∧ code = .kSuccess ∧ after = before.setBridge service .up) ∨
        (enabled = true ∧ code ≠ .kSuccess ∧ after = before.setBridge service .unusable))
      failed := by
  cases enabled with
  | false => exact keeps_tell rfl (.inl ⟨rfl, rfl⟩)
  | true =>
      have hcreate : Runs.exec deedStep before [.createBridge service code] =
          some (before.setBridge service (if code = .kSuccess then .up else .unusable)) := by
        rw [Runs.exec_singleton]
        exact if_pos ⟨h.engine, habsent⟩
      refine keeps_tell hcreate ?_
      by_cases hcode : code = .kSuccess
      · rw [if_pos hcode]
        exact .inr (.inl ⟨rfl, hcode, rfl⟩)
      · rw [if_neg hcode]
        exact .inr (.inr ⟨rfl, hcode, rfl⟩)

/-- Fetching the configuration performs nothing, and fails if the bridge does. -/
theorem fetchConfig_quiet :
    (fetchConfig blank world bootstrap).acts = [] ∧
      (bootstrap.supportServices.configService.enabled = true →
        ((GrpcConfigBridge.create blank bootstrap.supportServices.configService
          bootstrap.config.identity.engineId).init blank world.configAnswer).1 ≠ .kSuccess →
        (fetchConfig blank world bootstrap).outcome = .error "Failed to init config bridge") := by
  unfold fetchConfig
  by_cases henabled : bootstrap.supportServices.configService.enabled = true
  · constructor
    · simp only [henabled, if_true]
      repeat' split
      all_goals rfl
    · intro _ hcode
      simp only [henabled, if_true, if_pos hcode]
      rfl
  · exact ⟨by rw [if_neg henabled]; rfl, fun hfetch => absurd hfetch henabled⟩

theorem openConfig_keeps (h : Standing .created before)
    (habsent : before.bridge .config = .absent) :
    Keeps deedStep before (openConfig blank world bootstrap)
      (fun _ after => Opens .config before after) (fun _ => Failing) := by
  refine Keeps.bind (openBridge_keeps h habsent _ _) ?_
  rintro - between hbetween
  obtain ⟨hacts, hrefused⟩ := @fetchConfig_quiet blank world bootstrap
  apply keeps_mapActs
  refine ⟨between, by rw [hacts]; rfl, ?_⟩
  rcases hbetween with ⟨-, rfl⟩ | ⟨-, -, rfl⟩ | ⟨henabled, hcode, rfl⟩
  · cases (fetchConfig blank world bootstrap).outcome with
    | ok fetched => exact h.opens .config
    | error reason => exact h.failing (.inl rfl)
  · cases (fetchConfig blank world bootstrap).outcome with
    | ok fetched => exact h.setBridge .config
    | error reason => exact (h.setBridge .config).standing.failing (.inl rfl)
  · rw [hrefused henabled hcode]
    exact h.unusable .config

/-- The protocol of the deeds that are acts. -/
abbrev performStep (lifetimes : Lifetimes) (act : Act) : Option Lifetimes :=
  deedStep lifetimes (.perform act)

theorem performed_keeps {α : Type} {stage : Stage α} {post : α → Lifetimes → Prop}
    {failed : String → Lifetimes → Prop} (h : Keeps performStep before stage post failed) :
    Keeps deedStep before (stage.mapActs .perform) post failed := keeps_mapActs h

/-- Opening and injecting a bridge behind the switch of its service. -/
theorem inject_keeps {α : Type} (h : Standing .created before)
    (habsent : before.bridge service = .absent) {enabled : Bool} {code : ErrorCode}
    {reason : String} {act : Act} {injected skipped : α}
    (hact : ∀ lifetimes, lifetimes.engine = .created → lifetimes.bridge service = .up →
      actStep lifetimes act = some (lifetimes.inject service)) :
    Keeps deedStep before
      (openBridge service enabled code >>= fun _ =>
        mapActs .perform (if enabled then (do
          attempt [] (code = .kSuccess) reason
          tell [act]
          return injected) else return skipped : Stage α))
      (fun value after => Opens service before after ∧
        (value = injected ∧ after.bridge service = .up ∨ value = skipped))
      (fun _ => Failing) := by
  refine Keeps.bind (openBridge_keeps h habsent enabled code) ?_
  rintro - between hbetween
  apply performed_keeps
  rcases hbetween with ⟨rfl, rfl⟩ | ⟨rfl, rfl, rfl⟩ | ⟨rfl, hcode, rfl⟩
  · exact keeps_pure ⟨h.opens service, .inr rfl⟩
  · have hup : (before.setBridge service .up).bridge service = .up := before.setBridge_self .up
    have hpassed : Keeps performStep (before.setBridge service .up)
        (attempt [] (ErrorCode.kSuccess = .kSuccess) reason : Stage Unit)
        (fun _ after => after = before.setBridge service .up) (fun _ => Failing) :=
      keeps_attempt rfl (fun _ => rfl) fun hfailed => absurd rfl (of_decide_eq_false hfailed)
    have hinject : Runs.exec performStep (before.setBridge service .up) [act] =
        some ((before.setBridge service .up).inject service) := by
      rw [Runs.exec_singleton]
      exact hact _ h.engine hup
    have htold : Keeps performStep (before.setBridge service .up) (tell [act] : Stage Unit)
        (fun _ after => after = (before.setBridge service .up).inject service)
        (fun _ => Failing) := keeps_tell hinject rfl
    rw [if_pos rfl]
    refine hpassed.bind ?_
    rintro - _ rfl
    refine htold.bind ?_
    rintro - _ rfl
    exact keeps_pure ⟨(h.setBridge service).inject hup, .inl ⟨rfl, hup⟩⟩
  · have hrefused : Keeps performStep (before.setBridge service .unusable)
        (attempt [] (code = .kSuccess) reason : Stage Unit) (fun _ _ => False)
        (fun _ => Failing) :=
      keeps_attempt rfl (fun hpassed => hcode (of_decide_eq_true hpassed))
        fun _ => h.unusable service
    rw [if_pos rfl]
    exact hrefused.bind fun _ _ hnever => hnever.elim

theorem openAccount_keeps (h : Standing .created before)
    (habsent : before.bridge .account = .absent) :
    Keeps deedStep before (openAccount world bootstrap)
      (fun bridge after => Opens .account before after ∧
        (bridge.isSome = true → after.bridge .account = .up))
      (fun _ => Failing) := by
  let done := (GrpcAccountBridge.create bootstrap.supportServices.accountService).init
  have hkeeps : Keeps deedStep before (openAccount world bootstrap)
      (fun bridge after => Opens .account before after ∧
        (bridge = some (usedByEngine world done.2) ∧ after.bridge .account = .up ∨
          bridge = none))
      (fun _ => Failing) :=
    inject_keeps h habsent fun lifetimes hengine hup => if_pos ⟨hengine, hup⟩
  apply hkeeps.imp
  rintro bridge after ⟨hopens, ⟨-, hup⟩ | rfl⟩
  · exact ⟨hopens, fun _ => hup⟩
  · exact ⟨hopens, nofun⟩

theorem openAccountRisk_keeps (h : Standing .created before)
    (habsent : before.bridge .accountRisk = .absent) :
    Keeps deedStep before (openAccountRisk bootstrap)
      (fun _ after => Opens .accountRisk before after) (fun _ => Failing) := by
  have hkeeps : Keeps deedStep before (openAccountRisk bootstrap)
      (fun value after => Opens .accountRisk before after ∧
        (value = () ∧ after.bridge .accountRisk = .up ∨ value = ()))
      (fun _ => Failing) :=
    inject_keeps h habsent fun lifetimes hengine hup => if_pos ⟨hengine, hup⟩
  exact hkeeps.imp fun _ _ hopens => hopens.1

/-- Connecting a pair leaves both connected or neither. -/
theorem connect_keeps (h : Standing .created before) (hquote : before.quote = none)
    (htrader : before.trader = none) (venue : Venue) (out : AdapterBundle)
    (created : CreatedAdapters) :
    ∃ after, Runs.exec performStep before (connectAndTake venue out created).acts = some after ∧
      ((connectAndTake venue out created).returned = true → Standing .created after ∧
        after.quote = some created.kind ∧ after.trader = some created.kind ∧
        (connectAndTake venue out created).out = ⟨some created.kind, some created.kind⟩) ∧
      ((connectAndTake venue out created).returned = false → Failing after) := by
  unfold connectAndTake
  by_cases hquoteCode : venue.connectQuote created.kind created.quoteRequest = .kSuccess
  · by_cases htraderCode : venue.connectTrader created.kind created.traderRequest = .kSuccess
    · refine ⟨{ before with quote := some created.kind, trader := some created.kind }, ?_, ?_, ?_⟩
      · simp [hquoteCode, htraderCode, Runs.exec, deedStep, actStep, hquote, htrader]
      · intro _
        refine ⟨⟨h.engine, h.bridges, h.injected, h.reported, h.ready⟩, rfl, rfl, ?_⟩
        simp [hquoteCode, htraderCode]
      · simp [hquoteCode, htraderCode]
    · refine ⟨{ before with quote := none }, ?_, ?_, fun _ => ?_⟩
      · simp [hquoteCode, htraderCode, Runs.exec, deedStep, actStep, hquote, htrader]
      · simp [hquoteCode, htraderCode]
      · exact ⟨.inr (.inl h.engine), fun service => (h.bridges service).imp_right .inr,
          h.reported, h.ready⟩
  · refine ⟨before, ?_, ?_, fun _ => h.failing (.inl rfl)⟩
    · simp [hquoteCode, Runs.exec, deedStep, actStep, hquote]
    · simp [hquoteCode]

/-- Only a bridge that is there is asked, and asking changes nothing. -/
theorem asked_keeps (identity : QtradeEngineIdentity)
    (adapterParams : Option AdapterLaunchParams)
    {accountBridge : Option (String → String → Result CredentialMaterial)}
    (hup : accountBridge.isSome = true → before.bridge .account = .up) :
    Runs.exec performStep before (selectAdapters identity adapterParams accountBridge).1 =
      some before := by
  apply Runs.exec_fixed
  intro act hact
  obtain ⟨result, rfl⟩ := selectAdapters_asked hact
  rcases selectAdapters_cases identity adapterParams accountBridge with ⟨_, -, -, hpair⟩ |
    ⟨_, getCredential, -, -, -, rfl, -⟩ | hpair
  · rw [hpair] at hact
    cases hact
  · exact if_pos (hup rfl)
  · rw [hpair] at hact
    cases hact

theorem buildAdapters_keeps (h : Standing .created before) (hquote : before.quote = none)
    (htrader : before.trader = none) (adapterParams : Option AdapterLaunchParams)
    {accountBridge : Option (String → String → Result CredentialMaterial)}
    (hup : accountBridge.isSome = true → before.bridge .account = .up) (venue : Venue)
    (out : AdapterBundle) :
    let built := buildAdapters venue bootstrap adapterParams accountBridge out
    ∃ after, Runs.exec performStep before built.acts = some after ∧
      (built.returned = true → Standing .created after ∧ ∃ kind,
        built.out = ⟨some kind, some kind⟩ ∧ after.quote = some kind ∧
          after.trader = some kind) ∧
      (built.returned = false → Failing after) := by
  intro built
  have hasked := asked_keeps bootstrap.config.identity adapterParams hup
  have hbuilt : built = _ := buildAdapters_eq
  cases hselected : selectAdapters bootstrap.config.identity adapterParams accountBridge with
  | mk asked selected =>
      rw [hselected] at hasked hbuilt
      cases selected with
      | none =>
          rw [hbuilt]
          exact ⟨before, hasked, nofun, fun _ => h.failing (.inl rfl)⟩
      | some created =>
          obtain ⟨after, hacts, hconnected, hrefused⟩ :=
            connect_keeps h hquote htrader venue out created
          rw [hbuilt]
          refine ⟨after, ?_, fun hreturned => ?_, hrefused⟩
          · rw [Runs.exec_append, hasked]
            exact hacts
          · obtain ⟨hstanding, hafterQuote, hafterTrader, hout⟩ := hconnected hreturned
            exact ⟨hstanding, created.kind, hout, hafterQuote, hafterTrader⟩

/-- The adapters that are taken are connected. -/
structure Holding (adapters : AdapterBundle) (lifetimes : Lifetimes) : Prop where
  standing : Standing .created lifetimes
  connected : ∃ kind, adapters = ⟨some kind, some kind⟩ ∧ lifetimes.quote = some kind ∧
    lifetimes.trader = some kind

theorem takeAdapters_keeps (h : Standing .created before) (hquote : before.quote = none)
    (htrader : before.trader = none) (adapterParams : Option AdapterLaunchParams)
    {accountBridge : Option GrpcAccountBridge}
    (hup : accountBridge.isSome = true → before.bridge .account = .up) :
    Keeps performStep before (takeAdapters world bootstrap adapterParams accountBridge)
      Holding (fun _ => Failing) := by
  let built := buildAdapters world.venue bootstrap adapterParams
    (accountBridge.map (askCredential world)) .empty
  have hasks : (accountBridge.map (askCredential world)).isSome = true →
      before.bridge .account = .up := by
    rw [Option.isSome_map]
    exact hup
  obtain ⟨after, hacts, hreturned, hrefused⟩ :=
    buildAdapters_keeps h hquote htrader adapterParams hasks world.venue .empty
  have hattempt : Keeps performStep before
      (attempt built.acts built.returned "Failed to build/connect quote/trader adapters" :
        Stage Unit)
      (fun _ => Holding built.out) (fun _ => Failing) :=
    keeps_attempt hacts (fun hdone => ⟨(hreturned hdone).1, (hreturned hdone).2⟩) hrefused
  exact hattempt.bind fun _ _ hholding => keeps_pure hholding

/-- The engine has been given connected adapters. -/
structure Handed (lifetimes : Lifetimes) : Prop where
  standing : Standing .created lifetimes
  quote : lifetimes.quoteHanded = true
  trader : lifetimes.traderHanded = true

theorem handOver_keeps {adapters : AdapterBundle} (h : Holding adapters before)
    {failed : String → Lifetimes → Prop} :
    Keeps performStep before (handOver adapters) (fun _ => Handed) failed := by
  obtain ⟨hstanding, kind, rfl, hquote, htrader⟩ := h
  have hacts : Runs.exec performStep before [.setQuoteApi (some kind), .setTraderApi (some kind)] =
      some { before with quoteHanded := true, traderHanded := true } := by
    simp [Runs.exec, deedStep, actStep, hstanding.engine, hquote, htrader]
  refine keeps_tell hacts ⟨?_, rfl, rfl⟩
  exact ⟨hstanding.engine, hstanding.bridges, hstanding.injected, hstanding.reported,
    hstanding.ready⟩

theorem initEngine_keeps (h : Handed before) (config : EngineConfig) :
    Keeps performStep before (initEngine world config) (fun _ => Standing .initialized)
      (fun _ => Failing) := by
  obtain ⟨hstanding, hquote, htrader⟩ := h
  by_cases hcode : world.engineInit config = .kSuccess
  · have hacts : Runs.exec performStep before [.initEngine config (world.engineInit config)] =
        some { before with engine := .initialized } := by
      simp [Runs.exec, deedStep, actStep, hstanding.engine, hquote, htrader, hcode]
    refine keeps_attempt hacts (fun _ => ?_) (fun hfailed => ?_)
    · exact ⟨rfl, hstanding.bridges, hstanding.injected, hstanding.reported, hstanding.ready⟩
    · exact absurd hcode (of_decide_eq_false hfailed)
  · have hacts : Runs.exec performStep before [.initEngine config (world.engineInit config)] =
        some before := by
      simp [Runs.exec, deedStep, actStep, hstanding.engine, hquote, htrader, hcode]
    refine keeps_attempt hacts (fun hpassed => ?_) (fun _ => ?_)
    · exact absurd (of_decide_eq_true hpassed) hcode
    · exact hstanding.failing (.inl rfl)

theorem addStrategies_only (pluginDir : String) {added strategies : List StrategyConfig} {act : Act}
    (hact : act ∈ (addStrategies world pluginDir added strategies).1) :
    ∃ config soPath code, act = .addStrategy config soPath code := by
  induction strategies generalizing added with
  | nil => cases hact
  | cons config rest ih =>
      rw [addStrategies] at hact
      simp only at hact
      split at hact
      · exact ⟨_, _, _, List.mem_singleton.mp hact⟩
      · rcases List.mem_cons.mp hact with hfirst | hrest
        · exact ⟨_, _, _, hfirst⟩
        · exact ih hrest

theorem loadStrategies_keeps (h : Standing .initialized before) (pluginDir : String)
    (strategies : List StrategyConfig) :
    Keeps performStep before (loadStrategies world pluginDir strategies)
      (fun _ => Standing .initialized) (fun _ => Failing) := by
  unfold loadStrategies
  split
  · exact keeps_fail (h.failing (.inr rfl))
  · have hacts : Runs.exec performStep before (addStrategies world pluginDir [] strategies).1 =
        some before := by
      apply Runs.exec_fixed
      intro act hact
      obtain ⟨config, soPath, code, rfl⟩ := addStrategies_only pluginDir hact
      exact if_pos h.engine
    exact keeps_attempt hacts (fun _ => h) fun _ => h.failing (.inr rfl)

/-- A start-up that succeeds has an initialised engine on bridges that are up. -/
theorem startUp_keeps :
    Keeps deedStep .unborn (startUp blank world bootstrap) (fun _ => Standing .initialized)
      (fun _ => Failing) := by
  have henvironment : Keeps deedStep .unborn
      (attempt [] world.environmentReady "Failed to initialize program environment")
      (fun _ after => after = .unborn) (fun _ => Failing) :=
    keeps_attempt rfl (fun _ => rfl) fun _ => ⟨.inl rfl, fun _ => .inl rfl, rfl, rfl⟩
  have hengine : Keeps deedStep .unborn (tell [.createEngine])
      (fun _ after => after = { Lifetimes.unborn with engine := .created })
      (fun _ : String => Failing) := keeps_tell rfl rfl
  have hcreated : Standing .created { Lifetimes.unborn with engine := .created } :=
    ⟨rfl, fun _ => .inl rfl, nofun, rfl, rfl⟩
  refine henvironment.bind ?_
  rintro - _ rfl
  refine hengine.bind ?_
  rintro - _ rfl
  refine (openConfig_keeps hcreated rfl).bind ?_
  intro fetched afterConfig hconfig
  refine (openAccount_keeps hconfig.standing (hconfig.others .account nofun)).bind ?_
  rintro accountBridge afterAccount ⟨haccount, hup⟩
  have habsent : afterAccount.bridge .accountRisk = .absent :=
    (haccount.others .accountRisk nofun).trans (hconfig.others .accountRisk nofun)
  refine (openAccountRisk_keeps haccount.standing habsent).bind ?_
  intro _ afterRisk hrisk
  have hquote : afterRisk.quote = none := hrisk.quote.trans (haccount.quote.trans hconfig.quote)
  have htrader : afterRisk.trader = none :=
    hrisk.trader.trans (haccount.trader.trans hconfig.trader)
  have hasked : accountBridge.isSome = true → afterRisk.bridge .account = .up := fun hsome =>
    (hrisk.others .account nofun).trans (hup hsome)
  refine (performed_keeps (takeAdapters_keeps hrisk.standing hquote htrader _ hasked)).bind ?_
  intro adapters afterTake hholding
  refine (performed_keeps (handOver_keeps hholding)).bind ?_
  intro _ afterHand hhanded
  refine (performed_keeps (initEngine_keeps hhanded _)).bind ?_
  intro _ afterInit hinitialized
  exact performed_keeps (loadStrategies_keeps hinitialized _ _)

end Stages

/-! ## What has been created -/

section Created

variable {before after : Lifetimes} {service : SupportService}

/-- Acts neither open bridges nor create the engine. -/
theorem actStep_keeps {act : Act} (hstep : actStep before act = some after) :
    after.bridge = before.bridge ∧ (after.engine = .absent ↔ before.engine = .absent) := by
  cases act <;> simp only [actStep] at hstep <;> split at hstep <;> cases hstep
  case initEngine config code hbefore =>
    split
    · simp [hbefore.1]
    · exact ⟨rfl, Iff.rfl⟩
  all_goals first
    | exact ⟨rfl, Iff.rfl⟩
    | (split <;> exact ⟨rfl, Iff.rfl⟩)

theorem setBridge_present (lifetimes : Lifetimes) {created : SupportService} {phase : BridgePhase}
    (hphase : phase ≠ .absent) (service : SupportService) :
    (lifetimes.setBridge created phase).bridge service ≠ .absent ↔
      lifetimes.bridge service ≠ .absent ∨ created = service := by
  by_cases hservice : service = created
  · rw [hservice, Lifetimes.setBridge_self]
    simp [hphase]
  · rw [lifetimes.setBridge_of_ne hservice]
    exact ⟨.inl, fun h => h.resolve_right fun hcreated => hservice hcreated.symm⟩

/-- A bridge that is there already is not created by a change of its phase. -/
theorem setBridge_changed {created : SupportService} {phase : BridgePhase}
    (hphase : phase ≠ .absent) (hbefore : before.bridge created ≠ .absent)
    (service : SupportService) :
    (before.setBridge created phase).bridge service ≠ .absent ↔
      before.bridge service ≠ .absent := by
  rw [setBridge_present before hphase]
  constructor
  · rintro (hpresent | rfl)
    · exact hpresent
    · exact hbefore
  · exact .inl

/-- Only the creation of a bridge brings it into being. -/
theorem deedStep_creates {deed : Deed} (hstep : deedStep before deed = some after)
    (service : SupportService) :
    after.bridge service ≠ .absent ↔
      before.bridge service ≠ .absent ∨ deed.creates service = true := by
  cases deed with
  | perform act =>
      rw [(actStep_keeps hstep).1]
      simp [Deed.creates]
  | createBridge created code =>
      simp only [deedStep] at hstep
      split at hstep <;> cases hstep
      rw [setBridge_present before (by split <;> decide)]
      simp [Deed.creates]
  | shutdownBridge changed =>
      simp only [deedStep] at hstep
      split at hstep <;> cases hstep
      rename_i hbefore
      rw [setBridge_changed (by decide) (by simp [hbefore.2])]
      simp [Deed.creates]
  | destroyBridge changed =>
      simp only [deedStep] at hstep
      split at hstep <;> cases hstep
      rename_i hbefore
      have hpresent : before.bridge changed ≠ .absent := by
        intro habsent
        rw [habsent] at hbefore
        cases hbefore.2
      rw [setBridge_changed (by decide) hpresent]
      simp [Deed.creates]
  | startEngine code =>
      simp only [deedStep] at hstep
      split at hstep <;> cases hstep
      split <;> simp [Deed.creates]
  | _ =>
      simp only [deedStep, report] at hstep
      split at hstep <;> cases hstep
      simp [Deed.creates]

theorem deedStep_createsEngine {deed : Deed} (hstep : deedStep before deed = some after) :
    after.engine ≠ .absent ↔ before.engine ≠ .absent ∨ deed.createsEngine = true := by
  cases deed with
  | perform act =>
      simp [Deed.createsEngine, (actStep_keeps hstep).2]
  | startEngine code =>
      simp only [deedStep] at hstep
      split at hstep <;> cases hstep
      rename_i hbefore
      split <;> simp [Deed.createsEngine, hbefore.1]
  | _ =>
      simp only [deedStep, report] at hstep
      split at hstep <;> cases hstep
      rename_i hbefore
      simp_all [Deed.createsEngine, Lifetimes.setBridge]

/-- What a run from the beginning has created is there. -/
theorem exec_creates {deeds : List Deed} (hrun : Runs.exec deedStep before deeds = some after)
    (service : SupportService) :
    (after.bridge service ≠ .absent ↔
      before.bridge service ≠ .absent ∨ deeds.any (Deed.creates service) = true) ∧
    (after.engine ≠ .absent ↔
      before.engine ≠ .absent ∨ deeds.any Deed.createsEngine = true) := by
  induction deeds generalizing before with
  | nil =>
      obtain rfl : before = after := Option.some.inj hrun
      simp
  | cons deed deeds ih =>
      obtain ⟨between, hstep, hrest⟩ := Runs.exec_cons_eq_some hrun
      obtain ⟨hbridge, hengine⟩ := ih hrest
      rw [hbridge, hengine, deedStep_creates hstep, deedStep_createsEngine hstep, List.any_cons,
        List.any_cons, Bool.or_eq_true, Bool.or_eq_true, or_assoc, or_assoc]
      exact ⟨Iff.rfl, Iff.rfl⟩

theorem mem_opened {deeds : List Deed} (hrun : Runs.exec deedStep .unborn deeds = some after)
    (service : SupportService) : service ∈ opened deeds ↔ after.bridge service ≠ .absent := by
  rw [(exec_creates hrun service).1, opened, List.mem_filter]
  cases service <;> simp [Lifetimes.unborn]

theorem opened_nodup (deeds : List Deed) : (opened deeds).Nodup :=
  List.Nodup.filter _ (by decide)

end Created

/-! ## The end of the process -/

namespace Lifetimes

/-- Several bridges in a new phase. -/
def setBridges (lifetimes : Lifetimes) (services : List SupportService) (phase : BridgePhase) :
    Lifetimes :=
  { lifetimes with
    bridge := fun service => if service ∈ services then phase else lifetimes.bridge service }

variable (lifetimes : Lifetimes) {phase : BridgePhase}

theorem setBridges_cons (service : SupportService) (services : List SupportService) :
    (lifetimes.setBridge service phase).setBridges services phase =
      lifetimes.setBridges (service :: services) phase := by
  have hbridge : ((lifetimes.setBridge service phase).setBridges services phase).bridge =
      (lifetimes.setBridges (service :: services) phase).bridge := by
    funext other
    by_cases hother : other = service
    · simp [setBridges, hother]
    · simp [setBridges, lifetimes.setBridge_of_ne hother, hother]
  exact congrArg (fun bridge => { lifetimes with bridge := bridge }) hbridge

end Lifetimes

section Leaving

variable {before after : Lifetimes}

/-- The same deed on several bridges, each of which allows it. -/
theorem exec_setBridges (allowed : BridgePhase → Prop) {deed : SupportService → Deed}
    {phase : BridgePhase}
    (hdeed : ∀ lifetimes service, lifetimes.engine ≠ .running →
      allowed (lifetimes.bridge service) →
        deedStep lifetimes (deed service) = some (lifetimes.setBridge service phase))
    {services : List SupportService} (hnodup : services.Nodup)
    (hengine : before.engine ≠ .running)
    (hallowed : ∀ service ∈ services, allowed (before.bridge service)) :
    Runs.exec deedStep before (services.map deed) = some (before.setBridges services phase) := by
  induction services generalizing before with
  | nil => rfl
  | cons service services ih =>
      obtain ⟨hnew, hrest⟩ := List.nodup_cons.mp hnodup
      obtain ⟨hfirst, hothers⟩ := List.forall_mem_cons.mp hallowed
      rw [List.map_cons, Runs.exec_cons_of_step (hdeed before service hengine hfirst),
        ← before.setBridges_cons]
      refine ih hrest hengine fun other hother => ?_
      have hne : other ≠ service := fun hsame => hnew (hsame ▸ hother)
      rw [before.setBridge_of_ne hne]
      exact hothers other hother

/-- The engine does not run, and no bridge has been destroyed. -/
structure Leaving (lifetimes : Lifetimes) : Prop where
  engine : lifetimes.engine ≠ .running ∧ lifetimes.engine ≠ .destroyed
  bridges : ∀ service, lifetimes.bridge service = .absent ∨
    (lifetimes.bridge service).isAlive = true

/-- Nothing is left. -/
structure Over (lifetimes : Lifetimes) : Prop where
  engine : lifetimes.engine = .absent ∨ lifetimes.engine = .destroyed
  bridges : ∀ service, (lifetimes.bridge service).isAlive = false

theorem Failing.leaving (h : Failing before) : Leaving before where
  engine := by rcases h.engine with hengine | hengine | hengine <;> simp [hengine]
  bridges service := by
    rcases h.bridges service with hbridge | hbridge | hbridge <;>
      simp [hbridge, BridgePhase.isAlive]

/-- The destructors leave nothing behind, and say nothing. -/
theorem leaveScope_keeps {deeds : List Deed}
    (hrun : Runs.exec deedStep .unborn deeds = some before) (h : Leaving before) :
    ∃ after, Runs.exec deedStep .unborn (deeds ++ leaveScope deeds) = some after ∧ Over after ∧
      after.reported = before.reported ∧ after.ready = before.ready := by
  have hdestroyed : Runs.exec deedStep before ((opened deeds).map .destroyBridge) =
      some (before.setBridges (opened deeds) .destroyed) := by
    apply exec_setBridges (fun phase => phase.isAlive = true) ?_ (opened_nodup deeds) h.engine.1
    · intro service hservice
      exact (h.bridges service).resolve_left ((mem_opened hrun service).mp hservice)
    · intro lifetimes service hengine halive
      exact if_pos ⟨hengine, halive⟩
  have hgone (service : SupportService) :
      ((before.setBridges (opened deeds) .destroyed).bridge service).isAlive = false := by
    by_cases hservice : service ∈ opened deeds
    · simp [Lifetimes.setBridges, hservice, BridgePhase.isAlive]
    · have habsent : before.bridge service = .absent := by
        by_contra hpresent
        exact hservice ((mem_opened hrun service).mpr hpresent)
      simp [Lifetimes.setBridges, hservice, habsent, BridgePhase.isAlive]
  have hengine := (exec_creates hrun .config).2
  rw [leaveScope, Runs.exec_append, hrun, Option.bind_some, Runs.exec_append, hdestroyed,
    Option.bind_some]
  by_cases hcreated : deeds.any Deed.createsEngine = true
  · have hpresent : before.engine ≠ .absent := hengine.mpr (.inr hcreated)
    refine ⟨{ before.setBridges (opened deeds) .destroyed with engine := .destroyed }, ?_,
      ⟨.inr rfl, hgone⟩, rfl, rfl⟩
    rw [if_pos hcreated, Runs.exec_singleton]
    exact if_pos ⟨hpresent, h.engine.1, h.engine.2, fun service _ => hgone service⟩
  · have habsent : before.engine = .absent := by
      by_contra hpresent
      exact hcreated ((hengine.mp hpresent).resolve_left fun hnot => hnot rfl)
    refine ⟨before.setBridges (opened deeds) .destroyed, ?_, ⟨.inl habsent, hgone⟩, rfl, rfl⟩
    rw [if_neg hcreated]
    rfl

/-- How things stand at each end of a process. -/
def AtEnd (lifetimes : Lifetimes) : Ending → Prop
  | .exited .success =>
      Over lifetimes ∧ lifetimes.ready = true ∧ lifetimes.reported = false
  | .exited .failure =>
      Over lifetimes ∧ lifetimes.reported = true ∧ lifetimes.ready = false
  | .aborted => lifetimes = .unborn
  | .running =>
      lifetimes.engine = .running ∧ lifetimes.ready = true ∧ lifetimes.reported = false ∧
        ∀ service, lifetimes.injected service = true → lifetimes.bridge service = .up

/-- A failure is reported, and then everything is destroyed. -/
theorem failing_exit {deeds : List Deed}
    (hrun : Runs.exec deedStep .unborn deeds = some before) (h : Failing before)
    (reason : String) :
    ∃ after, Runs.exec deedStep .unborn
        (exitWith (deeds ++ [.notifyError reason]) .failure).deeds = some after ∧
      AtEnd after (.exited .failure) := by
  have hreport : Runs.exec deedStep .unborn (deeds ++ [.notifyError reason]) =
      some { before with reported := true } := by
    rw [Runs.exec_append, hrun, Option.bind_some, Runs.exec_singleton]
    exact if_pos ⟨h.reported, h.ready⟩
  obtain ⟨after, hafter, hover, hreported, hready⟩ :=
    leaveScope_keeps hreport ⟨h.leaving.engine, h.leaving.bridges⟩
  exact ⟨after, hafter, hover, hreported, hready.trans h.ready⟩

/-- After the signal the engine is stopped, the bridges are shut down and destroyed. -/
theorem stopping_exit {deeds : List Deed}
    (hrun : Runs.exec deedStep .unborn deeds = some before) (hengine : before.engine = .running)
    (hbridges : ∀ service, before.bridge service = .absent ∨ before.bridge service = .up)
    (hready : before.ready = true) (hreported : before.reported = false) :
    ∃ after, Runs.exec deedStep .unborn
        (exitWith (deeds ++ [.stopEngine] ++ (opened deeds).map .shutdownBridge ++
          [.logStopped "qtrade_client"]) .success).deeds = some after ∧
      AtEnd after (.exited .success) := by
  let stopped : Lifetimes := { before with engine := .stopped }
  have hstop : Runs.exec deedStep .unborn (deeds ++ [.stopEngine]) = some stopped := by
    rw [Runs.exec_append, hrun, Option.bind_some, Runs.exec_singleton]
    exact if_pos hengine
  have hshutdown : Runs.exec deedStep stopped ((opened deeds).map .shutdownBridge) =
      some (stopped.setBridges (opened deeds) .down) := by
    have hnotRunning : EnginePhase.stopped ≠ .running := by decide
    apply exec_setBridges (fun phase => phase = .up) ?_ (opened_nodup deeds) hnotRunning
    · intro service hservice
      exact (hbridges service).resolve_left ((mem_opened hrun service).mp hservice)
    · intro lifetimes service hnotRunning hup
      exact if_pos ⟨hnotRunning, hup⟩
  have hphase (service : SupportService) :
      (stopped.setBridges (opened deeds) .down).bridge service = .absent ∨
        (stopped.setBridges (opened deeds) .down).bridge service = .down := by
    by_cases hservice : service ∈ opened deeds
    · exact .inr (if_pos hservice)
    · left
      have habsent : before.bridge service = .absent := by
        by_contra hpresent
        exact hservice ((mem_opened hrun service).mpr hpresent)
      exact (if_neg hservice).trans habsent
  have hlogged : Runs.exec deedStep .unborn (deeds ++ [.stopEngine] ++
      (opened deeds).map .shutdownBridge ++ [.logStopped "qtrade_client"]) =
        some (stopped.setBridges (opened deeds) .down) := by
    rw [Runs.exec_append, Runs.exec_append, hstop, Option.bind_some, hshutdown,
      Option.bind_some, Runs.exec_singleton]
    refine if_pos ⟨rfl, fun service _ => ?_⟩
    rcases hphase service with hdown | hdown <;> simp [hdown]
  have hleaving : Leaving (stopped.setBridges (opened deeds) .down) := by
    have hengine : EnginePhase.stopped ≠ .running ∧ EnginePhase.stopped ≠ .destroyed := by decide
    refine ⟨hengine, fun service => (hphase service).imp_right fun hdown => ?_⟩
    rw [hdown]
    rfl
  obtain ⟨after, hafter, hover, hafterReported, hafterReady⟩ := leaveScope_keeps hlogged hleaving
  exact ⟨after, hafter, hover, hafterReady.trans hready, hafterReported.trans hreported⟩

/-- The engine is told to start when it is initialised. -/
theorem exec_start {deeds : List Deed} (hrun : Runs.exec deedStep .unborn deeds = some before)
    (h : Standing .initialized before) (code : ErrorCode) :
    Runs.exec deedStep .unborn (deeds ++ [.startEngine code]) =
      some (if code = .kSuccess then { before with engine := .running } else before) := by
  rw [Runs.exec_append, hrun, Option.bind_some, Runs.exec_singleton]
  exact if_pos ⟨h.engine, fun service _ => h.injected service⟩

theorem runEngine_keeps (blank : Blank) (world : World) (bootstrap : QtradeEngineBootstrapConfig)
    (interrupted : Bool) :
    let process := runEngine blank world bootstrap interrupted
    ∃ after, Runs.exec deedStep .unborn process.deeds = some after ∧
      AtEnd after process.ending := by
  intro process
  obtain ⟨prepared, hprepared, hends⟩ := @startUp_keeps blank world bootstrap
  have hprocess : process = runEngine blank world bootstrap interrupted := rfl
  unfold runEngine at hprocess
  cases houtcome : (startUp blank world bootstrap).outcome with
  | error reason =>
      simp only [houtcome] at hprocess hends
      rw [hprocess]
      exact failing_exit hprepared hends reason
  | ok value =>
      simp only [houtcome] at hprocess hends
      have hstanding : Standing .initialized prepared := hends
      have hstart := exec_start hprepared hstanding world.engineStart
      by_cases hcode : world.engineStart = .kSuccess
      · rw [if_pos hcode] at hstart
        rw [if_neg (not_not.mpr hcode)] at hprocess
        have hready : Runs.exec deedStep .unborn ((startUp blank world bootstrap).acts ++
            [.startEngine world.engineStart] ++ [.notifyReady "qtrade_client ready"]) =
              some { prepared with engine := .running, ready := true } := by
          rw [Runs.exec_append, hstart, Option.bind_some, Runs.exec_singleton]
          exact if_pos ⟨rfl, hstanding.reported, hstanding.ready⟩
        cases interrupted with
        | false =>
            rw [hprocess]
            exact ⟨_, hready, rfl, rfl, hstanding.reported, hstanding.injected⟩
        | true =>
            rw [hprocess]
            exact stopping_exit hready rfl hstanding.bridges rfl hstanding.reported
      · rw [if_neg hcode] at hstart
        rw [if_pos hcode] at hprocess
        rw [hprocess]
        exact failing_exit hstart (hstanding.failing (.inr rfl)) "Failed to start engine"

end Leaving

/-- Every process keeps to the protocol, whatever it meets.  If it exits with success it
was ready and reported nothing; if it exits with failure it has reported one error and was
never ready; either way nothing is left.  While it runs the engine has its bridges. -/
theorem process_lawful (blank : Blank) (host : Host) :
    ∃ after, Runs.exec deedStep .unborn (runProcess blank host).deeds = some after ∧
      AtEnd after (runProcess blank host).ending := by
  have hrefused (deed : Deed) (hdeed : deedStep .unborn deed = report .unborn) :
      ∃ after, Runs.exec deedStep .unborn [deed] = some after ∧
        AtEnd after (.exited .failure) := by
    refine ⟨{ Lifetimes.unborn with reported := true }, ?_, ⟨.inl rfl, fun _ => rfl⟩, rfl, rfl⟩
    rw [Runs.exec_singleton, hdeed]
    rfl
  unfold runProcess
  split
  · exact hrefused _ rfl
  · split
    · exact hrefused _ rfl
    · split
      · exact ⟨.unborn, rfl, rfl⟩
      · exact hrefused _ rfl
      · exact runEngine_keeps blank host.world _ host.interrupted

end QtradeClient.Boot
