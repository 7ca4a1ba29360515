import QtradeClient.Library.Runs
import QtradeClient.Sdk.Types

/-!
# The EMT quote adapter

The adapter is written ahead of the vendor's SDK: its operations keep what they are given
and answer that they are not supported.  A session adds to it whether a `Connect` has been
granted that no `Disconnect` or `Logout` has revoked.  The SDK's `ConnectRequest` is kept
whole, so its type `κ` is left open.
-/

namespace QtradeClient.Emt

open Sdk Library.Runs

structure EmtQuoteApi (κ : Type) where
  connected : Bool
  config : κ
  instruments : List String

inductive QuoteCall (κ : Type) where
  | connect (request : κ)
  | disconnect
  | logout
  | subscribe (request : SubscribeRequest)
  | unsubscribe (request : UnsubscribeRequest)

namespace EmtQuoteApi

variable {κ : Type}

/-- The adapter as constructed, its request being the default one. -/
def create (blank : κ) : EmtQuoteApi κ := ⟨false, blank, []⟩

def connect (api : EmtQuoteApi κ) (request : κ) : ErrorCode × EmtQuoteApi κ :=
  if api.connected then (.kSuccess, api)
  else (.kNotSupported, { api with config := request, connected := true })

def disconnect (api : EmtQuoteApi κ) : EmtQuoteApi κ :=
  if api.connected then { api with connected := false } else api

def logout (api : EmtQuoteApi κ) : EmtQuoteApi κ := api.disconnect

def subscribe (api : EmtQuoteApi κ) (request : SubscribeRequest) : ErrorCode × EmtQuoteApi κ :=
  (.kNotSupported, { api with instruments := request.instruments })

def unsubscribe (api : EmtQuoteApi κ) (_ : UnsubscribeRequest) : ErrorCode × EmtQuoteApi κ :=
  (.kNotSupported, { api with instruments := [] })

/-- The code a call returns, if it returns one, and the adapter it leaves. -/
def perform (api : EmtQuoteApi κ) : QuoteCall κ → Option ErrorCode × EmtQuoteApi κ
  | .connect request => (some (api.connect request).1, (api.connect request).2)
  | .disconnect => (none, api.disconnect)
  | .logout => (none, api.logout)
  | .subscribe request => (some (api.subscribe request).1, (api.subscribe request).2)
  | .unsubscribe request => (some (api.unsubscribe request).1, (api.unsubscribe request).2)

end EmtQuoteApi

/-- `granted` says that a `Connect` has returned `kSuccess` with no `Disconnect` or `Logout`
since. -/
structure Session (κ : Type) where
  api : EmtQuoteApi κ
  granted : Bool

namespace Session

variable {κ : Type}

def start (blank : κ) : Session κ := ⟨.create blank, false⟩

def next (session : Session κ) (call : QuoteCall κ) : Session κ :=
  let reply := session.api.perform call
  match call with
  | .connect _ => ⟨reply.2, session.granted || reply.1 = some .kSuccess⟩
  | .disconnect => ⟨reply.2, false⟩
  | .logout => ⟨reply.2, false⟩
  | .subscribe _ => ⟨reply.2, session.granted⟩
  | .unsubscribe _ => ⟨reply.2, session.granted⟩

/-- What one call must respect: an error changes nothing, a connected adapter has been
granted its connection, and so has one that a `Connect` finds already connected. -/
structure Honest (session : Session κ) (call : QuoteCall κ) : Prop where
  failure : ∀ code, (session.api.perform call).1 = some code → code ≠ .kSuccess →
    (session.next call).api = session.api
  connected : (session.next call).api.connected = true → (session.next call).granted = true
  shortCut : ∀ request, call = .connect request → session.api.connected = true →
    (session.api.perform call).1 = some .kSuccess → session.granted = true

/-- The call leaves a fresh adapter as it is. -/
def Inert : QuoteCall κ → Prop
  | .connect _ => False
  | .subscribe request => request.instruments = []
  | _ => True

/-- The adapter is as constructed. -/
structure Untouched (blank : κ) (session : Session κ) : Prop where
  api : session.api = .create blank
  granted : session.granted = false

theorem untouched_start (blank : κ) : Untouched blank (start blank) := ⟨rfl, rfl⟩

/-- An inert call changes nothing of an untouched adapter. -/
theorem Untouched.next {blank : κ} {session : Session κ} (h : Untouched blank session)
    {call : QuoteCall κ} (hinert : Inert call) : Untouched blank (session.next call) := by
  obtain ⟨api, granted⟩ := session
  obtain ⟨rfl, rfl⟩ := h
  cases call with
  | connect request => exact hinert.elim
  | disconnect => exact ⟨rfl, rfl⟩
  | logout => exact ⟨rfl, rfl⟩
  | subscribe request =>
      obtain ⟨instruments⟩ := request
      obtain rfl : instruments = [] := hinert
      exact ⟨rfl, rfl⟩
  | unsubscribe request => exact ⟨rfl, rfl⟩

/-- Of an untouched adapter, the honest calls are the inert ones. -/
theorem Untouched.honest_call_iff {blank : κ} {session : Session κ} (h : Untouched blank session)
    (call : QuoteCall κ) : Honest session call ↔ Inert call := by
  constructor
  · intro hhonest
    obtain ⟨api, granted⟩ := session
    obtain ⟨rfl, rfl⟩ := h
    cases call with
    | connect request =>
        have hsame := hhonest.failure .kNotSupported rfl (by decide)
        cases congrArg EmtQuoteApi.connected hsame
    | subscribe request =>
        exact congrArg EmtQuoteApi.instruments (hhonest.failure .kNotSupported rfl (by decide))
    | _ => exact trivial
  · intro hinert
    have hnext := h.next hinert
    constructor
    · intro _ _ _
      rw [hnext.api, h.api]
    · rw [hnext.api]
      exact nofun
    · rw [h.api]
      exact nofun

/-- A run of calls is honest throughout if and only if it makes no `Connect` and every
`Subscribe` names no instrument. -/
theorem honest_iff (blank : κ) (calls : List (QuoteCall κ)) :
    Along (total next) Honest (start blank) calls ↔ ∀ call ∈ calls, Inert call := by
  rw [← along_total_labels (start blank) calls]
  apply along_total_congr ?_ ?_ (untouched_start blank) calls
  · intro session call huntouched hhonest
    exact huntouched.next ((huntouched.honest_call_iff call).mp hhonest)
  · intro session call huntouched
    exact huntouched.honest_call_iff call

/-- The first `Connect` is refused and leaves the adapter connected, so the second reports
success. -/
theorem refused_then_connected :
    let refused := Session.next (start "") (.connect "emt")
    (refused.api.connected = true ∧ refused.granted = false) ∧
      (refused.api.perform (.connect "emt")).1 = some .kSuccess ∧
      ¬ Along (total next) Honest (start "") [.connect "emt", .connect "emt"] := by
  refine ⟨⟨rfl, rfl⟩, rfl, fun hhonest => ?_⟩
  have hsame := hhonest.1.failure .kNotSupported rfl (by decide)
  cases congrArg EmtQuoteApi.connected hsame

end Session

end QtradeClient.Emt
