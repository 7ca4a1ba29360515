import QtradeClient.Boot.BootstrapConfig

/-!
# What the bootstrap parser accepts and where it raises

The content of a bootstrap file is a pure function of it.  The parser returns that content
unless one of its typed reads meets a value of another type, and it makes these reads one
section after the other, only as long as the sections before are complete.
-/

namespace QtradeClient.Boot

open Library Library.Named Library.Reading

/-! ## The content of a file -/

/-- The name that an entry of the support services is read under; an object without one is
read as the empty name. -/
def nameOf? : Json → Option String
  | .object members =>
      match members.lookup "name" with
      | none => some ""
      | some (.string name) => some name
      | some _ => none
  | _ => none

/-- An object whose name is not a text. -/
def Misnamed : Json → Prop
  | .object members => ¬ TextOrAbsent members "name"
  | _ => False

def serviceNames : List String := ["config_service", "account_service", "account_risk_service"]

def identityKeys : List String := ["tenant_id", "engine_id", "account_id"]

def logs? (process : Members) : Option (String × String) :=
  let logDir := text process "log_dir" "logs"
  let logFilename := text process "log_filename" "trading-engine.log"
  if logDir = "" ∨ logFilename = "" then none else some (logDir, logFilename)

def identity? (identity : Members) : Option QtradeEngineIdentity :=
  let tenantId := text identity "tenant_id" ""
  let engineId := text identity "engine_id" ""
  let accountId := text identity "account_id" ""
  if tenantId = "" ∨ engineId = "" ∨ accountId = "" then none
  else some ⟨tenantId, engineId, accountId⟩

def pluginDir? (strategy : Members) : Option String :=
  let pluginDir := text strategy "plugin_dir" ""
  if pluginDir = "" then none else some pluginDir

section Contents

variable (parseServiceEndpoint : Json → Option ServiceEndpoint)

/-- The endpoint of the first entry of the name. -/
def service? (name : String) (entries : List Json) : Option ServiceEndpoint :=
  (first? nameOf? name entries).bind parseServiceEndpoint

def services? (entries : List Json) : Option SupportEndpoints := do
  let configService ← service? parseServiceEndpoint "config_service" entries
  let accountService ← service? parseServiceEndpoint "account_service" entries
  let accountRiskService ← service? parseServiceEndpoint "account_risk_service" entries
  if accountRiskService.enabled ∧ accountRiskService.timeoutMs ≤ 0 then none
  else some ⟨configService, accountService, accountRiskService⟩

def content? (configNode : Json) : Option ParsedBootstrapConfig := do
  let shape ← bootstrapShape? configNode
  let logs ← logs? shape.process
  let identity ← identity? shape.identity
  let pluginDir ← pluginDir? shape.strategy
  let supportServices ← services? parseServiceEndpoint shape.supportServices
  some ⟨⟨logs.1, logs.2, ⟨pluginDir⟩, identity⟩, supportServices⟩

end Contents

/-- No misnamed entry stands before the first one of the name. -/
def NamesReadable (name : String) (entries : List Json) : Prop :=
  ∀ entry ∈ entries.takeWhile (fun entry => nameOf? entry ≠ some name), ¬ Misnamed entry

/-- Every typed read that the parser gets to meets a text or an absent key: the identity is
read if both log settings are non-empty, the plugin directory if the identity is complete,
and the entries if the plugin directory is non-empty. -/
def Readable (configNode : Json) : Prop :=
  ∀ shape, bootstrapShape? configNode = some shape →
    (TextOrAbsent shape.process "log_dir" ∧ TextOrAbsent shape.process "log_filename") ∧
      ((logs? shape.process).isSome →
        (∀ key ∈ identityKeys, TextOrAbsent shape.identity key) ∧
          ((identity? shape.identity).isSome →
            TextOrAbsent shape.strategy "plugin_dir" ∧
              ((pluginDir? shape.strategy).isSome →
                ∀ name ∈ serviceNames, NamesReadable name shape.supportServices)))

/-! ## The parser returns the content -/

theorem reads_readLogs (process : Members) :
    Reads (readLogs process)
      (TextOrAbsent process "log_dir" ∧ TextOrAbsent process "log_filename") (logs? process) := by
  unfold readLogs
  refine Reads.congr (.bind_found (reads_value ..) (.bind_found (reads_value ..)
    (reads_unless _ _))) ?_ rfl
  rw [and_true]

theorem reads_readIdentity (identity : Members) :
    Reads (readIdentity identity) (∀ key ∈ identityKeys, TextOrAbsent identity key)
      (identity? identity) := by
  unfold readIdentity
  refine Reads.congr (.bind_found (reads_value ..) (.bind_found (reads_value ..)
    (.bind_found (reads_value ..) (reads_unless _ _)))) ?_ rfl
  simp [identityKeys]

theorem reads_readPluginDir (strategy : Members) :
    Reads (readPluginDir strategy) (TextOrAbsent strategy "plugin_dir") (pluginDir? strategy) := by
  unfold readPluginDir
  refine Reads.congr (.bind_found (reads_value ..) (reads_unless _ _)) ?_ rfl
  rw [and_true]

theorem nameOf?_of_text {members : Members} (htext : TextOrAbsent members "name") :
    nameOf? (.object members) = some (text members "name" "") := by
  rcases htext with habsent | ⟨name, hname⟩
  · simp only [nameOf?, text, habsent]
  · simp only [nameOf?, text, hname]

theorem nameOf?_of_misnamed {entry : Json} (hmisnamed : Misnamed entry) :
    nameOf? entry = none := by
  cases entry with
  | object members =>
      cases hname : nameOf? (.object members) with
      | none => rfl
      | some name =>
          refine absurd ?_ hmisnamed
          unfold nameOf? at hname
          cases hlookup : members.lookup "name" with
          | none => exact .inl hlookup
          | some found =>
              cases found with
              | string found => exact .inr ⟨found, hlookup⟩
              | _ => simp [hlookup] at hname
  | _ => cases hmisnamed

theorem namesReadable_cons_of_eq {name : String} {entry : Json} (hname : nameOf? entry = some name)
    (entries : List Json) : NamesReadable name (entry :: entries) ↔ True := by
  simp [NamesReadable, hname]

theorem namesReadable_cons_of_ne {name : String} {entry : Json} (hname : nameOf? entry ≠ some name)
    (entries : List Json) :
    NamesReadable name (entry :: entries) ↔ ¬ Misnamed entry ∧ NamesReadable name entries := by
  simp [NamesReadable, hname]

/-- An entry that the loop passes over without reading its name. -/
theorem reads_skip {parseServiceEndpoint : Json → Option ServiceEndpoint} {name : String}
    {entry : Json} {entries : List Json} (hname : nameOf? entry = none) (hplain : ¬ Misnamed entry)
    (hskips : findService parseServiceEndpoint name (entry :: entries) =
      findService parseServiceEndpoint name entries)
    (ih : Reads (findService parseServiceEndpoint name entries) (NamesReadable name entries)
      (some (service? parseServiceEndpoint name entries))) :
    Reads (findService parseServiceEndpoint name (entry :: entries))
      (NamesReadable name (entry :: entries))
      (some (service? parseServiceEndpoint name (entry :: entries))) := by
  have hother : nameOf? entry ≠ some name := by
    rw [hname]
    exact nofun
  rw [hskips]
  apply ih.congr
  · rw [namesReadable_cons_of_ne hother, and_iff_right hplain]
  · rw [service?, service?, first?_cons_of_ne hother]

/-- The loop finds the first entry of the name, unless it meets a misnamed one before. -/
theorem reads_findService (parseServiceEndpoint : Json → Option ServiceEndpoint) (name : String)
    (entries : List Json) :
    Reads (findService parseServiceEndpoint name entries) (NamesReadable name entries)
      (some (service? parseServiceEndpoint name entries)) := by
  induction entries with
  | nil => exact (reads_pure none).congr (iff_of_true trivial nofun) rfl
  | cons entry entries ih =>
      cases entry with
      | object members =>
          by_cases htext : TextOrAbsent members "name"
          · have hentry := nameOf?_of_text htext
            by_cases hname : text members "name" "" = name
            · have hends : Reads
                  (findService parseServiceEndpoint name (.object members :: entries))
                  (TextOrAbsent members "name" ∧ True)
                  (some (parseServiceEndpoint (.object members))) := by
                unfold findService
                apply Reads.bind_found (reads_value ..)
                rw [if_neg (not_not.mpr hname)]
                exact reads_pure _
              rw [hname] at hentry
              apply hends.congr
              · rw [namesReadable_cons_of_eq hentry, and_true, iff_true]
                exact htext
              · rw [service?, first?_cons_of_eq hentry]
                rfl
            · have hgoes : Reads
                  (findService parseServiceEndpoint name (.object members :: entries))
                  (TextOrAbsent members "name" ∧ NamesReadable name entries)
                  (some (service? parseServiceEndpoint name entries)) := by
                unfold findService
                apply Reads.bind_found (reads_value ..)
                rw [if_pos hname]
                exact ih
              have hother : nameOf? (.object members) ≠ some name := by
                rw [hentry]
                exact fun h => hname (Option.some.inj h)
              apply hgoes.congr
              · rw [namesReadable_cons_of_ne hother]
                exact and_congr_left fun _ => not_not.symm
              · rw [service?, service?, first?_cons_of_ne hother]
          · have hother : nameOf? (.object members) ≠ some name := by
              rw [nameOf?_of_misnamed (show Misnamed (.object members) from htext)]
              exact nofun
            constructor
            · intro hreadable
              exact absurd htext ((namesReadable_cons_of_ne hother entries).mp hreadable).1
            · intro _
              obtain ⟨reason, hraised⟩ := (reads_value members "name" "").raises htext
              unfold findService
              rw [hraised]
              exact ⟨reason, rfl⟩
      | _ => exact reads_skip rfl not_false rfl ih

theorem reads_readServices (parseServiceEndpoint : Json → Option ServiceEndpoint)
    (entries : List Json) :
    Reads (readServices parseServiceEndpoint entries)
      (∀ name ∈ serviceNames, NamesReadable name entries)
      (services? parseServiceEndpoint entries) := by
  have hsearch (name : String) :
      Reads (parseSupportServiceByName parseServiceEndpoint (.array entries) name)
        (NamesReadable name entries) (some (service? parseServiceEndpoint name entries)) :=
    reads_findService parseServiceEndpoint name entries
  have hchecked : Reads (readServices parseServiceEndpoint entries)
      (NamesReadable "config_service" entries ∧ NamesReadable "account_service" entries ∧
        NamesReadable "account_risk_service" entries ∧ True)
      (services? parseServiceEndpoint entries) := by
    apply Reads.bind_found (hsearch "config_service")
    apply Reads.bind_found (hsearch "account_service")
    apply Reads.bind_found (hsearch "account_risk_service")
    unfold services?
    cases service? parseServiceEndpoint "config_service" entries with
    | none => exact reads_ofOption none
    | some configService =>
        cases service? parseServiceEndpoint "account_service" entries with
        | none => exact reads_ofOption none
        | some accountService =>
            cases service? parseServiceEndpoint "account_risk_service" entries with
            | none => exact reads_ofOption none
            | some accountRiskService => exact reads_unless _ _
  apply hchecked.congr _ rfl
  simp [serviceNames]

/-- The parser raises unless the file is readable, and then returns its content. -/
theorem reads_parse (parseServiceEndpoint : Json → Option ServiceEndpoint) (configNode : Json) :
    Reads (parseQtradeEngineBootstrapConfig parseServiceEndpoint configNode)
      (Readable configNode) (content? parseServiceEndpoint configNode) := by
  unfold parseQtradeEngineBootstrapConfig
  refine Reads.congr (.bind (reads_ofOption (bootstrapShape? configNode)) fun shape =>
    .bind (reads_readLogs shape.process) fun logs =>
      .bind (reads_readIdentity shape.identity) fun identity =>
        .bind (reads_readPluginDir shape.strategy) fun pluginDir =>
          .bind (reads_readServices parseServiceEndpoint shape.supportServices)
            fun supportServices => reads_pure _) ?_ rfl
  simp [Readable, Option.isSome_iff_exists]

end QtradeClient.Boot
