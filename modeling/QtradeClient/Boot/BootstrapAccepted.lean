import QtradeClient.Boot.BootstrapGuarded

/-!
# Which bootstrap files are accepted

On a file whose texts are texts the parser returns a config if and only if all sections are
complete, and then exactly what they say.  Rearranging the entries of the support services
makes no difference as long as the first one of each name stays the first.
-/

namespace QtradeClient.Boot

open Library Library.Named Library.Reading

/-! ## What a complete file says -/

/-- All settings, and the names of all entries, are texts or absent. -/
def TextsOnly (configNode : Json) : Prop :=
  ∀ shape, bootstrapShape? configNode = some shape →
    (TextOrAbsent shape.process "log_dir" ∧ TextOrAbsent shape.process "log_filename") ∧
      (∀ key ∈ identityKeys, TextOrAbsent shape.identity key) ∧
      TextOrAbsent shape.strategy "plugin_dir" ∧
      ∀ entry ∈ shape.supportServices, ¬ Misnamed entry

/-- The file has all its sections, each of its kind. -/
inductive Sections : Json → BootstrapShape → Prop where
  | mk {root process identity strategy : Members} {supportServices : List Json}
      (config : root.lookup "config" = some (.object process))
      (identityOf : process.lookup "identity" = some (.object identity))
      (strategyOf : process.lookup "strategy" = some (.object strategy))
      (services : root.lookup "support_services" = some (.array supportServices)) :
      Sections (.object root) ⟨process, identity, strategy, supportServices⟩

/-- The key has this text. -/
def HasText (members : Members) (key found : String) : Prop :=
  members.lookup key = some (.string found)

/-- The key has this text, or is absent and the text is its default. -/
def HasTextOr (members : Members) (key default found : String) : Prop :=
  HasText members key found ∨ (members.lookup key = none ∧ found = default)

/-- An object entry with this name. -/
def Named (name : String) (entry : Json) : Prop :=
  ∃ members, entry = .object members ∧ HasText members "name" name

/-- The first object entry of the name exists and parses to the endpoint. -/
def FirstParses (parseServiceEndpoint : Json → Option ServiceEndpoint) (entries : List Json)
    (name : String) (endpoint : ServiceEndpoint) : Prop :=
  ∃ before entry after, entries = before ++ entry :: after ∧
    (∀ earlier ∈ before, ¬ Named name earlier) ∧ Named name entry ∧
      parseServiceEndpoint entry = some endpoint

/-- The sections say exactly what the config carries, and nothing required is empty. -/
structure Complete (parseServiceEndpoint : Json → Option ServiceEndpoint)
    (shape : BootstrapShape) (parsed : ParsedBootstrapConfig) : Prop where
  logDir : HasTextOr shape.process "log_dir" "logs" parsed.config.logDir
  logFilename : HasTextOr shape.process "log_filename" "trading-engine.log"
    parsed.config.logFilename
  logs : parsed.config.logDir ≠ "" ∧ parsed.config.logFilename ≠ ""
  tenantId : HasText shape.identity "tenant_id" parsed.config.identity.tenantId
  engineId : HasText shape.identity "engine_id" parsed.config.identity.engineId
  accountId : HasText shape.identity "account_id" parsed.config.identity.accountId
  identity : parsed.config.identity.tenantId ≠ "" ∧ parsed.config.identity.engineId ≠ "" ∧
    parsed.config.identity.accountId ≠ ""
  pluginDir : HasText shape.strategy "plugin_dir" parsed.config.strategy.pluginDir
  strategy : parsed.config.strategy.pluginDir ≠ ""
  configService : FirstParses parseServiceEndpoint shape.supportServices "config_service"
    parsed.supportServices.configService
  accountService : FirstParses parseServiceEndpoint shape.supportServices "account_service"
    parsed.supportServices.accountService
  accountRiskService : FirstParses parseServiceEndpoint shape.supportServices
    "account_risk_service" parsed.supportServices.accountRiskService
  deadline : ¬ (parsed.supportServices.accountRiskService.enabled ∧
    parsed.supportServices.accountRiskService.timeoutMs ≤ 0)

def Accepted (parseServiceEndpoint : Json → Option ServiceEndpoint) (configNode : Json)
    (parsed : ParsedBootstrapConfig) : Prop :=
  ∃ shape, Sections configNode shape ∧ Complete parseServiceEndpoint shape parsed

theorem sections_iff (configNode : Json) (shape : BootstrapShape) :
    Sections configNode shape ↔ bootstrapShape? configNode = some shape := by
  constructor
  · rintro ⟨hconfig, hidentity, hstrategy, hservices⟩
    simp [bootstrapShape?, Json.asObject?, Json.asArray?, hconfig, hidentity, hstrategy, hservices]
  · intro hshape
    have hobject {found : Json} {members : Members} (h : found.asObject? = some members) :
        found = .object members := by
      cases found with
      | object found => exact congrArg Json.object (Option.some.inj h)
      | _ => cases h
    have harray {found : Json} {items : List Json} (h : found.asArray? = some items) :
        found = .array items := by
      cases found with
      | array found => exact congrArg Json.array (Option.some.inj h)
      | _ => cases h
    simp only [bootstrapShape?, Option.bind_eq_bind, Option.bind_eq_some_iff] at hshape
    obtain ⟨root, hroot, process, ⟨config, hconfig, hprocess⟩, entries,
      ⟨services, hservices, hentries⟩, identity, ⟨identityOf, hidentity, hmembers⟩, strategy,
      ⟨strategyOf, hstrategy, hstrategyMembers⟩, ⟨⟩⟩ := hshape
    cases hobject hroot
    cases hobject hprocess
    cases harray hentries
    cases hobject hmembers
    cases hobject hstrategyMembers
    exact .mk hconfig hidentity hstrategy hservices

/-- Under typed texts, the text of a key is what it has or its default. -/
theorem text_eq_iff {members : Members} {key default : String}
    (htext : TextOrAbsent members key) (found : String) :
    text members key default = found ↔ HasTextOr members key default found := by
  unfold HasTextOr HasText text
  rcases htext with habsent | ⟨actual, hactual⟩
  · rw [habsent]
    constructor
    · rintro rfl
      exact .inr ⟨rfl, rfl⟩
    · rintro (h | ⟨-, rfl⟩)
      · cases h
      · rfl
  · rw [hactual]
    constructor
    · rintro rfl
      exact .inl rfl
    · rintro (h | ⟨h, -⟩)
      · cases h
        rfl
      · cases h

/-- Where an absent key counts as empty, a non-empty text is present. -/
theorem text_eq_iff_of_ne {members : Members} {key : String} (htext : TextOrAbsent members key)
    {found : String} (hne : found ≠ "") :
    text members key "" = found ↔ HasText members key found := by
  rw [text_eq_iff htext]
  constructor
  · rintro (hhas | ⟨-, hempty⟩)
    · exact hhas
    · exact absurd hempty hne
  · exact .inl

theorem logs?_eq_some_iff {process : Members} (hdir : TextOrAbsent process "log_dir")
    (hfilename : TextOrAbsent process "log_filename") (logDir logFilename : String) :
    logs? process = some (logDir, logFilename) ↔
      HasTextOr process "log_dir" "logs" logDir ∧
        HasTextOr process "log_filename" "trading-engine.log" logFilename ∧
        logDir ≠ "" ∧ logFilename ≠ "" := by
  rw [← text_eq_iff hdir, ← text_eq_iff hfilename]
  simp only [logs?, Option.ite_none_left_eq_some, Option.some.injEq, Prod.mk.injEq, not_or]
  constructor
  · rintro ⟨⟨hd, hf⟩, rfl, rfl⟩
    exact ⟨rfl, rfl, hd, hf⟩
  · rintro ⟨rfl, rfl, hd, hf⟩
    exact ⟨⟨hd, hf⟩, rfl, rfl⟩

theorem identity?_eq_some_iff {members : Members}
    (htexts : ∀ key ∈ identityKeys, TextOrAbsent members key) (identity : QtradeEngineIdentity) :
    identity? members = some identity ↔
      (HasText members "tenant_id" identity.tenantId ∧
        HasText members "engine_id" identity.engineId ∧
        HasText members "account_id" identity.accountId) ∧
      identity.tenantId ≠ "" ∧ identity.engineId ≠ "" ∧ identity.accountId ≠ "" := by
  have htenant := htexts "tenant_id" (by decide)
  have hengine := htexts "engine_id" (by decide)
  have haccount := htexts "account_id" (by decide)
  simp only [identity?, Option.ite_none_left_eq_some, Option.some.injEq, not_or]
  constructor
  · rintro ⟨⟨ht, he, ha⟩, rfl⟩
    exact ⟨⟨(text_eq_iff_of_ne htenant ht).mp rfl, (text_eq_iff_of_ne hengine he).mp rfl,
      (text_eq_iff_of_ne haccount ha).mp rfl⟩, ht, he, ha⟩
  · rintro ⟨⟨hhasTenant, hhasEngine, hhasAccount⟩, ht, he, ha⟩
    rw [(text_eq_iff_of_ne htenant ht).mpr hhasTenant,
      (text_eq_iff_of_ne hengine he).mpr hhasEngine,
      (text_eq_iff_of_ne haccount ha).mpr hhasAccount]
    exact ⟨⟨ht, he, ha⟩, rfl⟩

theorem pluginDir?_eq_some_iff {strategy : Members} (htext : TextOrAbsent strategy "plugin_dir")
    (pluginDir : String) :
    pluginDir? strategy = some pluginDir ↔
      HasText strategy "plugin_dir" pluginDir ∧ pluginDir ≠ "" := by
  simp only [pluginDir?, Option.ite_none_left_eq_some, Option.some.injEq]
  constructor
  · rintro ⟨hne, rfl⟩
    exact ⟨(text_eq_iff_of_ne htext hne).mp rfl, hne⟩
  · rintro ⟨hhas, hne⟩
    rw [(text_eq_iff_of_ne htext hne).mpr hhas]
    exact ⟨hne, rfl⟩

theorem nameOf?_eq_some_iff {name : String} (hname : name ≠ "") (entry : Json) :
    nameOf? entry = some name ↔ Named name entry := by
  unfold Named HasText
  cases entry with
  | object members =>
      cases hlookup : members.lookup "name" with
      | none => simp [nameOf?, hlookup, hname.symm]
      | some found => cases found <;> simp [nameOf?, hlookup]
  | _ => simp [nameOf?]

theorem service?_eq_some_iff (parseServiceEndpoint : Json → Option ServiceEndpoint)
    {name : String} (hname : name ≠ "") (entries : List Json) (endpoint : ServiceEndpoint) :
    service? parseServiceEndpoint name entries = some endpoint ↔
      FirstParses parseServiceEndpoint entries name endpoint := by
  simp only [service?, first?, Option.bind_eq_some_iff, List.find?_eq_some_iff_append,
    decide_eq_true_eq, Bool.not_eq_true', decide_eq_false_iff_not, nameOf?_eq_some_iff hname]
  constructor
  · rintro ⟨entry, ⟨hnamed, before, after, hentries, hbefore⟩, hparses⟩
    exact ⟨before, entry, after, hentries, hbefore, hnamed, hparses⟩
  · rintro ⟨before, entry, after, hentries, hbefore, hnamed, hparses⟩
    exact ⟨entry, ⟨hnamed, before, after, hentries, hbefore⟩, hparses⟩

theorem services?_eq_some_iff (parseServiceEndpoint : Json → Option ServiceEndpoint)
    (entries : List Json) (services : SupportEndpoints) :
    services? parseServiceEndpoint entries = some services ↔
      FirstParses parseServiceEndpoint entries "config_service" services.configService ∧
        FirstParses parseServiceEndpoint entries "account_service" services.accountService ∧
        FirstParses parseServiceEndpoint entries "account_risk_service"
          services.accountRiskService ∧
        ¬ (services.accountRiskService.enabled ∧ services.accountRiskService.timeoutMs ≤ 0) := by
  rw [← service?_eq_some_iff _ (by decide), ← service?_eq_some_iff _ (by decide),
    ← service?_eq_some_iff _ (by decide)]
  simp only [services?, Option.bind_eq_bind, Option.bind_eq_some_iff,
    Option.ite_none_left_eq_some, Option.some.injEq]
  constructor
  · rintro ⟨configService, hconfig, accountService, haccount, riskService, hrisk, hdeadline, rfl⟩
    exact ⟨hconfig, haccount, hrisk, hdeadline⟩
  · rintro ⟨hconfig, haccount, hrisk, hdeadline⟩
    exact ⟨_, hconfig, _, haccount, _, hrisk, hdeadline, rfl⟩

theorem content?_eq_some_iff (parseServiceEndpoint : Json → Option ServiceEndpoint)
    {configNode : Json} (htexts : TextsOnly configNode) (parsed : ParsedBootstrapConfig) :
    content? parseServiceEndpoint configNode = some parsed ↔
      Accepted parseServiceEndpoint configNode parsed := by
  obtain ⟨⟨logDir, logFilename, ⟨pluginDir⟩, identity⟩, services⟩ := parsed
  simp only [content?, Option.bind_eq_bind, Option.bind_eq_some_iff, Option.some.injEq]
  constructor
  · rintro ⟨shape, hshape, logs, hlogs, identity, hidentity, pluginDir, hplugin, services,
      hservices, ⟨⟩⟩
    obtain ⟨⟨hdir, hfilename⟩, hkeys, hdirectory, -⟩ := htexts shape hshape
    obtain ⟨hhasDir, hhasFilename, hne⟩ := (logs?_eq_some_iff hdir hfilename _ _).mp hlogs
    obtain ⟨⟨htenant, hengine, haccount⟩, hids⟩ := (identity?_eq_some_iff hkeys _).mp hidentity
    obtain ⟨hhasPlugin, hpluginNe⟩ := (pluginDir?_eq_some_iff hdirectory _).mp hplugin
    obtain ⟨hconfig, haccountService, hrisk, hdeadline⟩ :=
      (services?_eq_some_iff _ _ _).mp hservices
    exact ⟨shape, (sections_iff _ _).mpr hshape, hhasDir, hhasFilename, hne, htenant, hengine,
      haccount, hids, hhasPlugin, hpluginNe, hconfig, haccountService, hrisk, hdeadline⟩
  · rintro ⟨shape, hsections, hcomplete⟩
    have hshape := (sections_iff _ _).mp hsections
    obtain ⟨⟨hdir, hfilename⟩, hkeys, hdirectory, -⟩ := htexts shape hshape
    refine ⟨shape, hshape, (logDir, logFilename), ?_, identity, ?_, pluginDir, ?_, services, ?_,
      rfl⟩
    · exact (logs?_eq_some_iff hdir hfilename _ _).mpr
        ⟨hcomplete.logDir, hcomplete.logFilename, hcomplete.logs⟩
    · exact (identity?_eq_some_iff hkeys _).mpr
        ⟨⟨hcomplete.tenantId, hcomplete.engineId, hcomplete.accountId⟩, hcomplete.identity⟩
    · exact (pluginDir?_eq_some_iff hdirectory _).mpr ⟨hcomplete.pluginDir, hcomplete.strategy⟩
    · exact (services?_eq_some_iff _ _ _).mpr ⟨hcomplete.configService,
        hcomplete.accountService, hcomplete.accountRiskService, hcomplete.deadline⟩

/-- A file of texts is readable. -/
theorem TextsOnly.readable {configNode : Json} (htexts : TextsOnly configNode) :
    Readable configNode := by
  intro shape hshape
  obtain ⟨hlogs, hkeys, hdirectory, hnames⟩ := htexts shape hshape
  refine ⟨hlogs, fun _ => ⟨hkeys, fun _ => ⟨hdirectory, fun _ name _ entry hentry => ?_⟩⟩⟩
  exact hnames entry ((List.takeWhile_prefix _).subset hentry)

/-- On a file of texts the parser returns what the file says if it is complete, and the
entries may be rearranged. -/
theorem accepts_complete (parseServiceEndpoint : Json → Option ServiceEndpoint)
    (configNode : Json) (htexts : TextsOnly configNode) :
    (∀ parsed, parseQtradeEngineBootstrapConfig parseServiceEndpoint configNode =
        .found parsed ↔ Accepted parseServiceEndpoint configNode parsed) ∧
      ∀ shape entries', Sections configNode shape →
        Relation.EqvGen (Rearranges nameOf? serviceNames) shape.supportServices entries' →
        (∀ entry ∈ entries', ¬ Misnamed entry) →
        parseQtradeEngineBootstrapConfig parseServiceEndpoint
            (configNode.mapServices fun _ => entries') =
          parseQtradeEngineBootstrapConfig parseServiceEndpoint configNode := by
  constructor
  · intro parsed
    rw [← content?_eq_some_iff parseServiceEndpoint htexts,
      (reads_parse parseServiceEndpoint configNode).returns htexts.readable]
    cases content? parseServiceEndpoint configNode <;> simp [ofOption]
  · intro shape entries' hsections hrearranged hnames
    apply parse_mapServices parseServiceEndpoint htexts.readable
    intro same hsame
    cases Option.some.inj (hsame.symm.trans ((sections_iff _ _).mp hsections))
    exact ⟨hnames, fun name hname => (first?_eq_of_rearranged hrearranged hname).symm⟩

/-- An endpoint with its host and port, enabled and without deadline unless it says more. -/
def sampleEndpoint : Json → Option ServiceEndpoint
  | .object members =>
      match members.lookup "host", members.lookup "port" with
      | some (.string host), some (.integer port) =>
          let enabled := match members.lookup "enabled" with
            | some (.boolean enabled) => enabled
            | _ => true
          let timeoutMs := match members.lookup "timeout_ms" with
            | some (.integer timeoutMs) => timeoutMs
            | _ => 0
          some ⟨⟨enabled, host, port⟩, timeoutMs⟩
      | _, _ => none
  | _ => none

def sampleEntry (name : String) (port : Int) : Json :=
  .object [("name", .string name), ("host", .string "127.0.0.1"), ("port", .integer port),
    ("timeout_ms", .integer 1000)]

def sampleEntries : List Json :=
  [sampleEntry "config_service" 50051, sampleEntry "account_service" 50052,
    sampleEntry "account_risk_service" 50053]

def sampleFile : Json :=
  .object [
    ("config", .object [
      ("log_filename", .string "qtrade_engine.log"),
      ("strategy", .object [("plugin_dir", .string "/usr/local/qtrade/lib/strategies")]),
      ("identity", .object [("tenant_id", .string "default"), ("engine_id", .string "engine-1"),
        ("account_id", .string "acc_001")])]),
    ("support_services", .array sampleEntries)]

def sampleParsed : ParsedBootstrapConfig :=
  ⟨⟨"logs", "qtrade_engine.log", ⟨"/usr/local/qtrade/lib/strategies"⟩,
      ⟨"default", "engine-1", "acc_001"⟩⟩,
    ⟨⟨true, "127.0.0.1", 50051⟩, 1000⟩, ⟨⟨true, "127.0.0.1", 50052⟩, 1000⟩,
      ⟨⟨true, "127.0.0.1", 50053⟩, 1000⟩⟩

theorem accepts_complete_sample :
    Accepted sampleEndpoint sampleFile sampleParsed ∧
      parseQtradeEngineBootstrapConfig sampleEndpoint
          (sampleFile.mapServices fun _ => .null :: sampleEntries) =
        parseQtradeEngineBootstrapConfig sampleEndpoint sampleFile := by
  have htexts : TextsOnly sampleFile := by
    rintro _ ⟨⟩
    exact ⟨by decide, by decide, by decide, by decide⟩
  obtain ⟨haccepts, hrearranged⟩ := accepts_complete sampleEndpoint sampleFile htexts
  refine ⟨(haccepts sampleParsed).mp rfl, ?_⟩
  apply hrearranged _ _ ((sections_iff _ _).mpr rfl)
  · exact .rel _ _ (.insert [] _ fun _ _ => nofun)
  · decide

end QtradeClient.Boot
