import QtradeClient.Boot.BootstrapLaws

/-!
# Where the bootstrap parser raises

A caller is promised a config or a refusal.  The parser keeps this exactly on readable
files.  On these the entries of the support services matter only as far as the first one of
each name, so a file may be read with its list of entries changed.
-/

namespace QtradeClient.Boot

open Library Library.Named Library.Reading

/-! ## Changing the entries of a file -/

namespace Json

/-- Change the list if it is that of the support services. -/
def changeEntries (change : List Json → List Json) (key : String) : Json → Json
  | .array entries => .array (if key = "support_services" then change entries else entries)
  | other => other

/-- The file with its list of support services changed. -/
def mapServices (change : List Json → List Json) : Json → Json
  | .object root =>
      .object (root.map fun member => (member.1, changeEntries change member.1 member.2))
  | other => other

theorem lookup_map (change : String → Json → Json) (members : Members) (key : String) :
    (members.map fun member => (member.1, change member.1 member.2)).lookup key =
      (members.lookup key).map (change key) := by
  induction members with
  | nil => rfl
  | cons member members ih =>
      obtain ⟨name, found⟩ := member
      rw [List.map_cons, List.lookup_cons, List.lookup_cons, ih]
      by_cases hkey : key = name
      · subst hkey
        rw [beq_self_eq_true]
        rfl
      · rw [beq_false_of_ne hkey]

end Json

theorem bootstrapShape?_mapServices (change : List Json → List Json) (configNode : Json) :
    bootstrapShape? (configNode.mapServices change) =
      (bootstrapShape? configNode).map fun shape =>
        { shape with supportServices := change shape.supportServices } := by
  cases configNode with
  | object root =>
      have hobject (key : String) :
          ((root.lookup key).map (Json.changeEntries change key)).bind Json.asObject? =
            (root.lookup key).bind Json.asObject? := by
        cases root.lookup key with
        | none => rfl
        | some found => cases found <;> rfl
      have harray :
          ((root.lookup "support_services").map
            (Json.changeEntries change "support_services")).bind Json.asArray? =
              ((root.lookup "support_services").bind Json.asArray?).map change := by
        cases root.lookup "support_services" with
        | none => rfl
        | some found => cases found <;> rfl
      have hchanged : bootstrapShape? ((Json.object root).mapServices change) = (do
          let process ← (root.lookup "config").bind Json.asObject?
          let supportServices ←
            ((root.lookup "support_services").bind Json.asArray?).map change
          let identity ← (process.lookup "identity").bind Json.asObject?
          let strategy ← (process.lookup "strategy").bind Json.asObject?
          return ⟨process, identity, strategy, supportServices⟩) := by
        rw [← harray, ← hobject]
        unfold bootstrapShape? Json.mapServices
        simp only [Json.asObject?, Json.lookup_map, Option.bind_eq_bind, Option.bind_some]
      rw [hchanged]
      unfold bootstrapShape?
      simp only [Json.asObject?, Option.bind_eq_bind, Option.bind_some]
      cases (root.lookup "config").bind Json.asObject? with
      | none => rfl
      | some process =>
          cases (root.lookup "support_services").bind Json.asArray? with
          | none => rfl
          | some entries =>
              simp only [Option.map_some, Option.bind_some]
              cases (process.lookup "identity").bind Json.asObject? with
              | none => rfl
              | some identity =>
                  cases (process.lookup "strategy").bind Json.asObject? <;> rfl
  | _ => rfl

/-! ## Where the parser raises -/

namespace Json

def isText : Json → Bool
  | .string _ => true
  | _ => false

end Json

theorem textOrAbsent_iff (members : Members) (key : String) :
    (members.lookup key).all Json.isText = true ↔ TextOrAbsent members key := by
  unfold TextOrAbsent
  cases members.lookup key with
  | none => exact iff_of_true rfl (.inl rfl)
  | some found => cases found <;> simp [Json.isText]

instance (members : Members) (key : String) : Decidable (TextOrAbsent members key) :=
  decidable_of_iff _ (textOrAbsent_iff members key)

instance (entry : Json) : Decidable (Misnamed entry) :=
  match entry with
  | .object members => inferInstanceAs (Decidable (¬ TextOrAbsent members "name"))
  | .null | .boolean _ | .integer _ | .number _ | .string _ | .array _ => .isFalse not_false

/-- One of the settings has a value of another type than a text. -/
def Mistyped (configNode : Json) : Prop :=
  ∃ shape, bootstrapShape? configNode = some shape ∧
    (¬ TextOrAbsent shape.process "log_dir" ∨ ¬ TextOrAbsent shape.process "log_filename" ∨
      (∃ key ∈ identityKeys, ¬ TextOrAbsent shape.identity key) ∨
      ¬ TextOrAbsent shape.strategy "plugin_dir")

def dropMisnamed (entries : List Json) : List Json :=
  entries.filter fun entry => ¬ Misnamed entry

/-- What a caller is promised: the parser and the loading end without raising, a setting of
another type is refused, and misnamed entries are as good as absent. -/
structure Guarded (parseServiceEndpoint : Json → Option ServiceEndpoint) (configNode : Json) :
    Prop where
  returns : ∀ reason, parseQtradeEngineBootstrapConfig parseServiceEndpoint configNode ≠
    .raised reason
  loads : ∀ reason, loadBootstrapConfig parseServiceEndpoint (some configNode) ≠ .raised reason
  refuses : Mistyped configNode →
    parseQtradeEngineBootstrapConfig parseServiceEndpoint configNode = .refused
  skips : parseQtradeEngineBootstrapConfig parseServiceEndpoint
      (configNode.mapServices dropMisnamed) =
    parseQtradeEngineBootstrapConfig parseServiceEndpoint configNode

/-- A value of another type counts as no text. -/
theorem text_of_mistyped {members : Members} {key : String} (hnot : ¬ TextOrAbsent members key)
    (default : String) : text members key default = "" := by
  unfold TextOrAbsent at hnot
  unfold text
  cases hlookup : members.lookup key with
  | none => exact absurd (.inl hlookup) hnot
  | some found =>
      cases found with
      | string found => exact absurd (.inr ⟨found, hlookup⟩) hnot
      | _ => rfl

theorem content?_of_mistyped (parseServiceEndpoint : Json → Option ServiceEndpoint)
    {configNode : Json} (hmistyped : Mistyped configNode) :
    content? parseServiceEndpoint configNode = none := by
  obtain ⟨shape, hshape, hkey⟩ := hmistyped
  unfold content?
  rw [hshape, Option.bind_eq_bind, Option.bind_some]
  rcases hkey with hnot | hnot | ⟨key, hmem, hnot⟩ | hnot
  · have hlogs : logs? shape.process = none := if_pos (.inl (text_of_mistyped hnot _))
    rw [hlogs]
    rfl
  · have hlogs : logs? shape.process = none := if_pos (.inr (text_of_mistyped hnot _))
    rw [hlogs]
    rfl
  · have hempty := text_of_mistyped hnot ""
    have hidentity : identity? shape.identity = none := by
      simp only [identityKeys, List.mem_cons, List.not_mem_nil, or_false] at hmem
      rcases hmem with rfl | rfl | rfl
      · exact if_pos (.inl hempty)
      · exact if_pos (.inr (.inl hempty))
      · exact if_pos (.inr (.inr hempty))
    rw [hidentity]
    cases logs? shape.process <;> rfl
  · have hplugin : pluginDir? shape.strategy = none := if_pos (text_of_mistyped hnot _)
    rw [hplugin]
    cases logs? shape.process with
    | none => rfl
    | some logs => cases identity? shape.identity <;> rfl

/-- The content depends on the entries by the first one of each name only. -/
theorem services?_congr (parseServiceEndpoint : Json → Option ServiceEndpoint)
    {entries entries' : List Json}
    (hfirst : ∀ name ∈ serviceNames,
      first? nameOf? name entries' = first? nameOf? name entries) :
    services? parseServiceEndpoint entries' = services? parseServiceEndpoint entries := by
  have hservice (name : String) (hname : name ∈ serviceNames) :
      service? parseServiceEndpoint name entries' =
        service? parseServiceEndpoint name entries := by
    unfold service?
    rw [hfirst name hname]
  unfold services?
  rw [hservice "config_service" (by decide), hservice "account_service" (by decide),
    hservice "account_risk_service" (by decide)]

/-- A change of the entries that leaves the first one of each name and no misnamed one. -/
def KeepsServices (change : List Json → List Json) (entries : List Json) : Prop :=
  (∀ entry ∈ change entries, ¬ Misnamed entry) ∧
    ∀ name ∈ serviceNames, first? nameOf? name (change entries) = first? nameOf? name entries

theorem readable_mapServices {change : List Json → List Json} {configNode : Json}
    (hreadable : Readable configNode)
    (hkeeps : ∀ shape, bootstrapShape? configNode = some shape →
      KeepsServices change shape.supportServices) :
    Readable (configNode.mapServices change) := by
  intro changed hchanged
  rw [bootstrapShape?_mapServices] at hchanged
  obtain ⟨shape, hshape, rfl⟩ := Option.map_eq_some_iff.mp hchanged
  obtain ⟨hlogs, hrest⟩ := hreadable shape hshape
  refine ⟨hlogs, fun hlogged => ⟨(hrest hlogged).1, fun hidentified => ?_⟩⟩
  refine ⟨((hrest hlogged).2 hidentified).1, fun _ name _ entry hentry => ?_⟩
  exact (hkeeps shape hshape).1 entry ((List.takeWhile_prefix _).subset hentry)

/-- Such a change makes no difference to the parser. -/
theorem parse_mapServices (parseServiceEndpoint : Json → Option ServiceEndpoint)
    {change : List Json → List Json} {configNode : Json} (hreadable : Readable configNode)
    (hkeeps : ∀ shape, bootstrapShape? configNode = some shape →
      KeepsServices change shape.supportServices) :
    parseQtradeEngineBootstrapConfig parseServiceEndpoint (configNode.mapServices change) =
      parseQtradeEngineBootstrapConfig parseServiceEndpoint configNode := by
  rw [(reads_parse parseServiceEndpoint _).returns (readable_mapServices hreadable hkeeps),
    (reads_parse parseServiceEndpoint _).returns hreadable]
  apply congrArg
  unfold content?
  rw [bootstrapShape?_mapServices]
  cases hshape : bootstrapShape? configNode with
  | none => rfl
  | some shape =>
      simp only [Option.map_some, Option.bind_eq_bind, Option.bind_some]
      rw [services?_congr parseServiceEndpoint (hkeeps shape hshape).2]

theorem dropMisnamed_keepsServices (entries : List Json) :
    KeepsServices dropMisnamed entries := by
  constructor
  · intro entry hentry
    exact of_decide_eq_true (List.mem_filter.mp hentry).2
  · intro name _
    apply first?_filter
    intro entry hdropped
    exact nameOf?_of_misnamed (not_not.mp (of_decide_eq_false hdropped))

/-- The promise is kept exactly on readable files. -/
theorem guarded_iff (parseServiceEndpoint : Json → Option ServiceEndpoint) (configNode : Json) :
    Guarded parseServiceEndpoint configNode ↔ Readable configNode := by
  have hreads := reads_parse parseServiceEndpoint configNode
  constructor
  · intro hguarded
    exact hreads.readable_iff.mpr hguarded.returns
  · intro hreadable
    have hnever := hreads.readable_iff.mp hreadable
    refine ⟨hnever, hnever, ?_, ?_⟩
    · intro hmistyped
      rw [hreads.returns hreadable, content?_of_mistyped parseServiceEndpoint hmistyped]
      rfl
    · exact parse_mapServices parseServiceEndpoint hreadable
        fun shape _ => dropMisnamed_keepsServices shape.supportServices

/-- A file whose log directory is null. -/
def nullLogDir : Json :=
  .object [
    ("config", .object [("log_dir", .null), ("identity", .object []), ("strategy", .object [])]),
    ("support_services", .array [])]

/-- It ends the process instead of being refused. -/
theorem null_log_dir_raises :
    parseQtradeEngineBootstrapConfig (fun _ => none) nullLogDir = .raised .mustBeString ∧
      ¬ Guarded (fun _ => none) nullLogDir :=
  ⟨rfl, fun hguarded => hguarded.returns .mustBeString rfl⟩

end QtradeClient.Boot
