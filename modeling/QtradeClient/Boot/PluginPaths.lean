import QtradeClient.Boot.Start
import QtradeClient.Library.Paths

/-!
# Where the plugins are loaded from

The path of a plugin is the plugin directory with a file name made of the name of the
strategy, which is whatever the config service has sent.
-/

namespace QtradeClient.Boot

open Bridge Library

theorem endsWith_slash (text : String) :
    text.endsWith "/" = true ↔ text.toList.getLast? = some Paths.separator := by
  have hsuffix : text.endsWith "/" = true ↔ "/".toList <:+ text.toList := by
    simpa using @String.Slice.endsWith_string_iff "/" text.toSlice
  rw [hsuffix, List.getLast?_eq_some_iff]
  exact ⟨fun ⟨stem, h⟩ => ⟨stem, h.symm⟩, fun ⟨stem, h⟩ => ⟨stem, h.symm⟩⟩

theorem toList_joinPath (directory file : String) :
    (joinPath directory file).toList = Paths.join directory.toList file.toList := by
  have hends : (directory = "" || directory.endsWith "/") = true ↔
      directory.toList = [] ∨ directory.toList.getLast? = some Paths.separator := by
    rw [Bool.or_eq_true, endsWith_slash, decide_eq_true_iff, String.toList_eq_nil_iff]
  unfold joinPath Paths.join
  by_cases hroot : (directory = "" || directory.endsWith "/") = true
  · rw [if_pos hroot, if_pos (hends.mp hroot), String.toList_append]
  · rw [if_neg hroot, if_neg (hroot ∘ hends.mpr), String.toList_append, String.toList_append]
    rw [List.append_assoc]
    rfl

/-- The file name of a strategy's plugin. -/
def pluginFile (strategyName : String) : String := "lib" ++ strategyName ++ "_strategy.so"

theorem pluginFile_isName {strategyName : String}
    (hname : Paths.separator ∉ strategyName.toList) :
    Paths.IsName (pluginFile strategyName).toList := by
  have hfile : (pluginFile strategyName).toList =
      'l' :: 'i' :: 'b' :: (strategyName.toList ++ "_strategy.so".toList) := by
    simp [pluginFile]
  rw [hfile]
  constructor
  · exact List.cons_ne_nil _ _
  · simp [Paths.here]
  · simp [Paths.up]
  · simpa [Paths.separator] using hname

theorem separator_mem_pluginFile {strategyName : String}
    (hname : Paths.separator ∈ strategyName.toList) :
    Paths.separator ∈ (pluginFile strategyName).toList := by
  simp [pluginFile, hname]

/-- The path leads to the plugin of that name, right in the plugin directory. -/
def Contained (pluginDir strategyName soPath : String) : Prop :=
  Paths.normal soPath.toList =
    (Paths.normal pluginDir.toList).entry (pluginFile strategyName).toList

theorem contained_iff (pluginDir strategyName : String) :
    Contained pluginDir strategyName (defaultPluginSoPath pluginDir strategyName) ↔
      Paths.separator ∉ strategyName.toList := by
  constructor
  · intro hcontained hname
    exact Paths.whole_of_normal_eq_entry hcontained (separator_mem_pluginFile hname)
  · intro hname
    have hjoined : (defaultPluginSoPath pluginDir strategyName).toList =
        Paths.join pluginDir.toList (pluginFile strategyName).toList := toList_joinPath _ _
    rw [Contained, hjoined, Paths.normal_join _ (pluginFile_isName hname)]

/-! ## The strategies that are reached -/

/-- The engine takes each of these strategies in turn. -/
def Accepts (world : World) (pluginDir : String) :
    List StrategyConfig → List StrategyConfig → Prop
  | _, [] => True
  | added, config :: rest =>
      world.addStrategy added config (defaultPluginSoPath pluginDir config.strategyName) =
          .kSuccess ∧
        Accepts world pluginDir (added ++ [config]) rest

/-- A strategy is reached when the engine has taken all before it. -/
def Reached (world : World) (pluginDir : String) (added strategies : List StrategyConfig)
    (config : StrategyConfig) : Prop :=
  ∃ before after, strategies = before ++ config :: after ∧ Accepts world pluginDir added before

section Reaching

variable {world : World} {pluginDir : String} {added rest : List StrategyConfig}
  {config first : StrategyConfig}

theorem reached_cons :
    Reached world pluginDir added (first :: rest) config ↔
      config = first ∨
        world.addStrategy added first (defaultPluginSoPath pluginDir first.strategyName) =
            .kSuccess ∧
          Reached world pluginDir (added ++ [first]) rest config := by
  constructor
  · rintro ⟨before, after, hlist, haccepts⟩
    cases before with
    | nil => exact .inl (List.cons.inj hlist).1.symm
    | cons head before =>
        obtain ⟨rfl, hrest⟩ := List.cons.inj hlist
        exact .inr ⟨haccepts.1, before, after, hrest, haccepts.2⟩
  · rintro (rfl | ⟨hcode, before, after, rfl, haccepts⟩)
    · exact ⟨[], rest, rfl, trivial⟩
    · exact ⟨first :: before, after, rfl, hcode, haccepts⟩

theorem not_reached_nil : ¬Reached world pluginDir added [] config := by
  rintro ⟨before, after, hlist, -⟩
  cases before with
  | nil => cases hlist
  | cons head before => cases hlist

end Reaching

/-- `AddStrategy` has been called with this path. -/
def Calls (acts : List Act) (config : StrategyConfig) (soPath : String) : Prop :=
  ∃ code, .addStrategy config soPath code ∈ acts

section Loading

variable {world : World} {pluginDir soPath : String} {added : List StrategyConfig}
  {config : StrategyConfig}

theorem calls_addStrategies_cons {first : StrategyConfig} {rest : List StrategyConfig} :
    Calls (addStrategies world pluginDir added (first :: rest)).1 config soPath ↔
      (config = first ∧ soPath = defaultPluginSoPath pluginDir first.strategyName) ∨
        world.addStrategy added first (defaultPluginSoPath pluginDir first.strategyName) =
            .kSuccess ∧
          Calls (addStrategies world pluginDir (added ++ [first]) rest).1 config soPath := by
  rw [addStrategies]
  by_cases hcode : world.addStrategy added first
      (defaultPluginSoPath pluginDir first.strategyName) = .kSuccess
  · simp [Calls, hcode, exists_or]
  · simp [Calls, hcode]

/-- The strategies that are reached are added, each with its default path. -/
theorem calls_addStrategies {strategies : List StrategyConfig} :
    Calls (addStrategies world pluginDir added strategies).1 config soPath ↔
      soPath = defaultPluginSoPath pluginDir config.strategyName ∧
        Reached world pluginDir added strategies config := by
  induction strategies generalizing added with
  | nil => simp [Calls, addStrategies, not_reached_nil]
  | cons first rest ih =>
      rw [calls_addStrategies_cons, ih, reached_cons]
      constructor
      · rintro (⟨rfl, hpath⟩ | ⟨hcode, hpath, hreached⟩)
        · exact ⟨hpath, .inl rfl⟩
        · exact ⟨hpath, .inr ⟨hcode, hreached⟩⟩
      · rintro ⟨hpath, rfl | ⟨hcode, hreached⟩⟩
        · exact .inl ⟨rfl, hpath⟩
        · exact .inr ⟨hcode, hpath, hreached⟩

theorem calls_loadStrategies (hdir : pluginDir ≠ "") {strategies : List StrategyConfig} :
    Calls (loadStrategies world pluginDir strategies).acts config soPath ↔
      soPath = defaultPluginSoPath pluginDir config.strategyName ∧
        Reached world pluginDir [] strategies config := by
  rw [loadStrategies, if_neg hdir]
  exact calls_addStrategies

end Loading

/-- What a message has to keep to: no strategy that the engine is given has a separator
in its name. -/
def Plain (blank : Blank) (world : World) (pluginDir : String) (engine : Proto.EngineConfig) :
    Prop :=
  ∀ before next after, engine.strategies = before ++ next :: after →
    Accepts world pluginDir [] (before.map (parseStrategyConfigProto blank)) →
    '/' ∉ next.strategyName.toList

theorem plain_iff {blank : Blank} {world : World} {pluginDir : String}
    {engine : Proto.EngineConfig} :
    Plain blank world pluginDir engine ↔
      ∀ config, Reached world pluginDir [] (toStrategyConfigs blank engine) config →
        '/' ∉ config.strategyName.toList := by
  constructor
  · rintro hplain config ⟨before, after, hlist, haccepts⟩
    obtain ⟨sent, others, hsent, rfl, hothers⟩ := List.map_eq_append_iff.mp hlist
    obtain ⟨next, later, rfl, rfl, -⟩ := List.map_eq_cons_iff.mp hothers
    exact hplain sent next later hsent haccepts
  · intro hnames before next after hlist haccepts
    have hreached : Reached world pluginDir [] (toStrategyConfigs blank engine)
        (parseStrategyConfigProto blank next) :=
      ⟨_, after.map (parseStrategyConfigProto blank), by rw [toStrategyConfigs, hlist,
        List.map_append, List.map_cons], haccepts⟩
    exact hnames _ hreached

/-- All plugins that a message makes the engine load are in the plugin directory, under
their names, exactly when the message is plain. -/
theorem plugins_contained_iff (blank : Blank) (world : World) (pluginDir : String)
    (engine : Proto.EngineConfig) (hdir : pluginDir ≠ "") :
    (∀ config soPath,
      Calls (loadStrategies world pluginDir (toStrategyConfigs blank engine)).acts
        config soPath →
      Contained pluginDir config.strategyName soPath) ↔
      Plain blank world pluginDir engine := by
  rw [plain_iff]
  constructor
  · intro hcontained config hreached
    have hcalled := (calls_loadStrategies hdir).mpr ⟨rfl, hreached⟩
    exact (contained_iff pluginDir config.strategyName).mp (hcontained config _ hcalled)
  · intro hnames config soPath hcalled
    obtain ⟨rfl, hreached⟩ := (calls_loadStrategies hdir).mp hcalled
    exact (contained_iff pluginDir config.strategyName).mpr (hnames config hreached)

section Samples

/-- A strategy of the given name. -/
private def sampleStrategy (strategyName : String) : Proto.StrategyConfig :=
  ⟨true, "s1", strategyName, [], 0, 1, 1, none, none, none, none⟩

/-- A message with one strategy of the given name. -/
private def sampleMessage (strategyName : String) : Proto.EngineConfig :=
  { engineId := "e", accountId := "a", executionAdapter := "mock"
    quoteConnectionString := "mock://quote", quoteSource := "mock", quoteFailover := false
    quoteMaxStaleMs := 0, instanceRisk := ⟨0, 0, 0, 0, 0⟩
    strategies := [sampleStrategy strategyName] }

private def sampleBlank : Blank :=
  ⟨⟨"", "", "", false, 0, ⟨0, 0, 0, 0, 0⟩⟩, ⟨0, 0, 0, 0, 0⟩⟩

private def sampleWorld : World where
  environmentReady := true
  configAnswer := .error .unavailable
  engineRequests := []
  credentialAnswer := .error .unavailable
  venue := ⟨fun _ _ => .kSuccess, fun _ _ => .kSuccess⟩
  engineInit := fun _ => .kSuccess
  addStrategy := fun _ _ _ => .kSuccess
  engineStart := .kSuccess

/-- An ordinary name. -/
theorem plugins_contained_grid :
    Contained "/opt/plugins" "grid" (defaultPluginSoPath "/opt/plugins" "grid") := by
  have hdir : "/opt/plugins" ≠ "" := by decide
  have hplain : Plain sampleBlank sampleWorld "/opt/plugins" (sampleMessage "grid") := by
    intro before next after hlist _
    have hnext : next ∈ (sampleMessage "grid").strategies := by
      rw [hlist]
      exact List.mem_append_right _ List.mem_cons_self
    rw [List.mem_singleton.mp hnext]
    decide
  have hcontained := (plugins_contained_iff sampleBlank sampleWorld "/opt/plugins"
    (sampleMessage "grid") hdir).mpr hplain
  have hreached : Reached sampleWorld "/opt/plugins" []
      (toStrategyConfigs sampleBlank (sampleMessage "grid"))
      (parseStrategyConfigProto sampleBlank (sampleStrategy "grid")) := ⟨[], [], rfl, trivial⟩
  exact hcontained (parseStrategyConfigProto sampleBlank (sampleStrategy "grid"))
    (defaultPluginSoPath "/opt/plugins" "grid")
    ((calls_loadStrategies hdir).mpr ⟨rfl, hreached⟩)

/-- A name that leads out of the plugin directory. -/
theorem plugins_escape :
    ∃ config soPath,
      Calls (loadStrategies sampleWorld "/opt/plugins"
        (toStrategyConfigs sampleBlank (sampleMessage "x/../../../tmp/evil"))).acts
          config soPath ∧
      Paths.normal soPath.toList = ⟨true, ["tmp".toList, "evil_strategy.so".toList]⟩ ∧
      ¬Contained "/opt/plugins" config.strategyName soPath := by
  have hdir : "/opt/plugins" ≠ "" := by decide
  have hescapes : Paths.normal (defaultPluginSoPath "/opt/plugins" "x/../../../tmp/evil").toList =
      ⟨true, ["tmp".toList, "evil_strategy.so".toList]⟩ := by
    rw [defaultPluginSoPath, toList_joinPath]
    decide
  refine ⟨_, _, (calls_loadStrategies hdir).mpr ⟨rfl, [], [], rfl, trivial⟩, hescapes, ?_⟩
  rw [contained_iff]
  decide

end Samples

end QtradeClient.Boot
