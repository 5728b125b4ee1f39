import MmtkOpenJDK.Startup.MMTkOptions

/-! The priority of the sources of an option: the defaults of mmtk-core, the default
flags of OpenJDK, the environment variables, the flags set on the command line, and
the option string. -/

namespace MmtkOpenJDK.Startup

open MmtkOpenJDK.Foundation

variable {core : OptionsCore} {arguments : VMArguments} {builder : Options} {settings : List OptionSetting}

/-- The flag's value, if it is a default or if it is not, as asked. -/
def Flag.valueIf {Value : Type} (flag : Flag Value) (isDefault : Bool) : Option Value :=
  if flag.isDefault == isDefault then some flag.value else none

/-- The policy that the heap size stands for. -/
def VMArguments.trigger (arguments : VMArguments) : GCTriggerSelector :=
  heapSizePolicy arguments.heapSize.value.minHeapByteSize arguments.heapSize.value.maxHeapByteSize

/-- The flag of OpenJDK that corresponds to an option. -/
def VMArguments.flagFor (arguments : VMArguments) : (key : OptionKey) → Option (Flag key.Value)
  | .threads => some ⟨arguments.parallelGCThreads.value.setWidth 64, arguments.parallelGCThreads.isDefault⟩
  | .transparentHugepages => some arguments.useTransparentHugePages
  | .gcTrigger => some ⟨arguments.trigger, arguments.heapSize.isDefault⟩
  | .other _ => none

/-- The settings of the option string; there are none if it is malformed. -/
def thirdPartySettings (core : OptionsCore) (arguments : VMArguments) : List OptionSetting :=
  (arguments.thirdPartyHeapOptions.bind core.parseBulk).getD []

/-- What each source says about an option, in increasing priority. -/
def sources (core : OptionsCore) (arguments : VMArguments) (key : OptionKey) : List (Option key.Value) :=
  [some (core.defaults key),
    (arguments.flagFor key).bind (·.valueIf true),
    lastValue (core.parseEnvVars arguments.environment) key,
    (arguments.flagFor key).bind (·.valueIf false),
    lastValue (thirdPartySettings core arguments) key]

/-- Every value that is given is one that mmtk-core accepts. -/
structure ValidArguments (core : OptionsCore) (arguments : VMArguments) : Prop where
  threads : core.validate ⟨.threads, arguments.parallelGCThreads.value.setWidth 64⟩ = true
  transparentHugepages : core.validate ⟨.transparentHugepages, arguments.useTransparentHugePages.value⟩ = true
  heapSize : core.validate ⟨.gcTrigger, arguments.trigger⟩ = true
  environment : ∀ setting ∈ core.parseEnvVars arguments.environment, core.validate setting = true
  wellFormed : ∀ options, arguments.thirdPartyHeapOptions = some options → (core.parseBulk options).isSome
  thirdParty : ∀ setting ∈ thirdPartySettings core arguments, core.validate setting = true
  fastpaths : ∀ name ∈ ["MMTK_ENABLE_ALLOCATION_FASTPATH", "MMTK_ENABLE_BARRIER_FASTPATH"],
    ∃ value, setBoolOptionFromEnvVar arguments.environment name true = .ok value

/-- The options follow the priority of their sources, and none depends on the sources
of another one. -/
structure ObeysPriority (core : OptionsCore) (arguments : VMArguments) (builder : Options) : Prop where
  chosen : ∀ key, highest (sources core arguments key) = some (builder key)
  independent : ∀ key other state, ValidArguments core other → sources core other key = sources core arguments key →
    mmtkHeapInitialize core other = .ok state → state.builder key = builder key

/-- Neither the option string nor, while the heap size is a default, an environment
variable asks for a trigger other than the heap size's own. -/
structure TriggerUncontested (core : OptionsCore) (arguments : VMArguments) : Prop where
  thirdParty : ∀ trigger, lastValue (thirdPartySettings core arguments) .gcTrigger = some trigger →
    trigger = arguments.trigger
  environment : arguments.heapSize.isDefault = true →
    lastValue (thirdPartySettings core arguments) .gcTrigger = none →
    ∀ trigger, lastValue (core.parseEnvVars arguments.environment) .gcTrigger = some trigger →
      trigger = arguments.trigger

/-- The flag of an option as a setting, in the pass in which it is forwarded. -/
def forwarded (arguments : VMArguments) (setDefaults : Bool) (key : OptionKey) : List OptionSetting :=
  (((arguments.flagFor key).bind (·.valueIf setDefaults)).map (Sigma.mk key)).toList

def flagSettings (arguments : VMArguments) (setDefaults : Bool) : List OptionSetting :=
  forwarded arguments setDefaults .threads ++ forwarded arguments setDefaults .transparentHugepages

/-- All settings in the order in which they are made. -/
def settingsInOrder (core : OptionsCore) (arguments : VMArguments) : List OptionSetting :=
  flagSettings arguments true ++ core.parseEnvVars arguments.environment ++ flagSettings arguments false ++
    thirdPartySettings core arguments ++ [⟨.gcTrigger, arguments.trigger⟩]

section Order

theorem setOption_valid {setting : OptionSetting} (valid : core.validate setting = true) :
    setOption core builder setting = (overwrite builder setting, true) := by
  rw [setOption, if_pos valid]

theorem readEnvVars_valid (valid : ValidArguments core arguments) :
    mmtkBuilderReadEnvVarSettings core builder arguments.environment =
      (core.parseEnvVars arguments.environment).foldl overwrite builder := by
  rw [mmtkBuilderReadEnvVarSettings]
  refine List.foldl_ext _ _ builder ?_
  intro builder setting member
  rw [setOption_valid (valid.environment setting member)]

theorem setAll_valid (valid : ∀ setting ∈ settings, core.validate setting = true) :
    setAll core builder settings = (settings.foldl overwrite builder, true) := by
  induction settings generalizing builder with
  | nil => rfl
  | cons setting rest ih =>
    rw [setAll, setOption_valid (valid setting List.mem_cons_self), List.foldl_cons]
    exact ih (fun other member => valid other (List.mem_cons_of_mem _ member))

theorem forwarded_of_flag {key : OptionKey} {flag : Flag key.Value} (found : arguments.flagFor key = some flag)
    (setDefaults : Bool) :
    forwarded arguments setDefaults key = if flag.isDefault == setDefaults then [⟨key, flag.value⟩] else [] := by
  rw [forwarded, found, Option.bind_some, Flag.valueIf]
  split
  · rfl
  · rfl

theorem setMmtkOptions_valid (valid : ValidArguments core arguments) (setDefaults : Bool) :
    setMmtkOptions core builder arguments setDefaults = (flagSettings arguments setDefaults).foldl overwrite builder := by
  have threads : arguments.flagFor .threads =
    some ⟨arguments.parallelGCThreads.value.setWidth 64, arguments.parallelGCThreads.isDefault⟩ := rfl
  have hugepages : arguments.flagFor .transparentHugepages = some arguments.useTransparentHugePages := rfl
  rw [flagSettings, forwarded_of_flag threads, forwarded_of_flag hugepages, List.foldl_append, setMmtkOptions,
    mmtkBuilderSetThreads, setOption_valid valid.threads]
  simp only [mmtkBuilderSetTransparentHugepages, setOption_valid valid.transparentHugepages]
  cases arguments.parallelGCThreads.isDefault == setDefaults <;>
    cases arguments.useTransparentHugePages.isDefault == setDefaults <;> rfl

theorem processThirdParty_valid (valid : ValidArguments core arguments) :
    processThirdPartyHeapOptions core builder arguments.thirdPartyHeapOptions =
      .ok ((thirdPartySettings core arguments).foldl overwrite builder) := by
  have accepted := valid.thirdParty
  unfold thirdPartySettings at accepted ⊢
  cases given : arguments.thirdPartyHeapOptions with
  | none => rfl
  | some options =>
    obtain ⟨settings, parsed⟩ := Option.isSome_iff_exists.mp (valid.wellFormed options given)
    rw [given, Option.bind_some, parsed, Option.getD_some] at accepted
    rw [Option.bind_some, processThirdPartyHeapOptions, processBulk, parsed]
    simp only [setAll_valid accepted, guarantee, Option.getD_some, if_true]

/-- Valid arguments always get through, and the options are the result of the settings
in their order. -/
theorem initialize_valid (valid : ValidArguments core arguments) :
    ∃ state, mmtkHeapInitialize core arguments = .ok state ∧
      state.builder = (settingsInOrder core arguments).foldl overwrite core.defaults := by
  obtain ⟨allocation, allocationSet⟩ := valid.fastpaths "MMTK_ENABLE_ALLOCATION_FASTPATH" (by simp)
  obtain ⟨barrier, barrierSet⟩ := valid.fastpaths "MMTK_ENABLE_BARRIER_FASTPATH" (by simp)
  have heapSize (builder : Options) : mmtkSetHeapSize core builder arguments.heapSize.value.minHeapByteSize
      arguments.heapSize.value.maxHeapByteSize = (overwrite builder ⟨.gcTrigger, arguments.trigger⟩, true) :=
    setOption_valid valid.heapSize
  refine ⟨⟨_, allocation, barrier, arguments.useCompressedOops⟩, ?_, rfl⟩
  simp only [mmtkHeapInitialize, allocationSet, barrierSet, setMmtkOptions_valid valid, readEnvVars_valid valid,
    processThirdParty_valid valid, heapSize, guarantee, settingsInOrder, List.foldl_append, List.foldl_cons,
    List.foldl_nil, if_true, bind, Except.bind, pure, Except.pure]

theorem lastValue_forwarded (key : OptionKey) (setDefaults : Bool) :
    lastValue (forwarded arguments setDefaults key) key = (arguments.flagFor key).bind (·.valueIf setDefaults) := by
  unfold forwarded
  cases (arguments.flagFor key).bind (·.valueIf setDefaults) with
  | none => rfl
  | some value => simp [lastValue, highest, valueIn]

theorem lastValue_forwarded_other {key other : OptionKey} (different : key ≠ other) (setDefaults : Bool) :
    lastValue (forwarded arguments setDefaults key) other = none := by
  unfold forwarded
  cases (arguments.flagFor key).bind (·.valueIf setDefaults) with
  | none => rfl
  | some value => simp [lastValue, highest, valueIn, different]

/-- For all options but the trigger, a pass over the flags forwards the option's own one. -/
theorem lastValue_flagSettings {key : OptionKey} (notTrigger : key ≠ .gcTrigger) (setDefaults : Bool) :
    lastValue (flagSettings arguments setDefaults) key = (arguments.flagFor key).bind (·.valueIf setDefaults) := by
  rw [flagSettings, lastValue_append]
  by_cases hugepages : key = .transparentHugepages
  · subst hugepages
    rw [lastValue_forwarded, lastValue_forwarded_other (by decide), Option.or_none]
  · rw [lastValue_forwarded_other (Ne.symm hugepages), Option.none_or]
    by_cases threads : key = .threads
    · subst threads
      exact lastValue_forwarded .threads setDefaults
    · rw [lastValue_forwarded_other (Ne.symm threads)]
      cases key with
      | threads => exact absurd rfl threads
      | transparentHugepages => exact absurd rfl hugepages
      | gcTrigger => exact absurd rfl notTrigger
      | other name => rfl

/-- All options but the trigger end up with the value of their highest source. -/
theorem highest_sources_of_ne {key : OptionKey} (notTrigger : key ≠ .gcTrigger) :
    highest (sources core arguments key) =
      some ((settingsInOrder core arguments).foldl overwrite core.defaults key) := by
  have heapSize : lastValue [(⟨.gcTrigger, arguments.trigger⟩ : OptionSetting)] key = none := by
    simp [lastValue, highest, valueIn, Ne.symm notTrigger]
  rw [foldl_overwrite, settingsInOrder, lastValue_append, lastValue_append, lastValue_append, lastValue_append,
    heapSize, lastValue_flagSettings notTrigger, lastValue_flagSettings notTrigger]
  simp [sources, highest, Option.or_assoc]

/-- The trigger ends up with the heap size, whatever else was said about it. -/
theorem trigger_of_order :
    (settingsInOrder core arguments).foldl overwrite core.defaults .gcTrigger = arguments.trigger := by
  rw [foldl_overwrite, settingsInOrder, lastValue_append]
  rfl

/-- The trigger that should be chosen. -/
theorem highest_trigger :
    highest (sources core arguments .gcTrigger) =
      some ((lastValue (thirdPartySettings core arguments) .gcTrigger).getD
        (if arguments.heapSize.isDefault then
          (lastValue (core.parseEnvVars arguments.environment) .gcTrigger).getD arguments.trigger
        else arguments.trigger)) := by
  have flag : arguments.flagFor .gcTrigger = some ⟨arguments.trigger, arguments.heapSize.isDefault⟩ := rfl
  rw [sources, flag]
  cases arguments.heapSize.isDefault <;>
    cases lastValue (thirdPartySettings core arguments) .gcTrigger <;>
    cases lastValue (core.parseEnvVars arguments.environment) .gcTrigger <;> rfl

theorem highest_trigger_iff :
    highest (sources core arguments .gcTrigger) = some arguments.trigger ↔ TriggerUncontested core arguments := by
  rw [highest_trigger, Option.some_inj]
  cases thirdParty : lastValue (thirdPartySettings core arguments) .gcTrigger with
  | some trigger =>
    constructor
    · intro same
      refine ⟨?_, ?_⟩
      · intro other found
        rw [thirdParty] at found
        exact (Option.some.inj found).symm.trans same
      · intro _ missing
        rw [thirdParty] at missing
        cases missing
    · intro uncontested
      exact uncontested.thirdParty trigger thirdParty
  | none =>
    constructor
    · intro same
      refine ⟨?_, ?_⟩
      · intro other found
        rw [thirdParty] at found
        cases found
      · intro isDefault _ trigger found
        rw [Option.getD_none, if_pos isDefault, found] at same
        exact same
    · intro uncontested
      rw [Option.getD_none]
      split
      · rename_i isDefault
        cases environment : lastValue (core.parseEnvVars arguments.environment) .gcTrigger with
        | none => rfl
        | some trigger => exact uncontested.environment isDefault thirdParty trigger environment
      · rfl

/-- The heap size is the value of one of the trigger's sources. -/
theorem trigger_of_sources {other : VMArguments}
    (same : sources core other .gcTrigger = sources core arguments .gcTrigger) : other.trigger = arguments.trigger := by
  have flag (arguments : VMArguments) :
      arguments.flagFor .gcTrigger = some ⟨arguments.trigger, arguments.heapSize.isDefault⟩ := rfl
  rw [sources, sources, flag other, flag arguments] at same
  simp only [List.cons.injEq, Option.bind_some, Flag.valueIf, and_true] at same
  obtain ⟨_, byDefault, _, explicit, _⟩ := same
  cases isDefault : arguments.heapSize.isDefault with
  | true =>
    rw [isDefault, beq_self_eq_true, if_pos rfl] at byDefault
    split at byDefault
    · exact Option.some.inj byDefault
    · cases byDefault
  | false =>
    rw [isDefault, beq_self_eq_true, if_pos rfl] at explicit
    split at explicit
    · exact Option.some.inj explicit
    · cases explicit

end Order

/-- Valid arguments reach `openjdk_gc_init`. All options but the trigger then follow the
priority of their sources; the trigger does exactly if nothing contests the heap size. -/
theorem options_follow_priority_iff (core : OptionsCore) (arguments : VMArguments)
    (valid : ValidArguments core arguments) :
    ∃ state, mmtkHeapInitialize core arguments = .ok state ∧
      (∀ key, key ≠ .gcTrigger → highest (sources core arguments key) = some (state.builder key)) ∧
      (ObeysPriority core arguments state.builder ↔ TriggerUncontested core arguments) := by
  obtain ⟨state, reached, builder⟩ := initialize_valid valid
  have others : ∀ key, key ≠ .gcTrigger → highest (sources core arguments key) = some (state.builder key) := by
    intro key notTrigger
    rw [builder]
    exact highest_sources_of_ne notTrigger
  have trigger : state.builder .gcTrigger = arguments.trigger := by rw [builder, trigger_of_order]
  refine ⟨state, reached, others, ?_⟩
  constructor
  · intro obeys
    rw [← highest_trigger_iff, obeys.chosen, trigger]
  · intro uncontested
    refine ⟨?_, ?_⟩
    · intro key
      by_cases isTrigger : key = .gcTrigger
      · subst isTrigger
        rw [trigger]
        exact highest_trigger_iff.mpr uncontested
      · exact others key isTrigger
    · intro key other after otherValid same reachedOther
      obtain ⟨state', reached', builder'⟩ := initialize_valid otherValid
      have equal : state' = after := Except.ok.inj (reached'.symm.trans reachedOther)
      subst equal
      by_cases isTrigger : key = .gcTrigger
      · subst isTrigger
        rw [trigger, builder', trigger_of_order, trigger_of_sources same]
      · have chosen : highest (sources core other key) = _ := highest_sources_of_ne isTrigger
        rw [same, others key isTrigger] at chosen
        rw [builder']
        exact (Option.some.inj chosen).symm

/-- mmtk-core as far as the strings below go. -/
def sampleCore : OptionsCore where
  defaults
    | .threads => 8
    | .transparentHugepages => false
    | .gcTrigger => .fixedHeapSize 0x100000000
    | .other _ => ""
  validate
    | ⟨.threads, count⟩ => count != 0
    | ⟨.gcTrigger, .fixedHeapSize size⟩ => size != 0
    | ⟨.gcTrigger, .dynamicHeapSize min max⟩ => min ≤ max
    | ⟨_, _⟩ => true
  parseEnvVars environment := environment.filterMap fun assignment =>
    if assignment = ("MMTK_THREADS", "2") then some ⟨.threads, 2⟩
    else if assignment = ("MMTK_GC_TRIGGER", "FixedHeapSize:67108864") then some ⟨.gcTrigger, .fixedHeapSize 67108864⟩
    else none
  parseBulk options := if options = "threads=3" then some [⟨.threads, 3⟩] else none

/-- A heap of the default size, four threads by flag and three by string, and one
environment variable. -/
def sampleArguments (assignment : String × String) : VMArguments where
  parallelGCThreads := ⟨4, false⟩
  useTransparentHugePages := ⟨false, true⟩
  useCompressedOops := true
  heapSize := ⟨⟨0x800000, 0x80000000⟩, true⟩
  thirdPartyHeapOptions := some "threads=3"
  environment := [assignment]

theorem sampleArguments_valid {assignment : String × String}
    (known : assignment = ("MMTK_THREADS", "2") ∨
      assignment = ("MMTK_GC_TRIGGER", "FixedHeapSize:67108864")) :
    ValidArguments sampleCore (sampleArguments assignment) := by
  rcases known with rfl | rfl
  all_goals
    refine ⟨by decide, by decide, by decide, by decide, ?_, by decide, ?_⟩
    · intro options given
      cases given
      decide
    · intro name member
      refine ⟨true, ?_⟩
      revert name
      decide

/-- The string has priority over the flag, and the flag over the environment. -/
theorem threads_by_option_string :
    ∃ state, mmtkHeapInitialize sampleCore (sampleArguments ("MMTK_THREADS", "2")) = .ok state ∧
      state.builder .threads = 3 ∧
      ObeysPriority sampleCore (sampleArguments ("MMTK_THREADS", "2")) state.builder := by
  obtain ⟨state, reached, others, obeys⟩ :=
    options_follow_priority_iff sampleCore (sampleArguments ("MMTK_THREADS", "2")) (sampleArguments_valid (.inl rfl))
  have threads := others .threads (by decide)
  refine ⟨state, reached, (Option.some.inj threads).symm, obeys.mpr ⟨?_, ?_⟩⟩
  · intro trigger found
    cases found
  · intro _ _ trigger found
    cases found

/-- The default heap size of OpenJDK replaces the trigger of the environment. -/
theorem default_heap_size_overrides_environment :
    ValidArguments sampleCore (sampleArguments ("MMTK_GC_TRIGGER", "FixedHeapSize:67108864")) ∧
      (sampleArguments ("MMTK_GC_TRIGGER", "FixedHeapSize:67108864")).heapSize.isDefault = true ∧
      ∃ state, mmtkHeapInitialize sampleCore (sampleArguments ("MMTK_GC_TRIGGER", "FixedHeapSize:67108864")) = .ok state ∧
        state.builder .gcTrigger = .dynamicHeapSize 0x800000 0x80000000 ∧
        ¬ ObeysPriority sampleCore (sampleArguments ("MMTK_GC_TRIGGER", "FixedHeapSize:67108864")) state.builder := by
  have valid : ValidArguments sampleCore (sampleArguments ("MMTK_GC_TRIGGER", "FixedHeapSize:67108864")) :=
    sampleArguments_valid (.inr rfl)
  obtain ⟨state, reached, builder⟩ := initialize_valid valid
  have trigger : state.builder .gcTrigger = .dynamicHeapSize 0x800000 0x80000000 := by
    rw [builder, trigger_of_order]
    decide
  refine ⟨valid, rfl, state, reached, trigger, ?_⟩
  intro obeys
  have chosen := obeys.chosen .gcTrigger
  rw [trigger] at chosen
  exact absurd chosen (by decide)

end MmtkOpenJDK.Startup
