import Mathlib.Data.BitVec
import MmtkOpenJDK.Foundation.Overwriting

/-! The options that `MMTkHeap::initialize` passes to mmtk-core before
`openjdk_gc_init`: the flags of OpenJDK, the environment variables, the option string
of the command line and the heap size, each overwriting what is there. -/

namespace MmtkOpenJDK.Startup

open MmtkOpenJDK.Foundation

inductive GCTriggerSelector where
  | fixedHeapSize (size : BitVec 64)
  | dynamicHeapSize (min max : BitVec 64)
  | delegated
  deriving DecidableEq

/-- The options that OpenJDK's flags are forwarded to, and all others. -/
inductive OptionKey where
  | threads
  | transparentHugepages
  | gcTrigger
  | other (name : String)
  deriving DecidableEq

@[reducible] def OptionKey.Value : OptionKey → Type
  | .threads => BitVec 64
  | .transparentHugepages => Bool
  | .gcTrigger => GCTriggerSelector
  | .other _ => String

abbrev Options := (key : OptionKey) → key.Value

abbrev OptionSetting := Setting OptionKey.Value

/-- What mmtk-core knows about options: their defaults, which values they accept, and
what the environment variables and an option string ask for. A malformed string has
no settings. -/
structure OptionsCore where
  defaults : Options
  validate : OptionSetting → Bool
  parseEnvVars : List (String × String) → List OptionSetting
  parseBulk : String → Option (List OptionSetting)

/-- A flag of OpenJDK; `isDefault` is `FLAG_IS_DEFAULT`. -/
structure Flag (Value : Type) where
  value : Value
  isDefault : Bool

/-- The two sizes of the collector policy. -/
structure HeapSize where
  minHeapByteSize : BitVec 64
  maxHeapByteSize : BitVec 64

/-- What `MMTkHeap::initialize` reads of the VM and the process. It does not look at
whether the heap size is the default one. -/
structure VMArguments where
  parallelGCThreads : Flag (BitVec 32)
  useTransparentHugePages : Flag Bool
  useCompressedOops : Bool
  heapSize : Flag HeapSize
  thirdPartyHeapOptions : Option String
  environment : List (String × String)

section Builder

variable (core : OptionsCore) (builder : Options)

/-- `MMTKOption::set`: a value that is not valid is refused. -/
def setOption (setting : OptionSetting) : Options × Bool :=
  if core.validate setting then (overwrite builder setting, true) else (builder, false)

def mmtkBuilderSetThreads (value : BitVec 64) : Options := (setOption core builder ⟨.threads, value⟩).1

def mmtkBuilderSetTransparentHugepages (value : Bool) : Options :=
  (setOption core builder ⟨.transparentHugepages, value⟩).1

/-- Refused values are skipped. -/
def mmtkBuilderReadEnvVarSettings (environment : List (String × String)) : Options :=
  (core.parseEnvVars environment).foldl (fun builder setting => (setOption core builder setting).1) builder

/-- The first refused value ends the processing. -/
def setAll (builder : Options) : List OptionSetting → Options × Bool
  | [] => (builder, true)
  | setting :: rest =>
    match setOption core builder setting with
    | (builder, true) => setAll builder rest
    | (builder, false) => (builder, false)

def processBulk (options : String) : Options × Bool :=
  match core.parseBulk options with
  | some settings => setAll core builder settings
  | none => (builder, false)

/-- The heap-size policy for the two sizes. -/
def heapSizePolicy (min max : BitVec 64) : GCTriggerSelector :=
  if min = max then .fixedHeapSize min else .dynamicHeapSize min max

def mmtkSetHeapSize (min max : BitVec 64) : Options × Bool :=
  setOption core builder ⟨.gcTrigger, heapSizePolicy min max⟩

/-- With `setDefaults` the flags with default values are passed on, without it those
that were set. -/
def setMmtkOptions (arguments : VMArguments) (setDefaults : Bool) : Options :=
  let builder :=
    if arguments.parallelGCThreads.isDefault == setDefaults then
      mmtkBuilderSetThreads core builder (arguments.parallelGCThreads.value.setWidth 64)
    else builder
  if arguments.useTransparentHugePages.isDefault == setDefaults then
    mmtkBuilderSetTransparentHugepages core builder arguments.useTransparentHugePages.value
  else builder

end Builder

/-- An unexpected value aborts with a message. -/
def setBoolOptionFromEnvVar (environment : List (String × String)) (name : String) (var : Bool) :
    Except String Bool :=
  match environment.lookup name with
  | none => .ok var
  | some value =>
    if value = "true" ∨ value = "yes" ∨ value = "on" ∨ value = "1" then .ok true
    else if value = "false" ∨ value = "no" ∨ value = "off" ∨ value = "0" then .ok false
    else .error s!"Unexpected value for env var {name}: {value}\n"

/-- A `guarantee` over a call that says whether it succeeded. -/
def guarantee (result : Options × Bool) (message : String) : Except String Options :=
  if result.2 then .ok result.1 else .error message

/-- The option string of the command line, if there is one. -/
def processThirdPartyHeapOptions (core : OptionsCore) (builder : Options) : Option String → Except String Options
  | none => .ok builder
  | some options =>
    guarantee (processBulk core builder options)
      s!"Failed to set MMTk options. Please check if the options are valid: {options}\n"

/-- What is set up when `openjdk_gc_init` is called. -/
structure StartupState where
  builder : Options
  enableAllocationFastpath : Bool
  enableBarrierFastpath : Bool
  useCompressedOops : Bool

/-- `MMTkHeap::initialize` up to the call of `openjdk_gc_init`. -/
def mmtkHeapInitialize (core : OptionsCore) (arguments : VMArguments) : Except String StartupState := do
  let enableAllocationFastpath ←
    setBoolOptionFromEnvVar arguments.environment "MMTK_ENABLE_ALLOCATION_FASTPATH" true
  let enableBarrierFastpath ← setBoolOptionFromEnvVar arguments.environment "MMTK_ENABLE_BARRIER_FASTPATH" true
  let minHeapSize := arguments.heapSize.value.minHeapByteSize
  let maxHeapSize := arguments.heapSize.value.maxHeapByteSize
  let builder := core.defaults
  let builder := setMmtkOptions core builder arguments true
  let builder := mmtkBuilderReadEnvVarSettings core builder arguments.environment
  let builder := setMmtkOptions core builder arguments false
  let builder ← processThirdPartyHeapOptions core builder arguments.thirdPartyHeapOptions
  let builder ←
    guarantee (mmtkSetHeapSize core builder minHeapSize maxHeapSize)
      ("Failed to set MMTk heap size. Please check if the heap size is valid: " ++
        s!"min = {minHeapSize.toInt}, max = {maxHeapSize.toInt}\n")
  return { builder, enableAllocationFastpath, enableBarrierFastpath,
           useCompressedOops := arguments.useCompressedOops }

end MmtkOpenJDK.Startup
