/-
**The command line against the config file: what an explicit option is worth.**

The config file gives the defaults of the real parse, so both decide. An option that stores replaces
the default, an option that appends extends it, and of two options of one group, one given and one from
the config file, the code that reads them prefers one by the order of its branches.

* `applyProfile`, `render`, `inventoryFormat`, `validityCap` — where the groups are read.
* `effect` — what an option is for: for the groups, what `main` makes of them (`plan`); for any other
  option, everything that was parsed.
* `Overrides` — an option has the effect it would have had without the config file's values for it and
  its group.
* `plan_eq`, `render_eq_iff`, `inventoryFormat_eq_iff` — what the plan depends on.
* `overrides_stored`, `overrides_appended_iff`, `overrides_output_iff`, `overrides_notAfterMax_iff` — one
  kind of option after the other.
* **`explicit_overrides_iff`** — every explicit option overrides the config file exactly when the
  conditions of `Respected` hold.
-/

import Certinspect.Cli.Args
import Certinspect.Library.FirstHit
import Mathlib.Data.List.TakeWhile

namespace Certinspect.Cli

open Library

/-! ### The profile -/

/-- `value is None`. -/
def isNone : Value → Bool
  | .scalar .none => true
  | _ => false

/-- `args.name = value`, when the condition holds. -/
def setIf (condition : Bool) (name : String) (value : Scalar) (args : Namespace) : Namespace :=
  if condition then Function.update args name (.scalar value) else args

/-- `POLICY_PROFILES[name]`, or the class of the exception. -/
def presetOf : Value → Except ExcClass Parser.PolicyProfile
  | .scalar (.str name) =>
    match Parser.policyProfiles.lookup name with
    | some preset => .ok preset
    | none => .error .keyError
  | .scalar _ => .error .keyError
  | .list _ | .table _ => .error .typeError

/-- What a preset makes of the parsed arguments. -/
def fillIn (preset : Parser.PolicyProfile) (args : Namespace) : Namespace :=
  let args := setIf (preset.minKeySize.isSome && isNone (args "min_key_size")) "min_key_size"
    (.int (preset.minKeySize.getD 0)) args
  let args := setIf
    (preset.minTlsVersion.isSome && isNone (args "min_tls_version") && !(args "file").truthy)
    "min_tls_version" (.str (preset.minTlsVersion.getD "")) args
  let args := setIf preset.failWeak "fail_weak" (.bool true) args
  let args := setIf preset.requireSct "require_sct" (.bool true) args
  let args := setIf preset.requireMustStaple "require_must_staple" (.bool true) args
  setIf (preset.cabForum && isNone (args "not_after_max")) "cab_forum" (.bool true) args

/-- `_apply_profile`. -/
def applyProfile (args : Namespace) : Except ExcClass Namespace :=
  if (args "profile").truthy then (presetOf (args "profile")).map fun preset => fillIn preset args
  else .ok args

/-! ### The output and the validity cap -/

/-- `value == text`. -/
def isStr (text : String) : Value → Bool
  | .scalar (.str found) => found == text
  | _ => false

/-- `value == 1`. -/
def isOne : Value → Bool
  | .scalar (.int n) => n == 1
  | .scalar (.bool b) => b
  | .scalar (.float bits) => bits == 0x3FF0000000000000
  | _ => false

/-- The formatter that `render` calls, with what it alone is given. -/
inductive Format
  | nagios
  | prometheus
  | fields (names : Value)
  | csv (delimiter : Value)
  | json
  | jsonV2
  | human

/-- `OutputOptions`, as far as `render` chooses the formatter by them. -/
structure OutputOptions where
  asJson : Value
  asCsv : Value
  csvDelimiter : Value
  schema : Value
  exporter : Value
  fields : Value

/-- `OutputOptions.from_args`. -/
def OutputOptions.fromArgs (args : Namespace) : OutputOptions where
  asJson := args "json"
  asCsv := args "csv"
  csvDelimiter := args "csv_delimiter"
  schema := args "schema"
  exporter := args "exporter"
  fields := args "field"

/-- The branches of `render`. -/
def render (opts : OutputOptions) : Format :=
  if isStr "nagios" opts.exporter then .nagios
  else if isStr "prometheus" opts.exporter then .prometheus
  else if opts.fields.truthy then .fields opts.fields
  else if opts.asCsv.truthy then .csv opts.csvDelimiter
  else if opts.asJson.truthy then if isOne opts.schema then .json else .jsonV2
  else .human

/-- The formats of the Certificate Transparency inventory. -/
inductive InventoryFormat
  | json
  | csv (delimiter : Value)
  | text

/-- The branches of `format_ct_inventory`, as `_run_discover_only` calls it. -/
def inventoryFormat (args : Namespace) : InventoryFormat :=
  if (args "json").truthy then .json
  else if (args "csv").truthy then .csv (args "csv_delimiter")
  else .text

/-- The limit of `_check_policy` on the validity. -/
def validityCap (today : Int) (args : Namespace) : Value :=
  if (args "cab_forum").truthy then .scalar (.int (Parser.cabForumMaxValidity today))
  else args "not_after_max"

/-- A limit that may be missing. -/
def limitOf : Option Int → Scalar
  | some limit => .int limit
  | none => .none

/-- The limit is that of the policy which `_check_policy` checks. -/
theorem validityCap_policy (today : Int) (opts : InspectOptions) (args : Namespace)
    (forum : args "cab_forum" = .scalar (.bool opts.cabForum))
    (limit : args "not_after_max" = .scalar (limitOf opts.notAfterMax)) :
    validityCap today args = .scalar (limitOf (opts.policy today).notAfterMax) := by
  unfold validityCap InspectOptions.policy
  rw [forum, limit]
  cases opts.cabForum <;> rfl

/-- What `main` makes of the options of the groups: the inventory in some format, or the inspection
under some limit and the report in some format. -/
inductive Plan
  | inventory (format : InventoryFormat)
  | report (format : Format) (cap : Value)

/-- `main`, as far as it reads the options of the groups. -/
def plan (today : Int) (args : Namespace) : Except ExcClass Plan :=
  (applyProfile args).map fun args =>
    if (args "discover_only").truthy then .inventory (inventoryFormat args)
    else .report (render (.fromArgs args)) (validityCap today args)

/-! ### Overriding -/

/-- An option and the others of its group. -/
def family (dest : String) : List String :=
  (configExclusiveGroups.find? fun group => group.contains dest).getD [dest]

/-- What an option is for. -/
inductive Effect
  | plan (plan : Except ExcClass Plan)
  | everything (args : Namespace)

/-- The effect of an option: for the groups, the plan; for any other option, all that was parsed. -/
def effect (today : Int) (dest : String) (args : Namespace) : Effect :=
  if configExclusiveGroups.any fun group => group.contains dest then .plan (plan today args)
  else .everything args

/-- **An option has the effect it would have had** without the config file's values for it and for its
group. -/
def Overrides (readers : Readers) (files : ConfigFiles) (cmd : CommandLine) (today : Int)
    (args : Namespace) (dest : String) : Prop :=
  ∃ alone, parseArgs buildParser readers (files.without (family dest)) cmd = .ok (some alone) ∧
    effect today dest args = effect today dest alone

/-- The order in which the output is chosen. -/
def outputOrder (inventory : Bool) : List String :=
  if inventory then ["json", "csv"] else ["exporter", "field", "csv", "json"]

/-- The value chooses the output of its option. -/
def chooses (dest : String) (value : Value) : Bool :=
  if dest = "exporter" then isStr "nagios" value || isStr "prometheus" value else value.truthy

/-- The profile is one of `POLICY_PROFILES`, or none. -/
def profileKnown (profile : Value) : Bool :=
  !profile.truthy || (presetOf profile).isOk

section Condition

variable (readers : Readers) (config : Dict String Value) (cmd : CommandLine) (today : Int)

/-- The config file has no items for an option that appends. -/
def NoItems (dest : String) : Prop :=
  ∀ value, config.lookup dest = some value → value.items = some []

/-- The conditions on a run that gets past its profile. -/
structure Undisturbed : Prop where
  output : ∀ dest ∈ ["json", "field", "csv", "exporter"], buildParser.Explicit cmd dest →
    ∀ other ∈ (outputOrder (buildParser.setting readers config cmd "discover_only").truthy).takeWhile
      fun other => other ≠ dest,
      ∀ value, config.lookup other = some value → chooses other value = false
  fields : (buildParser.setting readers config cmd "discover_only").truthy = false →
    buildParser.Explicit cmd "field" → NoItems config "field"
  cap : (buildParser.setting readers config cmd "discover_only").truthy = false →
    ∀ limit, buildParser.lastGiven readers cmd "not_after_max" = some limit →
      (∃ value, config.lookup "cab_forum" = some value ∧ value.truthy = true) →
      limit = .int (Parser.cabForumMaxValidity today)

/-- **What an explicit option needs of the config file**: nothing to append to; no output that is
preferred; no cap that is preferred, unless it is the same. -/
structure Respected : Prop where
  appended : ∀ action ∈ buildParser.actions, action.appends = true → action.dest ≠ "field" →
    buildParser.Explicit cmd action.dest → NoItems config action.dest
  undisturbed : profileKnown (buildParser.setting readers config cmd "profile") = true →
    Undisturbed readers config cmd today

end Condition

/-! ### What the plan depends on -/

section Plan

variable {preset : Parser.PolicyProfile} {args : Namespace} {today : Int}

theorem setIf_other {condition : Bool} {name other : String} {value : Scalar}
    (different : other ≠ name) : setIf condition name value args other = args other := by
  unfold setIf
  split
  · exact Function.update_of_ne different _ _
  · rfl

/-- A preset leaves the other options as they are. -/
theorem fillIn_other {name : String} (other : name ∉ ["min_key_size", "min_tls_version", "fail_weak",
    "require_sct", "require_must_staple", "cab_forum"]) : fillIn preset args name = args name := by
  simp only [List.mem_cons, List.not_mem_nil, or_false, not_or] at other
  obtain ⟨keySize, tlsVersion, weak, sct, staple, forum⟩ := other
  unfold fillIn
  simp only [setIf_other keySize, setIf_other tlsVersion, setIf_other weak, setIf_other sct,
    setIf_other staple, setIf_other forum]

theorem setIf_self {condition : Bool} {name : String} {value : Scalar} :
    setIf condition name value args name = if condition then .scalar value else args name := by
  unfold setIf
  split
  · exact Function.update_self _ _ _
  · rfl

/-- What a preset makes of the key size. -/
theorem fillIn_minKeySize : fillIn preset args "min_key_size" =
    if preset.minKeySize.isSome && isNone (args "min_key_size") then
      .scalar (.int (preset.minKeySize.getD 0))
    else args "min_key_size" := by
  unfold fillIn
  simp (disch := decide) only [setIf_other]
  exact setIf_self

/-- What it makes of the TLS version. -/
theorem fillIn_minTlsVersion : fillIn preset args "min_tls_version" =
    if preset.minTlsVersion.isSome && isNone (args "min_tls_version") && !(args "file").truthy then
      .scalar (.str (preset.minTlsVersion.getD ""))
    else args "min_tls_version" := by
  unfold fillIn
  simp (disch := decide) only [setIf_other]
  rw [setIf_self]
  simp (disch := decide) only [setIf_other]

/-- What it makes of the boolean options. -/
theorem fillIn_flags :
    (fillIn preset args "fail_weak" =
      if preset.failWeak then .scalar (.bool true) else args "fail_weak") ∧
    (fillIn preset args "require_sct" =
      if preset.requireSct then .scalar (.bool true) else args "require_sct") ∧
    fillIn preset args "require_must_staple" =
      if preset.requireMustStaple then .scalar (.bool true) else args "require_must_staple" := by
  unfold fillIn
  refine ⟨?_, ?_, ?_⟩
  · simp (disch := decide) only [setIf_other, setIf_self]
  · simp (disch := decide) only [setIf_other, setIf_self]
  · simp (disch := decide) only [setIf_other, setIf_self]

/-- What it makes of the cap. -/
theorem fillIn_cab : fillIn preset args "cab_forum" =
    if preset.cabForum && isNone (args "not_after_max") then .scalar (.bool true)
    else args "cab_forum" := by
  unfold fillIn
  rw [setIf_self]
  simp (disch := decide) only [setIf_other]

/-- A boolean option that is set is on. -/
theorem truthy_when {set : Bool} {value : Value} :
    (if set then Value.scalar (.bool true) else value).truthy = (set || value.truthy) := by
  cases set <;> rfl

theorem fillIn_cabForum : (fillIn preset args "cab_forum").truthy =
    ((preset.cabForum && isNone (args "not_after_max")) || (args "cab_forum").truthy) := by
  rw [fillIn_cab, truthy_when]

/-- Whether the profile sets the cap of the CA/Browser Forum. -/
def profileCap (profile : Value) : Except ExcClass Bool :=
  if profile.truthy then (presetOf profile).map Parser.PolicyProfile.cabForum else .ok false

theorem profileKnown_iff {profile : Value} :
    profileKnown profile = true ↔ ∃ strict, profileCap profile = .ok strict := by
  unfold profileKnown profileCap
  by_cases given : profile.truthy = true
  · rw [if_pos given, given]
    cases presetOf profile with
    | error raised => exact ⟨fun absurd => (by cases absurd), fun ⟨_, absurd⟩ => (by cases absurd)⟩
    | ok preset => exact ⟨fun _ => ⟨_, rfl⟩, fun _ => rfl⟩
  · rw [if_neg given, Bool.eq_false_iff.mpr given]
    exact ⟨fun _ => ⟨_, rfl⟩, fun _ => rfl⟩

/-- The cap, when it is known whether the profile sets it. -/
def capOf (today : Int) (args : Namespace) (strict : Bool) : Value :=
  if (strict && isNone (args "not_after_max")) || (args "cab_forum").truthy then
    .scalar (.int (Parser.cabForumMaxValidity today))
  else args "not_after_max"

/-- The plan, when it is known whether the profile sets the cap. -/
def planOf (today : Int) (args : Namespace) (strict : Bool) : Plan :=
  if (args "discover_only").truthy then .inventory (inventoryFormat args)
  else .report (render (.fromArgs args)) (capOf today args strict)

/-- **What the plan depends on**: of the profile, only whether it sets the cap. -/
theorem plan_eq : plan today args = (profileCap (args "profile")).map (planOf today args) := by
  have filled (preset : Parser.PolicyProfile) :
      (if (fillIn preset args "discover_only").truthy then
        Plan.inventory (inventoryFormat (fillIn preset args))
      else .report (render (.fromArgs (fillIn preset args)))
        (validityCap today (fillIn preset args))) = planOf today args preset.cabForum := by
    unfold planOf capOf inventoryFormat OutputOptions.fromArgs validityCap
    rw [fillIn_cabForum]
    simp (disch := decide) only [fillIn_other]
  unfold plan applyProfile profileCap
  by_cases given : (args "profile").truthy = true
  · rw [if_pos given, if_pos given]
    cases presetOf (args "profile") with
    | error raised => rfl
    | ok preset => exact congrArg Except.ok (filled preset)
  · rw [if_neg given, if_neg given]
    exact congrArg Except.ok (by unfold planOf capOf validityCap; rfl)

/-- The first option that chooses the output. -/
def chosen (inventory : Bool) (args : Namespace) : Option String :=
  (outputOrder inventory).find? fun dest => chooses dest (args dest)

/-- The option a format is of. -/
def Format.source : Format → Option String
  | .nagios | .prometheus => some "exporter"
  | .fields _ => some "field"
  | .csv _ => some "csv"
  | .json | .jsonV2 => some "json"
  | .human => none

/-- The option a format of the inventory is of. -/
def InventoryFormat.source : InventoryFormat → Option String
  | .json => some "json"
  | .csv _ => some "csv"
  | .text => none

/-- The format of an option. -/
def formatOf (args : Namespace) (source : Option String) : Format :=
  if source = some "exporter" then
    if isStr "nagios" (args "exporter") then .nagios else .prometheus
  else if source = some "field" then .fields (args "field")
  else if source = some "csv" then .csv (args "csv_delimiter")
  else if source = some "json" then if isOne (args "schema") then .json else .jsonV2
  else .human

/-- The format of the inventory of an option. -/
def inventoryOf (args : Namespace) (source : Option String) : InventoryFormat :=
  if source = some "json" then .json
  else if source = some "csv" then .csv (args "csv_delimiter")
  else .text

/-- **`render` calls the formatter of the first option that chooses the output.** -/
theorem render_eq : render (.fromArgs args) = formatOf args (chosen false args) := by
  unfold render OutputOptions.fromArgs chosen outputOrder
  by_cases nagios : isStr "nagios" (args "exporter") = true
  · simp [nagios, formatOf, chooses]
  by_cases prometheus : isStr "prometheus" (args "exporter") = true
  · simp [nagios, prometheus, formatOf, chooses]
  by_cases fields : (args "field").truthy = true
  · simp [nagios, prometheus, fields, formatOf, chooses]
  by_cases csv : (args "csv").truthy = true
  · simp [nagios, prometheus, fields, csv, formatOf, chooses]
  by_cases json : (args "json").truthy = true
  · simp [nagios, prometheus, fields, csv, json, formatOf, chooses]
  · simp [nagios, prometheus, fields, csv, json, formatOf, chooses]

/-- The inventory is in the format of the first option that chooses it. -/
theorem inventoryFormat_eq : inventoryFormat args = inventoryOf args (chosen true args) := by
  unfold inventoryFormat chosen outputOrder
  by_cases json : (args "json").truthy = true
  · simp [json, inventoryOf, chooses]
  by_cases csv : (args "csv").truthy = true
  · simp [json, csv, inventoryOf, chooses]
  · simp [json, csv, inventoryOf, chooses]

theorem chosen_mem {inventory : Bool} {dest : String} (found : chosen inventory args = some dest) :
    dest ∈ outputOrder inventory := List.mem_of_find?_eq_some found

/-- A format is of its option. -/
theorem formatOf_source {source : Option String}
    (known : ∀ dest, source = some dest → dest ∈ outputOrder false) :
    (formatOf args source).source = source := by
  cases source with
  | none => rfl
  | some dest =>
    have member := known dest rfl
    simp only [outputOrder, Bool.false_eq_true, if_false, List.mem_cons, List.not_mem_nil,
      or_false] at member
    rcases member with rfl | rfl | rfl | rfl
    · by_cases nagios : isStr "nagios" (args "exporter") = true
      · simp [formatOf, nagios, Format.source]
      · simp [formatOf, nagios, Format.source]
    · rfl
    · rfl
    · by_cases legacy : isOne (args "schema") = true
      · simp [formatOf, legacy, Format.source]
      · simp [formatOf, legacy, Format.source]

theorem inventoryOf_source {source : Option String}
    (known : ∀ dest, source = some dest → dest ∈ outputOrder true) :
    (inventoryOf args source).source = source := by
  cases source with
  | none => rfl
  | some dest =>
    have member := known dest rfl
    simp only [outputOrder, if_true, List.mem_cons, List.not_mem_nil, or_false] at member
    rcases member with rfl | rfl
    · rfl
    · rfl

variable {alone : Namespace}

/-- Two reports have the same format when the same option chooses it, with the same value. -/
theorem render_eq_iff {dest : String} (own : chosen false alone = some dest)
    (delimiter : args "csv_delimiter" = alone "csv_delimiter")
    (schema : args "schema" = alone "schema")
    (value : dest ≠ "field" → args dest = alone dest) :
    render (.fromArgs args) = render (.fromArgs alone) ↔
      chosen false args = chosen false alone ∧ args dest = alone dest := by
  rw [render_eq, render_eq]
  refine ⟨?_, ?_⟩
  · intro same
    have sources := congrArg Format.source same
    rw [formatOf_source fun _ => chosen_mem, formatOf_source fun _ => chosen_mem] at sources
    refine ⟨sources, ?_⟩
    by_cases fields : dest = "field"
    · rw [sources, own, fields] at same
      rw [fields]
      exact Format.fields.inj same
    · exact value fields
  · intro both
    obtain ⟨sources, same⟩ := both
    rw [sources, own]
    unfold formatOf
    rw [delimiter, schema]
    by_cases exporter : dest = "exporter"
    · subst exporter
      rw [same]
      rfl
    by_cases fields : dest = "field"
    · subst fields
      rw [same]
      rfl
    · simp [exporter, fields]

theorem inventoryFormat_eq_iff (delimiter : args "csv_delimiter" = alone "csv_delimiter") :
    inventoryFormat args = inventoryFormat alone ↔ chosen true args = chosen true alone := by
  rw [inventoryFormat_eq, inventoryFormat_eq]
  refine ⟨?_, ?_⟩
  · intro same
    have sources := congrArg InventoryFormat.source same
    rwa [inventoryOf_source fun _ => chosen_mem, inventoryOf_source fun _ => chosen_mem] at sources
  · intro sources
    unfold inventoryOf
    rw [sources, delimiter]

end Plan

/-! ### What was parsed -/

/-- The group of the output. -/
def outputGroup : List String := ["json", "field", "csv", "exporter"]

/-- The group of the validity cap. -/
def validityGroup : List String := ["not_after_max", "cab_forum"]

/-- The options of the groups, the profile and the mode store texts or constants, `--field` appends. -/
theorem buildParser_plain :
    (∀ dest ∈ ["json", "csv", "exporter", "cab_forum", "profile", "discover_only"],
      ∀ action ∈ buildParser.actions, action.dest = dest →
        action.appends = false ∧ action.type = .text) ∧
    ∀ action ∈ buildParser.actions, action.dest = "field" →
      action.appends = true ∧ action.type = .text := by
  decide +kernel

theorem buildParser_stored : ∀ dest ∈ outputGroup, dest ≠ "field" →
    ∀ action ∈ buildParser.actions, action.dest = dest → action.appends = false := by
  decide +kernel

/-- What the options of the output group read, apart from `--field`. -/
theorem buildParser_output :
    (∀ action ∈ buildParser.actions, action.dest = "json" ∨ action.dest = "csv" →
      action.kind = .storeConst (.bool true)) ∧
    ∀ action ∈ buildParser.actions, action.dest = "exporter" →
      action.kind = .store .text (some [.str "nagios", .str "prometheus"]) := by
  decide +kernel

/-- What the options of the cap read. -/
theorem buildParser_cap :
    (∀ action ∈ buildParser.actions, action.dest = "cab_forum" →
      action.kind = .storeConst (.bool true)) ∧
    ∀ action ∈ buildParser.actions, action.dest = "not_after_max" →
      action.kind = .store .int none := by
  decide +kernel

section Parsed

variable {readers : Readers} {config : Dict String Value} {cmd : CommandLine} {args : Namespace}
  {dest : String} (parsed : buildParser.parse readers config cmd = some args)

include parsed

theorem args_setting
    (named : dest ∈ ["json", "csv", "exporter", "cab_forum", "profile", "discover_only"]) :
    args dest = buildParser.setting readers config cmd dest := by
  have other : dest ≠ buildParser.positional := by
    rintro rfl
    revert named
    decide
  exact Parser.component_setting buildParser_wellFormed other (buildParser_plain.1 dest named)
    ((Parser.parse_iff.mp parsed).2 dest)

/-- Without an option, a destination with a text is as the config file has it. -/
theorem args_absent (text : ∀ action ∈ buildParser.actions, action.dest = dest → action.type = .text)
    (other : dest ≠ buildParser.positional) (absent : ¬ buildParser.Explicit cmd dest) :
    args dest = buildParser.initial config dest := by
  have found := (Parser.parse_iff.mp parsed).2 dest
  rw [Parser.component_absent absent other fun action member own =>
    Parser.settle_text (text action member own) _] at found
  exact (Option.some.inj found).symm

/-- So is a destination of the groups. -/
theorem args_default (named : dest ∈ outputGroup ∨ dest = "cab_forum")
    (absent : ¬ buildParser.Explicit cmd dest) : args dest = buildParser.initial config dest := by
  have text : ∀ action ∈ buildParser.actions, action.dest = dest → action.type = .text := by
    intro action member own
    by_cases fields : dest = "field"
    · exact (buildParser_plain.2 action member (own.trans fields)).2
    · refine (buildParser_plain.1 dest ?_ action member own).2
      unfold outputGroup at named
      simp only [List.mem_cons, List.not_mem_nil, or_false] at named ⊢
      tauto
  refine args_absent parsed text ?_ absent
  rintro rfl
  revert named
  decide

/-- What an explicit option that stores reads. -/
theorem args_stored (explicit : buildParser.Explicit cmd dest)
    (stores : ∀ action ∈ buildParser.actions, action.dest = dest → action.appends = false) :
    ∃ value, buildParser.lastGiven readers cmd dest = some value ∧ args dest = .scalar value := by
  have found := (Parser.parse_iff.mp parsed).2 dest
  rw [Parser.component_stored buildParser_wellFormed explicit stores] at found
  obtain ⟨value, given, same⟩ := Option.map_eq_some_iff.mp found
  exact ⟨value, given, same.symm⟩

/-- What is stored is not none. -/
theorem isNone_explicit (explicit : buildParser.Explicit cmd dest)
    (stores : ∀ action ∈ buildParser.actions, action.dest = dest →
      ∃ type choices, action.kind = .store type choices) : isNone (args dest) = false := by
  obtain ⟨value, given, stored⟩ := args_stored parsed explicit fun action member own => by
    obtain ⟨type, choices, kind⟩ := stores action member own
    rw [Action.appends, kind]
  obtain ⟨action, member, own, argument, read⟩ := Parser.lastGiven_read given
  obtain ⟨type, choices, kind⟩ := stores action member own
  obtain ⟨text, converted, _⟩ := Action.read_store kind read
  rw [stored]
  cases type with
  | text => cases converted; rfl
  | int | float =>
    obtain ⟨_, _, rfl⟩ := Option.map_eq_some_iff.mp converted
    rfl

/-- An explicit option that stores a constant is that. -/
theorem const_explicit {const : Scalar} (explicit : buildParser.Explicit cmd dest)
    (consts : ∀ action ∈ buildParser.actions, action.dest = dest → action.kind = .storeConst const) :
    args dest = .scalar const := by
  obtain ⟨value, given, stored⟩ := args_stored parsed explicit fun action member own => by
    rw [Action.appends, consts action member own]
  obtain ⟨action, member, own, argument, read⟩ := Parser.lastGiven_read given
  rw [stored, Action.read_const (consts action member own) read]

/-- What an explicit option that appends reads, after the items of the config file. -/
theorem args_appended (explicit : buildParser.Explicit cmd dest)
    (appends : ∀ action ∈ buildParser.actions, action.dest = dest → action.appends = true) :
    ∃ items given, (buildParser.initial config dest).items = some items ∧
      buildParser.reads readers cmd dest = some given ∧ given ≠ [] ∧
      args dest = .list (items ++ given.map .scalar) := by
  have found := (Parser.parse_iff.mp parsed).2 dest
  rw [Parser.component_appended buildParser_wellFormed explicit appends] at found
  obtain ⟨items, there, listed⟩ := Option.bind_eq_some_iff.mp found
  obtain ⟨given, read, same⟩ := Option.map_eq_some_iff.mp listed
  exact ⟨items, given, there, read, Parser.readAll_ne_nil explicit read, same.symm⟩

/-- **An explicit option chooses the output**, when nothing before it does. -/
theorem chooses_explicit (named : dest ∈ outputGroup) (explicit : buildParser.Explicit cmd dest) :
    chooses dest (args dest) = true := by
  by_cases fields : dest = "field"
  · subst fields
    obtain ⟨items, given, _, _, some, same⟩ := args_appended parsed explicit fun action member own =>
      (buildParser_plain.2 action member own).1
    rw [same]
    show (!(items ++ given.map Value.scalar).isEmpty) = true
    simp [some]
  unfold outputGroup at named
  have stores := (buildParser_plain.1 dest (by simp at named ⊢; tauto))
  obtain ⟨value, given, same⟩ := args_stored parsed explicit fun action member own =>
    (stores action member own).1
  obtain ⟨action, member, own, argument, read⟩ := Parser.lastGiven_read given
  rw [same]
  by_cases exporter : dest = "exporter"
  · have kind := buildParser_output.2 action member (own.trans exporter)
    obtain ⟨_, _, choice⟩ := Action.read_store kind read
    rw [exporter]
    rcases List.mem_pair.mp (choice _ rfl) with rfl | rfl
    · rfl
    · rfl
  · have kind := buildParser_output.1 action member (by rw [own]; simp at named; tauto)
    rw [Action.read_const kind read]
    unfold chooses
    rw [if_neg exporter]
    rfl

/-- Without an option, the config file may choose the output. -/
theorem chooses_default (named : dest ∈ outputGroup) (absent : ¬ buildParser.Explicit cmd dest) :
    chooses dest (args dest) = false ↔
      ∀ value, config.lookup dest = some value → chooses dest value = false := by
  have builtin : ∀ dest ∈ outputGroup, chooses dest (buildParser.initial ∅ dest) = false := by
    decide +kernel
  rw [args_default parsed (Or.inl named) absent, Parser.initial_eq]
  cases config.lookup dest with
  | none => simp [builtin dest named]
  | some value => simp

end Parsed

/-! ### Without the config file's values -/

section Alone

variable {readers : Readers} {config : Dict String Value} {cmd : CommandLine}
  {args alone : Namespace} {dest : String} {keys : List String}
  (parsed : buildParser.parse readers config cmd = some args)
  (without : buildParser.parse readers (config.without keys) cmd = some alone)

include parsed without

/-- An option that stores is the same. -/
theorem stored_alone (explicit : buildParser.Explicit cmd dest)
    (stores : ∀ action ∈ buildParser.actions, action.dest = dest → action.appends = false) :
    args dest = alone dest := by
  obtain ⟨value, given, same⟩ := args_stored parsed explicit stores
  obtain ⟨value', given', same'⟩ := args_stored without explicit stores
  rw [same, same', Option.some.inj (given.symm.trans given')]

/-- **An option that appends is the same exactly when the config file has no items for it.** -/
theorem appended_alone (explicit : buildParser.Explicit cmd dest)
    (appends : ∀ action ∈ buildParser.actions, action.dest = dest → action.appends = true)
    (removed : dest ∈ keys) : args dest = alone dest ↔ NoItems config dest := by
  obtain ⟨action, member, _, own, _⟩ := explicit.action
  obtain ⟨first, inActions, here, start⟩ :=
    Parser.initial_own member own (AList.lookup_empty dest : (∅ : Dict String Value).lookup dest = none)
  rw [buildParser_wellFormed.starts first inActions (appends first inActions here)] at start
  obtain ⟨items, given, there, read, _, same⟩ := args_appended parsed explicit appends
  obtain ⟨items', given', there', read', _, same'⟩ := args_appended without explicit appends
  rw [Parser.initial_eq, lookup_without, if_pos removed, Option.getD_none, start] at there'
  cases there'
  cases Option.some.inj (read.symm.trans read')
  rw [Parser.initial_eq, start] at there
  rw [same, same', Value.list.injEq, List.nil_append, List.append_left_eq_self]
  unfold NoItems
  cases found : config.lookup dest with
  | none =>
    rw [found] at there
    cases there
    simp
  | some value =>
    rw [found, Option.getD_some] at there
    simp [there]

omit parsed in
/-- Another option of the group does not choose the output. -/
theorem chooses_alone (named : dest ∈ outputGroup) (absent : ¬ buildParser.Explicit cmd dest)
    (removed : dest ∈ keys) : chooses dest (alone dest) = false := by
  refine (chooses_default without named absent).mpr ?_
  intro value found
  rw [lookup_without, if_pos removed] at found
  cases found

end Alone

section Output

variable {readers : Readers} {config : Dict String Value} {cmd : CommandLine}
  {args alone : Namespace} {dest : String}

theorem outputOrder_group : ∀ inventory, ∀ other ∈ outputOrder inventory, other ∈ outputGroup := by
  decide

variable (parsed : buildParser.parse readers config cmd = some args)
  (without : buildParser.parse readers (config.without outputGroup) cmd = some alone)
  (explicit : buildParser.Explicit cmd dest) (inside : dest ∈ outputGroup)
  (absent : ∀ other ∈ outputGroup, other ≠ dest → ¬ buildParser.Explicit cmd other)

include without absent

/-- Without the config file, no other option chooses the output. -/
theorem others_alone (inventory : Bool) :
    ∀ other ∈ outputOrder inventory, other ≠ dest → chooses other (alone other) = false := by
  intro other ordered different
  have member := outputOrder_group inventory other ordered
  exact chooses_alone without member (absent other member different) member

include explicit inside

/-- Without the config file, the explicit option chooses the report. -/
theorem chosen_alone : chosen false alone = some dest := by
  have reported : ∀ other ∈ outputGroup, other ∈ outputOrder false := by decide
  exact find?_only (others_alone without absent false) (reported dest inside)
    (chooses_explicit without inside explicit)

include parsed

/-- **The output is chosen as without the config file** exactly when the config file does not set one
that is preferred. -/
theorem chosen_eq_iff (inventory : Bool) : chosen inventory args = chosen inventory alone ↔
    ∀ other ∈ (outputOrder inventory).takeWhile fun other => other ≠ dest,
      ∀ value, config.lookup other = some value → chooses other value = false := by
  have both : dest ∈ outputOrder inventory →
      chooses dest (args dest) = true ∧ chooses dest (alone dest) = true :=
    fun _ => ⟨chooses_explicit parsed inside explicit, chooses_explicit without inside explicit⟩
  refine (find?_eq_iff (others_alone without absent inventory) both).trans
    (forall₂_congr fun other member => ?_)
  have ordered := (List.takeWhile_sublist _).subset member
  have different : other ≠ dest := by simpa using List.mem_takeWhile_imp member
  have inGroup := outputOrder_group inventory other ordered
  exact chooses_default parsed inGroup (absent other inGroup different)

end Output

section Run

variable {readers : Readers} {files : ConfigFiles} {config : Dict String Value} {cmd : CommandLine}
  {args : Namespace} {dest : String} {today : Int}
  (loaded : configDefaults buildParser files cmd = .ok config)
  (parsed : buildParser.parse readers config cmd = some args)

include loaded parsed

/-- The run without the config file's values for an option and its group. -/
theorem overrides_alone (explicit : buildParser.Explicit cmd dest) :
    ∃ alone, buildParser.parse readers (config.without (family dest)) cmd = some alone ∧
      (∀ other ∉ family dest, args other = alone other) ∧
      (Overrides readers files cmd today args dest ↔
        effect today dest args = effect today dest alone) := by
  obtain ⟨action, member, _, own, _⟩ := explicit.action
  have named : ∀ key ∈ family dest, key ≠ buildParser.positional := by
    unfold family
    cases found : configExclusiveGroups.find? fun group => group.contains dest with
    | none =>
      intro key inside
      rw [List.mem_singleton.mp inside, ← own]
      exact buildParser_wellFormed.positional action member
    | some group =>
      have groups : ∀ group ∈ configExclusiveGroups, ∀ key ∈ group, key ≠ buildParser.positional := by
        decide
      exact groups group (List.mem_of_find?_eq_some found)
  obtain ⟨alone, without, same⟩ := Parser.parse_without buildParser_wellFormed parsed named
  refine ⟨alone, without, fun other outside => (same other outside).symm, ?_⟩
  have run : parseArgs buildParser readers (files.without (family dest)) cmd = .ok (some alone) := by
    unfold parseArgs
    rw [configDefaults_without loaded]
    exact congrArg Except.ok without
  unfold Overrides
  rw [run]
  refine ⟨?_, fun equal => ⟨alone, rfl, equal⟩⟩
  intro found
  obtain ⟨other, returned, equal⟩ := found
  cases returned
  exact equal

/-- An option of no group overrides the config file when its own value is the same. -/
theorem overrides_single (explicit : buildParser.Explicit cmd dest)
    (single : ∀ group ∈ configExclusiveGroups, dest ∉ group) :
    ∃ alone, buildParser.parse readers (config.without [dest]) cmd = some alone ∧
      (Overrides readers files cmd today args dest ↔ args dest = alone dest) := by
  have noGroup : configExclusiveGroups.find? (fun group => group.contains dest) = none :=
    List.find?_eq_none.mpr fun group member => by simpa using single group member
  have noneOf : (configExclusiveGroups.any fun group => group.contains dest) = false :=
    List.any_eq_false.mpr fun group member => by simpa using single group member
  have alone_family : family dest = [dest] := by
    unfold family
    rw [noGroup]
    rfl
  obtain ⟨alone, without, same, overrides⟩ := @overrides_alone _ _ _ _ _ _ today loaded parsed explicit
  rw [alone_family] at without same
  refine ⟨alone, without, overrides.trans ?_⟩
  unfold effect
  rw [if_neg (Bool.eq_false_iff.mp noneOf), if_neg (Bool.eq_false_iff.mp noneOf), Effect.everything.injEq]
  refine ⟨fun equal => congrFun equal dest, fun own => ?_⟩
  funext other
  by_cases here : other = dest
  · rw [here, own]
  · exact same other (by simpa using here)

/-- **An option that stores overrides the config file**, outside the groups. -/
theorem overrides_stored (explicit : buildParser.Explicit cmd dest)
    (single : ∀ group ∈ configExclusiveGroups, dest ∉ group)
    (stores : ∀ action ∈ buildParser.actions, action.dest = dest → action.appends = false) :
    Overrides readers files cmd today args dest := by
  obtain ⟨alone, without, overrides⟩ := @overrides_single _ _ _ _ _ _ today loaded parsed explicit single
  exact overrides.mpr (stored_alone parsed without explicit stores)

/-- **An option that appends overrides a config file without items for it**, outside the groups. -/
theorem overrides_appended_iff (explicit : buildParser.Explicit cmd dest)
    (single : ∀ group ∈ configExclusiveGroups, dest ∉ group)
    (appends : ∀ action ∈ buildParser.actions, action.dest = dest → action.appends = true) :
    Overrides readers files cmd today args dest ↔ NoItems config dest := by
  obtain ⟨alone, without, overrides⟩ := @overrides_single _ _ _ _ _ _ today loaded parsed explicit single
  rw [overrides]
  exact appended_alone parsed without explicit appends (List.mem_singleton_self dest)

/-- An option of a group overrides the config file when the plan is the same. -/
theorem overrides_group {group : List String} (explicit : buildParser.Explicit cmd dest)
    (exclusive : group ∈ configExclusiveGroups) (inside : dest ∈ group) :
    ∃ alone, buildParser.parse readers (config.without group) cmd = some alone ∧
      (∀ other ∉ group, args other = alone other) ∧
      (∀ other ∈ group, other ≠ dest → ¬ buildParser.Explicit cmd other) ∧
      (Overrides readers files cmd today args dest ↔ plan today args = plan today alone) := by
  have own_family : ∀ group ∈ configExclusiveGroups, ∀ dest ∈ group, family dest = group := by
    decide
  have inGroup : (configExclusiveGroups.any fun group => group.contains dest) = true :=
    List.any_eq_true.mpr ⟨group, exclusive, by simpa using inside⟩
  obtain ⟨alone, without, same, overrides⟩ := @overrides_alone _ _ _ _ _ _ today loaded parsed explicit
  rw [own_family group exclusive dest inside] at without same
  refine ⟨alone, without, same, ?_, overrides.trans ?_⟩
  · intro other member different explicit'
    have accepted := (Parser.parse_iff.mp parsed).1
    exact different (explicit_of_group accepted exclusive member inside explicit' explicit)
  · unfold effect
    rw [if_pos inGroup, if_pos inGroup, Effect.plan.injEq]

omit loaded in
/-- Two plans under one profile are the same exactly when they are for what the profile sets. -/
theorem plan_eq_iff {alone : Namespace} {condition : Prop} (profile : args "profile" = alone "profile")
    (same : ∀ strict, planOf today args strict = planOf today alone strict ↔ condition) :
    plan today args = plan today alone ↔
      (profileKnown (buildParser.setting readers config cmd "profile") = true → condition) := by
  rw [← args_setting parsed (by decide), profileKnown_iff, plan_eq, plan_eq, ← profile]
  cases profileCap (args "profile") with
  | error raised =>
    refine ⟨fun _ found => ?_, fun _ => rfl⟩
    obtain ⟨strict, absurd⟩ := found
    cases absurd
  | ok strict =>
    show Except.ok (planOf today args strict) = Except.ok (planOf today alone strict) ↔ _
    rw [Except.ok.injEq, same strict]
    exact ⟨fun holds _ => holds, fun holds => holds ⟨strict, rfl⟩⟩

/-- **An option of the output group overrides the config file** exactly when the config file does not
set an output that is preferred, and no items for `--field`. -/
theorem overrides_output_iff (explicit : buildParser.Explicit cmd dest) (inside : dest ∈ outputGroup) :
    Overrides readers files cmd today args dest ↔
      (profileKnown (buildParser.setting readers config cmd "profile") = true →
        (∀ other ∈ (outputOrder
            (buildParser.setting readers config cmd "discover_only").truthy).takeWhile
          fun other => other ≠ dest,
          ∀ value, config.lookup other = some value → chooses other value = false) ∧
        ((buildParser.setting readers config cmd "discover_only").truthy = false →
          dest = "field" → NoItems config "field")) := by
  obtain ⟨alone, without, same, absent, overrides⟩ :=
    @overrides_group _ _ _ _ _ _ today loaded parsed _ explicit
      (List.mem_cons_self : outputGroup ∈ configExclusiveGroups) inside
  have outside (name : String) (other : name ∉ outputGroup) : args name = alone name := same name other
  have delimiter := outside "csv_delimiter" (by decide)
  rw [overrides, ← args_setting parsed (by decide : "discover_only" ∈ _)]
  refine plan_eq_iff parsed (outside "profile" (by decide)) fun strict => ?_
  unfold planOf capOf
  rw [← outside "discover_only" (by decide), ← outside "not_after_max" (by decide),
    ← outside "cab_forum" (by decide)]
  by_cases inventory : (args "discover_only").truthy = true
  · rw [if_pos inventory, if_pos inventory, Plan.inventory.injEq, inventoryFormat_eq_iff delimiter,
      chosen_eq_iff parsed without explicit inside absent, inventory]
    simp
  · have report : (args "discover_only").truthy = false := Bool.eq_false_iff.mpr inventory
    have stored (other : dest ≠ "field") : args dest = alone dest :=
      stored_alone parsed without explicit fun action member own =>
        (buildParser_stored dest inside other action member own)
    have value : args dest = alone dest ↔ (dest = "field" → NoItems config "field") := by
      by_cases fields : dest = "field"
      · subst fields
        rw [appended_alone parsed without explicit
          (fun action member own => (buildParser_plain.2 action member own).1) inside]
        exact ⟨fun none _ => none, fun none => none rfl⟩
      · exact ⟨fun _ absurd => (fields absurd).elim, fun _ => stored fields⟩
    rw [if_neg inventory, if_neg inventory, Plan.report.injEq, and_iff_left rfl,
      render_eq_iff (chosen_alone without explicit inside absent) delimiter
        (outside "schema" (by decide)) stored,
      chosen_eq_iff parsed without explicit inside absent, value, report]
    simp

omit loaded parsed in
/-- Plans that differ in the options of the cap only are the same exactly when their caps are. -/
theorem planOf_cap_iff {alone : Namespace} {strict : Bool}
    (same : ∀ other ∉ validityGroup, args other = alone other) :
    planOf today args strict = planOf today alone strict ↔
      ((args "discover_only").truthy = false → capOf today args strict = capOf today alone strict) := by
  have outside (name : String) (other : name ∉ validityGroup) : args name = alone name := same name other
  have formats : inventoryFormat args = inventoryFormat alone := by
    unfold inventoryFormat
    rw [outside "json" (by decide), outside "csv" (by decide), outside "csv_delimiter" (by decide)]
  have reports : OutputOptions.fromArgs args = OutputOptions.fromArgs alone := by
    unfold OutputOptions.fromArgs
    rw [outside "json" (by decide), outside "csv" (by decide), outside "csv_delimiter" (by decide),
      outside "schema" (by decide), outside "exporter" (by decide), outside "field" (by decide)]
  unfold planOf
  rw [formats, reports, ← outside "discover_only" (by decide)]
  by_cases inventory : (args "discover_only").truthy = true
  · rw [if_pos inventory, if_pos inventory, inventory]
    simp
  · rw [if_neg inventory, if_neg inventory, Bool.eq_false_iff.mpr inventory, Plan.report.injEq,
      and_iff_right rfl]
    simp

/-- **`--cab-forum` overrides the config file.** -/
theorem overrides_cabForum (explicit : buildParser.Explicit cmd "cab_forum") :
    Overrides readers files cmd today args "cab_forum" := by
  obtain ⟨alone, without, same, _, overrides⟩ :=
    @overrides_group _ _ _ _ _ _ today loaded parsed validityGroup explicit (by decide) (by decide)
  have forum {config : Dict String Value} {args : Namespace}
      (parsed : buildParser.parse readers config cmd = some args) :
      (args "cab_forum").truthy = true := by
    rw [const_explicit parsed explicit buildParser_cap.1]
    rfl
  have equal (strict : Bool) : planOf today args strict = planOf today alone strict ↔ True := by
    rw [planOf_cap_iff same]
    unfold capOf
    rw [forum parsed, forum without]
    simp
  rw [overrides]
  exact (plan_eq_iff parsed (same "profile" (by decide)) equal).mpr fun _ => trivial

/-- **`--not-after-max` overrides the config file** exactly when the config file does not set the cap
of the CA/Browser Forum, or that is the same today. -/
theorem overrides_notAfterMax_iff (explicit : buildParser.Explicit cmd "not_after_max") :
    Overrides readers files cmd today args "not_after_max" ↔
      (profileKnown (buildParser.setting readers config cmd "profile") = true →
        (buildParser.setting readers config cmd "discover_only").truthy = false →
        ∀ limit, buildParser.lastGiven readers cmd "not_after_max" = some limit →
          (∃ value, config.lookup "cab_forum" = some value ∧ value.truthy = true) →
          limit = .int (Parser.cabForumMaxValidity today)) := by
  obtain ⟨alone, without, same, absent, overrides⟩ :=
    @overrides_group _ _ _ _ _ _ today loaded parsed validityGroup explicit (by decide) (by decide)
  have notForum := absent "cab_forum" (by decide) (by decide)
  have stores : ∀ action ∈ buildParser.actions, action.dest = "not_after_max" →
      action.appends = false := by
    intro action member own
    unfold Action.appends
    rw [buildParser_cap.2 action member own]
  obtain ⟨limit, given, stored⟩ := args_stored parsed explicit stores
  have numeric : isNone (.scalar limit) = false :=
    stored ▸ isNone_explicit parsed explicit fun action member own =>
      ⟨_, _, buildParser_cap.2 action member own⟩
  have builtin : (alone "cab_forum").truthy = false := by
    rw [args_default without (Or.inr rfl) notForum, Parser.initial_eq, lookup_without,
      if_pos (by decide)]
    decide +kernel
  have config_forum : (args "cab_forum").truthy = true ↔
      ∃ value, config.lookup "cab_forum" = some value ∧ value.truthy = true := by
    have off : (buildParser.initial ∅ "cab_forum").truthy = false := by decide +kernel
    rw [args_default parsed (Or.inr rfl) notForum, Parser.initial_eq]
    cases config.lookup "cab_forum" with
    | none => simp [off]
    | some value => simp
  rw [overrides, ← args_setting parsed (by decide : "discover_only" ∈ _)]
  refine plan_eq_iff parsed (same "profile" (by decide)) fun strict => ?_
  rw [planOf_cap_iff same]
  refine forall_congr' fun _ => ?_
  have own := stored_alone parsed without explicit stores
  unfold capOf
  rw [← own, stored, numeric, builtin, given, ← config_forum]
  by_cases capped : (args "cab_forum").truthy = true
  · simp [capped, eq_comm]
  · simp [capped]

/-- **An explicit option overrides the config file, unless the config file sets something that is read
before it.** For all config files and all command lines that are accepted, on every day: each explicit
option has the effect it would have had without the config file's values for it and for its group if
and only if the conditions of `Respected` hold. -/
theorem explicit_overrides_iff :
    (∀ dest, buildParser.Explicit cmd dest → Overrides readers files cmd today args dest) ↔
      Respected readers config cmd today := by
  have field_appends : ∀ action ∈ buildParser.actions, action.dest = "field" → action.appends = true :=
    fun action member own => (buildParser_plain.2 action member own).1
  have ungrouped : ∀ action ∈ buildParser.actions, action.appends = true → action.dest ≠ "field" →
      ∀ group ∈ configExclusiveGroups, action.dest ∉ group := by
    decide +kernel
  have kinds {action : Action} (member : action ∈ buildParser.actions) :
      ∀ other ∈ buildParser.actions, other.dest = action.dest → other.appends = action.appends :=
    fun other inActions same => buildParser_wellFormed.appends_eq inActions member same
  refine ⟨?_, ?_⟩
  · intro overrides
    refine ⟨?_, fun known => ⟨?_, ?_, ?_⟩⟩
    · intro action member appends other explicit
      exact (overrides_appended_iff loaded parsed explicit (ungrouped action member appends other)
        (appends ▸ kinds member)).mp (overrides _ explicit)
    · intro dest inside explicit
      exact ((overrides_output_iff loaded parsed explicit inside).mp (overrides _ explicit) known).1
    · intro report explicit
      exact ((overrides_output_iff loaded parsed explicit (by decide)).mp
        (overrides _ explicit) known).2 report rfl
    · intro report limit given
      have explicit := Parser.lastGiven_explicit given
      exact (overrides_notAfterMax_iff loaded parsed explicit).mp (overrides _ explicit) known report
        limit given
  · intro respected dest explicit
    by_cases output : dest ∈ outputGroup
    · refine (overrides_output_iff loaded parsed explicit output).mpr fun known => ⟨?_, ?_⟩
      · exact (respected.undisturbed known).output dest output explicit
      · intro report fields
        exact (respected.undisturbed known).fields report (fields ▸ explicit)
    by_cases validity : dest ∈ validityGroup
    · rcases List.mem_pair.mp validity with rfl | rfl
      · exact (overrides_notAfterMax_iff loaded parsed explicit).mpr fun known =>
          (respected.undisturbed known).cap
      · exact overrides_cabForum loaded parsed explicit
    have single : ∀ group ∈ configExclusiveGroups, dest ∉ group := by
      intro group member
      rcases List.mem_pair.mp member with rfl | rfl
      · exact output
      · exact validity
    obtain ⟨action, member, _, rfl, _⟩ := explicit.action
    cases appends : action.appends with
    | false => exact overrides_stored loaded parsed explicit single (appends ▸ kinds member)
    | true =>
      have other : action.dest ≠ "field" := fun fields => output (fields ▸ by decide)
      exact (overrides_appended_iff loaded parsed explicit single (appends ▸ kinds member)).mpr
        (respected.appended action member appends other explicit)

end Run

/-! ### An output format in the config file -/

section OutputFormat

/-- Whole numbers, and no floats. -/
def sampleReaders : Readers := ⟨String.toInt?, fun _ => none⟩

/-- A machine whose only config file sets one option. -/
def sampleConfig (key : String) (value : Scalar) : ConfigFiles where
  isFile path := path == "config.toml"
  read _ := .table (Dict.ofPairs [(key, .scalar value)])
  defaultPath := "config.toml"

/-- `certinspect --json a.com`. -/
def sampleCommand : CommandLine := ⟨[("--json", none)], ["a.com"]⟩

/-- With `days = 14` in the config file. -/
theorem explicit_overrides_iff_days : ∃ args,
    buildParser.parse sampleReaders (Dict.ofPairs [("days", .scalar (.int 14))]) sampleCommand =
      some args ∧
    ((∀ dest, buildParser.Explicit sampleCommand dest →
        Overrides sampleReaders (sampleConfig "days" (.int 14)) sampleCommand 20454 args dest) ↔
      Respected sampleReaders (Dict.ofPairs [("days", .scalar (.int 14))]) sampleCommand 20454) := by
  have accepted : (buildParser.parse sampleReaders (Dict.ofPairs [("days", .scalar (.int 14))])
      sampleCommand).isSome = true := by
    decide +kernel
  obtain ⟨args, parsed⟩ := Option.isSome_iff_exists.mp accepted
  exact ⟨args, parsed, explicit_overrides_iff rfl parsed⟩

/-- With `csv = true` in the config file the report is in CSV; `--json` alone asks for JSON. -/
theorem explicit_overrides_counterexample :
    (parseArgs buildParser sampleReaders (sampleConfig "csv" (.bool true)) sampleCommand).map
      (Option.map fun args => render (.fromArgs args)) =
        .ok (some (.csv (.scalar (.str ",")))) ∧
    (parseArgs buildParser sampleReaders ((sampleConfig "csv" (.bool true)).without outputGroup)
      sampleCommand).map (Option.map fun args => render (.fromArgs args)) = .ok (some .jsonV2) ∧
    ¬ ∀ args, parseArgs buildParser sampleReaders (sampleConfig "csv" (.bool true)) sampleCommand =
        .ok (some args) →
      ∀ dest, buildParser.Explicit sampleCommand dest →
        Overrides sampleReaders (sampleConfig "csv" (.bool true)) sampleCommand 20454 args dest := by
  refine ⟨by rfl, by rfl, ?_⟩
  intro overrides
  have accepted : (buildParser.parse sampleReaders (Dict.ofPairs [("csv", .scalar (.bool true))])
      sampleCommand).isSome = true := by
    decide +kernel
  obtain ⟨args, parsed⟩ := Option.isSome_iff_exists.mp accepted
  have explicit : buildParser.Explicit sampleCommand "json" := by
    unfold Parser.Explicit
    decide +kernel
  have run : parseArgs buildParser sampleReaders (sampleConfig "csv" (.bool true)) sampleCommand =
      .ok (some args) := congrArg Except.ok parsed
  have overridden := overrides args run "json" explicit
  have chosen :=
    ((overrides_output_iff rfl parsed explicit (by decide)).mp overridden (by decide +kernel)).1
  have absurd := chosen "csv" (by decide +kernel) (.scalar (.bool true)) rfl
  cases absurd

end OutputFormat

end Certinspect.Cli
