/-
**The options of the command line, `args.py` and `config.py`.**

* `buildParser` — `build_parser`: the options in the order of the source, with their defaults.
* `loadConfig` — `load_config`: a config file sets options by destination, at most one of a group.
* `parseArgs` — `_parse_args`: the config file's values are the defaults of the real parse.
* `buildParser_wellFormed`, `configExclusiveGroups_actions` — the groups of the config file are groups
  of the parser.
* `explicit_of_group` — an accepted command line has at most one option of such a group.
-/

import Certinspect.Cli.Discovery
import Certinspect.Library.Argparse

namespace Certinspect.Cli

open Library

/-! ### The options -/

section Options

variable (flag dest : String)

/-- `action="store_true"`. -/
def storeTrue : Action := ⟨flag, dest, .storeConst (.bool true), .bool false⟩

/-- An option with a text. -/
def storeText : Action := ⟨flag, dest, .store .text none, .none⟩

/-- An option with one of some texts. -/
def storeChoice (choices : List String) : Action :=
  ⟨flag, dest, .store .text (some (choices.map .str)), .none⟩

/-- An option with a number. -/
def storeInt (default : Scalar) : Action := ⟨flag, dest, .store .int none, default⟩

/-- An option with a number of seconds. -/
def storeFloat (default : Scalar) : Action := ⟨flag, dest, .store .float none, default⟩

/-- `action="append"`. -/
def appendText : Action := ⟨flag, dest, .append .text, .none⟩

end Options

/-- The floats `5.0` and `30.0`. -/
def fiveSeconds : Scalar := .float 0x4014000000000000

def thirtySeconds : Scalar := .float 0x403E000000000000

/-- `build_parser`. -/
def buildParser : Library.Parser where
  actions :=
    [⟨"--help", "help", .exits, .none⟩,
      ⟨"--version", "version", .exits, .none⟩,
      storeText "--config" "config",
      storeChoice "--print-completion" "print_completion" ["bash", "zsh"],
      appendText "--file" "file",
      storeInt "--port" "port" (.int 443),
      storeFloat "--timeout" "timeout" fiveSeconds,
      storeFloat "--connect-timeout" "connect_timeout" .none,
      storeFloat "--read-timeout" "read_timeout" .none,
      storeInt "--retries" "retries" (.int 0),
      storeTrue "--json" "json",
      appendText "--field" "field",
      storeTrue "--csv" "csv",
      ⟨"--csv-delimiter", "csv_delimiter", .store .text none, .str ","⟩,
      storeTrue "--quiet" "quiet",
      ⟨"--schema", "schema", .store .int (some [.int 1, .int 2]), .int 2⟩,
      ⟨"--verify", "verify", .storeConst (.bool true), .bool true⟩,
      ⟨"--no-verify", "verify", .storeConst (.bool false), .bool true⟩,
      storeText "--cafile" "cafile",
      storeText "--capath" "capath",
      storeTrue "--chain" "chain",
      storeText "--client-cert" "client_cert",
      storeText "--client-key" "client_key",
      storeText "--proxy" "proxy",
      storeTrue "--no-proxy" "no_proxy",
      storeText "--pin" "pin",
      storeText "--servername" "servername",
      appendText "--expect-san" "expect_san",
      storeText "--input" "input",
      appendText "--discover" "discover",
      storeTrue "--discover-only" "discover_only",
      appendText "--expect-issuer" "expect_issuer",
      storeFloat "--discover-timeout" "discover_timeout" thirtySeconds,
      storeInt "--days" "days" (.int 30),
      storeInt "--critical-days" "critical_days" .none,
      storeChoice "--profile" "profile" (Parser.policyProfiles.map Prod.fst),
      storeInt "--not-after-max" "not_after_max" .none,
      storeTrue "--cab-forum" "cab_forum",
      storeInt "--min-key-size" "min_key_size" .none,
      storeTrue "--fail-weak" "fail_weak",
      storeTrue "--require-sct" "require_sct",
      storeTrue "--require-must-staple" "require_must_staple",
      storeTrue "--require-revocation-check" "require_revocation_check",
      storeChoice "--min-tls-version" "min_tls_version" ["TLSv1", "TLSv1.1", "TLSv1.2", "TLSv1.3"],
      storeText "--export" "export",
      storeChoice "--starttls" "starttls" (starttlsPorts.map Prod.fst),
      storeChoice "--exporter" "exporter" ["nagios", "prometheus"],
      storeInt "--concurrency" "concurrency" (.int 1),
      storeInt "--max-days" "max_days" .none,
      storeChoice "--sort" "sort" ["host", "expiry"],
      storeTrue "--summary" "summary",
      storeTrue "--exit-zero" "exit_zero",
      storeText "--state-file" "state_file",
      storeTrue "--only-changed" "only_changed"]
  groups :=
    [["--json", "--field", "--csv", "--exporter"], ["--verify", "--no-verify"],
      ["--not-after-max", "--cab-forum"]]
  positional := "target"

theorem buildParser_wellFormed : buildParser.WellFormed := by decide +kernel

/-! ### The config file -/

/-- What reading a TOML file gives: a table, or the message of the exception. -/
inductive TomlFile
  | unreadable (message : String)
  | undecodable (message : String)
  | unparsable (message : String)
  | table (data : Dict String Value)

/-- `_CONFIG_EXCLUSIVE_GROUPS`. -/
def configExclusiveGroups : List (List String) :=
  [["json", "field", "csv", "exporter"], ["not_after_max", "cab_forum"]]

/-- The destinations that a config file may set. -/
def validDests (parser : Library.Parser) : List String :=
  (parser.actions.map Action.dest ++ [parser.positional]).filter fun dest =>
    dest ∉ ["help", "target", "config"]

/-- The keys of a config file that are no options. -/
def unknownKeys (parser : Library.Parser) (data : Dict String Value) : List String :=
  (data.keys.filter fun key => !(validDests parser).contains key).insertionSort (· ≤ ·)

/-- The first group of which a config file sets several options: these options. -/
def excluded (data : Dict String Value) : Option (List String) :=
  (configExclusiveGroups.map fun group => group.filter fun name => name ∈ data).find? fun present =>
    1 < present.length

/-- `load_config`; an error is the message of its `ValueError`. -/
def loadConfig (path : String) (parser : Library.Parser) (file : TomlFile) :
    Except String (Dict String Value) :=
  match file with
  | .unreadable message => .error s!"could not read config file {path}: {message}"
  | .undecodable message => .error message
  | .unparsable message => .error s!"could not parse config file {path}: {message}"
  | .table data =>
    if unknownKeys parser data ≠ [] then
      let names := ", ".intercalate (unknownKeys parser data)
      .error s!"config file {path} sets unknown option(s): {names}"
    else
      match excluded data with
      | some present =>
        let names := ", ".intercalate present
        .error s!"config file {path} sets mutually exclusive options: {names}"
      | none => .ok data

/-- The config files of a machine. -/
structure ConfigFiles where
  isFile : String → Bool
  read : String → TomlFile
  defaultPath : String

/-- The path that `--config` gives. -/
def configFlag (cmd : CommandLine) : Option String :=
  (cmd.options.filterMap fun (flag, argument) =>
    if flag = "--config" then argument else none).getLast?

/-- The config file of a command line. -/
def configPath (files : ConfigFiles) (cmd : CommandLine) : Except Stop (Option String) :=
  match given (configFlag cmd) with
  | some path =>
    if files.isFile path then .ok (some path)
    else .error (.usage s!"--config file not found: {path}")
  | none => .ok (if files.isFile files.defaultPath then some files.defaultPath else none)

/-- The defaults that the config file sets. -/
def configDefaults (parser : Library.Parser) (files : ConfigFiles) (cmd : CommandLine) :
    Except Stop (Dict String Value) := do
  match ← configPath files cmd with
  | none => .ok ∅
  | some path =>
    match loadConfig path parser (files.read path) with
    | .ok data => .ok data
    | .error message => .error (.usage message)

/-- `_parse_args`; `none` when argparse ends the program. -/
def parseArgs (parser : Library.Parser) (readers : Readers) (files : ConfigFiles)
    (cmd : CommandLine) : Except Stop (Option Namespace) := do
  let defaults ← configDefaults parser files cmd
  pure (parser.parse readers defaults cmd)

/-! ### Config files with some options left out -/

/-- The same config files, without some of the options. -/
def ConfigFiles.without (keys : List String) (files : ConfigFiles) : ConfigFiles :=
  { files with
    read := fun path =>
      match files.read path with
      | .table data => .table (data.without keys)
      | failed => failed }

section Files

variable {path : String} {parser : Library.Parser} {file : TomlFile} {keys : List String}
  {data config : Dict String Value} {files : ConfigFiles} {cmd : CommandLine}

theorem unknownKeys_eq_nil_iff :
    unknownKeys parser data = [] ↔ ∀ key ∈ data, key ∈ validDests parser := by
  have length := List.length_insertionSort (· ≤ ·)
    (data.keys.filter fun key => !(validDests parser).contains key)
  unfold unknownKeys
  rw [← List.length_eq_zero_iff, length, List.length_eq_zero_iff, List.filter_eq_nil_iff]
  refine forall₂_congr fun key _ => ?_
  simp

theorem excluded_eq_none_iff :
    excluded data = none ↔ ∀ group ∈ configExclusiveGroups,
      (group.filter fun name => name ∈ data).length ≤ 1 := by
  unfold excluded
  rw [List.find?_eq_none, List.forall_mem_map]
  simp

/-- **What `load_config` accepts**: a table whose keys are options, at most one of a group. -/
theorem loadConfig_ok_iff :
    loadConfig path parser file = .ok config ↔ file = .table config ∧
      (∀ key ∈ config, key ∈ validDests parser) ∧ ∀ group ∈ configExclusiveGroups,
        (group.filter fun name => name ∈ config).length ≤ 1 := by
  cases file with
  | unreadable | undecodable | unparsable => simp [loadConfig]
  | table data =>
    rw [← unknownKeys_eq_nil_iff, ← excluded_eq_none_iff, TomlFile.table.injEq]
    unfold loadConfig
    dsimp only
    by_cases unknown : unknownKeys parser data = []
    · rw [if_neg (not_not.mpr unknown)]
      cases found : excluded data with
      | some present =>
        refine ⟨fun absurd => (by cases absurd), ?_⟩
        intro accepted
        obtain ⟨rfl, _, none⟩ := accepted
        rw [found] at none
        cases none
      | none =>
        refine ⟨?_, ?_⟩
        · intro same
          cases same
          exact ⟨rfl, unknown, found⟩
        · intro accepted
          rw [accepted.1]
    · rw [if_pos unknown]
      refine ⟨fun absurd => (by cases absurd), ?_⟩
      intro accepted
      obtain ⟨rfl, none, _⟩ := accepted
      exact (unknown none).elim

theorem mem_without {key : String} (member : key ∈ data.without keys) : key ∈ data := by
  rw [← AList.lookup_isSome] at member ⊢
  rw [lookup_without] at member
  split at member
  · cases member
  · exact member

/-- A config file is accepted with fewer options too. -/
theorem configDefaults_without (found : configDefaults parser files cmd = .ok config) :
    configDefaults parser (files.without keys) cmd = .ok (config.without keys) := by
  have samePath : configPath (files.without keys) cmd = configPath files cmd := rfl
  unfold configDefaults at found ⊢
  rw [samePath]
  cases located : configPath files cmd with
  | error stop =>
    rw [located] at found
    cases found
  | ok path =>
    rw [located] at found
    cases path with
    | none =>
      cases found
      rfl
    | some path =>
      dsimp only [bind, Except.bind, ConfigFiles.without] at found ⊢
      cases loaded : loadConfig path parser (files.read path) with
      | error message =>
        rw [loaded] at found
        cases found
      | ok data =>
        rw [loaded] at found
        cases found
        obtain ⟨read, known, exclusive⟩ := loadConfig_ok_iff.mp loaded
        have fewer : loadConfig path parser (.table (config.without keys)) =
            .ok (config.without keys) := by
          refine loadConfig_ok_iff.mpr ⟨rfl, fun key member => known key (mem_without member), ?_⟩
          intro group member
          refine (List.Sublist.length_le ?_).trans (exclusive group member)
          refine List.monotone_filter_right group fun name inside => ?_
          simpa using mem_without (of_decide_eq_true inside)
        rw [read]
        dsimp only
        rw [fewer]

end Files

/-! ### The groups -/

/-- **The groups of the config file are groups of the parser.** -/
theorem configExclusiveGroups_actions : ∀ group ∈ configExclusiveGroups,
    ∃ flags ∈ buildParser.groups, ∀ action ∈ buildParser.actions, action.dest ∈ group →
      action.flag ∈ flags := by
  decide +kernel

/-- An accepted command line has at most one option of a group. -/
theorem explicit_of_group {cmd : CommandLine} {group : List String} {dest other : String}
    (accepted : buildParser.rejects cmd = false) (member : group ∈ configExclusiveGroups)
    (inside : dest ∈ group) (inside' : other ∈ group) (explicit : buildParser.Explicit cmd dest)
    (explicit' : buildParser.Explicit cmd other) : dest = other := by
  obtain ⟨flags, exclusive, covered⟩ := configExclusiveGroups_actions group member
  refine Parser.explicit_unique accepted exclusive ?_ explicit explicit'
  intro action inActions own
  rcases own with own | own
  · exact covered action inActions (own ▸ inside)
  · exact covered action inActions (own ▸ inside')

end Certinspect.Cli
