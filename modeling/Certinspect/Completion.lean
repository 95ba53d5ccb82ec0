/-
**The completion scripts, `completion.py`.**

The scripts are made from the option strings of the parser and the first sentence of each help text. A
help text is any text; between the single quotes of the zsh script it must not end its argument.

* `completionFlags`, `bashCompletionScript`, `zshCompletionScript` — the code.
* `bash_offers` — the words of the bash script are the option strings.
* `zsh_arguments` — the words of the zsh script's command are one for each option, whatever its help text.
* **`completion_exact`** — both scripts of the program's own parser.
-/

import Certinspect.Cli.Args
import Certinspect.Library.Shell

namespace Certinspect.Completion

open Library Cli

/-! ### The scripts -/

/-- An argument of a parser, as the scripts see it. -/
structure HelpAction where
  optionStrings : List String
  help : Option String

/-- `text.split(separator)[0]`. -/
def firstPart (separator : List Char) : List Char → List Char
  | [] => []
  | c :: rest => if separator.isPrefixOf (c :: rest) then [] else c :: firstPart separator rest

/-- The first sentence of a help text. -/
def firstSentence (help : Option String) : String :=
  rstripBy (· == '.') (String.ofList (firstPart ['.', ' '] (help.getD "").toList))

/-- `_completion_flags`. -/
def completionFlags (actions : List HelpAction) : List (List String × String) :=
  (actions.filter fun action => !action.optionStrings.isEmpty).map fun action =>
    (action.optionStrings, firstSentence action.help)

/-- The bash script before its words. -/
def bashHead : String :=
  "# bash completion for certinspect - generated by `certinspect --print-completion bash`\n" ++
    "_certinspect_completion() \x7b\n" ++
    "    local cur=\"$\x7bCOMP_WORDS[COMP_CWORD]\x7d\"\n" ++
    "    COMPREPLY=( $(compgen -W \""

/-- The bash script after its words. -/
def bashTail : String :=
  "\" -- \"$cur\") )\n" ++ "\x7d\n" ++ "complete -F _certinspect_completion certinspect\n"

/-- `bash_completion_script`. -/
def bashCompletionScript (actions : List HelpAction) : String :=
  bashHead ++ " ".intercalate ((completionFlags actions).flatMap Prod.fst) ++ bashTail

/-- The option strings of an argument, in braces when there are several. -/
def zshSpec (opts : List String) : String :=
  if 1 < opts.length then "\x7b" ++ ",".intercalate opts ++ "\x7d" else opts.head?.getD ""

/-- The description of an argument. -/
def zshDescription (summary : String) : String :=
  replaceChar ']' ")" (replaceChar '[' "(" (replaceChar '\'' "'\\''" summary))

/-- The line of an argument. -/
def zshLine (flag : List String × String) : String :=
  "    '" ++ zshSpec flag.1 ++ "[" ++ zshDescription flag.2 ++ "]' \\"

/-- `zsh_completion_script`. -/
def zshCompletionScript (actions : List HelpAction) : String :=
  "\n".intercalate (["#compdef certinspect", "# generated by `certinspect --print-completion zsh`", "",
    "_certinspect() \x7b", "  _arguments -s \\"] ++ (completionFlags actions).map zshLine ++
      ["    '*::target:_default'", "\x7d", "", "_certinspect \"$@\""]) ++ "\n"

/-- `_completion_script`, for the shells of `--print-completion`. -/
def completionScript (actions : List HelpAction) (shell : String) : String :=
  if shell = "bash" then bashCompletionScript actions else zshCompletionScript actions

/-! ### How they are read -/

section Reading

variable {actions : List HelpAction}

/-- An option string that a shell reads as it is. -/
def PlainOption (opt : String) : Prop := opt.toList ≠ [] ∧ ∀ c ∈ opt.toList, isBareChar c = true

instance : DecidablePred PlainOption := fun _ => inferInstanceAs (Decidable (_ ∧ _))

theorem toList_intercalate_cons (separator first : String) (rest : List String) :
    (separator.intercalate (first :: rest)).toList =
      first.toList ++ rest.flatMap fun part => separator.toList ++ part.toList := by
  induction rest generalizing first with
  | nil => rw [String.intercalate_singleton, List.flatMap_nil, List.append_nil]
  | cons next rest ih =>
    rw [String.intercalate_cons_cons, String.toList_append, String.toList_append, ih,
      List.flatMap_cons, List.append_assoc, List.append_assoc]

/-- **What bash offers**: the words of the script are the option strings. -/
theorem bash_offers {first : String} {rest : List String}
    (flags : (completionFlags actions).flatMap Prod.fst = first :: rest)
    (plain : ∀ opt ∈ first :: rest, PlainOption opt) :
    readWords (" ".intercalate ((completionFlags actions).flatMap Prod.fst)).toList =
      some ((first :: rest).map String.toList) := by
  obtain ⟨own, others⟩ := List.forall_mem_cons.mp plain
  rw [flags, toList_intercalate_cons]
  have texts : (rest.flatMap fun part => " ".toList ++ part.toList) =
      (rest.map String.toList).flatMap fun text => [' '] ++ id text := by
    rw [List.flatMap_map]
    rfl
  rw [texts]
  refine readWords_append (run_bare own.2 own.1) (fun _ _ => rfl) fun text member words => ?_
  obtain ⟨opt, inside, rfl⟩ := List.mem_map.mp member
  exact run_bare (others opt inside).2 (others opt inside).1

/-- The description that zsh shows of an argument: a bracket would end it. -/
def shownSummary (summary : String) : String := replaceChar ']' ")" (replaceChar '[' "(" summary)

/-- The word that `_arguments` gets for an argument of the parser. -/
def zshArgument (flag : List String × String) : String :=
  zshSpec flag.1 ++ "[" ++ shownSummary flag.2 ++ "]"

/-- A quote in a description is written as it has to be between quotes. -/
theorem toList_zshDescription (summary : String) : (zshDescription summary).toList =
    (shownSummary summary).toList.flatMap fun c => if c = '\'' then ['\'', '\\', '\'', '\''] else [c] := by
  unfold zshDescription shownSummary replaceChar
  simp only [String.toList_ofList, List.flatMap_assoc]
  refine List.flatMap_congr fun c _ => ?_
  by_cases quote : c = '\''
  · rw [quote]
    rfl
  by_cases opening : c = '['
  · rw [opening]
    rfl
  by_cases closing : c = ']'
  · rw [closing]
    rfl
  · simp [quote, opening, closing]

theorem flatMap_unquoted {text : List Char} (unquoted : '\'' ∉ text) :
    (text.flatMap fun c => if c = '\'' then ['\'', '\\', '\'', '\''] else [c]) = text := by
  rw [List.flatMap_congr fun c member => if_neg fun (same : c = '\'') => unquoted (same ▸ member)]
  exact List.flatMap_singleton' text

theorem quote_notMem_zshSpec {opts : List String} (plain : ∀ opt ∈ opts, PlainOption opt) :
    '\'' ∉ (zshSpec opts).toList := by
  have each : ∀ opt ∈ opts, '\'' ∉ opt.toList := fun opt member inside =>
    (isBareChar_other ((plain opt member).2 _ inside)).2.1 rfl
  unfold zshSpec
  cases opts with
  | nil => decide
  | cons first rest =>
    obtain ⟨own, others⟩ := List.forall_mem_cons.mp each
    split
    · rw [String.toList_append, String.toList_append, toList_intercalate_cons]
      simp only [List.mem_append, List.mem_flatMap, not_or, not_exists, not_and]
      exact ⟨⟨by decide, own, fun opt member => ⟨by decide, others opt member⟩⟩, by decide⟩
    · exact own

/-- The line of an argument is its word between quotes, continued on the next line. -/
theorem toList_zshLine {flag : List String × String} (plain : ∀ opt ∈ flag.1, PlainOption opt) :
    (zshLine flag).toList =
      [' ', ' ', ' ', ' '] ++ singleQuoted (zshArgument flag).toList ++ [' ', '\\'] := by
  unfold zshLine zshArgument singleQuoted
  simp only [String.toList_append, List.flatMap_append, toList_zshDescription,
    flatMap_unquoted (quote_notMem_zshSpec plain), List.append_assoc]
  simp

/-- What ends each line may as well begin it, when a line before is ended so. -/
theorem flatMap_rotate {β : Type} (gap lead : List Char) (written : β → List Char) (items : List β) :
    gap ++ (items.flatMap fun item => lead ++ written item ++ gap) =
      (items.flatMap fun item => gap ++ lead ++ written item) ++ gap := by
  induction items with
  | nil => rw [List.flatMap_nil, List.flatMap_nil, List.append_nil, List.nil_append]
  | cons item items ih =>
    rw [List.flatMap_cons, List.flatMap_cons, List.append_assoc (gap ++ lead ++ written item), ← ih]
    simp only [List.append_assoc]

/-- The zsh script before its command. -/
def zshHead : String :=
  "#compdef certinspect" ++ "\n" ++ "# generated by `certinspect --print-completion zsh`" ++ "\n" ++ "\n" ++
    "_certinspect() \x7b" ++ "\n"

/-- The zsh script after its command. -/
def zshTail : String := "\n" ++ "\x7d" ++ "\n" ++ "\n" ++ "_certinspect \"$@\"" ++ "\n"

/-- The command of the zsh script. -/
def zshCommand (actions : List HelpAction) : List Char :=
  "  _arguments -s".toList ++
    (((completionFlags actions).map zshArgument ++ ["*::target:_default"]).map String.toList).flatMap
      fun text => [' ', '\\', '\n', ' ', ' ', ' ', ' '] ++ singleQuoted text

theorem zshCompletionScript_eq
    (plain : ∀ flag ∈ completionFlags actions, ∀ opt ∈ flag.1, PlainOption opt) :
    zshCompletionScript actions = zshHead ++ String.ofList (zshCommand actions) ++ zshTail := by
  have lines : ((completionFlags actions).map zshLine).flatMap (fun part => "\n".toList ++ part.toList) =
      (completionFlags actions).flatMap fun flag =>
        ['\n', ' ', ' ', ' ', ' '] ++ singleQuoted (zshArgument flag).toList ++ [' ', '\\'] := by
    rw [List.flatMap_map]
    exact List.flatMap_congr fun flag member => by rw [toList_zshLine (plain flag member)]; rfl
  -- the backslash that continues a line stands at its end; in the command it stands before the next word
  have rotated := flatMap_rotate [' ', '\\'] ['\n', ' ', ' ', ' ', ' ']
    (fun flag => singleQuoted (zshArgument flag).toList) (completionFlags actions)
  have opening : "#compdef certinspect".toList ++ ["# generated by `certinspect --print-completion zsh`", "",
      "_certinspect() \x7b", "  _arguments -s \\"].flatMap (fun part => "\n".toList ++ part.toList) =
        zshHead.toList ++ "  _arguments -s".toList ++ [' ', '\\'] := rfl
  have closing : ["    '*::target:_default'", "\x7d", "", "_certinspect \"$@\""].flatMap
      (fun part => "\n".toList ++ part.toList) ++ "\n".toList =
        ['\n', ' ', ' ', ' ', ' '] ++ singleQuoted "*::target:_default".toList ++ zshTail.toList := by
    have target : "\n".toList ++ "    '*::target:_default'".toList =
        ['\n', ' ', ' ', ' ', ' '] ++ singleQuoted "*::target:_default".toList := rfl
    rw [← target]
    simp only [zshTail, String.toList_append, List.flatMap_cons, List.flatMap_nil, List.append_assoc,
      List.append_nil, String.toList_empty]
  rw [← String.toList_inj, String.toList_append, String.toList_append, String.toList_ofList]
  unfold zshCompletionScript zshCommand
  rw [String.toList_append, List.append_assoc, List.cons_append, toList_intercalate_cons,
    List.flatMap_append, List.flatMap_append, lines, List.map_append, List.flatMap_append, List.map_map,
    List.flatMap_map, List.append_assoc, List.append_assoc, List.append_assoc, closing,
    ← List.append_assoc, opening, List.append_assoc _ [' ', '\\'], ← List.append_assoc [' ', '\\'], rotated]
  simp only [List.append_assoc]
  rfl

/-- **What zsh gets**: whatever the help texts are, the command has one argument for each option. -/
theorem zsh_arguments : readWords (zshCommand actions) =
    some ((["_arguments", "-s"] ++ (completionFlags actions).map zshArgument ++
      ["*::target:_default"]).map String.toList) := by
  have begun : "  _arguments -s".toList.foldlM ShellState.step ⟨.between, [], []⟩ =
      some ⟨.bare, "-s".toList, ["_arguments".toList]⟩ := rfl
  unfold zshCommand
  rw [readWords_append begun (fun _ _ => rfl) fun _ _ _ => run_singleQuoted]
  simp only [List.map_append, List.map_cons, List.map_nil, List.cons_append, List.nil_append]

theorem notMem_replaceChar {c d : Char} {new text : String} (fresh : d ∉ new.toList)
    (kept : d ≠ c → d ∉ text.toList) : d ∉ (replaceChar c new text).toList := by
  unfold replaceChar
  rw [String.toList_ofList, List.mem_flatMap]
  rintro ⟨e, member, inside⟩
  split at inside
  · exact fresh inside
  · rename_i other
    rw [← List.mem_singleton.mp inside] at other member
    exact kept other member

/-- No help text ends its description. -/
theorem bracket_notMem_shownSummary (summary : String) :
    '[' ∉ (shownSummary summary).toList ∧ ']' ∉ (shownSummary summary).toList := by
  unfold shownSummary
  refine ⟨notMem_replaceChar (by decide) fun _ => ?_, notMem_replaceChar (by decide) ?_⟩
  · exact notMem_replaceChar (by decide) fun absurd => (absurd rfl).elim
  · exact fun absurd => (absurd rfl).elim

end Reading

/-! ### The parser of the program -/

/-- The option strings of an option: only `--help`, which every parser has, has a short one. -/
def optionStrings (action : Action) : List String :=
  if action.flag = "--help" then ["-h", action.flag] else [action.flag]

/-- The arguments of the program, with these help texts. The place of the targets, which are no option, does
not matter. -/
def helpActions (help : String → Option String) : List HelpAction :=
  buildParser.actions.map (fun action => ⟨optionStrings action, help action.flag⟩) ++
    [⟨[], help buildParser.positional⟩]

theorem completionFlags_helpActions (help : String → Option String) :
    completionFlags (helpActions help) = buildParser.actions.map fun action =>
      (optionStrings action, firstSentence (help action.flag)) := by
  have named (action : Action) : (!(optionStrings action).isEmpty) = true := by
    unfold optionStrings
    split <;> rfl
  have whole : (buildParser.actions.filter fun action => !(optionStrings action).isEmpty) =
      buildParser.actions := List.filter_eq_self.mpr fun action _ => named action
  unfold completionFlags helpActions
  rw [List.filter_append, List.filter_map, Function.comp_def, whole, List.map_append, List.map_map]
  exact List.append_nil _

theorem zshSpec_optionStrings (action : Action) : zshSpec (optionStrings action) =
    if action.flag = "--help" then "\x7b-h,--help\x7d" else action.flag := by
  unfold optionStrings
  by_cases named : action.flag = "--help"
  · rw [if_pos named, if_pos named, named]
    decide
  · rw [if_neg named, if_neg named]
    rfl

theorem plain_optionStrings : ∀ action ∈ buildParser.actions, ∀ opt ∈ optionStrings action,
    PlainOption opt := by
  have each : (buildParser.actions.all fun action => (optionStrings action).all fun opt =>
      !opt.toList.isEmpty && opt.toList.all isBareChar) = true := by decide +kernel
  intro action member opt own
  have plain := List.all_eq_true.mp (List.all_eq_true.mp each action member) opt own
  rw [Bool.and_eq_true, List.all_eq_true] at plain
  exact ⟨by simpa using plain.1, plain.2⟩

/-- **Both scripts of the program, with any help texts.** The words that bash offers are the option strings.
The command of the zsh script has one argument for each option, whatever is in the help texts: the option
and its description in brackets, which no help text can end. The braces around the strings of `--help` stand
between quotes, so the shell leaves them in the argument. -/
theorem completion_exact (help : String → Option String) :
    (∃ words, completionScript (helpActions help) "bash" = bashHead ++ words ++ bashTail ∧
      readWords words.toList =
        some (("-h" :: buildParser.actions.map Action.flag).map String.toList)) ∧
    (∃ command, completionScript (helpActions help) "zsh" = zshHead ++ String.ofList command ++ zshTail ∧
      readWords command = some ((["_arguments", "-s"] ++ buildParser.actions.map (fun action =>
        (if action.flag = "--help" then "\x7b-h,--help\x7d" else action.flag) ++
          "[" ++ shownSummary (firstSentence (help action.flag)) ++ "]") ++
            ["*::target:_default"]).map String.toList)) ∧
    ∀ action ∈ buildParser.actions, '[' ∉ (shownSummary (firstSentence (help action.flag))).toList ∧
      ']' ∉ (shownSummary (firstSentence (help action.flag))).toList := by
  have flags := completionFlags_helpActions help
  refine ⟨⟨" ".intercalate ((completionFlags (helpActions help)).flatMap Prod.fst), if_pos rfl, ?_⟩,
    ⟨zshCommand (helpActions help), (if_neg (by decide)).trans (zshCompletionScript_eq ?_), ?_⟩,
    fun action _ => bracket_notMem_shownSummary _⟩
  · have strings : (completionFlags (helpActions help)).flatMap Prod.fst =
        "-h" :: buildParser.actions.map Action.flag := by
      rw [flags, List.flatMap_map]
      show buildParser.actions.flatMap optionStrings = _
      decide +kernel
    refine bash_offers strings fun opt member => ?_
    rw [← strings, flags, List.flatMap_map] at member
    obtain ⟨action, inside, own⟩ := List.mem_flatMap.mp member
    exact plain_optionStrings action inside opt own
  · rw [flags]
    exact List.forall_mem_map.mpr plain_optionStrings
  · have specs : (buildParser.actions.map fun action =>
        (optionStrings action, firstSentence (help action.flag))).map zshArgument =
          buildParser.actions.map fun action =>
            (if action.flag = "--help" then "\x7b-h,--help\x7d" else action.flag) ++
              "[" ++ shownSummary (firstSentence (help action.flag)) ++ "]" := by
      rw [List.map_map]
      exact List.map_congr_left fun action _ => by rw [← zshSpec_optionStrings]; rfl
    rw [zsh_arguments, flags, specs]

end Certinspect.Completion
