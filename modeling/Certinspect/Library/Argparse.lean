/-
**A command-line parser whose options have defaults from outside.**

An option writes one destination: it stores its argument or a constant, or appends its argument to a
list. A destination no option was given for keeps its default, which is the parser's own one or one
that was set from outside; a default that is a text is converted like an argument.

* `Step.run` — steps that each touch one component of a state; `Step.run_iff` — every component evolves
  on its own.
* `Parser.parse` — a command line, parsed on top of defaults from outside.
* `Parser.component` — the same for one destination; `Parser.parse_iff`.
* `Parser.component_congr`, `component_stored`, `component_appended`, `component_absent` — what one
  destination depends on.
* **`Parser.parse_without`** — without the defaults of some destinations the command line is still
  accepted, and every other destination is as before.
-/

import Certinspect.Library.Dict
import Mathlib.Logic.Function.Basic

namespace Certinspect.Library

/-! ### Steps on one component -/

/-- A step on one component of a state. It may fail. -/
structure Step (κ α : Type) where
  key : κ
  act : α → Option α

namespace Step

section Components

variable {κ α : Type} [DecidableEq κ]

/-- A step on the whole state. -/
def take (step : Step κ α) (state : κ → α) : Option (κ → α) :=
  (step.act (state step.key)).map (Function.update state step.key)

/-- Steps, one after the other. -/
def run (steps : List (Step κ α)) (state : κ → α) : Option (κ → α) :=
  steps.foldlM (fun state step => step.take state) state

/-- What the steps make of one component. -/
def runAt (key : κ) (steps : List (Step κ α)) (value : α) : Option α :=
  (steps.filter fun step => step.key = key).foldlM (fun value step => step.act value) value

variable {key : κ} {step : Step κ α} {steps : List (Step κ α)} {value : α}

theorem runAt_cons_own (own : step.key = key) :
    runAt key (step :: steps) value = (step.act value).bind (runAt key steps) := by
  unfold runAt
  rw [List.filter_cons_of_pos (by simpa using own), List.foldlM_cons]
  rfl

theorem runAt_cons_other (other : step.key ≠ key) :
    runAt key (step :: steps) value = runAt key steps value := by
  unfold runAt
  rw [List.filter_cons_of_neg (by simpa using other)]

theorem runAt_append (first second : List (Step κ α)) :
    runAt key (first ++ second) value = (runAt key first value).bind (runAt key second) := by
  unfold runAt
  rw [List.filter_append, List.foldlM_append]
  rfl

/-- **Every component evolves on its own.** -/
theorem run_iff {state final : κ → α} :
    run steps state = some final ↔ ∀ key, runAt key steps (state key) = some (final key) := by
  induction steps generalizing state with
  | nil =>
    show some state = some final ↔ ∀ key, some (state key) = some (final key)
    simp only [Option.some.injEq]
    exact funext_iff
  | cons step rest ih =>
    have unfolded : run (step :: rest) state =
        (step.act (state step.key)).bind fun value => run rest (Function.update state step.key value) := by
      unfold run
      rw [List.foldlM_cons]
      unfold take
      cases step.act (state step.key) <;> rfl
    rw [unfolded, Option.bind_eq_some_iff]
    refine ⟨?_, ?_⟩
    · intro found key
      obtain ⟨value, acted, ran⟩ := found
      have here := ih.mp ran key
      by_cases own : step.key = key
      · subst own
        rw [Function.update_self] at here
        rw [runAt_cons_own rfl, acted]
        exact here
      · rw [Function.update_of_ne (Ne.symm own)] at here
        rw [runAt_cons_other own]
        exact here
    · intro each
      have own := each step.key
      rw [runAt_cons_own rfl, Option.bind_eq_some_iff] at own
      obtain ⟨value, acted, continued⟩ := own
      refine ⟨value, acted, ih.mpr fun key => ?_⟩
      by_cases own : step.key = key
      · subst own
        rw [Function.update_self]
        exact continued
      · have here := each key
        rw [runAt_cons_other own] at here
        rw [Function.update_of_ne (Ne.symm own)]
        exact here

/-- Steps that leave a component as it is. -/
theorem runAt_same (same : ∀ step ∈ steps, step.key = key → ∀ value, step.act value = some value) :
    runAt key steps value = some value := by
  induction steps with
  | nil => rfl
  | cons step rest ih =>
    obtain ⟨here, others⟩ := List.forall_mem_cons.mp same
    by_cases own : step.key = key
    · rw [runAt_cons_own own, here own value, Option.bind_some, ih others]
    · rw [runAt_cons_other own, ih others]

end Components

end Step

/-! ### Options -/

/-- A single value. A float is given by its bits. -/
inductive Scalar
  | none
  | bool (b : Bool)
  | int (n : Int)
  | float (bits : UInt64)
  | str (text : String)
  | date (text : String)
  deriving DecidableEq, Repr

/-- A text. -/
def Scalar.isText : Scalar → Bool
  | .str _ => true
  | _ => false

/-- The value of a destination. -/
inductive Value
  | scalar (value : Scalar)
  | list (items : List Value)
  | table (entries : List (String × Value))

/-- `bool(value)`. -/
def Value.truthy : Value → Bool
  | .scalar .none => false
  | .scalar (.bool b) => b
  | .scalar (.int n) => n != 0
  | .scalar (.float bits) => bits != 0 && bits != 0x8000000000000000
  | .scalar (.str text) => text != ""
  | .scalar (.date _) => true
  | .list items => !items.isEmpty
  | .table entries => !entries.isEmpty

/-- The items that an appending option extends. Only a list has them, and nothing counts as none. -/
def Value.items : Value → Option (List Value)
  | .scalar .none => some []
  | .list items => some items
  | _ => none

/-- The conversions to numbers. -/
structure Readers where
  int : String → Option Int
  float : String → Option UInt64

/-- What an argument is converted to. -/
inductive ArgType
  | text
  | int
  | float
  deriving DecidableEq, Repr

/-- The conversion of an argument. -/
def ArgType.read (readers : Readers) (text : String) : ArgType → Option Scalar
  | .text => some (.str text)
  | .int => (readers.int text).map .int
  | .float => (readers.float text).map .float

/-- What an option does: store its argument, which may have to be one of some choices; store a
constant; append its argument; or print something and end the program. -/
inductive Kind
  | store (type : ArgType) (choices : Option (List Scalar))
  | storeConst (const : Scalar)
  | append (type : ArgType)
  | exits
  deriving DecidableEq, Repr

/-- An option of a parser. -/
structure Action where
  flag : String
  dest : String
  kind : Kind
  default : Scalar := .none
  deriving DecidableEq, Repr

namespace Action

/-- The type of the option's argument. -/
def type (action : Action) : ArgType :=
  match action.kind with
  | .store type _ | .append type => type
  | _ => .text

/-- The option appends. -/
def appends (action : Action) : Bool :=
  match action.kind with
  | .append _ => true
  | _ => false

/-- The option stores a constant. -/
def isConst (action : Action) : Bool :=
  match action.kind with
  | .storeConst _ => true
  | _ => false

variable (readers : Readers)

/-- The value that is given with an occurrence of the option. -/
def read (action : Action) (argument : Option String) : Option Scalar :=
  match action.kind, argument with
  | .store type choices, some text =>
    (type.read readers text).filter fun value => choices.all fun list => list.contains value
  | .storeConst const, none => some const
  | .append type, some text => type.read readers text
  | _, _ => none

section Read

variable {readers} {action : Action} {argument : Option String} {value : Scalar}

/-- A constant is read as it is. -/
theorem read_const {const : Scalar} (kind : action.kind = .storeConst const)
    (read : action.read readers argument = some value) : value = const := by
  unfold Action.read at read
  rw [kind] at read
  cases argument with
  | some text => cases read
  | none => exact (Option.some.inj read).symm

/-- An argument is read by its type, and is one of the choices. -/
theorem read_store {type : ArgType} {choices : Option (List Scalar)}
    (kind : action.kind = .store type choices)
    (read : action.read readers argument = some value) :
    ∃ text, type.read readers text = some value ∧ ∀ list, choices = some list → value ∈ list := by
  unfold Action.read at read
  rw [kind] at read
  cases argument with
  | none => cases read
  | some text =>
    obtain ⟨converted, choice⟩ := Option.filter_eq_some_iff.mp read
    refine ⟨text, converted, ?_⟩
    intro list given
    simpa [given] using choice

end Read

/-- What an occurrence of the option makes of its destination. -/
def take (action : Action) (argument : Option String) (value : Value) : Option Value := do
  let given ← action.read readers argument
  if action.appends then
    let items ← value.items
    pure (.list (items ++ [.scalar given]))
  else pure (.scalar given)

/-- What becomes of the destination of an option that was not given: a default that is a text, and
still there, is converted. -/
def settle (action : Action) (default value : Value) : Option Value :=
  match default, value with
  | .scalar (.str text), .scalar (.str current) =>
    if current = text then (action.type.read readers text).map .scalar else some value
  | _, _ => some value

end Action

/-! ### Parsing -/

/-- A parser: its options, the groups of options that exclude each other, and where the other arguments
go. -/
structure Parser where
  actions : List Action
  groups : List (List String)
  positional : String

/-- A command line: the options in order, each with its argument, and the other arguments. -/
structure CommandLine where
  options : List (String × Option String)
  arguments : List String := []

/-- The options given. -/
def CommandLine.flags (cmd : CommandLine) : List String := cmd.options.map Prod.fst

/-- The values of all destinations; nothing for a name that is none. -/
abbrev Namespace : Type := String → Value

/-- The defaults for some destinations left out. -/
def Dict.without {α : Type} (keys : List String) (defaults : Dict String α) : Dict String α :=
  Dict.ofPairs (defaults.items.filter fun item => !keys.contains item.1)

theorem lookup_without {α : Type} (keys : List String) (defaults : Dict String α) (key : String) :
    (defaults.without keys).lookup key = if key ∈ keys then none else defaults.lookup key := by
  unfold Dict.without
  rw [lookup_ofPairs_filter defaults fun key => !keys.contains key]
  by_cases member : key ∈ keys
  · simp [member]
  · simp [member]

namespace Parser

variable (parser : Parser) (readers : Readers) (defaults : Dict String Value) (cmd : CommandLine)

/-- The option of a flag. -/
def action? (flag : String) : Option Action := parser.actions.find? fun action => action.flag = flag

/-- An unknown option is given, or two of one group are. -/
def rejects : Bool :=
  cmd.flags.any (fun flag => (parser.action? flag).isNone) ||
    parser.groups.any fun group => 1 < (group.filter fun flag => cmd.flags.contains flag).length

/-- The default of an option. -/
def defaultOf (action : Action) : Value :=
  (defaults.lookup action.dest).getD (.scalar action.default)

/-- The destinations before any option: the defaults from outside, then those of the options. -/
def initial : Namespace := fun dest =>
  (defaults.lookup dest).getD <| .scalar <|
    ((parser.actions.find? fun action => action.dest = dest).map Action.default).getD .none

/-- The options that are given, in order. -/
def taking : List (Step String Value) :=
  cmd.options.filterMap fun (flag, argument) =>
    (parser.action? flag).map fun action => ⟨action.dest, action.take readers argument⟩

/-- The options that are not given. -/
def unseen : List Action := parser.actions.filter fun action => !cmd.flags.contains action.flag

/-- The defaults that are left. -/
def settling : List (Step String Value) :=
  (parser.unseen cmd).map fun action =>
    ⟨action.dest, action.settle readers (defaultOf defaults action)⟩

/-- The other arguments. -/
def collecting : List (Step String Value) :=
  [⟨parser.positional, fun _ => some (.list (cmd.arguments.map fun text => .scalar (.str text)))⟩]

/-- Parse a command line on top of the defaults. -/
def parse : Option Namespace :=
  if parser.rejects cmd then none
  else Step.run (parser.taking readers cmd ++ parser.settling readers defaults cmd ++
    parser.collecting cmd) (parser.initial defaults)

/-- What parsing makes of one destination. -/
def component (dest : String) : Option Value :=
  Step.runAt dest (parser.taking readers cmd ++ parser.settling readers defaults cmd ++
    parser.collecting cmd) (parser.initial defaults dest)

section Components

variable {parser readers defaults cmd} {dest : String}

/-- **Parsing, destination by destination.** -/
theorem parse_iff {args : Namespace} :
    parser.parse readers defaults cmd = some args ↔ parser.rejects cmd = false ∧
      ∀ dest, parser.component readers defaults cmd dest = some (args dest) := by
  unfold parse component
  by_cases rejected : parser.rejects cmd = true
  · simp [rejected]
  · rw [if_neg rejected, Step.run_iff, Bool.eq_false_iff, and_iff_right rejected]

/-- The occurrences of the options of a destination. -/
def occurrences (parser : Parser) (cmd : CommandLine) (dest : String) :
    List (Action × Option String) :=
  cmd.options.filterMap fun (flag, argument) =>
    ((parser.action? flag).filter fun action => action.dest = dest).map fun action =>
      (action, argument)

/-- The values that are given with occurrences, when each can be read. -/
def readAll (readers : Readers) (found : List (Action × Option String)) : Option (List Scalar) :=
  found.mapM fun occurrence => occurrence.1.read readers occurrence.2

/-- What occurrences make of their destination, one after the other. -/
def takeAll (readers : Readers) (found : List (Action × Option String)) (value : Value) :
    Option Value :=
  found.foldlM (fun value occurrence => occurrence.1.take readers occurrence.2 value) value

/-- The values that are given for a destination, when each can be read. -/
def reads (parser : Parser) (readers : Readers) (cmd : CommandLine) (dest : String) :
    Option (List Scalar) :=
  readAll readers (parser.occurrences cmd dest)

/-- The last value that is given for a destination. -/
def lastGiven (parser : Parser) (readers : Readers) (cmd : CommandLine) (dest : String) :
    Option Scalar :=
  (parser.reads readers cmd dest).bind List.getLast?

/-- The last value that is given, or the default. -/
def setting (parser : Parser) (readers : Readers) (defaults : Dict String Value)
    (cmd : CommandLine) (dest : String) : Value :=
  ((parser.lastGiven readers cmd dest).map .scalar).getD (parser.initial defaults dest)

/-- Some option of the destination is given. -/
def Explicit (parser : Parser) (cmd : CommandLine) (dest : String) : Prop :=
  parser.occurrences cmd dest ≠ []

theorem runAt_taking (value : Value) :
    Step.runAt dest (parser.taking readers cmd) value =
      takeAll readers (parser.occurrences cmd dest) value := by
  have steps : (parser.taking readers cmd).filter (fun step => step.key = dest) =
      (parser.occurrences cmd dest).map fun found => ⟨found.1.dest, found.1.take readers found.2⟩ := by
    unfold taking occurrences
    rw [List.filter_filterMap, List.map_filterMap]
    refine List.filterMap_congr fun option _ => ?_
    obtain ⟨flag, argument⟩ := option
    dsimp only
    generalize parser.action? flag = known
    cases known with
    | none => rfl
    | some action =>
      by_cases own : action.dest = dest
      · simp [Option.filter, own]
      · simp [Option.filter, own]
  unfold Step.runAt takeAll
  rw [steps, List.foldlM_map]

theorem mem_occurrences {action : Action} {argument : Option String}
    (member : (action, argument) ∈ parser.occurrences cmd dest) :
    parser.action? action.flag = some action ∧ action.dest = dest ∧ action.flag ∈ cmd.flags := by
  obtain ⟨⟨flag, argument'⟩, given, found⟩ := List.mem_filterMap.mp member
  obtain ⟨action', filtered, same⟩ := Option.map_eq_some_iff.mp found
  cases same
  obtain ⟨known, own⟩ := Option.filter_eq_some_iff.mp filtered
  have named : action.flag = flag := by simpa using List.find?_some known
  rw [named]
  exact ⟨known, by simpa using own, List.mem_map_of_mem (f := Prod.fst) given⟩

/-- An explicit destination has an option that is given. -/
theorem Explicit.action (explicit : parser.Explicit cmd dest) :
    ∃ action ∈ parser.actions, parser.action? action.flag = some action ∧ action.dest = dest ∧
      action.flag ∈ cmd.flags := by
  obtain ⟨⟨action, argument⟩, member⟩ := List.exists_mem_of_ne_nil _ explicit
  obtain ⟨known, own, given⟩ := mem_occurrences member
  exact ⟨action, List.mem_of_find?_eq_some known, known, own, given⟩

/-- **Of options that exclude each other at most one is given.** -/
theorem explicit_unique {group : List String} {other : String}
    (accepted : parser.rejects cmd = false) (exclusive : group ∈ parser.groups)
    (flags : ∀ action ∈ parser.actions, action.dest = dest ∨ action.dest = other →
      action.flag ∈ group)
    (explicit : parser.Explicit cmd dest) (explicit' : parser.Explicit cmd other) :
    dest = other := by
  obtain ⟨first, inFirst, known, rfl, given⟩ := explicit.action
  obtain ⟨second, inSecond, known', rfl, given'⟩ := explicit'.action
  have one : (group.filter fun flag => cmd.flags.contains flag).length ≤ 1 := by
    by_contra several
    have rejected : parser.rejects cmd = true := by
      unfold rejects
      rw [Bool.or_eq_true, List.any_eq_true, List.any_eq_true]
      exact Or.inr ⟨group, exclusive, by simpa using several⟩
    rw [accepted] at rejected
    cases rejected
  have left : first.flag ∈ group.filter fun flag => cmd.flags.contains flag :=
    List.mem_filter.mpr ⟨flags first inFirst (Or.inl rfl), by simpa using given⟩
  have right : second.flag ∈ group.filter fun flag => cmd.flags.contains flag :=
    List.mem_filter.mpr ⟨flags second inSecond (Or.inr rfl), by simpa using given'⟩
  have same : first.flag = second.flag := by
    obtain ⟨i, bound, here⟩ := List.getElem_of_mem left
    obtain ⟨j, bound', there⟩ := List.getElem_of_mem right
    have both : i = j := by omega
    subst both
    rw [← here, ← there]
  rw [same, known'] at known
  rw [Option.some.inj known]

/-- Storing options: the last value counts. -/
theorem takeAll_stored {found : List (Action × Option String)}
    (stores : ∀ occurrence ∈ found, occurrence.1.appends = false) (value : Value) :
    takeAll readers found value = (readAll readers found).map fun given =>
      (given.getLast?.map Value.scalar).getD value := by
  unfold takeAll readAll
  induction found generalizing value with
  | nil => rfl
  | cons occurrence rest ih =>
    obtain ⟨here, others⟩ := List.forall_mem_cons.mp stores
    rw [List.foldlM_cons, List.mapM_cons]
    have taken : occurrence.1.take readers occurrence.2 value =
        (occurrence.1.read readers occurrence.2).map .scalar := by
      unfold Action.take
      rw [here]
      cases occurrence.1.read readers occurrence.2 <;> rfl
    rw [taken]
    cases occurrence.1.read readers occurrence.2 with
    | none => rfl
    | some given =>
      simp only [Option.bind_eq_bind, Option.bind_some, Option.map_some, Option.pure_def, ih others]
      cases rest.mapM fun occurrence => occurrence.1.read readers occurrence.2 with
      | none => rfl
      | some later =>
        simp only [Option.map_some, Option.bind_some, List.getLast?_cons]
        cases later.getLast? <;> rfl

/-- Appending options: all values count, after the items there are. -/
theorem takeAll_appended {found : List (Action × Option String)}
    (appends : ∀ occurrence ∈ found, occurrence.1.appends = true) (some : found ≠ [])
    (value : Value) :
    takeAll readers found value = value.items.bind fun items =>
      (readAll readers found).map fun given => .list (items ++ given.map Value.scalar) := by
  unfold takeAll readAll
  induction found generalizing value with
  | nil => exact (some rfl).elim
  | cons occurrence rest ih =>
    obtain ⟨here, others⟩ := List.forall_mem_cons.mp appends
    rw [List.foldlM_cons, List.mapM_cons]
    have taken : occurrence.1.take readers occurrence.2 value =
        (occurrence.1.read readers occurrence.2).bind fun given =>
          value.items.map fun items => .list (items ++ [.scalar given]) := by
      unfold Action.take
      rw [here]
      cases occurrence.1.read readers occurrence.2 with
      | none => rfl
      | some given => cases value.items <;> rfl
    rw [taken]
    cases value.items with
    | none => cases occurrence.1.read readers occurrence.2 <;> rfl
    | some items =>
      cases occurrence.1.read readers occurrence.2 with
      | none => rfl
      | some given =>
        by_cases last : rest = []
        · rw [last]
          rfl
        · simp only [Option.bind_eq_bind, Option.bind_some, Option.map_some, Option.pure_def,
            ih others last, Value.items]
          cases rest.mapM fun occurrence => occurrence.1.read readers occurrence.2 with
          | none => rfl
          | some later => simp

theorem readAll_ne_nil {found : List (Action × Option String)} {given : List Scalar}
    (some : found ≠ []) (read : readAll readers found = .some given) : given ≠ [] := by
  cases found with
  | nil => exact (some rfl).elim
  | cons occurrence rest =>
    unfold readAll at read
    rw [List.mapM_cons] at read
    obtain ⟨first, _, read⟩ := Option.bind_eq_some_iff.mp read
    obtain ⟨later, _, same⟩ := Option.bind_eq_some_iff.mp read
    cases same
    exact List.cons_ne_nil first later

theorem mem_readAll {found : List (Action × Option String)} {given : List Scalar} {value : Scalar}
    (read : readAll readers found = some given) (member : value ∈ given) :
    ∃ occurrence ∈ found, occurrence.1.read readers occurrence.2 = some value := by
  induction found generalizing given with
  | nil =>
    cases read
    cases member
  | cons occurrence rest ih =>
    unfold readAll at read
    rw [List.mapM_cons] at read
    obtain ⟨first, here, read⟩ := Option.bind_eq_some_iff.mp read
    obtain ⟨later, others, same⟩ := Option.bind_eq_some_iff.mp read
    cases same
    rcases List.mem_cons.mp member with rfl | inside
    · exact ⟨occurrence, List.mem_cons_self, here⟩
    · obtain ⟨other, inRest, found⟩ := ih others inside
      exact ⟨other, List.mem_cons_of_mem _ inRest, found⟩

/-- The other arguments go elsewhere. -/
theorem runAt_collecting (other : dest ≠ parser.positional) (value : Value) :
    Step.runAt dest (parser.collecting cmd) value = some value := by
  refine Step.runAt_same ?_
  intro step member key
  rw [List.mem_singleton.mp member] at key
  exact (other key.symm).elim

theorem initial_eq (parser : Parser) (defaults : Dict String Value) (dest : String) :
    parser.initial defaults dest = (defaults.lookup dest).getD (parser.initial ∅ dest) := rfl

/-- The default that a parser's own option starts from. -/
theorem initial_own {action : Action} (member : action ∈ parser.actions) (own : action.dest = dest)
    (absent : defaults.lookup dest = none) :
    ∃ first ∈ parser.actions, first.dest = dest ∧
      parser.initial defaults dest = .scalar first.default := by
  unfold initial
  rw [absent]
  cases found : parser.actions.find? fun action => action.dest = dest with
  | none =>
    have none_own := List.find?_eq_none.mp found action member
    exact (none_own (by simpa using own)).elim
  | some first =>
    exact ⟨first, List.mem_of_find?_eq_some found, by simpa using List.find?_some found, rfl⟩

/-- A destination depends on no default but its own. -/
theorem component_congr {other : Dict String Value}
    (same : defaults.lookup dest = other.lookup dest) :
    parser.component readers defaults cmd dest = parser.component readers other cmd dest := by
  have settles : Step.runAt dest (parser.settling readers defaults cmd) =
      Step.runAt dest (parser.settling readers other cmd) := by
    funext value
    unfold Step.runAt settling
    rw [List.filter_map, List.filter_map]
    have steps : ∀ action ∈ (parser.unseen cmd).filter fun action => action.dest = dest,
        Step.mk action.dest (action.settle readers (defaultOf defaults action)) =
          Step.mk action.dest (action.settle readers (defaultOf other action)) := by
      intro action member
      have own : action.dest = dest := by simpa using (List.mem_filter.mp member).2
      unfold defaultOf
      rw [own, same]
    exact congrArg (fun steps => List.foldlM (fun value step => step.act value) value steps)
      (List.map_congr_left steps)
  unfold component initial
  rw [same, Step.runAt_append, Step.runAt_append, Step.runAt_append, Step.runAt_append, settles]

end Components

/-! ### Well-formed parsers -/

/-- Two options have one destination only if both store constants; a default that is a text needs no
conversion; an appending option starts from nothing. -/
structure WellFormed (parser : Parser) : Prop where
  apart : parser.actions.Pairwise fun first second => first.dest = second.dest →
    first.isConst = true ∧ second.isConst = true
  positional : ∀ action ∈ parser.actions, action.dest ≠ parser.positional
  plain : ∀ action ∈ parser.actions, action.type = .text ∨ action.default.isText = false
  starts : ∀ action ∈ parser.actions, action.appends = true → action.default = .none

instance (parser : Parser) : Decidable parser.WellFormed :=
  decidable_of_iff
    ((parser.actions.Pairwise fun first second => first.dest = second.dest →
        first.isConst = true ∧ second.isConst = true) ∧
      (∀ action ∈ parser.actions, action.dest ≠ parser.positional) ∧
      (∀ action ∈ parser.actions, action.type = .text ∨ action.default.isText = false) ∧
      ∀ action ∈ parser.actions, action.appends = true → action.default = .none)
    ⟨fun holds => ⟨holds.1, holds.2.1, holds.2.2.1, holds.2.2.2⟩,
      fun holds => ⟨holds.apart, holds.positional, holds.plain, holds.starts⟩⟩

section Settling

variable {readers : Readers} {action : Action}

theorem appends_const (const : action.isConst = true) : action.appends = false := by
  unfold Action.isConst at const
  unfold Action.appends
  cases kind : action.kind <;> simp_all

theorem type_const (const : action.isConst = true) : action.type = .text := by
  unfold Action.isConst at const
  unfold Action.type
  cases kind : action.kind <;> simp_all

/-- A text is converted to itself. -/
theorem settle_text (text : action.type = .text) (default value : Value) :
    action.settle readers default value = some value := by
  unfold Action.settle
  rw [text]
  split
  · rename_i text current
    by_cases same : current = text
    · rw [if_pos same, same]
      rfl
    · rw [if_neg same]
  · rfl

theorem settle_noText {default : Scalar} (noText : default.isText = false) (value : Value) :
    action.settle readers (.scalar default) value = some value := by
  cases default with
  | str text => cases noText
  | none | bool | int | float | date => rfl

end Settling

section WellFormed

variable {parser : Parser} {readers : Readers} {defaults : Dict String Value} {cmd : CommandLine}
  {dest : String} (formed : parser.WellFormed)

include formed

theorem WellFormed.shared {first second : Action} (inFirst : first ∈ parser.actions)
    (inSecond : second ∈ parser.actions) (same : first.dest = second.dest) :
    first = second ∨ first.isConst = true ∧ second.isConst = true := by
  by_cases equal : first = second
  · exact Or.inl equal
  · have symmetric : Std.Symm fun first second : Action => first.dest = second.dest →
        first.isConst = true ∧ second.isConst = true :=
      ⟨fun _ _ both same => (both same.symm).symm⟩
    exact Or.inr (formed.apart.forall inFirst inSecond equal same)

/-- The options of a destination all append, or all store. -/
theorem WellFormed.appends_eq {first second : Action} (inFirst : first ∈ parser.actions)
    (inSecond : second ∈ parser.actions) (same : first.dest = second.dest) :
    first.appends = second.appends := by
  rcases formed.shared inFirst inSecond same with rfl | ⟨const, const'⟩
  · rfl
  · rw [appends_const const, appends_const const']

omit formed in
/-- When no default is converted, a destination is as the occurrences left it. -/
theorem component_settled (other : dest ≠ parser.positional)
    (plain : ∀ action ∈ parser.unseen cmd, action.dest = dest → ∀ value,
      action.settle readers (defaultOf defaults action) value = some value) :
    parser.component readers defaults cmd dest =
      takeAll readers (parser.occurrences cmd dest) (parser.initial defaults dest) := by
  have settled (value : Value) :
      Step.runAt dest (parser.settling readers defaults cmd) value = some value := by
    refine Step.runAt_same ?_
    intro step inSteps key value
    obtain ⟨action, left, rfl⟩ := List.mem_map.mp inSteps
    exact plain action left key value
  unfold component
  rw [Step.runAt_append, Step.runAt_append, runAt_taking]
  cases takeAll readers (parser.occurrences cmd dest) (parser.initial defaults dest) with
  | none => rfl
  | some value =>
    rw [Option.bind_some, settled, Option.bind_some]
    exact runAt_collecting other value

/-- A destination with an explicit option is as the occurrences left it: another option of it stores a
constant. -/
theorem component_explicit (explicit : parser.Explicit cmd dest) :
    parser.component readers defaults cmd dest =
      takeAll readers (parser.occurrences cmd dest) (parser.initial defaults dest) := by
  obtain ⟨given, known, _, own, seen⟩ := explicit.action
  refine component_settled (own ▸ formed.positional given known) ?_
  intro action left key value
  obtain ⟨inActions, absent⟩ := List.mem_filter.mp left
  rcases formed.shared inActions known (key.trans own.symm) with rfl | ⟨const, _⟩
  · simp [seen] at absent
  · exact settle_text (type_const const) _ _

/-- **An option that stores**: its last value counts, and no default does. -/
theorem component_stored (explicit : parser.Explicit cmd dest)
    (stores : ∀ action ∈ parser.actions, action.dest = dest → action.appends = false) :
    parser.component readers defaults cmd dest =
      (parser.lastGiven readers cmd dest).map .scalar := by
  have each : ∀ occurrence ∈ parser.occurrences cmd dest, occurrence.1.appends = false := by
    intro occurrence member
    obtain ⟨known, own, _⟩ := mem_occurrences member
    exact stores _ (List.mem_of_find?_eq_some known) own
  rw [component_explicit formed explicit, takeAll_stored each]
  unfold lastGiven reads
  cases read : readAll readers (parser.occurrences cmd dest) with
  | none => rfl
  | some given =>
    rw [Option.map_some, Option.bind_some, List.getLast?_eq_some_getLast (readAll_ne_nil explicit read)]
    rfl

/-- **An option that appends**: its values come after the items of the default. -/
theorem component_appended (explicit : parser.Explicit cmd dest)
    (appends : ∀ action ∈ parser.actions, action.dest = dest → action.appends = true) :
    parser.component readers defaults cmd dest =
      (parser.initial defaults dest).items.bind fun items =>
        (parser.reads readers cmd dest).map fun given => .list (items ++ given.map .scalar) := by
  have each : ∀ occurrence ∈ parser.occurrences cmd dest, occurrence.1.appends = true := by
    intro occurrence member
    obtain ⟨known, own, _⟩ := mem_occurrences member
    exact appends _ (List.mem_of_find?_eq_some known) own
  rw [component_explicit formed explicit]
  exact takeAll_appended each explicit _

omit formed in
/-- **No option at all**: the default is kept, when it needs no conversion. -/
theorem component_absent (absent : ¬ parser.Explicit cmd dest) (other : dest ≠ parser.positional)
    (plain : ∀ action ∈ parser.actions, action.dest = dest → ∀ value,
      action.settle readers (defaultOf defaults action) value = some value) :
    parser.component readers defaults cmd dest = some (parser.initial defaults dest) := by
  have nothing : parser.occurrences cmd dest = [] := not_not.mp absent
  rw [component_settled other fun action left => plain action (List.mem_filter.mp left).1, nothing]
  rfl

/-- Without a default from outside, a destination is always settled. -/
theorem WellFormed.plain_builtin (absent : defaults.lookup dest = none) :
    ∀ action ∈ parser.actions, action.dest = dest → ∀ value,
      action.settle readers (defaultOf defaults action) value = some value := by
  intro action member own value
  have builtin : defaultOf defaults action = .scalar action.default := by
    unfold defaultOf
    rw [own, absent]
    rfl
  rw [builtin]
  rcases formed.plain action member with text | noText
  · exact settle_text text _ _
  · exact settle_noText noText value

/-- **A destination whose options store texts or constants** has the last value that is given, or its
default. -/
theorem component_setting {value : Value} (other : dest ≠ parser.positional)
    (stores : ∀ action ∈ parser.actions, action.dest = dest →
      action.appends = false ∧ action.type = .text)
    (found : parser.component readers defaults cmd dest = some value) :
    value = parser.setting readers defaults cmd dest := by
  unfold setting
  by_cases explicit : parser.Explicit cmd dest
  · rw [component_stored formed explicit fun action member own => (stores action member own).1] at found
    rw [found]
    rfl
  · have nothing : parser.lastGiven readers cmd dest = none := by
      unfold lastGiven reads
      rw [not_not.mp explicit]
      rfl
    rw [component_absent explicit other fun action member own =>
      settle_text (stores action member own).2 _] at found
    rw [nothing]
    exact (Option.some.inj found).symm

omit formed in
theorem lastGiven_explicit {value : Scalar} (given : parser.lastGiven readers cmd dest = some value) :
    parser.Explicit cmd dest := by
  intro nothing
  unfold lastGiven reads at given
  rw [nothing] at given
  cases given

omit formed in
/-- The last value that is given was read from an occurrence. -/
theorem lastGiven_read {value : Scalar} (given : parser.lastGiven readers cmd dest = some value) :
    ∃ action ∈ parser.actions, action.dest = dest ∧ ∃ argument,
      action.read readers argument = some value := by
  obtain ⟨values, read, last⟩ := Option.bind_eq_some_iff.mp given
  obtain ⟨⟨action, argument⟩, member, found⟩ := mem_readAll read (List.mem_of_getLast? last)
  obtain ⟨known, own, _⟩ := mem_occurrences member
  exact ⟨action, List.mem_of_find?_eq_some known, own, argument, found⟩

/-- **Without the defaults of some destinations a command line is still accepted**, and every other
destination is as before. -/
theorem parse_without {keys : List String} {args : Namespace}
    (parsed : parser.parse readers defaults cmd = some args)
    (named : ∀ key ∈ keys, key ≠ parser.positional) :
    ∃ args', parser.parse readers (defaults.without keys) cmd = some args' ∧
      ∀ dest ∉ keys, args' dest = args dest := by
  obtain ⟨accepted, each⟩ := parse_iff.mp parsed
  have same (dest : String) (kept : dest ∉ keys) :
      parser.component readers (defaults.without keys) cmd dest = some (args dest) := by
    rw [← each dest]
    apply component_congr
    rw [lookup_without, if_neg kept]
  have succeeds : ∀ dest, ∃ value,
      parser.component readers (defaults.without keys) cmd dest = some value := by
    intro dest
    by_cases kept : dest ∉ keys
    · exact ⟨_, same dest kept⟩
    have removed : dest ∈ keys := not_not.mp kept
    have absent : (defaults.without keys).lookup dest = none := by
      rw [lookup_without, if_pos removed]
    by_cases explicit : parser.Explicit cmd dest
    · obtain ⟨given, known, _, own, _⟩ := explicit.action
      have kinds : ∀ action ∈ parser.actions, action.dest = dest →
          action.appends = given.appends := fun action inActions here =>
        formed.appends_eq inActions known (here.trans own.symm)
      have before := each dest
      cases appends : given.appends with
      | false =>
        rw [appends] at kinds
        rw [component_stored formed explicit kinds] at before ⊢
        exact ⟨_, before⟩
      | true =>
        rw [appends] at kinds
        rw [component_appended formed explicit kinds] at before ⊢
        obtain ⟨first, inActions, here, start⟩ := initial_own known own absent
        rw [start, formed.starts first inActions (kinds first inActions here)]
        obtain ⟨_, _, listed⟩ := Option.bind_eq_some_iff.mp before
        obtain ⟨values, read, _⟩ := Option.map_eq_some_iff.mp listed
        rw [read]
        exact ⟨_, rfl⟩
    · exact ⟨_, component_absent explicit (named dest removed) (formed.plain_builtin absent)⟩
  choose args' found using succeeds
  refine ⟨args', parse_iff.mpr ⟨accepted, found⟩, fun dest kept => ?_⟩
  exact Option.some.inj ((found dest).symm.trans (same dest kept))

end WellFormed

end Parser

end Certinspect.Library
