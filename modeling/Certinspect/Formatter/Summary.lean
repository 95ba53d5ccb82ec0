/-
**The summary line, `format_summary` in `formatter.py`.**

The results are counted by their exit codes through a table, and those with the code 4 by their
status. Printing goes through another table, the order of the categories, and leaves out zeros.

* `summaryOrder`, `summaryByCode`, `summaryName`, `formatSummary` — the tables, the category of a
  result, and the line.
* `readSummary`, `readSummary_summaryLine` — the counts and the total that a reader finds in a line.
* `Category`, `InCategory` — which results belong to a category, by code and status; `Matched`,
  `Produced` — what `_inspect` returns.
* `summaryName_eq_iff` — the two tables and the split put a result where it belongs.
* `formatSummary_eq`, `formatSummary_ok_iff` — the line, and the one code on which it fails.
* `CountsAll` — what the printed counts owe to the targets.
* **`formatSummary_countsAll`** — every target is counted exactly once.
* `formatSummary_report` — so it is for the report of any run, under any schedule.
-/

import Certinspect.Formatter.Nagios
import Certinspect.Library.Numerals
import Certinspect.Library.Tally
import Certinspect.Parser.Addresses

namespace Certinspect.Formatter

open Library Cli

/-! ### The line -/

/-- `_SUMMARY_ORDER`. -/
def summaryOrder : List String :=
  ["valid", "expiring", "critical", "not-yet-valid", "expired", "mismatch", "untrusted",
    "pin-mismatch", "san-mismatch", "policy"]

/-- `_SUMMARY_BY_CODE`. -/
def summaryByCode : List (Code × String) :=
  [(.exit .ok, "valid"), (.exit .expiring, "expiring"), (.exit .hostnameMismatch, "mismatch"),
    (.exit .untrustedOrRevoked, "untrusted"), (.exit .pinMismatch, "pin-mismatch"),
    (.exit .sanMismatch, "san-mismatch"), (.exit .policy, "policy")]

/-- The name under which a result is counted. -/
def summaryName (result : InspectionResult) : Except PyErr String :=
  if result.code = .exit .invalid then
    match statusOf result.info with
    | .critical => .ok "critical"
    | .notYetValid => .ok "not-yet-valid"
    | _ => .ok "expired"
  else
    match summaryByCode.lookup result.code with
    | some name => .ok name
    | none => .error ⟨.keyError, toString result.code.value⟩

/-- What `counts[name]` raises for a name that is not counted. -/
def uncounted (name : String) : PyErr := ⟨.keyError, s!"'{name}'"⟩

/-- The names that are shown with a count of zero. -/
def alwaysShown (criticalDays : Option Int) : List String :=
  ["valid", "expiring", "expired"] ++ if criticalDays.isSome then ["critical"] else []

/-- The counts that are shown, in order. -/
def summaryItems (criticalDays : Option Int) (counts : Dict String Nat) :
    Except PyErr (List (Nat × String)) := do
  let counted ← summaryOrder.mapM fun name => do
    let number ← countOf uncounted counts name
    pure (number, name)
  pure (counted.filter fun item => (alwaysShown criticalDays).contains item.2 || item.1 != 0)

/-- `'s' if n != 1 else ''`. -/
def plural (number : Nat) : String := if number ≠ 1 then "s" else ""

/-- A count with its name. A count is the length of a list, so `str` never refuses it. -/
def itemText (item : Nat × String) : String := toString item.1 ++ " " ++ item.2

/-- The name of the count of the errors. -/
def errorWord (number : Nat) : String := "error" ++ plural number

/-- The count of the errors, when there are some. -/
def errorItems (errors : List (Option String × String)) : List (Nat × String) :=
  if errors.length ≠ 0 then [(errors.length, errorWord errors.length)] else []

/-- The line with these counts. -/
def summaryLine (items : List (Nat × String)) (total : Nat) : String :=
  "summary: " ++ " · ".intercalate (items.map itemText) ++ " (" ++ toString total ++ " target" ++
    plural total ++ ")"

/-- `format_summary`, for results whose status the inspection has set. -/
def formatSummary (results : List InspectionResult) (errors : List (Option String × String))
    (_warnDays : Int) (criticalDays : Option Int) : Except PyErr String := do
  let counts ← tally uncounted summaryName (fromKeys summaryOrder) results
  let items ← summaryItems criticalDays counts
  pure (summaryLine (items ++ errorItems errors) (results.length + errors.length))

/-! ### Reading the line -/

/-- A natural number in decimal. -/
def readNat (digits : List Char) : Option Nat :=
  if digits = [] then none else readDigits 10 0 digits

/-- The counts, by the words behind the first one, and the total. -/
def readItems : List (List Char) → Option (List (Nat × String) × Nat)
  | number :: name :: next :: rest =>
    match readNat number, next with
    | some number, ['·'] =>
      (readItems rest).map fun read => ((number, String.ofList name) :: read.1, read.2)
    | some number, '(' :: digits =>
      if rest = ["target)".toList] ∨ rest = ["targets)".toList] then
        (readNat digits).map fun total => ([(number, String.ofList name)], total)
      else none
    | _, _ => none
  | _ => none

/-- The counts with their names, and the total, that are printed in a line. -/
def readSummary (text : String) : Option (List (Nat × String) × Nat) :=
  match text.toList.splitOn ' ' with
  | label :: words => if label = "summary:".toList then readItems words else none
  | [] => none

section Reading

variable {items : List (Nat × String)} {total : Nat}

theorem readNat_repr (n : Nat) : readNat n.repr.toList = some n := by
  have some : n.repr.toList ≠ [] := repr_ne_nil (n : Int)
  have digits : n.repr.toList = Nat.toDigits 10 n := String.toList_ofList
  unfold readNat
  rw [if_neg some, digits]
  exact readDigits_toDigits (by decide) (by decide) n

theorem blank_notMem_repr (n : Nat) : ' ' ∉ n.repr.toList :=
  notMem_repr rfl (by decide) (n : Int)

/-- The last word of a line. -/
def totalWord (n : Nat) : List Char := ("target" ++ plural n ++ ")").toList

theorem totalWord_cases (n : Nat) :
    totalWord n = "target)".toList ∨ totalWord n = "targets)".toList := by
  unfold totalWord plural
  by_cases several : n ≠ 1
  · rw [if_pos several]
    exact Or.inr rfl
  · rw [if_neg several]
    exact Or.inl rfl

theorem blank_notMem_totalWord (n : Nat) : ' ' ∉ totalWord n := by
  rcases totalWord_cases n with same | same
  · rw [same]
    decide
  · rw [same]
    decide

/-- The words of a line behind its last count. -/
theorem splitOn_total (n : Nat) :
    ('(' :: (n.repr.toList ++ ' ' :: totalWord n)).splitOn ' ' =
      ['(' :: n.repr.toList, totalWord n] := by
  have noBlank : ' ' ∉ '(' :: n.repr.toList := by
    rw [List.mem_cons, not_or]
    exact ⟨by decide, blank_notMem_repr n⟩
  rw [← List.cons_append, List.splitOn_append_cons_self_of_not_mem noBlank,
    List.splitOn_eq_singleton (blank_notMem_totalWord n)]

theorem itemText_toList (item : Nat × String) :
    (itemText item).toList = item.1.repr.toList ++ ' ' :: item.2.toList := by
  have number : toString item.1 = item.1.repr := rfl
  have blank : " ".toList = [' '] := rfl
  unfold itemText
  rw [number, String.toList_append, String.toList_append, blank, List.append_assoc,
    List.singleton_append]

theorem readItems_dot (n : Nat) (name : List Char) (rest : List (List Char)) :
    readItems (n.repr.toList :: name :: ['·'] :: rest) =
      (readItems rest).map fun read => ((n, String.ofList name) :: read.1, read.2) := by
  simp only [readItems, readNat_repr]

theorem readItems_total (n : Nat) (name : List Char) :
    readItems [n.repr.toList, name, '(' :: total.repr.toList, totalWord total] =
      some ([(n, String.ofList name)], total) := by
  have ended : [totalWord total] = ["target)".toList] ∨ [totalWord total] = ["targets)".toList] :=
    (totalWord_cases total).imp (congrArg List.singleton) (congrArg List.singleton)
  simp only [readItems, readNat_repr, if_pos ended, Option.map_some]

/-- The counts are read up to the total, item by item. -/
theorem readItems_items (filled : items ≠ []) (clean : ∀ item ∈ items, ' ' ∉ item.2.toList) :
    readItems (((" · ".intercalate (items.map itemText)).toList ++
      ' ' :: '(' :: (total.repr.toList ++ ' ' :: totalWord total)).splitOn ' ') =
        some (items, total) := by
  induction items with
  | nil => exact (filled rfl).elim
  | cons item rest ih =>
    obtain ⟨here, others⟩ := List.forall_mem_cons.mp clean
    cases rest with
    | nil =>
      rw [List.map_singleton, String.intercalate_singleton, itemText_toList, List.append_assoc,
        List.cons_append, List.splitOn_append_cons_self_of_not_mem (blank_notMem_repr _),
        List.splitOn_append_cons_self_of_not_mem here, splitOn_total, readItems_total,
        String.ofList_toList]
    | cons next rest =>
      have dot : " · ".toList = [' ', '·', ' '] := rfl
      have noBlank : ' ' ∉ ['·'] := by decide
      have between (rest : List Char) : ('·' :: ' ' :: rest).splitOn ' ' = ['·'] :: rest.splitOn ' ' :=
        List.splitOn_append_cons_self_of_not_mem noBlank rest
      rw [List.map_cons, List.map_cons, String.intercalate_cons_cons, String.toList_append,
        String.toList_append, dot, itemText_toList]
      simp only [List.append_assoc, List.cons_append, List.nil_append]
      rw [List.splitOn_append_cons_self_of_not_mem (blank_notMem_repr _),
        List.splitOn_append_cons_self_of_not_mem here, between, readItems_dot,
        ← List.map_cons, ih (List.cons_ne_nil _ _) others, String.ofList_toList]
      rfl

/-- **What is printed is read.** -/
theorem readSummary_summaryLine (filled : items ≠ [])
    (clean : ∀ item ∈ items, ' ' ∉ item.2.toList) :
    readSummary (summaryLine items total) = some (items, total) := by
  have label : ' ' ∉ "summary:".toList := by decide
  have first : "summary: ".toList = "summary:".toList ++ [' '] := by decide
  have words : (summaryLine items total).toList = "summary:".toList ++ ' ' ::
      ((" · ".intercalate (items.map itemText)).toList ++
        ' ' :: '(' :: (total.repr.toList ++ ' ' :: totalWord total)) := by
    unfold summaryLine totalWord
    simp only [String.toList_append, first, List.append_assoc, List.singleton_append]
    rfl
  unfold readSummary
  rw [words, List.splitOn_append_cons_self_of_not_mem label]
  dsimp only
  rw [if_pos rfl]
  exact readItems_items filled clean

end Reading

/-! ### The categories -/

/-- What a target is counted as. -/
inductive Category
  | valid
  | expiring
  | critical
  | notYetValid
  | expired
  | mismatch
  | untrusted
  | pinMismatch
  | sanMismatch
  | policy
  deriving DecidableEq, Repr

namespace Category

/-- All of them, in the order of the line. -/
def all : List Category :=
  [valid, expiring, critical, notYetValid, expired, mismatch, untrusted, pinMismatch, sanMismatch,
    policy]

/-- The name in the line. -/
def name : Category → String
  | valid => "valid"
  | expiring => "expiring"
  | critical => "critical"
  | notYetValid => "not-yet-valid"
  | expired => "expired"
  | mismatch => "mismatch"
  | untrusted => "untrusted"
  | pinMismatch => "pin-mismatch"
  | sanMismatch => "san-mismatch"
  | policy => "policy"

/-- The exit code of its targets. -/
def code : Category → ExitCode
  | valid => .ok
  | expiring => .expiring
  | critical | notYetValid | expired => .invalid
  | mismatch => .hostnameMismatch
  | untrusted => .untrustedOrRevoked
  | pinMismatch => .pinMismatch
  | sanMismatch => .sanMismatch
  | policy => .policy

/-- For the code 4, the statuses of its targets. -/
def statuses : Category → List Status
  | critical => [.critical]
  | notYetValid => [.notYetValid]
  | expired => [.expired, .invalidDates]
  | _ => []

end Category

/-- **A target belongs to a category**: by its exit code and, for the code 4, by its status. -/
def InCategory (category : Category) (result : InspectionResult) : Prop :=
  result.code = .exit category.code ∧
    (category.code = .invalid → result.info.status ∈ category.statuses)

instance (category : Category) (result : InspectionResult) :
    Decidable (InCategory category result) :=
  inferInstanceAs (Decidable (_ ∧ (_ → _)))

/-- A code of an inspection, with the status to it: no runtime error, and 4 only for the statuses
that exit with 4. -/
structure Matched (result : InspectionResult) : Prop where
  inspected : result.code ≠ .runtimeError
  invalid : result.code = .exit .invalid → exitByStatus result.info.status = .invalid

section Categories

variable {result : InspectionResult} {category other : Category}

theorem mem_all (category : Category) : category ∈ Category.all := by
  cases category <;> decide

theorem summaryOrder_eq : summaryOrder = Category.all.map Category.name := rfl

theorem summaryOrder_nodup : summaryOrder.Nodup := by
  decide

theorem name_injective : Function.Injective Category.name := by
  have distinct : (Category.all.map Category.name).Nodup := summaryOrder_nodup
  exact fun first second same =>
    List.inj_on_of_nodup_map distinct (mem_all first) (mem_all second) same

theorem name_mem_summaryOrder (category : Category) : category.name ∈ summaryOrder := by
  rw [summaryOrder_eq]
  exact List.mem_map_of_mem (mem_all category)

/-- **No target belongs to two categories.** -/
theorem inCategory_unique (here : InCategory category result) (there : InCategory other result) :
    category = other := by
  have apart : ∀ first ∈ Category.all, ∀ second ∈ Category.all, first.code = second.code →
      (first.code = .invalid → ∃ status ∈ first.statuses, status ∈ second.statuses) →
      first = second := by
    decide
  have same : category.code = other.code := by
    have codes := here.1.symm.trans there.1
    exact Code.exit.inj codes
  refine apart _ (mem_all category) _ (mem_all other) same fun invalid => ?_
  exact ⟨result.info.status, here.2 invalid, there.2 (same ▸ invalid)⟩

/-- With another code than 4 the status does not matter. -/
theorem inCategory_of_code (coded : result.code = .exit category.code)
    (ordinary : category.code ≠ .invalid) : InCategory category result :=
  ⟨coded, fun invalid => (ordinary invalid).elim⟩

/-- The code 4 is split by the status. -/
theorem summaryName_of_invalid (coded : result.code = .exit .invalid)
    (status : exitByStatus result.info.status = .invalid) :
    ∃ category, InCategory category result ∧ summaryName result = .ok category.name := by
  unfold InCategory summaryName statusOf
  rw [if_pos coded, coded]
  cases found : result.info.status with
  | valid =>
    rw [found] at status
    cases status
  | expiring =>
    rw [found] at status
    cases status
  | critical => exact ⟨.critical, ⟨rfl, fun _ => by decide⟩, rfl⟩
  | notYetValid => exact ⟨.notYetValid, ⟨rfl, fun _ => by decide⟩, rfl⟩
  | expired => exact ⟨.expired, ⟨rfl, fun _ => by decide⟩, rfl⟩
  | invalidDates => exact ⟨.expired, ⟨rfl, fun _ => by decide⟩, rfl⟩

/-- **The tables and the split find the category of every target.** -/
theorem summaryName_of_matched (matched : Matched result) :
    ∃ category, InCategory category result ∧ summaryName result = .ok category.name := by
  obtain ⟨inspected, invalid⟩ := matched
  have named {own : ExitCode} (coded : result.code = .exit own) (ordinary : own ≠ .invalid)
      (category : Category) (same : category.code = own)
      (listed : summaryByCode.lookup (.exit own) = some category.name) :
      ∃ category, InCategory category result ∧ summaryName result = .ok category.name := by
    subst same
    refine ⟨category, inCategory_of_code coded ordinary, ?_⟩
    unfold summaryName
    rw [coded, if_neg fun same => ordinary (Code.exit.inj same), listed]
  cases coded : result.code with
  | runtimeError => exact (inspected coded).elim
  | exit own =>
    cases own with
    | ok => exact named coded (by decide) .valid rfl rfl
    | expiring => exact named coded (by decide) .expiring rfl rfl
    | invalid => exact summaryName_of_invalid coded (invalid coded)
    | hostnameMismatch => exact named coded (by decide) .mismatch rfl rfl
    | untrustedOrRevoked => exact named coded (by decide) .untrusted rfl rfl
    | pinMismatch => exact named coded (by decide) .pinMismatch rfl rfl
    | sanMismatch => exact named coded (by decide) .sanMismatch rfl rfl
    | policy => exact named coded (by decide) .policy rfl rfl

theorem summaryName_eq_iff (matched : Matched result) :
    summaryName result = .ok category.name ↔ InCategory category result := by
  obtain ⟨own, belongs, named⟩ := summaryName_of_matched matched
  rw [named]
  refine ⟨fun same => ?_, fun here => ?_⟩
  · have equal : own = category := name_injective (Except.ok.inj same)
    exact equal ▸ belongs
  · rw [inCategory_unique belongs here]

end Categories

/-! ### The counts -/

/-- The number of the targets in a category. -/
def Category.number (category : Category) (results : List InspectionResult) : Nat :=
  results.countP fun result => InCategory category result

/-- The categories in the line: those that are always shown, and those with a target. -/
def shownCategories (criticalDays : Option Int) (results : List InspectionResult) : List Category :=
  Category.all.filter fun category =>
    (alwaysShown criticalDays).contains category.name || category.number results != 0

/-- The counts in the line. -/
def shownItems (criticalDays : Option Int) (results : List InspectionResult)
    (errors : List (Option String × String)) : List (Nat × String) :=
  (shownCategories criticalDays results).map (fun category =>
    (category.number results, category.name)) ++ errorItems errors

section Counts

variable {results : List InspectionResult} {errors : List (Option String × String)}
  {warnDays : Int} {criticalDays : Option Int} {result : InspectionResult}

/-- A name is found, and is one of those that are counted, for every code but the runtime error. -/
theorem summaryName_ok_iff :
    (∃ name, summaryName result = .ok name ∧ ((fromKeys summaryOrder).lookup name).isSome) ↔
      result.code ≠ .runtimeError := by
  refine ⟨fun found failed => ?_, fun inspected => ?_⟩
  · obtain ⟨name, named, _⟩ := found
    unfold summaryName at named
    rw [failed] at named
    cases named
  · have known : ∃ category : Category, summaryName result = .ok category.name := by
      by_cases coded : result.code = .exit .invalid
      · unfold summaryName
        rw [if_pos coded]
        split
        · exact ⟨.critical, rfl⟩
        · exact ⟨.notYetValid, rfl⟩
        · exact ⟨.expired, rfl⟩
      · obtain ⟨category, _, named⟩ :=
          summaryName_of_matched ⟨inspected, fun absurd => (coded absurd).elim⟩
        exact ⟨category, named⟩
    obtain ⟨category, named⟩ := known
    exact ⟨category.name, named, lookup_fromKeys_isSome_iff.mpr (name_mem_summaryOrder category)⟩

theorem summaryItems_eq {counts : Dict String Nat} {number : String → Nat}
    (counted : ∀ name ∈ summaryOrder, counts.lookup name = some (number name)) :
    summaryItems criticalDays counts = .ok ((summaryOrder.map fun name => (number name, name)).filter
      fun item => (alwaysShown criticalDays).contains item.2 || item.1 != 0) := by
  have each : ∀ name ∈ summaryOrder, (do
      let number ← countOf uncounted counts name
      pure (number, name)) = (.ok (number name, name) : Except PyErr (Nat × String)) := by
    intro name listed
    rw [countOf_eq (counted name listed)]
    rfl
  unfold summaryItems
  rw [mapM_ok_eq each]
  rfl

/-- The counters behind the loop. -/
theorem counts_run
    (each : ∀ result ∈ results, ∃ name, summaryName result = .ok name ∧
      ((fromKeys summaryOrder).lookup name).isSome) :
    ∃ counts, tally uncounted summaryName (fromKeys summaryOrder) results = .ok counts ∧
      ∀ name ∈ summaryOrder,
        counts.lookup name = some (results.countP fun result => summaryName result = .ok name) := by
  have loop : ∃ counts, tally uncounted summaryName (fromKeys summaryOrder) results = .ok counts ∧
      ∀ name, counts.lookup name = ((fromKeys summaryOrder).lookup name).map
        (· + results.countP fun result => summaryName result = .ok name) := tally_run each
  obtain ⟨counts, ran, looked⟩ := loop
  refine ⟨counts, ran, fun name listed => ?_⟩
  rw [looked, lookup_fromKeys listed, Option.map_some, Nat.zero_add]

/-- The line, with a count for each name. -/
theorem formatSummary_named
    (each : ∀ result ∈ results, ∃ name, summaryName result = .ok name ∧
      ((fromKeys summaryOrder).lookup name).isSome) :
    formatSummary results errors warnDays criticalDays =
      .ok (summaryLine ((summaryOrder.map fun name =>
          (results.countP fun result => summaryName result = .ok name, name)).filter
        (fun item => (alwaysShown criticalDays).contains item.2 || item.1 != 0) ++ errorItems errors)
        (results.length + errors.length)) := by
  obtain ⟨counts, ran, counted⟩ := counts_run each
  unfold formatSummary
  rw [ran]
  change (summaryItems criticalDays counts >>= _) = _
  rw [summaryItems_eq counted]
  rfl

/-- **A count is the number of the targets in its category.** -/
theorem number_eq (each : ∀ result ∈ results, Matched result) (category : Category) :
    (results.countP fun result => summaryName result = .ok category.name) =
      category.number results := by
  unfold Category.number
  refine List.countP_congr fun result member => ?_
  rw [decide_eq_true_eq, decide_eq_true_eq]
  exact summaryName_eq_iff (each result member)

/-- **The line of targets that were inspected**: their numbers in the categories that are shown. -/
theorem formatSummary_eq (each : ∀ result ∈ results, Matched result) :
    formatSummary results errors warnDays criticalDays =
      .ok (summaryLine (shownItems criticalDays results errors) (results.length + errors.length)) := by
  have named : ∀ result ∈ results, ∃ name, summaryName result = .ok name ∧
      ((fromKeys summaryOrder).lookup name).isSome := fun result member =>
    summaryName_ok_iff.mpr (each result member).inspected
  rw [formatSummary_named named, summaryOrder_eq, List.map_map, List.filter_map]
  unfold shownItems shownCategories
  simp only [Function.comp_def, number_eq each]

/-- **No line is printed when a result has the runtime error, and then only.** -/
theorem formatSummary_ok_iff :
    (∃ text, formatSummary results errors warnDays criticalDays = .ok text) ↔
      ∀ result ∈ results, result.code ≠ .runtimeError := by
  have counted : (∃ counts, tally uncounted summaryName (fromKeys summaryOrder) results = .ok counts) ↔
      ∀ result ∈ results, result.code ≠ .runtimeError := by
    rw [tally_ok_iff]
    exact forall₂_congr fun result _ => summaryName_ok_iff
  rw [← counted]
  refine ⟨fun printed => ?_, fun ran => ?_⟩
  · obtain ⟨text, printed⟩ := printed
    obtain ⟨counts, ran, _⟩ := bind_ok_iff.mp printed
    exact ⟨counts, ran⟩
  · exact ⟨_, formatSummary_named (tally_ok_iff.mp ran)⟩

end Counts

/-! ### Every target is counted once -/

/-- **The counts of a line count every target exactly once.** -/
structure CountsAll (results : List InspectionResult) (errors : List (Option String × String))
    (printed : List (Nat × String)) (total : Nat) : Prop where
  total_eq : total = results.length + errors.length
  adds : (printed.map Prod.fst).sum = total
  distinct : (printed.map Prod.snd).Nodup
  counted : ∀ item ∈ printed,
    (∃ category : Category, item = (category.number results, category.name)) ∨
      errors ≠ [] ∧ item = (errors.length, errorWord errors.length)
  shown : ∀ category : Category, category.number results ≠ 0 →
    (category.number results, category.name) ∈ printed
  failed : errors ≠ [] → (errors.length, errorWord errors.length) ∈ printed
  once : ∀ result ∈ results, ∃! category, InCategory category result

/-- A result as `_inspect` produces it, somewhere. -/
def Produced (result : InspectionResult) : Prop :=
  ∃ (lib : Cryptography) (ω : Type) (place : Surroundings ω) (target : Option String) (port : Int)
    (opts : InspectOptions), inspectIn lib place target port opts = .ok (result.info, result.code)

section Once

variable {results : List InspectionResult} {errors : List (Option String × String)}
  {criticalDays : Option Int} {result : InspectionResult}

/-- **The most severe finding is no runtime error, and 4 only for a status that exits with 4.** -/
theorem matched_of_findings {opts : InspectOptions} {target : Option String} {today : Int}
    (severe : result.code = mostSevere (findings opts target today result.info)) :
    Matched result := by
  have among := (mostSevere_eq_iff.mp severe.symm).1
  rw [List.mem_cons, mem_findings_iff] at among
  refine ⟨fun failed => ?_, fun invalid => ?_⟩
  · rw [failed] at among
    simp only [reduceCtorEq, and_false, or_self] at among
  · rw [invalid] at among
    simp only [Code.exit.injEq, reduceCtorEq, and_false, or_false, false_or] at among
    exact among.symm

theorem matched_of_produced (produced : Produced result) : Matched result := by
  obtain ⟨lib, ω, place, target, port, opts, returned⟩ := produced
  exact matched_of_findings (inspectIn_findings returned).1

/-- The errors are no category. -/
theorem errorWord_notMem (number : Nat) : errorWord number ∉ summaryOrder := by
  unfold errorWord plural
  split
  · decide
  · decide

/-- A category with a target is shown. -/
theorem mem_shownCategories {category : Category} (present : category.number results ≠ 0) :
    category ∈ shownCategories criticalDays results := by
  unfold shownCategories
  rw [List.mem_filter, Bool.or_eq_true, bne_iff_ne]
  exact ⟨mem_all category, Or.inr present⟩

/-- **The numbers in the categories add up to the number of the results.** -/
theorem sum_numbers (each : ∀ result ∈ results, Matched result) :
    ((shownCategories criticalDays results).map fun category => category.number results).sum =
      results.length := by
  have named : ∀ result ∈ results, ∃ name ∈ summaryOrder, summaryName result = .ok name := by
    intro result member
    obtain ⟨category, _, named⟩ := summaryName_of_matched (each result member)
    exact ⟨category.name, name_mem_summaryOrder category, named⟩
  have whole := sum_countP_key summaryOrder_nodup named
  rw [summaryOrder_eq, List.map_map] at whole
  simp only [Function.comp_def, number_eq each] at whole
  unfold shownCategories
  rw [sum_filter_counts, whole]
  intro category _ hidden
  rw [Bool.or_eq_false_iff, bne_eq_false_iff_eq] at hidden
  exact hidden.2

theorem errorItems_sum : ((errorItems errors).map Prod.fst).sum = errors.length := by
  unfold errorItems
  split
  · exact Nat.add_zero _
  · rename_i none
    exact (not_not.mp none).symm

/-- The names in a line. -/
theorem shownItems_names : (shownItems criticalDays results errors).map Prod.snd =
    (shownCategories criticalDays results).map Category.name ++ (errorItems errors).map Prod.snd := by
  unfold shownItems
  rw [List.map_append, List.map_map]
  rfl

theorem errorItems_names {name : String} (member : name ∈ (errorItems errors).map Prod.snd) :
    name = errorWord errors.length := by
  unfold errorItems at member
  split at member
  · exact List.mem_singleton.mp member
  · cases member

/-- No name is in a line twice. -/
theorem shownItems_nodup : ((shownItems criticalDays results errors).map Prod.snd).Nodup := by
  rw [shownItems_names, List.nodup_append]
  refine ⟨?_, ?_, ?_⟩
  · have part : (shownCategories criticalDays results).Sublist Category.all := List.filter_sublist
    exact summaryOrder_nodup.sublist (part.map Category.name)
  · unfold errorItems
    split
    · exact List.nodup_singleton _
    · exact List.nodup_nil
  · intro name listed other error same
    obtain ⟨category, _, rfl⟩ := List.mem_map.mp listed
    rw [errorItems_names error] at same
    exact errorWord_notMem _ (same ▸ name_mem_summaryOrder category)

/-- **The counts of a line.** -/
theorem countsAll_shownItems (each : ∀ result ∈ results, Matched result) :
    CountsAll results errors (shownItems criticalDays results errors)
      (results.length + errors.length) where
  total_eq := rfl
  adds := by
    unfold shownItems
    rw [List.map_append, List.sum_append, List.map_map, errorItems_sum]
    exact congrArg (· + errors.length) (sum_numbers each)
  distinct := shownItems_nodup
  counted := by
    intro item member
    unfold shownItems at member
    rcases List.mem_append.mp member with listed | error
    · obtain ⟨category, _, rfl⟩ := List.mem_map.mp listed
      exact Or.inl ⟨category, rfl⟩
    · unfold errorItems at error
      split at error
      · rename_i several
        exact Or.inr ⟨fun none => several (none ▸ rfl), List.mem_singleton.mp error⟩
      · cases error
  shown := fun category present =>
    List.mem_append_left _ (List.mem_map.mpr ⟨category, mem_shownCategories present, rfl⟩)
  failed := by
    intro present
    have several : errors.length ≠ 0 := mt List.length_eq_zero_iff.mp present
    refine List.mem_append_right _ ?_
    unfold errorItems
    rw [if_pos several]
    exact List.mem_singleton_self _
  once := by
    intro result member
    obtain ⟨category, belongs, _⟩ := summaryName_of_matched (each result member)
    exact ⟨category, belongs, fun other also => inCategory_unique also belongs⟩

/-- A line is never without a count. -/
theorem shownItems_ne_nil : shownItems criticalDays results errors ≠ [] := by
  have listed : Category.valid ∈ shownCategories criticalDays results := by
    unfold shownCategories
    rw [List.mem_filter]
    exact ⟨mem_all _, rfl⟩
  unfold shownItems
  exact List.append_ne_nil_of_left_ne_nil (List.ne_nil_of_mem (List.mem_map_of_mem listed)) _

/-- No name has a blank. -/
theorem blank_notMem_name (item : Nat × String)
    (member : item ∈ shownItems criticalDays results errors) : ' ' ∉ item.2.toList := by
  have named : item.2 ∈ (shownItems criticalDays results errors).map Prod.snd :=
    List.mem_map_of_mem member
  rw [shownItems_names, List.mem_append] at named
  rcases named with listed | error
  · obtain ⟨category, _, same⟩ := List.mem_map.mp listed
    have clean : ∀ category ∈ Category.all, ' ' ∉ category.name.toList := by decide
    rw [← same]
    exact clean category (mem_all category)
  · rw [errorItems_names error]
    unfold errorWord plural
    split
    · decide
    · decide

/-- The line, its counts, and its total. -/
theorem formatSummary_counts {warnDays : Int} (each : ∀ result ∈ results, Matched result) :
    ∃ text printed, formatSummary results errors warnDays criticalDays = .ok text ∧
      readSummary text = some (printed, results.length + errors.length) ∧
      CountsAll results errors printed (results.length + errors.length) :=
  ⟨_, shownItems criticalDays results errors, formatSummary_eq each,
    readSummary_summaryLine shownItems_ne_nil blank_notMem_name, countsAll_shownItems each⟩

end Once

/-- **The summary counts every target exactly once.** For all results as `_inspect` produces them, all
errors and all thresholds a line is printed. The counts that are read in it are those of the categories,
none with a target is left out, and with the errors they add up to the total that is read. -/
theorem formatSummary_countsAll (results : List InspectionResult)
    (errors : List (Option String × String)) (warnDays : Int) (criticalDays : Option Int)
    (produced : ∀ result ∈ results, Produced result) :
    ∃ text printed total, formatSummary results errors warnDays criticalDays = .ok text ∧
      readSummary text = some (printed, total) ∧ CountsAll results errors printed total := by
  have each : ∀ result ∈ results, Matched result := fun result member =>
    matched_of_produced (produced result member)
  obtain ⟨text, printed, line, read, counts⟩ := formatSummary_counts each
  exact ⟨text, printed, _, line, read, counts⟩

/-- `certinspect --no-verify --file leaf.pem`. -/
def leafOptions : InspectOptions := { file := some "leaf.pem", verify := false }

/-- The result of that file, a certificate for the first 90 days of 1970, on some day. -/
def leafResult (today : Int) (code : ExitCode) : InspectionResult where
  label := some "leaf.pem"
  info :=
    let now := today * Instant.day
    let analysis := (Parser.analyze now (Revocation.sampleLeaf [])).toOption.getD Parser.sampleAnalysis
    describe now analysis none none leafOptions
  code := .exit code

/-- The file on its first day, the file when it has expired, and one that could not be read. -/
theorem formatSummary_countsAll_sample :
    (∀ result ∈ [leafResult 0 .ok, leafResult 100 .invalid], Produced result) ∧
      ∃ text printed total,
        formatSummary [leafResult 0 .ok, leafResult 100 .invalid] [(some "gost.pem", "no such file")]
          30 none = .ok text ∧
        readSummary text = some (printed, total) ∧
        CountsAll [leafResult 0 .ok, leafResult 100 .invalid] [(some "gost.pem", "no such file")]
          printed total := by
  have produced : ∀ result ∈ [leafResult 0 .ok, leafResult 100 .invalid], Produced result := by
    intro result member
    rw [List.mem_cons, List.mem_singleton] at member
    rcases member with rfl | rfl
    · exact ⟨sampleReader, Unit, sampleMachine 0, none, 443, leafOptions, rfl⟩
    · exact ⟨sampleReader, Unit, sampleMachine 100, none, 443, leafOptions, rfl⟩
  exact ⟨produced, formatSummary_countsAll _ _ 30 none produced⟩

example :
    formatSummary [leafResult 0 .ok, leafResult 100 .invalid] [(some "gost.pem", "no such file")] 30
      none = .ok "summary: 1 valid · 0 expiring · 1 expired · 1 error (3 targets)" := by
  decide +kernel

/-! ### The line of a run -/

section Run

variable {lib : Cryptography} {ω : Type} {urlsplit : String → Except PyErr SplitResult} {args : Args}
  {hostTargets fileTargets : List String} {places : Nat → Surroundings ω}

/-- **The line of a run**: whatever its command line, its targets and its schedule, the total of the
summary is the number of its work items, and each of them is counted once. -/
theorem formatSummary_report {schedule : List PoolAction} {report : Report}
    (ran : inspectAll urlsplit args hostTargets fileTargets (fun i => inspectIn lib (places i))
      schedule = some (.ok report)) (warnDays : Int) (criticalDays : Option Int) :
    ∃ text printed, formatSummary report.results report.errors warnDays criticalDays = .ok text ∧
      readSummary text = some (printed, hostTargets.length + fileTargets.length) ∧
      CountsAll report.results report.errors printed (hostTargets.length + fileTargets.length) := by
  obtain ⟨known, accounts, same⟩ := inspectAll_of_survived (survived_of_inspectAll ran)
  have own : report = known := Except.ok.inj (same args.concurrency schedule _ ran)
  subst own
  have total : report.results.length + report.errors.length =
      hostTargets.length + fileTargets.length := by
    rw [length_of_accounts accounts]
    unfold outcomes workItems
    rw [List.length_mapIdx, List.length_append, List.length_map, List.length_map, Nat.add_comm]
  have each : ∀ result ∈ report.results, Matched result := by
    intro result member
    have among := outcome_of_accounts accounts member
    rw [outcomes_jobs] at among
    obtain ⟨job, _, returned⟩ := List.mem_map.mp among
    exact matched_of_findings (Job.inspected_ok returned).1
  obtain ⟨text, printed, line, read, counts⟩ := formatSummary_counts each
  rw [total] at read counts
  exact ⟨text, printed, line, read, counts⟩

end Run

end Certinspect.Formatter
