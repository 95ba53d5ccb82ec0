/-
**The text of the state file, and a save that fails.**

`save_state` opens the file for writing, which empties it, and then writes the JSON text of the
mapping. An `OSError` may come before that or behind any part of the text, and the next run reads what
is there; a text that is not JSON is an empty history to it.

* `Content`, `readContent` — the bytes of the file, and what `json.load` makes of them.
* `stateText` — what `json.dump` writes; `readContent_stateText`, `readContent_cut` — what is read of
  the whole of it and of a part.
* `SaveEnd` — how a save ends; `contentAfter` — what it leaves.
* `saveState_refines` — the contents refine the outcomes of `saveState`.
* **`saveState_exact`** — after a save the history is the one it ought to be, and the next run is
  compared with it, exactly when `HistoryKept`.
-/

import Certinspect.Display
import Certinspect.State

namespace Certinspect.State

open Library

/-! ### The file as text -/

/-- The content of the state file. -/
inductive Content
  /-- There is no file. -/
  | missing
  /-- The bytes are not UTF-8: a `UnicodeDecodeError`, which is a `ValueError`. -/
  | undecodable
  | text (characters : List Char)

/-- `json.load` of the file, whose brackets are nested within the recursion limit. -/
def readContent : Content → StateFile
  | .missing => .missing
  | .undecodable => .malformed
  | .text characters =>
    match readJson maxStrDigits characters with
    | some value => .holds value
    | none => .malformed

/-- The items of the mapping by their keys: `sort_keys=True`. -/
def sortedItems (state : Dict String String) : List (String × String) :=
  state.items.mergeSort fun first second => first.1 ≤ second.1

/-- What `json.dump(state, f, indent=2, sort_keys=True)` writes. -/
def stateText (state : Dict String String) : List Char := writtenObject (sortedItems state)

/-- The mapping as `load_state` returns it. -/
def asStatuses (state : Dict String String) : Statuses :=
  Dict.ofPairs (state.items.map fun item => (item.1, .string item.2))

/-- How `save_state` ends. -/
inductive SaveEnd (state : Dict String String)
  | saved
  /-- `open` fails; the file is as it was. -/
  | unopened
  /-- The writing fails behind this part of the text, or the closing behind all of it. -/
  | interrupted (written : List Char) (part : written <+: stateText state)

/-- `save_state`: the content of the file afterwards. -/
def contentAfter (before : Content) {state : Dict String String} : SaveEnd state → Content
  | .saved => .text (stateText state)
  | .unopened => before
  | .interrupted written _ => .text written

/-! ### What a save ought to leave -/

/-- Equal mappings: every target has the same status. -/
def SameMapping (first second : Statuses) : Prop := ∀ t, first.lookup t = second.lookup t

/-- The new mapping after a save, and the one from before it after a save that failed. -/
def historyDue (before : Content) {state : Dict String String} : SaveEnd state → Except PyErr Statuses
  | .saved => .ok (asStatuses state)
  | .unopened | .interrupted _ _ => loadState (readContent before)

/-- **A save loses no history.** The file holds the mapping that is due, and the next run reports the
targets whose status is not the one in it. -/
def LosesNothing (before : Content) {state : Dict String String} (finish : SaveEnd state) : Prop :=
  ∃ loaded due, loadState (readContent (contentAfter before finish)) = .ok loaded ∧
    historyDue before finish = .ok due ∧ SameMapping loaded due ∧
    ∀ outcome run, ∃ changed left,
      updateState (readContent (contentAfter before finish)) outcome run = .ok (changed, left) ∧
        ∀ t, t ∈ changed ↔ ∃ status, run.statusOf t = some status ∧
          due.lookup t ≠ some (.string status.str)

/-- When it does: the writing is not interrupted, or before it was there was no history to lose, or
all of the text was there and the mapping is what it was. -/
def HistoryKept (before : Content) {state : Dict String String} : SaveEnd state → Prop
  | .saved | .unopened => True
  | .interrupted written _ =>
    ∃ previous, loadState (readContent before) = .ok previous ∧
      if written = stateText state then SameMapping previous (asStatuses state)
      else SameMapping previous ∅

/-! ### What is read of the text -/

section Text

variable {state : Dict String String} {written : List Char}

theorem writtenObject_head (members : List (String × String)) :
    (writtenObject members).head? = some '{' := by
  cases members <;> rfl

theorem writtenObject_last (members : List (String × String)) :
    (writtenObject members).getLast? = some '}' := by
  cases members with
  | nil => rfl
  | cons first rest =>
    have ending : ∃ body, writtenObject (first :: rest) = body ++ ['}'] :=
      ⟨'{' :: '\n' :: ' ' :: ' ' :: (writtenMember first ++
        (rest.flatMap (fun member => ',' :: '\n' :: ' ' :: ' ' :: writtenMember member) ++ ['\n'])),
        by simp [writtenObject]⟩
    obtain ⟨body, same⟩ := ending
    rw [same, List.getLast?_concat]

/-- What was written as a whole is read. -/
theorem readContent_stateText (state : Dict String String) :
    readContent (.text (stateText state)) =
      .holds (.object ((sortedItems state).map fun item => (item.1, .string item.2))) := by
  unfold readContent stateText
  simp only [readJson_writtenObject]

/-- Of a part of it nothing is. -/
theorem readContent_cut (part : written <+: stateText state) (proper : written ≠ stateText state) :
    readContent (.text written) = .malformed := by
  have nothing : readJson maxStrDigits written = none :=
    readJson_cut (readJson_writtenObject (sortedItems state)) (writtenObject_head _)
      (writtenObject_last _) part proper
  unfold readContent
  simp only [nothing]

theorem mem_strings_iff {items : List (String × String)} {t : String} {value : Json} :
    (t, value) ∈ items.map (fun item => (item.1, Json.string item.2)) ↔
      ∃ status, (t, status) ∈ items ∧ value = .string status := by
  simp [eq_comm]

/-- Each key of a mapping has one status, in whichever order the items are. -/
theorem lookup_strings {items : List (String × String)} (same : items.Perm state.items)
    (t : String) :
    (Dict.ofPairs (items.map fun item => (item.1, Json.string item.2))).lookup t =
      (state.lookup t).map Json.string := by
  have held : ∀ value, (t, value) ∈ items.map (fun item => (item.1, Json.string item.2)) ↔
      ∃ status, state.lookup t = some status ∧ value = .string status := by
    intro value
    rw [mem_strings_iff]
    refine exists_congr fun status => and_congr_left fun _ => ?_
    rw [same.mem_iff, mem_items_iff]
  rw [lookup_ofPairs]
  apply Option.ext
  intro value
  rw [lastValue_eq_some_iff, held, Option.map_eq_some_iff]
  · exact exists_congr fun status => and_congr_right fun _ => eq_comm
  · intro first second left right
    obtain ⟨old, looked, rfl⟩ := (held first).mp left
    obtain ⟨new, again, rfl⟩ := (held second).mp right
    rw [Option.some.inj (looked.symm.trans again)]

theorem lookup_asStatuses (state : Dict String String) (t : String) :
    (asStatuses state).lookup t = (state.lookup t).map Json.string :=
  lookup_strings (List.Perm.refl _) t

/-- A content that is read is loaded. -/
theorem loadState_readContent (content : Content) :
    ∃ loaded, loadState (readContent content) = .ok loaded := by
  have readable : readContent content ≠ .tooDeep := by
    intro absurd
    unfold readContent at absurd
    split at absurd
    · cases absurd
    · cases absurd
    · split at absurd <;> cases absurd
  obtain ⟨loaded, own, _⟩ := loadState_ok readable
  exact ⟨loaded, own⟩

/-- A mapping that was saved is loaded again. -/
theorem loadState_stateText (state : Dict String String) :
    ∃ loaded, loadState (readContent (.text (stateText state))) = .ok loaded ∧
      SameMapping loaded (asStatuses state) := by
  refine ⟨_, congrArg loadState (readContent_stateText state), fun t => ?_⟩
  rw [lookup_asStatuses]
  exact lookup_strings (List.mergeSort_perm _ _) t

/-- Of a part of the text an empty mapping is loaded. -/
theorem loadState_cut (part : written <+: stateText state) (proper : written ≠ stateText state) :
    loadState (readContent (.text written)) = .ok ∅ := by
  rw [readContent_cut part proper]
  rfl

end Text

/-! ### A save that fails -/

section Save

variable {before : Content} {state : Dict String String} {finish : SaveEnd state}

/-- The outcome of the writing, with what is left of the file after an error. -/
def SaveEnd.outcome (before : Content) (finish : SaveEnd state) : WriteOutcome :=
  match finish with
  | .saved => .written
  | .unopened => .failed (readContent before)
  | .interrupted written _ => .failed (readContent (.text written))

/-- **The contents refine the outcomes**: the text that is left is loaded as what `saveState` says. -/
theorem saveState_refines (before : Content) (finish : SaveEnd state) :
    ∃ loaded outcome, loadState (readContent (contentAfter before finish)) = .ok loaded ∧
      loadState (saveState (finish.outcome before) (asStatuses state)) = .ok outcome ∧
      SameMapping loaded outcome := by
  cases finish with
  | saved =>
    obtain ⟨loaded, read, same⟩ := loadState_stateText state
    refine ⟨loaded, _, read, rfl, fun t => ?_⟩
    rw [lookup_ofPairs_items]
    exact same t
  | unopened =>
    obtain ⟨loaded, read⟩ := loadState_readContent before
    exact ⟨loaded, loaded, read, read, fun t => rfl⟩
  | interrupted written part =>
    obtain ⟨loaded, read⟩ := loadState_readContent (.text written)
    exact ⟨loaded, loaded, read, read, fun t => rfl⟩

/-- The mapping in the file is the one that is due. -/
theorem sameMapping_iff (before : Content) (finish : SaveEnd state) :
    (∃ loaded due, loadState (readContent (contentAfter before finish)) = .ok loaded ∧
        historyDue before finish = .ok due ∧ SameMapping loaded due) ↔ HistoryKept before finish := by
  cases finish with
  | saved =>
    obtain ⟨loaded, read, same⟩ := loadState_stateText state
    exact iff_of_true ⟨loaded, _, read, rfl, same⟩ trivial
  | unopened =>
    obtain ⟨loaded, read⟩ := loadState_readContent before
    exact iff_of_true ⟨loaded, loaded, read, read, fun t => rfl⟩ trivial
  | interrupted written part =>
    obtain ⟨previous, held⟩ := loadState_readContent before
    have turned {loaded now : Statuses} (read : loadState (readContent (.text written)) = .ok loaded)
        (same : SameMapping loaded now) :
        (∃ loaded due, loadState (readContent (contentAfter before (.interrupted written part))) = .ok loaded ∧
          historyDue before (.interrupted written part) = .ok due ∧ SameMapping loaded due) ↔
            SameMapping previous now := by
      refine ⟨?_, fun kept => ⟨loaded, previous, read, held, fun t => ?_⟩⟩
      · rintro ⟨own, due, again, before, mapped⟩ t
        rw [Except.ok.inj (held.symm.trans before), ← mapped t, Except.ok.inj (again.symm.trans read)]
        exact same t
      · rw [same t, kept t]
    have only : HistoryKept before (.interrupted written part) ↔
        if written = stateText state then SameMapping previous (asStatuses state)
        else SameMapping previous ∅ := by
      refine ⟨fun ⟨own, again, kept⟩ => ?_, fun kept => ⟨previous, held, kept⟩⟩
      rwa [Except.ok.inj (held.symm.trans again)]
    rw [only]
    by_cases whole : written = stateText state
    · obtain ⟨loaded, read, same⟩ := loadState_stateText state
      rw [if_pos whole]
      exact turned (whole ▸ read) same
    · rw [if_neg whole]
      exact turned (loadState_cut part whole) fun t => rfl

/-- The next run reports the targets whose status is not the one that is loaded. -/
theorem updateState_loaded {file : StateFile} {loaded : Statuses} (read : loadState file = .ok loaded)
    (outcome : WriteOutcome) (run : Run) : ∃ changed left,
      updateState file outcome run = .ok (changed, left) ∧
        ∀ t, t ∈ changed ↔ ∃ status, run.statusOf t = some status ∧
          loaded.lookup t ≠ some (.string status.str) := by
  refine ⟨changedTargets loaded run, saveState outcome (merged loaded run), ?_,
    fun t => mem_changedTargets loaded run t⟩
  unfold updateState
  rw [read]
  rfl

/-- After a save that was cut short the next run reports every target it inspects. -/
theorem changed_of_cut {written : List Char} (part : written <+: stateText state)
    (proper : written ≠ stateText state) (outcome : WriteOutcome) (run : Run) : ∃ changed left,
      updateState (readContent (contentAfter before (.interrupted written part))) outcome run =
        .ok (changed, left) ∧
      ∀ t, t ∈ changed ↔ ∃ status, run.statusOf t = some status := by
  obtain ⟨changed, left, updated, reported⟩ := updateState_loaded (loadState_cut part proper) outcome run
  refine ⟨changed, left, updated, fun t => ?_⟩
  rw [reported]
  exact exists_congr fun status => and_iff_left fun absurd => by cases absurd

/-- **Exactly when a save loses no history.** One that is not interrupted never does. One that is
leaves a text that is not JSON, which is loaded as an empty history without an error, so that only
what was empty before is kept; behind all of the text the new mapping is there though the save has
failed. -/
theorem saveState_exact (before : Content) (state : Dict String String) (finish : SaveEnd state) :
    LosesNothing before finish ↔ HistoryKept before finish := by
  rw [← sameMapping_iff]
  refine ⟨?_, ?_⟩
  · rintro ⟨loaded, due, read, history, same, _⟩
    exact ⟨loaded, due, read, history, same⟩
  · rintro ⟨loaded, due, read, history, same⟩
    refine ⟨loaded, due, read, history, same, fun outcome run => ?_⟩
    obtain ⟨changed, left, updated, reported⟩ := updateState_loaded read outcome run
    refine ⟨changed, left, updated, fun t => ?_⟩
    rw [reported]
    refine exists_congr fun status => and_congr_right fun _ => ?_
    rw [same t]

/-- A history of one target. -/
def oneTarget : Dict String String := Dict.ofPairs [("a.com", "VALID")]

/-- The disk is full when the only target is saved again, its status unchanged: the file has been
emptied, and the status is lost. -/
theorem saveState_counterexample :
    ¬ LosesNothing (.text (stateText oneTarget)) (.interrupted [] List.nil_prefix : SaveEnd oneTarget) := by
  rintro ⟨loaded, due, read, history, same, _⟩
  obtain ⟨previous, held, own⟩ := loadState_stateText oneTarget
  have lost : loaded = ∅ := Except.ok.inj (read.symm.trans rfl)
  have known : (asStatuses oneTarget).lookup "a.com" = some (.string "VALID") := rfl
  have kept := same "a.com"
  rw [lost, ← Except.ok.inj (held.symm.trans history), own "a.com", known] at kept
  cases kept

end Save

end Certinspect.State
