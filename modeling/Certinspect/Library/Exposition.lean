/-
**Samples as lines of text: the exposition format of a metrics scraper.**

A text is a list of lines. A line that starts with `#` is a comment; any other line is a sample,
`metric{label="target"} value`, with backslashes, quotes and line feeds of the target escaped.

* `writtenLabel`, `Sample.line` — how a sample is written; `readLabel`, `readSample`, `readText` — how a
  text is read.
* `readLabel_writtenLabel` — the reader of a label stops exactly at its closing quote.
* **`readText_lines`** — reading comments and samples, line by line, gives exactly the samples, in
  order.
* `Sample.series` — what a scraper stores a sample under; `series_nodup_iff` — blocks of different
  metrics repeat no series exactly when no block repeats a target.
-/

import Certinspect.Library.Numerals
import Mathlib

namespace Certinspect.Library

/-! ### Labels -/

/-- A character of a label value, as it is written. -/
def writtenChar (c : Char) : List Char :=
  if c = '\\' then ['\\', '\\'] else if c = '"' then ['\\', '"']
  else if c = '\n' then ['\\', 'n'] else [c]

/-- A label value, as it is written. -/
def writtenLabel (text : List Char) : List Char := text.flatMap writtenChar

/-- The character behind a backslash. -/
def unescape? (c : Char) : Option Char :=
  if c = '\\' ∨ c = '"' then some c else if c = 'n' then some '\n' else none

/-- Read a label value up to its closing quote: the value, and what follows the quote. -/
def readLabel : List Char → Option (List Char × List Char)
  | [] => none
  | [c] => if c = '"' then some ([], []) else none
  | c :: next :: rest =>
    if c = '"' then some ([], next :: rest)
    else if c = '\\' then do
      let plain ← unescape? next
      let (value, remaining) ← readLabel rest
      pure (plain :: value, remaining)
    else do
      let (value, remaining) ← readLabel (next :: rest)
      pure (c :: value, remaining)

section Labels

/-- A plain character is read as itself. -/
theorem readLabel_plain {c : Char} (noQuote : c ≠ '"') (noEscape : c ≠ '\\') (text : List Char) :
    readLabel (c :: text) = (readLabel text).map fun found => (c :: found.1, found.2) := by
  cases text with
  | nil =>
    show (if c = '"' then some ([], []) else none) = none
    rw [if_neg noQuote]
  | cons next rest =>
    rw [readLabel, if_neg noQuote, if_neg noEscape]
    cases readLabel (next :: rest) <;> rfl

/-- Reading undoes what writing one character did. -/
theorem readLabel_writtenChar (c : Char) (text : List Char) :
    readLabel (writtenChar c ++ text) = (readLabel text).map fun found => (c :: found.1, found.2) := by
  have behind (written plain : Char) (known : unescape? written = some plain) :
      readLabel ('\\' :: written :: text) =
        (readLabel text).map fun found => (plain :: found.1, found.2) := by
    rw [readLabel, if_neg (by decide), if_pos rfl, known]
    cases readLabel text <;> rfl
  unfold writtenChar
  by_cases backslash : c = '\\'
  · rw [if_pos backslash, backslash]
    exact behind '\\' '\\' rfl
  rw [if_neg backslash]
  by_cases quote : c = '"'
  · rw [if_pos quote, quote]
    exact behind '"' '"' rfl
  rw [if_neg quote]
  by_cases feed : c = '\n'
  · rw [if_pos feed, feed]
    exact behind 'n' '\n' rfl
  rw [if_neg feed]
  exact readLabel_plain quote backslash text

/-- **A written label is read back**, and what follows its closing quote is left. -/
theorem readLabel_writtenLabel (text rest : List Char) :
    readLabel (writtenLabel text ++ '"' :: rest) = some (text, rest) := by
  induction text with
  | nil => cases rest <;> rfl
  | cons c text ih =>
    unfold writtenLabel at *
    rw [List.flatMap_cons, List.append_assoc, readLabel_writtenChar, ih]
    rfl

/-- Different labels are written differently. -/
theorem writtenLabel_injective : Function.Injective writtenLabel := by
  intro first second same
  have read := readLabel_writtenLabel first []
  rw [same, readLabel_writtenLabel] at read
  cases read
  rfl

/-- A written label is on one line. -/
theorem feed_notMem_writtenLabel (text : List Char) : '\n' ∉ writtenLabel text := by
  intro member
  obtain ⟨c, _, written⟩ := List.mem_flatMap.mp member
  unfold writtenChar at written
  split at written
  · simp at written
  split at written
  · simp at written
  split at written
  · simp at written
  · rename_i noFeed
    exact noFeed (List.mem_singleton.mp written).symm

end Labels

/-! ### Samples -/

/-- The value of a metric for a target. -/
structure Sample where
  metric : String
  target : String
  value : Int
  deriving DecidableEq, Repr

/-- What follows a given start of a text. -/
def after (start text : List Char) : Option (List Char) :=
  if start.isPrefixOf text then some (text.drop start.length) else none

/-- The start of a label, up to its value. -/
def labelStart (label : String) : List Char := '{' :: label.toList ++ ['=', '"']

/-- A sample, as it is written. -/
def Sample.line (label : String) (sample : Sample) : String :=
  sample.metric ++ String.ofList (labelStart label ++ writtenLabel sample.target.toList) ++ "\"\x7d " ++
    sample.value.repr

/-- Read a line as a sample. -/
def readSample (label : String) (line : List Char) : Option Sample := do
  let inside ← after (labelStart label) (line.dropWhile (· != '{'))
  let (target, rest) ← readLabel inside
  let value ← after ['}', ' '] rest
  let number ← (String.ofList value).toInt?
  pure ⟨String.ofList (line.takeWhile (· != '{')), String.ofList target, number⟩

/-- Read a text: its lines in order, the comments skipped. -/
def readText (label text : String) : Option (List Sample) :=
  ((text.toList.splitOn '\n').filter fun line => line.head? != some '#').mapM (readSample label)

section Samples

theorem after_append (start rest : List Char) : after start (start ++ rest) = some rest := by
  unfold after
  rw [if_pos (List.isPrefixOf_iff_prefix.mpr (List.prefix_append start rest)), List.drop_left]

/-- A metric's name: on one line, without a brace, and no comment. -/
structure MetricName (name : String) : Prop where
  noBrace : '{' ∉ name.toList
  noFeed : '\n' ∉ name.toList
  noComment : name.toList.head? ≠ some '#'

/-- A character is looked for in the characters of a literal, not in its bytes. -/
theorem notMem_literal {c : Char} {characters : List Char} (absent : c ∉ characters) :
    c ∉ (String.ofList characters).toList := by
  rwa [String.toList_ofList]

instance (name : String) : Decidable (MetricName name) :=
  decidable_of_iff ('{' ∉ name.toList ∧ '\n' ∉ name.toList ∧ name.toList.head? ≠ some '#')
    ⟨fun holds => ⟨holds.1, holds.2.1, holds.2.2⟩,
      fun holds => ⟨holds.noBrace, holds.noFeed, holds.noComment⟩⟩

/-- The characters of a sample's line. -/
theorem line_toList (label : String) (sample : Sample) :
    (sample.line label).toList = sample.metric.toList ++ (labelStart label ++
      (writtenLabel sample.target.toList ++ '"' :: (['}', ' '] ++ sample.value.repr.toList))) := by
  unfold Sample.line
  simp

theorem takeWhile_append_stop {text : List Char} (rest : List Char) {stop : Char}
    (absent : stop ∉ text) :
    (text ++ stop :: rest).takeWhile (· != stop) = text ∧
      (text ++ stop :: rest).dropWhile (· != stop) = stop :: rest := by
  have passes : ∀ c ∈ text, (c != stop) = true := by
    intro c member
    rw [bne_iff_ne]
    exact fun same => absent (same ▸ member)
  refine ⟨?_, ?_⟩
  · rw [List.takeWhile_append_of_pos passes, List.takeWhile_cons_of_neg (by simp), List.append_nil]
  · rw [List.dropWhile_append_of_pos passes, List.dropWhile_cons_of_neg (by simp)]

/-- **A written sample is read back.** -/
theorem readSample_line (label : String) {sample : Sample} (named : MetricName sample.metric) :
    readSample label (sample.line label).toList = some sample := by
  obtain ⟨name, inside⟩ := takeWhile_append_stop (label.toList ++ (['=', '"'] ++
    (writtenLabel sample.target.toList ++ '"' :: (['}', ' '] ++ sample.value.repr.toList))))
    named.noBrace
  have shape : (sample.line label).toList = sample.metric.toList ++ '{' :: (label.toList ++
      (['=', '"'] ++ (writtenLabel sample.target.toList ++
        '"' :: (['}', ' '] ++ sample.value.repr.toList)))) := by
    rw [line_toList]
    simp [labelStart]
  have start : '{' :: (label.toList ++ (['=', '"'] ++ (writtenLabel sample.target.toList ++
      '"' :: (['}', ' '] ++ sample.value.repr.toList)))) =
      labelStart label ++ (writtenLabel sample.target.toList ++
        '"' :: (['}', ' '] ++ sample.value.repr.toList)) := by
    simp [labelStart]
  unfold readSample
  rw [shape, name, inside, start, after_append]
  simp only [Option.bind_eq_bind, Option.bind_some]
  rw [readLabel_writtenLabel]
  simp only [Option.bind_some]
  rw [after_append]
  simp only [Option.bind_some, String.ofList_toList, Int.toInt?_repr]
  rfl

theorem feed_notMem_line {label : String} {sample : Sample} (oneLine : '\n' ∉ label.toList)
    (named : MetricName sample.metric) : '\n' ∉ (sample.line label).toList := by
  rw [line_toList]
  have noFeed : '\n' ∉ sample.value.repr.toList := by
    intro member
    rcases mem_repr member with digit | sign
    · revert digit
      decide
    · revert sign
      decide
  simp [labelStart, oneLine, named.noFeed, noFeed, feed_notMem_writtenLabel]

theorem line_noComment {label : String} {sample : Sample} (named : MetricName sample.metric) :
    (sample.line label).toList.head? ≠ some '#' := by
  rw [line_toList]
  cases characters : sample.metric.toList with
  | nil => simp [labelStart]
  | cons first rest =>
    have notComment := named.noComment
    rw [characters] at notComment
    simpa using notComment

end Samples

/-! ### Texts -/

/-- A line of a text. -/
inductive Line
  | comment (text : String)
  | reading (sample : Sample)

namespace Line

/-- A line, as it is written. -/
def write (label : String) : Line → String
  | .comment text => text
  | .reading sample => sample.line label

/-- The sample of a line. -/
def sample? : Line → Option Sample
  | .comment _ => none
  | .reading sample => some sample

/-- A comment starts with `#` and is on one line; a sample has a metric's name. -/
def WellFormed : Line → Prop
  | .comment text => text.toList.head? = some '#' ∧ '\n' ∉ text.toList
  | .reading sample => MetricName sample.metric

end Line

section Texts

variable {label : String} {lines : List Line}

/-- The samples of well-formed lines. -/
theorem mapM_readSample (formed : ∀ line ∈ lines, line.WellFormed) :
    ((lines.map fun line => (line.write label).toList).filter
      fun line => line.head? != some '#').mapM (readSample label) =
      some (lines.filterMap Line.sample?) := by
  induction lines with
  | nil => rfl
  | cons line rest ih =>
    obtain ⟨here, others⟩ := List.forall_mem_cons.mp formed
    rw [List.map_cons, List.filterMap_cons]
    cases line with
    | comment text =>
      have skipped : ((Line.comment text).write label).toList.head? = some '#' := here.1
      rw [List.filter_cons_of_neg (by rw [skipped]; decide), ih others]
      rfl
    | reading sample =>
      have named : MetricName sample.metric := here
      have kept : ((Line.reading sample).write label).toList.head? ≠ some '#' :=
        line_noComment named
      have read : readSample label ((Line.reading sample).write label).toList = some sample :=
        readSample_line label named
      rw [List.filter_cons_of_pos (by rw [bne_iff_ne]; exact kept), List.mapM_cons, read, ih others]
      simp only [Option.bind_eq_bind, Option.bind_some, Option.pure_def, Line.sample?]

/-- **A text is read back**: the samples of its lines, in order, and nothing else. -/
theorem readText_lines (oneLine : '\n' ∉ label.toList) (formed : ∀ line ∈ lines, line.WellFormed)
    (some : lines ≠ []) :
    readText label ("\n".intercalate (lines.map (Line.write label))) =
      .some (lines.filterMap Line.sample?) := by
  have separate : ∀ text ∈ lines.map fun line => (line.write label).toList, '\n' ∉ text := by
    intro text member
    obtain ⟨line, inLines, rfl⟩ := List.mem_map.mp member
    have here := formed line inLines
    cases line with
    | comment text => exact here.2
    | reading sample =>
      have named : MetricName sample.metric := here
      exact feed_notMem_line oneLine named
  have split : ("\n".intercalate (lines.map (Line.write label))).toList.splitOn '\n' =
      lines.map fun line => (line.write label).toList := by
    rw [String.toList_intercalate, List.map_map]
    exact List.splitOn_intercalate '\n' separate (by simpa using some)
  unfold readText
  rw [split]
  exact mapM_readSample formed

end Texts

/-! ### Series -/

/-- The series of a sample: its metric and its target. -/
def Sample.series (sample : Sample) : String × String := (sample.metric, sample.target)

section Series

/-- The series of samples of one metric are told apart by their targets. -/
theorem series_nodup_of_metric {metric : String} {samples : List Sample}
    (own : ∀ sample ∈ samples, sample.metric = metric) :
    (samples.map Sample.series).Nodup ↔ (samples.map Sample.target).Nodup := by
  have tagged : samples.map Sample.series = (samples.map Sample.target).map (Prod.mk metric) := by
    rw [List.map_map]
    refine List.map_congr_left fun sample member => ?_
    show (sample.metric, sample.target) = (metric, sample.target)
    rw [own sample member]
  rw [tagged, List.nodup_map_iff (Prod.mk_right_injective metric)]

/-- **Blocks of different metrics repeat no series exactly when no block repeats a target.** -/
theorem series_nodup_iff {blocks : List (String × List Sample)}
    (distinct : (blocks.map Prod.fst).Nodup)
    (own : ∀ block ∈ blocks, ∀ sample ∈ block.2, sample.metric = block.1) :
    ((blocks.flatMap Prod.snd).map Sample.series).Nodup ↔
      ∀ block ∈ blocks, (block.2.map Sample.target).Nodup := by
  have apart : blocks.Pairwise
      (Function.onFun List.Disjoint fun block => block.2.map Sample.series) := by
    refine (List.pairwise_map.mp distinct).imp_of_mem ?_
    intro first second inFirst inSecond different series found found'
    obtain ⟨sample, inside, rfl⟩ := List.mem_map.mp found
    obtain ⟨sample', inside', same⟩ := List.mem_map.mp found'
    have metrics : sample'.metric = sample.metric := congrArg Prod.fst same
    rw [own first inFirst sample inside, own second inSecond sample' inside'] at metrics
    exact different metrics.symm
  rw [List.map_flatMap, List.nodup_flatMap, and_iff_left apart]
  exact forall₂_congr fun block member => series_nodup_of_metric (own block member)

end Series

end Certinspect.Library
