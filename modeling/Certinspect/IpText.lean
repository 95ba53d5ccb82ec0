/-
**The text of an IP address, as `ipaddress.ip_address` reads it.**

`IpAddress.parse` is the address that a literal denotes: four decimal numbers with dots, or up to
eight hexadecimal groups with colons, where `::` stands for at least one zero group and the last two
groups may be written as an IPv4 address. A scope after `%` is not part of an address.

* `parse_str` — **the text `str(ip)` denotes the address `ip`.**
* `parse_lower` — the case of a literal does not matter.
-/

import Certinspect.IpAddress
import Certinspect.Library.Numerals
import Certinspect.Python
import Mathlib.Data.List.TakeWhile

namespace Certinspect.IpAddress

open Library

/-! ### Reading -/

/-- One of the four numbers of an IPv4 address; no leading zeros. -/
def parseOctet (digits : List Char) : Option Nat :=
  if digits = [] ∨ 3 < digits.length ∨ (1 < digits.length ∧ digits.head? = some '0') then none
  else (readDigits 10 0 digits).filter (· ≤ 255)

/-- `IPv4Address(text)`. -/
def parse4 (text : List Char) : Option (BitVec 32) :=
  match (text.splitOn '.').mapM parseOctet with
  | some [a, b, c, d] => some (BitVec.ofNat 32 (fromBase 8 [a, b, c, d]))
  | _ => none

/-- `_parse_hextet`: one group of an IPv6 address. -/
def parseHextet (digits : List Char) : Option Nat :=
  if digits = [] ∨ 4 < digits.length then none else readDigits 16 0 digits

/-- A text cut at its first `::`. -/
def cutDouble : List Char → Option (List Char × List Char)
  | ':' :: ':' :: rest => some ([], rest)
  | c :: rest => (cutDouble rest).map fun cut => (c :: cut.1, cut.2)
  | [] => none

/-- The groups before a `::`. -/
def parseHead (text : List Char) : Option (List Nat) :=
  if text = [] then some [] else (text.splitOn ':').mapM parseHextet

/-- The groups of a text that may end in an IPv4 address. -/
def parseTail (text : List Char) : Option (List Nat) :=
  if text = [] then some []
  else
    let parts := text.splitOn ':'
    match parts.getLast? with
    | some last =>
      if '.' ∈ last then do
        let groups ← parts.dropLast.mapM parseHextet
        let bits ← parse4 last
        pure (groups ++ [bits.toNat / 65536, bits.toNat % 65536])
      else parts.mapM parseHextet
    | none => none

/-- The eight groups of a text; a `::` fills up with zeros. -/
def parseGroups (text : List Char) : Option (List Nat) :=
  match cutDouble text with
  | some (before, after) => do
    let high ← parseHead before
    let low ← parseTail after
    if high.length + low.length < 8 then
      some (high ++ List.replicate (8 - (high.length + low.length)) 0 ++ low)
    else none
  | none => (parseTail text).filter fun groups => groups.length = 8

/-- `IPv6Address(text)`, without a scope. -/
def parse6 (text : List Char) : Option (BitVec 128) :=
  (parseGroups text).map fun groups => BitVec.ofNat 128 (fromBase 16 groups)

/-- **The address that a literal denotes**, `ipaddress.ip_address(text)`. -/
def parse (text : String) : Option IpAddress :=
  ((parse4 text.toList).map .v4).or ((parse6 text.toList).map .v6)

example : parse "10.0.0.5" = some (.v4 0x0a000005#32) := by decide +kernel

example : parse "2001:DB8:0:0::1" = parse "2001:db8::1" := by decide +kernel

example : (parse "::ffff:1.2.3.4").isSome = true ∧ parse "1:::2" = none ∧ parse "01.2.3.4" = none := by
  decide +kernel

/-! ### Lists of parts -/

section Parts

variable {α β : Type}

/-- Reading what was written, part by part. -/
theorem mapM_map_some {write : α → β} {read : β → Option α} {parts : List α}
    (inverse : ∀ part ∈ parts, read (write part) = some part) :
    (parts.map write).mapM read = some parts := by
  induction parts with
  | nil => rfl
  | cons first rest ih =>
    obtain ⟨here, others⟩ := List.forall_mem_cons.mp inverse
    rw [List.map_cons, List.mapM_cons, here, ih others]
    rfl

/-- Where all parts are read, each is. -/
theorem read_of_mapM {read : α → Option β} {parts : List α} {values : List β}
    (all : parts.mapM read = some values) : ∀ part ∈ parts, ∃ value, read part = some value := by
  induction parts generalizing values with
  | nil => exact fun _ absurd => by cases absurd
  | cons first rest ih =>
    rw [List.mapM_cons] at all
    cases here : read first with
    | none =>
      rw [here] at all
      cases all
    | some value =>
      rw [here] at all
      cases others : rest.mapM read with
      | none =>
        rw [others] at all
        cases all
      | some more => exact List.forall_mem_cons.mpr ⟨⟨value, here⟩, ih others⟩

/-- Cutting commutes with a change of the characters that neither makes nor loses a separator. -/
theorem splitOn_map {f : Char → Char} {c : Char} (keeps : ∀ d, f d = c ↔ d = c) (text : List Char) :
    (text.map f).splitOn c = (text.splitOn c).map (List.map f) := by
  induction text with
  | nil => rfl
  | cons d rest ih =>
    rw [List.map_cons, List.splitOn_cons_eq_if_modifyHead, List.splitOn_cons_eq_if_modifyHead, ih]
    by_cases cut : d = c
    · rw [if_pos (beq_iff_eq.mpr ((keeps d).mpr cut)), if_pos (beq_iff_eq.mpr cut)]
      rfl
    · rw [if_neg (fun same => cut ((keeps d).mp (beq_iff_eq.mp same))),
        if_neg (fun same => cut (beq_iff_eq.mp same))]
      cases rest.splitOn c <;> rfl

/-- A character that is no separator is in some part. -/
theorem mem_splitOn {c d : Char} (other : d ≠ c) {text : List Char} (member : d ∈ text) :
    ∃ part ∈ text.splitOn c, d ∈ part := by
  induction text with
  | nil => cases member
  | cons first rest ih =>
    rw [List.splitOn_cons_eq_if_modifyHead]
    by_cases cut : first = c
    · rw [if_pos (beq_iff_eq.mpr cut)]
      have later : d ∈ rest := by
        rcases List.mem_cons.mp member with same | later
        · exact (other (same.trans cut)).elim
        · exact later
      obtain ⟨part, inside, found⟩ := ih later
      exact ⟨part, List.mem_cons_of_mem _ inside, found⟩
    · rw [if_neg fun same => cut (beq_iff_eq.mp same)]
      cases split : rest.splitOn c with
      | nil => exact (List.splitOn_ne_nil c rest split).elim
      | cons head tail =>
        rcases List.mem_cons.mp member with same | later
        · exact ⟨first :: head, List.mem_cons_self, same ▸ List.mem_cons_self⟩
        · obtain ⟨part, inside, found⟩ := ih later
          rw [split] at inside
          rcases List.mem_cons.mp inside with same | inside
          · exact ⟨first :: head, List.mem_cons_self, List.mem_cons_of_mem _ (same ▸ found)⟩
          · exact ⟨part, List.mem_cons_of_mem _ inside, found⟩

/-- Reading parts with other characters in them. -/
theorem mapM_map_congr {f : List Char → List Char} {read : List Char → Option α}
    (same : ∀ part, read (f part) = read part) (parts : List (List Char)) :
    (parts.map f).mapM read = parts.mapM read := by
  induction parts with
  | nil => rfl
  | cons first rest ih => rw [List.map_cons, List.mapM_cons, List.mapM_cons, same, ih]

end Parts

/-! ### IPv4 -/

section Four

variable {bits : BitVec 32}

theorem parseOctet_toDigits {n : Nat} (small : n < 256) :
    parseOctet (Nat.toDigits 10 n) = some n ∧ '.' ∉ Nat.toDigits 10 n ∧ ':' ∉ Nat.toDigits 10 n := by
  have each : ∀ k : Fin 256, parseOctet (Nat.toDigits 10 k) = some k.val ∧
      '.' ∉ Nat.toDigits 10 k ∧ ':' ∉ Nat.toDigits 10 k := by
    decide +kernel
  exact each ⟨n, small⟩

/-- The four numbers of an IPv4 address. -/
def octets (bits : BitVec 32) : List Nat := digitsOf 8 bits.toNat 4

theorem octets_small (bits : BitVec 32) : ∀ octet ∈ octets bits, octet < 256 := by
  intro octet member
  simp only [octets, digitsOf, List.mem_cons, List.not_mem_nil, or_false] at member
  omega

theorem dotted_toList (bits : BitVec 32) :
    (dotted bits).toList = ['.'].intercalate ((octets bits).map (Nat.toDigits 10)) := by
  unfold dotted
  rw [String.toList_intercalate]
  simp only [octets, digitsOf, List.map_cons, List.map_nil, BitVec.toNat_ushiftRight,
    Nat.shiftRight_eq_div_pow, Nat.toString_eq_ofList_toDigits, String.toList_ofList]
  rfl

/-- **A dotted text denotes its address.** -/
theorem parse4_dotted (bits : BitVec 32) : parse4 (dotted bits).toList = some bits := by
  have parts : ((dotted bits).toList.splitOn '.').mapM parseOctet = some (octets bits) := by
    rw [dotted_toList, List.splitOn_intercalate]
    · exact mapM_map_some fun octet member => (parseOctet_toDigits (octets_small bits octet member)).1
    · intro part member
      obtain ⟨octet, inside, rfl⟩ := List.mem_map.mp member
      exact (parseOctet_toDigits (octets_small bits octet inside)).2.1
    · exact List.cons_ne_nil _ _
  have whole : fromBase 8 (octets bits) = bits.toNat := fromBase_digitsOf bits.isLt
  unfold parse4
  rw [parts]
  show some (BitVec.ofNat 32 (fromBase 8 (octets bits))) = some bits
  rw [whole, BitVec.ofNat_toNat, BitVec.setWidth_eq]

/-- Only digits and dots stand in an IPv4 address. -/
theorem digit_or_dot_of_parse4 {text : List Char} (read : parse4 text = some bits) :
    ∀ c ∈ text, c = '.' ∨ digitValue c ≠ none := by
  intro c member
  by_cases dot : c = '.'
  · exact Or.inl dot
  obtain ⟨part, inside, found⟩ := mem_splitOn dot member
  unfold parse4 at read
  cases parts : (text.splitOn '.').mapM parseOctet with
  | none =>
    rw [parts] at read
    cases read
  | some values =>
    obtain ⟨octet, here⟩ := read_of_mapM parts part inside
    unfold parseOctet at here
    by_cases bad : part = [] ∨ 3 < part.length ∨ (1 < part.length ∧ part.head? = some '0')
    · rw [if_pos bad] at here
      cases here
    · rw [if_neg bad] at here
      obtain ⟨digits, _⟩ := Option.filter_eq_some_iff.mp here
      exact Or.inr (digit_of_readDigits digits c found)

theorem colon_not_mem_of_parse4 {text : List Char} (read : parse4 text = some bits) :
    ':' ∉ text := by
  intro member
  rcases digit_or_dot_of_parse4 read ':' member with dot | digit
  · exact absurd dot (by decide)
  · exact digit (by decide)

theorem colon_not_mem_dotted (bits : BitVec 32) : ':' ∉ (dotted bits).toList :=
  colon_not_mem_of_parse4 (parse4_dotted bits)

end Four

/-! ### IPv6 -/

section Six

/-- The text of a group: not empty, and without a colon. -/
structure IsGroup (text : List Char) : Prop where
  nonempty : text ≠ []
  bare : ':' ∉ text

theorem hextet_toDigits {n : Nat} (small : n < 65536) :
    parseHextet (Nat.toDigits 16 n) = some n ∧ IsGroup (Nat.toDigits 16 n) ∧
      '.' ∉ Nat.toDigits 16 n := by
  have read := readDigits_toDigits (by decide) (Nat.le_refl 16) n
  have short : (Nat.toDigits 16 n).length ≤ 4 :=
    (Nat.length_toDigits_le_iff (by decide) (by decide)).mpr small
  refine ⟨?_, ⟨Nat.toDigits_ne_nil, ?_⟩, ?_⟩
  · unfold parseHextet
    rw [if_neg, read]
    intro bad
    rcases bad with empty | long
    · exact Nat.toDigits_ne_nil empty
    · omega
  · exact fun member => digit_of_readDigits read ':' member (by decide)
  · exact fun member => digit_of_readDigits read '.' member (by decide)

theorem intercalate_colon (first : List Char) (rest : List (List Char)) :
    [':'].intercalate (first :: rest) = first ++ rest.flatMap (':' :: ·) := by
  induction rest generalizing first with
  | nil => rw [List.intercalate_singleton, List.flatMap_nil, List.append_nil]
  | cons second rest ih =>
    rw [List.intercalate_cons_cons, ih, List.flatMap_cons, List.append_assoc]
    rfl

/-- Characters before the first colon are kept. -/
theorem cutDouble_bare {word : List Char} (bare : ':' ∉ word) (rest : List Char) :
    cutDouble (word ++ rest) = (cutDouble rest).map fun cut => (word ++ cut.1, cut.2) := by
  induction word with
  | nil =>
    show cutDouble rest = (cutDouble rest).map fun cut => cut
    rw [Option.map_id']
  | cons c word ih =>
    have other : c ≠ ':' := fun same => bare (same ▸ List.mem_cons_self)
    have step : cutDouble (c :: (word ++ rest)) =
        (cutDouble (word ++ rest)).map fun cut => (c :: cut.1, cut.2) := by
      rw [cutDouble]
      exact fun more same _ => other same
    rw [List.cons_append, step, ih fun inside => bare (List.mem_cons_of_mem c inside),
      Option.map_map]
    rfl

/-- A single colon is kept. -/
theorem cutDouble_colon {word : List Char} (group : IsGroup word) (rest : List Char) :
    cutDouble (':' :: (word ++ rest)) =
      (cutDouble (word ++ rest)).map fun cut => (':' :: cut.1, cut.2) := by
  cases word with
  | nil => exact (group.nonempty rfl).elim
  | cons c word =>
    rw [List.cons_append, cutDouble]
    intro more _ same
    exact group.bare ((List.cons.inj same).1 ▸ List.mem_cons_self)

/-- **Groups with colons between them are kept whole.** -/
theorem cutDouble_groups {groups : List (List Char)} (each : ∀ group ∈ groups, IsGroup group)
    (rest : List Char) :
    cutDouble ([':'].intercalate groups ++ rest) =
      (cutDouble rest).map fun cut => ([':'].intercalate groups ++ cut.1, cut.2) := by
  induction groups with
  | nil =>
    show cutDouble rest = (cutDouble rest).map fun cut => cut
    rw [Option.map_id']
  | cons first more ih =>
    obtain ⟨here, others⟩ := List.forall_mem_cons.mp each
    cases more with
    | nil =>
      rw [List.intercalate_singleton]
      exact cutDouble_bare here.bare rest
    | cons second more =>
      -- behind the colon comes a group, not another colon
      have later : [':'].intercalate (second :: more) ++ rest =
          second ++ (more.flatMap (':' :: ·) ++ rest) := by
        rw [intercalate_colon, List.append_assoc]
      rw [List.intercalate_cons_cons, List.append_assoc, List.append_assoc,
        cutDouble_bare here.bare, List.singleton_append, later,
        cutDouble_colon (others second List.mem_cons_self), ← later, ih others, Option.map_map,
        Option.map_map]
      congr 1
      funext cut
      simp

/-! ### The groups of an address -/

variable {numbers : List Nat} {bits : BitVec 128}

/-- The text of groups. -/
def groupsText (numbers : List Nat) : List Char :=
  [':'].intercalate (numbers.map (Nat.toDigits 16))

theorem groupsText_groups (small : ∀ n ∈ numbers, n < 65536) :
    ∀ group ∈ numbers.map (Nat.toDigits 16), IsGroup group := by
  intro group member
  obtain ⟨n, inside, rfl⟩ := List.mem_map.mp member
  exact (hextet_toDigits (small n inside)).2.1

theorem cutDouble_groupsText (small : ∀ n ∈ numbers, n < 65536) (rest : List Char) :
    cutDouble (groupsText numbers ++ rest) =
      (cutDouble rest).map fun cut => (groupsText numbers ++ cut.1, cut.2) :=
  cutDouble_groups (groupsText_groups small) rest

theorem groupsText_eq_nil : groupsText numbers = [] ↔ numbers = [] := by
  cases numbers with
  | nil => exact ⟨fun _ => rfl, fun _ => rfl⟩
  | cons first rest =>
    refine ⟨fun empty => ?_, fun absurd => by cases absurd⟩
    unfold groupsText at empty
    rw [List.map_cons, intercalate_colon] at empty
    exact (Nat.toDigits_ne_nil (List.append_eq_nil_iff.mp empty).1).elim

theorem splitOn_groupsText (small : ∀ n ∈ numbers, n < 65536) (some : numbers ≠ []) :
    (groupsText numbers).splitOn ':' = numbers.map (Nat.toDigits 16) := by
  refine List.splitOn_intercalate ':' (fun group member => ?_) ?_
  · exact (groupsText_groups small group member).bare
  · exact fun none => some (List.map_eq_nil_iff.mp none)

theorem parseHead_groupsText (small : ∀ n ∈ numbers, n < 65536) :
    parseHead (groupsText numbers) = some numbers := by
  unfold parseHead
  by_cases empty : numbers = []
  · rw [empty]
    rfl
  · rw [if_neg fun none => empty (groupsText_eq_nil.mp none), splitOn_groupsText small empty]
    exact mapM_map_some fun n member => (hextet_toDigits (small n member)).1

theorem parseTail_groupsText (small : ∀ n ∈ numbers, n < 65536) :
    parseTail (groupsText numbers) = some numbers := by
  unfold parseTail
  by_cases empty : numbers = []
  · rw [empty]
    rfl
  · have last : (numbers.map (Nat.toDigits 16)).getLast? =
        some (Nat.toDigits 16 (numbers.getLast empty)) := by
      rw [List.getLast?_map, List.getLast?_eq_getLast_of_ne_nil empty]
      rfl
    have plain := (hextet_toDigits (small _ (List.getLast_mem empty))).2.2
    rw [if_neg fun none => empty (groupsText_eq_nil.mp none), splitOn_groupsText small empty]
    simp only [last]
    rw [if_neg plain]
    exact mapM_map_some fun n member => (hextet_toDigits (small n member)).1

/-- A fold that keeps the larger one ends at one of those it saw. -/
theorem foldl_larger_mem (runs : List (Nat × Nat)) (best : Nat × Nat) :
    runs.foldl (fun best run => if best.2 < run.2 then run else best) best ∈ best :: runs := by
  induction runs generalizing best with
  | nil => exact List.mem_cons_self
  | cons run rest ih =>
    rw [List.foldl_cons]
    rcases List.mem_cons.mp (ih (if best.2 < run.2 then run else best)) with same | later
    · rw [same]
      by_cases larger : best.2 < run.2
      · rw [if_pos larger]
        exact List.mem_cons_of_mem _ List.mem_cons_self
      · rw [if_neg larger]
        exact List.mem_cons_self
    · exact List.mem_cons_of_mem _ (List.mem_cons_of_mem _ later)

/-- **The longest run is a run of zeros.** -/
theorem longestZeroRun_zeros (groups : List Nat) :
    groups = groups.take (longestZeroRun groups).1 ++
      List.replicate (longestZeroRun groups).2 0 ++
      groups.drop ((longestZeroRun groups).1 + (longestZeroRun groups).2) := by
  have found := foldl_larger_mem ((List.range groups.length).map fun start =>
    (start, ((groups.drop start).takeWhile (· == 0)).length)) (0, 0)
  change longestZeroRun groups ∈ _ at found
  rcases List.mem_cons.mp found with none | run
  · rw [none]
    simp
  · obtain ⟨start, _, same⟩ := List.mem_map.mp run
    rw [← same]
    have zeros : (groups.drop start).takeWhile (· == 0) =
        List.replicate ((groups.drop start).takeWhile (· == 0)).length 0 := by
      refine List.eq_replicate_iff.mpr ⟨rfl, fun n member => ?_⟩
      have zero : (n == 0) = true := @List.mem_takeWhile_imp _ (· == 0) _ n member
      exact beq_iff_eq.mp zero
    have rest : groups.drop (start + ((groups.drop start).takeWhile (· == 0)).length) =
        (groups.drop start).dropWhile (· == 0) := by
      rw [← List.drop_drop]
      have whole := @List.takeWhile_append_dropWhile _ (· == 0) (groups.drop start)
      exact (congrArg _ whole.symm).trans List.drop_left
    rw [← zeros, rest, List.append_assoc, List.takeWhile_append_dropWhile, List.take_append_drop]

theorem hextets_eq (bits : BitVec 128) : hextets bits = digitsOf 16 bits.toNat 8 := by
  have groups : hextets bits =
      [112, 96, 80, 64, 48, 32, 16, 0].map fun shift => bits.toNat / 2 ^ shift % 2 ^ 16 :=
    List.map_congr_left fun shift _ => congrArg (· % 65536)
      ((BitVec.toNat_ushiftRight bits shift).trans (Nat.shiftRight_eq_div_pow _ _))
  rw [groups]
  rfl

theorem hextets_small (bits : BitVec 128) : ∀ group ∈ hextets bits, group < 65536 := by
  intro group member
  rw [hextets_eq] at member
  simp only [digitsOf, List.mem_cons, List.not_mem_nil, or_false] at member
  omega

theorem fromBase_hextets (bits : BitVec 128) :
    BitVec.ofNat 128 (fromBase 16 (hextets bits)) = bits := by
  have whole : fromBase 16 (digitsOf 16 bits.toNat 8) = bits.toNat := fromBase_digitsOf bits.isLt
  rw [hextets_eq, whole, BitVec.ofNat_toNat, BitVec.setWidth_eq]

/-! ### The round trip -/

theorem colons_toList (bits : BitVec 128) :
    (colons bits).toList =
      if (longestZeroRun (hextets bits)).2 ≤ 1 then groupsText (hextets bits)
      else groupsText ((hextets bits).take (longestZeroRun (hextets bits)).1) ++ ':' :: ':' ::
        groupsText ((hextets bits).drop
          ((longestZeroRun (hextets bits)).1 + (longestZeroRun (hextets bits)).2)) := by
  have text (numbers : List Nat) :
      (":".intercalate (numbers.map hextet)).toList = groupsText numbers := by
    have each : String.toList ∘ hextet = Nat.toDigits 16 := by
      funext n
      exact String.toList_ofList
    rw [String.toList_intercalate, List.map_map, each]
    rfl
  unfold colons
  by_cases short : (longestZeroRun (hextets bits)).2 ≤ 1
  · simp only [short, if_true]
    exact text _
  · simp only [short, if_false, String.toList_append, text, List.append_assoc]
    rfl

/-- The groups of a text with a `::`. -/
theorem parseGroups_double {text before after : List Char} {high low : List Nat}
    (cut : cutDouble text = some (before, after)) (first : parseHead before = some high)
    (second : parseTail after = some low) (few : high.length + low.length < 8) :
    parseGroups text =
      some (high ++ List.replicate (8 - (high.length + low.length)) 0 ++ low) := by
  unfold parseGroups
  rw [cut]
  show (parseHead before >>= _) = _
  rw [first]
  show (parseTail after >>= _) = _
  rw [second]
  exact if_pos few

theorem parseGroups_colons (bits : BitVec 128) :
    parseGroups (colons bits).toList = some (hextets bits) := by
  have small := hextets_small bits
  have eight : (hextets bits).length = 8 := rfl
  rw [colons_toList]
  by_cases short : (longestZeroRun (hextets bits)).2 ≤ 1
  · have single : cutDouble (groupsText (hextets bits) ++ []) = none :=
      cutDouble_groupsText small []
    rw [List.append_nil] at single
    rw [if_pos short]
    unfold parseGroups
    rw [single]
    dsimp only
    rw [parseTail_groupsText small, Option.filter_some, if_pos (decide_eq_true eight)]
  · have zeros := longestZeroRun_zeros (hextets bits)
    rw [if_neg short]
    generalize longestZeroRun (hextets bits) = run at *
    have high : ∀ n ∈ (hextets bits).take run.1, n < 65536 := fun n member =>
      small n (List.mem_of_mem_take member)
    have low : ∀ n ∈ (hextets bits).drop (run.1 + run.2), n < 65536 := fun n member =>
      small n (List.mem_of_mem_drop member)
    have cut : cutDouble (groupsText ((hextets bits).take run.1) ++ ':' :: ':' ::
        groupsText ((hextets bits).drop (run.1 + run.2))) =
        some (groupsText ((hextets bits).take run.1),
          groupsText ((hextets bits).drop (run.1 + run.2))) := by
      rw [cutDouble_groupsText high, cutDouble, Option.map_some, List.append_nil]
    have lengths := congrArg List.length zeros
    rw [eight, List.length_append, List.length_append, List.length_replicate] at lengths
    have filled : 8 - (((hextets bits).take run.1).length +
        ((hextets bits).drop (run.1 + run.2)).length) = run.2 := by
      omega
    rw [parseGroups_double cut (parseHead_groupsText high) (parseTail_groupsText low) (by omega),
      filled, ← zeros]

/-- **A text with colons denotes its address.** -/
theorem parse6_colons (bits : BitVec 128) : parse6 (colons bits).toList = some bits := by
  unfold parse6
  rw [parseGroups_colons, Option.map_some, fromBase_hextets]

theorem colon_mem_colons (bits : BitVec 128) : ':' ∈ (colons bits).toList := by
  rw [colons_toList]
  by_cases short : (longestZeroRun (hextets bits)).2 ≤ 1
  · rw [if_pos short, hextets_eq]
    show ':' ∈ [':'].intercalate (Nat.toDigits 16 _ :: Nat.toDigits 16 _ :: List.map _ _)
    rw [intercalate_colon, List.flatMap_cons]
    exact List.mem_append_right _ List.mem_cons_self
  · rw [if_neg short]
    exact List.mem_append_right _ List.mem_cons_self

/-- The groups of a text that ends in an IPv4 address. -/
theorem parseTail_dotted {text last : List Char} {groups : List (List Char)} {high : List Nat}
    {low : BitVec 32} (nonempty : text ≠ []) (parts : text.splitOn ':' = groups ++ [last])
    (dots : '.' ∈ last) (first : groups.mapM parseHextet = some high)
    (second : parse4 last = some low) :
    parseTail text = some (high ++ [low.toNat / 65536, low.toNat % 65536]) := by
  have ending : (groups ++ [last]).getLast? = some last := List.getLast?_concat
  have others : (groups ++ [last]).dropLast = groups := List.dropLast_concat
  unfold parseTail
  rw [if_neg nonempty, parts]
  simp only [ending, others, dots, if_true, first, second]
  rfl

/-- The groups of an IPv4-mapped address. -/
theorem parseGroups_mapped (low : BitVec 32) :
    parseGroups ("::ffff:".toList ++ (dotted low).toList) =
      some ([0, 0, 0, 0, 0, 65535] ++ [low.toNat / 65536, low.toNat % 65536]) := by
  have cut : cutDouble ("::ffff:".toList ++ (dotted low).toList) =
      some ([], "ffff:".toList ++ (dotted low).toList) := rfl
  have nonempty : "ffff:".toList ++ (dotted low).toList ≠ [] := List.cons_ne_nil _ _
  have parts : ("ffff:".toList ++ (dotted low).toList).splitOn ':' =
      ["ffff".toList] ++ [(dotted low).toList] := by
    have bare : ':' ∉ "ffff".toList := by decide
    have first := @List.splitOn_append_cons_self_of_not_mem Char _ _ _ ':' bare (dotted low).toList
    rw [List.splitOn_eq_singleton (colon_not_mem_dotted low)] at first
    exact first
  have dots : '.' ∈ (dotted low).toList := by
    rw [dotted_toList]
    simp only [octets, digitsOf, List.map_cons, List.map_nil, List.intercalate_cons_cons]
    simp
  have group : ["ffff".toList].mapM parseHextet = some [65535] := by decide
  have second := parseTail_dotted nonempty parts dots group (parse4_dotted low)
  have empty : parseHead [] = some [] := rfl
  exact parseGroups_double cut empty second (by simp)

/-! ### The characters of a literal -/

/-- The characters that stand in literals. -/
def IsLiteral (text : List Char) : Prop := ∀ c ∈ text, c = '.' ∨ c = ':' ∨ digitValue c ≠ none

theorem isLiteral_of_hextets {parts : List (List Char)} {values : List Nat}
    (read : parts.mapM parseHextet = some values) : ∀ part ∈ parts, IsLiteral part := by
  intro part inside c found
  obtain ⟨group, here⟩ := read_of_mapM read part inside
  unfold parseHextet at here
  by_cases bad : part = [] ∨ 4 < part.length
  · rw [if_pos bad] at here
    cases here
  · rw [if_neg bad] at here
    exact Or.inr (Or.inr (digit_of_readDigits here c found))

/-- A text is a literal when its parts are. -/
theorem isLiteral_of_parts {text : List Char} (each : ∀ part ∈ text.splitOn ':', IsLiteral part) :
    IsLiteral text := by
  intro c member
  by_cases colon : c = ':'
  · exact Or.inr (Or.inl colon)
  · obtain ⟨part, inside, found⟩ := mem_splitOn colon member
    exact each part inside c found

theorem isLiteral_of_parseHead {text : List Char} {numbers : List Nat}
    (read : parseHead text = some numbers) : IsLiteral text := by
  unfold parseHead at read
  by_cases empty : text = []
  · rw [empty]
    exact fun _ absurd => by cases absurd
  · rw [if_neg empty] at read
    exact isLiteral_of_parts (isLiteral_of_hextets read)

theorem isLiteral_of_parseTail {text : List Char} {numbers : List Nat}
    (read : parseTail text = some numbers) : IsLiteral text := by
  unfold parseTail at read
  by_cases empty : text = []
  · rw [empty]
    exact fun _ absurd => by cases absurd
  rw [if_neg empty] at read
  cases ending : (text.splitOn ':').getLast? with
  | none => exact (List.splitOn_ne_nil _ _ (List.getLast?_eq_none_iff.mp ending)).elim
  | some last =>
    simp only [ending] at read
    by_cases dots : '.' ∈ last
    · rw [if_pos dots] at read
      obtain ⟨groups, first, read⟩ := Option.bind_eq_some_iff.mp read
      obtain ⟨low, second, _⟩ := Option.bind_eq_some_iff.mp read
      refine isLiteral_of_parts fun part inside => ?_
      rw [← List.dropLast_append_getLast? last ending] at inside
      rcases List.mem_append.mp inside with early | final
      · exact isLiteral_of_hextets first part early
      · obtain rfl := List.mem_singleton.mp final
        intro c found
        rcases digit_or_dot_of_parse4 second c found with dot | digit
        · exact Or.inl dot
        · exact Or.inr (Or.inr digit)
    · rw [if_neg dots] at read
      exact isLiteral_of_parts (isLiteral_of_hextets read)

theorem cutDouble_eq_some {text before after : List Char}
    (cut : cutDouble text = some (before, after)) : text = before ++ ':' :: ':' :: after := by
  fun_induction cutDouble text generalizing before with
  | case1 rest =>
    cases cut
    rfl
  | case2 c rest _ ih =>
    obtain ⟨later, found, same⟩ := Option.map_eq_some_iff.mp cut
    cases same
    exact congrArg (c :: ·) (ih found)
  | case3 => cases cut

theorem isLiteral_of_parse6 {text : List Char} (read : parse6 text = some bits) :
    IsLiteral text := by
  obtain ⟨numbers, groups, _⟩ := Option.map_eq_some_iff.mp read
  unfold parseGroups at groups
  cases cut : cutDouble text with
  | none =>
    rw [cut] at groups
    exact isLiteral_of_parseTail (Option.filter_eq_some_iff.mp groups).1
  | some found =>
    obtain ⟨before, after⟩ := found
    rw [cut] at groups
    obtain ⟨high, first, groups⟩ := Option.bind_eq_some_iff.mp groups
    obtain ⟨low, second, _⟩ := Option.bind_eq_some_iff.mp groups
    rw [cutDouble_eq_some cut]
    intro c member
    rcases List.mem_append.mp member with early | late
    · exact isLiteral_of_parseHead first c early
    · rcases List.mem_cons.mp late with colon | late
      · exact Or.inr (Or.inl colon)
      · rcases List.mem_cons.mp late with colon | late
        · exact Or.inr (Or.inl colon)
        · exact isLiteral_of_parseTail second c late

/-- **A literal has only digits, dots and colons.** -/
theorem isLiteral_of_parse {text : String} {ip : IpAddress} (read : parse text = some ip) :
    IsLiteral text.toList := by
  rcases Option.or_eq_some_iff.mp read with four | ⟨_, six⟩
  · obtain ⟨low, found, _⟩ := Option.map_eq_some_iff.mp four
    intro c member
    rcases digit_or_dot_of_parse4 found c member with dot | digit
    · exact Or.inl dot
    · exact Or.inr (Or.inr digit)
  · obtain ⟨wide, found, _⟩ := Option.map_eq_some_iff.mp six
    exact isLiteral_of_parse6 found

/-- **The text `str(ip)` denotes the address `ip`.** -/
theorem parse_str (ip : IpAddress) : parse ip.str = some ip := by
  cases ip with
  | v4 bits =>
    unfold parse str
    rw [parse4_dotted]
    rfl
  | v6 bits =>
    have only (text : List Char) (colon : ':' ∈ text) (read : parse6 text = some bits) :
        ((parse4 text).map IpAddress.v4).or ((parse6 text).map .v6) = some (.v6 bits) := by
      cases four : parse4 text with
      | none => rw [read]; rfl
      | some other => exact (colon_not_mem_of_parse4 four colon).elim
    by_cases mapped : bits >>> 32 = 0xffff#128
    · have four : ipv4Mapped bits = some (bits.truncate 32) := if_pos mapped
      have text : str (.v6 bits) = colons (bits >>> 32) ++ ":" ++ dotted (bits.truncate 32) := by
        unfold str
        dsimp only
        rw [four]
      have prefixed : colons 0xffff#128 ++ ":" = "::ffff:" := by decide +kernel
      have read : parse6 ("::ffff:".toList ++ (dotted (bits.truncate 32)).toList) = some bits := by
        have high := congrArg BitVec.toNat mapped
        unfold parse6
        rw [parseGroups_mapped, Option.map_some]
        congr 1
        apply BitVec.eq_of_toNat_eq
        simp [fromBase] at *
        omega
      have colon : ':' ∈ "::ffff:".toList ++ (dotted (bits.truncate 32)).toList :=
        List.mem_cons_self
      unfold parse
      rw [text, mapped, prefixed, String.toList_append]
      exact only _ colon read
    · have plain : ipv4Mapped bits = none := if_neg mapped
      have text : str (.v6 bits) = colons bits := by
        unfold str
        dsimp only
        rw [plain]
      unfold parse
      rw [text]
      exact only _ (colon_mem_colons bits) (parse6_colons bits)

end Six

/-! ### Upper and lower case -/

section Case

theorem digitValue_lowerChar (c : Char) : digitValue (lowerChar c) = digitValue c := by
  by_cases kelvin : c = Char.ofNat 0x212A
  · rw [kelvin]
    decide
  by_cases upper : c.val ≥ 'A'.val ∧ c.val ≤ 'Z'.val
  · have small : c.toNat < 128 := by
      have high : c.val ≤ (90 : UInt32) := upper.2
      have : c.val.toNat ≤ 90 := high
      exact Nat.lt_of_le_of_lt this (by decide)
    have each : ∀ n : Fin 128, digitValue (lowerChar (Char.ofNat n)) = digitValue (Char.ofNat n) := by
      decide +kernel
    have here := each ⟨c.toNat, small⟩
    rw [Char.ofNat_toNat] at here
    exact here
  · rw [lowerChar_of_not_upper kelvin upper]

/-- A sign of punctuation stands where it stood. -/
theorem splitOn_lower {c : Char} (other : ¬ ('a' ≤ c ∧ c ≤ 'z')) (still : lowerChar c = c)
    (text : List Char) :
    (text.map lowerChar).splitOn c = (text.splitOn c).map (List.map lowerChar) :=
  splitOn_map (fun _ => lowerChar_eq_iff other still) text

theorem parseOctet_lower (digits : List Char) :
    parseOctet (digits.map lowerChar) = parseOctet digits := by
  have zero : (digits.map lowerChar).head? = some '0' ↔ digits.head? = some '0' := by
    cases digits with
    | nil => exact Iff.rfl
    | cons c rest =>
      rw [List.map_cons, List.head?_cons, List.head?_cons, Option.some_inj, Option.some_inj]
      exact lowerChar_eq_iff (by decide) (by decide)
  unfold parseOctet
  simp only [List.map_eq_nil_iff, List.length_map, zero, readDigits_map digitValue_lowerChar]

theorem parse4_lower (text : List Char) : parse4 (text.map lowerChar) = parse4 text := by
  unfold parse4
  rw [splitOn_lower (by decide) (by decide), mapM_map_congr parseOctet_lower]

theorem parseHextet_lower (digits : List Char) :
    parseHextet (digits.map lowerChar) = parseHextet digits := by
  unfold parseHextet
  simp only [List.map_eq_nil_iff, List.length_map, readDigits_map digitValue_lowerChar]

theorem parseHead_lower (text : List Char) : parseHead (text.map lowerChar) = parseHead text := by
  unfold parseHead
  rw [splitOn_lower (by decide) (by decide), mapM_map_congr parseHextet_lower]
  simp only [List.map_eq_nil_iff]

theorem parseTail_lower (text : List Char) : parseTail (text.map lowerChar) = parseTail text := by
  have dots (part : List Char) : '.' ∈ part.map lowerChar ↔ '.' ∈ part := by
    rw [List.mem_map]
    refine ⟨fun found => ?_, fun found => ⟨'.', found, by decide⟩⟩
    obtain ⟨c, member, same⟩ := found
    exact (lowerChar_eq_iff (by decide) (by decide)).mp same ▸ member
  unfold parseTail
  rw [splitOn_lower (by decide) (by decide)]
  simp only [List.map_eq_nil_iff, List.getLast?_map, ← List.map_dropLast,
    mapM_map_congr parseHextet_lower]
  cases (text.splitOn ':').getLast? with
  | none => rfl
  | some last => simp only [Option.map_some, dots, parse4_lower]

theorem cutDouble_lower (text : List Char) :
    cutDouble (text.map lowerChar) =
      (cutDouble text).map fun cut => (cut.1.map lowerChar, cut.2.map lowerChar) := by
  have colon (c : Char) : lowerChar c = ':' ↔ c = ':' := lowerChar_eq_iff (by decide) (by decide)
  fun_induction cutDouble text with
  | case1 rest => rfl
  | case2 c rest other ih =>
    rw [List.map_cons, cutDouble, ih, Option.map_map, Option.map_map]
    · rfl
    · intro more first second
      cases rest with
      | nil => cases second
      | cons d rest =>
        rw [List.map_cons, List.cons.injEq] at second
        exact other rest ((colon c).mp first) (congrArg (· :: rest) ((colon d).mp second.1))
  | case3 => rfl

theorem parse6_lower (text : List Char) : parse6 (text.map lowerChar) = parse6 text := by
  unfold parse6 parseGroups
  rw [cutDouble_lower, parseTail_lower]
  cases cutDouble text with
  | none => rfl
  | some cut =>
    obtain ⟨before, after⟩ := cut
    simp only [Option.map_some, parseHead_lower, parseTail_lower]

/-- **The case of a literal does not matter.** -/
theorem parse_lower (text : String) : parse (lower text) = parse text := by
  unfold parse
  rw [toList_lower, parse4_lower, parse6_lower]

end Case

end Certinspect.IpAddress
