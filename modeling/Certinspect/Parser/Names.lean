/-
**Which names a certificate covers: `hostname_matches`, `missing_san_names`.**

An entry covers a host name when the two are equal up to case, or when the entry is `*.` and a rest
and the host name one label, a dot and that rest. The code splits the host name at its first dot
and compares the tails, without looking whether there is a dot.

* `Covers` — the rule, said of whole names.
* `nameMatches_iff` — what the code accepts: the rule, and a host name without a dot for the entry
  `*.` itself.
* `Dotted` — the host names on which the two agree.
* **`hostnameMatches_exact_iff`** — where the code is exact, for one host name and for a list of
  expected names.
-/

import Certinspect.Parser

namespace Certinspect.Parser

/-! ### The rule -/

/-- An entry covers a host name: it is that name, or a wildcard for one label in front of it. -/
def Covers (entry hostname : String) : Prop :=
  (startsWith entry "*." = false ∧ lower entry = lower hostname) ∨
    ∃ label rest, entry = "*." ++ rest ∧ label ≠ "" ∧ '.' ∉ label.toList ∧
      lower hostname = lower (label ++ "." ++ rest)

/-- A host name that the bare wildcard does not accept by mistake. -/
def Dotted (hostname : String) : Prop := hostname = "" ∨ '.' ∈ hostname.toList

instance (hostname : String) : Decidable (Dotted hostname) :=
  inferInstanceAs (Decidable (_ ∨ _))

section Texts

theorem startsWith_wildcard {text : String} :
    startsWith text "*." = true ↔ ∃ rest, text = "*." ++ rest := by
  unfold startsWith
  rw [List.isPrefixOf_iff_prefix]
  refine ⟨fun ⟨rest, same⟩ => ⟨String.ofList rest, ?_⟩, fun ⟨rest, same⟩ => ⟨rest.toList, ?_⟩⟩
  · rw [← String.toList_inj, String.toList_append, @String.toList_ofList rest]
    exact same.symm
  · rw [same, String.toList_append]

/-- Lower case keeps the star and the dot in front, and brings none there. -/
theorem startsWith_lower (text : String) : startsWith (lower text) "*." = startsWith text "*." := by
  have star {c : Char} : lowerChar c = '*' ↔ c = '*' := lowerChar_eq_iff (by decide) (by decide)
  have dot {c : Char} : lowerChar c = '.' ↔ c = '.' := lowerChar_eq_iff (by decide) (by decide)
  unfold startsWith
  rw [toList_lower]
  cases text.toList with
  | nil => rfl
  | cons first more =>
    cases more with
    | nil => simp [List.isPrefixOf]
    | cons second rest =>
      have same (c d : Char) (only : ∀ {c}, lowerChar c = d ↔ c = d) :
          (d == lowerChar c) = (d == c) := by
        rw [Bool.eq_iff_iff, beq_iff_eq, beq_iff_eq, eq_comm, only, eq_comm]
      show ('*' == lowerChar first && ('.' == lowerChar second && true)) =
        ('*' == first && ('.' == second && true))
      rw [same first '*' star, same second '.' dot]

/-- A label, a dot and a rest in lower case, as characters. -/
theorem toList_lower_dotted (label rest : String) :
    (lower (label ++ "." ++ rest)).toList =
      label.toList.map lowerChar ++ '.' :: rest.toList.map lowerChar := by
  rw [toList_lower, String.toList_append, String.toList_append, List.map_append, List.map_append,
    List.append_assoc]
  rfl

theorem wildcard_inj {first second : String} : "*." ++ first = "*." ++ second ↔ first = second := by
  rw [← String.toList_inj, String.toList_append, String.toList_append, List.append_cancel_left_eq,
    String.toList_inj]

theorem dot_mem_lower {text : List Char} : '.' ∈ text.map lowerChar ↔ '.' ∈ text := by
  have dot {c : Char} : lowerChar c = '.' ↔ c = '.' := lowerChar_eq_iff (by decide) (by decide)
  rw [List.mem_map]
  refine ⟨fun ⟨c, member, same⟩ => dot.mp same ▸ member, fun member => ⟨'.', member, by decide⟩⟩

theorem dot_mem_of_lower {hostname label rest : String}
    (same : lower hostname = lower (label ++ "." ++ rest)) : '.' ∈ hostname.toList := by
  rw [← dot_mem_lower, ← toList_lower, same, toList_lower_dotted]
  exact List.mem_append_right _ List.mem_cons_self

end Texts

/-! ### What the code accepts -/

section Matching

variable {entry hostname : String}

theorem partition_split {c : Char} {label tail : List Char} (bare : c ∉ label) :
    partition c (String.ofList (label ++ c :: tail)) = (String.ofList label, String.ofList tail) := by
  have passes : ∀ d ∈ label, (d != c) = true := by
    intro d member
    exact bne_iff_ne.mpr fun same => bare (same ▸ member)
  unfold partition
  rw [String.toList_ofList, List.takeWhile_append_of_pos passes,
    List.dropWhile_append_of_pos passes, List.takeWhile_cons_of_neg (by simp),
    List.dropWhile_cons_of_neg (by simp), List.append_nil]
  rfl

theorem partition_absent {c : Char} {text : String} (absent : c ∉ text.toList) :
    partition c text = (text, "") := by
  have passes : ∀ d ∈ text.toList, (d != c) = true := by
    intro d member
    exact bne_iff_ne.mpr fun same => absent (same ▸ member)
  have whole := @List.takeWhile_append_of_pos _ (· != c) text.toList [] passes
  have nothing := @List.dropWhile_append_of_pos _ (· != c) text.toList [] passes
  rw [List.append_nil] at whole nothing
  unfold partition
  rw [whole, nothing, List.takeWhile_nil, List.append_nil, String.ofList_toList]
  rfl

/-- A text has one split at its first separator. -/
theorem split_unique {c : Char} {first second tail rest : List Char} (bare : c ∉ first)
    (single : c ∉ second) (same : first ++ c :: tail = second ++ c :: rest) :
    first = second ∧ tail = rest := by
  have parts : partition c (String.ofList (first ++ c :: tail)) =
      partition c (String.ofList (second ++ c :: rest)) := by
    rw [same]
  rw [partition_split bare, partition_split single, Prod.mk.injEq] at parts
  exact ⟨String.ofList_injective parts.1, String.ofList_injective parts.2⟩

/-- The wildcard test of the code, on an entry that is one. -/
theorem nameMatches_wildcard {rest : String} :
    nameMatches ("*." ++ rest) hostname = true ↔
      (partition '.' (lower hostname)).1 ≠ "" ∧
        (partition '.' (lower hostname)).2.toList = rest.toList.map lowerChar := by
  have wild : startsWith (lower ("*." ++ rest)) "*." = true := by
    rw [startsWith_lower]
    exact startsWith_wildcard.mpr ⟨rest, rfl⟩
  have tail : (lower ("*." ++ rest)).toList.drop 2 = rest.toList.map lowerChar := by
    rw [toList_lower, String.toList_append, List.map_append]
    rfl
  unfold nameMatches
  simp only [wild, if_true, tail, Bool.and_eq_true, bne_iff_ne, beq_iff_eq]

/-- On a host name with a dot the wildcard test is the wildcard clause of the rule. -/
theorem nameMatches_wildcard_dotted {rest : String} (dotted : '.' ∈ hostname.toList) :
    nameMatches ("*." ++ rest) hostname = true ↔
      ∃ label others, "*." ++ rest = "*." ++ others ∧ label ≠ "" ∧ '.' ∉ label.toList ∧
        lower hostname = lower (label ++ "." ++ others) := by
  obtain ⟨label, tail, split, bare⟩ := List.eq_append_cons_of_mem dotted
  have lowered : lower hostname =
      String.ofList (label.map lowerChar ++ '.' :: tail.map lowerChar) := by
    unfold lower
    rw [split, List.map_append, List.map_cons]
    rfl
  have bare' : '.' ∉ label.map lowerChar := fun inside => bare (dot_mem_lower.mp inside)
  rw [nameMatches_wildcard, lowered, partition_split bare', String.toList_ofList]
  refine ⟨?_, ?_⟩
  · intro both
    obtain ⟨nonempty, same⟩ := both
    refine ⟨String.ofList label, rest, rfl, ?_, by rwa [String.toList_ofList], ?_⟩
    · rintro absurd
      refine nonempty ?_
      rw [← String.toList_inj, String.toList_ofList] at absurd
      rw [absurd]
      rfl
    · rw [← String.toList_inj, toList_lower_dotted, String.toList_ofList, String.toList_ofList,
        same]
  · intro found
    obtain ⟨first, others, made, nonempty, dotless, same⟩ := found
    obtain rfl := wildcard_inj.mp made
    rw [← String.toList_inj, toList_lower_dotted, String.toList_ofList] at same
    have single : '.' ∉ first.toList.map lowerChar := fun inside =>
      dotless (dot_mem_lower.mp inside)
    obtain ⟨labels, tails⟩ := split_unique bare' single same
    refine ⟨?_, tails⟩
    intro absurd
    rw [← String.toList_inj, String.toList_ofList, labels] at absurd
    exact nonempty (String.toList_inj.mp (List.map_eq_nil_iff.mp absurd))

/-- Without a dot the split leaves an empty tail, which the bare wildcard asks for. -/
theorem nameMatches_wildcard_dotless {rest : String} (dotless : '.' ∉ hostname.toList) :
    nameMatches ("*." ++ rest) hostname = true ↔ hostname ≠ "" ∧ rest = "" := by
  have whole : '.' ∉ (lower hostname).toList := by
    rw [toList_lower]
    exact fun inside => dotless (dot_mem_lower.mp inside)
  have empty : lower hostname = "" ↔ hostname = "" := by
    rw [← String.toList_inj, toList_lower, ← String.toList_inj]
    exact List.map_eq_nil_iff
  have bare : "".toList = rest.toList.map lowerChar ↔ rest = "" := by
    rw [eq_comm, ← String.toList_inj]
    exact List.map_eq_nil_iff
  rw [nameMatches_wildcard, partition_absent whole, bare, Ne, empty]

/-- An entry that is no wildcard is compared as it is. -/
theorem nameMatches_plain (plain : ¬ startsWith entry "*." = true) :
    nameMatches entry hostname = true ↔ lower entry = lower hostname := by
  unfold nameMatches
  simp only [startsWith_lower, plain, if_false, Bool.false_eq_true, beq_iff_eq]

/-- **What the code accepts**: the names the entry covers, and by mistake the names without a dot for
the bare wildcard. -/
theorem nameMatches_iff :
    nameMatches entry hostname = true ↔
      Covers entry hostname ∨ (entry = "*." ∧ ¬ Dotted hostname) := by
  by_cases wild : startsWith entry "*." = true
  · obtain ⟨rest, rfl⟩ := startsWith_wildcard.mp wild
    have literal : ¬ (startsWith ("*." ++ rest) "*." = false ∧
        lower ("*." ++ rest) = lower hostname) := by
      intro literal
      rw [wild] at literal
      cases literal.1
    unfold Covers
    rw [or_iff_right literal]
    by_cases dotted : '.' ∈ hostname.toList
    · have agrees : ¬ ("*." ++ rest = "*." ∧ ¬ Dotted hostname) := fun both =>
        both.2 (Or.inr dotted)
      rw [or_iff_left agrees]
      exact nameMatches_wildcard_dotted dotted
    · have unlabelled : ¬ ∃ label others, "*." ++ rest = "*." ++ others ∧ label ≠ "" ∧
          '.' ∉ label.toList ∧ lower hostname = lower (label ++ "." ++ others) := by
        intro found
        obtain ⟨label, others, _, _, _, same⟩ := found
        exact dotted (dot_mem_of_lower same)
      have mistaken : ¬ Dotted hostname ↔ hostname ≠ "" := by
        unfold Dotted
        rw [or_iff_left dotted]
      have made : "*." ++ rest = "*." ↔ rest = "" := @wildcard_inj rest ""
      rw [or_iff_right unlabelled, nameMatches_wildcard_dotless dotted, mistaken, made, and_comm]
  · rw [nameMatches_plain wild]
    refine ⟨fun same => Or.inl (Or.inl ⟨Bool.eq_false_iff.mpr wild, same⟩), ?_⟩
    intro either
    rcases either with (⟨_, same⟩ | ⟨label, rest, made, _⟩) | ⟨made, _⟩
    · exact same
    · exact (wild (startsWith_wildcard.mpr ⟨rest, made⟩)).elim
    · exact (wild (startsWith_wildcard.mpr ⟨"", made⟩)).elim

/-- What an entry covers it does not cover by mistake. -/
theorem Covers.not_mistaken (covers : Covers entry hostname) :
    ¬ (entry = "*." ∧ ¬ Dotted hostname) := by
  intro both
  obtain ⟨rfl, dotless⟩ := both
  rcases covers with ⟨absurd, _⟩ | ⟨label, rest, _, _, _, same⟩
  · revert absurd
    decide
  · exact dotless (Or.inr (dot_mem_of_lower same))

instance : Decidable (Covers entry hostname) :=
  decidable_of_iff (nameMatches entry hostname = true ∧ ¬ (entry = "*." ∧ ¬ Dotted hostname))
    ⟨fun both => (nameMatches_iff.mp both.1).resolve_right both.2,
      fun covers => ⟨nameMatches_iff.mpr (Or.inl covers), covers.not_mistaken⟩⟩

/-- Some entry of the certificate covers the name. -/
def Covered (san : List String) (hostname : String) : Prop := ∃ entry ∈ san, Covers entry hostname

instance (san : List String) (hostname : String) : Decidable (Covered san hostname) :=
  inferInstanceAs (Decidable (∃ entry ∈ san, Covers entry hostname))

/-- The bare wildcard is not what decides on a name: there is none, the name has a dot, or an entry
spells it out. -/
def Decided (san : List String) (hostname : String) : Prop :=
  "*." ∉ san ∨ Dotted hostname ∨
    ∃ entry ∈ san, startsWith entry "*." = false ∧ lower entry = lower hostname

end Matching

/-! ### The certificate's names -/

section Certificate

variable {info : Analysis} {hostname : String}

theorem any_nameMatches_iff {san : List String} :
    (∃ entry ∈ san, nameMatches entry hostname = true) ↔
      Covered san hostname ∨ ("*." ∈ san ∧ ¬ Dotted hostname) := by
  refine ⟨?_, ?_⟩
  · intro found
    obtain ⟨entry, member, accepts⟩ := found
    rcases nameMatches_iff.mp accepts with covers | ⟨bare, dotless⟩
    · exact Or.inl ⟨entry, member, covers⟩
    · exact Or.inr ⟨bare ▸ member, dotless⟩
  · intro either
    rcases either with ⟨entry, member, covers⟩ | ⟨member, dotless⟩
    · exact ⟨entry, member, nameMatches_iff.mpr (Or.inl covers)⟩
    · exact ⟨"*.", member, nameMatches_iff.mpr (Or.inr ⟨rfl, dotless⟩)⟩

theorem hostnameMatches_iff :
    hostnameMatches info hostname = true ↔
      Covered info.san hostname ∨ ("*." ∈ info.san ∧ ¬ Dotted hostname) :=
  List.any_eq_true.trans any_nameMatches_iff

/-- Without a dot a name is only covered by an entry that spells it out. -/
theorem covered_of_dotless {san : List String} (dotless : ¬ Dotted hostname) :
    Covered san hostname ↔
      ∃ entry ∈ san, startsWith entry "*." = false ∧ lower entry = lower hostname := by
  refine ⟨?_, fun ⟨entry, member, spelled⟩ => ⟨entry, member, Or.inl spelled⟩⟩
  intro covered
  obtain ⟨entry, member, covers⟩ := covered
  rcases covers with spelled | ⟨label, rest, _, _, _, same⟩
  · exact ⟨entry, member, spelled⟩
  · exact (dotless (Or.inr (dot_mem_of_lower same))).elim

/-- Where the code is exact on one name. -/
theorem matches_exact_iff :
    (hostnameMatches info hostname = true ↔ Covered info.san hostname) ↔
      Decided info.san hostname := by
  rw [hostnameMatches_iff, or_iff_left_iff_imp]
  unfold Decided
  by_cases dotted : Dotted hostname
  · exact ⟨fun _ => Or.inr (Or.inl dotted), fun _ both => (both.2 dotted).elim⟩
  · rw [covered_of_dotless dotted]
    by_cases member : "*." ∈ info.san
    · refine ⟨fun spelled => Or.inr (Or.inr (spelled ⟨member, dotted⟩)), ?_⟩
      intro either _
      rcases either with absent | present | spelled
      · exact (absent member).elim
      · exact (dotted present).elim
      · exact spelled
    · exact ⟨fun _ => Or.inl member, fun _ both => (member both.1).elim⟩

/-- **Hostname matching accepts exactly the covered names, if and only if the bare wildcard does not
decide.** For a host name and for every expected name: the code answers by the rule, and returns in
order the expected names that no entry covers, exactly when for each of these names there is no entry
`*.`, or the name is empty or has a dot, or an entry spells it out. -/
theorem hostnameMatches_exact_iff (info : Analysis) (hostname : String) (expected : List String) :
    ((hostnameMatches info hostname = true ↔ Covered info.san hostname) ∧
      missingSanNames info expected = expected.filter fun name => ¬ Covered info.san name) ↔
    Decided info.san hostname ∧ ∀ name ∈ expected, Decided info.san name := by
  refine and_congr matches_exact_iff ?_
  have each (name : String) : (!hostnameMatches info name) = decide (¬ Covered info.san name) ↔
      Decided info.san name := by
    rw [← matches_exact_iff, Bool.eq_iff_iff, Bool.not_eq_true', ← Bool.not_eq_true,
      decide_eq_true_iff, not_iff_not]
  unfold missingSanNames
  refine ⟨?_, ?_⟩
  · intro same name member
    refine (each name).mp (Bool.eq_iff_iff.mpr ?_)
    have both := congrArg (name ∈ ·) same
    simp only [List.mem_filter, eq_iff_iff] at both
    exact (and_congr_right_iff.mp both) member
  · intro decided
    exact List.filter_congr fun name member => (each name).mpr (decided name member)

/-- An analysis without names. -/
def sampleAnalysis : Analysis where
  subject := "CN=sample"
  issuer := "CN=sample"
  notValidBefore := 0
  notValidAfter := 0
  serialNumber := 1
  signatureAlgorithm := "sha256WithRSAEncryption"
  daysToExpire := 0
  validityDays := 0
  keyType := "RSA"
  keySize := some 2048
  san := []
  fingerprintSha256 := ""
  isCa := false
  selfSigned := true
  keyUsage := []
  extendedKeyUsage := []
  sctCount := 0
  mustStaple := false
  weak := []

/-- A certificate with the bare wildcard. -/
def bareWildcard : Analysis := { sampleAnalysis with san := ["*."] }

/-- The bare wildcard accepts `localhost`. -/
theorem not_hostnameMatches_exact_localhost :
    ¬ (hostnameMatches bareWildcard "localhost" = true ↔ Covered bareWildcard.san "localhost") := by
  decide +kernel

end Certificate

end Certinspect.Parser
