/-
**Discovered names as targets — two readings of one text.**

`_extract_names` keeps a name when the end of its whole text is the domain; `_split_target` takes the
same text for a URL and connects to the host before the first `/`, `?` or `#`.

* `ReadsOutside` — read as a URL, the name is accepted and its host is outside the domain.
* `Suspicious` — the names for which the two readings can part: those with a delimiter or a bracket,
  and all of them when the domain itself has URL syntax in it.
* `underDomain_of_plain` — for any other name they agree.
* **`discoverHostnames_inside_iff`** — the targets stay inside the domain exactly when crt.sh serves no
  suspicious name that reads as a host outside.
-/

import Certinspect.Cli.Discovery
import Certinspect.Urlsplit

namespace Certinspect.Cli

open Library Discover

/-! ### The two readings -/

section Readings

variable (lowercase : String → String) (tables : UrlTables) (domain name : String)

/-- What is made of the characters of a text in lower case is in lower case. -/
def LowerStable : Prop :=
  ∀ text part : String, part.toList ⊆ (lowercase text).toList → lowercase part = part

/-- The URL that `_split_target` reads. -/
def targetSpec (raw : String) : String := if occursIn "://" raw then raw else "//" ++ raw

/-- Read as a URL, the name is accepted, with a host outside the domain. -/
def ReadsOutside : Prop :=
  ∃ authority host, HasAuthority (targetSpec name) authority ∧ checkUrl tables authority = .ok () ∧
    (∃ port, netlocPort tables authority = .ok port) ∧
    given (netlocHostname lowercase authority) = some host ∧ ¬ UnderDomain lowercase domain host

/-- The name has a delimiter or a bracket, or the domain has other URL syntax in it. -/
def Suspicious : Prop :=
  (∃ c ∈ name.toList, isDelimiter c = true ∨ c = '[') ∨
    ∃ c ∈ (bareDomain lowercase domain).toList, c = ':' ∨ c = '@' ∨ isUnsafe c = true

variable {lowercase tables domain name} {defaultPort targetPort : Int} {host : String}

/-- **What `_split_target` makes of a name.** -/
theorem splitTarget_urlsplit_iff :
    (∃ targetPort, splitTarget (urlsplit lowercase tables) name defaultPort = .ok (host, targetPort)) ↔
      checkUrl tables (netlocOf (targetSpec name)) = .ok () ∧
        (∃ port, netlocPort tables (netlocOf (targetSpec name)) = .ok port) ∧
        host = (given (netlocHostname lowercase (netlocOf (targetSpec name)))).getD name := by
  have reads : splitTarget (urlsplit lowercase tables) name defaultPort =
      (urlsplit lowercase tables (targetSpec name) >>= fun parts => parts.port >>= fun port =>
        pure ((given parts.hostname).getD name,
          ((port.filter (· != 0)).map Int.ofNat).getD defaultPort)) := rfl
  rw [reads]
  refine ⟨?_, ?_⟩
  · intro found
    obtain ⟨targetPort, split⟩ := found
    obtain ⟨parts, parsed, split⟩ := bind_ok_iff.mp split
    obtain ⟨checked, rfl⟩ := (urlsplit_ok_iff lowercase tables).mp parsed
    obtain ⟨port, read, same⟩ := bind_ok_iff.mp split
    rw [splitResult_port] at read
    rw [splitResult_hostname, pure_ok_iff] at same
    exact ⟨checked, ⟨port, read⟩, (Prod.mk.inj same).1.symm⟩
  · intro found
    obtain ⟨checked, ⟨port, read⟩, same⟩ := found
    refine ⟨((port.filter (· != 0)).map Int.ofNat).getD defaultPort, bind_ok_iff.mpr
      ⟨_, (urlsplit_ok_iff lowercase tables).mpr ⟨checked, rfl⟩, ?_⟩⟩
    rw [splitResult_port, splitResult_hostname, read, same]
    rfl

/-! ### Where they agree -/

/-- A text that is empty or ends with a dot. -/
def EndsLabel (text : List Char) : Prop := text = [] ∨ ∃ before, text = before ++ ['.']

/-- A name under the domain is the domain, after nothing or a dot. -/
theorem underDomain_split_iff :
    UnderDomain lowercase domain name ↔
      ∃ before, name.toList = before ++ (bareDomain lowercase domain).toList ∧ EndsLabel before := by
  unfold UnderDomain EndsLabel
  generalize bareDomain lowercase domain = bare
  refine ⟨?_, ?_⟩
  · intro under
    rcases under with rfl | ⟨before, split⟩
    · exact ⟨[], (List.nil_append _).symm, Or.inl rfl⟩
    · refine ⟨before ++ ['.'], ?_, Or.inr ⟨before, rfl⟩⟩
      rw [← split, List.append_assoc]
      rfl
  · intro found
    obtain ⟨_, split, rfl | ⟨before, rfl⟩⟩ := found
    · exact Or.inl (String.toList_inj.mp split)
    · refine Or.inr ⟨before, ?_⟩
      rw [split, List.append_assoc]
      rfl

/-- The host of a network location that ends with a domain without URL syntax: it ends with it too,
unless the port cannot be read. -/
theorem hostText_domain {before tail : List Char} (label : EndsLabel before) (noAt : '@' ∉ tail)
    (noColon : ':' ∉ tail) (noBracket : '[' ∉ before ++ tail)
    (read : ∃ port, netlocPort tables (before ++ tail) = .ok port) :
    ∃ start, hostText (before ++ tail) = start ++ tail ∧ EndsLabel start := by
  have labelAfter : EndsLabel (afterLast '@' before) := by
    rcases label with rfl | ⟨front, rfl⟩
    · exact Or.inl rfl
    · exact Or.inr ⟨afterLast '@' front, afterLast_append (by decide)⟩
  have plain : '[' ∉ afterLast '@' (before ++ tail) := fun member => noBracket (afterLast_subset member)
  obtain ⟨port, read⟩ := read
  unfold netlocPort portText at read
  unfold hostText
  simp only [if_neg plain] at read ⊢
  rw [afterLast_append noAt] at read ⊢
  generalize afterLast '@' before = start at read labelAfter ⊢
  by_cases colon : ':' ∈ start
  · -- A colon before the domain starts a port with a dot in it, which is no number.
    exfalso
    obtain ⟨host, rest, split, absent⟩ := List.eq_append_cons_of_mem colon
    have dot : '.' ∈ rest := by
      rcases labelAfter with rfl | ⟨front, rfl⟩
      · cases colon
      · have last : (front ++ ['.']).getLast? = (host ++ ':' :: rest).getLast? := by rw [split]
        rw [List.getLast?_append, List.getLast?_append] at last
        cases rest with
        | nil => simp at last
        | cons c rest =>
          have found : (c :: rest).getLast? = some '.' := by simpa using last.symm
          exact List.mem_of_getLast? found
    have text : afterFirst ':' (start ++ tail) = rest ++ tail := by
      unfold afterFirst
      rw [split, List.append_assoc, List.cons_append, (cut_at absent).2]
      rfl
    have inside : '.' ∈ rest ++ tail := List.mem_append_left _ dot
    have notNumber : ¬ (rest ++ tail).all Char.isDigit = true := by
      rw [List.all_eq_true]
      intro digits
      have absurd := digits '.' inside
      revert absurd
      decide
    rw [text, if_neg (List.ne_nil_of_mem inside), if_neg notNumber] at read
    cases read
  · refine ⟨start, ?_, labelAfter⟩
    have noneAtAll : ∀ c ∈ start ++ tail, (c != ':') = true := by
      intro c member
      rw [bne_iff_ne]
      intro same
      rcases List.mem_append.mp member with inStart | inTail
      · exact colon (same ▸ inStart)
      · exact noColon (same ▸ inTail)
    exact List.takeWhile_eq_self_iff.mpr noneAtAll

/-- A host is made of characters of its network location. -/
theorem hostText_subset (netloc : List Char) : hostText netloc ⊆ netloc := by
  intro c member
  unfold hostText at member
  dsimp only at member
  split at member
  · have inside := (List.takeWhile_prefix _).subset member
    have later := List.mem_of_mem_drop inside
    exact afterLast_subset ((List.dropWhile_suffix _).subset later)
  · exact afterLast_subset ((List.takeWhile_prefix _).subset member)

/-- In a text that is in lower case, the host is what is written. -/
theorem netlocHostname_lower (stable : LowerStable lowercase) {text : String} {netloc : List Char}
    (inside : netloc ⊆ (lowercase text).toList) :
    given (netlocHostname lowercase netloc) =
      if hostText netloc = [] then none else some (String.ofList (hostText netloc)) := by
  unfold netlocHostname
  dsimp only
  by_cases empty : hostText netloc = []
  · rw [if_pos empty, if_pos empty]
    rfl
  have written : lowercase (String.ofList ((hostText netloc).takeWhile (· != '%'))) =
      String.ofList ((hostText netloc).takeWhile (· != '%')) := by
    refine stable text _ fun c member => inside (hostText_subset netloc ?_)
    rw [String.toList_ofList] at member
    exact (List.takeWhile_prefix _).subset member
  rw [if_neg empty, if_neg empty, written, ← String.ofList_append, List.takeWhile_append_dropWhile]
  unfold given
  rw [Option.filter_some, if_pos]
  rw [bne_iff_ne]
  intro absurd
  exact empty (String.ofList_inj.mp absurd)

/-- A name without a delimiter is its network location, up to the characters that are removed. -/
theorem netlocOf_undelimited (whole : ∀ c ∈ name.toList, isDelimiter c = false) :
    netlocOf (targetSpec name) = name.toList.filter fun c => !isUnsafe c := by
  have noScheme : ¬ occursIn "://" name = true := by
    intro found
    have slash : '/' ∈ name.toList := (occursIn_iff.mp found).subset (by decide)
    have absurd := whole '/' slash
    revert absurd
    decide
  have read : cleanUrl (targetSpec name).toList =
      '/' :: '/' :: name.toList.filter fun c => !isUnsafe c := by
    unfold targetSpec cleanUrl
    rw [if_neg noScheme, String.toList_append]
    rfl
  unfold netlocOf
  rw [read, withoutScheme_slash]
  show List.takeWhile _ _ = _
  rw [List.takeWhile_eq_self_iff]
  intro c member
  rw [whole c (List.mem_filter.mp member).1]
  rfl

/-- **A name that is not suspicious has its host inside the domain.** -/
theorem underDomain_of_plain (stable : LowerStable lowercase) {text : String}
    (inside : name.toList ⊆ (lowercase text).toList) (under : UnderDomain lowercase domain name)
    (plain : ¬ Suspicious lowercase domain name)
    (split : splitTarget (urlsplit lowercase tables) name defaultPort = .ok (host, targetPort)) :
    UnderDomain lowercase domain host := by
  obtain ⟨noSyntax, plainDomain⟩ := not_or.mp plain
  have whole : ∀ c ∈ name.toList, isDelimiter c = false ∧ c ≠ '[' := by
    intro c member
    obtain ⟨noDelimiter, noBracket⟩ := not_or.mp fun found => noSyntax ⟨c, member, found⟩
    exact ⟨Bool.eq_false_iff.mpr noDelimiter, noBracket⟩
  have domainText : ∀ c ∈ (bareDomain lowercase domain).toList,
      c ≠ ':' ∧ c ≠ '@' ∧ isUnsafe c = false := by
    intro c member
    obtain ⟨noColon, rest⟩ := not_or.mp fun found => plainDomain ⟨c, member, found⟩
    obtain ⟨noAt, noUnsafe⟩ := not_or.mp rest
    exact ⟨noColon, noAt, Bool.eq_false_iff.mpr noUnsafe⟩
  obtain ⟨before, cut, label⟩ := underDomain_split_iff.mp under
  obtain ⟨_, read, same⟩ := splitTarget_urlsplit_iff.mp ⟨targetPort, split⟩
  rw [same]
  have domainKept : ((bareDomain lowercase domain).toList.filter fun c => !isUnsafe c) =
      (bareDomain lowercase domain).toList := by
    rw [List.filter_eq_self]
    intro c member
    rw [(domainText c member).2.2, Bool.not_false]
  have netloc : netlocOf (targetSpec name) =
      (before.filter fun c => !isUnsafe c) ++ (bareDomain lowercase domain).toList := by
    rw [netlocOf_undelimited fun c member => (whole c member).1, cut, List.filter_append, domainKept]
  have labelKept : EndsLabel (before.filter fun c => !isUnsafe c) := by
    rcases label with rfl | ⟨front, rfl⟩
    · exact Or.inl rfl
    · exact Or.inr ⟨front.filter fun c => !isUnsafe c, List.filter_append _ _⟩
  have nameChars : netlocOf (targetSpec name) ⊆ name.toList := by
    rw [netlocOf_undelimited fun c member => (whole c member).1]
    exact List.filter_sublist.subset
  have noBracket : '[' ∉ netlocOf (targetSpec name) :=
    fun member => (whole '[' (nameChars member)).2 rfl
  rw [netlocHostname_lower stable (List.Subset.trans nameChars inside)]
  rw [netloc] at read noBracket ⊢
  obtain ⟨start, hosts, startLabel⟩ := hostText_domain labelKept
    (fun member => (domainText '@' member).2.1 rfl) (fun member => (domainText ':' member).1 rfl)
    noBracket read
  rw [hosts]
  by_cases empty : start ++ (bareDomain lowercase domain).toList = []
  · rw [if_pos empty]
    exact under
  · rw [if_neg empty]
    exact underDomain_split_iff.mpr ⟨start, String.toList_ofList, startLabel⟩

/-- **The targets stay inside the domain exactly when no suspicious name reads as a host outside.** -/
theorem discoverHostnames_inside_iff {crtSh : CrtSh} {records : List CtRecord}
    (stable : LowerStable lowercase) (served : fetchRecords crtSh domain = .ok records) :
    (∀ names, discoverHostnames lowercase crtSh domain = .ok names → ∀ name ∈ names,
      ∀ defaultPort host targetPort,
        splitTarget (urlsplit lowercase tables) name defaultPort = .ok (host, targetPort) →
        UnderDomain lowercase domain host) ↔
    ∀ record ∈ records, ∀ name, IsNameOf lowercase record domain name → '*' ∉ name.toList →
      Suspicious lowercase domain name → ¬ ReadsOutside lowercase tables domain name := by
  obtain ⟨names, found, listed⟩ := @mem_discoverHostnames_iff lowercase _ _ _ served
  refine ⟨?_, ?_⟩
  · intro inside record member name isName concrete _ outside
    obtain ⟨authority, host, grammar, checked, read, reads, foreign⟩ := outside
    have nonempty : authority ≠ [] := by
      rintro rfl
      cases reads
    have netloc := (netlocOf_iff nonempty).mpr grammar
    obtain ⟨targetPort, split⟩ := (@splitTarget_urlsplit_iff lowercase tables name 443 host).mpr
      ⟨by rw [netloc]; exact checked, by rw [netloc]; exact read, by rw [netloc, reads]; rfl⟩
    exact foreign (inside names found name ((listed name).mpr ⟨record, member, isName, concrete⟩) 443
      host targetPort split)
  · intro free names' found' name member defaultPort host targetPort split
    rw [found] at found'
    cases found'
    obtain ⟨record, inRecords, isName, concrete⟩ := (listed name).mp member
    by_cases suspicious : Suspicious lowercase domain name
    · obtain ⟨checked, read, same⟩ := splitTarget_urlsplit_iff.mp ⟨targetPort, split⟩
      rw [same]
      cases reads : given (netlocHostname lowercase (netlocOf (targetSpec name))) with
      | none => exact isName.2.2
      | some host =>
        have nonempty : netlocOf (targetSpec name) ≠ [] := by
          intro empty
          rw [empty] at reads
          cases reads
        by_contra foreign
        exact free record inRecords name isName concrete suspicious
          ⟨_, host, (netlocOf_iff nonempty).mp rfl, checked, read, reads, foreign⟩
    · obtain ⟨_, ⟨line, _, rfl⟩, under⟩ := isName
      have lowered : (lineName lowercase line).toList ⊆ (lowercase (strip line)).toList := by
        unfold lineName rstripBy
        rw [String.toList_ofList]
        intro c inside
        exact List.mem_reverse.mp ((List.dropWhile_suffix _).subset (List.mem_reverse.mp inside))
      exact underDomain_of_plain stable lowered under suspicious split

end Readings

/-! ### A name with a path -/

section Path

theorem lower_stable : LowerStable lower := by
  intro text part inside
  have fixed : ∀ c ∈ part.toList, lowerChar c = c := by
    intro c member
    have made := inside member
    rw [toList_lower] at made
    obtain ⟨d, _, rfl⟩ := List.mem_map.mp made
    exact lowerChar_lowerChar d
  unfold lower
  rw [List.map_congr_left fixed, List.map_id', String.ofList_toList]

/-- Tables that refuse no network location. -/
def sampleTables : UrlTables := ⟨id, fun _ => .ok ()⟩

/-- A name whose text ends with the domain, and whose host does not. -/
def sampleForeign : CtRecord := { nameValue := some "evil.com/.example.com" }

/-- A name of the domain. -/
def sampleInside : CtRecord := { nameValue := some "www.example.com" }

theorem discoverHostnames_inside_iff_www :
    (∀ names, discoverHostnames lower (sampleCrtSh [sampleInside]) "example.com" = .ok names →
      ∀ name ∈ names, ∀ defaultPort host targetPort,
        splitTarget (urlsplit lower sampleTables) name defaultPort = .ok (host, targetPort) →
        UnderDomain lower "example.com" host) ↔
    ∀ record ∈ [sampleInside], ∀ name, IsNameOf lower record "example.com" name →
      '*' ∉ name.toList → Suspicious lower "example.com" name →
        ¬ ReadsOutside lower sampleTables "example.com" name :=
  discoverHostnames_inside_iff lower_stable rfl

/-- The name is listed under the domain, and its target is another host. -/
theorem discoverHostnames_inside_counterexample :
    ¬ ∀ names, discoverHostnames lower (sampleCrtSh [sampleForeign]) "example.com" = .ok names →
      ∀ name ∈ names, ∀ defaultPort host targetPort,
        splitTarget (urlsplit lower sampleTables) name defaultPort = .ok (host, targetPort) →
        UnderDomain lower "example.com" host := by
  intro inside
  have foreign := inside ["evil.com/.example.com"] (by rfl) _ List.mem_cons_self 443 "evil.com" 443
    (by rfl)
  revert foreign
  unfold UnderDomain
  decide

end Path

end Certinspect.Cli
