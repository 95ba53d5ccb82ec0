/-
**`urllib.parse.urlsplit`, as far as the program reads it.**

The network location of a URL is what stands between `//` and the first `/`, `?` or `#`; its host is
what follows the last `@`, up to a port. Two things are arguments: `str.lower`, and a `UrlTables` with
the checks that need the tables of `unicodedata` and `ipaddress`.

* `netlocOf`, `hostText`, `portText` — the parts of a URL; `netlocHostname`, `netlocPort` — the
  attributes read from it.
* `HasAuthority` — the grammar: the text is `//authority` or `scheme://authority`, up to a delimiter.
* **`netlocOf_iff`** — the network location is the authority by the grammar.
-/

import Certinspect.Python
import Mathlib.Data.List.TakeWhile

namespace Certinspect

/-! ### Taking a URL apart -/

/-- What `urlsplit` takes from other modules of Python: `repr`, and the check of a network location
that looks at brackets and compatibility characters. -/
structure UrlTables where
  repr : String → String
  checkNetloc : String → Except PyErr Unit

/-- The characters that `urlsplit` drops at the start of a URL. -/
def isControlOrSpace (c : Char) : Bool := c.toNat ≤ 32

/-- The characters that `urlsplit` removes from a URL. -/
def isUnsafe (c : Char) : Bool := c == '\t' || c == '\r' || c == '\n'

/-- A URL as it is read. -/
def cleanUrl (url : List Char) : List Char :=
  (url.dropWhile isControlOrSpace).filter fun c => !isUnsafe c

/-- The characters of a scheme. -/
def isSchemeChar (c : Char) : Bool := c.isAlphanum || c == '+' || c == '-' || c == '.'

/-- Whether this text before a colon is a scheme. -/
def isScheme (text : List Char) : Bool := text.head?.any Char.isAlpha && text.all isSchemeChar

/-- A URL without its scheme. -/
def withoutScheme (url : List Char) : List Char :=
  if ':' ∈ url ∧ isScheme (url.takeWhile (· != ':')) = true then
    (url.dropWhile (· != ':')).drop 1
  else url

/-- Where a network location ends. -/
def isDelimiter (c : Char) : Bool := c == '/' || c == '?' || c == '#'

/-- The network location after a scheme. -/
def netlocAfter : List Char → List Char
  | '/' :: '/' :: rest => rest.takeWhile fun c => !isDelimiter c
  | _ => []

/-- The network location of a URL. -/
def netlocOf (url : String) : List Char := netlocAfter (withoutScheme (cleanUrl url.toList))

/-- What follows the last `sep`, or the whole text. -/
def afterLast (sep : Char) (text : List Char) : List Char :=
  (text.reverse.takeWhile (· != sep)).reverse

/-- What follows the first `sep`, or nothing. -/
def afterFirst (sep : Char) (text : List Char) : List Char := (text.dropWhile (· != sep)).drop 1

/-- The host of a network location, as it is written. -/
def hostText (netloc : List Char) : List Char :=
  let hostinfo := afterLast '@' netloc
  if '[' ∈ hostinfo then (afterFirst '[' hostinfo).takeWhile (· != ']')
  else hostinfo.takeWhile (· != ':')

/-- The port of a network location, as it is written. -/
def portText (netloc : List Char) : List Char :=
  let hostinfo := afterLast '@' netloc
  if '[' ∈ hostinfo then afterFirst ':' (afterFirst ']' (afterFirst '[' hostinfo))
  else afterFirst ':' hostinfo

section Attributes

variable (lowercase : String → String) (tables : UrlTables) (netloc : List Char)

/-- `.hostname`: in lower case, up to a zone. -/
def netlocHostname : Option String :=
  let host := hostText netloc
  if host = [] then none
  else some (lowercase (String.ofList (host.takeWhile (· != '%'))) ++
    String.ofList (host.dropWhile (· != '%')))

/-- `.port`. -/
def netlocPort : Except PyErr (Option Nat) :=
  let text := portText netloc
  if text = [] then .ok none
  else if text.all Char.isDigit then
    let number := text.foldl (fun n c => 10 * n + (c.toNat - '0'.toNat)) 0
    if number ≤ 65535 then .ok (some number)
    else .error ⟨.valueError, "Port out of range 0-65535"⟩
  else .error ⟨.valueError,
    s!"Port could not be cast to integer value as {tables.repr (String.ofList text)}"⟩

/-- The text before the last `@`, when there is one. -/
def userinfo : Option (List Char) :=
  if '@' ∈ netloc then some ((netloc.reverse.dropWhile (· != '@')).drop 1).reverse else none

/-- The checks that `urlsplit` makes. -/
def checkUrl : Except PyErr Unit :=
  if decide ('[' ∈ netloc) ≠ decide (']' ∈ netloc) then .error ⟨.valueError, "Invalid IPv6 URL"⟩
  else tables.checkNetloc (String.ofList netloc)

/-- The attributes of a URL with this network location. -/
def splitResult : SplitResult where
  hostname := netlocHostname lowercase netloc
  port := netlocPort tables netloc
  username := (userinfo netloc).map fun info => String.ofList (info.takeWhile (· != ':'))
  password := (userinfo netloc).bind fun info =>
    if ':' ∈ info then some (String.ofList (afterFirst ':' info)) else none

@[simp] theorem splitResult_hostname :
    (splitResult lowercase tables netloc).hostname = netlocHostname lowercase netloc := by
  rw [splitResult]

@[simp] theorem splitResult_port :
    (splitResult lowercase tables netloc).port = netlocPort tables netloc := by
  rw [splitResult]

/-- `urlsplit`. -/
def urlsplit (url : String) : Except PyErr SplitResult := do
  checkUrl tables (netlocOf url)
  pure (splitResult lowercase tables (netlocOf url))

theorem urlsplit_ok_iff {url : String} {parts : SplitResult} :
    urlsplit lowercase tables url = .ok parts ↔
      checkUrl tables (netlocOf url) = .ok () ∧
        splitResult lowercase tables (netlocOf url) = parts := by
  unfold urlsplit
  rw [Library.bind_ok_iff]
  exact ⟨fun ⟨_, checked, same⟩ => ⟨checked, Library.pure_ok_iff.mp same⟩,
    fun ⟨checked, same⟩ => ⟨(), checked, Library.pure_ok_iff.mpr same⟩⟩

end Attributes

/-! ### The grammar -/

/-- **The authority of a URL**: what stands after `//`, at the start or after a scheme and a colon,
up to the end or a delimiter. -/
def HasAuthority (url : String) (authority : List Char) : Prop :=
  ∃ start rest, cleanUrl url.toList = start ++ '/' :: '/' :: (authority ++ rest) ∧
    (start = [] ∨ ∃ scheme, start = scheme ++ [':'] ∧ isScheme scheme = true) ∧
    (∀ c ∈ authority, isDelimiter c = false) ∧ ∀ c ∈ rest.head?, isDelimiter c = true

section Grammar

variable {url : String} {authority text head tail : List Char} {sep : Char}

theorem afterLast_append (absent : sep ∉ tail) :
    afterLast sep (head ++ tail) = afterLast sep head ++ tail := by
  have kept : ∀ c ∈ tail.reverse, (c != sep) = true := by
    intro c member
    rw [bne_iff_ne]
    exact fun same => absent (same ▸ List.mem_reverse.mp member)
  unfold afterLast
  rw [List.reverse_append, List.takeWhile_append_of_pos kept, List.reverse_append,
    List.reverse_reverse]

theorem afterLast_subset {c : Char} (member : c ∈ afterLast sep text) : c ∈ text := by
  unfold afterLast at member
  exact List.mem_reverse.mp ((List.takeWhile_prefix _).subset (List.mem_reverse.mp member))

/-- A stretch of accepted characters is taken up to the first that is not. -/
theorem takeWhile_stretch {p : Char → Bool} {rest : List Char} (accepted : ∀ c ∈ text, p c = true)
    (ends : ∀ c ∈ rest.head?, p c = false) :
    (text ++ rest).takeWhile p = text ∧ (text ++ rest).dropWhile p = rest := by
  rw [List.takeWhile_append_of_pos accepted, List.dropWhile_append_of_pos accepted]
  cases rest with
  | nil => simp
  | cons c rest =>
    have stops : ¬ p c = true := by simp [ends c (by simp)]
    rw [List.takeWhile_cons_of_neg stops, List.dropWhile_cons_of_neg stops, List.append_nil]
    exact ⟨rfl, rfl⟩

/-- A scheme has no colon. -/
theorem noColon_of_isScheme (scheme : isScheme text = true) : ':' ∉ text := by
  intro member
  unfold isScheme at scheme
  rw [Bool.and_eq_true, List.all_eq_true] at scheme
  have absurd := scheme.2 ':' member
  revert absurd
  decide

theorem withoutScheme_slash : withoutScheme ('/' :: text) = '/' :: text := by
  unfold withoutScheme
  rw [if_neg]
  intro found
  have slash : isScheme (('/' :: text).takeWhile (· != ':')) = false := by
    rw [List.takeWhile_cons_of_pos (by decide)]
    rfl
  rw [slash] at found
  cases found.2

/-- A text is cut at its first separator. -/
theorem cut_at (absent : sep ∉ head) :
    (head ++ sep :: tail).takeWhile (· != sep) = head ∧
      (head ++ sep :: tail).dropWhile (· != sep) = sep :: tail := by
  refine takeWhile_stretch ?_ (by simp)
  intro c member
  rw [bne_iff_ne]
  exact fun same => absent (same ▸ member)

theorem withoutScheme_scheme (scheme : isScheme text = true) :
    withoutScheme (text ++ ':' :: tail) = tail := by
  obtain ⟨taken, dropped⟩ := cut_at (noColon_of_isScheme scheme)
  unfold withoutScheme
  rw [taken, dropped, if_pos ⟨by simp, scheme⟩]
  rfl

/-- What is left of a URL is its end, after a scheme and a colon or from the start. -/
theorem withoutScheme_split (text : List Char) :
    ∃ start, text = start ++ withoutScheme text ∧
      (start = [] ∨ ∃ scheme, start = scheme ++ [':'] ∧ isScheme scheme = true) := by
  by_cases colon : ':' ∈ text
  · obtain ⟨before, after, rfl, absent⟩ := List.eq_append_cons_of_mem colon
    by_cases scheme : isScheme before = true
    · exact ⟨before ++ [':'], by rw [withoutScheme_scheme scheme]; simp, Or.inr ⟨before, rfl, scheme⟩⟩
    · refine ⟨[], ?_, Or.inl rfl⟩
      unfold withoutScheme
      rw [(cut_at absent).1, if_neg fun found => scheme found.2]
      rfl
  · refine ⟨[], ?_, Or.inl rfl⟩
    unfold withoutScheme
    rw [if_neg fun found => colon found.1]
    rfl

/-- **The network location is the authority by the grammar.** -/
theorem netlocOf_iff (nonempty : authority ≠ []) :
    netlocOf url = authority ↔ HasAuthority url authority := by
  unfold netlocOf HasAuthority
  refine ⟨?_, ?_⟩
  · intro read
    obtain ⟨start, split, shape⟩ := withoutScheme_split (cleanUrl url.toList)
    unfold netlocAfter at read
    split at read
    · rename_i rest slashes
      refine ⟨start, rest.dropWhile fun c => !isDelimiter c, ?_, shape, ?_, ?_⟩
      · rw [split, slashes, ← read, List.takeWhile_append_dropWhile]
      · intro c member
        rw [← read] at member
        simpa using List.mem_takeWhile_imp member
      · intro c first
        have stops := List.head?_dropWhile_not (fun c => !isDelimiter c) rest
        rw [Option.mem_def.mp first] at stops
        simpa using stops
    · exact (nonempty read.symm).elim
  · intro grammar
    obtain ⟨start, rest, split, shape, inside, ends⟩ := grammar
    have left : withoutScheme (cleanUrl url.toList) = '/' :: '/' :: (authority ++ rest) := by
      rw [split]
      rcases shape with rfl | ⟨scheme, rfl, isScheme⟩
      · exact withoutScheme_slash
      · rw [List.append_assoc]
        exact withoutScheme_scheme isScheme
    rw [left]
    exact (takeWhile_stretch (fun c member => by simp [inside c member])
      fun c first => by simp [ends c first]).1

end Grammar

end Certinspect
