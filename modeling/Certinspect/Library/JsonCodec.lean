/-
**Values and their JSON, in both directions.**

A codec writes values of a type as JSON and reads them back; the numbers that it writes are integers. A
record is an object, described key by key in the order in which the keys are written; a key may be
missing.

* `Codec` — the two directions, with the proof that reading undoes writing.
* `Codec.text`, `Codec.flag`, `Codec.integer`, `Codec.natural`, `Codec.list`, `Codec.nullable`.
* `Fields`, `Fields.key`, `Fields.optionalKey` — the keys of a record. `Fields.codec` — the record.
* `member_present` — every key of a record is found, or is found missing.
* `numeric_iff` — the numbers of a value are numbers when its integers are short enough.
* **`Codec.readText_write`** — a value is read back from the text of its JSON.
-/

import Certinspect.Library.JsonText

namespace Certinspect.Library

/-! ### Codecs -/

/-- Values of a type as JSON. -/
structure Codec (α : Type) where
  write : α → Json
  read : Json → Option α
  /-- The integers that are written of a value. -/
  integers : α → List Int
  read_write : ∀ value, read (write value) = some value
  literals_write : ∀ value, (write value).literals = (integers value).map toString

namespace Codec

variable {α β : Type}

/-- Strings. -/
def text : Codec String where
  write := .string
  read
    | .string value => some value
    | _ => none
  integers _ := []
  read_write _ := rfl
  literals_write _ := rfl

/-- Booleans. -/
def flag : Codec Bool where
  write := .boolean
  read
    | .boolean value => some value
    | _ => none
  integers _ := []
  read_write _ := rfl
  literals_write _ := rfl

/-- Integers. -/
def integer : Codec Int where
  write value := .number (toString value)
  read
    | .number literal => readInt literal.toList
    | _ => none
  integers value := [value]
  read_write value := readInt_repr 0 value
  literals_write _ := rfl

/-- Values that are written through another type. -/
def through (codec : Codec α) (into : β → α) (back : α → Option β)
    (comesBack : ∀ value, back (into value) = some value) : Codec β where
  write value := codec.write (into value)
  read json := (codec.read json).bind back
  integers value := codec.integers (into value)
  read_write value := by rw [codec.read_write, Option.bind_some, comesBack]
  literals_write value := codec.literals_write (into value)

/-- Natural numbers. -/
def natural : Codec Nat :=
  integer.through (fun value => (value : Int)) (fun value => some value.toNat) fun _ => rfl

theorem mapM_read (codec : Codec α) (values : List α) :
    (values.map codec.write).mapM codec.read = some values := by
  induction values with
  | nil => rfl
  | cons value rest ih =>
    rw [List.map_cons, List.mapM_cons, codec.read_write, ih]
    rfl

theorem elementsLiterals_write (codec : Codec α) (values : List α) :
    elementsLiterals (values.map codec.write) = (values.flatMap codec.integers).map toString := by
  induction values with
  | nil => rfl
  | cons value rest ih =>
    rw [List.map_cons, elementsLiterals, codec.literals_write, ih, List.flatMap_cons, List.map_append]

/-- Lists. -/
def list (codec : Codec α) : Codec (List α) where
  write values := .array (values.map codec.write)
  read
    | .array elements => elements.mapM codec.read
    | _ => none
  integers values := values.flatMap codec.integers
  read_write := mapM_read codec
  literals_write := elementsLiterals_write codec

/-- Values that may be missing, and are then `null`. -/
def nullable (codec : Codec α) (filled : ∀ value, codec.write value ≠ .null) : Codec (Option α) where
  write
    | none => .null
    | some value => codec.write value
  read
    | .null => some none
    | json => (codec.read json).map some
  integers
    | none => []
    | some value => codec.integers value
  read_write value := by
    cases value with
    | none => rfl
    | some value =>
      have read := codec.read_write value
      have present := filled value
      show (match codec.write value with
        | .null => some none
        | json => (codec.read json).map some) = some (some value)
      split
      · rename_i null
        exact absurd null present
      · rw [read]
        rfl
  literals_write value := by
    cases value with
    | none => rfl
    | some value => exact codec.literals_write value

end Codec

/-! ### Objects -/

/-- The members of a record; a key without a value is left out. -/
def present (members : List (String × Option Json)) : List (String × Json) :=
  members.filterMap fun member => member.2.map fun value => (member.1, value)

/-- The value of a key. -/
def Json.member (name : String) : Json → Option Json
  | .object members => members.lookup name
  | _ => none

section Members

variable {name : String} {value : Option Json} {members : List (String × Option Json)}

theorem present_append (first second : List (String × Option Json)) :
    present (first ++ second) = present first ++ present second := List.filterMap_append

theorem membersLiterals_append (first second : List (String × Json)) :
    membersLiterals (first ++ second) = membersLiterals first ++ membersLiterals second := by
  induction first with
  | nil => rfl
  | cons member rest ih =>
    obtain ⟨key, held⟩ := member
    rw [List.cons_append, membersLiterals, membersLiterals, ih, List.append_assoc]

theorem lookup_present_of_notMem (missing : name ∉ members.map Prod.fst) :
    (present members).lookup name = none := by
  rw [List.lookup_eq_none_iff]
  rintro ⟨other, held⟩ member
  obtain ⟨⟨first, found⟩, inside, same⟩ := List.mem_filterMap.mp member
  obtain ⟨_, _, pair⟩ := Option.map_eq_some_iff.mp same
  cases pair
  have different : name ≠ first := by
    rintro rfl
    exact missing (List.mem_map.mpr ⟨_, inside, rfl⟩)
  simpa using different

/-- **Every key of a record is found, or is found missing.** -/
theorem member_present (distinct : (members.map Prod.fst).Nodup) (inside : (name, value) ∈ members) :
    (Json.object (present members)).member name = value := by
  show (present members).lookup name = value
  induction members with
  | nil => cases inside
  | cons first rest ih =>
    obtain ⟨first, held⟩ := first
    obtain ⟨fresh, others⟩ := List.nodup_cons.mp distinct
    have split : present ((first, held) :: rest) =
        (held.map fun value => (first, value)).toList ++ present rest := by
      cases held <;> rfl
    rw [split, List.lookup_append]
    rcases List.mem_cons.mp inside with same | later
    · obtain ⟨sameName, sameHeld⟩ := Prod.mk.inj same
      rw [sameName, sameHeld, lookup_present_of_notMem fresh]
      cases held with
      | none => rfl
      | some value => simp
    · have different : name ≠ first := by
        rintro rfl
        exact fresh (List.mem_map.mpr ⟨_, later, rfl⟩)
      have nothing : ((held.map fun value => (first, value)).toList.lookup name) = none := by
        cases held with
        | none => rfl
        | some value => simp [different]
      rw [nothing, Option.none_or, ih others later]

end Members

/-! ### Records -/

/-- Keys of a record of one type, and what they make together. -/
structure Fields (ρ α : Type) where
  names : List String
  members : ρ → List (String × Option Json)
  /-- What the keys make of the record. -/
  value : ρ → α
  read : Json → Option α
  integers : ρ → List Int
  names_members : ∀ record, (members record).map Prod.fst = names
  read_members : ∀ record doc, (∀ member ∈ members record, doc.member member.1 = member.2) →
    read doc = some (value record)
  literals_members : ∀ record,
    membersLiterals (present (members record)) = (integers record).map toString

namespace Fields

variable {ρ α β : Type}

/-- No key yet. -/
def none (value : α) : Fields ρ α where
  names := []
  members _ := []
  value _ := value
  read _ := some value
  integers _ := []
  names_members _ := rfl
  read_members _ _ _ := rfl
  literals_members _ := rfl

/-- One more key, which may be missing. -/
def optionalKey (fields : Fields ρ (Option α → β)) (name : String) (codec : Codec α)
    (get : ρ → Option α) : Fields ρ β where
  names := fields.names ++ [name]
  members record := fields.members record ++ [(name, (get record).map codec.write)]
  value record := fields.value record (get record)
  read doc := do
    let make ← fields.read doc
    match doc.member name with
    | Option.none => pure (make Option.none)
    | some held => (codec.read held).map fun held => make (some held)
  integers record := fields.integers record ++ ((get record).map codec.integers).getD []
  names_members record := by rw [List.map_append, fields.names_members]; rfl
  read_members record doc held := by
    obtain ⟨before, last⟩ := List.forall_mem_append.mp held
    have here : doc.member name = (get record).map codec.write :=
      last _ (List.mem_singleton_self _)
    rw [fields.read_members record doc before, here]
    cases get record with
    | none => rfl
    | some value =>
      show (codec.read (codec.write value)).map _ = _
      rw [codec.read_write]
      rfl
  literals_members record := by
    rw [present_append, membersLiterals_append, fields.literals_members, List.map_append]
    cases get record with
    | none => rfl
    | some value =>
      have single : membersLiterals [(name, codec.write value)] =
          (codec.integers value).map toString := by
        rw [membersLiterals, codec.literals_write]
        exact List.append_nil _
      exact congrArg (List.append _) single

/-- One more key. -/
def key (fields : Fields ρ (α → β)) (name : String) (codec : Codec α) (get : ρ → α) :
    Fields ρ β where
  names := fields.names ++ [name]
  members record := fields.members record ++ [(name, some (codec.write (get record)))]
  value record := fields.value record (get record)
  read doc := do
    let make ← fields.read doc
    let held ← doc.member name
    let value ← codec.read held
    pure (make value)
  integers record := fields.integers record ++ codec.integers (get record)
  names_members record := by rw [List.map_append, fields.names_members]; rfl
  read_members record doc held := by
    obtain ⟨before, last⟩ := List.forall_mem_append.mp held
    have here : doc.member name = some (codec.write (get record)) :=
      last _ (List.mem_singleton_self _)
    rw [fields.read_members record doc before, here]
    show (codec.read (codec.write (get record))).bind _ = _
    rw [codec.read_write]
    rfl
  literals_members record := by
    have single : membersLiterals [(name, codec.write (get record))] =
        (codec.integers (get record)).map toString := by
      rw [membersLiterals, codec.literals_write]
      exact List.append_nil _
    rw [present_append, membersLiterals_append, fields.literals_members, List.map_append]
    exact congrArg (List.append _) single

/-- The record of keys that are all of it. -/
def codec (fields : Fields ρ ρ) (whole : ∀ record, fields.value record = record)
    (distinct : fields.names.Nodup) : Codec ρ where
  write record := .object (present (fields.members record))
  read := fields.read
  integers := fields.integers
  read_write record := by
    have names : ((fields.members record).map Prod.fst).Nodup := by
      rw [fields.names_members]
      exact distinct
    rw [fields.read_members record _ fun member inside => member_present names inside, whole]
  literals_write := fields.literals_members

end Fields

/-! ### Texts -/

namespace Codec

variable {α : Type} {maxDigits : Nat}

/-- The numbers of a value are numbers when its integers are short enough. -/
theorem numeric_iff (codec : Codec α) (some : 0 < maxDigits) (value : α) :
    (codec.write value).Numeric maxDigits ↔ ∀ n ∈ codec.integers value, n.natAbs < 10 ^ maxDigits := by
  unfold Json.Numeric
  rw [codec.literals_write, List.forall_mem_map]
  exact forall₂_congr fun n _ => isLiteral_int_iff some

/-- The value that a text writes. -/
def readText (codec : Codec α) (maxDigits : Nat) (text : List Char) : Option α :=
  (readJson maxDigits text).bind codec.read

/-- **A value is read back from the text of its JSON**, when its integers are short enough. -/
theorem readText_write (codec : Codec α) (some : 0 < maxDigits) {value : α}
    (few : ∀ n ∈ codec.integers value, n.natAbs < 10 ^ maxDigits) {blanks : List Char}
    (blank : ∀ c ∈ blanks, isJsonSpace c = true) :
    codec.readText maxDigits ((codec.write value).text 0 ++ blanks) = Option.some value := by
  rw [readText, readJson_text ((codec.numeric_iff some value).mpr few) 0 blank, Option.bind_some,
    codec.read_write]

end Codec

end Certinspect.Library
