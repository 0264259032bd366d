import HdlLex.Proofs.Assignments
import HdlLex.Toml.Builtin
import Mathlib.Data.List.Nodup

/-!
# Builtin — the built-in library keeps the laws

The record in the table of a plain document is read from the document, and a
record with plain members is written as a document that describes all of them.

* `Toml.Record.assignments` — the lines that a record is written as.

Main results:

* `Toml.Kind.ofValue?_scalar` — data is read back from the value that stands
  for it.
* `Toml.Record.ofTable?_toTable` — the record in a table is read from it.
* `Toml.Kind.notates_text` — data is written in a notation of its value.
* `Toml.Record.describes_text` — a record is written as a plain document.
* `Toml.builtin_conforms` — the two laws.
-/

namespace HdlLex.Toml

-- ---------------------------------------------------------------------------
-- Reading
-- ---------------------------------------------------------------------------

/-- The table that a plain document describes is read from it. -/
theorem Describes.ofDocument?_eq {text : String} {table : List (String × Scalar)}
    (h : Describes text table) : Table.ofDocument? text.toList = some (toTable table) := by
  cases h with
  | ofLines closed hPlain hDistinct =>
    rw [String.toList_ofList]
    exact Table.ofDocument?_document closed hPlain hDistinct

theorem get?_toTable (table : List (String × Scalar)) (key : String) :
    Table.get? (toTable table) key = (table.lookup key).map Scalar.toValue := by
  induction table with
  | nil => rfl
  | cons entry table ih =>
    rw [Table.get?, toTable] at ih ⊢
    rw [List.map_cons, List.lookup_cons, List.lookup_cons, ih]
    cases key == entry.1 with
    | false => rfl
    | true => rfl

/-- Distinct alternatives are found under their names. -/
theorem finIdxOf?_get {names : List String} (h : names.Nodup) (index : Fin names.length) :
    names.finIdxOf? (names.get index) = some index := by
  refine List.finIdxOf?_eq_some_iff.2 ⟨rfl, fun other hBefore hSame => ?_⟩
  exact absurd ((List.Nodup.get_inj_iff h).1 hSame) (Fin.ne_of_lt hBefore)

/-- Data is read back from the value that stands for it. -/
theorem Kind.ofValue?_scalar {kind : Kind} (h : kind.isPlain = true) (data : kind.Data) :
    kind.ofValue? (kind.scalar data).toValue = some data := by
  cases kind with
  | truth => rfl
  | word =>
    have hSmall := UInt32.toNat_lt data
    have hPower : Int.pow 2 32 = 2 ^ 32 := by decide
    have hData : UInt32.ofNat (UInt32.toNat data) = data := UInt32.ofNat_toNat
    dsimp only [scalar, Scalar.toValue, ofValue?]
    rw [if_pos, Int.toNat_natCast, hData]
    simp only [Bool.and_eq_true, decide_eq_true_eq, hPower]
    omega
  | choice names =>
    rw [isPlain, Bool.and_eq_true, decide_eq_true_eq] at h
    exact finIdxOf?_get h.1 data

/-- The data of a member in a table is read from it. -/
theorem Member.ofTable?_toTable {member : Member} (h : member.isPlain = true)
    {table : List (String × Scalar)} {data : member.kind.Data} (hIn : member.IsIn table data) :
    member.ofTable? (toTable table) = some data := by
  rw [isPlain, Bool.and_eq_true] at h
  rw [ofTable?, get?_toTable]
  rw [IsIn] at hIn
  cases hLookup : table.lookup member.key with
  | none =>
    rw [hLookup] at hIn
    rw [Option.map_none, hIn]
  | some value =>
    rw [hLookup] at hIn
    dsimp only at hIn
    rw [Option.map_some, hIn]
    exact Kind.ofValue?_scalar h.2 data

/-- The record in a table is read from it. -/
theorem Record.ofTable?_toTable {members : List Member} (h : members.all Member.isPlain = true)
    {table : List (String × Scalar)} {record : Record members} (hIn : record.IsIn table) :
    Record.ofTable? (toTable table) members = some record := by
  induction members with
  | nil => rfl
  | cons member members ih =>
    obtain ⟨data, later⟩ := record
    obtain ⟨hData, hLater⟩ := hIn
    rw [List.all_cons, Bool.and_eq_true] at h
    rw [ofTable?, Member.ofTable?_toTable h.1 hData, ih h.2 hLater]
    rfl

-- ---------------------------------------------------------------------------
-- Writing
-- ---------------------------------------------------------------------------

/-- Data is written in a notation of its value. -/
theorem Kind.notates_text {kind : Kind} (h : kind.isPlain = true) (data : kind.Data) :
    Notates (kind.text data).toList (kind.scalar data) := by
  cases kind with
  | truth =>
    cases data with
    | false => exact Notates.ofFalse
    | true => exact Notates.ofTrue
  | word => exact notates_toString (Nat.lt_trans (UInt32.toNat_lt data) (by decide))
  | choice names =>
    rw [isPlain, Bool.and_eq_true, List.all_eq_true] at h
    exact notates_quoted (h.2 _ (names.get_mem data))

/-- The lines that a record is written as. -/
def Record.assignments : {members : List Member} → Record members → List Assignment
  | [], _ => []
  | member :: _, (data, later) =>
    ⟨member.key.toList, (member.kind.text data).toList, member.kind.scalar data⟩ ::
      later.assignments

namespace Record

variable {members : List Member} (record : Record members)

theorem map_pair_assignments : record.assignments.map Assignment.pair = record.table := by
  induction members with
  | nil => rfl
  | cons member members ih =>
    obtain ⟨data, later⟩ := record
    rw [assignments, table, List.map_cons, ih, Assignment.pair, String.ofList_toList]

theorem map_key_assignments :
    record.assignments.map Assignment.key = members.map fun member => member.key.toList := by
  induction members with
  | nil => rfl
  | cons member members ih =>
    obtain ⟨data, later⟩ := record
    rw [assignments, List.map_cons, List.map_cons, ih]

theorem isPlain_assignments (h : members.all Member.isPlain = true) :
    ∀ assignment ∈ record.assignments, assignment.IsPlain := by
  induction members with
  | nil => exact fun _ hMem => absurd hMem List.not_mem_nil
  | cons member members ih =>
    obtain ⟨data, later⟩ := record
    rw [List.all_cons, Bool.and_eq_true, Member.isPlain, Bool.and_eq_true, Bool.and_eq_true,
      bne_iff_ne] at h
    obtain ⟨⟨⟨hSome, hBare⟩, hKind⟩, hLater⟩ := h
    refine List.forall_mem_cons.2 ⟨⟨?_, hBare, Kind.notates_text hKind data⟩, ih later hLater⟩
    exact fun hEmpty => hSome (String.toList_eq_nil_iff.1 hEmpty)

theorem toList_text : record.text.toList = Assignment.document true record.assignments := by
  induction members with
  | nil => rfl
  | cons member members ih =>
    obtain ⟨data, later⟩ := record
    rw [text, assignments, Assignment.document_true_cons, ← ih, Assignment.line]
    simp only [String.toList_append, List.append_assoc]
    rfl

/-- A record with plain members is written as a plain document. -/
theorem describes_text (h : arePlain members = true) : Describes record.text record.table := by
  rw [arePlain, Bool.and_eq_true, decide_eq_true_eq] at h
  have hKeys : (record.assignments.map Assignment.key).Nodup := by
    have hLists : record.assignments.map Assignment.key =
        (members.map Member.key).map String.toList := by
      rw [map_key_assignments, List.map_map]
      rfl
    rw [hLists]
    exact List.Nodup.map (fun _ _ => String.toList_injective) h.2
  have hDescribes := Describes.ofLines true (record.isPlain_assignments h.1) hKeys
  rw [← toList_text, String.ofList_toList, map_pair_assignments] at hDescribes
  exact hDescribes

end Record

-- ---------------------------------------------------------------------------
-- The library
-- ---------------------------------------------------------------------------

/-- The built-in library keeps the laws. -/
theorem builtin_conforms : builtin.Conforms where
  read_described := by
    intro members text table record hPlain hDescribes hIn
    rw [arePlain, Bool.and_eq_true] at hPlain
    have hRecord : (Table.ofDocument? text.toList).bind (Record.ofTable? · members) =
        some record := by
      rw [hDescribes.ofDocument?_eq, Option.bind_some]
      exact Record.ofTable?_toTable hPlain.1 hIn
    rw [builtin]
    dsimp only
    rw [hRecord]
  write_describes := by
    intro members record hPlain
    exact ⟨record.text, if_pos hPlain, record.describes_text hPlain⟩

end HdlLex.Toml
