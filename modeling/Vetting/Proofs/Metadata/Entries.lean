import Mathlib
import Vetting.Metadata

/-!
# Vetting.Proofs.Metadata.Entries

What becomes of the entries of a catalog. An entry that cannot be decoded is told with its place and
leaves the others alone, unless its fault is one that is not looked out for: a number of extension
methods that is infinite ends the decoding, and with it go all entries before and behind it.

* `EntryTrouble.isLocal_eq`: the troubles of one entry are those whose faults are looked out for.
* `Catalog.decodeEntries_of_finite`, `Catalog.decodeEntries_of_infinite`: what entries give, without
  and with such a number.
* `MetadataModule.loadResult_ofPath_iff`: a catalog on disk gives the records of all entries that
  can be decoded, and one error for each other entry, exactly when no number is infinite.
-/

namespace Vetting

theorem bind_eq_error_iff {ε α β : Type} {first : Except ε α} {next : α → Except ε β} {e : ε} :
    first >>= next = .error e ↔ first = .error e ∨ ∃ a, first = .ok a ∧ next a = .error e := by
  cases first <;> simp [bind, Except.bind]

/-! ## The trouble that is not looked out for -/

/-- Whether the loading of a catalog looks out for a fault when it decodes an entry. -/
def Fault.isEntryFault (fault : Fault) : Bool :=
  fault.isA "KeyError" || fault.isA "TypeError" || fault.isA "ValueError" ||
    fault.isA "AttributeError"

theorem EntryTrouble.isLocal_eq (trouble : EntryTrouble) :
    trouble.isLocal = trouble.fault.isEntryFault := by
  cases trouble <;> rfl

theorem EntryTrouble.isLocal_of_ne {trouble : EntryTrouble} (h : trouble ≠ .infiniteCount) :
    trouble.isLocal = true := by
  cases trouble with
  | infiniteCount => exact absurd rfl h
  | _ => rfl

namespace TypeRecord

/-- An entry with a name and a namespace whose number of extension methods is infinite. -/
structure HasInfiniteCount (entry : Value) : Prop where
  name : ∃ name, decodeName entry = .ok name
  home : ∃ home, decodeHome entry = .ok home
  count : ∃ negative, entry.get? "extension_methods" = some (.float (.infinite negative))

theorem decodeName_ne_infiniteCount (entry : Value) :
    decodeName entry ≠ .error .infiniteCount := by
  fun_cases decodeName entry <;> simp_all

theorem decodeHome_ne_infiniteCount (entry : Value) :
    decodeHome entry ≠ .error .infiniteCount := by
  fun_cases decodeHome entry <;> simp_all

theorem decodeCount_eq_infiniteCount_iff {count : Value} :
    decodeCount count = .error .infiniteCount ↔
      ∃ negative, count = .float (.infinite negative) := by
  fun_cases decodeCount count <;> simp_all

theorem decodeObject_eq_infiniteCount_iff {entry : Value} :
    decodeObject entry = .error .infiniteCount ↔ HasInfiniteCount entry := by
  have hcount : decodeCount ((entry.get? "extension_methods").getD (.int 0)) =
      .error .infiniteCount ↔
        ∃ negative, entry.get? "extension_methods" = some (.float (.infinite negative)) := by
    rw [decodeCount_eq_infiniteCount_iff]
    cases entry.get? "extension_methods" <;> simp
  have hgive : ∀ record : TypeRecord,
      (pure record : Except EntryTrouble TypeRecord) ≠ .error .infiniteCount := nofun
  simp only [decodeObject, bind_eq_error_iff, decodeName_ne_infiniteCount,
    decodeHome_ne_infiniteCount, hcount, hgive, and_false, exists_false, false_or, or_false]
  constructor
  · rintro ⟨name, hname, home, hhome, h⟩
    exact ⟨⟨name, hname⟩, ⟨home, hhome⟩, h⟩
  · rintro ⟨⟨name, hname⟩, ⟨home, hhome⟩, h⟩
    exact ⟨name, hname, home, hhome, h⟩

theorem decode_eq_infiniteCount_iff {entry : Value} :
    decode entry = .error .infiniteCount ↔ HasInfiniteCount entry := by
  cases entry with
  | object fields => exact decodeObject_eq_infiniteCount_iff
  | _ => exact ⟨nofun, fun h => by obtain ⟨negative, h⟩ := h.count; cases h⟩

end TypeRecord

/-! ## Lists of entries -/

namespace Catalog

/-- The records of the entries that can be decoded, in order. -/
def accepted (entries : List Value) : List TypeRecord :=
  entries.filterMap fun entry => (TypeRecord.decode entry).toOption

/-- The trouble of an entry at a place, if it cannot be decoded. -/
def rejection? : Value × Nat → Option (Nat × EntryTrouble)
  | (entry, index) =>
    match TypeRecord.decode entry with
    | .ok _ => none
    | .error trouble => some (index, trouble)

/-- The places and the troubles of the entries that cannot be decoded, in order, where the first
entry is at place `index`. -/
def rejected (index : Nat) (entries : List Value) : List (Nat × EntryTrouble) :=
  (entries.zipIdx index).filterMap rejection?

theorem decodeEntries_of_finite {entries : List Value}
    (h : ∀ entry ∈ entries, ¬ TypeRecord.HasInfiniteCount entry) (index : Nat) :
    decodeEntries index entries = .ok ⟨accepted entries, rejected index entries⟩ := by
  induction entries generalizing index with
  | nil => rfl
  | cons entry rest ih =>
    have hrest := ih (fun e he => h e (List.mem_cons_of_mem _ he)) (index + 1)
    rw [decodeEntries, hrest]
    cases hentry : TypeRecord.decode entry with
    | ok record =>
      simp [accepted, rejected, rejection?, hentry, List.zipIdx_cons, Except.toOption, bind,
        Except.bind, pure, Except.pure]
    | error trouble =>
      have hne : trouble ≠ .infiniteCount := fun heq =>
        h entry List.mem_cons_self (TypeRecord.decode_eq_infiniteCount_iff.1 (heq ▸ hentry))
      simp [accepted, rejected, rejection?, hentry, EntryTrouble.isLocal_of_ne hne,
        List.zipIdx_cons, Except.toOption, bind, Except.bind, pure, Except.pure]

theorem decodeEntries_of_infinite {entries : List Value}
    (h : ∃ entry ∈ entries, TypeRecord.HasInfiniteCount entry) (index : Nat) :
    decodeEntries index entries = .error .infiniteCount := by
  induction entries generalizing index with
  | nil => simp at h
  | cons entry rest ih =>
    -- the entry itself ends the decoding, or one behind it does, whatever becomes of this one
    by_cases hinfinite : TypeRecord.HasInfiniteCount entry
    · rw [decodeEntries, TypeRecord.decode_eq_infiniteCount_iff.2 hinfinite]
      rfl
    · have hrest := ih (by simpa [hinfinite] using h) (index + 1)
      rw [decodeEntries, hrest]
      cases hentry : TypeRecord.decode entry with
      | ok record => rfl
      | error trouble =>
        have hne : trouble ≠ .infiniteCount := fun heq =>
          hinfinite (TypeRecord.decode_eq_infiniteCount_iff.1 (heq ▸ hentry))
        simp only [EntryTrouble.isLocal_of_ne hne, if_true]
        rfl

/-- The name that a catalog gives itself. -/
def ownName? (value : Value) : Option String :=
  match value.get? "module" with
  | some (.text name) => some name
  | _ => none

theorem ofValue?_eq {value : Value} {entries : List Value}
    (htypes : value.get? "types" = some (.list entries)) :
    ofValue? value = some ⟨ownName? value, entries⟩ := by
  simp only [ofValue?, htypes, ownName?]
  split <;> simp_all

end Catalog

/-- The tree with one file in UTF-8, where one stands. -/
def FileTree.alone (name text : String) : FileTree :=
  ⟨[], [([name], .file (Encoding.utf8Bytes text))]⟩

namespace MetadataModule

open Catalog

variable {tree : FileTree} {path : Path} {encoding title : String} {text : List Char}
  {value : Value} {entries : List Value}

/-- A catalog is loaded under the name that it gives itself, and else under its path. -/
theorem load_ofPath (htext : tree.readText path encoding = .ok text)
    (hjson : Json.read text = .ok value) (htypes : value.get? "types" = some (.list entries)) :
    (ofPath path encoding).load tree =
      (loadEntries ((ownName? value).getD path.text) entries,
        .catalog path encoding ((ownName? value).getD path.text)) := by
  simp only [ofPath, load, Catalog.read, htext, hjson, ofValue?_eq htypes]

/-- The errors of the entries that cannot be decoded, each with its place. -/
def entryErrors (title : String) (entries : List Value) : List String :=
  (rejected 0 entries).map fun (index, trouble) => entryError title index trouble

/-- The error of a catalog whose decoding ends at an infinite number. -/
def infiniteError (title : String) : String :=
  title ++ ": " ++ "cannot convert float infinity to integer"

theorem loadResult_of_finite (hload : (ofPath path encoding).load tree =
      (loadEntries title entries, .catalog path encoding title))
    (h : ∀ entry ∈ entries, ¬ TypeRecord.HasInfiniteCount entry) :
    (loadResult tree (ofPath path encoding)).result =
      .ok ⟨(accepted entries).map some, entryErrors title entries⟩ := by
  have hentries : loadEntries title entries =
      if (rejected 0 entries).isEmpty then .whole ((accepted entries).map some)
      else .partly title ((accepted entries).map some) (entryErrors title entries) := by
    rw [loadEntries, decodeEntries_of_finite h]
    rfl
  simp only [loadResult, hload, hentries, entryErrors]
  cases rejected 0 entries <;> rfl

theorem loadResult_of_infinite (hload : (ofPath path encoding).load tree =
      (loadEntries title entries, .catalog path encoding title))
    (h : ∃ entry ∈ entries, TypeRecord.HasInfiniteCount entry) :
    (loadResult tree (ofPath path encoding)).result = .ok ⟨[], [infiniteError title]⟩ := by
  have hentries : loadEntries title entries = .failed EntryTrouble.infiniteCount.fault := by
    rw [loadEntries, decodeEntries_of_infinite h]
  simp only [loadResult, hload, hentries]
  rfl

/-- The error of an entry goes on with its place where that of the whole catalog does not. -/
theorem infiniteError_ne_entryError (title : String) (index : Nat) (trouble : EntryTrouble) :
    entryError title index trouble ≠ infiniteError title := by
  intro h
  have hchars := congrArg String.toList h
  simp [entryError, infiniteError] at hchars

theorem entryErrors_ne (title : String) (entries : List Value) :
    entryErrors title entries ≠ [infiniteError title] := by
  intro h
  obtain ⟨rejection, -, hsame⟩ := List.map_eq_singleton_iff.1 h
  exact infiniteError_ne_entryError _ _ _ hsame

/-- Loading a catalog from disk gives the records of all entries that can be decoded, and one error
for each other entry, with its place, exactly when none of its numbers of extension methods is
infinite. -/
theorem loadResult_ofPath_iff (htext : tree.readText path encoding = .ok text)
    (hjson : Json.read text = .ok value) (htypes : value.get? "types" = some (.list entries)) :
    (loadResult tree (ofPath path encoding)).result =
        .ok ⟨(accepted entries).map some, entryErrors ((ownName? value).getD path.text) entries⟩ ↔
      ∀ entry ∈ entries, ¬ TypeRecord.HasInfiniteCount entry := by
  have hload := load_ofPath htext hjson htypes
  constructor
  · intro h entry hentry hinfinite
    rw [loadResult_of_infinite hload ⟨entry, hentry, hinfinite⟩] at h
    exact entryErrors_ne _ _ (congrArg LoadResult.errors (Except.ok.inj h)).symm
  · exact loadResult_of_finite hload

/-- A catalog whose first entry has no name. -/
def unnamedCatalog : String := "\x7b\"types\":[\x7b\x7d,\x7b\"name\":\"A\"\x7d]\x7d"

/-- A catalog whose second entry has infinitely many extension methods. -/
def infiniteCatalog : String :=
  "\x7b\"types\":[\x7b\"name\":\"A\"\x7d,\x7b\"name\":\"B\",\"extension_methods\":Infinity\x7d]\x7d"

theorem loadResult_ofPath_unnamed :
    ∃ (text : List Char) (value : Value) (entries : List Value),
      (FileTree.alone "t" unnamedCatalog).readText (Path.ofText "t") "utf-8" = .ok text ∧
      Json.read text = .ok value ∧ value.get? "types" = some (.list entries) ∧
      (∀ entry ∈ entries, ¬ TypeRecord.HasInfiniteCount entry) ∧
      (loadResult (FileTree.alone "t" unnamedCatalog) (ofPath (Path.ofText "t") "utf-8")).result =
        .ok ⟨[some { home := "", name := "A" }], ["t[0]: KeyError('name')"]⟩ := by
  have htext : (FileTree.alone "t" unnamedCatalog).readText (Path.ofText "t") "utf-8" =
      .ok unnamedCatalog.toList := by cbv
  have hjson : Json.read unnamedCatalog.toList =
      .ok (.object [("types", .list [.object [], .object [("name", .text "A")]])]) := by cbv
  have hfinite : ∀ entry ∈ [Value.object [], .object [("name", .text "A")]],
      ¬ TypeRecord.HasInfiniteCount entry := by
    intro entry hentry hinfinite
    obtain ⟨negative, hcount⟩ := hinfinite.count
    simp only [List.mem_cons, List.not_mem_nil, or_false] at hentry
    rcases hentry with rfl | rfl <;> cases hcount
  have haccepted : accepted [.object [], .object [("name", .text "A")]] =
      [{ home := "", name := "A" }] := by decide +kernel
  have herrors : entryErrors "t" [.object [], .object [("name", .text "A")]] =
      ["t[0]: KeyError('name')"] := by decide +kernel
  have hload := (loadResult_ofPath_iff htext hjson rfl).2 hfinite
  rw [haccepted] at hload
  exact ⟨_, _, _, htext, hjson, rfl, hfinite, hload.trans (by rw [← herrors]; rfl)⟩

theorem loadResult_ofPath_infinite :
    ¬ ∀ (tree : FileTree) (path : Path) (encoding : String) (text : List Char) (value : Value)
        (entries : List Value), tree.readText path encoding = .ok text →
      Json.read text = .ok value → value.get? "types" = some (.list entries) →
      (loadResult tree (ofPath path encoding)).result =
        .ok ⟨(accepted entries).map some,
          entryErrors ((ownName? value).getD path.text) entries⟩ := by
  intro hall
  have htext : (FileTree.alone "t" infiniteCatalog).readText (Path.ofText "t") "utf-8" =
      .ok infiniteCatalog.toList := by cbv
  have hjson : Json.read infiniteCatalog.toList =
      .ok (.object [("types", .list [.object [("name", .text "A")],
        .object [("name", .text "B"), ("extension_methods", .float (.infinite false))]])]) := by
    cbv
  have h := hall _ _ _ _ _ _ htext hjson rfl
  rw [loadResult_of_infinite (load_ofPath htext hjson rfl)
    ⟨_, .tail _ (.head _), ⟨"B", rfl⟩, ⟨"", rfl⟩, ⟨false, rfl⟩⟩] at h
  exact entryErrors_ne _ _ (congrArg LoadResult.errors (Except.ok.inj h)).symm

end MetadataModule

end Vetting
