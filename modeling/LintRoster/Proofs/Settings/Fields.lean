import LintRoster.Settings.Reading
import Mathlib.Data.List.Basic

/-!
# Records that are read field by field

A schema names the places of a record: under which name the value of each place is given, how it is
read, and how it is got from a record and set in it. `Schema.Serves` says that a field of a reader
does what the schema says of one place. Reading a table with such fields is an error if a value is
refused (`putEntries_of_refused`). Otherwise each place has the value that is given for it, and
keeps its own if none is given (`putEntries_filled`).
-/

namespace LintRoster

open Toml (Entries Item)

/-- The places of a record, with values of a type for each. What is set in a place is got from
there, and not from any other. -/
structure Schema (α ι : Type) (γ : ι → Type) where
  name : ι → String
  read? : (k : ι) → Item → Option (γ k)
  get : (k : ι) → α → γ k
  set : (k : ι) → α → γ k → α
  get_set_self (k : ι) (a : α) (v : γ k) : get k (set k a v) = v
  get_set_of_ne {k other : ι} (a : α) (v : γ k) : other ≠ k → get other (set k a v) = get other a

namespace Schema

variable {α ι : Type} {γ : ι → Type} {β : Type} (s : Schema α ι γ)

/-- The field reads values of a place under its name, sets what it reads, and refuses the rest. -/
structure Serves (field : Field α) (k : ι) : Prop where
  name_eq : field.name = s.name k
  put_of_read (item : Item) (v : γ k) (a : α) :
    s.read? k item = some v → field.put item a = .ok (s.set k a v)
  put_of_refused (item : Item) (a : α) :
    s.read? k item = none → ∃ fault, field.put item a = .error fault

/-- A field that reads values of a place under its name serves this place. -/
theorem serves_of (k : ι) : s.Serves (.of (s.name k) (s.read? k) (s.set k)) k where
  name_eq := rfl
  put_of_read item v a hread := by simp only [Field.of, hread]
  put_of_refused item a hread := ⟨.unexpectedValue (s.name k), by simp only [Field.of, hread]⟩

/-- The record that a field with records as values reads. -/
def readRecord? (fields : List (Field β)) (start : β) (item : Item) : Option β :=
  match Field.record fields start item with
  | some (.ok b) => some b
  | _ => none

/-- A table is read as a record if its fields can be. -/
theorem readRecord?_table {fields : List (Field β)} {start b : β} {es : Entries}
    (h : Field.putEntries es fields start = .ok b) (origin : Toml.Origin) :
    readRecord? fields start (.table origin es) = some b := by
  simp only [readRecord?, Field.record, h]

/-- A table is refused as a record if one of its fields is an error. -/
theorem readRecord?_table_of_error {fields : List (Field β)} {start : β} {es : Entries}
    {fault : Toml.Fault} (h : Field.putEntries es fields start = .error fault)
    (origin : Toml.Origin) : readRecord? fields start (.table origin es) = none := by
  simp only [readRecord?, Field.record, h]

/-- A field that reads the records of a place under its name serves this place. -/
theorem serves_ofRecord {k : ι} {fields : List (Field (γ k))} {start : γ k}
    (hread : s.read? k = readRecord? fields start) :
    s.Serves (.ofRecord (s.name k) fields start (s.set k)) k where
  name_eq := rfl
  put_of_read item v a h := by
    rw [hread, readRecord?] at h
    split at h
    · next b hrecord =>
        cases h
        simp only [Field.ofRecord, hrecord]
    · cases h
  put_of_refused item a h := by
    rw [hread, readRecord?] at h
    simp only [Field.ofRecord]
    cases hrecord : Field.record fields start item with
    | none => exact ⟨_, rfl⟩
    | some result =>
        cases result with
        | error fault => exact ⟨fault, rfl⟩
        | ok b =>
            rw [hrecord] at h
            cases h

/-- A record before and after the entries were read: some places have the values that are given for
them, and what is not given for any of them is as before. -/
structure Filled (es : Entries) (places : List ι) (a b : α) : Prop where
  given (k : ι) (item : Item) :
    k ∈ places → es.get? (s.name k) = some item → s.read? k item = some (s.get k b)
  kept (k : ι) : (k ∈ places → es.get? (s.name k) = none) → s.get k b = s.get k a

variable {s} {es : Entries} {places : List ι} {k : ι} {a b : α}

/-- A place for which nothing is given keeps its value with the others. -/
theorem Filled.cons_of_missing (hmissing : es.get? (s.name k) = none)
    (h : s.Filled es places a b) : s.Filled es (k :: places) a b where
  given other item hother hitem := by
    obtain rfl | hother := List.mem_cons.mp hother
    · rw [hmissing] at hitem
      cases hitem
    · exact h.given other item hother hitem
  kept other hother := h.kept other fun hmem ↦ hother (List.mem_cons_of_mem k hmem)

/-- A place that is set before others has the value that is set, because none of these is the same
place. -/
theorem Filled.cons_of_read {item : Item} {v : γ k} (hk : k ∉ places)
    (hitem : es.get? (s.name k) = some item) (hread : s.read? k item = some v)
    (h : s.Filled es places (s.set k a v) b) : s.Filled es (k :: places) a b where
  given other found hother hfound := by
    obtain rfl | hother := List.mem_cons.mp hother
    · obtain rfl : item = found := Option.some.inj (hitem.symm.trans hfound)
      rw [hread, h.kept other fun hmem ↦ absurd hmem hk, s.get_set_self]
    · exact h.given other found hother hfound
  kept other hother := by
    have hne : other ≠ k := by
      rintro rfl
      rw [hother List.mem_cons_self] at hitem
      cases hitem
    rw [h.kept other fun hmem ↦ hother (List.mem_cons_of_mem k hmem), s.get_set_of_ne a v hne]

/-- A place for which a value is given has this value. -/
theorem Filled.get_eq {item : Item} {v : γ k} (h : s.Filled es places a b) (hk : k ∈ places)
    (hitem : es.get? (s.name k) = some item) (hread : s.read? k item = some v) : s.get k b = v :=
  Option.some.inj ((h.given k item hk hitem).symm.trans hread)

/-- Reading a table fills a record if each value that is given for one of its places can be read. -/
theorem putEntries_filled {fields : List (Field α)} (hserves : List.Forall₂ s.Serves fields places)
    (hnodup : places.Nodup) : ∀ a,
    (∀ k ∈ places, ∀ item, es.get? (s.name k) = some item → ∃ v, s.read? k item = some v) →
      ∃ b, Field.putEntries es fields a = .ok b ∧ s.Filled es places a b := by
  induction hserves with
  | nil => exact fun a _ ↦ ⟨a, rfl, fun _ _ hmem ↦ absurd hmem List.not_mem_nil, fun _ _ ↦ rfl⟩
  | @cons field k fields places hfield _ ih =>
      obtain ⟨hk, hrest⟩ := List.nodup_cons.mp hnodup
      intro a hread
      obtain ⟨hreadHere, hreadRest⟩ := List.forall_mem_cons.mp hread
      rw [Field.putEntries, hfield.name_eq]
      cases hitem : es.get? (s.name k) with
      | none =>
          obtain ⟨b, hput, hfilled⟩ := ih hrest a hreadRest
          exact ⟨b, hput, hfilled.cons_of_missing hitem⟩
      | some item =>
          obtain ⟨v, hv⟩ := hreadHere item hitem
          -- The other places are filled from the record in which this one is set.
          obtain ⟨b, hput, hfilled⟩ := ih hrest (s.set k a v) hreadRest
          refine ⟨b, ?_, hfilled.cons_of_read hk hitem hv⟩
          simp only [hfield.put_of_read item v a hv, hput]

/-- Reading a table is an error if a value for one of the places of a record is refused. -/
theorem putEntries_of_refused {fields : List (Field α)} {item : Item}
    (hserves : List.Forall₂ s.Serves fields places) (hk : k ∈ places)
    (hitem : es.get? (s.name k) = some item) (hrefused : s.read? k item = none) :
    ∀ a, ∃ fault, Field.putEntries es fields a = .error fault := by
  induction hserves with
  | nil => exact absurd hk List.not_mem_nil
  | @cons field other fields places hfield _ ih =>
      intro a
      rw [Field.putEntries, hfield.name_eq]
      obtain rfl | hk := List.mem_cons.mp hk
      · obtain ⟨fault, hput⟩ := hfield.put_of_refused item a hrefused
        exact ⟨fault, by simp only [hitem, hput]⟩
      · -- What stands in front of the refused value is read or refused itself.
        split
        · exact ih hk a
        · split
          · exact ⟨_, rfl⟩
          · exact ih hk _

end Schema

namespace Field

variable {α β δ : Type}

/-- Reading a table leaves alone what each of its fields leaves alone. -/
theorem putEntries_keeps (part : α → δ) {es : Entries} {fields : List (Field α)}
    (hfields : ∀ field ∈ fields, ∀ item a b, field.put item a = .ok b → part b = part a) :
    ∀ {a b : α}, putEntries es fields a = .ok b → part b = part a := by
  induction fields with
  | nil =>
      rintro a b ⟨⟩
      rfl
  | cons field fields ih =>
      obtain ⟨hfield, hrest⟩ := List.forall_mem_cons.mp hfields
      intro a b hput
      rw [putEntries] at hput
      split at hput
      · exact ih hrest hput
      · split at hput
        · cases hput
        · next c hc => rw [ih hrest hput, hfield _ a c hc]

/-- A field with records as values sets a record. -/
theorem exists_of_ofRecord_put {name : String} {fields : List (Field β)} {start : β}
    {set : α → β → α} {item : Item} {a b : α}
    (h : (ofRecord name fields start set).put item a = .ok b) : ∃ v, b = set a v := by
  simp only [ofRecord] at h
  split at h
  · cases h
  · cases h
  · cases h
    exact ⟨_, rfl⟩

end Field

end LintRoster
