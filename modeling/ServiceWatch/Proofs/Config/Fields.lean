import Mathlib
import ServiceWatch.Config.Document
import ServiceWatch.Proofs.Toml.Standard

/-!
# What decides a configuration

A document is read entry by entry, and an entry matters if its key is one of three
(`Config.wanted?`). What is wrong with an entry can be told from it alone (`Config.fault?`), so that
a document is read as far as the first entry with a fault, and all of it if there is none
(`foldlM_takeEntry`). The keys of a document are distinct, so that each field comes from one entry
at most, wherever that stands (`described`). The reader is any that converts values to their own
types; what it says of another value is up to it.
-/

namespace ServiceWatch

open Toml

namespace Toml

variable {d d' : Document} {key : String} {v : Value}

/-- The first entry of a document is found under its key. -/
lemma Document.get?_cons (e : String × Value) (d : Document) (key : String) :
    get? (e :: d) key = if key = e.1 then some e.2 else get? d key := by
  rw [get?, List.lookup_cons]
  by_cases same : key = e.1
  · rw [if_pos same, beq_iff_eq.2 same]
  · rw [if_neg same, beq_eq_false_iff_ne.2 same]
    rfl

/-- Nothing is found under a key that no entry has. -/
lemma Document.get?_eq_none_iff : d.get? key = none ↔ key ∉ d.map Prod.fst := by
  induction d with
  | nil => exact ⟨fun _ => List.not_mem_nil, fun _ => rfl⟩
  | cons e d ih =>
    rw [get?_cons, List.map_cons, List.mem_cons]
    by_cases same : key = e.1 <;> simp [same, ih]

/-- Where keys are distinct, a value is found under a key if it stands there. -/
lemma Document.get?_eq_some_iff (distinct : (d.map Prod.fst).Nodup) :
    d.get? key = some v ↔ (key, v) ∈ d := by
  induction d with
  | nil => exact ⟨nofun, nofun⟩
  | cons e d ih =>
    obtain ⟨new, distinct⟩ := List.nodup_cons.1 distinct
    rw [get?_cons, List.mem_cons]
    split
    · next same =>
      subst same
      have absent : (e.1, v) ∉ d := fun mem => new (List.mem_map.2 ⟨_, mem, rfl⟩)
      simp [absent, Prod.ext_iff, eq_comm]
    · next other =>
      simp [ih distinct, Prod.ext_iff, other]

section Conversions

variable {ε : Type} {decoder : Decoder ε}

/-- An answer that is given exactly where something is found is what is found. -/
lemma toOption_eq_of_iff {α : Type} {answer : Except ε α} {found : Option α}
    (same : ∀ a, answer = .ok a ↔ found = some a) : answer.toOption = found := by
  refine Option.ext fun a => ?_
  rw [← same]
  cases answer <;> simp [Except.toOption]

/-- A value is converted to a text exactly if it is one. -/
lemma Decoder.Converts.toOption_text (converts : decoder.Converts) (v : Value) :
    (decoder.text v).toOption = v.text? :=
  toOption_eq_of_iff fun s => (converts.text v s).trans Value.text?_eq_some_iff.symm

/-- A value is converted to a truth exactly if it is one. -/
lemma Decoder.Converts.toOption_truth (converts : decoder.Converts) (v : Value) :
    (decoder.truth v).toOption = v.truth? :=
  toOption_eq_of_iff fun b => (converts.truth v b).trans Value.truth?_eq_some_iff.symm

/-- A value is converted to a count exactly if it is one. -/
lemma Decoder.Converts.toOption_count (converts : decoder.Converts) (v : Value) :
    (decoder.count v).toOption = v.count? :=
  toOption_eq_of_iff fun n => (converts.count v n).trans Value.count?_eq_some_iff.symm

/-- There is a reason exactly if there is no answer. -/
lemma refusal?_ne_none_iff {α : Type} {answer : Except ε α} :
    refusal? answer ≠ none ↔ answer.toOption = none := by
  cases answer <;> simp [refusal?, Except.toOption]

end Conversions

end Toml

namespace Config

variable {ε : Type} {decoder : Decoder ε} {c : Config} {d d' : Document} {e : String × Value}

/-- What is wanted under a key, if it is one of a configuration. -/
def wanted? (key : String) : Option Wanted :=
  if key = "name" then some .text
  else if key = "track_on_modified" then some .truth
  else if key = "max_tracked" then some .count
  else none

/-- The entries that are those of a configuration. -/
def own (d : Document) : Document := d.filter fun e => (wanted? e.1).isSome

/-- What is wrong with an entry of a document. -/
def fault? (decoder : Decoder ε) (e : String × Value) : Option ε :=
  (wanted? e.1).bind fun w => decoder.fault? w e.2

/-- The configuration with an entry put in its place; one of the wrong type leaves it as it is. -/
def put (c : Config) (e : String × Value) : Config :=
  if e.1 = "name" then { c with name := e.2.text?.getD c.name }
  else if e.1 = "track_on_modified" then
    { c with trackOnModified := e.2.truth?.getD c.trackOnModified }
  else if e.1 = "max_tracked" then { c with capacity := (e.2.count?.map some).getD c.capacity }
  else c

/-- The configuration whose fields are what stands under their keys, or else the standard ones. -/
def described (d : Document) : Config where
  name := ((d.get? "name").bind Value.text?).getD standard.name
  trackOnModified := ((d.get? "track_on_modified").bind Value.truth?).getD standard.trackOnModified
  capacity := ((d.get? "max_tracked").bind fun v => v.count?.map some).getD standard.capacity

section Entries

/-- An entry is taken in by putting its value in place, unless there is something wrong with it. -/
lemma takeEntry_eq (converts : decoder.Converts) (c : Config) (e : String × Value) :
    takeEntry decoder c e = match fault? decoder e with
      | some fault => .error fault
      | none => .ok (c.put e) := by
  rw [takeEntry, fault?, wanted?, put, ← converts.toOption_text, ← converts.toOption_truth,
    ← converts.toOption_count]
  split
  · rw [Option.bind_some, Decoder.fault?]
    cases decoder.text e.2 <;> rfl
  split
  · rw [Option.bind_some, Decoder.fault?]
    cases decoder.truth e.2 <;> rfl
  split
  · rw [Option.bind_some, Decoder.fault?]
    cases decoder.count e.2 <;> rfl
  · rfl

/-- A document is read as far as its first fault, and all of it if there is none. -/
theorem foldlM_takeEntry (converts : decoder.Converts) (c : Config) (d : Document) :
    d.foldlM (takeEntry decoder) c = match d.findSome? (fault? decoder) with
      | some fault => .error fault
      | none => .ok (d.foldl put c) := by
  induction d generalizing c with
  | nil => rfl
  | cons e d ih =>
    rw [List.foldlM_cons, takeEntry_eq converts, List.findSome?_cons]
    cases fault? decoder e with
    | some fault => rfl
    | none => exact ih (c.put e)

/-- What a document is read as comes from putting its entries in place one by one. -/
lemma eq_foldl_put (converts : decoder.Converts) {c' : Config}
    (taken : d.foldlM (takeEntry decoder) c = .ok c') : c' = d.foldl put c := by
  rw [foldlM_takeEntry converts] at taken
  cases faults : d.findSome? (fault? decoder) with
  | some fault =>
    rw [faults] at taken
    cases taken
  | none =>
    rw [faults] at taken
    exact (Except.ok.inj taken).symm

/-- A field that is set under one key only is what stands there. -/
lemma foldl_put_field {α : Type} (field : Config → α) (key : String) (read : Value → Option α)
    (set : ∀ c e, field (c.put e) = if e.1 = key then (read e.2).getD (field c) else field c)
    (distinct : (d.map Prod.fst).Nodup) (c : Config) :
    field (d.foldl put c) = ((d.get? key).bind read).getD (field c) := by
  induction d generalizing c with
  | nil => rfl
  | cons e d ih =>
    obtain ⟨new, distinct⟩ := List.nodup_cons.1 distinct
    rw [List.foldl_cons, ih distinct, Document.get?_cons, set]
    by_cases same : key = e.1
    · -- No later entry has the key, so what this one sets stays.
      subst same
      rw [Document.get?_eq_none_iff.2 new, if_pos rfl, if_pos rfl]
      rfl
    · rw [if_neg same, if_neg (Ne.symm same)]

/-- Where keys are distinct, the entries of a document in their order put each field in its place.
-/
lemma foldl_put (distinct : (d.map Prod.fst).Nodup) : d.foldl put standard = described d := by
  have name := foldl_put_field Config.name "name" Value.text?
    (fun c e => by rw [put]; split_ifs <;> rfl) distinct standard
  have upkeep := foldl_put_field Config.trackOnModified "track_on_modified" Value.truth?
    (fun c e => by rw [put]; split_ifs <;> simp_all) distinct standard
  have capacity := foldl_put_field Config.capacity "max_tracked" (fun v => v.count?.map some)
    (fun c e => by rw [put]; split_ifs <;> simp_all) distinct standard
  rw [described, ← name, ← upkeep, ← capacity]

end Entries

section Documents

/-- What a document with distinct keys is read as. -/
theorem ofDocument_eq (converts : decoder.Converts) (distinct : (d.map Prod.fst).Nodup) :
    ofDocument decoder d = match d.findSome? (fault? decoder) with
      | some fault => .error fault
      | none => .ok (described d) := by
  rw [ofDocument, foldlM_takeEntry converts, foldl_put distinct]

/-- A document is refused for the first fault in it. -/
lemma ofDocument_eq_error_iff (converts : decoder.Converts) (distinct : (d.map Prod.fst).Nodup)
    {fault : ε} :
    ofDocument decoder d = .error fault ↔ d.findSome? (fault? decoder) = some fault := by
  rw [ofDocument_eq converts distinct]
  cases d.findSome? (fault? decoder) <;> simp

/-- A document is refused if there is a fault anywhere in it. -/
lemma exists_error_iff (converts : decoder.Converts) (distinct : (d.map Prod.fst).Nodup) :
    (∃ fault, ofDocument decoder d = .error fault) ↔ ∃ e ∈ d, fault? decoder e ≠ none := by
  simp only [ofDocument_eq_error_iff converts distinct, ← Option.isSome_iff_exists]
  rw [List.findSome?_isSome_iff]
  simp only [Option.isSome_iff_ne_none]

/-- A document without a fault is read as what it describes. -/
lemma ofDocument_eq_ok_iff (converts : decoder.Converts) (distinct : (d.map Prod.fst).Nodup) :
    ofDocument decoder d = .ok c ↔ (∀ e ∈ d, fault? decoder e = none) ∧ c = described d := by
  rw [ofDocument_eq converts distinct, ← List.findSome?_eq_none_iff]
  cases d.findSome? (fault? decoder) <;> simp [eq_comm]

/-- An entry under any other key is passed over. -/
lemma takeEntry_of_unwanted (unwanted : wanted? e.1 = none) (c : Config) :
    takeEntry decoder c e = .ok c := by
  rw [wanted?] at unwanted
  rw [takeEntry]
  split_ifs at unwanted with name upkeep capacity
  rw [if_neg name, if_neg upkeep, if_neg capacity]

/-- Entries that are none of the configuration's are passed over. -/
lemma ofDocument_own (d : Document) : ofDocument decoder (own d) = ofDocument decoder d := by
  rw [ofDocument, ofDocument]
  generalize standard = c
  induction d generalizing c with
  | nil => rfl
  | cons e d ih =>
    rw [own, List.filter_cons]
    cases wanted : wanted? e.1 with
    | none =>
      rw [List.foldlM_cons, takeEntry_of_unwanted wanted]
      exact ih c
    | some w =>
      rw [Option.isSome_some, if_pos rfl, List.foldlM_cons, List.foldlM_cons]
      exact bind_congr fun c => ih c

/-- There is something wrong with an entry if its key is one of the three and its type is not. -/
lemma fault?_ne_none_iff (converts : decoder.Converts) : fault? decoder e ≠ none ↔
    (e.1 = "name" ∧ e.2.text? = none) ∨ (e.1 = "track_on_modified" ∧ e.2.truth? = none) ∨
      (e.1 = "max_tracked" ∧ e.2.count? = none) := by
  obtain ⟨key, v⟩ := e
  rw [fault?, wanted?, ← converts.toOption_text, ← converts.toOption_truth,
    ← converts.toOption_count]
  simp only [← refusal?_ne_none_iff]
  split_ifs with name upkeep capacity
  · subst name
    simp [Decoder.fault?]
  · subst upkeep
    simp [Decoder.fault?]
  · subst capacity
    simp [Decoder.fault?]
  · simp [name, upkeep, capacity]

/-- Documents with the same entries of a configuration have the same values under its keys. -/
lemma get?_eq_of_perm (distinct : (d.map Prod.fst).Nodup) (distinct' : (d'.map Prod.fst).Nodup)
    (perm : (own d).Perm (own d')) {key : String} (wanted : (wanted? key).isSome = true) :
    d.get? key = d'.get? key := by
  refine Option.ext fun v => ?_
  rw [Document.get?_eq_some_iff distinct, Document.get?_eq_some_iff distinct']
  have mem := perm.mem_iff (a := (key, v))
  simpa only [own, List.mem_filter, wanted, and_true] using mem

/-- Documents with the same entries of a configuration are read alike, in whatever order they have
them, if they can be read. -/
lemma ofDocument_of_perm (converts : decoder.Converts) (distinct : (d.map Prod.fst).Nodup)
    (distinct' : (d'.map Prod.fst).Nodup) (perm : (own d).Perm (own d'))
    (read : ofDocument decoder d = .ok c) : ofDocument decoder d' = .ok c := by
  obtain ⟨sound, rfl⟩ := (ofDocument_eq_ok_iff converts distinct).1 read
  -- Only an entry of the configuration can have a fault, and those are the same in both.
  refine (ofDocument_eq_ok_iff converts distinct').2 ⟨fun e mem => ?_, ?_⟩
  · cases wanted : wanted? e.1 with
    | none => rw [fault?, wanted, Option.bind_none]
    | some w =>
      have listed : e ∈ own d := perm.mem_iff.2 (List.mem_filter.2 ⟨mem, by rw [wanted]; rfl⟩)
      exact sound e (List.mem_filter.1 listed).1
  · have same {key} (wanted : (wanted? key).isSome = true) : d.get? key = d'.get? key :=
      get?_eq_of_perm distinct distinct' perm wanted
    rw [described, described, same rfl, same rfl, same rfl]

/-- What is wrong with a document is wrong with what stands under one of the three keys. -/
lemma exists_fault_iff (converts : decoder.Converts) (distinct : (d.map Prod.fst).Nodup) :
    (∃ e ∈ d, fault? decoder e ≠ none) ↔
      (∃ v, d.get? "name" = some v ∧ v.text? = none) ∨
      (∃ v, d.get? "track_on_modified" = some v ∧ v.truth? = none) ∨
      ∃ v, d.get? "max_tracked" = some v ∧ v.count? = none := by
  simp only [Document.get?_eq_some_iff distinct]
  constructor
  · rintro ⟨⟨key, v⟩, mem, faulty⟩
    obtain ⟨rfl, wrong⟩ | ⟨rfl, wrong⟩ | ⟨rfl, wrong⟩ := (fault?_ne_none_iff converts).1 faulty
    · exact .inl ⟨v, mem, wrong⟩
    · exact .inr (.inl ⟨v, mem, wrong⟩)
    · exact .inr (.inr ⟨v, mem, wrong⟩)
  · rintro (⟨v, mem, wrong⟩ | ⟨v, mem, wrong⟩ | ⟨v, mem, wrong⟩)
    · exact ⟨_, mem, (fault?_ne_none_iff converts).2 (.inl ⟨rfl, wrong⟩)⟩
    · exact ⟨_, mem, (fault?_ne_none_iff converts).2 (.inr (.inl ⟨rfl, wrong⟩))⟩
    · exact ⟨_, mem, (fault?_ne_none_iff converts).2 (.inr (.inr ⟨rfl, wrong⟩))⟩

/-- A text is read as its document is. -/
lemma decode_of_toml {toml : String → Document → Prop} (hands : decoder.HandsOver toml)
    {text : String} (valid : toml text d) : decode decoder text = ofDocument decoder d := by
  rw [decode, hands.entries valid]
  rfl

end Documents

/-- Three keys decide what a text is read as, by any reader that hands over the entries of valid
texts in their order and converts values to their own types. A valid text cannot be read exactly if
what stands under the name is no text, or what stands under the word on changes is no truth, or what
stands under the capacity is no count, and the fault is that of the first such entry in the
document. Otherwise each field is what stands under its key, or else the standard one. So texts with
the same entries under these keys come to the same, whatever else is in them; and if one of them can
be read, so can all that have these entries in another order, with the same result. -/
theorem read_by_fields {ε : Type} (decoder : Decoder ε) (toml : String → Document → Prop)
    (hands : decoder.HandsOver toml) (converts : decoder.Converts) :
    ∀ (text : String) (d : Document), toml text d →
      ((∃ fault, decode decoder text = .error fault) ↔
        (∃ v, d.get? "name" = some v ∧ v.text? = none) ∨
        (∃ v, d.get? "track_on_modified" = some v ∧ v.truth? = none) ∨
        ∃ v, d.get? "max_tracked" = some v ∧ v.count? = none) ∧
      (∀ fault, decode decoder text = .error fault ↔
        d.findSome? (fault? decoder) = some fault) ∧
      (∀ c, decode decoder text = .ok c → c = described d) ∧
      ∀ (text' : String) (d' : Document), toml text' d' →
        (own d = own d' → decode decoder text = decode decoder text') ∧
        ((own d).Perm (own d') →
          ∀ c, decode decoder text = .ok c → decode decoder text' = .ok c) := by
  intro text d valid
  have distinct := hands.distinct valid
  rw [decode_of_toml hands valid]
  refine ⟨?_, fun fault => ofDocument_eq_error_iff converts distinct, fun c read => ?_,
    fun text' d' valid' => ?_⟩
  · rw [exists_error_iff converts distinct]
    exact exists_fault_iff converts distinct
  · exact ((ofDocument_eq_ok_iff converts distinct).1 read).2
  · rw [decode_of_toml hands valid']
    refine ⟨fun same => ?_, fun perm c =>
      ofDocument_of_perm converts distinct (hands.distinct valid') perm⟩
    rw [← ofDocument_own d, same, ofDocument_own]

/-- For the reader that runs: of two wrong entries the first is reported, and entries in another
order, behind one that is passed over and before a table that repeats a key, are read alike. -/
theorem read_by_fields_misplaced :
    let toml (text : String) (d : Document) : Prop := Document.parse? text = some d
    let wrong := "max_tracked = false\nname = true\n"
    let text := "name = \"a\"\nmax_tracked = 4\n"
    let text' := "names = []\nmax_tracked = 4\nname = \"a\"\n[tracker]\nname = 1\n"
    Decoder.standard.HandsOver toml ∧ Decoder.standard.Converts ∧
      (∃ fault, read wrong = .error fault ∧
        fault.message = "invalid type: boolean `false`, expected usize") ∧
      ∃ d d', toml text d ∧ toml text' d' ∧ (own d).Perm (own d') ∧
        read text' = .ok ⟨"a", true, some 4⟩ := by
  intro toml wrong text text'
  have hands : Decoder.standard.HandsOver toml := Decoder.handsOver_standard
  have converts := Decoder.converts_standard
  have decided := read_by_fields Decoder.standard toml hands converts
  have faulty : toml wrong [("max_tracked", .boolean false), ("name", .boolean true)] := by
    show Document.parse? "max_tracked = false\nname = true\n" = _
    cbv
  let d : Document := [("name", .string "a"), ("max_tracked", .integer 4)]
  let d' : Document := [("names", .array []), ("max_tracked", .integer 4), ("name", .string "a"),
    ("tracker", .table [("name", .integer 1)])]
  have valid : toml text d := by
    show Document.parse? "name = \"a\"\nmax_tracked = 4\n" = _
    cbv
  have valid' : toml text' d' := by
    show Document.parse? "names = []\nmax_tracked = 4\nname = \"a\"\n[tracker]\nname = 1\n" = _
    cbv
  have perm : (own d).Perm (own d') := .swap _ _ _
  have found : decode .standard text = .ok ⟨"a", true, some 4⟩ := decode_of_toml hands valid
  obtain ⟨-, first, -⟩ := decided wrong _ faulty
  obtain ⟨-, -, -, alike⟩ := decided text d valid
  refine ⟨hands, converts, ⟨.mistyped (.boolean false) .count, (first _).2 rfl, rfl⟩, d, d', valid,
    valid', perm, ?_⟩
  exact (alike text' d' valid').2 perm _ found

end Config

end ServiceWatch
