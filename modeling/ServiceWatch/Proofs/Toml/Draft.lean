import Mathlib.Data.List.Nodup
import Mathlib.Tactic.Lemma
import ServiceWatch.Toml.Document

/-!
# What drafts keep

While a document is read, its top table changes in three ways only: something comes in under a new
key, a tree is put in place of another one, or a key is taken out. What is `Upheld` by these, as
long as the trees that come in are good, holds of the top table after any statements, so it holds of
the document (`Branch.Upheld.ofStatements`). Values come in by assignments; all else that comes in
at the top is tables and rows, whatever is in them.
-/

namespace ServiceWatch.Toml

variable {good : Tree → Prop} {P : Branch → Prop} {b b' : Branch} {v : Value}

/-- A property of tables that is kept by all that is done to the top table of a draft. -/
structure Branch.Upheld (good : Tree → Prop) (P : Branch → Prop) : Prop where
  table : ∀ origin b, good (.table origin b)
  rows : ∀ ts, good (.rows ts)
  nil : P []
  concat : ∀ {b key t}, P b → b.lookup key = none → good t → P (b ++ [(key, t)])
  replace : ∀ {b key t}, P b → good t → P (b.replace key t)
  drop : ∀ {b} key, P b → P (b.drop key)

/-- A value that is assigned is good. -/
def Statement.Good (good : Tree → Prop) : Statement → Prop
  | assign _ v => good (.value v)
  | _ => True

/-- The property holds of the table at the top. -/
structure Draft.Upholds (P : Branch → Prop) (d : Draft) : Prop where
  finished : P d.finished
  current : d.place = .top → P d.current

namespace Branch.Upheld

/-- What a change keeps up in every table, it keeps up at the end of a path. -/
lemma alter {α : Type} (upheld : Upheld good P) {made origin : Origin} {path : List String}
    {answer : α} {change : Origin → Branch → Option (α × Branch)}
    (kept : ∀ {origin b answer b'}, change origin b = some (answer, b') → P b → P b')
    (altered : Branch.alter made change path origin b = some (answer, b')) (holds : P b) :
    P b' := by
  cases path with
  | nil => exact kept altered holds
  | cons key path =>
    -- Only what stands at the first key changes, and a table stands there afterwards.
    unfold Branch.alter at altered
    split at altered
    · next new =>
      simp only [Option.bind_eq_bind, Option.bind_eq_some_iff, Option.some.injEq,
        Prod.mk.injEq] at altered
      obtain ⟨_, _, _, rfl⟩ := altered
      exact upheld.concat holds new (upheld.table _ _)
    · cases altered
    · split at altered
      · cases altered
      · simp only [Option.bind_eq_bind, Option.bind_eq_some_iff, Option.some.injEq,
          Prod.mk.injEq] at altered
        obtain ⟨_, _, _, rfl⟩ := altered
        exact upheld.replace holds (upheld.table _ _)
    · split at altered
      · simp only [Option.bind_eq_bind, Option.bind_eq_some_iff, Option.some.injEq,
          Prod.mk.injEq] at altered
        obtain ⟨_, _, _, rfl⟩ := altered
        exact upheld.replace holds (upheld.rows _)
      · cases altered

/-- An assignment to a table keeps the property up. -/
lemma assign (upheld : Upheld good P) {path : List String} (assigned : b.assign path v = some b')
    (holds : P b) (new : good (.value v)) : P b' := by
  unfold Branch.assign at assigned
  split at assigned
  · next key _ =>
    obtain ⟨⟨_, _⟩, altered, rfl⟩ := Option.map_eq_some_iff.1 assigned
    refine upheld.alter (fun {origin b answer b'} changed holds => ?_) altered holds
    split at changed
    · cases changed
    · split at changed
      · cases changed
      · next absent =>
        cases changed
        exact upheld.concat holds (Option.not_isSome_iff_eq_none.1 absent) new
  · cases assigned

variable {d d' : Draft}

/-- Putting the table at hand in its place keeps the property up. -/
lemma close (upheld : Upheld good P) (closed : d.close = some b) (holds : d.Upholds P) : P b := by
  unfold Draft.close at closed
  split at closed
  · next top =>
    cases closed
    exact holds.current top
  · next path key _ =>
    -- The table at hand may hold anything, but it goes in as a table.
    obtain ⟨⟨_, _⟩, altered, rfl⟩ := Option.map_eq_some_iff.1 closed
    refine upheld.alter (fun {origin b answer b'} changed holds => ?_) altered holds.finished
    split at changed
    · next new =>
      cases changed
      exact upheld.concat holds new (upheld.table _ _)
    · cases changed
  · next path key _ =>
    obtain ⟨⟨_, _⟩, altered, rfl⟩ := Option.map_eq_some_iff.1 closed
    refine upheld.alter (fun {origin b answer b'} changed holds => ?_) altered holds.finished
    split at changed
    · cases changed
      exact upheld.replace holds (upheld.rows _)
    · cases changed

/-- Opening a table keeps the property up. -/
lemma openTable (upheld : Upheld good P) {path : List String} {key : String}
    (opened : Draft.openTable b path key = some d) (holds : P b) : d.Upholds P := by
  obtain ⟨⟨_, _⟩, altered, rfl⟩ := Option.map_eq_some_iff.1 opened
  refine ⟨upheld.alter (fun {origin b answer b'} changed holds => ?_) altered holds, nofun⟩
  split at changed
  · cases changed
    exact holds
  · cases changed
    exact upheld.drop key holds
  · cases changed

/-- Opening a row keeps the property up. -/
lemma openRow (upheld : Upheld good P) {path : List String} {key : String}
    (opened : Draft.openRow b path key = some d) (holds : P b) : d.Upholds P := by
  obtain ⟨⟨_, _⟩, altered, rfl⟩ := Option.map_eq_some_iff.1 opened
  refine ⟨upheld.alter (fun {origin b answer b'} changed holds => ?_) altered holds, nofun⟩
  split at changed
  · next new =>
    cases changed
    exact upheld.concat holds new (upheld.rows _)
  · cases changed
    exact holds
  · cases changed

/-- One more statement leaves the top of a document in order. -/
lemma take (upheld : Upheld good P) {s : Statement} (taken : d.take s = some d')
    (holds : d.Upholds P) (new : s.Good good) : d'.Upholds P := by
  cases s with
  | assign path v =>
    obtain ⟨_, assigned, rfl⟩ := Option.map_eq_some_iff.1 taken
    exact ⟨holds.finished, fun top => upheld.assign assigned (holds.current top) new⟩
  | table path =>
    rw [Draft.take] at taken
    split at taken
    · next closed => exact upheld.openTable taken (upheld.close closed holds)
    · cases taken
  | row path =>
    rw [Draft.take] at taken
    split at taken
    · next closed => exact upheld.openRow taken (upheld.close closed holds)
    · cases taken

/-- Statements keep the property up. -/
lemma foldlM (upheld : Upheld good P) {ss : List Statement}
    (taken : ss.foldlM Draft.take d = some d') (holds : d.Upholds P)
    (new : ∀ s ∈ ss, s.Good good) : d'.Upholds P := by
  induction ss generalizing d with
  | nil =>
    cases taken
    exact holds
  | cons s ss ih =>
    rw [List.forall_mem_cons] at new
    obtain ⟨_, first, rest⟩ := Option.bind_eq_some_iff.1 taken
    exact ih rest (upheld.take first holds new.1) new.2

/-- The entries of a document come from a table that has the property. -/
theorem ofStatements (upheld : Upheld good P) {ss : List Statement} {doc : Document}
    (read : Document.ofStatements? ss = some doc) (new : ∀ s ∈ ss, s.Good good) :
    ∃ b, doc = Tree.toEntries b ∧ P b := by
  simp only [Document.ofStatements?, Option.bind_eq_bind, Option.bind_eq_some_iff,
    Option.some.injEq] at read
  obtain ⟨d, taken, b, closed, rfl⟩ := read
  have empty : Draft.empty.Upholds P := ⟨upheld.nil, fun _ => upheld.nil⟩
  exact ⟨b, rfl, upheld.close closed (upheld.foldlM taken empty new)⟩

end Branch.Upheld

section Keys

/-- Finishing trees leaves their keys as they are. -/
lemma map_fst_toEntries (b : Branch) : (Tree.toEntries b).map Prod.fst = b.map Prod.fst := by
  induction b with
  | nil => rfl
  | cons e b ih => rw [Tree.toEntries, List.map_cons, List.map_cons, ih]

/-- No two trees of a table have the same key. -/
def Branch.Distinct (b : Branch) : Prop := (b.map Prod.fst).Nodup

/-- Putting a tree in place of another leaves the keys as they are. -/
lemma Branch.map_fst_replace (b : Branch) (key : String) (t : Tree) :
    (b.replace key t).map Prod.fst = b.map Prod.fst := by
  rw [replace, List.map_map]
  refine List.map_congr_left fun e _ => ?_
  simp only [Function.comp_apply]
  split
  · next same => exact same.symm
  · rfl

/-- The keys at the top of a draft stay distinct. -/
lemma Branch.upheld_distinct : Branch.Upheld (fun _ => True) Branch.Distinct where
  table _ _ := trivial
  rows _ := trivial
  nil := List.nodup_nil
  concat {b key t} distinct new _ := by
    have absent : key ∉ b.map Prod.fst := by
      intro mem
      obtain ⟨e, listed, rfl⟩ := List.mem_map.1 mem
      simpa using List.lookup_eq_none_iff.1 new e listed
    rw [Branch.Distinct, List.map_append, List.map_singleton, ← List.concat_eq_append]
    exact List.Nodup.concat absent distinct
  replace {b key t} distinct _ := by
    rw [Branch.Distinct, map_fst_replace]
    exact distinct
  drop key distinct := distinct.sublist (List.filter_sublist.map Prod.fst)

/-- The top-level keys of a document that is read are distinct. -/
theorem nodup_parse? {text : String} {d : Document} (parsed : Document.parse? text = some d) :
    (d.map Prod.fst).Nodup := by
  obtain ⟨ss, -, read⟩ := Option.bind_eq_some_iff.1 parsed
  obtain ⟨b, rfl, distinct⟩ := Branch.upheld_distinct.ofStatements read fun s _ => by
    cases s <;> trivial
  rw [map_fst_toEntries]
  exact distinct

end Keys

end ServiceWatch.Toml
