import Mathlib.Data.List.Nodup
import ServiceWatch.Proofs.Offering.History

/-!
# When offerings agree

Offerings are compared entry by entry, in the order of their ids. As a table is determined by its
look-ups, they agree exactly if they hold identical entries, or none, under every id (`agrees_iff`).
Boxes are identical if they have the same number. A shelf numbers its boxes in the order in which
they are made, so that the number tells what is in the box (`made_of_boxed`), and a box that was
just made is in no other offering.
-/

namespace ServiceWatch

namespace Table

variable {κ ν μ : Type} [Ord κ]

/-- The table with a function applied to its values. -/
def mapValues (f : ν → μ) (t : Table κ ν) : Table κ μ :=
  ⟨t.entries.map fun e => (e.1, f e.2), List.pairwise_map.2 t.ascending⟩

/-- What is found in a table with changed values is what was there, changed. -/
lemma get?_mapValues (f : ν → μ) (t : Table κ ν) (k : κ) :
    (t.mapValues f).get? k = (t.get? k).map f := by
  rw [get?, get?, mapValues, List.findSome?_map, List.map_findSome?]
  congr 1
  funext e
  simp only [Function.comp_apply]
  split <;> rfl

end Table

namespace Offering

variable {o p q : Offering} {es es' : List (String × Entry)}

/-- The offering with entries put in one after the other. -/
def insertAll (o : Offering) (es : List (String × Entry)) : Offering :=
  es.foldl (fun o e => o.insert e.1 e.2) o

/-- Offerings are equal if the same is found in them everywhere. -/
lemma ext_get? (same : ∀ id, o.get? id = p.get? id) : o = p := by
  obtain ⟨_⟩ := o
  obtain ⟨_⟩ := p
  exact congrArg mk (Table.ext_get? same)

/-- Lists of entries match if they have the same identifiers with the same identities. -/
lemma matching_iff {ds es : List (String × Entry)} :
    matching ds es = true ↔
      ds.map (fun e => (e.1, e.2.identity)) = es.map fun e => (e.1, e.2.identity) := by
  induction ds generalizing es with
  | nil => cases es <;> simp [matching]
  | cons d ds ih => cases es <;> simp [matching, ih]

/-- Offerings agree if they hold identical entries, or none, under every id. -/
theorem agrees_iff :
    o.agrees p = true ↔
      ∀ id, (o.get? id).map Entry.identity = (p.get? id).map Entry.identity := by
  have tables : o.agrees p = true ↔
      o.entries.mapValues Entry.identity = p.entries.mapValues Entry.identity :=
    ⟨fun same => Table.ext_entries (matching_iff.1 same),
      fun same => matching_iff.2 (congrArg Table.entries same)⟩
  rw [tables]
  constructor
  · intro same id
    rw [get?, get?, ← Table.get?_mapValues, same, Table.get?_mapValues]
  · intro same
    refine Table.ext_get? fun id => ?_
    rw [Table.get?_mapValues, Table.get?_mapValues]
    exact same id

/-- To agree is reflexive, symmetric and transitive. -/
lemma agrees_equivalence : Equivalence fun o p : Offering => o.agrees p = true := by
  simp only [agrees_iff]
  exact ⟨fun _ _ => rfl, fun same id => (same id).symm,
    fun same same' id => (same id).trans (same' id)⟩

/-- Identical entries keep agreeing offerings in agreement. -/
lemma agrees_insert {id : String} {e e' : Entry} (agree : o.agrees p = true)
    (identical : e.identity = e'.identity) : (o.insert id e).agrees (p.insert id e') = true := by
  rw [agrees_iff] at agree ⊢
  intro id'
  rw [get?_insert, get?_insert]
  split
  · exact congrArg some identical
  · exact agree id'

/-- Offerings in agreement stay so with an entry taken out of both. -/
lemma agrees_erase (agree : o.agrees p = true) (id : String) :
    (o.erase id).agrees (p.erase id) = true := by
  rw [agrees_iff] at agree ⊢
  intro id'
  rw [get?_erase, get?_erase]
  split
  · rfl
  · exact agree id'

/-- Entries under different identifiers can be put in either order. -/
lemma insert_comm {id id' : String} (other : id ≠ id') (o : Offering) (e e' : Entry) :
    (o.insert id e).insert id' e' = (o.insert id' e').insert id e := by
  refine ext_get? fun id'' => ?_
  rw [get?_insert, get?_insert, get?_insert, get?_insert]
  by_cases own : id'' = id
  · rw [own, if_neg other, if_pos rfl, if_pos rfl]
  · rw [if_neg own, if_neg own]

/-- Entries under different ids may be put in in any order. -/
lemma insertAll_perm (perm : es.Perm es') (distinct : (es.map Prod.fst).Nodup) (o : Offering) :
    o.insertAll es = o.insertAll es' := by
  refine perm.foldl_eq' (fun d mem e mem' o => ?_) o
  by_cases same : d.1 = e.1
  · rw [List.inj_on_of_nodup_map distinct mem mem' same]
  · exact insert_comm same o d.2 e.2

/-- Offerings in agreement stay so with the same entries put in both. -/
lemma agrees_insertAll (agree : o.agrees p = true) (es : List (String × Entry)) :
    (o.insertAll es).agrees (p.insertAll es) = true := by
  induction es generalizing o p with
  | nil => exact agree
  | cons e es ih => exact ih (agrees_insert agree rfl)

end Offering

namespace Shelf

/-- What a step puts in a box, if it makes one. -/
def Step.boxed? : Step → Option (Contract × ObjectId)
  | publish _ c object => some (c, object)
  | box _ _ c object => some (c, object)
  | _ => none

/-- What the boxes contain that were made in some steps, in the order of their numbers. -/
def boxes (steps : List Step) : List (Contract × ObjectId) := steps.filterMap Step.boxed?

variable {steps : List Step} {m m' : Nat} {id id' : String}

/-- As many boxes are used up as there are objects boxed. -/
lemma nextBox_eq (steps : List Step) : (Shelf.empty.run steps).nextBox = (boxes steps).length := by
  rw [nextBox_run, boxes, List.length_filterMap_eq_countP]
  congr 1
  funext step
  cases step <;> rfl

/-- A step adds the object that it boxes, if there is one. -/
lemma boxes_concat (steps : List Step) (step : Step) :
    boxes (steps ++ [step]) = boxes steps ++ step.boxed?.toList := by
  rw [boxes, List.filterMap_append]
  cases step <;> rfl

/-- The number of a box that is offered tells what is in it. -/
theorem made_of_boxed {box : Nat} {c : Contract} {object : ObjectId}
    (held : ((Shelf.empty.run steps).offering m).get? id = some (.boxed box c object)) :
    (boxes steps)[box]? = some (c, object) := by
  induction steps using List.reverseRecOn generalizing m id with
  | nil => cases held
  | append_singleton steps step ih =>
    -- A box that was there before keeps its number, and so does what is in it.
    have kept {m id}
        (held : ((Shelf.empty.run steps).offering m).get? id = some (.boxed box c object)) :
        (boxes (steps ++ [step]))[box]? = some (c, object) := by
      have made := ih held
      have old : box < (boxes steps).length := (List.getElem?_eq_some_iff.1 made).1
      rw [boxes_concat, List.getElem?_append_left old, made]
    rw [run_concat, get?_step, nextBox_eq] at held
    split at held
    · cases step with
      | publish m' c' object' =>
        obtain ⟨rfl, rfl, rfl⟩ : _ ∧ _ ∧ _ := by simpa [Step.entry] using held
        rw [boxes_concat]
        exact List.getElem?_concat_length
      | box m' id' c' object' =>
        obtain ⟨rfl, rfl, rfl⟩ : _ ∧ _ ∧ _ := by simpa [Step.entry] using held
        rw [boxes_concat]
        exact List.getElem?_concat_length
      | bare m' id' object' => cases held
      | copyEntry m' id' source sourceId =>
        rcases Option.or_eq_some_iff.1 held with copied | ⟨-, held⟩
        · exact kept copied
        · exact kept held
      | remove m' id' => cases held
      | clear m' => cases held
      | clone m' source => exact kept held
    · exact kept held

/-- Entries of a shelf with the same identity are the same. -/
lemma eq_of_identity {e e' : Entry} (held : ((Shelf.empty.run steps).offering m).get? id = some e)
    (held' : ((Shelf.empty.run steps).offering m').get? id' = some e')
    (identical : e.identity = e'.identity) : e = e' := by
  cases e with
  | boxed box c object =>
    cases e' with
    | boxed box' c' object' =>
      obtain rfl := Entry.Identity.box.inj identical
      cases (made_of_boxed held).symm.trans (made_of_boxed held')
      rfl
    | bare => cases identical
  | bare object =>
    cases e' with
    | boxed => cases identical
    | bare object' =>
      obtain rfl := Entry.Identity.object.inj identical
      rfl

/-- On a shelf, identical entries are the same altogether. -/
lemma agrees_iff_get? :
    ((Shelf.empty.run steps).offering m).agrees ((Shelf.empty.run steps).offering m') = true ↔
      ∀ id, ((Shelf.empty.run steps).offering m).get? id =
        ((Shelf.empty.run steps).offering m').get? id := by
  rw [Offering.agrees_iff]
  refine forall_congr' fun id => ⟨fun identical => ?_, congrArg _⟩
  cases held : ((Shelf.empty.run steps).offering m).get? id with
  | none =>
    rw [held, Option.map_none, eq_comm, Option.map_eq_none_iff] at identical
    exact identical.symm
  | some e =>
    rw [held, Option.map_some, eq_comm] at identical
    obtain ⟨e', held', same⟩ := Option.map_eq_some_iff.1 identical
    rw [held', eq_of_identity held held' same.symm]

/-- To publish an object in one of two offerings sets them apart. -/
lemma agrees_publish (apart : m ≠ m') (steps : List Step) (c : Contract) (object : ObjectId) :
    let s := (Shelf.empty.run steps).step (.publish m c object)
    (s.offering m).agrees (s.offering m') = false := by
  intro s
  have here : (s.offering m).get? c.interfaceId =
      some (.boxed (boxes steps).length c object) := by
    rw [get?_step, Step.writes_single rfl, decide_eq_true ⟨rfl, rfl⟩, if_pos rfl, ← nextBox_eq]
    rfl
  have there : (s.offering m').get? c.interfaceId =
      ((Shelf.empty.run steps).offering m').get? c.interfaceId := by
    rw [get?_step, Step.writes_single rfl, decide_eq_false fun both => apart both.1]
    rfl
  refine Bool.eq_false_iff.2 fun agree => ?_
  -- The new box would have to be in the other offering, under a number that none has there.
  have identical := Offering.agrees_iff.1 agree c.interfaceId
  rw [here, there, Option.map_some, eq_comm, Option.map_eq_some_iff] at identical
  obtain ⟨e, held, same⟩ := identical
  cases e with
  | boxed box c' object' =>
    obtain rfl := Entry.Identity.box.inj same
    have old := (List.getElem?_eq_some_iff.1 (made_of_boxed held)).1
    exact absurd old (Nat.lt_irrefl _)
  | bare => cases same

/-- Offerings are equal by the identity of what they hold. Whatever was written to them, two
offerings agree exactly if under every id both hold nothing, or identical entries, which are then
the same entries. So to agree is an equivalence; an offering agrees with its clone; offerings that
agree still do once the same entries are put into both, in whatever order, or once the same id is
withdrawn from both. But an object that is published in one of two offerings makes them disagree,
even if it was published there before. -/
theorem agrees_by_identity (steps : List Step) :
    let s := Shelf.empty.run steps
    let agree (s : Shelf) (m m' : Nat) := (s.offering m).agrees (s.offering m') = true
    (∀ m m', (agree s m m' ↔ ∀ id, ((s.offering m).get? id).map Entry.identity =
        ((s.offering m').get? id).map Entry.identity) ∧
      (agree s m m' ↔ ∀ id, (s.offering m).get? id = (s.offering m').get? id)) ∧
    Equivalence (agree s) ∧
    (∀ m source, agree (s.step (.clone m source)) m source) ∧
    (∀ m m', agree s m m' →
      (∀ id (e e' : Entry), e.identity = e'.identity →
        ((s.offering m).insert id e).agrees ((s.offering m').insert id e') = true) ∧
      (∀ es es' : List (String × Entry), es.Perm es' → (es.map Prod.fst).Nodup →
        ((s.offering m).insertAll es).agrees ((s.offering m').insertAll es') = true) ∧
      ∀ id, ((s.offering m).erase id).agrees ((s.offering m').erase id) = true) ∧
    ∀ m m' c object, m ≠ m' → ¬ agree (s.step (.publish m c object)) m m' := by
  intro s agree
  have equivalence := Offering.agrees_equivalence
  refine ⟨fun m m' => ⟨Offering.agrees_iff, agrees_iff_get?⟩,
    ⟨fun _ => equivalence.refl _, equivalence.symm, equivalence.trans⟩, fun m source => ?_,
    fun m m' same => ⟨fun id e e' => Offering.agrees_insert same, fun es es' perm distinct => ?_,
      Offering.agrees_erase same⟩, fun m m' c object apart => ?_⟩
  · refine Offering.agrees_iff.2 fun id => ?_
    show (((s.put m _).offering m).get? id).map _ = (((s.put m _).offering source).get? id).map _
    rw [offering_put, offering_put, if_pos rfl]
    split <;> rfl
  · rw [← Offering.insertAll_perm perm distinct]
    exact Offering.agrees_insertAll same es
  · exact Bool.eq_false_iff.1 (agrees_publish apart steps c object)

/-- A clone still agrees once two more entries are put in, the other way round, and no longer once
the object that is already there is published again. -/
theorem agrees_by_identity_clone :
    let s := Shelf.empty.run [.publish 0 .greeter 1, .clone 1 0]
    let es : List (String × Entry) := [("b", .bare 2), ("a", .bare 3)]
    let s' := s.step (.publish 0 .greeter 1)
    ((s.offering 0).insertAll es).agrees ((s.offering 1).insertAll es.reverse) = true ∧
      (s'.offering 0).service .greeter = (s'.offering 1).service .greeter ∧
      ¬ (s'.offering 0).agrees (s'.offering 1) = true := by
  intro s es s'
  obtain ⟨alike, -, -, kept, parted⟩ := agrees_by_identity [.publish 0 .greeter 1, .clone 1 0]
  obtain ⟨-, written, -⟩ := kept 0 1 ((alike 0 1).2.2 fun _ => rfl)
  exact ⟨written es es.reverse (List.reverse_perm es).symm (by decide), by decide,
    parted 0 1 .greeter 1 (by decide)⟩

end Shelf

end ServiceWatch
