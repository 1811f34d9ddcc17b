import Mathlib.Data.List.Induction
import ServiceWatch.Proofs.Text.Bytes
import ServiceWatch.Offering.Shelf
import ServiceWatch.World.Thing

/-!
# What offerings hold

What an offering holds under an id is what was last written there. `lastWritten` reads it off the
steps of the shelf, going back from the newest to the first one that writes there. That step put an
entry of its own, or took one away, or it copied what an offering held before it, so that the search
goes on from there. As a shelf gives each box a number that counts the boxes before it, entries are
found with their identity. `get?_step` is what one step changes, and `get?_run` follows by induction
on the steps; whatever else an offering answers comes from its entries (`holds_lastWritten`).
-/

namespace ServiceWatch

namespace Offering

/-- The identifiers of an offering are listed in the order of their bytes. -/
lemma interfaceIds_ascending (o : Offering) :
    o.interfaceIds.Pairwise fun a b => Text.utf8 a < Text.utf8 b :=
  List.pairwise_map.2 (o.entries.ascending.imp Text.utf8_lt_of_compare)

/-- A service is there exactly if an object is boxed for its contract. -/
lemma isNull_service {o : Offering} {c : Contract} : (o.service c).isNull = false ↔
    ∃ box object, o.get? c.interfaceId = some (.boxed box c object) := by
  rw [exists_comm]
  simp only [← service_eq_iff]
  rcases o.service c with ⟨_ | object⟩
  · simp [Handle.isNull]
  · simp [Handle.isNull]

/-- An object that is boxed for another contract does not serve. -/
lemma service_of_other {o : Offering} {c d : Contract} {box : Nat} {object : ObjectId}
    (held : o.get? c.interfaceId = some (.boxed box d object)) (other : c ≠ d) :
    o.service c = .null := by
  rw [service, held]
  exact congrArg Handle.mk (if_neg (Ne.symm other))

end Offering

namespace Shelf

namespace Step

/-- Whether a step makes a box. -/
def makesBox : Step → Bool
  | publish _ _ _ => true
  | box _ _ _ _ => true
  | _ => false

/-- Where a step writes: the offering, and the id if it is a single one. -/
def place : Step → Nat × Option String
  | publish m c _ => (m, some c.interfaceId)
  | box m id _ _ => (m, some id)
  | bare m id _ => (m, some id)
  | copyEntry m id _ _ => (m, some id)
  | remove m id => (m, some id)
  | clear m => (m, none)
  | clone m _ => (m, none)

/-- Whether a step writes under an id of an offering. -/
def writes (m : Nat) (id : String) (step : Step) : Bool :=
  step.place.1 = m ∧ ∀ id' ∈ step.place.2, id' = id

/-- What a step leaves under an id where it writes, by what was held before and the next box. -/
def entry (held : Nat → String → Option Entry) (nextBox m : Nat) (id : String) :
    Step → Option Entry
  | publish _ c object => some (.boxed nextBox c object)
  | box _ _ c object => some (.boxed nextBox c object)
  | bare _ _ object => some (.bare object)
  | copyEntry _ _ source sourceId => (held source sourceId).or (held m id)
  | remove _ _ => none
  | clear _ => none
  | clone _ source => held source id

end Step

/-- The entry that was last written under an id of an offering and is still there, by the steps from
the newest to the oldest. -/
def lastWritten : List Step → Nat → String → Option Entry
  | [], _, _ => none
  | step :: earlier, m, id =>
    if step.writes m id then
      step.entry (lastWritten earlier) (earlier.countP Step.makesBox) m id
    else lastWritten earlier m id

variable {s : Shelf} {m : Nat} {id : String}

/-- Putting an offering on a shelf changes this place and no other. -/
lemma offering_put (s : Shelf) (m : Nat) (o : Offering) (m' : Nat) :
    (s.put m o).offering m' = if m' = m then o else s.offering m' := by
  rw [offering, put, Table.get?_insert]
  split <;> rfl

/-- What is found on a shelf with an offering put on it. -/
lemma get?_put (s : Shelf) (m : Nat) (o : Offering) (m' : Nat) (id : String) :
    ((s.put m o).offering m').get? id =
      if decide (m = m') then o.get? id else (s.offering m').get? id := by
  rw [offering_put]
  by_cases here : m' = m
  · simp [here]
  · simp [here, Ne.symm here]

/-- To replace an offering by one that differs under a single id is to write under that id. -/
lemma get?_put_single {o : Offering} {e : Option Entry} (s : Shelf) {m : Nat} {id : String}
    (single : ∀ id', o.get? id' = if id' = id then e else (s.offering m).get? id')
    (m' : Nat) (id' : String) :
    ((s.put m o).offering m').get? id' =
      if decide (m = m' ∧ id = id') then e else (s.offering m').get? id' := by
  rw [get?_put]
  by_cases here : m = m'
  · subst here
    rw [single]
    by_cases own : id' = id
    · simp [own]
    · simp [own, Ne.symm own]
  · simp [here]

/-- A step with a single place writes there and nowhere else. -/
lemma Step.writes_single {step : Step} {m' : Nat} {id' : String}
    (place : step.place = (m', some id')) : step.writes m id = decide (m' = m ∧ id' = id) := by
  simp [writes, place]

/-- A step on a whole offering writes all over it and nowhere else. -/
lemma Step.writes_whole {step : Step} {m' : Nat} (place : step.place = (m', none)) :
    step.writes m id = decide (m' = m) := by
  simp [writes, place]

/-- A step sets what it writes, and leaves all else as it is. -/
lemma get?_step (s : Shelf) (step : Step) (m : Nat) (id : String) :
    ((s.step step).offering m).get? id =
      if step.writes m id then step.entry (fun m id => (s.offering m).get? id) s.nextBox m id
      else (s.offering m).get? id := by
  cases step with
  | publish m' c object =>
    rw [Step.writes_single rfl]
    exact get?_put_single s ((s.offering m').get?_insert _ _) m id
  | box m' id' c object =>
    rw [Step.writes_single rfl]
    exact get?_put_single s ((s.offering m').get?_insert _ _) m id
  | bare m' id' object =>
    rw [Step.writes_single rfl]
    exact get?_put_single s ((s.offering m').get?_insert _ _) m id
  | copyEntry m' id' source sourceId =>
    rw [Step.writes_single rfl, Shelf.step]
    cases found : (s.offering source).get? sourceId with
    | none => simp [Step.entry, found]
    | some e =>
      rw [Step.entry, found]
      exact get?_put_single s ((s.offering m').get?_insert _ _) m id
  | remove m' id' =>
    rw [Step.writes_single rfl]
    exact get?_put_single s ((s.offering m').get?_erase _) m id
  | clear m' =>
    rw [Step.writes_whole rfl]
    exact get?_put s m' .empty m id
  | clone m' source =>
    rw [Step.writes_whole rfl]
    exact get?_put s m' (s.offering source) m id

/-- A box is used up by a step that makes one. -/
lemma nextBox_step (s : Shelf) (step : Step) :
    (s.step step).nextBox = s.nextBox + if step.makesBox then 1 else 0 := by
  cases step with
  | copyEntry m id source sourceId =>
    rw [Shelf.step]
    cases (s.offering source).get? sourceId <;> rfl
  | publish => rfl
  | box => rfl
  | bare => rfl
  | remove => rfl
  | clear => rfl
  | clone => rfl

/-- Steps after steps lead where the second lead from the first. -/
lemma run_append (s : Shelf) (steps steps' : List Step) :
    s.run (steps ++ steps') = (s.run steps).run steps' :=
  List.foldl_append

/-- The last step of a run is taken from where the others led. -/
lemma run_concat (s : Shelf) (steps : List Step) (step : Step) :
    s.run (steps ++ [step]) = (s.run steps).step step :=
  s.run_append steps [step]

/-- As many boxes are used up as steps made one. -/
lemma nextBox_run (steps : List Step) :
    (Shelf.empty.run steps).nextBox = steps.countP Step.makesBox := by
  induction steps using List.reverseRecOn with
  | nil => rfl
  | append_singleton steps step ih =>
    rw [run_concat, nextBox_step, ih, List.countP_append, List.countP_singleton]

/-- An offering holds what was last written. -/
theorem get?_run (steps : List Step) (m : Nat) (id : String) :
    ((Shelf.empty.run steps).offering m).get? id = lastWritten steps.reverse m id := by
  -- By the newest step, from which `lastWritten` goes back.
  induction steps using List.reverseRecOn generalizing m id with
  | nil => rfl
  | append_singleton steps step ih =>
    rw [run_concat, get?_step, nextBox_run, List.reverse_concat, lastWritten, List.countP_reverse]
    simp only [ih]

/-- Steps that write elsewhere leave an entry as it is. -/
lemma get?_run_of_elsewhere {later : List Step}
    (elsewhere : ∀ step ∈ later, step.writes m id = false) :
    ((s.run later).offering m).get? id = (s.offering m).get? id := by
  induction later generalizing s with
  | nil => rfl
  | cons step later ih =>
    have here : step.writes m id = false := elsewhere step List.mem_cons_self
    show (((s.step step).run later).offering m).get? id = _
    rw [ih fun step' mem => elsewhere step' (List.mem_cons_of_mem _ mem), get?_step, here]
    rfl

/-- A box stays where it was put for as long as the later steps write elsewhere. -/
lemma get?_run_of_box (s : Shelf) {write : Step} {c : Contract} {object : ObjectId}
    {later : List Step}
    (writes : write = .publish m c object ∨ write = .box m c.interfaceId c object)
    (elsewhere : ∀ step ∈ later, step.writes m c.interfaceId = false) :
    ((s.run (write :: later)).offering m).get? c.interfaceId =
      some (.boxed s.nextBox c object) := by
  show (((s.step write).run later).offering m).get? c.interfaceId = _
  rw [get?_run_of_elsewhere elsewhere, get?_step]
  rcases writes with rfl | rfl
  · rw [Step.writes_single rfl, decide_eq_true ⟨rfl, rfl⟩]
    rfl
  · rw [Step.writes_single rfl, decide_eq_true ⟨rfl, rfl⟩]
    rfl

/-- What an offering answers is what was last written. Its entries, their number and what it gives
up when an id is withdrawn are those, and its ids ascend by their bytes. A contract is found exactly
if a box of it was last written under its id, and then it is the object in that box. So of two
contracts that share an id the one that is written later hides the other, until something is written
under that id again; what is written elsewhere does not change the answer. -/
theorem holds_lastWritten (steps : List Step) (m : Nat) :
    let o := (Shelf.empty.run steps).offering m
    let last := lastWritten steps.reverse m
    (∀ id, o.get? id = last id ∧ o.contains id = (last id).isSome ∧
      (id ∈ o.interfaceIds ↔ (last id).isSome = true) ∧
      o.take id = (last id, (Shelf.empty.run (steps ++ [.remove m id])).offering m)) ∧
    o.size = o.interfaceIds.length ∧
    (o.isEmpty = true ↔ ∀ id, last id = none) ∧
    (o.interfaceIds.Pairwise fun a b => Text.utf8 a < Text.utf8 b) ∧
    (∀ c, (o.service c).isNull = false ↔
      ∃ box object, last c.interfaceId = some (.boxed box c object)) ∧
    (∀ c object, o.service c = ⟨some object⟩ ↔
      ∃ box, last c.interfaceId = some (.boxed box c object)) ∧
    (∀ c d object (write : Step) later, c ≠ d → c.interfaceId = d.interfaceId →
      write = .publish m d object ∨ write = .box m d.interfaceId d object →
      (∀ step ∈ later, Step.writes m d.interfaceId step = false) →
      let o := (Shelf.empty.run (steps ++ write :: later)).offering m
      o.service c = .null ∧ o.service d = ⟨some object⟩) ∧
    ∀ (c : Contract) later, (∀ step ∈ later, Step.writes m c.interfaceId step = false) →
      ((Shelf.empty.run (steps ++ later)).offering m).service c = o.service c := by
  intro o last
  have held (id) : o.get? id = last id := get?_run steps m id
  refine ⟨fun id => ⟨held id, ?_, ?_, ?_⟩, ?_, ?_, o.interfaceIds_ascending, fun c => ?_,
    fun c object => ?_, ?_, fun c later elsewhere => ?_⟩
  · exact congrArg Option.isSome (held id)
  · rw [← held]
    exact Table.mem_keys_iff
  · rw [run_concat, Offering.take, held, Shelf.step, offering_put, if_pos rfl]
  · exact (List.length_map ..).symm
  · simp only [← held]
    exact Table.isEmpty_iff
  · rw [Offering.isNull_service, held]
  · rw [Offering.service_eq_iff, held]
  · intro c d object write later other same writes elsewhere o
    have boxed : o.get? d.interfaceId =
        some (.boxed (Shelf.empty.run steps).nextBox d object) := by
      show ((Shelf.empty.run (steps ++ write :: later)).offering m).get? d.interfaceId = _
      rw [run_append]
      exact get?_run_of_box _ writes elsewhere
    exact ⟨Offering.service_of_other (same ▸ boxed) other, Offering.service_eq_iff.2 ⟨_, boxed⟩⟩
  · show ((Shelf.empty.run (steps ++ later)).offering m).service c = _
    rw [run_append, Offering.service, get?_run_of_elsewhere elsewhere]
    rfl

/-- An impostor hides a greeter, whatever is done under other ids and with other offerings. -/
theorem holds_lastWritten_impostor :
    let o := (Shelf.empty.run ([.publish 0 .greeter 1] ++ .publish 0 .impostor 2 ::
      [.publish 0 .counter 3, .clone 1 0, .remove 1 "test.Greeter"])).offering 0
    o.service .greeter = .null ∧ o.service .impostor = ⟨some 2⟩ := by
  obtain ⟨-, -, -, -, -, -, hides, -⟩ := holds_lastWritten [.publish 0 .greeter 1] 0
  exact hides .greeter .impostor 2 _ _ (by decide) rfl (.inl rfl) (by decide)

end Shelf

end ServiceWatch
