import ServiceWatch.World

/-!
# A bench of offerings

A shelf of offerings together with the things that are offered. Steps either write one offering or
ask for something; a posting whose thing does not allow it writes nothing, and says so.
-/

namespace ServiceWatch

/-- A step on the offering with a given number. -/
inductive OfferingStep
  | post (p : Posting)
  | copyEntry (id : String) (source : Nat)
  | remove (id : String)
  | entry (id : String)
  | contains (id : String)
  | clear
  | clone (source : Nat)
  | compare (other : Nat)
  | outline
  | service (v : View)

/-- What a step on an offering answers. -/
inductive OfferingAnswer
  | nothing
  | truth (b : Bool)
  | entry (e : Option Entry)
  | comparison (equal different : Bool)
  | texts (compact pretty : String)
  | service (c : Contract) (h : Handle c.subject) (said : Option Utterance)

/-- Things and offerings of them. -/
structure OfferingBench where
  things : Things
  shelf : Shelf

namespace OfferingBench

/-- A bench with empty offerings. -/
def start (ts : Things) : OfferingBench := ⟨ts, .empty⟩

/-- Writes on the shelf. -/
def write (b : OfferingBench) (s : Shelf.Step) : OfferingBench :=
  { b with shelf := b.shelf.step s }

/-- Does a step on the offering with number `m`. -/
def step (b : OfferingBench) (m : Nat) : OfferingStep → OfferingAnswer × OfferingBench
  | .post p =>
    match p.step? b.things m with
    | some s => (.truth true, b.write s)
    | none => (.truth false, b)
  | .copyEntry id source =>
    (.truth (((b.shelf.offering source).get? id).isSome), b.write (.copyEntry m id source id))
  | .remove id => (.entry ((b.shelf.offering m).take id).1, b.write (.remove m id))
  | .entry id => (.entry ((b.shelf.offering m).get? id), b)
  | .contains id => (.truth ((b.shelf.offering m).contains id), b)
  | .clear => (.nothing, b.write (.clear m))
  | .clone source => (.nothing, b.write (.clone m source))
  | .compare other =>
    let equal := (b.shelf.offering m).agrees (b.shelf.offering other)
    (.comparison equal (!equal), b)
  | .outline =>
    let outline := (b.shelf.offering m).outline
    (.texts outline.compact outline.pretty, b)
  | .service v =>
    match v.contract? with
    | none => (.nothing, b)
    | some c =>
      let h := (b.shelf.offering m).service c
      match h.object with
      | some o =>
        let (said, things) := b.things.call v o
        (.service c h said, { b with things := things })
      | none => (.service c h none, b)

end OfferingBench

end ServiceWatch
