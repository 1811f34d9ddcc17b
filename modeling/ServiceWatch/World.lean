import ServiceWatch.Observer.Standard
import ServiceWatch.Offering.Shelf
import ServiceWatch.World.Thing

/-!
# The world of a session

All that the trackers of a session share: the things, the supply of boxes in which things are
offered, and the registry. Offerings are put together from postings, which name things by number;
a posting that its thing does not allow adds nothing.
-/

namespace ServiceWatch

/-- An entry to be made for a thing: a contract under its own id, or a box or the bare thing under
any id. -/
inductive Posting
  | contract (v : View) (o : ObjectId)
  | box (id : String) (v : View) (o : ObjectId)
  | bare (id : String) (o : ObjectId)
  deriving DecidableEq

/-- How a posting writes an offering of a shelf; nothing if the thing does not allow it. -/
def Posting.step? (p : Posting) (ts : Things) (m : Nat) : Option Shelf.Step :=
  match p with
  | contract v o => if ts.offers v o then v.contract?.map fun c => .publish m c o else none
  | box id v o => if ts.offers v o then v.contract?.map fun c => .box m id c o else none
  | bare id o => if o < ts.length then some (.bare m id o) else none

/-- What the trackers of a session share. -/
structure World where
  things : Things
  nextBox : Nat
  registry : Registry

namespace World

/-- A world of things in which nothing has happened yet. -/
def ofThings (ts : Things) : World := ⟨ts, 0, .empty⟩

/-- Puts an offering together. -/
def offer (w : World) (ps : List Posting) : Offering × World :=
  let shelf := (Shelf.mk ∅ w.nextBox).run (ps.filterMap fun p => p.step? w.things 0)
  (shelf.offering 0, { w with nextBox := shelf.nextBox })

/-- Uses a thing through a view. -/
def call (w : World) (v : View) (o : ObjectId) : Option Utterance × World :=
  let (said, things) := w.things.call v o
  (said, { w with things := things })

/-- Bumps what a handle points at, through a view. -/
def bump {s : Subject} (w : World) (v : View) (h : Handle s) : World :=
  match h.object with
  | some o => { w with things := w.things.bump v o }
  | none => w

/-- The registry of the world as an observer sees it. -/
def context : Context World :=
  Registry.context.within registry fun g w => { w with registry := g }

end World

end ServiceWatch
