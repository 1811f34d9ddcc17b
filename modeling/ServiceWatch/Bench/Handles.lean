import ServiceWatch.World

/-!
# A bench of handles

Numbered handles of one view over some things. Every step works on one handle; places that do not
exist hold the handle to nothing. A step that points a handle at an object may leave the object
unnamed, which counts as an object that does not have the view.
-/

namespace ServiceWatch

/-- A step on one handle. -/
inductive HandleStep
  | point (o : Option ObjectId)
  | pointIfAny (o : Option ObjectId)
  | reset
  | copy (source : Nat)
  | take
  | peek
  | use
  | isNull
  | compare (other : Nat)
  | outline
  deriving DecidableEq

/-- What a step on a handle answers. -/
inductive HandleAnswer
  | nothing
  | unsupported
  | object (o : Option ObjectId)
  | said (u : Option Utterance)
  | truth (b : Bool)
  | comparison (equal different samePlace : Bool)
  | text (s : String)
  deriving DecidableEq

/-- Things and handles to them. -/
structure HandleBench (v : View) where
  things : Things
  handles : List (Handle v.subject)

namespace HandleBench

variable {v : View}

/-- A bench with handles to nothing. -/
def start (v : View) (ts : Things) (count : Nat) : HandleBench v :=
  ⟨ts, List.replicate count .null⟩

/-- The handle at a place. -/
def handle (b : HandleBench v) (n : Nat) : Handle v.subject := b.handles.getD n .null

/-- Puts a handle at a place. -/
def put (b : HandleBench v) (n : Nat) (h : Handle v.subject) : HandleBench v :=
  { b with handles := b.handles.set n h }

/-- The handle to an object, if one is named and has the view. -/
def offered (b : HandleBench v) (o : Option ObjectId) : Handle v.subject :=
  ⟨o.filter (b.things.offers v)⟩

/-- Does a step on the handle at a place. -/
def step (b : HandleBench v) (n : Nat) : HandleStep → HandleAnswer × HandleBench v
  | .point o =>
    let h := b.offered o
    if h.isNull then (.unsupported, b) else (.nothing, b.put n h)
  | .pointIfAny o => (.nothing, b.put n (b.offered o))
  | .reset => (.nothing, b.put n .null)
  | .copy source => (.nothing, b.put n (b.handle source))
  | .take =>
    let (object, left) := (b.handle n).take
    (.object object, b.put n left)
  | .peek => (.object (b.handle n).object, b)
  | .use =>
    match (b.handle n).object with
    | some o =>
      let (said, things) := b.things.call v o
      (.said said, { b with things := things })
    | none => (.said none, b)
  | .isNull => (.truth (b.handle n).isNull, b)
  | .compare other =>
    let equal := b.handle n == b.handle other
    (.comparison equal (!equal) ((b.handle n).pointsWhere (b.handle other)), b)
  | .outline => (.text (b.handle n).outline.compact, b)

end HandleBench

end ServiceWatch
