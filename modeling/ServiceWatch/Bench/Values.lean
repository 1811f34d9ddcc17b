import ServiceWatch.World.Script

/-!
# A bench of values

Numbered values of one pair over a world, absent at first: they are built, converted, changed
through the hands of an observer, compared and given up.
-/

namespace ServiceWatch

/-- A step on the value at a place. -/
inductive ValueStep
  | reset
  | convert (ps : List Posting)
  | build (ps : List Posting) (sample : Sample)
  | dispose
  | handOver (t : Touch)
  | compare (other : Nat)
  | outline
  deriving DecidableEq

/-- What a step on a value answers. -/
inductive ValueAnswer
  | nothing
  | converted (r : Except Fault Unit)
  | truth (b : Bool)
  | shown (s : Shown)
  | text (s : String)

/-- A world and values of a pair. -/
structure ValueBench (p : Pair) where
  world : World
  values : List p.rep.Value

namespace ValueBench

variable {p : Pair}

/-- A bench with absent values. -/
def start (p : Pair) (ts : Things) (count : Nat) : ValueBench p :=
  ⟨.ofThings ts, List.replicate count p.rep.absent⟩

/-- The value at a place. -/
def value (b : ValueBench p) (n : Nat) : p.rep.Value := b.values.getD n p.rep.absent

/-- Puts a value at a place. -/
def put (b : ValueBench p) (n : Nat) (v : p.rep.Value) : ValueBench p :=
  { b with values := b.values.set n v }

/-- All values as they are shown, with their presence. -/
def shown (b : ValueBench p) : List (Shown × Bool) :=
  b.values.map fun v => (p.treatment.shown v, p.rep.isPresent v)

/-- Does a step on the value at a place; gives what is logged as well. -/
def step (b : ValueBench p) (n : Nat) : ValueStep → ValueAnswer × List Record × ValueBench p
  | .reset => (.nothing, [], b.put n p.rep.absent)
  | .convert ps =>
    let (o, w) := b.world.offer ps
    let b := { b with world := w }
    match p.rep.convert o with
    | .ok v => (.converted (.ok ()), p.rep.conversionLog, b.put n v)
    | .error fault => (.converted (.error fault), p.rep.conversionLog, b)
  | .build ps sample =>
    let (o, w) := b.world.offer ps
    (.nothing, [], { b with world := w }.put n (p.treatment.build o sample))
  | .dispose =>
    let b := b.put n (p.rep.dispose (b.value n))
    (.truth (p.treatment.same (b.value n) p.rep.absent), [], b)
  | .handOver t =>
    let before := b.value n
    let (after, w) := p.touch t before b.world
    (.shown (p.treatment.shown before), [],
      { b with world := w }.put n (p.rep.settle before after))
  | .compare other => (.truth (p.treatment.same (b.value n) (b.value other)), [], b)
  | .outline => (.text (p.treatment.outline (b.value n)).compact, [], b)

end ValueBench

end ServiceWatch
