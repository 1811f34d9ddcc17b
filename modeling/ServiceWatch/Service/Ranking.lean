import ServiceWatch.Service.Reference
import ServiceWatch.Table

/-!
# Ranked references

Lists of references put in order: sorted from the least to the most preferred, the same without
repetitions, and the two ends.
-/

namespace ServiceWatch.Reference

variable {s : Subject}

/-- The references from the least to the most preferred. -/
def ascending (rs : List (Reference s)) : List (Reference s) :=
  rs.mergeSort fun a b => (compare a b).isLE

/-- The references from the least to the most preferred, each once. -/
def distinct (rs : List (Reference s)) : List (Reference s) :=
  (rs.foldl (fun t r => t.insert r ()) (∅ : Table (Reference s) Unit)).keys

/-- The better of two references; of two equal ones the second. -/
def better (a b : Reference s) : Reference s := if compare a b = .gt then a else b

/-- The worse of two references; of two equal ones the first. -/
def worse (a b : Reference s) : Reference s := if compare a b = .gt then b else a

/-- The most preferred reference. -/
def best? : List (Reference s) → Option (Reference s)
  | [] => none
  | r :: rs => some (rs.foldl better r)

/-- The least preferred reference. -/
def worst? : List (Reference s) → Option (Reference s)
  | [] => none
  | r :: rs => some (rs.foldl worse r)

end ServiceWatch.Reference
