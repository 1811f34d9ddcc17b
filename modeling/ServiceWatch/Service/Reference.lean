import Std.Data.String.ToNat
import ServiceWatch.Service.Contract
import ServiceWatch.Text.Outline

/-!
# References

A registration has a number and a ranking; a `Reference` names both and remembers the subject it
was looked up under. References are ordered by how much their service is preferred: the higher
ranking wins, and of two registrations with equal rankings the older one, which has the lower
number.
-/

namespace ServiceWatch

open Text

/-- The number of a registration. -/
structure ServiceId where
  number : UInt64
  deriving DecidableEq

namespace ServiceId

instance : Ord ServiceId := ⟨compareOn number⟩

instance : Std.TransOrd ServiceId := inferInstanceAs (Std.TransCmp (compareOn ServiceId.number))

instance : Std.LawfulEqOrd ServiceId where
  eq_of_compare {a b} h := by
    have hn : compare a.number b.number = .eq := h
    cases a
    cases b
    exact congrArg mk (Std.LawfulEqCmp.eq_of_compare hn)

/-- The number in digits. -/
def text (id : ServiceId) : String := toString id.number.toNat

/-- The number that a text is the digits of; other spellings, say with a leading zero, are none. -/
def ofText? (s : String) : Option ServiceId :=
  (s.toNat?.map fun n => ⟨UInt64.ofNat n⟩).filter fun id => id.text = s

/-- The number with the name of its kind. -/
def outline (id : ServiceId) : Outline := .tuple "ServiceId" [.leaf id.text]

/-- How log lines name the service. -/
def label (id : ServiceId) : String := "service#" ++ id.text

/-- A service is found by its text. -/
theorem ofText?_text (id : ServiceId) : ofText? id.text = some id := by
  have digits : (toString id.number.toNat).toNat? = some id.number.toNat := Nat.toNat?_repr _
  simp only [ofText?, text, digits, Option.map_some, UInt64.ofNat_toNat]
  simp

/-- A text stands for a service only if it is its text. -/
theorem ofText?_eq_some_iff {s : String} {id : ServiceId} :
    ofText? s = some id ↔ s = id.text := by
  constructor
  · intro h
    exact (of_decide_eq_true (Option.filter_eq_some_iff.1 h).2).symm
  · rintro rfl
    exact ofText?_text id

end ServiceId

/-- A registration as seen under a subject. -/
structure Reference (s : Subject) where
  id : ServiceId
  ranking : Int32
  deriving DecidableEq

namespace Reference

variable {s : Subject}

/-- The order of preference: by ranking, then the older registration above the newer. -/
def order : Reference s → Reference s → Ordering :=
  compareLex (compareOn ranking) fun a b => compareOn id b a

instance : Ord (Reference s) := ⟨order⟩

instance : Std.TransOrd (Reference s) := inferInstanceAs (Std.TransCmp
  (compareLex (compareOn Reference.ranking) fun a b => compareOn (Reference.id (s := s)) b a))

instance : Std.LawfulEqOrd (Reference s) where
  eq_of_compare {a b} h := by
    have both : (compare a.ranking b.ranking).then (compare b.id a.id) = .eq := h
    obtain ⟨hr, hi⟩ := Ordering.then_eq_eq.1 both
    cases a
    cases b
    have hr := Std.LawfulEqCmp.eq_of_compare hr
    have hi := Std.LawfulEqCmp.eq_of_compare hi
    simp_all

/-- The same registration at another ranking. -/
def withRanking (r : Reference s) (ranking : Int32) : Reference s := ⟨r.id, ranking⟩

/-- The same registration under another subject. -/
def cast (u : Subject) (r : Reference s) : Reference u := ⟨r.id, r.ranking⟩

/-- The same registration under no particular subject. -/
def erase (r : Reference s) : Reference .untyped := r.cast .untyped

/-- The short name of the registration. -/
def label (r : Reference s) : String := r.id.label

/-- All there is to know about the reference. -/
def outline (r : Reference s) : Outline :=
  .record "ServiceReference"
    [("service", .text s.typeName), ("id", r.id.outline), ("ranking", .number r.ranking.toInt)]

/-- The lowest `count` bytes of a number, the lowest first. -/
def bytesOf : Nat → Nat → List UInt8
  | 0, _ => []
  | count + 1, n => UInt8.ofNat n :: bytesOf count (n / 256)

/-- The bytes by which a hash tells references apart: those of the number, then of the ranking. -/
def hashBytes (r : Reference s) : List UInt8 :=
  bytesOf 8 r.id.number.toNat ++ bytesOf 4 r.ranking.toUInt32.toNat

/-- Another ranking leaves the service as it is. -/
@[simp]
theorem id_withRanking (r : Reference s) (ranking : Int32) : (r.withRanking ranking).id = r.id :=
  rfl

/-- Another subject leaves the service as it is. -/
@[simp]
theorem id_cast (u : Subject) (r : Reference s) : (r.cast u).id = r.id := rfl

/-- Another subject leaves the ranking as it is. -/
@[simp]
theorem ranking_cast (u : Subject) (r : Reference s) : (r.cast u).ranking = r.ranking := rfl

/-- Of two subjects the last one counts. -/
@[simp]
theorem cast_cast (u v : Subject) (r : Reference s) : (r.cast u).cast v = r.cast v := rfl

/-- The subject of a reference can be given to it again. -/
@[simp]
theorem cast_self (r : Reference s) : r.cast s = r := rfl

end Reference

end ServiceWatch
