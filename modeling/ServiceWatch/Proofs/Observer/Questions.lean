import ServiceWatch.Proofs.Tracker.Trace

/-!
# Questions to observers

A callback seen from the observer's side: a question with its arguments, the answer to it, and the
state that the observer is in afterwards. The observer's state changes by questions alone
(`Trace.state_eq`).
-/

namespace ServiceWatch

variable {rep : Representation} {σ : Type}

/-- What an observer is asked, with all that it is given. -/
inductive Question (rep : Representation)
  | adding (r : Reference rep.subject)
  | modified (r : Reference rep.subject) (v : rep.Value)
  | removed (r : Reference rep.subject) (v : rep.Value)

/-- The service that a question is about. -/
def Question.id : Question rep → ServiceId
  | adding r => r.id
  | modified r _ => r.id
  | removed r _ => r.id

namespace Callback

/-- The question that a callback puts. -/
def question : Callback rep → Question rep
  | adding r _ => .adding r
  | modified r v _ => .modified r v
  | removed r v _ => .removed r v

/-- The question behind a callback is about the same service. -/
@[simp]
lemma id_question (c : Callback rep) : c.question.id = c.reference.id := by
  cases c <;> rfl

end Callback

namespace Observer

/-- What comes back on a question: the answer, or what has become of the value. -/
def answer (o : Observer rep σ) : Question rep → σ → Except Fault rep.Value
  | .adding r, st => (o.adding r st).answer
  | .modified r v, st => .ok (rep.settle v (o.modified r v st).answer)
  | .removed r v, st => .ok (rep.settle v (o.removed r v st).answer)

/-- The observer's state after a question. -/
def hear (o : Observer rep σ) (st : σ) : Question rep → σ
  | .adding r => (o.adding r st).state
  | .modified r v => (o.modified r v st).state
  | .removed r v => (o.removed r v st).state

/-- The records that an observer makes on a question. -/
def said (o : Observer rep σ) : Question rep → σ → List Record
  | .adding r, st => (o.adding r st).log
  | .modified r v, st => (o.modified r v st).log
  | .removed r v, st => (o.removed r v st).log

/-- The observer's state after questions put one after the other. -/
def hearAll (o : Observer rep σ) (qs : List (Question rep)) (st : σ) : σ := qs.foldl o.hear st

end Observer

namespace Tracker

variable {o : Observer rep σ} {t t' : Tracker rep} {st st' : σ}

/-- A move leads the observer where hearing its question does. -/
lemma Move.state_eq {c : Callback rep} (move : Move o t st c t' st') :
    st' = o.hear st c.question := by
  cases move <;> rfl

/-- The observer's state is the one that the questions put to it lead to. -/
lemma Trace.state_eq {cs : List (Callback rep)} (trace : Trace o t st cs t' st') :
    st' = o.hearAll (cs.map Callback.question) st := by
  induction trace with
  | nil => rfl
  | cons move _ ih => rw [ih, move.state_eq]; rfl

end Tracker

end ServiceWatch
