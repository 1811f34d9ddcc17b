import ServiceWatch.Proofs.Tracker.Agreement
import ServiceWatch.Proofs.Tracker.Fate
import ServiceWatch.World.Pair

/-!
# Separation

Without a capacity, services have nothing to do with one another: a tracker deals with the events of
one service as if there were no others, provided that its observer does so too. An observer
`Separates` if what it answers about a service is settled by what it was asked about this service.
The two runs that are compared, one on all events and one on those of a single service, are tied
together by `Mirrors`: the service has the same slot in both, and in both the observer was asked the
same about it.
-/

namespace ServiceWatch

variable {rep : Representation} {σ : Type}

/-- The questions about one service. -/
def Question.about (id : ServiceId) (qs : List (Question rep)) : List (Question rep) :=
  qs.filter fun q => q.id = id

/-- The events of one service. -/
def Event.about {s : Subject} (id : ServiceId) (es : List (Event s)) : List (Event s) :=
  es.filter fun e => e.id = id

/-- The observer, from a state on, answers about each service by what it was asked about it. -/
def Observer.Separates (o : Observer rep σ) (st : σ) : Prop :=
  ∀ qs qs' q, Question.about q.id qs = Question.about q.id qs' →
    o.answer q (o.hearAll qs st) = o.answer q (o.hearAll qs' st)

namespace Question

variable {id : ServiceId}

/-- What is about a service in two lists is what is about it in both. -/
@[simp]
lemma about_append (qs qs' : List (Question rep)) :
    about id (qs ++ qs') = about id qs ++ about id qs' :=
  List.filter_append ..

/-- The questions about a service are those of the callbacks about it. -/
lemma about_map_question (cs : List (Callback rep)) :
    about id (cs.map Callback.question) = (Callback.about id cs).map Callback.question := by
  rw [about, List.filter_map]
  congr 1
  exact List.filter_congr fun c _ => by simp

end Question

/-- What an outcome says to the outside: its result and its callbacks. -/
def Outcome.reply {α : Type} (out : Outcome rep σ α) : α × List (Callback rep) :=
  (out.result, out.calls)

namespace Tracker

open Callback

/-- What a tracker makes of events that come in one after the other. -/
def takeIn (t : Tracker rep) (o : Observer rep σ) (es : List (Event rep.subject)) (st : σ) :
    List (Outcome rep σ Result) :=
  t.run o (es.map .apply) st

/-- What the events of one service come to, among all events and their outcomes. -/
def outcomesFor (id : ServiceId) (es : List (Event rep.subject))
    (outs : List (Outcome rep σ Result)) : List (Outcome rep σ Result) :=
  ((es.zip outs).filter fun p => p.1.id = id).map Prod.snd

variable {o : Observer rep σ} {id : ServiceId} {st₀ st st' : σ} {t u : Tracker rep}

/-- The first event is taken in, and then the others. -/
lemma takeIn_cons (t : Tracker rep) (o : Observer rep σ) (e : Event rep.subject)
    (es : List (Event rep.subject)) (st : σ) :
    t.takeIn o (e :: es) st = t.perform o (.apply e) st ::
      (t.apply o e st).tracker.takeIn o es (t.apply o e st).state :=
  rfl

/-- The first outcome counts for a service if its event does. -/
lemma outcomesFor_cons (e : Event rep.subject) (es : List (Event rep.subject))
    (out : Outcome rep σ Result) (outs : List (Outcome rep σ Result)) :
    outcomesFor id (e :: es) (out :: outs) =
      if e.id = id then out :: outcomesFor id es outs else outcomesFor id es outs := by
  by_cases h : e.id = id <;> simp [outcomesFor, h]

/-- Two trackers without capacities keep the same for a service, and their observers were asked the
same about it. -/
structure Mirrors (o : Observer rep σ) (id : ServiceId) (st₀ : σ) (t : Tracker rep) (st : σ)
    (u : Tracker rep) (st' : σ) : Prop where
  keyed : t.Keyed
  keyed' : u.Keyed
  unbounded : t.config.capacity = none
  config_eq : t.config = u.config
  slot_eq : t.slots.get? id = u.slots.get? id
  heard : ∃ qs qs', st = o.hearAll qs st₀ ∧ st' = o.hearAll qs' st₀ ∧
    Question.about id qs = Question.about id qs'

/-- Trackers that mirror each other for a service are alike to its news. -/
lemma Mirrors.alike (mirrors : Mirrors o id st₀ t st u st') : AlikeFor id t u where
  eager := by rw [mirrors.config_eq]
  room := by
    have unbounded' : u.config.capacity = none := by rw [← mirrors.config_eq, mirrors.unbounded]
    rw [reached?_of_unbounded mirrors.unbounded, reached?_of_unbounded unbounded']
  slot := mirrors.slot_eq

/-- If questions are separate, observers of trackers that mirror each other agree on the service. -/
lemma Mirrors.agree (mirrors : Mirrors o id st₀ t st u st') (separates : o.Separates st₀) :
    o.AgreeOn id st o st' := by
  obtain ⟨qs, qs', rfl, rfl, same⟩ := mirrors.heard
  rintro q rfl
  exact separates qs qs' q same

/-- Trackers go on mirroring each other if slot and questions of the service stay the same. -/
lemma Mirrors.extend {t₁ u₁ : Tracker rep} {st₁ st₁' : σ} {cs cs' : List (Callback rep)}
    (mirrors : Mirrors o id st₀ t st u st') (trace : Trace o t st cs t₁ st₁)
    (trace' : Trace o u st' cs' u₁ st₁') (slot_eq : t₁.slots.get? id = u₁.slots.get? id)
    (asked : about id cs = about id cs') : Mirrors o id st₀ t₁ st₁ u₁ st₁' := by
  obtain ⟨qs, qs', rfl, rfl, same⟩ := mirrors.heard
  refine ⟨trace.keyed mirrors.keyed, trace'.keyed mirrors.keyed', ?_, ?_, slot_eq,
    qs ++ cs.map question, qs' ++ cs'.map question, ?_, ?_, ?_⟩
  · rw [trace.config_eq, mirrors.unbounded]
  · rw [trace.config_eq, trace'.config_eq, mirrors.config_eq]
  · rw [trace.state_eq, Observer.hearAll, Observer.hearAll, Observer.hearAll, List.foldl_append]
  · rw [trace'.state_eq, Observer.hearAll, Observer.hearAll, Observer.hearAll, List.foldl_append]
  · rw [Question.about_append, Question.about_append, same, Question.about_map_question,
      Question.about_map_question, asked]

/-- News of another service reaches the first tracker only. -/
lemma Mirrors.skip (mirrors : Mirrors o id st₀ t st u st') {e : Event rep.subject}
    (other : e.id ≠ id) :
    about id (t.apply o e st).calls = [] ∧
      Mirrors o id st₀ (t.apply o e st).tracker (t.apply o e st).state u st' := by
  obtain ⟨silent, untouched⟩ :=
    perform_of_ne (o := o) t mirrors.keyed (.apply e) rfl other st
  refine ⟨silent, mirrors.extend ((apply_intake t o e st).trace mirrors.keyed) .nil ?_ silent⟩
  rw [← mirrors.slot_eq]
  exact untouched

/-- News of the service reaches both, and they reply alike. -/
lemma Mirrors.step {e : Event rep.subject} (mirrors : Mirrors o e.id st₀ t st u st')
    (separates : o.Separates st₀) :
    (t.apply o e st).AgreeOn e.id (u.apply o e st') ∧
      Mirrors o e.id st₀ (t.apply o e st).tracker (t.apply o e st).state
        (u.apply o e st').tracker (u.apply o e st').state := by
  have agrees := apply_agrees mirrors.keyed mirrors.alike (mirrors.agree separates)
  refine ⟨agrees, mirrors.extend ((apply_intake t o e st).trace mirrors.keyed)
    ((apply_intake u o e st').trace mirrors.keyed') agrees.slot_eq ?_⟩
  rw [agrees.calls_eq]

/-- One tracker takes all events in, and the other those of one service. -/
lemma Mirrors.takeIn (mirrors : Mirrors o id st₀ t st u st') (separates : o.Separates st₀)
    (es : List (Event rep.subject)) :
    let own := Event.about id es
    (outcomesFor id es (t.takeIn o es st)).map Outcome.reply =
        (u.takeIn o own st').map Outcome.reply ∧
      about id (t.calls o (es.map .apply) st) = u.calls o (own.map .apply) st' ∧
      Mirrors o id st₀ (t.after o (es.map .apply) st).1 (t.after o (es.map .apply) st).2
        (u.after o (own.map .apply) st').1 (u.after o (own.map .apply) st').2 := by
  induction es generalizing t st u st' with
  | nil => exact ⟨rfl, rfl, mirrors⟩
  | cons e es ih =>
    by_cases h : e.id = id
    · -- Both take the event in, with the same reply.
      subst h
      obtain ⟨agrees, next⟩ := mirrors.step separates
      obtain ⟨replies, calls, final⟩ := ih next
      have own : Event.about e.id (e :: es) = e :: Event.about e.id es :=
        List.filter_cons_of_pos (decide_eq_true rfl)
      have all : about e.id (t.apply o e st).calls = (t.apply o e st).calls :=
        about_of_forall fun c hc => ((apply_intake t o e st).isAdding_eq mirrors.keyed c hc).2
      have reply : (t.perform o (.apply e) st).reply = (u.perform o (.apply e) st').reply :=
        Prod.ext (congrArg Result.applied agrees.result_eq) agrees.calls_eq
      rw [own]
      refine ⟨?_, ?_, final⟩
      · rw [takeIn_cons, takeIn_cons, outcomesFor_cons, if_pos rfl, List.map_cons, List.map_cons,
          reply, replies]
      · rw [List.map_cons, List.map_cons, calls_cons, calls_cons, about_append]
        exact congrArg₂ _ (all.trans agrees.calls_eq) calls
    · -- Only the first takes the event in, which shows nowhere.
      obtain ⟨silent, next⟩ := mirrors.skip h
      obtain ⟨replies, calls, final⟩ := ih next
      have own : Event.about id (e :: es) = Event.about id es :=
        List.filter_cons_of_neg (by simpa using h)
      rw [own]
      refine ⟨?_, ?_, final⟩
      · rw [takeIn_cons, outcomesFor_cons, if_neg h]
        exact replies
      · rw [List.map_cons, calls_cons, about_append]
        exact (congrArg (· ++ _) silent).trans calls

/-- A fresh tracker mirrors itself. -/
lemma mirrors_fresh {config : Config} (unbounded : config.capacity = none) (o : Observer rep σ)
    (id : ServiceId) (st : σ) : Mirrors o id st (fresh config) st (fresh config) st where
  keyed := keyed_fresh config
  keyed' := keyed_fresh config
  unbounded := unbounded
  config_eq := rfl
  slot_eq := rfl
  heard := ⟨[], [], rfl, rfl, rfl⟩

/-- Services do not influence each other where there is no capacity. Under an observer that keeps
them apart, the events of a service have the same results and make the same callbacks as if they had
been the only ones, and the service has the same slot in the end. So it does not matter how the
events of different services are mixed. -/
theorem takeIn_about (config : Config) (unbounded : config.capacity = none) (o : Observer rep σ)
    (st : σ) (separates : o.Separates st) (es : List (Event rep.subject)) :
    (∀ id,
      let own := Event.about id es
      let t := ((fresh config).after o (es.map .apply) st).1
      let alone := ((fresh config).after o (own.map .apply) st).1
      (outcomesFor id es ((fresh config).takeIn o es st)).map Outcome.reply =
          ((fresh config).takeIn o own st).map Outcome.reply ∧
        about id ((fresh config).calls o (es.map .apply) st) =
          (fresh config).calls o (own.map .apply) st ∧
        t.slots.get? id = alone.slots.get? id) ∧
    ∀ es', (∀ id, Event.about id es = Event.about id es') →
      ((fresh config).after o (es.map .apply) st).1 =
        ((fresh config).after o (es'.map .apply) st).1 := by
  have mirrored (es : List (Event rep.subject)) (id : ServiceId) :=
    (mirrors_fresh unbounded o id st).takeIn separates es
  refine ⟨fun id => ?_, fun es' same => ?_⟩
  · obtain ⟨replies, calls, final⟩ := mirrored es id
    exact ⟨replies, calls, final.slot_eq⟩
  · refine ext_slots ?_ fun id => ?_
    · rw [config_after, config_after]
    · rw [(mirrored es id).2.2.slot_eq, same id, (mirrored es' id).2.2.slot_eq]

/-- The lease for a term. -/
def leaseFor (n : Nat) : Pair.lease.rep.Value := (⟨some (UInt32.ofNat n)⟩ : Lease)

/-- Leases whose term is how often the observer was asked about the service before. -/
def counting : Observer Pair.lease.rep (List ServiceId) where
  adding r st := ⟨.ok (leaseFor (st.count r.id)), r.id :: st, []⟩
  modified r _ st := ⟨leaseFor (st.count r.id), r.id :: st, []⟩
  removed r v st := ⟨v, r.id :: st, []⟩

/-- The counting observer counts the questions about a service. -/
lemma count_hearAll_counting (id : ServiceId) (qs : List (Question Pair.lease.rep))
    (st : List ServiceId) :
    (counting.hearAll qs st).count id = (Question.about id qs).length + st.count id := by
  induction qs generalizing st with
  | nil => simp [Observer.hearAll, Question.about]
  | cons q qs ih =>
    have heard : counting.hear st q = q.id :: st := by cases q <;> rfl
    have next : counting.hearAll (q :: qs) st = counting.hearAll qs (q.id :: st) := by
      rw [← heard]
      rfl
    rw [next, ih, Question.about, Question.about, List.count_cons, List.filter_cons]
    by_cases h : q.id = id
    · simp [h]
      omega
    · simp [h]

/-- What the counting observer answers about a service depends on the questions about it only. -/
lemma counting_separates : counting.Separates [] := by
  intro qs qs' q same
  have count : (counting.hearAll qs []).count q.id = (counting.hearAll qs' []).count q.id := by
    rw [count_hearAll_counting, count_hearAll_counting, same]
  cases q with
  | adding r => exact congrArg (fun n => Except.ok (leaseFor n)) count
  | modified r _ => exact congrArg (fun n => Except.ok (leaseFor n)) count
  | removed => rfl

/-- News of two services, mixed. -/
def mixed : List (Event Pair.lease.rep.subject) :=
  [.registered ⟨⟨1⟩, 0⟩, .registered ⟨⟨2⟩, 3⟩, .modified ⟨⟨1⟩, 4⟩, .unregistering ⟨⟨1⟩, 4⟩,
    .modified ⟨⟨2⟩, 5⟩, .registered ⟨⟨1⟩, 6⟩]

/-- The same news, service by service. -/
def sorted : List (Event Pair.lease.rep.subject) := Event.about ⟨2⟩ mixed ++ Event.about ⟨1⟩ mixed

/-- Mixed or not, the second service has a lease for one term and the first, which was asked about
three times before it came back, one for three. -/
theorem takeIn_about_mixed :
    let t := ((fresh .standard).after counting (mixed.map .apply) []).1
    let t' := ((fresh .standard).after counting (sorted.map .apply) []).1
    Config.standard.capacity = none ∧ counting.Separates [] ∧
      (∀ id, Event.about id mixed = Event.about id sorted) ∧
      t.slots.get? ⟨1⟩ = some ⟨⟨⟨1⟩, 6⟩, leaseFor 3⟩ ∧
      t.slots.get? ⟨2⟩ = some ⟨⟨⟨2⟩, 5⟩, leaseFor 1⟩ ∧ t = t' := by
  intro t t'
  have same : ∀ id, Event.about id mixed = Event.about id sorted := by
    intro id
    by_cases one : id = ⟨1⟩
    · subst one
      decide
    · by_cases two : id = ⟨2⟩
      · subst two
        decide
      · simp [Event.about, mixed, sorted, Event.id, Event.reference, Ne.symm one, Ne.symm two]
  exact ⟨rfl, counting_separates, same, by rfl, by rfl,
    (takeIn_about .standard rfl counting [] counting_separates mixed).2 sorted same⟩

end Tracker

end ServiceWatch
