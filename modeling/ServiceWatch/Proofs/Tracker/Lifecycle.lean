import Mathlib.Computability.RegularExpressions
import ServiceWatch.Proofs.Tracker.Trace

/-!
# Lifecycles

The callbacks made for one service, in order, are a word over `Phase`. The words that can come up
are those of a regular expression: any number of refusals and of finished lives, and then at most
one life that is still going on. `Phase.walk` reads such words with one bit of memory, whether the
service is tracked; a word is read to its end exactly if it is one of them (`walk_eq_some_iff`),
and a tracker keeps that bit for each of its services (`Trace.walk`).
-/

namespace ServiceWatch

/-- What a callback is in the life of its service. -/
inductive Phase
  | rejected
  | accepted
  | modified
  | removed
  deriving DecidableEq

namespace Callback

variable {rep : Representation}

/-- What the callback is in the life of its service. -/
def phase : Callback rep → Phase
  | adding _ answer => if rep.accepts answer then .accepted else .rejected
  | modified _ _ _ => .modified
  | removed _ _ _ => .removed

/-- Whether the callback asks what to keep. -/
def isAdding : Callback rep → Bool
  | adding _ _ => true
  | _ => false

/-- The phases through which callbacks lead one service. -/
def phases (id : ServiceId) (cs : List (Callback rep)) : List Phase :=
  (cs.filter fun c => c.reference.id = id).map phase

end Callback

namespace Phase

open RegularExpression

/-- The life of a service from when it is taken up. -/
def life : RegularExpression Phase := char accepted * star (char modified)

/-- A part of a service's history that leaves it untracked again. -/
def episode : RegularExpression Phase := char rejected + life * char removed

/-- The histories of services that are not tracked in the end. -/
def ended : RegularExpression Phase := star episode

/-- The histories of services that are tracked in the end. -/
def ongoing : RegularExpression Phase := ended * life

/-- The histories that end with a service tracked or not. -/
def history : Bool → RegularExpression Phase
  | true => ongoing
  | false => ended

/-- Whether a service is tracked after a phase; there are phases that an untracked service cannot
enter, and one that a tracked service cannot. -/
def next : Bool → Phase → Option Bool
  | false, rejected => some false
  | false, accepted => some true
  | true, modified => some true
  | true, removed => some false
  | _, _ => none

/-- Whether a service is tracked after some phases, if it can go through them. -/
def walk (tracked : Bool) (w : List Phase) : Option Bool := w.foldlM next tracked

/-- A walk along two words goes along the first and then along the second. -/
lemma walk_append (tracked : Bool) (v w : List Phase) :
    walk tracked (v ++ w) = (walk tracked v).bind fun tracked => walk tracked w :=
  List.foldlM_append

/-- A walk begins with its first phase. -/
lemma walk_cons (tracked : Bool) (p : Phase) (w : List Phase) :
    walk tracked (p :: w) = (next tracked p).bind fun tracked => walk tracked w :=
  List.foldlM_cons

/-- Words that each lead back to where they start can be joined. -/
lemma walk_flatten {tracked : Bool} {parts : List (List Phase)}
    (loops : ∀ v ∈ parts, walk tracked v = some tracked) :
    walk tracked parts.flatten = some tracked := by
  induction parts with
  | nil => rfl
  | cons v parts ih =>
    rw [List.flatten_cons, walk_append, loops v List.mem_cons_self]
    exact ih fun u hu => loops u (List.mem_cons_of_mem v hu)

/-- Changes leave a service tracked. -/
lemma walk_of_mem_star_modified {w : List Phase} (h : w ∈ (star (char modified)).matches') :
    walk true w = some true := by
  rw [matches'_star, matches'_char] at h
  obtain ⟨parts, rfl, single⟩ := Language.mem_kstar.1 h
  refine walk_flatten fun v hv => ?_
  rw [show v = [modified] from single v hv]
  rfl

/-- A life ends with the service tracked. -/
lemma walk_of_mem_life {w : List Phase} (h : w ∈ life.matches') : walk false w = some true := by
  rw [life, matches'_mul, matches'_char] at h
  obtain ⟨_, rfl, v, hv, rfl⟩ := Language.mem_mul.1 h
  rw [walk_append, show walk false [accepted] = some true from rfl]
  exact walk_of_mem_star_modified hv

/-- An episode ends with the service untracked. -/
lemma walk_of_mem_episode {w : List Phase} (h : w ∈ episode.matches') :
    walk false w = some false := by
  rw [episode, matches'_add, matches'_mul, matches'_char, matches'_char] at h
  rcases (Language.mem_add _ _ _).1 h with rfl | h
  · rfl
  · obtain ⟨v, hv, _, rfl, rfl⟩ := Language.mem_mul.1 h
    rw [walk_append, walk_of_mem_life hv]
    rfl

/-- Episodes after episodes end with the service untracked. -/
lemma walk_of_mem_ended {w : List Phase} (h : w ∈ ended.matches') : walk false w = some false := by
  rw [ended, matches'_star] at h
  obtain ⟨parts, rfl, each⟩ := Language.mem_kstar.1 h
  exact walk_flatten fun v hv => walk_of_mem_episode (each v hv)

/-- A history can be walked to its end. -/
lemma walk_of_mem_history {tracked : Bool} {w : List Phase}
    (h : w ∈ (history tracked).matches') : walk false w = some tracked := by
  cases tracked with
  | false => exact walk_of_mem_ended h
  | true =>
    rw [history, ongoing, matches'_mul] at h
    obtain ⟨u, hu, v, hv, rfl⟩ := Language.mem_mul.1 h
    rw [walk_append, walk_of_mem_ended hu]
    exact walk_of_mem_life hv

/-- A service of which nothing was heard has a history. -/
lemma nil_mem_ended : [] ∈ ended.matches' := Language.nil_mem_kstar _

/-- An episode may come before others. -/
lemma append_mem_ended {v w : List Phase} (hv : v ∈ episode.matches') (hw : w ∈ ended.matches') :
    v ++ w ∈ ended.matches' := by
  rw [ended, matches'_star] at hw ⊢
  rw [← Language.one_add_self_mul_kstar_eq_kstar]
  exact Or.inr (Language.append_mem_mul hv hw)

/-- An episode may come before any history. -/
lemma append_mem_history {tracked : Bool} {v w : List Phase} (hv : v ∈ episode.matches')
    (hw : w ∈ (history tracked).matches') : v ++ w ∈ (history tracked).matches' := by
  cases tracked with
  | false => exact append_mem_ended hv hw
  | true =>
    rw [history, ongoing, matches'_mul] at hw ⊢
    obtain ⟨a, ha, b, hb, rfl⟩ := Language.mem_mul.1 hw
    rw [← List.append_assoc]
    exact Language.append_mem_mul (append_mem_ended hv ha) hb

/-- A service that is taken up may change any number of times. -/
lemma life_mem (n : Nat) : accepted :: List.replicate n modified ∈ life.matches' := by
  rw [life, matches'_mul, matches'_star, matches'_char, matches'_char]
  refine Language.append_mem_mul (a := [accepted]) rfl ?_
  induction n with
  | zero => exact Language.nil_mem_kstar _
  | succ n ih =>
    rw [← Language.one_add_self_mul_kstar_eq_kstar]
    exact Or.inr (Language.append_mem_mul (a := [modified]) rfl ih)

/-- What can be walked is a history. For a service that is tracked the phases so far stand in
front: it was taken up and then changed some number of times. -/
lemma mem_history_of_walk {tracked : Bool} (w : List Phase) :
    (walk false w = some tracked → w ∈ (history tracked).matches') ∧
      (walk true w = some tracked → ∀ n,
        accepted :: (List.replicate n modified ++ w) ∈ (history tracked).matches') := by
  induction w with
  | nil =>
    constructor
    · rintro ⟨⟩
      exact nil_mem_ended
    · rintro ⟨⟩ n
      rw [List.append_nil, history, ongoing, matches'_mul]
      exact Language.append_mem_mul (a := []) nil_mem_ended (life_mem n)
  | cons p w ih =>
    obtain ⟨untracked, tracked⟩ := ih
    constructor
    · intro h
      rw [walk_cons] at h
      cases p with
      | rejected => exact append_mem_history (v := [rejected]) (Or.inl rfl) (untracked h)
      | accepted => exact tracked h 0
      | modified => cases h
      | removed => cases h
    · intro h n
      rw [walk_cons] at h
      cases p with
      | rejected => cases h
      | accepted => cases h
      | modified =>
        have longer := tracked h (n + 1)
        rw [List.replicate_succ', List.append_assoc] at longer
        exact longer
      | removed =>
        have finished : accepted :: List.replicate n modified ++ [removed] ∈ episode.matches' :=
          Or.inr (Language.append_mem_mul (life_mem n) rfl)
        have longer := append_mem_history finished (untracked h)
        rwa [List.append_assoc] at longer

/-- The words that can be walked from the start are the histories. -/
theorem walk_eq_some_iff {tracked : Bool} {w : List Phase} :
    walk false w = some tracked ↔ w ∈ (history tracked).matches' :=
  ⟨(mem_history_of_walk w).1, walk_of_mem_history⟩

end Phase

namespace Tracker

open Callback Phase

variable {rep : Representation} {σ : Type} {o : Observer rep σ} {t t' : Tracker rep} {st st' : σ}

/-- A move takes the service it is about into the next phase. -/
lemma Move.next {c} (move : Move o t st c t' st') :
    next (t.contains c.reference.id) c.phase = some (t'.contains c.reference.id) := by
  cases move with
  | failed untracked answer =>
    simp [reference, phase, Representation.accepts, not_contains_iff.2 untracked, Phase.next]
  | declined untracked answer absent =>
    simp [reference, phase, Representation.accepts, absent, not_contains_iff.2 untracked,
      Phase.next]
  | added untracked answer present =>
    simp [reference, phase, Representation.accepts, present, not_contains_iff.2 untracked,
      contains_store, Phase.next]
  | modified found _ =>
    simp [reference, phase, contains_iff.2 ⟨_, found⟩, contains_store, Phase.next]
  | removed found _ =>
    simp [reference, phase, contains_iff.2 ⟨_, found⟩, contains_drop, Phase.next]

/-- A move leaves all other services tracked or untracked as they are. -/
lemma Move.contains_of_ne {c} (move : Move o t st c t' st') {id : ServiceId}
    (other : c.reference.id ≠ id) : t'.contains id = t.contains id := by
  cases move with
  | failed => rfl
  | declined => rfl
  | added => exact contains_store_of_ne other
  | modified => exact contains_store_of_ne other
  | removed => exact contains_drop_of_ne other

/-- Callbacks lead every service on from whether it is tracked to whether it is tracked. -/
lemma Trace.walk {cs} (trace : Trace o t st cs t' st') (id : ServiceId) :
    walk (t.contains id) (phases id cs) = some (t'.contains id) := by
  induction trace with
  | nil => rfl
  | @cons t st c t' st' cs t'' st'' move _ ih =>
    by_cases h : c.reference.id = id
    · subst h
      rw [phases, List.filter_cons_of_pos (by simp), List.map_cons, walk_cons, move.next]
      exact ih
    · rw [phases, List.filter_cons_of_neg (by simpa using h), ← move.contains_of_ne h]
      exact ih

/-- An event makes at most one callback, about its own service. -/
lemma Intake.calls_le {e out} (intake : Intake o t st e out) : out.calls.length ≤ 1 := by
  cases intake <;> simp

/-- An event asks about its service if it is not tracked, and tells of it if it is. -/
lemma Intake.isAdding_eq {e out} (intake : Intake o t st e out) (keyed : t.Keyed) :
    ∀ c ∈ out.calls, c.isAdding = !t.contains c.reference.id ∧ c.reference.id = e.id := by
  cases intake with
  | known | full | ignoring | notTracked => simp
  | failed offers | declined offers | added offers =>
    simp [isAdding, reference, not_contains_iff.2 offers.untracked, offers.id_eq]
  | modified found _ =>
    simp [isAdding, reference, contains_iff.2 ⟨_, found⟩, Event.id, Event.reference]
  | removed found _ =>
    simp [isAdding, reference, contains_iff.2 ⟨_, found⟩, Event.id, Event.reference,
      keyed _ _ found]

/-- A removal is told once at most. -/
lemma remove_calls_le (t : Tracker rep) (o : Observer rep σ) (id : ServiceId) (st : σ) :
    (t.remove o id st).calls.length ≤ 1 := by
  cases h : t.slots.get? id with
  | none => simp [remove_of_untracked h]
  | some slot => simp [remove_of_tracked h]

/-- A removal is told of the service alone, and only if it is tracked. -/
lemma remove_isAdding (t : Tracker rep) (keyed : t.Keyed) (id : ServiceId) (st : σ) :
    ∀ c ∈ (t.remove o id st).calls,
      c.isAdding = false ∧ c.reference.id = id ∧ t.contains id = true := by
  cases h : t.slots.get? id with
  | none => simp [remove_of_untracked h]
  | some slot =>
    obtain rfl := keyed _ _ h
    simp [remove_of_tracked h, isAdding, reference, contains_iff.2 ⟨_, h⟩]

/-- Removals are told of services that are tracked. -/
lemma removeAll_isAdding (t : Tracker rep) (keyed : t.Keyed) (ids : List ServiceId) (st : σ) :
    ∀ c ∈ (t.removeAll o ids st).calls,
      c.isAdding = false ∧ t.contains c.reference.id = true := by
  induction ids generalizing t st with
  | nil => nofun
  | cons id ids ih =>
    intro c hc
    rw [removeAll] at hc
    rcases List.mem_append.1 hc with hc | hc
    · obtain ⟨told, rfl, tracked⟩ := remove_isAdding t keyed id st c hc
      exact ⟨told, tracked⟩
    · have keyed' := (remove_trace (o := o) t keyed id st).keyed keyed
      obtain ⟨told, tracked⟩ := ih _ keyed' _ c hc
      rw [remove_tracker, contains_drop] at tracked
      exact ⟨told, (Bool.and_eq_true_iff.1 tracked).2⟩

/-- Callbacks ask about services that are not tracked and tell of those that are. -/
lemma perform_isAdding_eq (t : Tracker rep) (keyed : t.Keyed) (op : Operation rep.subject)
    (st : σ) : ∀ c ∈ (t.perform o op st).calls, c.isAdding = !t.contains c.reference.id := by
  intro c hc
  cases op with
  | apply e => exact ((apply_intake t o e st).isAdding_eq keyed c hc).1
  | remove id =>
    obtain ⟨told, rfl, tracked⟩ := remove_isAdding t keyed id st c hc
    rw [told, tracked]
    rfl
  | close =>
    have hc : c ∈ (t.close o st).calls := hc
    rw [calls_close] at hc
    obtain ⟨told, tracked⟩ := removeAll_isAdding t keyed t.ids st c hc
    rw [told, tracked]
    rfl

/-- An operation on one service makes at most one callback, about this service. -/
lemma perform_calls_of_id? (t : Tracker rep) (keyed : t.Keyed) {op : Operation rep.subject}
    {id : ServiceId} (named : op.id? = some id) (st : σ) :
    (t.perform o op st).calls.length ≤ 1 ∧
      ∀ c ∈ (t.perform o op st).calls, c.reference.id = id := by
  cases op with
  | apply e =>
    cases named
    have intake := apply_intake t o e st
    exact ⟨intake.calls_le, fun c hc => (intake.isAdding_eq keyed c hc).2⟩
  | remove id =>
    cases named
    exact ⟨remove_calls_le t o _ st, fun c hc => (remove_isAdding t keyed _ st c hc).2.1⟩
  | close => cases named

/-- Callbacks follow the life of services. After any operations on an empty tracker, under any
observer, the callbacks about a service are refusals and finished lives, with a life that is still
going on at the end exactly if the service is tracked. A further operation asks only about services
that are not tracked and tells only of those that are; if it is on one service, it makes at most
one callback, about this service. -/
theorem calls_follow_lives (config : Config) (o : Observer rep σ) (st : σ)
    (ops : List (Operation rep.subject)) :
    let cs := (fresh config).calls o ops st
    let t := ((fresh config).after o ops st).1
    let st' := ((fresh config).after o ops st).2
    (∀ id, phases id cs ∈ (ended + ongoing).matches' ∧
      (phases id cs ∈ ongoing.matches' ↔ t.contains id = true)) ∧
    ∀ op, (∀ c ∈ (t.perform o op st').calls, c.isAdding = !t.contains c.reference.id) ∧
      ∀ id, op.id? = some id → (t.perform o op st').calls.length ≤ 1 ∧
        ∀ c ∈ (t.perform o op st').calls, c.reference.id = id := by
  intro cs t st'
  have keyed : t.Keyed := after_keyed config ops st
  refine ⟨fun id => ?_, fun op => ⟨perform_isAdding_eq t keyed op st', fun id named =>
    perform_calls_of_id? t keyed named st'⟩⟩
  have walked : walk false (phases id cs) = some (t.contains id) :=
    (run_trace (fresh config) (keyed_fresh config) ops st).walk id
  have mem := walk_eq_some_iff.1 walked
  constructor
  · rw [RegularExpression.matches'_add]
    cases tracked : t.contains id with
    | false => rw [tracked] at mem; exact Or.inl mem
    | true => rw [tracked] at mem; exact Or.inr mem
  · constructor
    · intro going
      have walked' := @walk_of_mem_history true _ going
      rw [walked] at walked'
      exact Option.some.inj walked'
    · intro tracked
      rw [tracked] at mem
      exact mem

end Tracker

end ServiceWatch
