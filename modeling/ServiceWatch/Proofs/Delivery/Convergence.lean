import ServiceWatch.Proofs.Delivery.Standing
import ServiceWatch.Proofs.Registry.Alike

/-!
# Convergence

A tracker without a capacity catches up with its registry, however late the news is and in whatever
order different services are heard of. `Sound` is the invariant: every service is in one of the
combinations of `Standing`, and nothing is known of a number that is not given out yet. It holds at
first, and each step keeps it as long as there are numbers left (`Sound.step`). Where nothing is in
flight any more, `Standing.settled` turns it into what is tracked (`Sound.settled`), and delivering
what is in flight leads there (`tracked_settle`).
-/

namespace ServiceWatch

namespace Registry

variable {s : Subject} {g g' : Registry} {a : Action} {es : List (Event s)}

/-- While there are numbers left, no action makes anything known of those that are not given out. -/
lemma Raises.unissued (raises : g.Raises a es g')
    (room : g.issued.toNat + (if a.isRegistration then 1 else 0) < UInt64.size) {id : ServiceId}
    (unissued : g'.issued.toNat < id.number.toNat) (absent : g.live.get? id = none) :
    g'.live.get? id = none ∧ es.filter (fun e => e.id = id) = [] := by
  cases raises with
  | registered =>
    have other : id ≠ g.next := by
      rintro rfl
      exact Nat.lt_irrefl _ unissued
    refine ⟨?_, ?_⟩
    · rw [Table.get?_insert, if_neg other]
      exact absent
    · simp [Event.id, Event.reference, other.symm]
  | @modified id' _ _ found =>
    have other : id ≠ id' := ne_of_live absent found
    refine ⟨?_, ?_⟩
    · rw [Table.get?_insert, if_neg other]
      exact absent
    · simp [Event.id, Event.reference, other.symm]
  | @unregistering id' _ found =>
    have other : id ≠ id' := ne_of_live absent found
    refine ⟨?_, ?_⟩
    · rw [Table.get?_erase, if_neg other]
      exact absent
    · simp [Event.id, Event.reference, other.symm]
  | unranked => exact ⟨absent, rfl⟩
  | unknown => exact ⟨absent, rfl⟩

end Registry

namespace Tracker

variable {rep : Representation} {t : Tracker rep} {g : Registry} {name : String}
  {e : Event rep.subject} {out : Outcome rep Registry (Except Fault Change)}

/-- Taking news in changes neither what is registered nor the numbers. -/
lemma Intake.alike (intake : Intake (.standard rep Registry.context name) t g e out)
    (keyed : t.Keyed) : out.state.Alike g := by
  rw [(intake.trace keyed).state_eq]
  exact Observer.alike_hearAll_standard ..

end Tracker

namespace Delivery

open Tracker

variable {rep : Representation} {snapshot : Offering → rep.Value} {d : Delivery rep}

section Queue

variable {α : Type} (p q : α → Bool) (l : List α)

/-- Erasing the first item with a property takes the first of those that have it. -/
lemma filter_eraseP_self : (l.eraseP p).filter p = (l.filter p).tail := by
  induction l with
  | nil => rfl
  | cons a l ih => cases h : p a <;> simp [h, ih]

/-- Erasing an item leaves those alone that have a property it cannot have. -/
lemma filter_eraseP_of_disjoint (disjoint : ∀ a, p a = true → q a = false) :
    (l.eraseP p).filter q = l.filter q := by
  induction l with
  | nil => rfl
  | cons a l ih =>
    cases h : p a with
    | true => simp [h, disjoint a h]
    | false => simp [h, List.filter_cons, ih]

end Queue

/-- What holds of all services. -/
structure Sound (snapshot : Offering → rep.Value) (d : Delivery rep) : Prop where
  unbounded : d.tracker.config.capacity = none
  keyed : d.tracker.Keyed
  unissued : ∀ id : ServiceId, d.registry.issued.toNat < id.number.toNat →
    d.registry.live.get? id = none ∧ d.pending id = []
  standing : ∀ id, Standing snapshot (d.registry.live.get? id) (d.pending id)
    (d.tracker.slots.get? id)

/-- A fresh delivery is sound. -/
lemma sound_fresh {config : Config} (unbounded : config.capacity = none) :
    Sound snapshot (fresh config) where
  unbounded := unbounded
  keyed := keyed_fresh config
  unissued _ _ := ⟨rfl, rfl⟩
  standing _ := .gone

/-- An action on the registry keeps a delivery sound, as long as numbers do not run out. -/
lemma Sound.registry (sound : Sound snapshot d) (name : String) (a : Registry.Action)
    (room : d.registry.issued.toNat + (if a.isRegistration then 1 else 0) < UInt64.size) :
    Sound snapshot (d.step name (.registry a)) := by
  have raises := Registry.act_raises (s := rep.subject) d.registry a
  have pending (id : ServiceId) : (d.step name (.registry a)).pending id =
      d.pending id ++ (d.registry.news rep.subject a).filter fun e => e.id = id :=
    List.filter_append ..
  refine ⟨sound.unbounded, sound.keyed, fun id unissued => ?_, fun id => ?_⟩
  · have earlier : d.registry.issued.toNat < id.number.toNat := by
      have issued := raises.toNat_issued room
      exact Nat.lt_of_le_of_lt (issued ▸ Nat.le_add_right _ _) unissued
    obtain ⟨absent, silent⟩ := sound.unissued id earlier
    obtain ⟨absent', silent'⟩ := raises.unissued room unissued absent
    refine ⟨absent', ?_⟩
    rw [pending, silent, silent']
    rfl
  · rw [pending]
    refine Standing.raise raises (fun registration new => ?_) (sound.standing id)
    -- The next number is above all that are given out, unless they wrap around.
    subst new
    rw [registration, if_pos rfl] at room
    refine sound.unissued _ ?_
    show d.registry.issued.toNat < (d.registry.issued + 1).toNat
    rw [UInt64.toNat_add]
    exact (Nat.mod_eq_of_lt room).symm ▸ Nat.lt_succ_self _

/-- The oldest news of a service is taken in. -/
lemma Sound.intake (derived : rep.snapshot? = some snapshot) (sound : Sound snapshot d)
    {name : String} {e : Event rep.subject} {q : List (Event rep.subject)}
    {out : Outcome rep Registry (Except Fault Change)} (oldest : d.pending e.id = e :: q)
    (intake : Intake (.standard rep Registry.context name) d.tracker d.registry e out) :
    Sound snapshot ⟨⟨out.state, out.tracker⟩, d.inFlight.eraseP fun e' => e'.id = e.id⟩ := by
  obtain ⟨issued, live⟩ := intake.alike sound.keyed
  have trace := intake.trace sound.keyed
  have pending : (d.inFlight.eraseP fun e' => e'.id = e.id).filter (fun e' => e'.id = e.id) = q :=
    (filter_eraseP_self _ _).trans (congrArg List.tail oldest)
  have others {id : ServiceId} (other : e.id ≠ id) :
      (d.inFlight.eraseP fun e' => e'.id = e.id).filter (fun e' => e'.id = id) = d.pending id := by
    refine filter_eraseP_of_disjoint _ _ _ fun e' same => decide_eq_false ?_
    rw [of_decide_eq_true same]
    exact other
  refine ⟨?_, trace.keyed sound.keyed, fun id unissued => ?_, fun id => ?_⟩
  · rw [trace.config_eq]
    exact sound.unbounded
  · show out.state.live.get? id = none ∧ _
    rw [live]
    have unissued : d.registry.issued.toNat < id.number.toNat := issued ▸ unissued
    obtain ⟨absent, silent⟩ := sound.unissued id unissued
    have other : e.id ≠ id := by
      rintro rfl
      rw [oldest] at silent
      cases silent
    exact ⟨absent, (others other).trans silent⟩
  · show Standing snapshot (out.state.live.get? id) (List.filter _ _) (out.tracker.slots.get? id)
    rw [live]
    by_cases h : e.id = id
    · subst h
      have standing := sound.standing e.id
      rw [oldest] at standing
      have room : d.tracker.reached? = none := reached?_of_unbounded sound.unbounded
      rw [pending, intake.get?_eq derived fun _ => room]
      exact standing.deliver d.tracker.config.trackOnModified
    · -- Neither the slot nor the queue of another service changes.
      rw [others h, intake.touches.others id h]
      exact sound.standing id

/-- Handing the next event of a service over keeps a delivery sound. -/
lemma Sound.deliver (derived : rep.snapshot? = some snapshot) (sound : Sound snapshot d)
    (name : String) (id : ServiceId) : Sound snapshot (d.step name (.deliver id)) := by
  rw [step]
  split
  · exact sound
  · next e q h =>
    have mem : e ∈ d.pending id := h ▸ List.mem_cons_self
    obtain rfl : e.id = id := of_decide_eq_true (List.mem_filter.1 mem).2
    exact sound.intake derived h (apply_intake d.tracker _ e d.registry)

/-- One step keeps the invariant while there are numbers left. -/
lemma Sound.step (derived : rep.snapshot? = some snapshot) (sound : Sound snapshot d)
    (name : String) (a : Action)
    (room : d.registry.issued.toNat + (if a.isRegistration then 1 else 0) < UInt64.size) :
    Sound snapshot (d.step name a) := by
  cases a with
  | registry a => exact sound.registry name a room
  | deliver id => exact sound.deliver derived name id

/-- Registrations, and nothing else, are counted by the numbers issued. -/
lemma toNat_issued_step (keyed : d.tracker.Keyed) (name : String) (a : Action)
    (room : d.registry.issued.toNat + (if a.isRegistration then 1 else 0) < UInt64.size) :
    (d.step name a).registry.issued.toNat =
      d.registry.issued.toNat + if a.isRegistration then 1 else 0 := by
  cases a with
  | registry a => exact (Registry.act_raises (s := rep.subject) d.registry a).toNat_issued room
  | deliver id =>
    rw [Delivery.step]
    split
    · rfl
    · next e q h =>
      have intake := apply_intake d.tracker (.standard rep Registry.context name) e d.registry
      exact congrArg UInt64.toNat (intake.alike keyed).issued_eq

/-- A delivery stays sound whatever happens, as long as numbers do not run out. -/
lemma Sound.after (derived : rep.snapshot? = some snapshot) (sound : Sound snapshot d)
    (name : String) (as : List Action)
    (room : d.registry.issued.toNat + as.countP Action.isRegistration < UInt64.size) :
    Sound snapshot (d.after name as) := by
  induction as generalizing d with
  | nil => exact sound
  | cons a as ih =>
    rw [List.countP_cons] at room
    have first : d.registry.issued.toNat + (if a.isRegistration then 1 else 0) < UInt64.size := by
      omega
    refine ih (sound.step derived name a first) ?_
    rw [toNat_issued_step sound.keyed name a first]
    omega

/-- Where nothing is in flight, the tracker has what the registry has. -/
lemma Sound.settled (sound : Sound snapshot d) (quiet : d.inFlight = []) (id : ServiceId) :
    d.tracker.slots.get? id = (d.registry.live.get? id).bind fun entry =>
      takenUp snapshot entry.offering ⟨id, entry.ranking⟩ := by
  have pending : d.pending id = [] := by
    rw [Delivery.pending, quiet]
    rfl
  have standing := sound.standing id
  rw [pending] at standing
  exact standing.settled id (sound.keyed id)

/-- Delivering what is in flight leaves nothing in flight. -/
theorem inFlight_settle (d : Delivery rep) (name : String) : (d.settle name).inFlight = [] := by
  rw [settle]
  generalize h : d.inFlight = q
  induction q generalizing d with
  | nil => exact h
  | cons e q ih =>
    refine ih _ ?_
    have oldest : d.pending e.id = e :: q.filter fun e' => e'.id = e.id := by
      simp [Delivery.pending, h]
    rw [Delivery.step, oldest, h]
    simp

/-- Whenever everything in flight is delivered, the tracker catches up. -/
theorem tracked_settle (derived : rep.snapshot? = some snapshot) (sound : Sound snapshot d)
    (name : String) (id : ServiceId) :
    (d.settle name).tracker.slots.get? id =
      ((d.settle name).registry.live.get? id).bind fun entry =>
        takenUp snapshot entry.offering ⟨id, entry.ranking⟩ := by
  have none_in : (d.inFlight.map fun e => Action.deliver e.id).countP Action.isRegistration = 0 := by
    rw [List.countP_map, List.countP_eq_zero]
    intro e _
    exact Bool.false_ne_true
  have room := d.registry.issued.toNat_lt_size
  rw [← Nat.add_zero d.registry.issued.toNat, ← none_in] at room
  exact (sound.after derived name _ room).settled (inFlight_settle d name) id

/-- Once nothing is under way, each service is tracked as the registry has it. -/
lemma tracked_after (derived : rep.snapshot? = some snapshot) {config : Config}
    (unbounded : config.capacity = none) (name : String) {as : List Action}
    (few : as.countP Action.isRegistration < UInt64.size)
    (quiet : ((fresh config : Delivery rep).after name as).inFlight = []) (id : ServiceId) :
    ((fresh config : Delivery rep).after name as).tracker.slots.get? id =
      (((fresh config : Delivery rep).after name as).registry.live.get? id).bind fun entry =>
        takenUp snapshot entry.offering ⟨id, entry.ranking⟩ := by
  have room : (0 : UInt64).toNat + as.countP Action.isRegistration < UInt64.size := by
    rw [UInt64.toNat_zero, Nat.zero_add]
    exact few
  exact ((sound_fresh unbounded).after derived name as room).settled quiet id

/-- Convergence under delayed delivery. A tracker without a capacity and the registry that it
follows start empty; the registry does what it likes, and its news is taken in whenever it arrives,
that of one service in order. Then, in every state with nothing in flight, a service has a slot
exactly if it is registered and offers what is tracked, and the slot holds its present ranking and
what it offers. This goes for the services of a contract and for those of no particular subject. -/
theorem tracked_of_quiet (config : Config) (unbounded : config.capacity = none) (name : String)
    (as : List Action) (few : as.countP Action.isRegistration < UInt64.size) :
    (∀ c : Contract,
      let d := (fresh config : Delivery (.sameService c)).after name as
      d.inFlight = [] → ∀ id,
        d.tracker.slots.get? id = (d.registry.live.get? id).bind fun entry =>
          if (entry.offering.service c).isNull then none
          else some ⟨⟨id, entry.ranking⟩, entry.offering.service c⟩) ∧
    (let d := (fresh config : Delivery .wholeOffering).after name as
     d.inFlight = [] → ∀ id,
        d.tracker.slots.get? id = (d.registry.live.get? id).bind fun entry =>
          if entry.offering.isEmpty then none
          else some ⟨⟨id, entry.ranking⟩, entry.offering⟩) := by
  refine ⟨fun c => ?_, ?_⟩
  · intro d quiet id
    have tracked := tracked_after rfl unbounded name few quiet id
    rw [tracked]
    exact congrArg (Option.bind _) (funext fun _ => takenUp_eq rfl _)
  · intro d quiet id
    have tracked := tracked_after rfl unbounded name few quiet id
    rw [tracked]
    exact congrArg (Option.bind _) (funext fun _ => takenUp_eq rfl _)

/-- A contract of which services are late. -/
def gauge : Contract := ⟨"gauge", "dyn Gauge"⟩

/-- Two services are registered, the first changes its ranking and the second is gone again before
any of it is heard of. -/
def belated : List Action :=
  [.registry (.registerAs 1 gauge 7 0), .registry (.registerAs 2 gauge 8 0),
    .registry (.setRanking ⟨1⟩ 5), .registry (.unregister ⟨2⟩),
    .deliver ⟨2⟩, .deliver ⟨1⟩, .deliver ⟨2⟩, .deliver ⟨1⟩]

/-- Once all is heard of, the first service is tracked at its present ranking, and no other. -/
theorem tracked_of_quiet_belated :
    let d := (fresh .standard : Delivery (.sameService gauge)).after "tracker" belated
    belated.countP Action.isRegistration < UInt64.size ∧ d.inFlight = [] ∧
      d.tracker.references = [⟨⟨1⟩, 5⟩] ∧
      ∀ id, d.tracker.slots.get? id = (d.registry.live.get? id).bind fun entry =>
        if (entry.offering.service gauge).isNull then none
        else some ⟨⟨id, entry.ranking⟩, entry.offering.service gauge⟩ := by
  have few : belated.countP Action.isRegistration < UInt64.size := by decide
  have quiet : ((fresh .standard : Delivery (.sameService gauge)).after "tracker" belated).inFlight =
    [] := by decide
  have converges := tracked_of_quiet .standard rfl "tracker" belated few
  exact ⟨few, quiet, by decide, converges.1 gauge quiet⟩

end Delivery

end ServiceWatch
