import Mathlib.Data.List.Induction
import Mathlib.Data.List.Nodup
import ServiceWatch.Proofs.Registry.Inversion
import ServiceWatch.Registry.Run

/-!
# Bookkeeping

What a registry answers is what its requests have made of each registration. `Stands` reads that off
the requests alone: which registration came in under a number, the ranking that was last set for it,
and that it was not taken out since. The registry has a registration exactly if it stands
(`live_iff_stands`), as both change alike with one more request (`live_serve_iff`, `stands_concat`);
that a number is not given out twice while there are some left (`Room`) rests on no registration
being live under a number above the last one (`Issued`). `bookkeeping_of_requests` puts the answers
together.
-/

namespace ServiceWatch.Registry

namespace Request

/-- The ranking that a request sets for a service. -/
def ranking? (id : ServiceId) : Request → Option Int32
  | act (.setRanking id' ranking) => if id' = id then some ranking else none
  | _ => none

/-- The registration that a request brings. -/
def incoming : Request → Option Registration
  | act a => a.incoming
  | _ => none

/-- Whether a request is to take the service out. -/
def takesOut (id : ServiceId) : Request → Bool
  | act (.unregister id') => id' = id
  | _ => false

/-- The service that a request notes to be given back. -/
def released? : Request → Option ServiceId
  | release id => some id
  | _ => none

/-- The service that a request is about; a registration is about the number that comes next. -/
def id (g : Registry) : Request → ServiceId
  | act (.setRanking id _) => id
  | act (.unregister id) => id
  | act _ => g.next
  | release id => id
  | interfaces id => id

/-- A request registers exactly if something comes in with it. -/
lemma isRegistration_eq (q : Request) : q.isRegistration = q.incoming.isSome := by
  cases q with
  | act a => exact a.isRegistration_eq
  | release => rfl
  | interfaces => rfl

/-- A request about another service does not take the service out, nor does it set its ranking. -/
lemma apart_of_ne {g : Registry} {id : ServiceId} {q : Request} (other : id ≠ q.id g) :
    q.takesOut id = false ∧ q.ranking? id = none := by
  cases q with
  | act a =>
    cases a with
    | register => exact ⟨rfl, rfl⟩
    | registerAs => exact ⟨rfl, rfl⟩
    | setRanking id' ranking => exact ⟨rfl, if_neg (Ne.symm other)⟩
    | unregister id' => exact ⟨decide_eq_false (Ne.symm other), rfl⟩
  | release => exact ⟨rfl, rfl⟩
  | interfaces => exact ⟨rfl, rfl⟩

/-- A request with which something comes in registers. -/
lemma isRegistration_of_incoming {q : Request} {entry : Registration}
    (taken : q.incoming = some entry) : q.isRegistration = true := by
  rw [q.isRegistration_eq, taken]
  rfl

end Request

/-- The ranking of a service after some requests, by what it was before. -/
def lastRanking (id : ServiceId) (qs : List Request) (ranking : Int32) : Int32 :=
  ((qs.filterMap (Request.ranking? id)).getLast?).getD ranking

/-- A registration stands under a number after some requests: it came in with as many registrations
before it as make this its number, was not taken out since, and has the last ranking set for it. -/
inductive Stands (qs : List Request) (id : ServiceId) : Registration → Prop
  | intro {before q since first} : qs = before ++ q :: since → q.incoming = some first →
      id.number.toNat = before.countP Request.isRegistration + 1 →
      (∀ q' ∈ since, q'.takesOut id = false) →
      Stands qs id ⟨lastRanking id since first.ranking, first.offering⟩

/-- No registration is live under a number that was not given out. -/
def Issued (g : Registry) : Prop :=
  ∀ id entry, g.live.get? id = some entry → id.number.toNat ≤ g.issued.toNat

/-- There are numbers left for all registrations among some requests. -/
def Room (g : Registry) (qs : List Request) : Prop :=
  g.issued.toNat + qs.countP Request.isRegistration < UInt64.size

variable {g : Registry} {q : Request} {qs : List Request} {id : ServiceId} {entry : Registration}

/-- The last ranking of a service is that of the last request that sets one. -/
lemma lastRanking_concat (id : ServiceId) (qs : List Request) (q : Request) (ranking : Int32) :
    lastRanking id (qs ++ [q]) ranking = (q.ranking? id).getD (lastRanking id qs ranking) := by
  rw [lastRanking, List.filterMap_append]
  cases set : q.ranking? id with
  | none => simp [set, lastRanking]
  | some ranking => simp [set]

/-- With one more request, a registration stands that it brings, or one that stood before and that
it does not take out, with the ranking that it may set. -/
theorem stands_concat : Stands (qs ++ [q]) id entry ↔
    (q.incoming = some entry ∧ id.number.toNat = qs.countP Request.isRegistration + 1) ∨
      ∃ old, Stands qs id old ∧ q.takesOut id = false ∧
        entry = ⟨(q.ranking? id).getD old.ranking, old.offering⟩ := by
  constructor
  · rintro @⟨before, q', since, first, split, taken, number, stays⟩
    -- The registration is the last request, or the last request came after it.
    obtain rfl | ⟨since, last, rfl⟩ := since.eq_nil_or_concat
    · obtain ⟨rfl, same⟩ := List.append_inj' split rfl
      cases same
      exact .inl ⟨taken, number⟩
    · rw [List.concat_eq_append] at split stays ⊢
      rw [← List.cons_append, ← List.append_assoc] at split
      obtain ⟨rfl, same⟩ := List.append_inj' split rfl
      cases same
      refine .inr ⟨_, .intro rfl taken number fun q' mem => ?_, ?_, ?_⟩
      · exact stays q' (List.mem_append_left _ mem)
      · exact stays q (List.mem_append_right _ List.mem_cons_self)
      · rw [lastRanking_concat]
  · rintro (⟨taken, number⟩ | ⟨_, stood, kept, rfl⟩)
    · exact .intro rfl taken number nofun
    · obtain @⟨before, q', since, first, rfl, taken, number, stays⟩ := stood
      have split : before ++ q' :: since ++ [q] = before ++ q' :: (since ++ [q]) := by simp
      rw [← lastRanking_concat]
      refine .intro split taken number fun q'' mem => ?_
      rcases List.mem_append.1 mem with mem | mem
      · exact stays q'' mem
      · cases List.mem_singleton.1 mem
        exact kept

/-- What comes in is live under the next number from then on. -/
lemma serve_of_incoming (g : Registry) (taken : q.incoming = some entry) :
    g.serve q = (.reference (some ⟨g.next, entry.ranking⟩),
      ⟨g.issued + 1, g.live.insert g.next entry, g.released⟩) := by
  cases q with
  | act a => rw [serve, act_of_incoming g taken]
  | release => cases taken
  | interfaces => cases taken

/-- A request changes nothing under other numbers than its own. -/
lemma get?_serve_of_ne (other : id ≠ q.id g) : (g.serve q).2.live.get? id = g.live.get? id := by
  cases q with
  | act a =>
    cases a with
    | register => exact (Table.get?_insert ..).trans (if_neg other)
    | registerAs => exact (Table.get?_insert ..).trans (if_neg other)
    | setRanking id' ranking =>
      rw [serve, act_setRanking]
      cases g.live.get? id' with
      | none => rfl
      | some entry => exact (Table.get?_insert ..).trans (if_neg other)
    | unregister id' =>
      rw [serve, act_unregister]
      cases g.live.get? id' with
      | none => rfl
      | some entry => exact (Table.get?_erase ..).trans (if_neg other)
  | release => rfl
  | interfaces => rfl

/-- Requests that bring no registration take one out or set its ranking. -/
lemma get?_serve_of_not_incoming (g : Registry) (other : q.incoming = none) (id : ServiceId) :
    (g.serve q).2.live.get? id = if q.takesOut id then none else
      (g.live.get? id).map fun old => ⟨(q.ranking? id).getD old.ranking, old.offering⟩ := by
  by_cases own : id = q.id g
  · subst own
    cases q with
    | act a =>
      cases a with
      | register => cases other
      | registerAs => cases other
      | setRanking id ranking =>
        rw [serve, act_setRanking]
        cases found : g.live.get? id with
        | none => simp [Request.id, Request.takesOut, found]
        | some old =>
          simp [Request.id, Request.takesOut, Request.ranking?, Table.get?_insert, found]
      | unregister id =>
        rw [serve, act_unregister]
        cases found : g.live.get? id with
        | none => simp [Request.id, Request.takesOut, found]
        | some old => simp [Request.id, Request.takesOut, Table.get?_erase]
    | release => simp [serve, release, Request.takesOut, Request.ranking?]
    | interfaces => simp [serve, Request.takesOut, Request.ranking?]
  · obtain ⟨stays, unset⟩ := Request.apart_of_ne own
    simp [get?_serve_of_ne own, stays, unset]

/-- A request that registers takes nothing out and changes no ranking. -/
lemma Request.takesOut_of_incoming (taken : q.incoming = some entry) (id : ServiceId) :
    q.takesOut id = false ∧ q.ranking? id = none := by
  cases q with
  | act a =>
    cases a with
    | register => exact ⟨rfl, rfl⟩
    | registerAs => exact ⟨rfl, rfl⟩
    | setRanking => cases taken
    | unregister => cases taken
  | release => cases taken
  | interfaces => cases taken

/-- With one more request, a registration is live that it brings, or one that was live before and
that it does not take out, with the ranking that it may set. -/
theorem live_serve_iff (unused : q.isRegistration = true → g.live.get? g.next = none) :
    (g.serve q).2.live.get? id = some entry ↔
      (q.incoming = some entry ∧ id = g.next) ∨
        ∃ old, g.live.get? id = some old ∧ q.takesOut id = false ∧
          entry = ⟨(q.ranking? id).getD old.ranking, old.offering⟩ := by
  cases taken : q.incoming with
  | some first =>
    obtain ⟨stays, unset⟩ := Request.takesOut_of_incoming taken id
    have absent : g.live.get? g.next = none := unused (q.isRegistration_of_incoming taken)
    rw [serve_of_incoming g taken, Table.get?_insert, stays, unset]
    by_cases own : id = g.next
    · subst own
      simp [absent]
    · simp [own, eq_comm]
  | none =>
    rw [get?_serve_of_not_incoming g taken]
    cases q.takesOut id with
    | true => simp
    | false => cases g.live.get? id <;> simp [eq_comm]

/-- Where there is room for a registration, the next number is in range. -/
lemma Room.registers (room : g.Room [q]) (registers : q.isRegistration = true) :
    g.issued.toNat + 1 < UInt64.size := by
  rwa [Room, List.countP_singleton, if_pos registers] at room

/-- The next number is one more than the numbers issued. -/
lemma toNat_next (room : g.issued.toNat + 1 < UInt64.size) :
    g.next.number.toNat = g.issued.toNat + 1 := by
  show (g.issued + 1).toNat = g.issued.toNat + 1
  rw [UInt64.toNat_add]
  exact Nat.mod_eq_of_lt room

/-- The next service is told by its number. -/
lemma eq_next_iff (room : g.issued.toNat + 1 < UInt64.size) :
    id = g.next ↔ id.number.toNat = g.issued.toNat + 1 := by
  rw [← toNat_next room, UInt64.toNat_inj]
  cases id
  exact Iff.of_eq (ServiceId.mk.injEq ..)

/-- A request uses a number up exactly if it registers. -/
lemma toNat_issued_serve (room : g.Room [q]) :
    (g.serve q).2.issued.toNat = g.issued.toNat + if q.isRegistration then 1 else 0 := by
  rw [Room, List.countP_singleton] at room
  cases q with
  | act a => exact (act_raises (s := .untyped) g a).toNat_issued room
  | release => rfl
  | interfaces => rfl

/-- Room for requests is room for the first of them. -/
lemma Room.head (room : g.Room (q :: qs)) : g.Room [q] := by
  rw [Room, List.countP_cons] at room
  rw [Room, List.countP_singleton]
  omega

/-- Behind the first request there is still room for the others. -/
lemma Room.tail (room : g.Room (q :: qs)) : (g.serve q).2.Room qs := by
  have next := toNat_issued_serve room.head
  rw [Room, List.countP_cons] at room
  rw [Room]
  omega

/-- The next number is not in use. -/
lemma Issued.unused (issued : g.Issued) (room : g.Room [q]) :
    q.isRegistration = true → g.live.get? g.next = none := by
  intro registers
  cases found : g.live.get? g.next with
  | none => rfl
  | some entry =>
    have below := issued g.next entry found
    rw [toNat_next (room.registers registers)] at below
    exact absurd below (Nat.not_succ_le_self _)

/-- A request leaves only issued numbers in use. -/
lemma Issued.serve (issued : g.Issued) (room : g.Room [q]) : (g.serve q).2.Issued := by
  intro id entry found
  rw [toNat_issued_serve room]
  obtain ⟨taken, rfl⟩ | ⟨old, found, -, -⟩ := (live_serve_iff (issued.unused room)).1 found
  · have registers := q.isRegistration_of_incoming taken
    rw [if_pos registers]
    exact Nat.le_of_eq (toNat_next (room.registers registers))
  · exact Nat.le_add_right_of_le (issued id old found)

/-- No number is in use in an empty registry. -/
lemma issued_empty : empty.Issued := nofun

/-- No number is issued in an empty registry. -/
lemma issued_of_empty : empty.issued.toNat = 0 := rfl

/-- An empty registry has room for fewer registrations than there are numbers. -/
lemma room_empty (few : qs.countP Request.isRegistration < UInt64.size) : empty.Room qs := by
  rwa [Room, issued_of_empty, Nat.zero_add]

/-- Requests after requests lead where the second lead from the first. -/
lemma after_append (g : Registry) (qs qs' : List Request) :
    g.after (qs ++ qs') = (g.after qs).after qs' := by
  induction qs generalizing g with
  | nil => rfl
  | cons q qs ih => exact ih _

/-- While numbers last, they are issued one for each registration, and none is live beyond. -/
lemma issued_after (issued : g.Issued) (room : g.Room qs) :
    (g.after qs).issued.toNat = g.issued.toNat + qs.countP Request.isRegistration ∧
      (g.after qs).Issued := by
  induction qs generalizing g with
  | nil => exact ⟨rfl, issued⟩
  | cons q qs ih =>
    obtain ⟨count, others⟩ := ih (issued.serve room.head) room.tail
    refine ⟨?_, others⟩
    rw [after, count, toNat_issued_serve room.head, List.countP_cons]
    omega

/-- The live registrations are those that stand. -/
theorem live_iff_stands (few : qs.countP Request.isRegistration < UInt64.size) :
    (empty.after qs).live.get? id = some entry ↔ Stands qs id entry := by
  -- By the last request: the number of a registration counts those before it.
  induction qs using List.reverseRecOn generalizing id entry with
  | nil =>
    constructor
    · nofun
    · rintro @⟨before, q, since, first, split, -, -, -⟩
      cases before <;> cases split
  | append_singleton qs q ih =>
    have fewer : qs.countP Request.isRegistration < UInt64.size := by
      rw [List.countP_append] at few
      omega
    obtain ⟨count, issued⟩ := issued_after issued_empty (room_empty fewer)
    rw [issued_of_empty, Nat.zero_add] at count
    have room : (empty.after qs).Room [q] := by
      rwa [Room, count, ← List.countP_append]
    have next : q.incoming = some entry → (id = (empty.after qs).next ↔
        id.number.toNat = qs.countP Request.isRegistration + 1) := by
      intro taken
      rw [eq_next_iff (room.registers (q.isRegistration_of_incoming taken)), count]
    rw [after_append]
    show ((empty.after qs).serve q).2.live.get? id = some entry ↔ _
    rw [live_serve_iff (issued.unused room), stands_concat, and_congr_right next]
    simp only [ih fewer]

/-- A request balances what comes in and what departs with the size. -/
lemma size_serve (unused : q.isRegistration = true → g.live.get? g.next = none) :
    (g.serve q).2.size + (if Exchange.isDeparture ⟨q, (g.serve q).1⟩ then 1 else 0) =
      g.size + if q.isRegistration then 1 else 0 := by
  cases q with
  | act a =>
    cases a with
    | register offering ranking =>
      exact Table.size_insert_of_get?_eq_none _ (unused rfl)
    | registerAs box c object ranking =>
      exact Table.size_insert_of_get?_eq_none _ (unused rfl)
    | setRanking id ranking =>
      rw [serve, act_setRanking]
      cases found : g.live.get? id with
      | none => rfl
      | some entry => exact Table.size_insert_of_get?_eq_some _ found
    | unregister id =>
      rw [serve, act_unregister]
      cases found : g.live.get? id with
      | none => rfl
      | some entry => exact Table.size_erase_of_get?_eq_some found
  | release => rfl
  | interfaces => rfl

/-- The live registrations are those that came and did not leave. -/
lemma size_after (issued : g.Issued) (room : g.Room qs) :
    (g.after qs).size + (g.run qs).countP Exchange.isDeparture =
      g.size + qs.countP Request.isRegistration := by
  induction qs generalizing g with
  | nil => rfl
  | cons q qs ih =>
    have first := size_serve (issued.unused room.head)
    have others := ih (issued.serve room.head) room.tail
    rw [run, List.countP_cons, List.countP_cons, after]
    omega

/-- A request adds the service that it gives back, if there is one. -/
lemma released_serve (g : Registry) (q : Request) :
    (g.serve q).2.released = g.released ++ q.released?.toList := by
  cases q with
  | act a => exact (released_act g a).trans (List.append_nil _).symm
  | release => rfl
  | interfaces => exact (List.append_nil _).symm

/-- What was given back is listed in the order of the requests for it. -/
lemma released_after (g : Registry) (qs : List Request) :
    (g.after qs).released = g.released ++ qs.filterMap Request.released? := by
  induction qs generalizing g with
  | nil => exact (List.append_nil _).symm
  | cons q qs ih =>
    rw [after, ih, released_serve, List.append_assoc, List.filterMap_cons]
    cases q.released? <;> rfl

/-- A registration is answered by the next number and its ranking. -/
lemma registered?_serve (g : Registry) (q : Request) :
    Exchange.registered? ⟨q, (g.serve q).1⟩ =
      q.incoming.map fun entry => ⟨g.next, entry.ranking⟩ := by
  cases q with
  | act a =>
    cases a with
    | register => rfl
    | registerAs => rfl
    | setRanking => rfl
    | unregister => rfl
  | release => rfl
  | interfaces => rfl

/-- The references by which registrations are answered bear the numbers in order, and the rankings
that the registrations came with. -/
lemma registered_run (issued : g.Issued) (room : g.Room qs) :
    let given := (g.run qs).filterMap Exchange.registered?
    given.map (·.id.number.toNat) =
        List.range' (g.issued.toNat + 1) (qs.countP Request.isRegistration) ∧
      given.map (·.ranking) = (qs.filterMap Request.incoming).map (·.ranking) := by
  induction qs generalizing g with
  | nil => exact ⟨rfl, rfl⟩
  | cons q qs ih =>
    obtain ⟨numbers, rankings⟩ := ih (issued.serve room.head) room.tail
    rw [run, List.filterMap_cons, registered?_serve, List.filterMap_cons, List.countP_cons]
    rw [toNat_issued_serve room.head] at numbers
    cases taken : q.incoming with
    | none =>
      rw [q.isRegistration_eq, taken] at numbers ⊢
      exact ⟨numbers, rankings⟩
    | some entry =>
      have registers := q.isRegistration_of_incoming taken
      rw [registers] at numbers ⊢
      refine ⟨?_, congrArg (entry.ranking :: ·) rankings⟩
      exact congrArg₂ List.cons (toNat_next (room.head.registers registers)) numbers

/-- A change of ranking is answered exactly if the service is live, with the new ranking. -/
lemma act_setRanking_eq_some_iff {ranking : Int32} {r : Reference .untyped} :
    (g.act (.setRanking id ranking)).1 = some r ↔
      (∃ entry, g.live.get? id = some entry) ∧ r = ⟨id, ranking⟩ := by
  rw [act_setRanking]
  cases g.live.get? id <;> simp [eq_comm]

/-- An unregistration is answered exactly if the service is live, with its last ranking. -/
lemma act_unregister_eq_some_iff {r : Reference .untyped} :
    (g.act (.unregister id)).1 = some r ↔
      ∃ entry, g.live.get? id = some entry ∧ r = ⟨id, entry.ranking⟩ := by
  rw [act_unregister]
  cases g.live.get? id <;> simp [eq_comm]

/-- A change of ranking leaves all offers as they are. -/
lemma offering_act_setRanking (g : Registry) (id : ServiceId) (ranking : Int32) (id' : ServiceId) :
    (g.act (.setRanking id ranking)).2.offering id' = g.offering id' := by
  rw [act_setRanking]
  cases found : g.live.get? id with
  | none => rfl
  | some entry =>
    by_cases own : id' = id
    · subst own
      rw [offering_of_live found, offering, Table.get?_insert, if_pos rfl]
      rfl
    · rw [offering, offering, Table.get?_insert, if_neg own]

/-- What a registry that was empty at first answers, while numbers last. The registrations get the
numbers 1, 2 and so on, none twice. A question for the interfaces of a service is answered by what
the registration offered that stands under its number, and by nothing if none does. A ranking can be
set for a service that stands, and a service that stands can be taken out, which is answered by the
last ranking set for it. To set a ranking changes nobody's interfaces, and what a request is not
about stays as it is. The registry has as many registrations as came and did not leave, and the uses
given back are noted in order. -/
theorem bookkeeping_of_requests (qs : List Request)
    (few : qs.countP Request.isRegistration < UInt64.size) :
    let given := (empty.run qs).filterMap Exchange.registered?
    let g := empty.after qs
    given.map (·.id.number.toNat) = List.range' 1 (qs.countP Request.isRegistration) ∧
    given.map (·.ranking) = (qs.filterMap Request.incoming).map (·.ranking) ∧
    (given.map (·.id)).Nodup ∧
    (∀ id entry, Stands qs id entry →
      g.serve (.interfaces id) = (.interfaces entry.offering, g)) ∧
    (∀ id, (¬∃ entry, Stands qs id entry) →
      g.serve (.interfaces id) = (.interfaces .empty, g)) ∧
    (∀ id ranking r, (g.act (.setRanking id ranking)).1 = some r ↔
      (∃ entry, Stands qs id entry) ∧ r = ⟨id, ranking⟩) ∧
    (∀ id r, (g.act (.unregister id)).1 = some r ↔
      ∃ entry, Stands qs id entry ∧ r = ⟨id, entry.ranking⟩) ∧
    (∀ id ranking id', (g.act (.setRanking id ranking)).2.offering id' = g.offering id') ∧
    (∀ before q since id, qs = before ++ q :: since → id ≠ q.id (empty.after before) →
      (empty.after (before ++ [q])).live.get? id = (empty.after before).live.get? id) ∧
    g.size + (empty.run qs).countP Exchange.isDeparture = qs.countP Request.isRegistration ∧
    g.released = qs.filterMap Request.released? ∧
    ∀ id, g.serve (.release id) = (.noted, ⟨g.issued, g.live, g.released ++ [id]⟩) := by
  intro given g
  have room : empty.Room qs := room_empty few
  obtain ⟨numbers, rankings⟩ := registered_run issued_empty room
  have distinct : (given.map (·.id)).Nodup := by
    have nodup : ((given.map (·.id)).map (·.number.toNat)).Nodup := by
      rw [List.map_map]
      exact numbers ▸ List.nodup_range'
    exact List.Nodup.of_map _ nodup
  have live (id entry) : g.live.get? id = some entry ↔ Stands qs id entry := live_iff_stands few
  have balance := size_after issued_empty room
  refine ⟨numbers, rankings, distinct, fun id entry stands => ?_, fun id none_stands => ?_,
    fun id ranking r => ?_, fun id r => ?_, offering_act_setRanking g, ?_, ?_, released_after _ _,
    fun _ => rfl⟩
  · rw [serve, offering_of_live ((live id entry).2 stands)]
  · have absent : g.live.get? id = none := by
      cases found : g.live.get? id with
      | none => rfl
      | some entry => exact absurd ⟨entry, (live id entry).1 found⟩ none_stands
    rw [serve, offering_of_gone absent]
  · simp only [act_setRanking_eq_some_iff, live]
  · simp only [act_unregister_eq_some_iff, live]
  · rintro before q since id - other
    rw [after_append]
    exact get?_serve_of_ne other
  · exact balance.trans (Nat.zero_add _)

/-- A contract to register services under. -/
def lookout : Contract := ⟨"lookout", "Lookout"⟩

/-- Of two services the first changes its ranking and leaves, and the second changes its ranking
twice and is given back. -/
def arrivals : List Request :=
  [.act (.register .empty 5), .act (.setRanking ⟨1⟩ 9), .act (.registerAs 0 lookout 1 7),
    .act (.setRanking ⟨2⟩ 8), .act (.unregister ⟨1⟩), .act (.setRanking ⟨2⟩ 3), .release ⟨2⟩,
    .act (.unregister ⟨1⟩)]

/-- The first service is gone, and the second is found with what it offers and its last ranking. -/
theorem bookkeeping_of_requests_arrivals :
    let g := empty.after arrivals
    arrivals.countP Request.isRegistration < UInt64.size ∧
    g.serve (.interfaces ⟨2⟩) = (.interfaces (Offering.empty.publish 0 lookout 1), g) ∧
    (g.act (.unregister ⟨2⟩)).1 = some ⟨⟨2⟩, 3⟩ ∧
    (g.act (.setRanking ⟨1⟩ 4)).1 = none ∧
    g.size + 1 = 2 ∧ g.released = [⟨2⟩] := by
  intro g
  have few : arrivals.countP Request.isRegistration < UInt64.size := by decide
  obtain ⟨-, -, -, offers, -, -, leaves, -, -, balance, noted, -⟩ :=
    bookkeeping_of_requests arrivals few
  have split : arrivals =
      arrivals.take 2 ++ .act (.registerAs 0 lookout 1 7) :: arrivals.drop 3 := rfl
  have stands : Stands arrivals ⟨2⟩ ⟨3, Offering.empty.publish 0 lookout 1⟩ :=
    .intro split rfl rfl (by decide)
  have gone : (g.act (.setRanking ⟨1⟩ 4)).1 = none := by rfl
  exact ⟨few, offers _ _ stands, (leaves _ _).2 ⟨_, stands, rfl⟩, gone, balance, noted⟩

end ServiceWatch.Registry
