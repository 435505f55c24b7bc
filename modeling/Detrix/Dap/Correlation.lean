/-
**Responses reach the calls they answer.**

`responses_correlated`: in every run in which a request is not written only while its channel is no
longer registered, and numbers are drawn before they wrap around, a call receives only a response with
the number of its own request, no response reaches two calls, no two requests have the same number,
and a call that has returned has left nothing in `pending_requests`.

When a request cannot be written the call returns at once and leaves its channel in the map:
`unsent_request_stays_pending`.

The invariant is about three functions of the name of a call: the number it has, the response it has
received and the number it listens under. A step updates them at one place.
-/

import Detrix.Dap.Broker

namespace Detrix.Dap

open Library Calls Function Option List Run

/-! ### What a call has -/

variable {seq : Int64} {call : BrokerCall}

namespace BrokerCall

def number : BrokerCall → Option Int64
  | .registering seq | .writing seq _ | .awaiting seq _ | .cleaning seq | .returned seq _ => some seq
  | .noWaitQueued message | .noWaitWriting message | .noWaitReturned message _ => message
  | .queued | .numbering => none

def received : BrokerCall → Option Arrival
  | .writing _ (.response arrival) | .awaiting _ (.response arrival)
  | .returned _ (.received arrival) => some arrival
  | _ => none

def listensTo : BrokerCall → Option Int64
  | .writing seq .empty | .awaiting seq .empty | .cleaning seq => some seq
  | _ => none

theorem number_of_listensTo (listens : call.listensTo = some seq) : call.number = some seq := by
  cases call with
  | writing seq slot | awaiting seq slot =>
    cases slot <;> first | exact listens | exact nomatch listens
  | cleaning seq => exact listens
  | _ => exact nomatch listens

variable {slot : Slot}

theorem received_receive {arrival : Arrival} (call : BrokerCall)
    (got : (call.receive slot).received = some arrival) :
    call.received = some arrival ∨ slot = .response arrival := by
  unfold receive at got
  split at got
  · cases slot <;> simp_all [received]
  · cases slot <;> simp_all [received]
  · exact .inl got

end BrokerCall

namespace Broker

variable (s : Broker)

def numberAt : Nat → Option Int64 := field BrokerCall.number s.calls

def receivedAt : Nat → Option Arrival := field BrokerCall.received s.calls

def listensAt : Nat → Option Int64 := field BrokerCall.listensTo s.calls

end Broker

open Broker

/-! ### The invariant -/

/-- **The map and the calls fit together.** -/
structure Correlated (s : Broker) : Prop where
  numbered : ∀ i seq, s.numberAt i = some seq → seq.toInt < s.nextSeq.toInt ∧ seq ∉ s.drawn
  unique : Own s.numberAt
  drawn : s.drawn.Nodup ∧ ∀ seq ∈ s.drawn, seq.toInt < s.nextSeq.toInt
  /-- A channel in the map is that of a call that listens under its key. -/
  registered : ∀ seq i, s.pending.lookup seq = some i → s.listensAt i = some seq
  answers : ∀ i arrival, s.receivedAt i = some arrival →
    s.numberAt i = some arrival.response.requestSeq ∧ arrival.number < s.arrived
  once : ∀ i j one other, s.receivedAt i = some one → s.receivedAt j = some other →
    one.number = other.number → i = j

namespace Correlated

variable {s t : Broker}

theorem new : Correlated .new where
  numbered := nofun
  unique := nofun
  drawn := ⟨nodup_nil, nofun⟩
  registered := nofun
  answers := nofun
  once := nofun

section
variable (correlated : Correlated s)
include correlated

theorem of_same (nextSeq : t.nextSeq = s.nextSeq) (drawn : t.drawn = s.drawn)
    (arrived : t.arrived = s.arrived) (numbers : t.numberAt = s.numberAt)
    (got : ∀ i arrival, t.receivedAt i = some arrival → s.receivedAt i = some arrival)
    (reg : ∀ seq i, t.pending.lookup seq = some i → t.listensAt i = some seq) :
    Correlated t where
  numbered := by
    rw [numbers, nextSeq, drawn]
    exact correlated.numbered
  unique := by
    rw [numbers]
    exact correlated.unique
  drawn := by
    rw [drawn, nextSeq]
    exact correlated.drawn
  registered := reg
  answers := by
    rw [numbers, arrived]
    exact fun i arrival has => correlated.answers i arrival (got i arrival has)
  once := fun i j one other has also =>
    correlated.once i j one other (got i one has) (got j other also)

variable {a : BrokerCall} {i : Nat}

/-- A call moves on. Channels that stay in the map are those of calls that still listen. -/
theorem moves {b : BrokerCall} (known : s.calls[i]? = some a)
    (calls : t.calls = s.calls.set i b) (nextSeq : t.nextSeq = s.nextSeq)
    (drawn : t.drawn = s.drawn) (arrived : t.arrived = s.arrived) (number : b.number = a.number)
    (got : ∀ arrival, b.received = some arrival → a.received = some arrival)
    (stays : ∀ seq j, t.pending.lookup seq = some j → s.pending.lookup seq = some j ∧
      (j = i → b.listensTo = some seq)) : Correlated t := by
  refine correlated.of_same nextSeq drawn arrived ?_ (fun j arrival has => ?_) fun seq j found => ?_
  · rw [numberAt, calls]
    exact field_set_same known number
  · rw [receivedAt, calls, field_set known] at has
    by_cases same : j = i
    · rw [same, update_self] at has
      rw [same, receivedAt, field_of known]
      exact got arrival has
    · rw [update_of_ne same] at has
      exact has
  · obtain ⟨before, isMover⟩ := stays seq j found
    rw [listensAt, calls, field_set known]
    by_cases same : j = i
    · rw [same, update_self]
      exact isMover same
    · rw [update_of_ne same]
      exact correlated.registered seq j before

theorem listens (known : s.calls[i]? = some a) (found : s.pending.lookup seq = some i) :
    a.listensTo = some seq := by
  have listens := correlated.registered seq i found
  rwa [listensAt, field_of known] at listens

theorem not_registered (known : s.calls[i]? = some a)
    (deaf : a.listensTo = none) (seq : Int64) : s.pending.lookup seq ≠ some i :=
  fun found => nomatch deaf.symm.trans (correlated.listens known found)

theorem number_of_registered (found : s.pending.lookup seq = some i) : s.numberAt i = some seq := by
  have listens := correlated.registered seq i found
  cases known : s.calls[i]? with
  | none => simp [listensAt, field, known] at listens
  | some call =>
    rw [listensAt, field_of known] at listens
    rw [numberAt, field_of known]
    exact BrokerCall.number_of_listensTo listens

theorem lookup_of_deaf (known : s.calls[i]? = some a)
    (number : a.number = some seq) (deaf : a.listensTo = none) : s.pending.lookup seq = none := by
  cases found : s.pending.lookup seq with
  | none => rfl
  | some j =>
    have mine : s.numberAt i = some seq := (field_of known).trans number
    obtain rfl := correlated.unique i j seq mine (correlated.number_of_registered found)
    exact absurd found (correlated.not_registered known deaf seq)

end

/-! ### Steps of a call -/

section Calls

variable {i : Nat} {a b : BrokerCall} (correlated : Correlated s) (known : s.calls[i]? = some a)

include correlated known

theorem moves_deaf (calls : t.calls = s.calls.set i b) (nextSeq : t.nextSeq = s.nextSeq)
    (drawn : t.drawn = s.drawn) (arrived : t.arrived = s.arrived) (pending : t.pending = s.pending)
    (number : b.number = a.number)
    (got : ∀ arrival, b.received = some arrival → a.received = some arrival)
    (deaf : a.listensTo = none) : Correlated t := by
  refine correlated.moves known calls nextSeq drawn arrived number got fun seq j found => ?_
  rw [pending] at found
  exact ⟨found, fun same => absurd (same ▸ found) (correlated.not_registered known deaf seq)⟩

theorem acquires (number : b.number = a.number)
    (got : ∀ arrival, b.received = some arrival → a.received = some arrival)
    (deaf : a.listensTo = none) : Correlated (s.acquire i b) := by
  unfold acquire
  split
  · exact correlated.moves_deaf known rfl rfl rfl rfl rfl number got deaf
  · exact correlated

/-- A request that cannot be written leaves nothing if nothing is registered any more. -/
theorem unsent {slot : Slot} (isWriting : a = .writing seq slot)
    (gone : s.pending.lookup seq = none) : Correlated (s.finish i (.returned seq .unsent)) := by
  refine correlated.moves known rfl rfl rfl rfl ?_ nofun fun key j found => ⟨found, fun same => ?_⟩
  · rw [isWriting]
    rfl
  · -- the call listens under no other key
    subst same
    change s.pending.lookup key = some j at found
    have number := BrokerCall.number_of_listensTo (correlated.listens known found)
    rw [isWriting] at number
    have isKey : seq = key := some.inj number
    exact absurd found (by rw [← isKey, gone]; simp)

end Calls

theorem toInt_next (small : seq ≠ Int64.maxValue) : (seq + 1).toInt = seq.toInt + 1 := by
  have least := seq.le_toInt
  have most := seq.toInt_lt
  have bound : seq.toInt ≠ 2 ^ 63 - 1 := fun isMost => small (Int64.toInt_inj.mp isMost)
  rw [Int64.toInt_add]
  show (seq.toInt + 1).bmod (2 ^ 64) = _
  rw [Int.bmod_eq_of_le] <;> omega

theorem lt_next {next : Int64} (small : next ≠ Int64.maxValue) (below : seq.toInt < next.toInt) :
    seq.toInt < (next + 1).toInt := by
  rw [toInt_next small]
  omega

section
variable (correlated : Correlated s)
include correlated

theorem gets_number {i : Nat} {number : Option Int64} (had : s.numberAt i = none)
    (numbers : t.numberAt = update s.numberAt i number)
    (got : t.receivedAt = s.receivedAt) (listens : t.listensAt = s.listensAt)
    (pending : t.pending = s.pending) (arrived : t.arrived = s.arrived)
    (grown : ∀ seq : Int64, seq.toInt < s.nextSeq.toInt → seq.toInt < t.nextSeq.toInt)
    (nodup : t.drawn.Nodup) (fewer : ∀ seq ∈ t.drawn, seq ∈ s.drawn)
    (fresh : ∀ seq ∈ number, seq.toInt < t.nextSeq.toInt ∧ seq ∉ t.drawn ∧
      ∀ j, s.numberAt j ≠ some seq) : Correlated t where
  numbered := by
    intro j seq has
    rw [numbers] at has
    by_cases same : j = i
    · rw [same, update_self] at has
      exact ⟨(fresh seq has).1, (fresh seq has).2.1⟩
    · rw [update_of_ne same] at has
      obtain ⟨below, notDrawn⟩ := correlated.numbered j seq has
      exact ⟨grown seq below, fun isDrawn => notDrawn (fewer seq isDrawn)⟩
  unique := by
    rw [numbers]
    exact correlated.unique.update fun seq isNumber => (fresh seq isNumber).2.2
  drawn := ⟨nodup, fun seq isDrawn => grown seq (correlated.drawn.2 seq (fewer seq isDrawn))⟩
  registered := by
    rw [listens, pending]
    exact correlated.registered
  answers := by
    intro j arrival has
    rw [got] at has
    obtain ⟨number, isOld⟩ := correlated.answers j arrival has
    have other : j ≠ i := by
      rintro rfl
      nomatch had.symm.trans number
    rw [numbers, update_of_ne other, arrived]
    exact ⟨number, isOld⟩
  once := by
    rw [got]
    exact correlated.once

theorem draws (small : s.nextSeq ≠ Int64.maxValue) {i : Nat}
    (known : s.calls[i]? = some .numbering) (ok : Bool) :
    Correlated (s.advance i ok .numbering) := by
  refine correlated.gets_number (field_of known) (field_set known) (field_set_same known rfl)
    (field_set_same known rfl) rfl rfl (fun _ => lt_next small) correlated.drawn.1 (fun _ => id) ?_
  rintro seq ⟨⟩
  refine ⟨?_, fun isDrawn => Int.lt_irrefl _ (correlated.drawn.2 s.nextSeq isDrawn), fun j has => ?_⟩
  · show s.nextSeq.toInt < (s.nextSeq + 1).toInt
    rw [toInt_next small]
    omega
  · exact Int.lt_irrefl _ (correlated.numbered j s.nextSeq has).1

theorem draws_for_message (small : s.nextSeq ≠ Int64.maxValue) : Correlated (s.step .nextSequence) where
  numbered := by
    intro i seq has
    obtain ⟨below, notDrawn⟩ := correlated.numbered i seq has
    refine ⟨lt_next small below, fun isDrawn => ?_⟩
    rcases mem_cons.mp isDrawn with isNext | isOld
    · rw [isNext] at below
      exact Int.lt_irrefl _ below
    · exact notDrawn isOld
  unique := correlated.unique
  drawn := by
    refine ⟨nodup_cons.mpr ⟨fun isDrawn => ?_, correlated.drawn.1⟩, fun seq isDrawn => ?_⟩
    · exact Int.lt_irrefl _ (correlated.drawn.2 s.nextSeq isDrawn)
    · show seq.toInt < (s.nextSeq + 1).toInt
      rcases mem_cons.mp isDrawn with isNext | isOld
      · rw [isNext, toInt_next small]
        omega
      · exact lt_next small (correlated.drawn.2 seq isOld)
  registered := correlated.registered
  answers := correlated.answers
  once := correlated.once

/-- A call begins; the number of its message, if it has one, was drawn for it. -/
theorem begins {b : BrokerCall} (calls : t.calls = s.calls ++ [b])
    (nextSeq : t.nextSeq = s.nextSeq) (arrived : t.arrived = s.arrived)
    (pending : t.pending = s.pending) (drawn : t.drawn = b.number.elim s.drawn s.drawn.erase)
    (wasDrawn : ∀ seq ∈ b.number, seq ∈ s.drawn) (got : b.received = none)
    (deaf : b.listensTo = none) : Correlated t := by
  have unchanged {α : Type} {f : BrokerCall → Option α} (none : f b = none) :
      field f t.calls = field f s.calls := by
    rw [calls, field_append, none, ← field_length (f := f)]
    exact update_eq_self _ _
  have numbers : t.numberAt = update s.numberAt s.calls.length b.number := by
    rw [numberAt, calls]
    exact field_append
  refine correlated.gets_number field_length numbers (unchanged got) (unchanged deaf) pending arrived
    (fun _ => nextSeq ▸ id) ?_ ?_ fun seq isNumber => ⟨?_, ?_, fun j has => ?_⟩
  · rw [drawn]
    cases b.number with
    | none => exact correlated.drawn.1
    | some number => exact correlated.drawn.1.erase number
  · rw [drawn]
    cases b.number with
    | none => exact fun _ => id
    | some number => exact fun seq => mem_of_mem_erase
  · exact nextSeq ▸ correlated.drawn.2 seq (wasDrawn seq isNumber)
  · rw [drawn, mem_def.mp isNumber, elim_some, correlated.drawn.1.mem_erase_iff]
    exact fun isDrawn => isDrawn.1 rfl
  · exact (correlated.numbered j seq has).2 (wasDrawn seq isNumber)

theorem registers {i : Nat} (known : s.calls[i]? = some (.registering seq)) (ok : Bool) :
    Correlated (s.advance i ok (.registering seq)) := by
  have free : s.pending.lookup seq = none := correlated.lookup_of_deaf known rfl rfl
  have untold : s.deliver (fun j => s.pending.lookup seq = some j) .closed = s.calls := by
    refine ext_getElem? fun j => ?_
    rw [deliver, getElem?_mapIdx, free]
    cases s.calls[j]? with
    | none => rfl
    | some call => exact congrArg some (if_neg (by simp))
  have calls : (s.advance i ok (.registering seq)).calls = s.calls.set i (.writing seq .empty) := by
    rw [← untold]
    rfl
  have listens : (s.advance i ok (.registering seq)).listensAt =
      update s.listensAt i (some seq) := by
    rw [listensAt, calls]
    exact field_set known
  refine correlated.of_same rfl rfl rfl ?_ ?_ ?_
  · rw [numberAt, calls]
    exact field_set_same known rfl
  · have got : (s.advance i ok (.registering seq)).receivedAt = s.receivedAt := by
      rw [receivedAt, calls]
      exact field_set_same known rfl
    rw [got]
    exact fun _ _ => id
  · intro key j found
    change (s.pending.insert seq i).lookup key = some j at found
    rw [listens]
    by_cases same : key = seq
    · rw [same, AList.lookup_insert, some.injEq] at found
      rw [same, ← found, update_self]
    · rw [AList.lookup_insert_ne same] at found
      have other : j ≠ i := by
        rintro rfl
        exact correlated.not_registered known rfl key found
      rw [update_of_ne other]
      exact correlated.registered key j found

end

/-! ### Steps of the reader task -/

theorem numberAt_deliver (told : Nat → Bool) (slot : Slot) :
    field BrokerCall.number (s.deliver told slot) = s.numberAt := by
  refine field_mapIdx_same fun i call => ?_
  unfold BrokerCall.receive
  repeat' split
  all_goals rfl

theorem receivedAt_deliver {told : Nat → Bool} {slot : Slot} {i : Nat} {arrival : Arrival}
    (has : field BrokerCall.received (s.deliver told slot) i = some arrival) :
    s.receivedAt i = some arrival ∨ (told i = true ∧ slot = .response arrival) := by
  cases known : s.calls[i]? with
  | none => simp [deliver, field_mapIdx, known] at has
  | some call =>
    simp only [deliver, field_mapIdx, known, bind_some] at has
    rw [receivedAt, field_of known]
    by_cases isTold : told i = true
    · rw [if_pos isTold] at has
      rcases call.received_receive has with old | new
      · exact .inl old
      · exact .inr ⟨isTold, new⟩
    · rw [if_neg isTold] at has
      exact .inl has

theorem responds (correlated : Correlated s) (response : Response) :
    Correlated (s.handleResponse response) := by
  have numbers : (s.handleResponse response).numberAt = s.numberAt := numberAt_deliver _ _
  have got : ∀ i arrival, (s.handleResponse response).receivedAt i = some arrival →
      s.receivedAt i = some arrival ∨
        (s.pending.lookup response.requestSeq = some i ∧ arrival = ⟨s.arrived, response⟩) := by
    intro i arrival has
    rcases receivedAt_deliver has with old | ⟨isTold, isNew⟩
    · exact .inl old
    · exact .inr ⟨of_decide_eq_true isTold, (Slot.response.inj isNew).symm⟩
  refine ⟨?_, ?_, correlated.drawn, ?_, ?_, ?_⟩
  · rw [numbers]
    exact correlated.numbered
  · rw [numbers]
    exact correlated.unique
  · intro seq i found
    change (s.pending.erase response.requestSeq).lookup seq = some i at found
    have other : seq ≠ response.requestSeq := by
      rintro rfl
      simp at found
    rw [AList.lookup_erase_ne other] at found
    have listens := correlated.registered seq i found
    have untold : decide (s.pending.lookup response.requestSeq = some i) = false := by
      refine decide_eq_false fun isTold => other ?_
      rw [correlated.registered _ i isTold, some.injEq] at listens
      exact listens.symm
    rw [listensAt, handleResponse, deliver, field_mapIdx]
    simp only [untold, if_neg Bool.false_ne_true]
    exact listens
  · intro i arrival has
    rw [numbers]
    rcases got i arrival has with old | ⟨isTold, isNew⟩
    · obtain ⟨number, isOld⟩ := correlated.answers i arrival old
      exact ⟨number, Nat.lt_succ_of_lt isOld⟩
    · rw [isNew]
      exact ⟨correlated.number_of_registered isTold, Nat.lt_succ_self _⟩
  · intro i j one other has also same
    rcases got i one has with old | ⟨isTold, isNew⟩ <;>
      rcases got j other also with oldToo | ⟨isToldToo, isNewToo⟩
    · exact correlated.once i j one other old oldToo same
    · have isOld := (correlated.answers i one old).2
      rw [same, isNewToo] at isOld
      exact absurd isOld (Nat.lt_irrefl _)
    · have isOld := (correlated.answers j other oldToo).2
      rw [← same, isNew] at isOld
      exact absurd isOld (Nat.lt_irrefl _)
    · exact some.inj (isTold.symm.trans isToldToo)

theorem drains (correlated : Correlated s) : Correlated s.drain := by
  refine correlated.of_same rfl rfl rfl (numberAt_deliver _ _) (fun i arrival has => ?_) ?_
  · rcases receivedAt_deliver has with old | ⟨-, isNew⟩
    · exact old
    · cases isNew
  · intro seq i found
    change (∅ : AList fun _ : Int64 => Nat).lookup seq = some i at found
    cases found

end Correlated

/-! ### Runs -/

namespace BrokerCall

def writes : BrokerCall → Option Int64
  | .writing seq _ => some seq
  | _ => none

end BrokerCall

/-- **A request fails to be written only while its channel is no longer registered**; numbers are drawn
before they wrap around, and the number of a request that is sent without waiting was drawn for it. -/
def Careful (s : Broker) : BrokerEvent → Prop
  | .sendMessageNoWait message => ∀ seq ∈ message, seq ∈ s.drawn
  | .nextSequence => s.nextSeq ≠ Int64.maxValue
  | .advance i ok => ∀ call ∈ s.calls[i]?, (call = .numbering → s.nextSeq ≠ Int64.maxValue) ∧
    (ok = false → ∀ seq ∈ call.writes, s.pending.lookup seq = none)
  | .sendRequest | .sendAndDetectFailure | .elapse _ | .respond _ | .disconnect | .drain => True

theorem correlated_advance {s : Broker} {i : Nat} {ok : Bool} (correlated : Correlated s)
    (known : s.calls[i]? = some call)
    (careful : (call = .numbering → s.nextSeq ≠ Int64.maxValue) ∧
      (ok = false → ∀ seq ∈ call.writes, s.pending.lookup seq = none)) :
    Correlated (s.advance i ok call) := by
  cases call with
  | queued | noWaitQueued msg => exact correlated.acquires known rfl (fun _ => id) rfl
  | numbering => exact correlated.draws (careful.1 rfl) known ok
  | registering seq => exact correlated.registers known ok
  | writing seq slot =>
    cases ok with
    | true =>
      refine correlated.moves known rfl rfl rfl rfl rfl ?_ fun key j found => ⟨found, fun same => ?_⟩
      · cases slot <;> exact fun _ => id
      · have listens := correlated.listens known (same ▸ found)
        cases slot <;> exact listens
    | false => exact correlated.unsent known rfl (careful.2 rfl seq rfl)
  | awaiting seq slot =>
    cases slot with
    | empty => exact correlated
    | response arrival | disconnected | closed =>
      exact correlated.moves_deaf known rfl rfl rfl rfl rfl rfl (fun _ => id) rfl
  | cleaning seq =>
    refine correlated.moves known rfl rfl rfl rfl rfl (fun _ => id) fun key j found => ?_
    change (s.pending.erase seq).lookup key = some j at found
    have other : key ≠ seq := by
      rintro rfl
      simp at found
    rw [AList.lookup_erase_ne other] at found
    refine ⟨found, fun same => absurd ?_ other⟩
    exact (some.inj (correlated.listens known (same ▸ found))).symm
  | returned seq out | noWaitReturned msg ok => exact correlated
  | noWaitWriting msg =>
    exact correlated.moves_deaf known rfl rfl rfl rfl rfl rfl (fun _ => id) rfl

theorem correlated_elapse {s : Broker} {i : Nat} (correlated : Correlated s)
    (known : s.calls[i]? = some call) : Correlated (s.elapse i call) := by
  unfold elapse
  split
  next seq =>
    refine correlated.moves known rfl rfl rfl rfl rfl (fun _ => nofun) fun key j found => ?_
    refine ⟨found, fun same => ?_⟩
    have listens := correlated.listens known (same ▸ found)
    exact listens
  next => exact correlated

theorem correlated_step (s : Broker) (event : BrokerEvent) (correlated : Correlated s)
    (careful : Careful s event) : Correlated (s.step event) := by
  cases event with
  | sendRequest | sendAndDetectFailure => exact correlated.begins rfl rfl rfl rfl rfl nofun rfl rfl
  | sendMessageNoWait msg => exact correlated.begins rfl rfl rfl rfl rfl careful rfl rfl
  | nextSequence => exact correlated.draws_for_message careful
  | advance i ok =>
    show Correlated (s.calls[i]?.elim s (s.advance i ok))
    cases known : s.calls[i]? with
    | none => exact correlated
    | some call => exact correlated_advance correlated known (careful call known)
  | elapse i =>
    show Correlated (s.calls[i]?.elim s (s.elapse i))
    cases known : s.calls[i]? with
    | none => exact correlated
    | some call => exact correlated_elapse correlated known
  | respond response =>
    show Correlated (if s.reader = .reading then s.handleResponse response else s)
    split
    · exact correlated.responds response
    · exact correlated
  | disconnect =>
    show Correlated (if s.reader = .reading then { s with reader := .closing } else s)
    split
    · exact correlated.of_same rfl rfl rfl rfl (fun _ _ => id) correlated.registered
    · exact correlated
  | drain =>
    show Correlated (if s.reader = .closing then s.drain else s)
    split
    · exact correlated.drains
    · exact correlated

/-- **Requests and responses are correlated.** After every careful run a call has received only a
response with the number of its own request, no response has reached two calls, no two requests have
the same number, and nothing is registered under the number of a call that has returned. -/
theorem responses_correlated (events : List BrokerEvent)
    (careful : Run.Allowed step Careful .new events) :
    (∀ i arrival, (after step .new events).receivedAt i = some arrival →
        (after step .new events).numberAt i = some arrival.response.requestSeq) ∧
      (∀ seq outcome, .returned seq outcome ∈ (after step .new events).calls →
        ∀ timeoutMs response, outcome.requestResult timeoutMs = .ok response →
          response.requestSeq = seq) ∧
      (∀ i j one other, (after step .new events).receivedAt i = some one →
        (after step .new events).receivedAt j = some other →
          one.number = other.number → i = j) ∧
      (∀ i j seq, (after step .new events).numberAt i = some seq →
        (after step .new events).numberAt j = some seq → i = j) ∧
      ∀ seq outcome, .returned seq outcome ∈ (after step .new events).calls →
        (after step .new events).pending.lookup seq = none := by
  have correlated := invariant_after step correlated_step events _ Correlated.new careful
  refine ⟨fun i arrival has => (correlated.answers i arrival has).1, ?_, correlated.once,
    correlated.unique, ?_⟩
  · intro seq outcome back timeoutMs response isResult
    obtain ⟨i, known⟩ := mem_iff_getElem?.mp back
    cases outcome with
    | received arrival =>
      have number := (correlated.answers i arrival (by rw [receivedAt, field_of known]; rfl)).1
      rw [numberAt, field_of known] at number
      rw [← Except.ok.inj isResult]
      exact (some.inj number).symm
    | _ => exact nomatch isResult
  · intro seq outcome back
    obtain ⟨i, known⟩ := mem_iff_getElem?.mp back
    exact correlated.lookup_of_deaf known rfl rfl

/-! ### A request that is not written -/

section Sample

instance instDecidableUnregistered (s : Broker) (numbers : Option Int64) :
    Decidable (∀ seq ∈ numbers, s.pending.lookup seq = none) := decidableForallMem numbers

instance instDecidableCarefulBroker (s : Broker) : (event : BrokerEvent) → Decidable (Careful s event)
  | .sendMessageNoWait message => decidableForallMem message
  | .nextSequence => inferInstanceAs (Decidable (s.nextSeq ≠ Int64.maxValue))
  | .advance i _ => decidableForallMem s.calls[i]?
  | .sendRequest | .sendAndDetectFailure | .elapse _ | .respond _ | .disconnect | .drain =>
    .isTrue trivial

def answer (requestSeq : Int64) : Response := ⟨100, requestSeq, "evaluate", true, none, none⟩

/-- Steps of one call that all go well. -/
def callSteps (call count : Nat) : List BrokerEvent := replicate count (.advance call true)

/-- The first call is answered, twice; the second one is answered between its timeout and the removal
of its channel; a message is sent without waiting, and the connection ends. -/
def answeredAndTimedOut : List BrokerEvent :=
  [BrokerEvent.sendRequest, .sendAndDetectFailure] ++ callSteps 0 4 ++
    [BrokerEvent.respond (answer 9), .respond (answer 1), .respond (answer 1)] ++ callSteps 0 1 ++
    callSteps 1 4 ++ [BrokerEvent.elapse 1, .respond (answer 2)] ++ callSteps 1 1 ++
    [BrokerEvent.nextSequence, .sendMessageNoWait (some 3)] ++ callSteps 2 2 ++
    [BrokerEvent.disconnect, .drain]

theorem answered_and_timed_out_correlated :
    (after step .new answeredAndTimedOut).calls =
        [.returned 1 (.received ⟨1, answer 1⟩), .returned 2 .timedOut, .noWaitReturned (some 3) true] ∧
      (∀ i j seq, (after step .new answeredAndTimedOut).numberAt i = some seq →
        (after step .new answeredAndTimedOut).numberAt j = some seq → i = j) ∧
      ∀ seq outcome, .returned seq outcome ∈ (after step .new answeredAndTimedOut).calls →
        (after step .new answeredAndTimedOut).pending.lookup seq = none := by
  have correlated := responses_correlated answeredAndTimedOut (by decide)
  exact ⟨by decide, correlated.2.2.2⟩

def failedWrite : List BrokerEvent :=
  BrokerEvent.sendRequest :: callSteps 0 3 ++ [BrokerEvent.advance 0 false, .sendRequest] ++
    callSteps 1 4

/-- The call has returned with an error, and its channel is still in the map. -/
theorem unsent_request_stays_pending :
    (after step .new failedWrite).calls = [.returned 1 .unsent, .awaiting 2 .empty] ∧
      (after step .new failedWrite).pending.lookup 1 = some 0 := by
  decide

end Sample

end Detrix.Dap
