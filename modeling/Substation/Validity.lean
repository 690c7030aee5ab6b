/-
This file follows the state and sequence numbers from the publisher loop to the
validity the subscriber reports. The numbers put the publications of a run in the
order in which they were sent, as long as they have not wrapped; the receiver
remembers the numbers of the last packet only. What the listener is told about a
packet is therefore decided by that packet and the one received before it,
whatever was lost, repeated or overtaken on the way.
-/

import Mathlib.Data.Prod.Lex
import Substation.Delivery

namespace Substation

open Decimal

/-! ### The order of the numbers -/

/-- The state number and the sequence number of a message, the state number first. -/
def Message.rank (message : Message) : ℕ ×ₗ ℕ :=
  toLex (message.stNum.toNat, message.sqNum.toNat)

def Publication.rank (publication : Publication) : ℕ ×ₗ ℕ :=
  toLex (publication.stNum.toNat, publication.sqNum.toNat)

theorem toNat_nextNumber {number : BitVec 32} (room : number.toNat + 1 < 2 ^ 32) :
    (nextNumber number).toNat = number.toNat + 1 := by
  have sum : (number + 1).toNat = number.toNat + 1 := by
    rw [BitVec.toNat_add]
    exact Nat.mod_eq_of_lt room
  rw [nextNumber, if_neg, sum]
  intro zero
  rw [zero] at sum
  cases sum

/-- A turn sends numbers that are not before those the publisher stands at, and that have not
gone up by more than one. -/
theorem PublishLoop.rank_message (loop : PublishLoop) {last : Message}
    (room : last.stNum.toNat + 1 < 2 ^ 32) (data : GuiData) (now : Nat) :
    last.rank ≤ (loop.message last data now).rank ∧
      (loop.message last data now).stNum.toNat ≤ last.stNum.toNat + 1 ∧
      (loop.message last data now).sqNum.toNat ≤ last.sqNum.toNat := by
  rw [message]
  split
  · have next := toNat_nextNumber room
    refine ⟨Prod.Lex.le_iff.mpr (.inl ?_), next.le, Nat.zero_le _⟩
    show last.stNum.toNat < (nextNumber last.stNum).toNat
    omega
  · exact ⟨le_refl _, Nat.le_succ _, le_refl _⟩

/-- Before the next turn the publisher stands behind what it has sent. -/
theorem Message.rank_lt_next {sent : Message} (room : sent.sqNum.toNat + 1 < 2 ^ 32) :
    sent.rank < Message.rank { sent with sqNum := nextNumber sent.sqNum } := by
  refine Prod.Lex.lt_iff.mpr (.inr ⟨rfl, ?_⟩)
  show sent.sqNum.toNat < (nextNumber sent.sqNum).toNat
  rw [toNat_nextNumber room]
  exact Nat.lt_succ_self _

/-- The publications of a run are those of messages in the order of their numbers, none of them
before the numbers the publisher starts from. -/
theorem ordered_outputs {srcAddr : MacAddress} {loop : PublishLoop} {last : Message}
    (configured : loop.publisher = last.publisher srcAddr) {turns : List (GuiData × Nat)}
    (stRoom : last.stNum.toNat + turns.length < 2 ^ 32)
    (sqRoom : last.sqNum.toNat + turns.length < 2 ^ 32) :
    (∀ publication ∈ Machine.outputs publishTurn loop turns, last.rank ≤ publication.rank) ∧
      (Machine.outputs publishTurn loop turns).Pairwise
        fun first second => first.rank < second.rank := by
  induction turns generalizing loop last with
  | nil => exact ⟨List.forall_mem_nil _, List.Pairwise.nil⟩
  | cons turn turns inductionHypothesis =>
    rw [List.length_cons] at stRoom sqRoom
    obtain ⟨notBefore, stNum, sqNum⟩ :=
      @PublishLoop.rank_message loop last (by omega) turn.1 turn.2
    have taken := PublishLoop.publishData_eq configured turn.1 turn.2
    dsimp only at taken
    generalize loop.message last turn.1 turn.2 = sent at notBefore stNum sqNum taken
    have next := @toNat_nextNumber sent.sqNum (by omega)
    have behind := @Message.rank_lt_next sent (by omega)
    obtain ⟨later, ordered⟩ := @inductionHypothesis (publishTurn loop turn).1
      { sent with sqNum := nextNumber sent.sqNum }
      (congrArg (fun taken => taken.1.publisher) taken) (by dsimp only; omega)
      (by dsimp only; omega)
    have first : (publishTurn loop turn).2.rank = sent.rank :=
      congrArg (fun taken => taken.2.rank) taken
    rw [Machine.outputs]
    refine ⟨List.forall_mem_cons.mpr ⟨first ▸ notBefore, ?_⟩, List.pairwise_cons.mpr ⟨?_, ordered⟩⟩
    · intro publication member
      exact notBefore.trans (behind.le.trans (later publication member))
    · intro publication member
      rw [first]
      exact behind.trans_le (later publication member)

/-- Every publication of a run sends the frame of a message with its numbers. -/
theorem numbered_outputs {srcAddr : MacAddress} {loop : PublishLoop} {last : Message}
    (configured : loop.publisher = last.publisher srcAddr) (turns : List (GuiData × Nat)) :
    ∀ publication ∈ Machine.outputs publishTurn loop turns, ∃ message : Message,
      publication.stNum = message.stNum ∧ publication.sqNum = message.sqNum ∧
        publication.packet = some (message.frame srcAddr) := by
  induction turns generalizing loop last with
  | nil => exact List.forall_mem_nil _
  | cons turn turns inductionHypothesis =>
    rw [Machine.outputs, publishTurn, PublishLoop.publishData_eq configured, List.forall_mem_cons]
    exact ⟨⟨_, rfl, rfl, rfl⟩, inductionHypothesis rfl⟩

theorem stNum_le_of_rank_le {message : Message} {publication : Publication}
    (notBefore : message.rank ≤ publication.rank) :
    message.stNum.toNat ≤ publication.stNum.toNat := by
  rcases Prod.Lex.le_iff.mp notBefore with less | ⟨same, -⟩
  · exact less.le
  · exact same.le

/-- In a list in the order of the numbers, publications of one state number are in the order of
their sequence numbers. -/
theorem sqNum_le_iff {sent : List Publication}
    (ordered : sent.Pairwise fun first second => first.rank < second.rank)
    {first second : Nat} {earlier later : Publication} (atFirst : sent[first]? = some earlier)
    (atSecond : sent[second]? = some later) (same : earlier.stNum = later.stNum) :
    later.sqNum ≤ earlier.sqNum ↔ second ≤ first := by
  have increasing {low high : Nat} {left right : Publication} (below : low < high)
      (atLow : sent[low]? = some left) (atHigh : sent[high]? = some right)
      (equal : left.stNum = right.stNum) : left.sqNum < right.sqNum := by
    obtain ⟨lowInside, rfl⟩ := List.getElem?_eq_some_iff.mp atLow
    obtain ⟨highInside, rfl⟩ := List.getElem?_eq_some_iff.mp atHigh
    have ranks := List.pairwise_iff_getElem.mp ordered low high lowInside highInside below
    rcases Prod.Lex.lt_iff.mp ranks with differs | ⟨-, less⟩
    · exact absurd (congrArg BitVec.toNat equal) differs.ne
    · exact BitVec.lt_def.mpr less
  rcases Nat.lt_trichotomy first second with before | rfl | after
  · exact iff_of_false (BitVec.not_le.mpr (increasing before atFirst atSecond same))
      (Nat.not_le.mpr before)
  · rw [atFirst, Option.some.injEq] at atSecond
    exact iff_of_true (atSecond ▸ BitVec.le_refl _) (Nat.le_refl _)
  · exact iff_of_true (BitVec.le_of_lt (increasing after atSecond atFirst same.symm)) after.le

/-! ### The validity of one packet -/

/-- The data of a packet of the publisher is read without an error. -/
theorem readData_fine {subscriber : GooseSubscriber} (expecting : subscriber.Expecting)
    {fields : PayloadFields} {message : Message} {rest : List UInt8}
    (carry : fields.Carry message rest) : (subscriber.readData fields).2.2 = true := by
  rcases expecting with absent | ⟨revision, dataset, first, second, firstRoom, secondRoom, filled⟩
  · rw [readData_create carry (by rw [GooseSubscriber.retained, absent, ite_self])]
  · have parsed := parseElements_storesAll
      (message.dataset.storesAll_items dataset.tripCommand dataset.closeCommand
        (show 4 ≤ (first.store (BerInteger.int32Octets dataset.faultType)).maxSize from firstRoom)
        (show 4 ≤ (second.store (BerInteger.int32Octets dataset.protElement)).maxSize
          from secondRoom)
        (.single dataset.faultCurrent) (.single dataset.faultVoltage) (.single dataset.frequency))
      (fun item member => (message.dataset.length_items item member).trans (by decide))
      (List.drop_zero (l := encodeElements message.dataset.items ++ rest)) []
    rw [Nat.zero_add, List.append_nil, List.append_nil] at parsed
    rw [GooseSubscriber.readData, GooseSubscriber.retained, revision, carry.confRev, if_pos rfl,
      filled]
    simp only [carry.dataSetBuffer, carry.dataSetBufferLength, parseAllData]
    exact decide_eq_true (congrArg Prod.snd parsed)

/-- The numbers by which the receiver tells a packet from a repeated one. -/
def GooseSubscriber.numbers (subscriber : GooseSubscriber) : BitVec 32 × BitVec 32 :=
  (subscriber.stNum, subscriber.sqNum)

def Message.numbers (message : Message) : BitVec 32 × BitVec 32 := (message.stNum, message.sqNum)

/-- A packet with the state number remembered and no later sequence number. -/
def Stale (remembered received : BitVec 32 × BitVec 32) : Prop :=
  remembered.1 = received.1 ∧ received.2 ≤ remembered.2

theorem step_validity {program : SubscriberProgram} (expecting : program.subscriber.Expecting)
    {message : Message} {srcAddr : MacAddress} {reception : Reception}
    (arrives : Arrives (message.frame srcAddr) reception.frame) :
    ∃ after call, program.step reception = some (after, some call) ∧
      after.subscriber.Expecting ∧ after.subscriber.numbers = message.numbers ∧
      (call.valid = true ↔ ¬ Stale program.subscriber.numbers message.numbers ∧
        reception.later ≤ (reception.now + 500) % 2 ^ 64) := by
  obtain ⟨after, call, taken, still, -, -⟩ := step_frame expecting arrives
  refine ⟨after, call, taken, still, ?_⟩
  obtain ⟨fields, rest, found, carry⟩ := fields_frame program arrives
  rcases SubscriberProgram.step_cases taken with
    ⟨ignored, -⟩ | ⟨other, heard, same, called, accepted, valid, -⟩
  · rw [found] at ignored
    cases ignored
  · rw [found, Option.some.injEq] at same
    rw [Option.some.injEq] at called
    subst same called
    rw [valid, accepted, GooseSubscriber.isValid, GooseSubscriber.numbers, GooseSubscriber.accept,
      readData_fine expecting carry, carry.stNum, carry.sqNum, carry.timeAllowedToLive]
    refine ⟨rfl, ?_⟩
    rw [Bool.and_eq_true, decide_eq_true_iff, Bool.true_and, Bool.not_eq_true',
      Bool.and_eq_false_iff, decide_eq_false_iff_not, decide_eq_false_iff_not, ← not_and_or]
    rfl

/-! ### The validity of every packet of a run -/

/-- After some packets of the publisher the receiver remembers the numbers of the last one. -/
theorem numbers_reach {Index : Type} {message : Index → Message} {srcAddr : MacAddress}
    {program : SubscriberProgram} (expecting : program.subscriber.Expecting)
    {history : List (Index × Reception)}
    (arrive : ∀ delivery ∈ history,
      Arrives ((message delivery.1).frame srcAddr) delivery.2.frame) :
    ∃ last, Machine.reach SubscriberProgram.step program (history.map Prod.snd) = some last ∧
      last.subscriber.Expecting ∧
      last.subscriber.numbers = (history.getLast?.map fun delivery =>
        (message delivery.1).numbers).getD program.subscriber.numbers := by
  induction history generalizing program with
  | nil => exact ⟨program, rfl, expecting, rfl⟩
  | cons delivery history inductionHypothesis =>
    rw [List.forall_mem_cons] at arrive
    obtain ⟨after, call, taken, still, numbers, -⟩ := step_validity expecting arrive.1
    obtain ⟨last, reached, ready, remembered⟩ := inductionHypothesis still arrive.2
    refine ⟨last, ?_, ready, ?_⟩
    · rw [List.map_cons, Machine.reach, taken]
      exact reached
    · rw [remembered, numbers, List.getLast?_cons, Option.map_some, Option.getD_some]
      cases history.getLast? <;> rfl

/-- Over every run of the publisher program of fewer than `2 ^ 32 - 1` turns, and every delivery
of its packets with losses, repetitions and in any order: the listener is told that a packet is
valid exactly when it asks within the time allowed to live and the packet received before, if
any, is of another state or was sent earlier. -/
theorem valid_iff_news (srcAddr : MacAddress) (startTime : Nat) (turns : List (GuiData × Nat))
    (few : turns.length < 2 ^ 32 - 1) :
    let sent := Machine.outputs publishTurn (.start srcAddr startTime) turns
    ∀ (buffer : List UInt8) (file : Option Text) (history : List (Fin sent.length × Reception))
      (next : Fin sent.length × Reception),
      (∀ delivery ∈ next :: history, (sent.get delivery.1).DeliveredAs delivery.2) →
      ∃ program after call,
        Machine.reach SubscriberProgram.step (.start buffer file) (history.map Prod.snd) =
          some program ∧
        program.step next.2 = some (after, some call) ∧
        (call.valid = true ↔
          (∀ last ∈ history.getLast?, (sent.get last.1).stNum ≠ (sent.get next.1).stNum ∨
            last.1 < next.1) ∧
          next.2.later ≤ (next.2.now + 500) % 2 ^ 64) := by
  intro sent buffer file history next delivered
  have configured : (PublishLoop.start srcAddr startTime).publisher =
      Message.publisher ⟨1, 0, startTime, ⟨false, false, 0, 0, 0, 0, 0⟩⟩ srcAddr := rfl
  have one : (1 : BitVec 32).toNat = 1 := rfl
  have zero : (0 : BitVec 32).toNat = 0 := rfl
  obtain ⟨notBefore, ordered⟩ := @ordered_outputs srcAddr _ _ configured turns
    (by rw [one]; omega) (by rw [zero]; omega)
  choose message stNum sqNum packet using fun index : Fin sent.length =>
    numbered_outputs configured turns (sent.get index) (List.get_mem sent index)
  have arrives : ∀ delivery ∈ next :: history,
      Arrives ((message delivery.1).frame srcAddr) delivery.2.frame := by
    intro delivery member
    obtain ⟨octets, sentAs, arrives⟩ := delivered delivery member
    rw [packet, Option.some.injEq] at sentAs
    exact sentAs ▸ arrives
  rw [List.forall_mem_cons] at arrives
  obtain ⟨program, reached, expecting, remembered⟩ :=
    @numbers_reach _ message srcAddr (.start buffer file) (.inl rfl) history arrives.2
  obtain ⟨after, call, taken, -, -, valid⟩ := step_validity expecting arrives.1
  refine ⟨program, after, call, reached, taken, valid.trans (and_congr_left' ?_)⟩
  have numbers (index : Fin sent.length) :
      (message index).numbers = ((sent.get index).stNum, (sent.get index).sqNum) := by
    rw [Message.numbers, stNum, sqNum]
  rw [remembered, numbers]
  cases history.getLast? with
  | none =>
    refine iff_of_true ?_ (by intro last none; cases none)
    rintro ⟨unset, -⟩
    have numbered : (sent.get next.1).stNum = 0 := unset.symm
    have positive := stNum_le_of_rank_le (notBefore _ (List.get_mem sent next.1))
    rw [numbered] at positive
    exact absurd (show 1 ≤ 0 from positive) (by decide)
  | some last =>
    have repeated : Stale ((sent.get last.1).stNum, (sent.get last.1).sqNum)
        ((sent.get next.1).stNum, (sent.get next.1).sqNum) ↔
        (sent.get last.1).stNum = (sent.get next.1).stNum ∧ next.1 ≤ last.1 :=
      and_congr_right fun same => sqNum_le_iff ordered (List.getElem?_eq_getElem last.1.isLt)
        (List.getElem?_eq_getElem next.1.isLt) same
    rw [Option.map_some, Option.getD_some, numbers, repeated, not_and_or, not_le]
    constructor
    · rintro news other ⟨⟩
      exact news
    · exact fun news => news last rfl

/-- An earlier state that is received again after a trip is told to be valid: the packet sent
before the trip is not the packet received last. -/
theorem replayed_state_is_valid :
    let srcAddr : MacAddress := ⟨[2, 0, 0, 0, 0, 1], rfl⟩
    let normal := readGuiData none
    let fault : GuiData := { normal with trip := 1 }
    let before := Message.frame ⟨1, 0, 1000, normal.dataset⟩ srcAddr
    let tripped := Message.frame ⟨2, 0, 3000, fault.dataset⟩ srcAddr
    ((Machine.outputs publishTurn (.start srcAddr 1000) [(normal, 2000), (fault, 3000)]).map
        Publication.packet = [some before, some tripped]) ∧
      ∃ program after call, Machine.reach SubscriberProgram.step (.start [] none)
          [⟨tripped, 4000, 4000, false, false⟩] = some program ∧
        program.step ⟨before, 4001, 4002, false, false⟩ = some (after, some call) ∧
        call.valid = true := by
  intro srcAddr normal fault before tripped
  have configured : (PublishLoop.start srcAddr 1000).publisher =
      Message.publisher ⟨1, 0, 1000, normal.dataset⟩ srcAddr := rfl
  obtain ⟨loop, first, firstTurn, firstPacket, firstNumber, published, change⟩ :
      ∃ loop publication, publishTurn (.start srcAddr 1000) (normal, 2000) = (loop, publication) ∧
        publication.packet = some before ∧ publication.stNum = 1 ∧
        loop.publisher = Message.publisher ⟨1, 1, 1000, normal.dataset⟩ srcAddr ∧
        loop.change fault = true :=
    ⟨_, _, PublishLoop.publishData_eq configured normal 2000, rfl, rfl, rfl, rfl⟩
  obtain ⟨last, second, secondTurn, secondPacket, secondNumber⟩ :
      ∃ last publication, publishTurn loop (fault, 3000) = (last, publication) ∧
        publication.packet = some tripped ∧ publication.stNum = 2 := by
    have taken := PublishLoop.publishData_eq published fault 3000
    rw [PublishLoop.message, if_pos change] at taken
    exact ⟨_, _, taken, rfl, rfl⟩
  have sent : Machine.outputs publishTurn (.start srcAddr 1000) [(normal, 2000), (fault, 3000)] =
      [first, second] := by
    rw [Machine.outputs, Machine.outputs, Machine.outputs, firstTurn, secondTurn]
  have law := valid_iff_news srcAddr 1000 [(normal, 2000), (fault, 3000)] (by decide)
  rw [sent] at law ⊢
  obtain ⟨program, after, call, reached, taken, valid⟩ :=
    law [] none [(⟨1, Nat.one_lt_two⟩, ⟨tripped, 4000, 4000, false, false⟩)]
      (⟨0, Nat.zero_lt_two⟩, ⟨before, 4001, 4002, false, false⟩) (by
        rw [List.forall_mem_cons, List.forall_mem_singleton]
        exact ⟨⟨before, firstPacket, .inl rfl⟩, ⟨tripped, secondPacket, .inl rfl⟩⟩)
  refine ⟨by rw [List.map_cons, List.map_cons, firstPacket, secondPacket, List.map_nil], program,
    after, call, reached, taken, valid.mpr ⟨?_, (by decide : 4002 ≤ (4001 + 500) % 2 ^ 64)⟩⟩
  rintro other ⟨⟩
  refine .inl ?_
  show second.stNum ≠ first.stNum
  rw [firstNumber, secondNumber]
  decide

end Substation
