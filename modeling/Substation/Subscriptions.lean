/-
This file embeds the receiver of `goose_receiver.c` with its list of subscribers, as
`goose_subscriber.c` configures them: filters on the application and the destination,
observers that take every message, data sets of the application, and the texts and
addresses a subscriber keeps of a message.

A frame is let through by the filter of any subscriber, and its payload then goes to
the first subscriber with its reference, whatever that one's own filter is. The main
results are that a message changes what one subscriber holds and no other, that
nothing reaches the subscribers behind an observer, and that a receiver with one
subscriber is the one the other files are about.
-/

import Substation.Packets

namespace Substation

open Decimal

/-! ### goose_subscriber.c -/

/-- A subscriber: what the application sets, the texts and addresses of a message, and the rest of
what the receiver keeps. `appId` is absent when it is `-1`. -/
structure Subscription where
  goCBRef : List UInt8
  goCBRefLen : Nat
  appId : Option Nat
  dstMac : List UInt8
  dstMacSet : Bool
  isObserver : Bool
  dataSetValuesSelfAllocated : Bool
  srcMac : List UInt8
  vlanSet : Bool
  vlanId : Nat
  vlanPrio : Nat
  goId : List UInt8
  datSet : List UInt8
  state : GooseSubscriber

namespace Subscription

/-- A text of 130 characters holds 129 and the zero behind them. -/
def maxText : Nat := 129

/-- `GooseSubscriber_create`. -/
def create (goCbRef : List UInt8) (dataSetValues : Option (List (Option MmsValue))) :
    Subscription where
  goCBRef := goCbRef.take maxText
  goCBRefLen := goCbRef.length
  appId := none
  dstMac := List.replicate 6 0xff
  dstMacSet := false
  isObserver := false
  dataSetValuesSelfAllocated := dataSetValues.isNone
  srcMac := List.replicate 6 0
  vlanSet := false
  vlanId := 0
  vlanPrio := 0
  goId := []
  datSet := []
  state := { GooseSubscriber.create with dataSetValues := dataSetValues }

def setDstMac (self : Subscription) (dstMac : List UInt8) : Subscription :=
  { self with dstMac := dstMac, dstMacSet := true }

def setAppId (self : Subscription) (appId : Nat) : Subscription := { self with appId := some appId }

end Subscription

/-! ### parseGooseMessage -/

/-- What stands in a frame before its payload. -/
structure FrameHeader where
  dstMac : List UInt8
  srcMac : List UInt8
  appId : Nat
  vlanSet : Bool
  vlanId : Nat
  priority : Nat

/-- The header of a frame, the buffer from its payload on, and the length of the payload. The shift
in the priority binds tighter than the conjunction. -/
def frameHeader (buffer : List UInt8) (numbytes : Nat) : Option (FrameHeader × List UInt8 × Nat) :=
  let vlanSet := BerDecoder.octetAt buffer 12 = 0x81 ∧ BerDecoder.octetAt buffer 13 = 0x00
  let bufPos := if vlanSet then 16 else 12
  let length := uint16At buffer (bufPos + 4)
  if numbytes < 22 then none
  else if vlanSet ∧ numbytes < 26 then none
  else if BerDecoder.octetAt buffer bufPos ≠ 0x88 then none
  else if BerDecoder.octetAt buffer (bufPos + 1) ≠ 0xb8 then none
  else if length < 8 then none
  else if numbytes < length + (bufPos + 2) then none
  else some ({
    dstMac := buffer.take 6
    srcMac := (buffer.drop 6).take 6
    appId := uint16At buffer (bufPos + 2)
    vlanSet := decide vlanSet
    vlanId := if vlanSet then
        (BerDecoder.octetAt buffer 14 &&& 0x07).toNat * 256 + (BerDecoder.octetAt buffer 15).toNat
      else 0
    priority :=
      if vlanSet then (BerDecoder.octetAt buffer 14 &&& ((0xf8 : UInt8) >>> 5)).toNat else 0 },
    buffer.drop (bufPos + 10), length - 8)

namespace Subscription

/-- The filter of a subscriber that is not an observer. -/
def accepts (self : Subscription) (header : FrameHeader) : Bool :=
  (self.appId = none || self.appId = some header.appId) &&
    (!self.dstMacSet || self.dstMac = header.dstMac)

/-- An observer takes the header over. -/
def observe (self : Subscription) (header : FrameHeader) : Subscription :=
  { self with
    appId := some header.appId
    srcMac := header.srcMac
    dstMac := header.dstMac
    vlanSet := header.vlanSet
    vlanId := header.vlanId
    vlanPrio := header.priority }

/-- The loop that looks for an interested subscriber; there is no result when there is none. -/
def interested (header : FrameHeader) : List Subscription → Option (List Subscription)
  | [] => none
  | subscriber :: rest =>
    if subscriber.isObserver then some (subscriber.observe header :: rest)
    else if subscriber.accepts header then some (subscriber :: rest)
    else (interested header rest).map (subscriber :: ·)

end Subscription

/-! ### parseGoosePayload -/

/-- The elements from `bufPos` up to `stop`, and whether the last length could be decoded. -/
def walk (buffer : List UInt8) (maxBufPos stop : Nat) : Nat → Nat → List Element × Bool
  | 0, _ => ([], false)
  | fuel + 1, bufPos =>
    if stop ≤ bufPos then ([], true)
    else
      match BerDecoder.decodeLength buffer (bufPos + 1) maxBufPos with
      | none => ([], false)
      | some (length, content) =>
        let rest := walk buffer maxBufPos stop fuel (content + length)
        (⟨BerDecoder.octetAt buffer bufPos, buffer.drop content, length⟩ :: rest.1, rest.2)

namespace PayloadFields

/-- The cases of the switch that only read into local variables. -/
def keep (self : PayloadFields) (element : Element) : PayloadFields :=
  let uint32 := BerDecoder.decodeUint32 element.content element.length 0
  if element.tag = 0x81 then { self with timeAllowedToLive := uint32 }
  else if element.tag = 0x84 then { self with timestampBuffer := some element.content }
  else if element.tag = 0x85 then { self with stNum := uint32 }
  else if element.tag = 0x86 then { self with sqNum := uint32 }
  else if element.tag = 0x87 then
    { self with simulation := BerDecoder.decodeBoolean element.content 0 }
  else if element.tag = 0x88 then { self with confRev := uint32 }
  else if element.tag = 0x89 then
    { self with ndsCom := BerDecoder.decodeBoolean element.content 0 }
  else if element.tag = 0xab then
    { self with dataSetBuffer := element.content, dataSetBufferLength := element.length }
  else self

end PayloadFields

/-- The octets of an element that is a text. -/
def Element.text (element : Element) : List UInt8 := element.content.take element.length

namespace Subscription

/-- A subscriber takes a message with the reference of an element. -/
def refers (self : Subscription) (element : Element) : Bool :=
  self.isObserver || (self.goCBRefLen = element.length && self.goCBRef = element.text)

/-- An observer keeps the reference, unless it is too long. -/
def seeReference (self : Subscription) (element : Element) : Subscription :=
  if self.isObserver ∧ element.length ≤ maxText then { self with goCBRef := element.text } else self

def seeDatSet (self : Subscription) (element : Element) : Subscription :=
  if element.length ≤ maxText then { self with datSet := element.text } else self

def seeGoId (self : Subscription) (element : Element) : Subscription :=
  if element.length ≤ maxText then { self with goId := element.text } else self

/-- The data set in force when the data of a message is read. An observer drops the one it has,
whoever it belongs to. -/
def retained (self : Subscription) (confRev : BitVec 32) : Option (List (Option MmsValue)) :=
  if self.isObserver then none
  else if self.dataSetValuesSelfAllocated ∧ self.state.confRev ≠ confRev then none
  else self.state.dataSetValues

/-- The end of `parseGoosePayload` for the matching subscriber. -/
def accept (self : Subscription) (fields : PayloadFields) (now : Nat) : Subscription :=
  let before := { self.state with
    dataSetValues := self.retained fields.confRev
    confRev := fields.confRev }
  let after := before.accept fields now
  { self with
    state := after
    dataSetValuesSelfAllocated := self.dataSetValuesSelfAllocated ||
      (before.dataSetValues.isNone && after.dataSetValues.isSome) }

end Subscription

/-- The local variables of `parseGoosePayload` and the subscribers; the matching subscriber is its
index in the list. -/
structure PayloadState where
  subscriberList : List Subscription
  matchingSubscriber : Option Nat
  fields : PayloadFields

namespace PayloadState

/-- What is done with the matching subscriber, when there is one. -/
def update (self : PayloadState) (change : Subscription → Subscription) : PayloadState :=
  match self.matchingSubscriber with
  | none => self
  | some index => { self with subscriberList := self.subscriberList.modify index change }

/-- The switch on one element, and whether the loop goes on. -/
def read (self : PayloadState) (element : Element) : PayloadState × Bool :=
  if element.tag = 0x80 then
    match self.subscriberList.findIdx? (·.refers element) with
    | some index =>
      ({ self with
        subscriberList := self.subscriberList.modify index (·.seeReference element)
        matchingSubscriber := some index }, true)
    | none => (self, self.matchingSubscriber.isSome)
  else if element.tag = 0x82 then (self.update (·.seeDatSet element), true)
  else if element.tag = 0x83 then (self.update (·.seeGoId element), true)
  else ({ self with fields := self.fields.keep element }, true)

def readAll : PayloadState → List Element → PayloadState × Bool
  | self, [] => (self, true)
  | self, element :: rest =>
    if (self.read element).2 then readAll (self.read element).1 rest else self.read element

end PayloadState

/-- `parseGoosePayload`: the subscribers afterwards and the one whose listener is called. -/
def parseGoosePayload (subscriberList : List Subscription) (buffer : List UInt8)
    (apduLength now : Nat) : List Subscription × Option Nat :=
  if BerDecoder.octetAt buffer 0 = 0x61 then
    match BerDecoder.decodeLength buffer 1 apduLength with
    | none => (subscriberList, none)
    | some (gooseLength, bufPos) =>
      let walked := walk buffer apduLength (bufPos + gooseLength) (apduLength + 1) bufPos
      let read := PayloadState.readAll ⟨subscriberList, none, PayloadFields.start⟩ walked.1
      match read.1.matchingSubscriber with
      | none => (read.1.subscriberList, none)
      | some index =>
        if read.2 && walked.2 then
          (read.1.subscriberList.modify index (·.accept read.1.fields now), some index)
        else (read.1.subscriberList, none)
  else (subscriberList, none)

/-! ### The receiver -/

structure GooseReceiver where
  buffer : List UInt8
  subscriberList : List Subscription

namespace GooseReceiver

/-- `parseGooseMessage` on the buffer. -/
def parseGooseMessage (self : GooseReceiver) (numbytes now : Nat) : GooseReceiver × Option Nat :=
  match frameHeader self.buffer numbytes with
  | none => (self, none)
  | some (header, payload, apduLength) =>
    match Subscription.interested header self.subscriberList with
    | none => (self, none)
    | some subscriberList =>
      let parsed := parseGoosePayload subscriberList payload apduLength now
      ({ self with subscriberList := parsed.1 }, parsed.2)

/-- `GooseReceiver_tick` on a frame that is received at some time. -/
def tick (self : GooseReceiver) (arrival : List UInt8 × Nat) : GooseReceiver × Option Nat :=
  parseGooseMessage
    { self with buffer := overwrite self.buffer (arrival.1.take ethBufferLength) }
    (min arrival.1.length ethBufferLength) arrival.2

end GooseReceiver

/-! ### What a frame leaves alone -/

/-- The index of the first observer, or the number of subscribers. -/
def firstObserver (subscriberList : List Subscription) : Nat :=
  subscriberList.findIdx (·.isObserver)

/-- What an application has set of a subscriber that is not an observer. -/
def Subscription.settings (self : Subscription) :
    Option (List UInt8 × Nat × Option Nat × List UInt8 × Bool) :=
  if self.isObserver then none
  else some (self.goCBRef, self.goCBRefLen, self.appId, self.dstMac, self.dstMacSet)

/-- The settings are the same, and so is everything behind the first observer. -/
structure Kept (before after : List Subscription) : Prop where
  settings : after.map (·.settings) = before.map (·.settings)
  behind : ∀ index, firstObserver before < index → after[index]? = before[index]?

theorem firstObserver_eq (list : List Subscription) :
    firstObserver list = (list.map (·.settings)).findIdx Option.isNone := by
  rw [firstObserver, List.findIdx_map]
  congr 1
  funext subscriber
  simp only [Function.comp_apply, Subscription.settings]
  cases subscriber.isObserver <;> rfl

/-- A change of one element that a reading of the elements does not see. -/
theorem map_modify_of_eq {α β : Type*} {reading : α → β} {change : α → α}
    (same : ∀ element, reading (change element) = reading element) (list : List α) (index : Nat) :
    (list.modify index change).map reading = list.map reading := by
  refine List.ext_getElem? fun other => ?_
  rw [List.getElem?_map, List.getElem?_map, List.getElem?_modify]
  split
  · cases list[other]? with
    | none => rfl
    | some element => exact congrArg some (same element)
  · cases list[other]? <;> rfl

namespace Kept

variable {first second third : List Subscription}

theorem refl (list : List Subscription) : Kept list list := ⟨rfl, fun _ _ => rfl⟩

theorem firstObserver_eq (kept : Kept first second) :
    firstObserver second = firstObserver first := by
  rw [Substation.firstObserver_eq, Substation.firstObserver_eq, kept.settings]

theorem trans (earlier : Kept first second) (later : Kept second third) : Kept first third where
  settings := later.settings.trans earlier.settings
  behind index far := by
    rw [later.behind index (by rwa [earlier.firstObserver_eq]), earlier.behind index far]

/-- A change of one subscriber that is not behind an observer. -/
theorem modify (list : List Subscription) {index : Nat} {change : Subscription → Subscription}
    (near : index ≤ firstObserver list)
    (settings : ∀ subscriber, (change subscriber).settings = subscriber.settings) :
    Kept list (list.modify index change) where
  settings := map_modify_of_eq settings list index
  behind other far := List.getElem?_modify_ne change list (by omega)

end Kept

/-! The changes that the steps of the receiver make to one subscriber. -/

namespace Subscription

variable (self : Subscription) (element : Element)

theorem settings_seeReference : (self.seeReference element).settings = self.settings := by
  rw [seeReference]
  split_ifs with observer
  · rw [settings, settings, if_pos observer.1, if_pos observer.1]
  · rfl

theorem settings_seeDatSet : (self.seeDatSet element).settings = self.settings := by
  rw [seeDatSet]
  split_ifs <;> rfl

theorem settings_seeGoId : (self.seeGoId element).settings = self.settings := by
  rw [seeGoId]
  split_ifs <;> rfl

theorem settings_accept (fields : PayloadFields) (now : Nat) :
    (self.accept fields now).settings = self.settings := rfl

theorem state_seeReference : (self.seeReference element).state = self.state := by
  rw [seeReference]
  split_ifs <;> rfl

theorem state_seeDatSet : (self.seeDatSet element).state = self.state := by
  rw [seeDatSet]
  split_ifs <;> rfl

theorem state_seeGoId : (self.seeGoId element).state = self.state := by
  rw [seeGoId]
  split_ifs <;> rfl

end Subscription

/-- What the subscribers hold of their messages. -/
def states (subscriberList : List Subscription) : List GooseSubscriber :=
  subscriberList.map (·.state)

theorem interested_kept {header : FrameHeader} {list after : List Subscription}
    (found : Subscription.interested header list = some after) :
    Kept list after ∧ states after = states list := by
  induction list generalizing after with
  | nil => cases found
  | cons subscriber rest inductionHypothesis =>
    rw [Subscription.interested] at found
    split_ifs at found with observer accepts
    · rw [Option.some.injEq] at found
      subst found
      refine ⟨⟨?_, fun index far => ?_⟩, rfl⟩
      · have hidden : (subscriber.observe header).settings = subscriber.settings := by
          rw [Subscription.settings, Subscription.settings, if_pos observer]
          exact if_pos observer
        rw [List.map_cons, List.map_cons, hidden]
      · obtain ⟨index, rfl⟩ := Nat.exists_eq_add_of_lt far
        rfl
    · rw [Option.some.injEq] at found
      subst found
      exact ⟨Kept.refl _, rfl⟩
    · rw [Option.map_eq_some_iff] at found
      obtain ⟨others, foundRest, rfl⟩ := found
      obtain ⟨kept, same⟩ := inductionHypothesis foundRest
      refine ⟨⟨?_, fun index far => ?_⟩, ?_⟩
      · rw [List.map_cons, List.map_cons, kept.settings]
      · rw [firstObserver, List.findIdx_cons] at far
        obtain ⟨index, rfl⟩ : ∃ previous, index = previous + 1 := ⟨index - 1, by omega⟩
        rw [List.getElem?_cons_succ, List.getElem?_cons_succ]
        refine kept.behind index ?_
        rw [Bool.not_eq_true] at observer
        rw [observer, cond_false] at far
        exact Nat.lt_of_succ_lt_succ far
      · exact congrArg (subscriber.state :: ·) same

namespace PayloadState

/-- While the payload is read, only texts change, and nothing behind the first observer. -/
structure Reading (list : List Subscription) (reached : PayloadState) : Prop where
  kept : Kept list reached.subscriberList
  states : states reached.subscriberList = Substation.states list
  near : ∀ index, reached.matchingSubscriber = some index → index ≤ firstObserver list

variable {list : List Subscription} {self : PayloadState}

theorem Reading.modify (reading : self.Reading list) {index : Nat}
    {change : Subscription → Subscription} (near : index ≤ firstObserver list)
    (settings : ∀ subscriber, (change subscriber).settings = subscriber.settings)
    (state : ∀ subscriber, (change subscriber).state = subscriber.state) :
    Kept list (self.subscriberList.modify index change) ∧
      Substation.states (self.subscriberList.modify index change) = Substation.states list :=
  ⟨reading.kept.trans (Kept.modify _ (by rwa [reading.kept.firstObserver_eq]) settings),
    (map_modify_of_eq state _ _).trans reading.states⟩

theorem Reading.update (reading : self.Reading list) {change : Subscription → Subscription}
    (settings : ∀ subscriber, (change subscriber).settings = subscriber.settings)
    (state : ∀ subscriber, (change subscriber).state = subscriber.state) :
    (self.update change).Reading list := by
  rw [PayloadState.update]
  cases found : self.matchingSubscriber with
  | none => exact reading
  | some index =>
    obtain ⟨kept, states⟩ := reading.modify (reading.near index found) settings state
    exact ⟨kept, states, fun other same => reading.near other (found ▸ same)⟩

/-- An observer takes any reference, so a search never passes one. -/
theorem findIdx?_refers_le {element : Element} {index : Nat}
    (found : list.findIdx? (·.refers element) = some index) : index ≤ firstObserver list := by
  rw [List.findIdx?_eq_some_iff_findIdx_eq] at found
  rw [← found.2, firstObserver]
  refine List.findIdx_le_findIdx fun subscriber _ observer => ?_
  rw [Subscription.refers, observer, Bool.true_or]

theorem Reading.read (reading : self.Reading list) (element : Element) :
    (self.read element).1.Reading list := by
  rw [PayloadState.read]
  split_ifs
  · cases found : self.subscriberList.findIdx? (·.refers element) with
    | none => exact reading
    | some index =>
      have near : index ≤ firstObserver list := by
        rw [← reading.kept.firstObserver_eq]
        exact findIdx?_refers_le found
      obtain ⟨kept, states⟩ := reading.modify near
        (Subscription.settings_seeReference · element) (Subscription.state_seeReference · element)
      refine ⟨kept, states, fun other same => ?_⟩
      rw [← Option.some.inj same]
      exact near
  · exact reading.update (Subscription.settings_seeDatSet · _) (Subscription.state_seeDatSet · _)
  · exact reading.update (Subscription.settings_seeGoId · _) (Subscription.state_seeGoId · _)
  · exact ⟨reading.kept, reading.states, reading.near⟩

theorem Reading.readAll (reading : self.Reading list) (found : List Element) :
    (self.readAll found).1.Reading list := by
  induction found generalizing self with
  | nil => exact reading
  | cons element rest inductionHypothesis =>
    rw [PayloadState.readAll]
    split_ifs
    · exact inductionHypothesis (reading.read element)
    · exact reading.read element

end PayloadState

/-- What a frame does to the subscribers of a receiver: the one whose listener is called is not
behind an observer, and no other one's messages change. -/
structure Dispatched (before after : List Subscription) (called : Option Nat) : Prop where
  kept : Kept before after
  near : ∀ index, called = some index → index ≤ firstObserver before
  others : ∀ index, called ≠ some index →
    after[index]?.map (·.state) = before[index]?.map (·.state)

theorem Dispatched.of_states {before after : List Subscription} (kept : Kept before after)
    (same : states after = states before) : Dispatched before after none := by
  refine ⟨kept, nofun, fun index _ => ?_⟩
  rw [← List.getElem?_map, ← List.getElem?_map]
  exact congrArg (·[index]?) same

theorem parseGoosePayload_dispatched (list : List Subscription) (buffer : List UInt8)
    (apduLength now : Nat) :
    Dispatched list (parseGoosePayload list buffer apduLength now).1
      (parseGoosePayload list buffer apduLength now).2 := by
  have unchanged : Dispatched list list none := .of_states (Kept.refl list) rfl
  rw [parseGoosePayload]
  split_ifs
  · cases BerDecoder.decodeLength buffer 1 apduLength with
    | none => exact unchanged
    | some pair =>
      obtain ⟨gooseLength, bufPos⟩ := pair
      have start : PayloadState.Reading list ⟨list, none, PayloadFields.start⟩ :=
        ⟨Kept.refl list, rfl, nofun⟩
      have reading := start.readAll
        (walk buffer apduLength (bufPos + gooseLength) (apduLength + 1) bufPos).1
      dsimp only
      generalize PayloadState.readAll _ _ = read at reading
      cases matching : read.1.matchingSubscriber with
      | none => exact .of_states reading.kept reading.states
      | some index =>
        dsimp only
        split_ifs
        · have near := reading.near index matching
          refine ⟨reading.kept.trans (Kept.modify _
            (by rwa [reading.kept.firstObserver_eq]) (Subscription.settings_accept · _ now)),
            ?_, ?_⟩
          · intro other same
            rw [← Option.some.inj same]
            exact near
          · intro other different
            rw [List.getElem?_modify_ne _ _ fun same => different (congrArg some same),
              ← List.getElem?_map, ← List.getElem?_map]
            exact congrArg (·[other]?) reading.states
        · exact .of_states reading.kept reading.states
  · exact unchanged

theorem tick_dispatched (receiver : GooseReceiver) (arrival : List UInt8 × Nat) :
    Dispatched receiver.subscriberList (receiver.tick arrival).1.subscriberList
      (receiver.tick arrival).2 := by
  have unchanged : Dispatched receiver.subscriberList receiver.subscriberList none :=
    .of_states (Kept.refl _) rfl
  rw [GooseReceiver.tick, GooseReceiver.parseGooseMessage]
  cases frameHeader (overwrite receiver.buffer (arrival.1.take ethBufferLength))
      (min arrival.1.length ethBufferLength) with
  | none => exact unchanged
  | some triple =>
    obtain ⟨header, payload, apduLength⟩ := triple
    cases found : Subscription.interested header receiver.subscriberList with
    | none =>
      simp only [found]
      exact unchanged
    | some list =>
      simp only [found]
      obtain ⟨kept, same⟩ := interested_kept found
      obtain ⟨later, near, others⟩ := parseGoosePayload_dispatched list payload apduLength arrival.2
      refine ⟨kept.trans later, fun index called => ?_, fun index different => ?_⟩
      · rw [← kept.firstObserver_eq]
        exact near index called
      · rw [others index different, ← List.getElem?_map, ← List.getElem?_map]
        exact congrArg (·[index]?) same

/-- For every run of a receiver, with frames of any octets: the settings of its subscribers stay,
and so does everything behind the first observer, whose listeners are never called; and each frame
changes the messages of the subscriber whose listener it calls, and of no other. -/
theorem frames_reach_one_subscriber (receiver : GooseReceiver)
    (history : List (List UInt8 × Nat)) (arrival : List UInt8 × Nat) :
    let reached := Machine.final GooseReceiver.tick receiver history
    let next := reached.tick arrival
    Kept receiver.subscriberList next.1.subscriberList ∧
      (∀ index, next.2 = some index → index ≤ firstObserver receiver.subscriberList) ∧
      ∀ index, next.2 ≠ some index →
        next.1.subscriberList[index]?.map (·.state) =
          reached.subscriberList[index]?.map (·.state) := by
  intro reached next
  have kept : Kept receiver.subscriberList reached.subscriberList :=
    Machine.final_invariant GooseReceiver.tick
      (fun other => Kept receiver.subscriberList other.subscriberList)
      (fun other event earlier => earlier.trans (tick_dispatched other event).kept)
      (Kept.refl _) history
  have dispatched := tick_dispatched reached arrival
  refine ⟨kept.trans dispatched.kept, fun index called => ?_, dispatched.others⟩
  rw [← kept.firstObserver_eq]
  exact dispatched.near index called

/-! ### A receiver with one subscriber -/

/-- A subscriber as the subscriber program configures its own. -/
structure Subscription.Sole (subscriber : Subscription) (parameters : SubscriberParameters) :
    Prop where
  observer : subscriber.isObserver = false
  goCBRef : subscriber.goCBRef = parameters.goCBRef
  goCBRefLen : subscriber.goCBRefLen = parameters.goCBRef.length
  appId : subscriber.appId = some parameters.appId
  dstMac : subscriber.dstMac = parameters.dstMac
  dstMacSet : subscriber.dstMacSet = true
  selfAllocated : subscriber.dataSetValuesSelfAllocated = true

/-- The header in the model of one subscriber. -/
theorem gooseApdu_eq (parameters : SubscriberParameters) (buffer : List UInt8) (numbytes : Nat) :
    gooseApdu parameters buffer numbytes =
      (frameHeader buffer numbytes).bind fun found =>
        if parameters.appId = found.1.appId ∧ parameters.dstMac = found.1.dstMac then some found.2
        else none := by
  have bind {condition : Prop} [Decidable condition]
      (header : Option (FrameHeader × List UInt8 × Nat))
      (check : FrameHeader × List UInt8 × Nat → Option (List UInt8 × Nat)) :
      (if condition then none else header).bind check =
        if condition then none else header.bind check := by
    split_ifs <;> rfl
  rw [gooseApdu, frameHeader, bind, bind, bind, bind, bind, bind, Option.bind_some]

theorem elements_eq_walk (buffer : List UInt8) (maxBufPos stop fuel bufPos : Nat) :
    elements buffer maxBufPos stop fuel bufPos =
      if (walk buffer maxBufPos stop fuel bufPos).2 then
        some (walk buffer maxBufPos stop fuel bufPos).1
      else none := by
  induction fuel generalizing bufPos with
  | zero => rfl
  | succ fuel inductionHypothesis =>
    by_cases atEnd : stop ≤ bufPos
    · rw [elements, walk, if_pos atEnd, if_pos atEnd]
      rfl
    · rw [elements, walk, if_neg atEnd, if_neg atEnd]
      cases BerDecoder.decodeLength buffer (bufPos + 1) maxBufPos with
      | none => rfl
      | some pair =>
        obtain ⟨length, content⟩ := pair
        simp only [inductionHypothesis]
        split_ifs <;> rfl

theorem PayloadFields.read_eq_keep (parameters : SubscriberParameters) (fields : PayloadFields)
    {element : Element} (other : element.tag ≠ 0x80) :
    fields.read parameters element = some (fields.keep element) := by
  rw [PayloadFields.read, PayloadFields.keep, if_neg other]
  simp only [apply_ite some]

namespace Subscription

variable {subscriber : Subscription} {parameters : SubscriberParameters}

theorem Sole.accepts (sole : subscriber.Sole parameters) (header : FrameHeader) :
    subscriber.accepts header =
      decide (parameters.appId = header.appId ∧ parameters.dstMac = header.dstMac) := by
  rw [Subscription.accepts, sole.appId, sole.dstMac, sole.dstMacSet]
  simp

theorem Sole.interested (sole : subscriber.Sole parameters) (header : FrameHeader) :
    Subscription.interested header [subscriber] =
      if parameters.appId = header.appId ∧ parameters.dstMac = header.dstMac then some [subscriber]
      else none := by
  rw [Subscription.interested, if_neg (by rw [sole.observer]; decide), sole.accepts]
  split_ifs <;> simp_all [Subscription.interested]

theorem Sole.refers (sole : subscriber.Sole parameters) (element : Element) :
    subscriber.refers element = decide (parameters.goCBRef.length = element.length ∧
      parameters.goCBRef = element.text) := by
  rw [Subscription.refers, sole.observer, sole.goCBRef, sole.goCBRefLen]
  simp

/-- The subscriber of the program takes a message as in the model of one subscriber. -/
theorem Sole.accept (sole : subscriber.Sole parameters) (fields : PayloadFields) (now : Nat) :
    (subscriber.accept fields now).state = subscriber.state.accept fields now ∧
      (subscriber.accept fields now).Sole parameters := by
  have kept : subscriber.retained fields.confRev = subscriber.state.retained fields.confRev := by
    rw [Subscription.retained, GooseSubscriber.retained, sole.observer, sole.selfAllocated]
    by_cases same : subscriber.state.confRev = fields.confRev <;> simp [same]
  refine ⟨?_, sole.observer, sole.goCBRef, sole.goCBRefLen, sole.appId, sole.dstMac,
    sole.dstMacSet, ?_⟩
  · have before : GooseSubscriber.retained { subscriber.state with
        dataSetValues := subscriber.retained fields.confRev
        confRev := fields.confRev } fields.confRev = subscriber.state.retained fields.confRev := by
      rw [GooseSubscriber.retained, if_pos rfl, kept]
    rw [Subscription.accept, GooseSubscriber.accept, GooseSubscriber.accept,
      GooseSubscriber.readData, GooseSubscriber.readData, before]
  · rw [Subscription.accept, sole.selfAllocated, Bool.true_or]

end Subscription

/-- The list of a receiver with one subscriber, and what that one holds. -/
def OnlySole (parameters : SubscriberParameters) (state : GooseSubscriber)
    (subscriberList : List Subscription) : Prop :=
  ∃ subscriber, subscriberList = [subscriber] ∧ subscriber.Sole parameters ∧
    subscriber.state = state

namespace PayloadState

/-- The reading of a payload in the two models. -/
structure Alone (parameters : SubscriberParameters) (state : GooseSubscriber)
    (reached : PayloadState) (fields : PayloadFields) : Prop where
  list : OnlySole parameters state reached.subscriberList
  matching : reached.matchingSubscriber = if fields.matching then some 0 else none
  fields : { reached.fields with matching := fields.matching } = fields

variable {parameters : SubscriberParameters} {state : GooseSubscriber} {reached : PayloadState}
  {fields : PayloadFields}

theorem Alone.update (alone : reached.Alone parameters state fields)
    {change : Subscription → Subscription}
    (sole : ∀ subscriber, subscriber.Sole parameters → (change subscriber).Sole parameters)
    (same : ∀ subscriber, (change subscriber).state = subscriber.state) :
    (reached.update change).Alone parameters state fields := by
  obtain ⟨⟨subscriber, list, isSole, holds⟩, matching, equal⟩ := alone
  rw [PayloadState.update, matching]
  split_ifs with found
  · refine ⟨⟨change subscriber, ?_, sole _ isSole, (same _).trans holds⟩, ?_, equal⟩
    · rw [list]
      rfl
    · exact (if_pos found).symm
  · refine ⟨⟨subscriber, list, isSole, holds⟩, ?_, equal⟩
    exact matching

theorem keep_matching (fields : PayloadFields) (matching : Bool) (element : Element) :
    { fields with matching := matching }.keep element =
      { fields.keep element with matching := matching } := by
  have pushed := fun (condition : Prop) [Decidable condition] (one other : PayloadFields) =>
    apply_ite (fun kept : PayloadFields => { kept with matching := matching }) condition one other
  simp only [PayloadFields.keep, pushed]

theorem sole_seeReference {subscriber : Subscription} (sole : subscriber.Sole parameters)
    (element : Element) : subscriber.seeReference element = subscriber := by
  rw [Subscription.seeReference, if_neg]
  rintro ⟨observer, -⟩
  rw [sole.observer] at observer
  cases observer

theorem sole_seeDatSet (element : Element) (subscriber : Subscription)
    (sole : subscriber.Sole parameters) : (subscriber.seeDatSet element).Sole parameters := by
  rw [Subscription.seeDatSet]
  split_ifs
  · exact { sole with }
  · exact sole

theorem sole_seeGoId (element : Element) (subscriber : Subscription)
    (sole : subscriber.Sole parameters) : (subscriber.seeGoId element).Sole parameters := by
  rw [Subscription.seeGoId]
  split_ifs
  · exact { sole with }
  · exact sole

/-- One element is read alike in the two models. -/
theorem Alone.read (alone : reached.Alone parameters state fields) (element : Element) :
    match fields.read parameters element with
    | none => (reached.read element).2 = false ∧ (reached.read element).1 = reached
    | some next => (reached.read element).2 = true ∧
        (reached.read element).1.Alone parameters state next := by
  by_cases reference : element.tag = 0x80
  · obtain ⟨⟨subscriber, list, sole, holds⟩, matching, equal⟩ := alone
    have search : reached.subscriberList.findIdx? (·.refers element) =
        if parameters.goCBRef.length = element.length ∧ parameters.goCBRef = element.text
        then some 0 else none := by
      rw [list, List.findIdx?_cons, List.findIdx?_nil, sole.refers, Option.map_none]
      simp only [decide_eq_true_eq]
    rw [PayloadFields.read, if_pos reference, PayloadState.read, if_pos reference, search,
      ← Element.text]
    by_cases same : parameters.goCBRef.length = element.length ∧ parameters.goCBRef = element.text
    · rw [if_pos same, if_pos same]
      refine ⟨rfl, ⟨subscriber, ?_, sole, holds⟩, rfl, ?_⟩
      · rw [list]
        exact congrArg (fun changed => [changed]) (sole_seeReference sole element)
      · rw [← equal]
    · rw [if_neg same, if_neg same]
      cases already : fields.matching with
      | false =>
        rw [already, if_neg (by decide)] at matching
        rw [if_neg (by decide), matching]
        exact ⟨rfl, rfl⟩
      | true =>
        rw [if_pos rfl]
        refine ⟨?_, ⟨subscriber, list, sole, holds⟩, matching, equal⟩
        rw [matching, already, if_pos rfl]
        rfl
  · rw [PayloadFields.read_eq_keep parameters fields reference]
    rw [PayloadState.read, if_neg reference]
    have unread {tag : UInt8} (isTag : element.tag = tag) (skipped : tag = 0x82 ∨ tag = 0x83) :
        fields.keep element = fields := by
      rw [PayloadFields.keep, isTag]
      rcases skipped with rfl | rfl <;> rfl
    split_ifs with dataSet identifier
    · simp only
      rw [unread dataSet (.inl rfl)]
      exact ⟨trivial, alone.update (sole_seeDatSet _) (Subscription.state_seeDatSet · _)⟩
    · simp only
      rw [unread identifier (.inr rfl)]
      exact ⟨trivial, alone.update (sole_seeGoId _) (Subscription.state_seeGoId · _)⟩
    · have same : (fields.keep element).matching = fields.matching := by
        have kept := keep_matching reached.fields fields.matching element
        rw [alone.fields] at kept
        rw [kept]
      refine ⟨rfl, alone.list, ?_, ?_⟩
      · rw [same]
        exact alone.matching
      · rw [same]
        have kept := keep_matching reached.fields fields.matching element
        rw [alone.fields] at kept
        exact kept.symm

theorem Alone.readAll (alone : reached.Alone parameters state fields) (found : List Element) :
    OnlySole parameters state (reached.readAll found).1.subscriberList ∧
      match fields.readAll parameters found with
      | none => (reached.readAll found).2 = false
      | some last => (reached.readAll found).2 = true ∧
          (reached.readAll found).1.Alone parameters state last := by
  induction found generalizing reached fields with
  | nil => exact ⟨alone.list, rfl, alone⟩
  | cons element rest inductionHypothesis =>
    have one := alone.read element
    rw [PayloadFields.readAll, PayloadState.readAll]
    cases read : fields.read parameters element with
    | none =>
      rw [read] at one
      rw [if_neg (by rw [one.1]; decide), one.2]
      exact ⟨alone.list, one.1⟩
    | some next =>
      rw [read] at one
      rw [if_pos one.1]
      exact inductionHypothesis one.2

end PayloadState

section Sole

variable {parameters : SubscriberParameters} {state : GooseSubscriber}
  {list : List Subscription}

/-- A payload is taken alike in the two models. -/
theorem OnlySole.parseGoosePayload (only : OnlySole parameters state list) (buffer : List UInt8)
    (apduLength now : Nat) :
    match payloadFields parameters buffer apduLength with
    | none => (parseGoosePayload list buffer apduLength now).2 = none ∧
        OnlySole parameters state (parseGoosePayload list buffer apduLength now).1
    | some fields => (parseGoosePayload list buffer apduLength now).2 = some 0 ∧
        OnlySole parameters (state.accept fields now)
          (parseGoosePayload list buffer apduLength now).1 := by
  rw [payloadFields, Substation.parseGoosePayload]
  split_ifs
  · cases BerDecoder.decodeLength buffer 1 apduLength with
    | none => exact ⟨rfl, only⟩
    | some pair =>
      obtain ⟨gooseLength, bufPos⟩ := pair
      have start : PayloadState.Alone parameters state ⟨list, none, PayloadFields.start⟩
          PayloadFields.start := ⟨only, rfl, rfl⟩
      obtain ⟨still, read⟩ := start.readAll
        (walk buffer apduLength (bufPos + gooseLength) (apduLength + 1) bufPos).1
      dsimp only
      rw [elements_eq_walk]
      generalize walk buffer apduLength (bufPos + gooseLength) (apduLength + 1) bufPos = walked at *
      generalize PayloadState.readAll _ _ = reached at *
      obtain ⟨found, ended⟩ := walked
      obtain ⟨reached, finished⟩ := reached
      -- A payload that is not read to its end is not taken.
      have untaken : (finished && ended) = false →
          (match reached.matchingSubscriber with
            | none => (reached.subscriberList, none)
            | some index =>
              if finished && ended then
                (reached.subscriberList.modify index (·.accept reached.fields now), some index)
              else (reached.subscriberList, none)) = (reached.subscriberList, none) := by
        intro stopped
        rw [stopped]
        cases reached.matchingSubscriber <;> rfl
      cases ended with
      | false =>
        rw [untaken (Bool.and_false finished)]
        exact ⟨rfl, still⟩
      | true =>
        rw [if_pos rfl]
        dsimp only at read ⊢
        cases last : PayloadFields.start.readAll parameters found with
        | none =>
          rw [last] at read
          rw [untaken (by rw [read]; rfl)]
          exact ⟨rfl, still⟩
        | some fields =>
          rw [last] at read
          obtain ⟨ok, ⟨subscriber, listed, sole, holds⟩, matching, equal⟩ := read
          dsimp only at ok listed matching equal
          rw [Option.filter_some]
          cases found : fields.matching with
          | false =>
            rw [found, if_neg (by decide)] at matching
            rw [if_neg (by decide), matching]
            exact ⟨rfl, still⟩
          | true =>
            rw [found, if_pos rfl] at matching
            rw [if_pos rfl, matching]
            dsimp only
            rw [ok, Bool.and_true, if_pos rfl, listed]
            have taken := sole.accept reached.fields now
            refine ⟨rfl, subscriber.accept reached.fields now, rfl, taken.2, ?_⟩
            rw [taken.1, holds, ← equal]
            rfl
  · exact ⟨rfl, only⟩

/-- A frame is taken alike in the two models. -/
theorem OnlySole.tick {receiver : GooseReceiver} {sole : SoleReceiver}
    (only : OnlySole parameters sole.subscriber receiver.subscriberList)
    (buffer : receiver.buffer = sole.buffer) (arrival : List UInt8 × Nat) :
    OnlySole parameters (sole.tick parameters arrival).1.subscriber
        (receiver.tick arrival).1.subscriberList ∧
      (receiver.tick arrival).1.buffer = (sole.tick parameters arrival).1.buffer ∧
      (receiver.tick arrival).2 = if (sole.tick parameters arrival).2 then some 0 else none := by
  rw [GooseReceiver.tick, GooseReceiver.parseGooseMessage, SoleReceiver.tick, frameFields,
    gooseApdu_eq, buffer]
  cases frameHeader (overwrite sole.buffer (arrival.1.take ethBufferLength))
      (min arrival.1.length ethBufferLength) with
  | none => exact ⟨only, rfl, rfl⟩
  | some triple =>
    obtain ⟨header, payload, apduLength⟩ := triple
    obtain ⟨subscriber, listed, isSole, holds⟩ := only
    simp only [Option.bind_some, listed, isSole.interested]
    by_cases addressed : parameters.appId = header.appId ∧ parameters.dstMac = header.dstMac
    · simp only [if_pos addressed, Option.bind_some]
      have taken := OnlySole.parseGoosePayload ⟨subscriber, rfl, isSole, holds⟩ payload apduLength
        arrival.2
      cases read : payloadFields parameters payload apduLength with
      | none =>
        rw [read] at taken
        exact ⟨taken.2, rfl, taken.1⟩
      | some fields =>
        rw [read] at taken
        exact ⟨taken.2, rfl, taken.1⟩
    · simp only [if_neg addressed, Option.bind_none]
      exact ⟨⟨subscriber, rfl, isSole, holds⟩, trivial, rfl⟩

end Sole

/-- The subscriber that the subscriber program adds to its receiver. -/
def Subscription.configured (parameters : SubscriberParameters) : Subscription :=
  ((Subscription.create parameters.goCBRef none).setDstMac parameters.dstMac).setAppId
    parameters.appId

theorem onlySole_configured {parameters : SubscriberParameters}
    (short : parameters.goCBRef.length ≤ Subscription.maxText) :
    OnlySole parameters GooseSubscriber.create [Subscription.configured parameters] :=
  ⟨_, rfl, ⟨rfl, List.take_of_length_le short, rfl, rfl, rfl, rfl, rfl⟩, rfl⟩

/-- A step of the program that returns is a frame for the receiver with one subscriber. -/
theorem step_sole {program next : SubscriberProgram} {reception : Reception}
    {output : Option ListenerCall} (taken : program.step reception = some (next, output))
    {sole : SoleReceiver} (buffer : sole.buffer = program.buffer)
    (subscriber : sole.subscriber = program.subscriber) :
    (sole.tick subscriberParameters (reception.frame, reception.now)).1.buffer = next.buffer ∧
      (sole.tick subscriberParameters (reception.frame, reception.now)).1.subscriber =
        next.subscriber := by
  have same : frameFields subscriberParameters
      (overwrite sole.buffer (reception.frame.take ethBufferLength))
      (min reception.frame.length ethBufferLength) = program.fields reception.frame := by
    rw [SubscriberProgram.fields, SubscriberProgram.load, buffer]
  rw [SoleReceiver.tick, same]
  rw [SubscriberProgram.step] at taken
  cases found : program.fields reception.frame with
  | none =>
    simp only [found, Option.some.injEq, Prod.mk.injEq] at taken
    rw [← taken.1, SubscriberProgram.load]
    exact ⟨by rw [buffer], subscriber⟩
  | some fields =>
    simp only [found, Option.map_eq_some_iff, Prod.mk.injEq] at taken
    obtain ⟨call, -, rfl, -⟩ := taken
    rw [SubscriberProgram.load]
    exact ⟨by rw [buffer], by rw [subscriber]⟩

/-- The program and the receiver with one subscriber go through the same states. -/
theorem reach_sole {program last : SubscriberProgram} {history : List Reception}
    (reached : Machine.reach SubscriberProgram.step program history = some last)
    {sole : SoleReceiver} (buffer : sole.buffer = program.buffer)
    (subscriber : sole.subscriber = program.subscriber) :
    (Machine.final (SoleReceiver.tick subscriberParameters) sole
      (history.map fun reception => (reception.frame, reception.now))).subscriber =
        last.subscriber := by
  induction history generalizing program sole with
  | nil =>
    rw [Machine.reach, Option.some.injEq] at reached
    rw [← reached]
    exact subscriber
  | cons reception history inductionHypothesis =>
    rw [Machine.reach] at reached
    cases taken : program.step reception with
    | none => rw [taken] at reached; cases reached
    | some pair =>
      obtain ⟨next, output⟩ := pair
      rw [taken] at reached
      obtain ⟨sameBuffer, sameSubscriber⟩ := step_sole taken buffer subscriber
      exact inductionHypothesis reached sameBuffer sameSubscriber

/-- The receiver of the library, with its list of subscribers, refines to the receiver of one
subscriber: for every run of frames of any octets the subscriber that the program configures holds
the same and is called for the same frames. In particular it holds what the model of the subscriber
program says, as long as the listener returns. -/
theorem receiver_refines_one_subscriber (parameters : SubscriberParameters)
    (short : parameters.goCBRef.length ≤ Subscription.maxText) (buffer : List UInt8)
    (history : List (List UInt8 × Nat)) :
    let first : GooseReceiver := ⟨buffer, [Subscription.configured parameters]⟩
    let sole := Machine.final (SoleReceiver.tick parameters) (.start buffer) history
    states (Machine.final GooseReceiver.tick first history).subscriberList = [sole.subscriber] ∧
      Machine.outputs GooseReceiver.tick first history =
        (Machine.outputs (SoleReceiver.tick parameters) (.start buffer) history).map
          (fun called => if called then some 0 else none) ∧
      ∀ (file : Option Text) (receptions : List Reception) (last : SubscriberProgram),
        parameters = subscriberParameters →
        history = receptions.map (fun reception => (reception.frame, reception.now)) →
        Machine.reach SubscriberProgram.step (.start buffer file) receptions = some last →
        states (Machine.final GooseReceiver.tick first history).subscriberList =
          [last.subscriber] := by
  intro first sole
  have initially : OnlySole parameters (SoleReceiver.start buffer).subscriber
      first.subscriberList ∧ first.buffer = (SoleReceiver.start buffer).buffer :=
    ⟨onlySole_configured short, rfl⟩
  obtain ⟨subscriber, listed, -, holds⟩ := (Machine.final_simulation GooseReceiver.tick
    (SoleReceiver.tick parameters)
    (fun receiver sole => OnlySole parameters sole.subscriber receiver.subscriberList ∧
      receiver.buffer = sole.buffer)
    (fun receiver sole event related =>
      have taken := related.1.tick related.2 event
      ⟨taken.1, taken.2.1⟩) initially history).1
  have same : states (Machine.final GooseReceiver.tick first history).subscriberList =
      [sole.subscriber] := by
    rw [listed]
    exact congrArg (fun state => [state]) holds
  refine ⟨same, ?_, ?_⟩
  · refine Machine.outputs_simulation GooseReceiver.tick (SoleReceiver.tick parameters)
      (fun called => if called then some 0 else none)
      (fun receiver sole => OnlySole parameters sole.subscriber receiver.subscriberList ∧
        receiver.buffer = sole.buffer) (fun receiver sole event related => ?_) initially history
    obtain ⟨only, buffers, output⟩ := related.1.tick related.2 event
    exact ⟨⟨only, buffers⟩, output⟩
  · rintro file receptions last rfl rfl reached
    rw [same, reach_sole reached rfl rfl]

/-- The subscriber of the program and a message of the publisher with a trip command: its listener
is called, and it shows the numbers of the message and a data set. -/
theorem receiver_refines_program :
    let dataset : Dataset := ⟨true, false, 1, 50, 0x457a0000, 0x46241000, 0x42480000⟩
    let frame := Message.frame ⟨2, 3, 1000, dataset⟩ ⟨[2, 0, 0, 0, 0, 1], rfl⟩
    let receiver : GooseReceiver := ⟨[], [Subscription.configured subscriberParameters]⟩
    Machine.outputs GooseReceiver.tick receiver [(frame, 4000)] = [some 0] ∧
      ∃ last, Machine.reach SubscriberProgram.step (.start [] none)
          [⟨frame, 4000, 4001, false, false⟩] = some last ∧
        (last.subscriber.stNum = 2 ∧ last.subscriber.sqNum = 3 ∧
          last.subscriber.dataSetValues.isSome = true) ∧
        states (Machine.final GooseReceiver.tick receiver [(frame, 4000)]).subscriberList =
          [last.subscriber] := by
  intro dataset frame receiver
  have run : (Machine.reach SubscriberProgram.step (.start [] none)
      [⟨frame, 4000, 4001, false, false⟩]).map (fun last =>
        (last.subscriber.stNum, last.subscriber.sqNum, last.subscriber.dataSetValues.isSome)) =
      some (2, 3, true) := by
    decide +kernel
  have called : Machine.outputs (SoleReceiver.tick subscriberParameters) (.start [])
      [(frame, 4000)] = [true] := by
    decide +kernel
  obtain ⟨last, reached, shown⟩ := Option.map_eq_some_iff.mp run
  obtain ⟨-, outputs, holds⟩ := receiver_refines_one_subscriber subscriberParameters (by decide) []
    [(frame, 4000)]
  simp only [Prod.mk.injEq] at shown
  rw [called] at outputs
  exact ⟨outputs, last, reached, shown,
    holds none [⟨frame, 4000, 4001, false, false⟩] last rfl rfl reached⟩

end Substation
