/-
This file puts any number of publishers and a receiver with any subscribers on one
network, which may lose, repeat, delay and reorder packets and take their tags away.
A packet goes to the first subscriber with its reference, or to an observer before
it, when the filter of any subscriber lets its header through; that subscriber then
shows the message it was sent as, and no other one changes.

An observer shows the header as well. What it shows of the 802.1Q tag is not what
was sent: of the twelve bits of the VLAN it keeps eleven, and the priority it shows
is made of bits of the VLAN.
-/

import Substation.Subscriptions

namespace Substation

/-! ### Who is to get a message -/

namespace Subscription

variable (self : Subscription)

end Subscription

namespace Subscription

variable (self : Subscription) (tag : UInt8) (content tail : List UInt8)

end Subscription

/-! Behind the reference every element is kept or is a text. -/

section Payload

variable {publisher : GoosePublisher} {dataSet : List MmsValue} {list : List Subscription}

end Payload

/-! ### The subscriber that takes a message -/

namespace Subscription

/-- The storage of a subscriber takes the data of every message that may reach it. -/
structure Ready (subscriber : Subscription) (Possible : Sending → Prop) : Prop where
  parseError : subscriber.state.parseError = .noError
  storage : ∀ sending, Possible sending → ∀ components,
    subscriber.retained sending.publisher.confRev = some components →
    MmsValue.Fits.AllFit components sending.data

variable {subscriber : Subscription} {Possible : Sending → Prop} {sending : Sending}
  {fields : PayloadFields} {rest : List UInt8}

theorem retained_eq_some {confRev : BitVec 32} {components : List (Option MmsValue)} :
    subscriber.retained confRev = some components ↔ subscriber.isObserver = false ∧
      (subscriber.dataSetValuesSelfAllocated = true → subscriber.state.confRev = confRev) ∧
      subscriber.state.dataSetValues = some components := by
  rw [retained]
  split_ifs with observer dropped
  · refine iff_of_false id fun kept => ?_
    rw [kept.1] at observer
    cases observer
  · exact iff_of_false id fun kept => dropped.2 (kept.2.1 dropped.1)
  · refine ⟨fun found => ⟨by simpa using observer, fun owned => ?_, found⟩, fun kept => kept.2.2⟩
    exact not_not.mp fun other => dropped ⟨owned, other⟩

/-- A message that is taken is shown, and leaves storage that is ready for the next. -/
theorem Ready.accept (ready : subscriber.Ready Possible) (possible : Possible sending)
    (layouts : ∀ other, Possible other → other.publisher.confRev = sending.publisher.confRev →
      MmsValue.Fits.AllFit (Datum.created.createdAll sending.data) other.data)
    (encodable : Encodable sending.dataSet) (timestamp : sending.publisher.timestamp.length = 8)
    (bound : (Datum.content.contents sending.data).length ≤ 65535)
    (carry : fields.Match sending.publisher sending.dataSet rest) (now : Nat) :
    (subscriber.accept fields now).state.Shows sending ∧
      (subscriber.accept fields now).Ready Possible := by
  have before : GooseSubscriber.retained { subscriber.state with
      dataSetValues := subscriber.retained fields.confRev
      confRev := fields.confRev } fields.confRev = subscriber.retained fields.confRev := if_pos rfl
  obtain ⟨shows, components, values, same⟩ := @accept_shows { subscriber.state with
      dataSetValues := subscriber.retained fields.confRev
      confRev := fields.confRev } sending fields rest ready.parseError (fun old found =>
    ready.storage sending possible old (carry.confRev ▸ before ▸ found)) encodable timestamp bound
    carry now
  rw [before] at same
  refine ⟨shows, shows.parseError, fun other isPossible others found => ?_⟩
  obtain ⟨observer, revision, inForce⟩ := retained_eq_some.mp found
  obtain rfl : components = others := Option.some.inj (values.symm.trans inForce)
  rw [same]
  cases kept : subscriber.retained fields.confRev with
  | none =>
    have owned : (subscriber.accept fields now).dataSetValuesSelfAllocated = true := by
      rw [Subscription.accept]
      simp only [kept] at values ⊢
      rw [values]
      exact Bool.or_true _
    exact layouts other isPossible ((revision owned).symm.trans shows.confRev)
  | some old =>
    have owned : (subscriber.accept fields now).dataSetValuesSelfAllocated =
        subscriber.dataSetValuesSelfAllocated := by
      rw [Subscription.accept, kept]
      exact Bool.or_false _
    obtain ⟨-, sameRevision, stored⟩ := retained_eq_some.mp kept
    refine ready.storage other isPossible old (retained_eq_some.mpr ⟨observer, ?_, stored⟩)
    intro own
    exact (sameRevision own).trans (revision (owned.trans own))

end Subscription

/-! ### The publishers -/

/-- A publisher with the calls that are made on it. -/
structure Sender where
  parameters : CommParameters
  srcAddr : MacAddress
  useVlanTag : Bool
  created : Nat
  calls : List PublisherCall

namespace Sender

def publisher (sender : Sender) : GoosePublisher :=
  .createEx sender.parameters sender.srcAddr sender.useVlanTag sender.created

/-- The types of its parameters, and values that are encoded as announced. -/
structure Proper (sender : Sender) : Prop where
  address : sender.parameters.dstAddress.length = 6
  application : sender.parameters.appId < 65536
  encodable : ∀ dataSet, PublisherCall.publish dataSet ∈ sender.calls → Encodable dataSet

/-- A frame delivers a message of the publisher. -/
def Delivers (sender : Sender) (frame : List UInt8) (sending : Sending) : Prop :=
  sending.Delivers sender.publisher sender.calls sender.useVlanTag frame

end Sender

namespace Sending

end Sending

section Step

variable {senders : List Sender} {sender : Sender} {sending : Sending} {frame : List UInt8}

theorem Sender.Delivers.prepared (delivers : sender.Delivers frame sending) :
    sending.publisher.Prepared sender.parameters sender.srcAddr sender.useVlanTag := by
  obtain ⟨packet, ⟨index, -, state, -⟩, -⟩ := delivers
  rw [state]
  exact GoosePublisher.prepared_run sender.created (sender.calls.take index)

theorem Sender.Delivers.encodable (delivers : sender.Delivers frame sending)
    (proper : sender.Proper) : Encodable sending.dataSet := by
  obtain ⟨packet, ⟨index, called, -, -⟩, -⟩ := delivers
  exact proper.encodable _ (List.mem_of_getElem? called)

end Step

section Observer

variable {sender : Sender} {sending : Sending} {packet : List UInt8}

end Observer

end Substation
