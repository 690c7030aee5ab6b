/-
This file embeds the walk over a sequence of tagged elements that the loops of
`goose_receiver.c` share: read a tag, decode a length, step over the content. It
proves that the walk always ends before its fuel does, and that it reads back a
sequence of elements that was encoded.
-/

import Substation.Ber

namespace Substation

/-! ### The walk -/

/-- One element: its tag, the buffer from its content on, and the length of the content. -/
structure Element where
  tag : UInt8
  content : List UInt8
  length : Nat
  deriving DecidableEq, Repr

/-- The elements from `bufPos` up to `stop`; `none` when a length cannot be decoded. -/
def elements (buffer : List UInt8) (maxBufPos stop : Nat) : Nat → Nat → Option (List Element)
  | 0, _ => none
  | fuel + 1, bufPos =>
    if stop ≤ bufPos then some []
    else
      match BerDecoder.decodeLength buffer (bufPos + 1) maxBufPos with
      | none => none
      | some (length, content) =>
        (elements buffer maxBufPos stop fuel (content + length)).map
          (⟨BerDecoder.octetAt buffer bufPos, buffer.drop content, length⟩ :: ·)

/-- The elements of a buffer of some length. -/
def allElements (buffer : List UInt8) (length : Nat) : Option (List Element) :=
  elements buffer length length (length + 1) 0

/-! ### Lengths make progress -/

namespace BerDecoder

theorem longLength_progress {buffer : List UInt8} {maxBufPos count bufPos start : Nat}
    {decoded : Nat × Nat} (equal : longLength buffer maxBufPos count bufPos start = some decoded) :
    bufPos ≤ decoded.2 := by
  induction count generalizing bufPos start with
  | zero =>
    rw [longLength, Option.some.injEq] at equal
    rw [← equal]
  | succ count inductionHypothesis =>
    rw [longLength] at equal
    split_ifs at equal
    exact (Nat.le_succ _).trans (inductionHypothesis equal)

theorem checkLength_eq_some {maxBufPos : Nat} {input : Option (Nat × Nat)} {decoded : Nat × Nat}
    (equal : checkLength maxBufPos input = some decoded) :
    input = some decoded ∧ decoded.2 + decoded.1 ≤ maxBufPos := by
  cases input with
  | none => rw [checkLength] at equal; cases equal
  | some pair =>
    obtain ⟨length, bufPos⟩ := pair
    rw [checkLength] at equal
    split_ifs at equal with tooLong
    rw [Option.some.injEq] at equal
    subst equal
    exact ⟨rfl, not_lt.mp tooLong⟩

theorem decodeLengthWith_progress {indefinite : Option (Nat × Nat)} {buffer : List UInt8}
    {maxBufPos bufPos : Nat} {decoded : Nat × Nat}
    (forward : ∀ pair, indefinite = some pair → bufPos < pair.2)
    (equal : decodeLengthWith indefinite buffer maxBufPos bufPos = some decoded) :
    bufPos < decoded.2 ∧ decoded.2 + decoded.1 ≤ maxBufPos := by
  rw [decodeLengthWith] at equal
  split_ifs at equal
  obtain ⟨found, fits⟩ := checkLength_eq_some equal
  refine ⟨?_, fits⟩
  split_ifs at found
  · exact forward _ found
  · exact longLength_progress found
  · rw [Option.some.injEq] at found
    subst found
    exact Nat.lt_succ_self _

/-- A decoded length ends after the position where it starts, and its content fits. -/
theorem decodeLength_progress {buffer : List UInt8} {bufPos maxBufPos length content : Nat}
    (equal : decodeLength buffer bufPos maxBufPos = some (length, content)) :
    bufPos < content ∧ content + length ≤ maxBufPos := by
  refine decodeLengthWith_progress ?_ equal
  intro pair found
  rw [Option.map_eq_some_iff] at found
  obtain ⟨_, -, rfl⟩ := found
  exact Nat.lt_succ_self _

end BerDecoder

/-- The fuel never decides the walk: every element is at least two octets long. -/
theorem elements_fuel {buffer : List UInt8} {maxBufPos stop bufPos fuel more : Nat}
    (enough : stop ≤ bufPos + fuel) (enoughMore : stop ≤ bufPos + more) :
    elements buffer maxBufPos stop (fuel + 1) bufPos =
      elements buffer maxBufPos stop (more + 1) bufPos := by
  induction fuel generalizing bufPos more with
  | zero => rw [elements, elements, if_pos (by omega), if_pos (by omega)]
  | succ fuel inductionHypothesis =>
    by_cases atEnd : stop ≤ bufPos
    · rw [elements, elements, if_pos atEnd, if_pos atEnd]
    · obtain ⟨rest, rfl⟩ := Nat.exists_eq_add_of_lt (show 0 < more by omega)
      rw [elements, elements, if_neg atEnd, if_neg atEnd]
      cases decoded : BerDecoder.decodeLength buffer (bufPos + 1) maxBufPos with
      | none => rfl
      | some pair =>
        obtain ⟨length, content⟩ := pair
        have progress := BerDecoder.decodeLength_progress decoded
        simp only
        rw [zero_add, @inductionHypothesis (content + length) rest (by omega) (by omega)]

/-! ### Encoded elements are read back -/

/-- A tag, the length of some content, and the content. -/
def encodeElement (tag : UInt8) (content : List UInt8) : List UInt8 :=
  tag :: (BerEncoder.encodeLength content.length ++ content)

def encodeElements (items : List (UInt8 × List UInt8)) : List UInt8 :=
  items.flatMap fun item => encodeElement item.1 item.2

/-- What the walk finds in the encoding of some elements with `rest` behind them. -/
def foundElements : List (UInt8 × List UInt8) → List UInt8 → List Element
  | [], _ => []
  | item :: items, rest =>
    ⟨item.1, item.2 ++ (encodeElements items ++ rest), item.2.length⟩ :: foundElements items rest

/-- The header of one encoded element is decoded. -/
theorem decodeLength_encodeElement {buffer rest content : List UInt8} {tag : UInt8}
    {bufPos maxBufPos : Nat} (bound : content.length < 65535)
    (found : buffer.drop bufPos = encodeElement tag content ++ rest)
    (room : bufPos + (encodeElement tag content).length ≤ maxBufPos) :
    BerDecoder.octetAt buffer bufPos = tag ∧
      ∃ position, BerDecoder.decodeLength buffer (bufPos + 1) maxBufPos =
          some (content.length, position) ∧
        position + content.length = bufPos + (encodeElement tag content).length ∧
        buffer.drop position = content ++ rest := by
  rw [encodeElement, List.cons_append, List.append_assoc] at found
  have next := BerDecoder.drop_succ_of_drop found
  have size : (encodeElement tag content).length =
      1 + (BerEncoder.encodeLength content.length).length + content.length := by
    rw [encodeElement, List.length_cons, List.length_append]
    omega
  refine ⟨BerDecoder.octetAt_of_drop found, _,
    BerDecoder.decodeLength_encodeLength bound next (by omega), by omega, ?_⟩
  rw [← List.drop_drop, next, List.drop_left]

theorem elements_encodeElements {buffer rest : List UInt8} {items : List (UInt8 × List UInt8)}
    {bufPos maxBufPos fuel : Nat} (bounds : ∀ item ∈ items, item.2.length < 65535)
    (found : buffer.drop bufPos = encodeElements items ++ rest)
    (room : bufPos + (encodeElements items).length ≤ maxBufPos)
    (enough : (encodeElements items).length ≤ fuel) :
    elements buffer maxBufPos (bufPos + (encodeElements items).length) (fuel + 1) bufPos =
      some (foundElements items rest) := by
  induction items generalizing bufPos fuel with
  | nil => rw [elements, if_pos (by simp [encodeElements]), foundElements]
  | cons item items inductionHypothesis =>
    obtain ⟨tag, content⟩ := item
    have size : (encodeElements ((tag, content) :: items)).length =
        (encodeElement tag content).length + (encodeElements items).length := by
      rw [encodeElements, List.flatMap_cons, List.length_append, ← encodeElements]
    have found' : buffer.drop bufPos =
        encodeElement tag content ++ (encodeElements items ++ rest) := by
      rw [found, encodeElements, List.flatMap_cons, List.append_assoc, ← encodeElements]
    have short : content.length < 65535 := bounds _ List.mem_cons_self
    have fits : bufPos + (encodeElement tag content).length ≤ maxBufPos := by omega
    obtain ⟨atTag, position, decoded, advance, inside⟩ :=
      decodeLength_encodeElement short found' fits
    have positive : 0 < (encodeElement tag content).length := Nat.succ_pos _
    obtain ⟨fuel, rfl⟩ := Nat.exists_eq_add_of_lt (show 0 < fuel by omega)
    rw [elements, if_neg (by omega), decoded]
    simp only
    rw [atTag, inside, zero_add, advance, size, ← Nat.add_assoc,
      inductionHypothesis (fun item member => bounds item (List.mem_cons_of_mem _ member)) ?_
        (by omega) (by omega)]
    · rfl
    · rw [← advance, ← List.drop_drop, inside, List.drop_left]

/-- The elements of a buffer that starts with some encoded elements and is as long as they are. -/
theorem allElements_encodeElements {rest : List UInt8} {items : List (UInt8 × List UInt8)}
    (bounds : ∀ item ∈ items, item.2.length < 65535) :
    allElements (encodeElements items ++ rest) (encodeElements items).length =
      some (foundElements items rest) := by
  have walked := elements_encodeElements bounds (List.drop_zero (l := encodeElements items ++ rest))
    (by rw [Nat.zero_add]) le_rfl
  rwa [Nat.zero_add] at walked

end Substation
