/-
This file proves what the two decoders of the receiver do with the data of a
message: on elements that fit, `parseAllData` stores all of them and
`createDataSet` creates all of them; on any octets, `parseAllData` keeps the
number and the types of the components; and the nesting allowed to
`parseAllDataUnknownValue` never decides its result.
-/

import Substation.Receiver

namespace Substation

/-! ### Elements that fit are stored -/

/-- The elements are stored over some values, and leave others. -/
inductive StoresAll : List (UInt8 × List UInt8) → List MmsValue → List MmsValue → Prop
  | nil : StoresAll [] [] []
  | cons {item : UInt8 × List UInt8} {items : List (UInt8 × List UInt8)}
      {value stored : MmsValue} {values results : List MmsValue}
      (one : ∀ tail, updateElement (item.2 ++ tail) item.1 item.2.length value =
        (stored, .noError))
      (all : StoresAll items values results) :
      StoresAll (item :: items) (value :: values) (stored :: results)

theorem updateElement_primitive {buffer : List UInt8} {tag : UInt8} {elementLength : Nat}
    {value : MmsValue} (notArray : tag ≠ 0xa1) (notStruct : tag ≠ 0xa2) :
    updateElement buffer tag elementLength value =
      updatePrimitive buffer tag elementLength value := by
  unfold updateElement
  rw [if_neg notArray, if_neg notStruct]

section Switch

variable (buffer : List UInt8) (elementLength : Nat) (value : MmsValue)

theorem updateElement_0x83 :
    updateElement buffer 0x83 elementLength value = updateBoolean buffer value := by
  rw [updateElement_primitive (by decide) (by decide)]
  rfl

theorem updateElement_0x85 :
    updateElement buffer 0x85 elementLength value = updateInteger buffer elementLength value := by
  rw [updateElement_primitive (by decide) (by decide)]
  rfl

theorem updateElement_0x86 :
    updateElement buffer 0x86 elementLength value = updateUnsigned buffer elementLength value := by
  rw [updateElement_primitive (by decide) (by decide)]
  rfl

theorem updateElement_0x87 :
    updateElement buffer 0x87 elementLength value = updateFloat buffer elementLength value := by
  rw [updateElement_primitive (by decide) (by decide)]
  rfl

variable (nested : List UInt8 → Nat → Option (List (Option MmsValue)))

theorem createValue_0x85 :
    createValue nested ⟨0x85, buffer, elementLength⟩ =
      if 8 < elementLength then none
      else some (some (.integer ((MmsValue.integerStorage (elementLength * 8)).store
        (buffer.take elementLength)))) := rfl

theorem createValue_0x86 :
    createValue nested ⟨0x86, buffer, elementLength⟩ =
      if 8 < elementLength then none
      else some (some (.unsigned ((MmsValue.integerStorage (elementLength * 8)).store
        (buffer.take elementLength)))) := rfl

theorem createValue_0x87 :
    createValue nested ⟨0x87, buffer, elementLength⟩ =
      if elementLength = 9 then
        some (some (.float (.double (BerDecoder.decodeDouble buffer 0))))
      else if elementLength = 5 then
        some (some (.float (.single (BerDecoder.decodeFloat buffer 0))))
      else some none := rfl

end Switch

/-- One encoded element is handed to the switch; the rest follows if it is stored. -/
theorem parseElements_encodeElement {buffer rest content : List UInt8} {tag : UInt8}
    {bufPos allDataLength : Nat} (bound : content.length < 65535)
    (found : buffer.drop bufPos = encodeElement tag content ++ rest)
    (room : bufPos + (encodeElement tag content).length ≤ allDataLength)
    (value : MmsValue) (others : List (Option MmsValue)) :
    parseElements buffer allDataLength bufPos (some value :: others) =
      let updated := updateElement (content ++ rest) tag content.length value
      let parsed := parseElements buffer allDataLength
        (bufPos + (encodeElement tag content).length) others
      if updated.2 = .noError then (some updated.1 :: parsed.1, parsed.2)
      else (some updated.1 :: others, updated.2) := by
  obtain ⟨atTag, position, decoded, advance, inside⟩ := decodeLength_encodeElement bound found room
  have positive : 0 < (encodeElement tag content).length := Nat.succ_pos _
  rw [parseElements, if_pos (by omega), decoded]
  simp only [atTag, inside, advance]

theorem encodeElements_at {buffer rest : List UInt8} {bufPos : Nat} {item : UInt8 × List UInt8}
    {items : List (UInt8 × List UInt8)}
    (found : buffer.drop bufPos = encodeElements (item :: items) ++ rest) :
    buffer.drop bufPos = encodeElement item.1 item.2 ++ (encodeElements items ++ rest) ∧
      buffer.drop (bufPos + (encodeElement item.1 item.2).length) =
        encodeElements items ++ rest := by
  have first : buffer.drop bufPos =
      encodeElement item.1 item.2 ++ (encodeElements items ++ rest) := by
    rw [found, encodeElements, List.flatMap_cons, List.append_assoc, ← encodeElements]
  refine ⟨first, ?_⟩
  rw [← List.drop_drop, first, List.drop_left]

theorem length_encodeElements_cons (item : UInt8 × List UInt8)
    (items : List (UInt8 × List UInt8)) :
    (encodeElements (item :: items)).length =
      (encodeElement item.1 item.2).length + (encodeElements items).length := by
  rw [encodeElements, List.flatMap_cons, List.length_append, ← encodeElements]

/-- A sequence of elements that fit is stored in order. Components behind them stay as they are
and make the message too short. -/
theorem parseElements_storesAll {items : List (UInt8 × List UInt8)} {values results : List MmsValue}
    (all : StoresAll items values results) {buffer rest : List UInt8} {bufPos : Nat}
    (bounds : ∀ item ∈ items, item.2.length < 65535)
    (found : buffer.drop bufPos = encodeElements items ++ rest)
    (extra : List (Option MmsValue)) :
    parseElements buffer (bufPos + (encodeElements items).length) bufPos
        (values.map some ++ extra) =
      (results.map some ++ extra, if extra = [] then .noError else .underflow) := by
  induction all generalizing bufPos with
  | nil =>
    simp only [encodeElements, List.flatMap_nil, List.length_nil, add_zero, List.map_nil,
      List.nil_append]
    cases extra with
    | nil => rw [parseElements, if_neg (lt_irrefl _), if_pos rfl]
    | cons component extra =>
      rw [if_neg (List.cons_ne_nil _ _)]
      cases component <;> rw [parseElements, if_neg (lt_irrefl _)]
  | @cons item items value stored values results one all inductionHypothesis =>
    obtain ⟨first, next⟩ := encodeElements_at found
    rw [List.map_cons, List.cons_append, length_encodeElements_cons,
      parseElements_encodeElement (bounds item List.mem_cons_self) first (by omega)]
    simp only [one, if_true]
    rw [← Nat.add_assoc, inductionHypothesis
      (fun other member => bounds other (List.mem_cons_of_mem _ member)) next]
    rfl

/-! ### Elements that do not fit change nothing -/

theorem exists_cons_of_getElem?_zero {α : Type*} {list : List α} {first : α}
    (atZero : list[0]? = some first) : ∃ rest, list = first :: rest :=
  List.head?_eq_some_iff.mp (List.head?_eq_getElem?.trans atZero)

/-- A component that refuses the element at its index stays as it is, whatever becomes of the
components before it. -/
theorem parseElements_refused {items : List (UInt8 × List UInt8)} {buffer rest : List UInt8}
    {bufPos allDataLength index : Nat} {components : List (Option MmsValue)}
    {item : UInt8 × List UInt8} {value : MmsValue} {error : GooseParseError}
    (bounds : ∀ item ∈ items, item.2.length < 65535)
    (found : buffer.drop bufPos = encodeElements items ++ rest)
    (room : bufPos + (encodeElements items).length ≤ allDataLength)
    (atItem : items[index]? = some item) (atIndex : components[index]? = some (some value))
    (isError : error ≠ .noError)
    (refused : ∀ tail, updateElement (item.2 ++ tail) item.1 item.2.length value =
      (value, error)) :
    (parseElements buffer allDataLength bufPos components).1[index]? = some (some value) := by
  induction index generalizing items components bufPos with
  | zero =>
    obtain ⟨items, rfl⟩ := exists_cons_of_getElem?_zero atItem
    obtain ⟨others, rfl⟩ := exists_cons_of_getElem?_zero atIndex
    rw [length_encodeElements_cons] at room
    rw [parseElements_encodeElement (bounds item List.mem_cons_self) (encodeElements_at found).1
      (by omega)]
    simp only [refused, if_neg isError]
    rfl
  | succ index inductionHypothesis =>
    obtain ⟨first, items, rfl⟩ : ∃ first others, items = first :: others := by
      cases items with
      | nil => cases atItem
      | cons first items => exact ⟨first, items, rfl⟩
    rw [List.getElem?_cons_succ] at atItem
    cases components with
    | nil => cases atIndex
    | cons component others =>
      rw [List.getElem?_cons_succ] at atIndex
      cases component with
      | none => rw [parseElements]; exact atIndex
      | some other =>
        obtain ⟨here, next⟩ := encodeElements_at found
        rw [length_encodeElements_cons] at room
        rw [parseElements_encodeElement (bounds first List.mem_cons_self) here (by omega)]
        simp only
        split_ifs
        · exact inductionHypothesis
            (fun item member => bounds item (List.mem_cons_of_mem _ member)) next (by omega)
            atItem atIndex
        · exact atIndex

/-- The type the second pass of `parseAllDataUnknownValue` creates for a tag. -/
def createdType (tag : UInt8) : Option MmsType :=
  if tag = 0xa1 then some .array
  else if tag = 0xa2 then some .struct
  else if tag = 0x83 then some .boolean
  else if tag = 0x84 then some .bitString
  else if tag = 0x85 then some .integer
  else if tag = 0x86 then some .unsigned
  else if tag = 0x87 then some .float
  else if tag = 0x89 then some .octetString
  else if tag = 0x8a then some .visibleString
  else if tag = 0x8c then some .binaryTime
  else if tag = 0x91 then some .utcTime
  else none

theorem updateElement_typeMismatch {tag : UInt8} (simple : tag ∈ [0x83, 0x85, 0x87])
    {value : MmsValue} (other : createdType tag ≠ some value.getType) (buffer : List UInt8)
    (elementLength : Nat) :
    updateElement buffer tag elementLength value = (value, .typeMismatch) := by
  rcases List.mem_cons.mp simple with rfl | simple
  · rw [updateElement_0x83]
    cases value with
    | boolean flag => exact absurd rfl other
    | _ => rfl
  · rcases List.mem_cons.mp simple with rfl | simple
    · rw [updateElement_0x85]
      cases value with
      | integer storage => exact absurd rfl other
      | _ => rfl
    · rw [List.mem_singleton.mp simple] at other ⊢
      rw [updateElement_0x87]
      cases value with
      | float storage => exact absurd rfl other
      | _ => rfl

/-! ### Elements that fit are created -/

/-- The elements are created as some values, whatever the nesting. -/
def CreatesAll (items : List (UInt8 × List UInt8)) (values : List MmsValue) : Prop :=
  List.Forall₂ (fun item value => knownTags.contains item.1 = true ∧
    ∀ nested tail, createValue nested ⟨item.1, item.2 ++ tail, item.2.length⟩ =
      some (some value)) items values

theorem createValues_foundElements {items : List (UInt8 × List UInt8)} {values : List MmsValue}
    (all : CreatesAll items values) (rest : List UInt8)
    (nested : List UInt8 → Nat → Option (List (Option MmsValue))) :
    createValues nested (foundElements items rest) = some values := by
  induction all with
  | nil => rfl
  | cons one _ inductionHypothesis =>
    rw [foundElements, createValues, one.2, inductionHypothesis]
    rfl

theorem length_foundElements (items : List (UInt8 × List UInt8)) (rest : List UInt8) :
    (foundElements items rest).length = items.length := by
  induction items with
  | nil => rfl
  | cons item items inductionHypothesis =>
    rw [foundElements, List.length_cons, inductionHypothesis, List.length_cons]

theorem createDataSet_encodeElements {items : List (UInt8 × List UInt8)} {values : List MmsValue}
    (all : CreatesAll items values) (bounds : ∀ item ∈ items, item.2.length < 65535)
    (rest : List UInt8) :
    createDataSet (encodeElements items ++ rest) (encodeElements items).length =
      some (values.map some) := by
  have known : (foundElements items rest).all
      (fun element => knownTags.contains element.tag) = true := by
    clear bounds
    induction all with
    | nil => rfl
    | cons one _ inductionHypothesis =>
      rw [foundElements, List.all_cons, one.1, inductionHypothesis]
      rfl
  have count : items.length = values.length := all.length_eq
  rw [createDataSet, parseAllDataUnknownValue, allElements_encodeElements bounds]
  simp only [known, if_true, createValues_foundElements all, Option.map_some, length_foundElements,
    count, Nat.sub_self, List.replicate_zero, List.append_nil]

/-- A data set that is created holds the values of the elements of the message, and is as long as
the message. -/
theorem createDataSet_inversion {buffer : List UInt8} {allDataLength : Nat}
    {components : List (Option MmsValue)}
    (created : createDataSet buffer allDataLength = some components) :
    ∃ found values, allElements buffer allDataLength = some found ∧
      createValues (parseAllDataUnknownValue allDataLength) found = some values ∧
      components = values.map some ++ List.replicate (found.length - values.length) none := by
  rw [createDataSet, parseAllDataUnknownValue] at created
  cases walked : allElements buffer allDataLength with
  | none => rw [walked] at created; cases created
  | some found =>
    simp only [walked] at created
    split_ifs at created
    rw [Option.map_eq_some_iff] at created
    obtain ⟨values, made, rfl⟩ := created
    exact ⟨found, values, rfl, made, rfl⟩

/-! ### The shape of a data set is kept -/

/-- The type of a value, with the room of an integer and the width of a float. -/
def layout (value : MmsValue) : MmsType × Nat :=
  (value.getType, match value with
    | .integer storage => storage.maxSize
    | .unsigned storage => storage.maxSize
    | .float (.single _) => 32
    | .float (.double _) => 64
    | _ => 0)

def shape (components : List (Option MmsValue)) : List (Option (MmsType × Nat)) :=
  components.map (Option.map layout)

theorem updateBitString_layout (buffer : List UInt8) (elementLength : Nat) (value : MmsValue) :
    layout (updateBitString buffer elementLength value).1 = layout value := by
  cases value with
  | bitString size buf =>
    unfold updateBitString
    dsimp only
    split_ifs <;> rfl
  | _ => rfl

theorem updateInteger_layout (buffer : List UInt8) (elementLength : Nat) (value : MmsValue) :
    layout (updateInteger buffer elementLength value).1 = layout value := by
  cases value with
  | integer storage =>
    unfold updateInteger
    dsimp only
    split_ifs <;> rfl
  | _ => rfl

theorem updateUnsigned_layout (buffer : List UInt8) (elementLength : Nat) (value : MmsValue) :
    layout (updateUnsigned buffer elementLength value).1 = layout value := by
  cases value with
  | unsigned storage =>
    unfold updateUnsigned
    dsimp only
    split_ifs <;> rfl
  | _ => rfl

theorem updateFloat_layout (buffer : List UInt8) (elementLength : Nat) (value : MmsValue) :
    layout (updateFloat buffer elementLength value).1 = layout value := by
  cases value with
  | float storage =>
    unfold updateFloat
    dsimp only
    split_ifs <;> cases storage <;> rfl
  | _ => rfl

theorem updateStrings_layout (buffer : List UInt8) (elementLength : Nat) (value : MmsValue) :
    layout (updateOctetString buffer elementLength value).1 = layout value ∧
      layout (updateVisibleString buffer elementLength value).1 = layout value := by
  cases value with
  | octetString size maxSize buf =>
    unfold updateOctetString
    dsimp only
    split_ifs <;> exact ⟨rfl, rfl⟩
  | visibleString size buf =>
    unfold updateVisibleString
    dsimp only
    split_ifs <;> exact ⟨rfl, rfl⟩
  | _ => exact ⟨rfl, rfl⟩

theorem updateTimes_layout (buffer : List UInt8) (elementLength : Nat) (value : MmsValue) :
    layout (updateBinaryTime buffer elementLength value).1 = layout value ∧
      layout (updateUtcTime buffer value).1 = layout value := by
  cases value with
  | binaryTime size buf =>
    unfold updateBinaryTime
    dsimp only
    split_ifs <;> exact ⟨rfl, rfl⟩
  | _ => exact ⟨rfl, rfl⟩

theorem ite_layout {condition : Prop} [Decidable condition] {value : MmsValue}
    {first second : MmsValue × GooseParseError} (firstKeeps : layout first.1 = layout value)
    (secondKeeps : layout second.1 = layout value) :
    layout (if condition then first else second).1 = layout value := by
  split
  · exact firstKeeps
  · exact secondKeeps

theorem updatePrimitive_layout (buffer : List UInt8) (tag : UInt8) (elementLength : Nat)
    (value : MmsValue) :
    layout (updatePrimitive buffer tag elementLength value).1 = layout value := by
  have boolean : layout (updateBoolean buffer value).1 = layout value := by cases value <;> rfl
  have strings := updateStrings_layout buffer elementLength value
  have times := updateTimes_layout buffer elementLength value
  refine ite_layout rfl (ite_layout boolean (ite_layout ?_ (ite_layout ?_ (ite_layout ?_
    (ite_layout ?_ (ite_layout strings.1 (ite_layout strings.2 (ite_layout times.1
      (ite_layout (ite_layout times.2 rfl) rfl)))))))))
  · exact updateBitString_layout buffer elementLength value
  · exact updateInteger_layout buffer elementLength value
  · exact updateUnsigned_layout buffer elementLength value
  · exact updateFloat_layout buffer elementLength value

theorem updateElement_layout (buffer : List UInt8) (tag : UInt8) (elementLength : Nat)
    (value : MmsValue) :
    layout (updateElement buffer tag elementLength value).1 = layout value := by
  unfold updateElement
  split_ifs
  · cases value <;> rfl
  · cases value <;> rfl
  · exact updatePrimitive_layout buffer tag elementLength value

/-- In-place decoding keeps the components: their number, which are present, and what they are. -/
theorem shape_parseElements (buffer : List UInt8) (allDataLength bufPos : Nat)
    (components : List (Option MmsValue)) :
    shape (parseElements buffer allDataLength bufPos components).1 = shape components := by
  induction components generalizing bufPos with
  | nil => rw [parseElements]
  | cons component rest inductionHypothesis =>
    cases component with
    | none => rw [parseElements]
    | some value =>
      rw [parseElements]
      split
      · split
        · rfl
        · rename_i elementLength content _
          have kept := updateElement_layout (buffer.drop content)
            (BerDecoder.octetAt buffer bufPos) elementLength value
          dsimp only
          split
          · have tail := inductionHypothesis (content + elementLength)
            rw [shape, List.map_cons, Option.map_some, kept, ← shape, tail]
            rfl
          · rw [shape, List.map_cons, Option.map_some, kept]
            rfl
      · rfl

/-! ### What is created from an element -/

/-- The elements the second pass does not pass over. -/
def storable (element : Element) : Bool :=
  if element.tag = 0x87 then decide (element.length = 9 ∨ element.length = 5)
  else if element.tag = 0x8c then decide (element.length = 4 ∨ element.length = 6)
  else if element.tag = 0x91 then element.length = 8
  else true

/-- Room for any 32-bit integer. -/
def Roomy : Option (MmsType × Nat) → Prop
  | some (.integer, room) => 4 ≤ room
  | _ => True

/-- What the second pass makes of an element: an error, nothing, or a value of the type of its
tag. -/
def CreatedFrom (element : Element) : Option (Option MmsValue) → Prop
  | none => True
  | some none => storable element = false
  | some (some value) =>
    storable element = true ∧ createdType element.tag = some value.getType ∧
      Roomy (some (layout value))

theorem ite_createdFrom {condition : Prop} [Decidable condition] {element : Element}
    {first second : Option (Option MmsValue)} (holds : condition → CreatedFrom element first)
    (fails : ¬ condition → CreatedFrom element second) :
    CreatedFrom element (if condition then first else second) := by
  split
  · exact holds ‹_›
  · exact fails ‹_›

theorem roomy_integerStorage (size : Nat) (octets : List UInt8) :
    4 ≤ ((MmsValue.integerStorage size).store octets).maxSize := by
  unfold MmsValue.integerStorage
  split
  · exact (by decide : 4 ≤ 5)
  · exact (by decide : 4 ≤ 9)

theorem createdFrom_createValue (nested : List UInt8 → Nat → Option (List (Option MmsValue)))
    (element : Element) : CreatedFrom element (createValue nested element) := by
  obtain ⟨tag, buffer, elementLength⟩ := element
  -- The cases are in the order of the switch; in each the tag is known.
  refine ite_createdFrom (fun isArray => ?_) fun _ => ite_createdFrom (fun isStruct => ?_) fun _ =>
    ite_createdFrom (fun isBoolean => ?_) fun _ => ite_createdFrom (fun isBitString => ?_) fun _ =>
    ite_createdFrom (fun isInteger => ?_) fun _ => ite_createdFrom (fun isUnsigned => ?_) fun _ =>
    ite_createdFrom (fun isFloat => ?_) fun _ => ite_createdFrom (fun isOctets => ?_) fun _ =>
    ite_createdFrom (fun isString => ?_) fun _ => ite_createdFrom (fun isBinaryTime => ?_) fun _ =>
    ite_createdFrom (fun isUtcTime => ?_) fun _ => trivial
  · cases isArray
    cases nested buffer elementLength with
    | none => trivial
    | some components => exact ⟨rfl, rfl, trivial⟩
  · cases isStruct
    cases nested buffer elementLength with
    | none => trivial
    | some components => exact ⟨rfl, rfl, trivial⟩
  · cases isBoolean
    exact ite_createdFrom (fun _ => ⟨rfl, rfl, trivial⟩) fun _ => trivial
  · cases isBitString
    exact ite_createdFrom (fun _ => trivial) fun _ => ⟨rfl, rfl, trivial⟩
  · cases isInteger
    exact ite_createdFrom (fun _ => trivial) fun _ => ⟨rfl, rfl, roomy_integerStorage _ _⟩
  · cases isUnsigned
    exact ite_createdFrom (fun _ => trivial) fun _ => ⟨rfl, rfl, trivial⟩
  · cases isFloat
    refine ite_createdFrom (fun wide => ?_) fun notWide => ite_createdFrom (fun narrow => ?_)
      fun notNarrow => ?_
    · cases wide
      exact ⟨rfl, rfl, trivial⟩
    · cases narrow
      exact ⟨rfl, rfl, trivial⟩
    · exact decide_eq_false (not_or.mpr ⟨notWide, notNarrow⟩)
  · cases isOctets
    exact ⟨rfl, rfl, trivial⟩
  · cases isString
    exact ⟨rfl, rfl, trivial⟩
  · cases isBinaryTime
    refine ite_createdFrom (fun known => ?_) fun other => ?_
    · rcases known with rfl | rfl
      · exact ⟨rfl, rfl, trivial⟩
      · exact ⟨rfl, rfl, trivial⟩
    · exact decide_eq_false other
  · cases isUtcTime
    refine ite_createdFrom (fun known => ?_) fun other => decide_eq_false other
    cases known
    exact ⟨rfl, rfl, trivial⟩

/-- The values created are those of the elements that are not passed over, in order. -/
theorem createValues_types {nested : List UInt8 → Nat → Option (List (Option MmsValue))}
    {found : List Element} {values : List MmsValue}
    (created : createValues nested found = some values) :
    values.map (fun value => some value.getType) =
        (found.filter storable).map (fun element => createdType element.tag) ∧
      ∀ value ∈ values, Roomy (some (layout value)) := by
  induction found generalizing values with
  | nil =>
    rw [createValues, Option.some.injEq] at created
    subst created
    exact ⟨rfl, List.forall_mem_nil _⟩
  | cons element rest inductionHypothesis =>
    have spec := createdFrom_createValue nested element
    rw [createValues] at created
    cases result : createValue nested element with
    | none => rw [result] at created; cases created
    | some made =>
      rw [result] at created spec
      cases made with
      | none =>
        have passed : storable element = false := spec
        rw [List.filter_cons_of_neg (by rw [passed]; decide)]
        exact inductionHypothesis created
      | some value =>
        obtain ⟨kept, type, roomy⟩ := spec
        rw [Option.map_eq_some_iff] at created
        obtain ⟨others, createdRest, rfl⟩ := created
        obtain ⟨types, roomyRest⟩ := inductionHypothesis createdRest
        rw [List.filter_cons_of_pos kept, List.map_cons, List.map_cons, types, type,
          List.forall_mem_cons]
        exact ⟨rfl, roomy, roomyRest⟩

/-! ### The nesting never decides -/

theorem elements_length_lt {buffer : List UInt8} {maxBufPos stop fuel bufPos : Nat}
    {found : List Element} (walked : elements buffer maxBufPos stop fuel bufPos = some found) :
    ∀ element ∈ found, element.length < maxBufPos := by
  induction fuel generalizing bufPos found with
  | zero => cases walked
  | succ fuel inductionHypothesis =>
    rw [elements] at walked
    split_ifs at walked with atEnd
    · rw [Option.some.injEq] at walked
      subst walked
      exact List.forall_mem_nil _
    · cases decoded : BerDecoder.decodeLength buffer (bufPos + 1) maxBufPos with
      | none => rw [decoded] at walked; cases walked
      | some pair =>
        obtain ⟨length, content⟩ := pair
        have progress := BerDecoder.decodeLength_progress decoded
        rw [decoded, Option.map_eq_some_iff] at walked
        obtain ⟨rest, walkedRest, rfl⟩ := walked
        rw [List.forall_mem_cons]
        exact ⟨by dsimp only; omega, inductionHypothesis walkedRest⟩

theorem createValue_congr {first second : List UInt8 → Nat → Option (List (Option MmsValue))}
    {element : Element}
    (same : first element.content element.length = second element.content element.length) :
    createValue first element = createValue second element := by
  unfold createValue
  dsimp only
  rw [same]

theorem createValues_congr {first second : List UInt8 → Nat → Option (List (Option MmsValue))}
    {found : List Element}
    (same : ∀ element ∈ found,
      first element.content element.length = second element.content element.length) :
    createValues first found = createValues second found := by
  induction found with
  | nil => rfl
  | cons element rest inductionHypothesis =>
    rw [List.forall_mem_cons] at same
    rw [createValues, createValues, createValue_congr same.1, inductionHypothesis same.2]

/-- Nested data is shorter than the data around it, so the length of the data is enough. -/
theorem parseAllDataUnknownValue_depth {buffer : List UInt8} {allDataLength depth more : Nat}
    (enough : allDataLength < depth) (enoughMore : allDataLength < more) :
    parseAllDataUnknownValue depth buffer allDataLength =
      parseAllDataUnknownValue more buffer allDataLength := by
  induction depth generalizing buffer allDataLength more with
  | zero => exact absurd enough (Nat.not_lt_zero _)
  | succ depth inductionHypothesis =>
    obtain ⟨more, rfl⟩ := Nat.exists_eq_add_of_lt (Nat.zero_lt_of_lt enoughMore)
    rw [zero_add] at enoughMore ⊢
    rw [parseAllDataUnknownValue, parseAllDataUnknownValue]
    cases walked : allElements buffer allDataLength with
    | none => rfl
    | some found =>
      have same : createValues (parseAllDataUnknownValue depth) found =
          createValues (parseAllDataUnknownValue more) found := by
        refine createValues_congr fun element member => ?_
        have shorter := elements_length_lt walked element member
        exact inductionHypothesis (by omega) (by omega)
      simp only [same]

end Substation
