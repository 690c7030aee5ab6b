/-
This file embeds the hand-off from the protection GUI to the publisher program:
the record `update_publisher_data` of `protection_gui.py` writes, and what one
`fscanf` of the publisher reads of the file.

`readGuiData_line` says that a complete record is read back field by field;
`readGuiData_empty` that an empty file gives the built-in defaults.
-/

import Substation.Lib.Decimal

namespace Substation

open Decimal

/-! ### protection_gui.py -/

/-- The variables of the GUI. A measurement is the text Python gives its `float`; only finite
ones have a numeral. -/
structure GuiRecord where
  trip : Bool
  close : Bool
  faultType : BitVec 32
  protElement : BitVec 32
  current : Numeral
  voltage : Numeral
  frequency : Numeral
  deriving DecidableEq, Repr

def flagText (flag : Bool) : Text := printInteger (if flag then 1 else 0)

/-- The line `update_publisher_data` writes. -/
def GuiRecord.line (record : GuiRecord) : Text :=
  flagText record.trip ++ ',' :: (flagText record.close ++
    ',' :: (printInteger record.faultType.toInt ++
    ',' :: (printInteger record.protElement.toInt ++
    ',' :: (record.current.text ++
    ',' :: (record.voltage.text ++
    ',' :: (record.frequency.text ++ ['\n']))))))

/-! ### The read of the publisher -/

/-- The seven variables of the publisher loop. -/
structure GuiData where
  trip : BitVec 32
  close : BitVec 32
  faultType : BitVec 32
  protElem : BitVec 32
  current : BitVec 32
  voltage : BitVec 32
  freq : BitVec 32
  deriving DecidableEq, Repr

/-- The conversions of a `scanf` format. -/
inductive Conversion
  | d
  | f
  deriving DecidableEq, Repr

/-- The `float` nearest to a decimal number. -/
def floatOf (negative : Bool) (magnitude : ℚ) : BitVec 32 :=
  BitVec.ofNat 32 (Ieee.ofRat Ieee.binary32 negative magnitude)

/-- One conversion. `%d` is `strtol`, held to 64 bits, stored in an `int`; of the numbers that
`%f` reads these are the decimal ones, and it has read an `e` also where no digits follow. -/
def Conversion.scan : Conversion → Text → Option (BitVec 32 × Text)
  | d, text => (scanInteger text).map fun scanned =>
      (BitVec.ofInt 32 (max (-2 ^ 63) (min (2 ^ 63 - 1) scanned.1)), scanned.2)
  | f, text => (scanDecimal true text).map fun scanned =>
      (floatOf scanned.1 scanned.2.1, scanned.2.2)

/-- The values `fscanf` assigns for conversions separated by commas, up to the first input that
does not match. -/
def fscanf : List Conversion → Text → List (BitVec 32)
  | [], _ => []
  | conversion :: rest, text =>
    match conversion.scan text with
    | none => []
    | some (value, ',' :: text) => value :: fscanf rest text
    | some (value, _) => [value]

/-- The format `"%d,%d,%d,%d,%f,%f,%f"`. -/
def guiFormat : List Conversion := [.d, .d, .d, .d, .f, .f, .f]

/-- The variables after the read: a value that is not assigned keeps its default. The item count
of `fscanf` is not looked at. -/
def readGuiData (file : Option Text) : GuiData :=
  let items := match file with
    | none => []
    | some text => fscanf guiFormat text
  { trip := items.getD 0 0
    close := items.getD 1 0
    faultType := items.getD 2 0
    protElem := items.getD 3 50
    current := items.getD 4 (Ieee.narrow (BitVec.ofNat 64 (Ieee.ofRat Ieee.binary64 false 1250.5)))
    voltage := items.getD 5 (Ieee.narrow (BitVec.ofNat 64 (Ieee.ofRat Ieee.binary64 false 10500)))
    freq := items.getD 6 (Ieee.narrow (BitVec.ofNat 64 (Ieee.ofRat Ieee.binary64 false 49.8))) }

/-! ### A complete record is read back -/

def flagWord (flag : Bool) : BitVec 32 := if flag then 1 else 0

def numeralBits (numeral : Numeral) : BitVec 32 :=
  floatOf numeral.negative numeral.magnitude

/-- The values of a record. -/
def GuiRecord.data (record : GuiRecord) : GuiData where
  trip := flagWord record.trip
  close := flagWord record.close
  faultType := record.faultType
  protElem := record.protElement
  current := numeralBits record.current
  voltage := numeralBits record.voltage
  freq := numeralBits record.frequency

theorem toNat_floatOf (negative : Bool) (magnitude : ℚ) :
    (floatOf negative magnitude).toNat = Ieee.ofRat Ieee.binary32 negative magnitude := by
  refine (BitVec.toNat_ofNat _ _).trans (Nat.mod_eq_of_lt ?_)
  exact Ieee.withSign_lt _ (lt_of_le_of_lt (Ieee.binary32.roundMagnitude_le_infinity _)
    Ieee.binary32.infinity_lt_signWeight)

theorem stopsNumber_comma (text : Text) : StopsNumber (',' :: text) := by
  intro character member
  rw [List.head?_cons, Option.mem_some_iff] at member
  subst member
  decide

theorem stopsNumber_newline : StopsNumber ['\n'] := by
  intro character member
  rw [List.head?_cons, Option.mem_some_iff] at member
  subst member
  decide

theorem scan_printInteger (value : BitVec 32) {rest : Text} (stops : StopsDigits rest) :
    Conversion.d.scan (printInteger value.toInt ++ rest) = some (value, rest) := by
  have lower := BitVec.le_toInt value
  have upper := BitVec.toInt_lt (x := value)
  rw [Conversion.scan, scanInteger_print _ stops, Option.map_some, Option.some.injEq,
    Prod.mk.injEq]
  refine ⟨?_, rfl⟩
  rw [min_eq_right (by omega), max_eq_right (by omega), BitVec.ofInt_toInt]

theorem scan_flagText (flag : Bool) {rest : Text} (stops : StopsDigits rest) :
    Conversion.d.scan (flagText flag ++ rest) = some (flagWord flag, rest) := by
  have value : (flagWord flag).toInt = if flag then 1 else 0 := by cases flag <;> rfl
  rw [flagText, ← value]
  exact scan_printInteger _ stops

theorem scan_numeral (numeral : Numeral) {rest : Text} (stops : StopsNumber rest) :
    Conversion.f.scan (numeral.text ++ rest) = some (numeralBits numeral, rest) := by
  rw [Conversion.scan, numeral.scanDecimal_text true stops, Option.map_some]
  rfl

theorem fscanf_line (record : GuiRecord) :
    fscanf guiFormat record.line =
      [flagWord record.trip, flagWord record.close, record.faultType, record.protElement,
        numeralBits record.current, numeralBits record.voltage,
        numeralBits record.frequency] := by
  have comma (text : Text) := (stopsNumber_comma text).stopsDigits
  rw [guiFormat, GuiRecord.line]
  simp only [fscanf, scan_flagText _ (comma _), scan_printInteger _ (comma _),
    scan_numeral _ (stopsNumber_comma _), scan_numeral _ stopsNumber_newline]
  rfl

/-- A complete record is read as it was written. -/
theorem readGuiData_line (record : GuiRecord) :
    readGuiData (some record.line) = record.data := by
  rw [readGuiData, fscanf_line]
  rfl

/-- An empty file is read as if it were missing. -/
theorem readGuiData_empty : readGuiData (some []) = readGuiData none := rfl

end Substation
