import NodeTelemetry.Binary.Layout
import NodeTelemetry.Time.Stamp

/-!
# Amounts, times and loads for display

Bytes are shown in the largest unit that they fill, with two places; a load with one place, in a
colour that tells how high it is; a timestamp of fixed columns as date and time, any other as it
is.
-/

namespace NodeTelemetry.Client

/-- Whether colours are shown. -/
structure Palette where
  /-- They are. -/
  colors : Bool
  deriving DecidableEq, Repr

/-- The start of a colour's control sequence. -/
def startOf (code : String) : String := "\x1b[" ++ code ++ "m"

/-- The control sequence that ends all colours. -/
def resetAll : String := "\x1b[0m"

/-- Adds `again` after each end of colours in a text. -/
def resume (again : List Char) : List Char → List Char
  | '\x1b' :: '[' :: '0' :: 'm' :: rest => resetAll.toList ++ again ++ resume again rest
  | c :: rest => c :: resume again rest
  | [] => []

/-- A text in a colour. Where the text itself ends colours, the colour begins again. -/
def Palette.paint (p : Palette) (code text : String) : String :=
  if p.colors then
    startOf code ++ String.ofList (resume (startOf code).toList text.toList) ++ resetAll
  else text

/-- The codes of the colours in use. -/
def red : String := "31"
/-- Green. -/
def green : String := "32"
/-- Yellow. -/
def yellow : String := "33"
/-- Cyan. -/
def cyan : String := "36"
/-- Bold green. -/
def boldGreen : String := "1;32"
/-- Bold blue. -/
def boldBlue : String := "1;34"

/-- The decimal digits of a word. -/
def wordText (n : UInt64) : String := String.ofList (Text.decimal n.toNat)

/-- An amount in a unit, with two places. -/
def inUnit (bytes unit : Nat) (name : String) : String :=
  let amount := (Binary.ofNat .double bytes).div .double (Binary.ofNat .double unit)
  String.ofList (amount.fixed 2) ++ name

/-- An amount of bytes. -/
def bytesText (bytes : UInt64) : String :=
  let n := bytes.toNat
  if 1073741824 ≤ n then inUnit n 1073741824 "Gi"
  else if 1048576 ≤ n then inUnit n 1048576 "Mi"
  else if 1024 ≤ n then inUnit n 1024 "Ki"
  else wordText bytes ++ "B"

/-- An amount in use out of all, in MiB. -/
def usageText (used total : UInt64) : String := wordText used ++ "/" ++ wordText total ++ "Mi"

/-- A load in percent. -/
def loadText (p : Palette) (percent : Binary) : String :=
  let text := String.ofList (percent.fixed 1) ++ "%"
  if (Binary.ofNat .double 90).le percent then p.paint red text
  else if (Binary.ofNat .double 70).le percent then p.paint yellow text
  else p.paint green text

/-- A timestamp. -/
def timeText (stamp : String) : String :=
  match Time.readStrict stamp.toList with
  | some t => String.ofList t.display
  | none => stamp

end NodeTelemetry.Client
