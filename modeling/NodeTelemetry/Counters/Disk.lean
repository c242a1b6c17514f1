import NodeTelemetry.Text.Blank
import NodeTelemetry.Text.Digits

/-!
# Totals of the block devices

The kernel shows one line for each block device. Of a line with at least ten words, the sixth and
the tenth count the sectors read and written, each of 512 bytes; a word that is no number counts as
none. The totals over all lines stop at the largest word.
-/

namespace NodeTelemetry

/-- Bytes read and written since the node started. -/
structure DiskTotals where
  /-- Bytes read. -/
  readBytes : UInt64
  /-- Bytes written. -/
  writeBytes : UInt64
  deriving DecidableEq, Repr, Inhabited

namespace DiskTotals

/-- Nothing read or written. -/
def zero : DiskTotals := ⟨0, 0⟩

/-- The size of a sector. -/
def sectorBytes : Nat := 512

/-- A natural number held at the largest word. -/
def saturate (n : Nat) : Nat := min Text.maxWord n

/-- Adds the sectors that a word counts. -/
def addSectors (total : Nat) (word : List Char) : Nat :=
  saturate (total + saturate ((Text.word? word).getD 0 * sectorBytes))

/-- Adds a line to the totals of bytes read and written. -/
def addLine (totals : Nat × Nat) (line : List Char) : Nat × Nat :=
  match Text.words line with
  | _ :: _ :: _ :: _ :: _ :: sectorsRead :: _ :: _ :: _ :: sectorsWritten :: _ =>
    (addSectors totals.1 sectorsRead, addSectors totals.2 sectorsWritten)
  | _ => totals

/-- The totals of a text. -/
def parse (content : String) : DiskTotals :=
  let totals := (Text.lines content.toList).foldl addLine (0, 0)
  ⟨UInt64.ofNat totals.1, UInt64.ofNat totals.2⟩

end DiskTotals

end NodeTelemetry
