import NodeTelemetry.Text.Blank
import NodeTelemetry.Text.Utf8

/-!
# Frames of an event stream

A stream of events arrives in chunks of bytes that are cut anywhere. Carriage returns do not count.
A frame ends at an empty line; its data are its lines that begin with `data:`, without that mark
and one blank after it. A frame without such a line is a comment and gives nothing.
-/

namespace NodeTelemetry.Client

/-- What has arrived of a frame that is not complete, the latest byte first. -/
structure FrameDecoder where
  /-- The bytes. -/
  pending : List UInt8
  deriving DecidableEq, Repr

namespace FrameDecoder

/-- The decoder before the first chunk. -/
def empty : FrameDecoder := ⟨[]⟩

/-- The mark that begins a line of data. -/
def dataMark : List Char := ['d', 'a', 't', 'a', ':']

/-- The data of a line, if it is one of data. -/
def lineData? (line : List Char) : Option (List Char) :=
  if line.take 5 = dataMark then
    match line.drop 5 with
    | ' ' :: rest => some rest
    | rest => some rest
  else none

/-- Texts joined by line feeds. -/
def joinLines : List (List Char) → List Char
  | [] => []
  | [l] => l
  | l :: ls => l ++ '\n' :: joinLines ls

/-- The data of a frame, if it is not a comment. -/
def frameData? (frame : List UInt8) : Option String :=
  match (Text.lines (Utf8.lossy frame).toList).filterMap lineData? with
  | [] => none
  | ls => some (String.ofList (joinLines ls))

/-- Takes one byte: the decoder after it, and the frame that it completes, if it does. -/
def step (d : FrameDecoder) (b : UInt8) : FrameDecoder × Option (List UInt8) :=
  if b = 0x0D then (d, none)
  else if b = 0x0A ∧ d.pending.head? = some 0x0A then (empty, some (b :: d.pending).reverse)
  else (⟨b :: d.pending⟩, none)

/-- Takes a chunk: the decoder after it, and the data of the frames that it completes. -/
def push (d : FrameDecoder) (chunk : List UInt8) : FrameDecoder × List String :=
  let (d, frames) := chunk.foldl
    (fun (acc : FrameDecoder × List String) b =>
      let (d, frame) := acc.1.step b
      match frame.bind frameData? with
      | none => (d, acc.2)
      | some data => (d, data :: acc.2)) (d, [])
  (d, frames.reverse)

end FrameDecoder

end NodeTelemetry.Client
