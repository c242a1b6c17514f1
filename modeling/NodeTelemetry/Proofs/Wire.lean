import NodeTelemetry.Proofs.Event.Written
import NodeTelemetry.Proofs.Health.Written

/-!
# Values that are restored from their texts

A reader takes more texts than a writer gives: members in any order and with unknown names among
them, records as arrays, texts that are absent or `null`. But what it gives for any of them is a
value that can be written, and a value that can be written is read from its own text. So one writing
brings a value to a text that stays as it is (`restored_of_readText`).

For reports and summaries the values that some text is read as are known
(`Health.exists_readText_report`, `Health.exists_readText_summary`). An event is plain, and its
members are values in order that leave one level free (`Event.plain_of_readText`).
-/

namespace NodeTelemetry

open Json Health

/-- What is written for a value is read as the value, and is written again to the same text. -/
structure Restored {α : Type} (read : List Glyph → Except ReadError α) (write : α → Json) (a : α) :
    Prop where
  /-- The value is read back. -/
  read_back : read (Glyph.ofString (write a).compact) = .ok a
  /-- What is read is written to the same text. -/
  rewritten : (read (Glyph.ofString (write a).compact)).map (fun b => (write b).compact) =
    .ok (write a).compact

/-- What is read back is written to the same text. -/
theorem restored_of_read_back {α : Type} {read : List Glyph → Except ReadError α}
    {write : α → Json} {a : α} (h : read (Glyph.ofString (write a).compact) = .ok a) :
    Restored read write a := ⟨h, congrArg (Except.map _) h⟩

/-- **Whatever text a value is read from, it is restored from what is written for it**: a report,
readiness, a summary with all members in the order of their names or in that of the fields, and an
event without real numbers. -/
theorem restored_of_readText :
    (∀ text r, Report.schema.readText text = .ok r →
      Restored Report.schema.readText Report.toJson r) ∧
    (∀ text r, Readiness.schema.readText text = .ok r →
      Restored Readiness.schema.readText Readiness.toJson r) ∧
    (∀ text s, Summary.schema.readText text = .ok s →
      Restored Summary.schema.readText Summary.toJson s ∧
        Restored Summary.schema.readText (fun s => .obj s.members) s) ∧
    ∀ text e, Event.readText text = .ok e → e.toJson.RealFree →
      Restored Event.readText Event.toJson e := by
  refine ⟨fun text r hread => ?_, fun _ r _ => ?_, fun text s hread => ?_,
    fun text e hread hfree => ?_⟩
  · have hr : r.Writable := exists_readText_report.mp ⟨text, hread⟩
    exact restored_of_read_back (readText_report hr)
  · exact restored_of_read_back (readText_readiness r)
  · have hs : s.Writable := exists_readText_summary.mp ⟨text, hread⟩
    obtain ⟨hsorted, hlisted⟩ := readText_summary hs
    exact ⟨restored_of_read_back hsorted, restored_of_read_back hlisted⟩
  · exact restored_of_read_back (Event.readText_toJson hread hfree)

/-- A report as an array, with `null` for its message. -/
def listedReport : String := "[\"healthy\", null, -5]"

/-- Readiness with an unknown member first and its own ones in no order. -/
def strangeReadiness : String :=
  "\x7b\"later\":[\x7b\"a\":2.5\x7d],\"reason\":null,\"ready\":true\x7d"

/-- A summary with its members, its components and their members in no order. -/
def shuffledSummary : String :=
  "\x7b\"components\":\x7b\"b\":[\"healthy\",null,1],\"a\":\x7b\"last_check_timestamp\":-1," ++
    "\"message\":\"\\u00e9\",\"status\":\x7b\"degraded\":null\x7d\x7d\x7d,\"status\":\"degraded\"\x7d"

/-- An event with its members in no order, one of them given twice. -/
def shuffledEvent : String :=
  "\x7b\"z\":1,\"ts\":null,\"a\":\x7b\"c\":1,\"b\":2\x7d,\"z\":\"\\n\",\"type\":[]\x7d"

set_option maxRecDepth 4000 in
/-- Four texts that no writer gives, and the values that are restored from them. -/
theorem restored_of_readText_spellings :
    (Report.schema.readText (Glyph.ofString listedReport) = .ok ⟨.healthy, none, -5⟩ ∧
      Restored Report.schema.readText Report.toJson ⟨.healthy, none, -5⟩) ∧
    (Readiness.schema.readText (Glyph.ofString strangeReadiness) = .ok ⟨true, none⟩ ∧
      Restored Readiness.schema.readText Readiness.toJson ⟨true, none⟩) ∧
    (Summary.schema.readText (Glyph.ofString shuffledSummary) = .ok
        ⟨.degraded, [("a", ⟨.degraded, some "é", -1⟩), ("b", ⟨.healthy, none, 1⟩)]⟩ ∧
      Restored Summary.schema.readText Summary.toJson
        ⟨.degraded, [("a", ⟨.degraded, some "é", -1⟩), ("b", ⟨.healthy, none, 1⟩)]⟩) ∧
    (Event.readText (Glyph.ofString shuffledEvent) = .ok
        ⟨.arr [], .null, [("a", .obj [("b", .int 2), ("c", .int 1)]), ("z", .str "\n")]⟩ ∧
      Restored Event.readText Event.toJson
        ⟨.arr [], .null, [("a", .obj [("b", .int 2), ("c", .int 1)]), ("z", .str "\n")]⟩) := by
  obtain ⟨hreport, hreadiness, hsummary, hevent⟩ := restored_of_readText
  exact ⟨⟨rfl, hreport (Glyph.ofString listedReport) _ rfl⟩,
    ⟨rfl, hreadiness (Glyph.ofString strangeReadiness) _ rfl⟩,
    ⟨rfl, (hsummary (Glyph.ofString shuffledSummary) _ rfl).1⟩,
    ⟨rfl, hevent (Glyph.ofString shuffledEvent) _ rfl (by decide)⟩⟩

end NodeTelemetry
