import Mathlib.Data.List.Basic
import NodeTelemetry.Counters.Files
import NodeTelemetry.Proofs.Keyed
import NodeTelemetry.Proofs.Sampler.Samples
import NodeTelemetry.Proofs.Text.Digits
import NodeTelemetry.Proofs.Text.Utf8
import NodeTelemetry.Proofs.Text.Words

/-!
# Paging counters in a text

A table of paging counters is a text of any lines. `Gives` says of a line which value it gives to which
name, in terms of its characters; most lines give none. The counters of a text are those that its lines
give, the last line of each name counting (`find?_parse`). So a line that gives nothing can stand anywhere
(`parse_insert`), and a collection of counters comes back from its lines in any order, among any such
lines (`parse_of_perm`).

A table that gives no counters at all is a fault of the read. What a sampler remembers of its reads is
therefore never an empty collection that came from a file (`previous_after`).
-/

namespace NodeTelemetry

namespace Vmstat

/-! ### Lines -/

/-- A line gives a value to a name: these are its two words, and it has no third one. The value is
written in digits that may stand behind a sign `+`. -/
def Gives (line : List Char) (name : String) (value : UInt64) : Prop :=
  ∃ word, Text.Spaced [name.toList, word] line ∧ Text.behindPlus word ≠ [] ∧
    Text.AllDigits (Text.behindPlus word) ∧ Text.ofDigits (Text.behindPlus word) = value.toNat

/-- A line that gives no value to any name. -/
def Idle (line : List Char) : Prop := ∀ name value, ¬Gives line name value

/-- The name and value that two words are. -/
def entryOf? : List (List Char) → Option (String × UInt64)
  | [name, value] => (Text.word? value).map fun n => (String.ofList name, UInt64.ofNat n)
  | _ => none

theorem lineEntry?_eq (line : List Char) : lineEntry? line = entryOf? (Text.words line) := rfl

/-- A word of 64 bits is the number that is read. -/
theorem word?_eq_some_toNat {cs : List Char} {value : UInt64} :
    (Text.word? cs).map UInt64.ofNat = some value ↔
      Text.behindPlus cs ≠ [] ∧ Text.AllDigits (Text.behindPlus cs) ∧
        Text.ofDigits (Text.behindPlus cs) = value.toNat := by
  rw [Option.map_eq_some_iff]
  constructor
  · rintro ⟨n, hn, rfl⟩
    obtain ⟨hne, hdigits, rfl, hle⟩ := (Text.word?_eq_some cs n).mp hn
    refine ⟨hne, hdigits, (UInt64.toNat_ofNat_of_lt' ?_).symm⟩
    exact Nat.lt_of_le_of_lt hle (by decide)
  · rintro ⟨hne, hdigits, hvalue⟩
    have hle : value.toNat ≤ Text.maxWord := Nat.le_of_lt_succ value.toNat_lt
    exact ⟨value.toNat, (Text.word?_eq_some cs _).mpr ⟨hne, hdigits, hvalue, hle⟩,
      UInt64.ofNat_toNat⟩

/-- **What is taken from a line is what the line gives.** -/
theorem lineEntry?_eq_some {line : List Char} {name : String} {value : UInt64} :
    lineEntry? line = some (name, value) ↔ Gives line name value := by
  have hpair : ∀ cs word, (Text.word? word).map (fun n => (String.ofList cs, UInt64.ofNat n)) =
      some (name, value) ↔ cs = name.toList ∧ (Text.word? word).map UInt64.ofNat = some value := by
    intro cs word
    cases Text.word? word with
    | none => simp
    | some n =>
      have hname : String.ofList cs = name ↔ cs = name.toList := by
        rw [← String.toList_inj, String.toList_ofList]
      simp [hname]
  rw [lineEntry?_eq]
  constructor
  · intro h
    unfold entryOf? at h
    split at h
    · rename_i cs word hwords
      obtain ⟨rfl, hword⟩ := (hpair cs word).mp h
      exact ⟨word, Text.words_eq_iff.mp hwords, word?_eq_some_toNat.mp hword⟩
    · cases h
  · rintro ⟨word, hspaced, hword⟩
    rw [Text.words_of_spaced hspaced]
    exact (hpair _ word).mpr ⟨rfl, word?_eq_some_toNat.mpr hword⟩

theorem lineEntry?_eq_none {line : List Char} : lineEntry? line = none ↔ Idle line := by
  simp only [Idle, ← lineEntry?_eq_some, Option.eq_none_iff_forall_ne_some, Prod.forall, Ne]

/-! ### Texts -/

/-- The text of some lines, with line feeds between them. -/
def textOf (lines : List (List Char)) : String := String.ofList (['\n'].intercalate lines)

/-- The line that shows a counter. -/
def entryText (entry : String × UInt64) : List Char :=
  entry.1.toList ++ ' ' :: Text.decimal entry.2.toNat

/-- The counters of a text are those that the pieces between its line feeds give. -/
theorem parse_eq (content : String) :
    parse content = Keyed.ofList ((content.toList.splitOn '\n').filterMap lineEntry?) :=
  congrArg Keyed.ofList (Text.filterMap_lines (f := entryOf?) rfl content.toList)

/-- **The counter of a name is what the last line gives that gives it one.** -/
theorem find?_parse {content name : String} {value : UInt64} :
    Keyed.find? name (parse content) = some value ↔
      ∃ before line after, content.toList.splitOn '\n' = before ++ line :: after ∧
        Gives line name value ∧ ∀ later ∈ after, ∀ other, ¬Gives later name other := by
  simp only [parse_eq, Keyed.find?_ofList, Keyed.lastOf_filterMap_eq_some, Ne,
    lineEntry?_eq_some]

variable {lines : List (List Char)}

/-- The counters of a text made from lines. -/
theorem parse_textOf (h : ∀ line ∈ lines, '\n' ∉ line) :
    parse (textOf lines) = Keyed.ofList (lines.filterMap lineEntry?) := by
  by_cases hnil : lines = []
  · subst hnil
    rfl
  · rw [parse_eq, textOf, String.toList_ofList, List.splitOn_intercalate '\n' h hnil]

/-- A line that gives nothing has no effect, wherever it stands. -/
theorem parse_insert {before after : List (List Char)} {line : List Char} (hidle : Idle line)
    (h : ∀ l ∈ before ++ line :: after, '\n' ∉ l) :
    parse (textOf (before ++ line :: after)) = parse (textOf (before ++ after)) := by
  have hrest : ∀ l ∈ before ++ after, '\n' ∉ l := fun l hl =>
    h l ((List.sublist_append_right [line] after).append_left before |>.subset hl)
  simp [parse_textOf h, parse_textOf hrest, lineEntry?_eq_none.mpr hidle]

/-- The line of a counter gives it. -/
theorem gives_entryText {name : String} (hname : Text.IsWord name.toList) (value : UInt64) :
    Gives (entryText (name, value)) name value := by
  have hdigits := Text.allDigits_decimal value.toNat
  have hplus : Text.behindPlus (Text.decimal value.toNat) = Text.decimal value.toNat := by
    unfold Text.behindPlus
    split
    · rename_i heq
      exact absurd (hdigits '+' (heq ▸ List.mem_cons_self)) (by decide)
    · rfl
  have hblank : ∀ c ∈ Text.decimal value.toNat, Text.isBlank c = false := by
    intro c hc
    have hnat : 48 ≤ c.toNat ∧ c.toNat ≤ 57 := by
      simpa [Char.isDigit, UInt32.le_iff_toNat_le] using hdigits c hc
    simp [Text.isBlank]
    omega
  have hword : Text.IsWord (Text.decimal value.toNat) := ⟨Text.decimal_ne_nil _, hblank⟩
  refine ⟨Text.decimal value.toNat, ⟨[], ' ' :: Text.decimal value.toNat, Text.blanks_nil, hname,
    rfl, by simp [Text.Parted, Text.isBlank], [' '], [], by decide, hword, by simp,
    by simp [Text.Parted], Text.blanks_nil⟩, ?_⟩
  rw [hplus]
  exact ⟨Text.decimal_ne_nil _, hdigits, Text.ofDigits_decimal _⟩

/-- Names without white space and digits have no line feeds. -/
theorem notMem_entryText {name : String} (hname : Text.IsWord name.toList) (value : UInt64) :
    '\n' ∉ entryText (name, value) := by
  intro hmem
  rcases List.mem_append.mp hmem with hmem | hmem
  · exact absurd (hname.2 _ hmem) (by decide)
  · rcases List.mem_cons.mp hmem with hmem | hmem
    · exact absurd hmem (by decide)
    · exact absurd (Text.allDigits_decimal _ _ hmem) (by decide)

/-- **Counters come back from their lines**, in any order and among any lines that give nothing. -/
theorem parse_of_perm {counters : Vmstat} (hsorted : Keyed.Sorted counters)
    (hnames : ∀ entry ∈ counters, Text.IsWord entry.1.toList) {others : List (List Char)}
    (hothers : ∀ line ∈ others, '\n' ∉ line ∧ Idle line)
    (hperm : lines.Perm (counters.map entryText ++ others)) :
    parse (textOf lines) = counters := by
  have hfeeds : ∀ line ∈ lines, '\n' ∉ line := by
    intro line hline
    rcases List.mem_append.mp (hperm.mem_iff.mp hline) with hmem | hmem
    · obtain ⟨entry, hentry, rfl⟩ := List.mem_map.mp hmem
      exact notMem_entryText (hnames entry hentry) entry.2
    · exact (hothers line hmem).1
  have hcounters : (counters.map entryText).filterMap lineEntry? = counters := by
    have hone : ∀ entry ∈ counters, lineEntry? (entryText entry) = some entry :=
      fun entry hentry => lineEntry?_eq_some.mpr (gives_entryText (hnames entry hentry) entry.2)
    rw [List.filterMap_map]
    exact (List.filterMap_congr hone).trans List.filterMap_some
  have hnone : others.filterMap lineEntry? = [] :=
    List.filterMap_eq_nil_iff.mpr fun line hline => lineEntry?_eq_none.mpr (hothers line hline).2
  have hentries : (lines.filterMap lineEntry?).Perm counters := by
    have hall := hperm.filterMap lineEntry?
    rwa [List.filterMap_append, hcounters, hnone, List.append_nil] at hall
  have hnodup : (Keyed.names (lines.filterMap lineEntry?)).Nodup :=
    (hentries.map Prod.fst).nodup_iff.mpr hsorted.nodup_names
  rw [parse_textOf hfeeds]
  exact (Keyed.sorted_ofList _).eq_of_perm hsorted ((Keyed.perm_ofList hnodup).trans hentries)

/-! ### Files -/

/-- **A table is read if it gives a counter at all**, and its counters are then those of its text. -/
theorem readVmstat_of_text {root content : String} {f : FileContent} (h : f.text = .ok content) :
    readVmstat root f =
      if parse content = [] then .error (.noCounters (root ++ "/vmstat"))
      else .ok (parse content) := by
  have hread : readBelow root "vmstat" f = .ok content := by simp [readBelow, h]
  have hvmstat : readVmstat root f =
      if (parse content).isEmpty then .error (.noCounters (root ++ "/vmstat"))
      else .ok (parse content) := by
    unfold readVmstat
    rw [hread]
    rfl
  simpa using hvmstat

/-- No empty collection is read from a file. -/
theorem ne_nil_of_readVmstat {root : String} {f : FileContent} {counters : Vmstat}
    (h : readVmstat root f = .ok counters) : counters ≠ [] := by
  cases htext : f.text with
  | error fault =>
    have hfault : readVmstat root f = .error (.unreadable (joinPath root "vmstat") fault) := by
      unfold readVmstat readBelow
      rw [htext]
      rfl
    rw [hfault] at h
    cases h
  | ok content =>
    rw [readVmstat_of_text htext] at h
    split at h
    · cases h
    · rename_i hne
      cases h
      exact hne

end Vmstat

/-! ### What a sampler remembers -/

namespace Sampler

/-- A read of paging counters comes from a file, however long it takes. -/
def ReadsFile (r : Reading Vmstat) : Prop := ∃ root f, r.outcome = readVmstat root f

/-- What a sampler remembers of the paging counters is what one of some turns has read from a file, and
that is not empty. -/
def RemembersFile (s : Sampler) (turns : List Turn) : Prop :=
  ∃ t ∈ turns, ∃ counters doneMs, s.previous = some (counters, doneMs) ∧
    t.readings.vmstat.outcome = .ok counters ∧ counters ≠ []

variable {clock : Clock}

/-- A tick keeps the counters that are remembered, or remembers some that it has read. -/
theorem previous_tick (s : Sampler) (startMs : Nat) {t : Turn}
    (hfile : ReadsFile t.readings.vmstat) :
    (s.tick clock startMs t.readings).sampler.previous = s.previous ∨
      RemembersFile (s.tick clock startMs t.readings).sampler [t] := by
  obtain ⟨root, f, houtcome⟩ := hfile
  cases hvalue : t.readings.vmstat.value? s.config.readTimeoutMs with
  | none => exact .inl (by rw [tick_previous, hvalue]; rfl)
  | some counters =>
    have hok : t.readings.vmstat.outcome = .ok counters := by
      simp only [Reading.value?, Reading.within] at hvalue
      split at hvalue
      · split at hvalue
        · cases h : t.readings.vmstat.outcome with
          | error fault => simp [h, Except.toOption] at hvalue
          | ok read => simpa [h, Except.toOption] using hvalue
        · cases hvalue
      · cases hvalue
    have hprevious : (s.tick clock startMs t.readings).sampler.previous =
        some (counters, startMs + t.readings.spentMs s.config.readTimeoutMs) := by
      rw [tick_previous, hvalue]
      rfl
    exact .inr ⟨t, List.mem_singleton_self t, counters, _, hprevious, hok,
      Vmstat.ne_nil_of_readVmstat (houtcome.symm.trans hok)⟩

/-- **So does every run**: counters are only replaced by others, never by none. -/
theorem previous_after (s : Sampler) (nowMs : Nat) {turns : List Turn}
    (hfiles : ∀ t ∈ turns, ReadsFile t.readings.vmstat) :
    (s.after clock nowMs turns).previous = s.previous ∨
      RemembersFile (s.after clock nowMs turns) turns := by
  induction turns generalizing s nowMs with
  | nil => exact .inl rfl
  | cons t ts ih =>
    obtain ⟨ht, hts⟩ := List.forall_mem_cons.mp hfiles
    rw [after_cons]
    rcases ih (s.tick clock (nowMs + t.waitMs) t.readings).sampler _ hts with hkept | hlater
    · rcases previous_tick s (nowMs + t.waitMs) ht with hsame | ⟨_, hmem, counters, doneMs, hread⟩
      · exact .inl (hkept.trans hsame)
      · obtain rfl := List.mem_singleton.mp hmem
        exact .inr ⟨_, List.mem_cons_self, counters, doneMs, hkept.trans hread.1, hread.2⟩
    · obtain ⟨u, hu, hlater⟩ := hlater
      exact .inr ⟨u, List.mem_cons_of_mem t hu, hlater⟩

end Sampler

namespace Vmstat

/-- **The counters of a text are those of its last lines.** A name has a value if and only if the last
line that is this name and some number is this name and this value; all other lines can stand anywhere
without effect. So counters with names that are words come back from their lines, in any order and with
any such lines between them. A file with this text gives these counters, and a fault if there are none,
so that a sampler that reads files keeps the counters it remembers until it has read others, and these
are never none. -/
theorem counters_of_last_lines :
    (∀ content : String, Keyed.Sorted (parse content) ∧
      ∀ name value, Keyed.find? name (parse content) = some value ↔
        ∃ before line after, content.toList.splitOn '\n' = before ++ line :: after ∧
          Gives line name value ∧ ∀ later ∈ after, ∀ other, ¬Gives later name other) ∧
    (∀ before line after, (∀ l ∈ before ++ line :: after, '\n' ∉ l) → Idle line →
      parse (textOf (before ++ line :: after)) = parse (textOf (before ++ after))) ∧
    (∀ counters : Vmstat, Keyed.Sorted counters →
      (∀ entry ∈ counters, Text.IsWord entry.1.toList) →
      ∀ others lines : List (List Char), (∀ line ∈ others, '\n' ∉ line ∧ Idle line) →
        lines.Perm (counters.map entryText ++ others) → parse (textOf lines) = counters) ∧
    (∀ content : String, FileContent.text (.ok (Utf8.ofString content)) = .ok content ∧
      ∀ (root : String) (f : FileContent), f.text = .ok content →
        readVmstat root f =
          if parse content = [] then .error (.noCounters (root ++ "/vmstat"))
          else .ok (parse content)) ∧
    ∀ (s : Sampler) (clock : Clock) (nowMs : Nat) (turns : List Turn),
      (∀ t ∈ turns, Sampler.ReadsFile t.readings.vmstat) →
        (s.after clock nowMs turns).previous = s.previous ∨
          (s.after clock nowMs turns).RemembersFile turns := by
  refine ⟨fun content => ⟨?_, fun name value => find?_parse⟩,
    fun before line after hfeeds hidle => parse_insert hidle hfeeds,
    fun counters hsorted hnames others lines hothers hperm =>
      parse_of_perm hsorted hnames hothers hperm,
    fun content => ⟨?_, fun root f htext => readVmstat_of_text htext⟩,
    fun s clock nowMs turns hfiles => s.previous_after nowMs hfiles⟩
  · rw [parse_eq]
    exact Keyed.sorted_ofList _
  · simp [FileContent.text, Utf8.text?_ofString]

/-- Lines without effect: one of white space, one word, three words, a sign, a negative number, and a
number that is too large. -/
def idleLines : List (List Char) :=
  ["\u3000\t\r".toList, "pgfault".toList, "pgfault 1 2".toList, "pgfault +".toList,
    "pgfault -1".toList, "pgfault 18446744073709551616".toList]

/-- A file of nothing but such lines. -/
def idleFile : FileContent := .ok (Utf8.ofString (textOf idleLines))

/-- A sampler that remembers one counter. -/
def remembering : Sampler := ⟨⟨1000, 50⟩, "a", some ([("pgfault", 7)], 0), .zero, false⟩

/-- Two counters come back from among such lines, the largest number in a last line that no line feed ends.
The file without them gives a fault, so a sampler that reads it keeps the counter it remembers. -/
theorem counters_of_last_lines_mixed :
    parse (textOf (idleLines ++ ["pswpin 0".toList] ++ idleLines ++
        ["pgfault 18446744073709551615".toList])) =
      [("pgfault", 18446744073709551615), ("pswpin", 0)] ∧
    readVmstat "/proc" idleFile = .error (.noCounters "/proc/vmstat") ∧
    (remembering.after (fun _ => default) 1000
      [⟨0, .ready .zero, .ready .zero, ⟨some 5, readVmstat "/proc" idleFile⟩⟩]).previous =
        some ([("pgfault", 7)], 0) := by
  obtain ⟨-, -, hperm, hread, hsampler⟩ := counters_of_last_lines
  have hidle : ∀ line ∈ idleLines, '\n' ∉ line ∧ Idle line := by
    have hnone : ∀ line ∈ idleLines, '\n' ∉ line ∧ lineEntry? line = none := by decide
    exact fun line hline => ⟨(hnone line hline).1, lineEntry?_eq_none.mp (hnone line hline).2⟩
  have hnames : ∀ entry ∈ [("pgfault", (18446744073709551615 : UInt64)), ("pswpin", 0)],
      Text.IsWord entry.1.toList := by decide
  have hfault : readVmstat "/proc" idleFile = .error (.noCounters "/proc/vmstat") := by
    rw [(hread (textOf idleLines)).2 "/proc" idleFile (hread _).1]
    exact if_pos (by decide)
  refine ⟨hperm _ (by decide) hnames (idleLines ++ idleLines) _ ?_ (by decide), hfault, ?_⟩
  · exact fun line hline => hidle line (or_self_iff.mp (List.mem_append.mp hline))
  · rcases hsampler remembering (fun _ => default) 1000
        [⟨0, .ready .zero, .ready .zero, ⟨some 5, readVmstat "/proc" idleFile⟩⟩]
        (List.forall_mem_singleton.mpr ⟨"/proc", idleFile, rfl⟩) with hkept | hread
    · exact hkept
    · obtain ⟨t, ht, counters, -, -, hok, -⟩ := hread
      obtain rfl := List.mem_singleton.mp ht
      cases hfault.symm.trans hok

end Vmstat

end NodeTelemetry
