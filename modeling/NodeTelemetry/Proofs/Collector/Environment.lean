import NodeTelemetry.Proofs.Collector.Options

/-!
# Environments that write numbers

A variable of a known name sets one option, and its text is the value (`Known.sets`). So where the
variables of the numbers hold digits, the options are read as the numbers that the digits write, and if
these are accepted there is a configuration with them (`ofEnvironment_of_writes`). Together with what a
configuration can be at all, this says what an environment configures (`ofEnvironment_spec`).
-/

namespace NodeTelemetry.Collector

open Text

variable {k : String} {v : Setting}

/-! ### Environments that write numbers -/

/-- A name of a variable that sets a part of the configuration, or one that sets no option, such as
`NODE_NAME`. -/
def Known (name : String) : Prop :=
  (∃ q : Quantity, name = q.name) ∨ (∃ w : Wording, name = w.name) ∨ Config.afterStart? name = none

/-- What an environment writes for a variable: nothing, or the digits of a number. -/
def Environment.Writes (env : Environment) (name : String) : Option Nat → Prop
  | none => ∀ v ∈ env, v.1 ≠ name
  | some n => (∃ v ∈ env, v.1 = name) ∧
      ∀ v ∈ env, v.1 = name → v.2.toList ≠ [] ∧ AllDigits v.2.toList ∧ ofDigits v.2.toList = n

instance (env : Environment) (name : String) : (n? : Option Nat) → Decidable (env.Writes name n?)
  | none => inferInstanceAs (Decidable (∀ v ∈ env, v.1 ≠ name))
  | some n => inferInstanceAs (Decidable ((∃ v ∈ env, v.1 = name) ∧
      ∀ v ∈ env, v.1 = name → v.2.toList ≠ [] ∧ AllDigits v.2.toList ∧ ofDigits v.2.toList = n))

/-- The number that was given, or the one without an option. -/
def Quantity.orStandard (given : Quantity → Option Nat) (q : Quantity) : Nat :=
  (given q).getD q.standard

theorem entry?_quantity (q : Quantity) (s : String) :
    Config.entry? q.name s = some (q.key, .ofText s) := by
  cases q <;> rfl

theorem entry?_wording (w : Wording) (s : String) :
    Config.entry? w.name s = some (w.key, .ofText s) := by
  cases w <;> rfl

/-- A variable of a known name sets the option of this name. -/
theorem Known.sets {name s : String} (h : Known name) (hentry : Config.entry? name s = some (k, v)) :
    v = .ofText s ∧
      ((∃ q : Quantity, name = q.name ∧ k = q.key) ∨ ∃ w : Wording, name = w.name ∧ k = w.key) := by
  rcases h with ⟨q, rfl⟩ | ⟨w, rfl⟩ | hnone
  · rw [entry?_quantity] at hentry
    cases hentry
    exact ⟨rfl, .inl ⟨q, rfl, rfl⟩⟩
  · rw [entry?_wording] at hentry
    cases hentry
    exact ⟨rfl, .inr ⟨w, rfl, rfl⟩⟩
  · unfold Config.entry? at hentry
    rw [hnone] at hentry
    cases hentry

/-- **Digits are read as their number.** -/
theorem toNatural_digits {key s : String} (hne : s.toList ≠ []) (h : AllDigits s.toList)
    (hsmall : ofDigits s.toList < 2 ^ 63) :
    (Setting.ofText s).toNatural key = .ok (ofDigits s.toList) := by
  have hsign : behindSign s.toList = (false, s.toList) := by
    obtain ⟨c, rest, hs, hc⟩ := head_of_allDigits hne h
    rw [hs]
    have hminus : c ≠ '-' := by
      rintro rfl
      cases hc
    have hplus : c ≠ '+' := by
      rintro rfl
      cases hc
    simp [behindSign, hminus, hplus]
  have hwrites : WritesInteger s.toList (ofDigits s.toList) := by
    unfold WritesInteger
    rw [hsign]
    exact ⟨hne, h, rfl⟩
  have hshort : Short (ofDigits s.toList) := by
    unfold Short maxInteger
    omega
  have hnonneg : ¬(ofDigits s.toList : Int) < 0 := by omega
  rw [ofText_eq hwrites, if_pos hshort, Setting.toNatural, if_neg hnonneg, Int.toNat_natCast]

section

variable {env : Environment} {given : Quantity → Option Nat} (hknown : ∀ v ∈ env, Known v.1)

include hknown

/-- The value of an option of a known environment, by the variable that gives it. -/
theorem value_of_known (h : (Config.options env).find? k = some v) :
    ∃ w ∈ env, v = .ofText w.2 ∧
      ((∃ q : Quantity, w.1 = q.name ∧ k = q.key) ∨ ∃ t : Wording, w.1 = t.name ∧ k = t.key) := by
  obtain ⟨w, hw, hentry⟩ := setting_of_options h
  exact ⟨w, hw, (hknown w hw).sets hentry⟩

/-- An option whose variable is not there has no value. -/
theorem find?_options_eq_none {name : String} (h : ∀ v ∈ env, v.1 ≠ name)
    (hq : ∀ q : Quantity, k = q.key → q.name = name)
    (hw : ∀ t : Wording, k = t.key → t.name = name) : (Config.options env).find? k = none := by
  cases hfind : (Config.options env).find? k with
  | none => rfl
  | some v =>
    obtain ⟨w, hw', -, ⟨q, hname, hkey⟩ | ⟨t, hname, hkey⟩⟩ := value_of_known hknown hfind
    · exact absurd (hname.trans (hq q hkey)) (h w hw')
    · exact absurd (hname.trans (hw t hkey)) (h w hw')

/-- **What the option of a number is in an environment that writes it.** -/
theorem read_of_writes {q : Quantity} (hwrites : env.Writes q.name (given q)) :
    match given q with
    | none => (Config.options env).find? q.key = none
    | some n => n < 2 ^ 63 → n ≤ q.limit →
        ∃ v, (Config.options env).find? q.key = some v ∧ q.read v = .ok n := by
  cases hgiven : given q with
  | none =>
    rw [hgiven] at hwrites
    exact find?_options_eq_none hknown hwrites (fun q' h => by rw [Quantity.key_inj h])
      fun t h => absurd h (q.key_ne_wording t)
  | some n =>
    rw [hgiven] at hwrites
    obtain ⟨⟨⟨name, s⟩, hmem, hname⟩, hall⟩ := hwrites
    intro hsmall hlimit
    have hpair : (q.key, Setting.ofText s) ∈ env.filterMap fun v => Config.entry? v.1 v.2 :=
      List.mem_filterMap.mpr ⟨_, hmem, hname ▸ entry?_quantity q s⟩
    obtain ⟨v, hfind, -⟩ := Keyed.find?_ofList_of_mem hpair
    obtain ⟨w, hw, hv, hwhich⟩ := value_of_known hknown hfind
    have hwname : w.1 = q.name := by
      rcases hwhich with ⟨q', hname', hkey⟩ | ⟨t, -, hkey⟩
      · rw [hname', Quantity.key_inj hkey]
      · exact absurd hkey (q.key_ne_wording t)
    obtain ⟨hne, hdigits, hn⟩ := hall w hw hwname
    refine ⟨v, hfind, ?_⟩
    rw [hv, read_ofText, toNatural_digits hne hdigits (hn ▸ hsmall), hn]
    exact ⟨rfl, hlimit⟩

/-- **Numbers that are accepted are taken as they are written.** -/
theorem ofEnvironment_of_writes (hwrites : ∀ q : Quantity, env.Writes q.name (given q))
    (hbounds : ∀ q n, given q = some n → q.least ≤ n ∧ n ≤ q.limit ∧ n < 2 ^ 63)
    (hports : Quantity.queryPort.orStandard given = 0 ∨
      Quantity.queryPort.orStandard given ≠ Quantity.ingestPort.orStandard given) :
    ∃ c, Config.ofEnvironment env = .ok c ∧ (∀ q : Quantity, q.of c = q.orStandard given) ∧
      ∀ t : Wording, (∀ v ∈ env, v.1 ≠ t.name) → t.of c = t.standard env := by
  have hsorted : (Config.options env).Sorted := Keyed.sorted_ofList _
  obtain ⟨c, hrun⟩ : ∃ c, (Config.options env).foldlM (fun c o => c.set o.1 o.2)
      (Config.default env) = .ok c := foldlM_total
    (by
      rintro ⟨k, v⟩ ho q rfl
      have hfind := hsorted.find?_of_mem ho
      have hread := read_of_writes hknown (hwrites q)
      cases hgiven : given q with
      | none =>
        rw [hgiven] at hread
        rw [hread] at hfind
        cases hfind
      | some n =>
        rw [hgiven] at hread
        obtain ⟨-, hlimit, hsmall⟩ := hbounds q n hgiven
        obtain ⟨v', hfind', hn⟩ := hread hsmall hlimit
        rw [hfind] at hfind'
        cases hfind'
        exact ⟨n, hn⟩)
    (by
      rintro ⟨k, v⟩ ho t -
      obtain ⟨w, -, hv, -⟩ := value_of_known hknown (hsorted.find?_of_mem ho)
      dsimp only
      rw [hv]
      exact toText_ofText _ _)
    _
  have hnumbers : ∀ q : Quantity, q.of c = q.orStandard given := by
    intro q
    have hread := read_of_writes hknown (hwrites q)
    have hpart := q.part.foldlM hsorted hrun
    rw [show q.part.key = q.key from rfl] at hpart
    unfold Quantity.orStandard
    cases hgiven : given q with
    | none =>
      rw [hgiven] at hread
      rw [show (Config.options env).find? q.key = none from hread] at hpart
      exact hpart.trans (by cases q <;> rfl)
    | some n =>
      rw [hgiven] at hread
      obtain ⟨-, hlimit, hsmall⟩ := hbounds q n hgiven
      obtain ⟨v, hfind, hn⟩ := hread hsmall hlimit
      rw [hfind] at hpart
      exact Except.ok.inj (Eq.trans (Eq.symm hpart) hn)
  refine ⟨c, ofEnvironment_eq_ok.mpr ⟨hrun, fun q => ?_, ?_⟩, hnumbers, fun t ht => ?_⟩
  · rw [hnumbers, Quantity.orStandard]
    cases hgiven : given q with
    | none => cases q <;> decide
    | some n => exact (hbounds q n hgiven).1
  · have hquery := hnumbers .queryPort
    have hingest := hnumbers .ingestPort
    rw [← hquery, ← hingest] at hports
    exact hports
  · have hfind := find?_options_eq_none hknown ht
      (fun q h => absurd h.symm (q.key_ne_wording t)) (fun t' h => by rw [Wording.key_inj h])
    have hpart := t.part.foldlM hsorted hrun
    rw [show t.part.key = t.key from rfl, hfind] at hpart
    exact hpart.trans (by cases t <;> rfl)

end

/-- **What the collector is configured with.** Whatever an environment holds, a configuration that comes
out of it is sound. Where an environment writes acceptable numbers, or none, there is a configuration, and
it has these numbers and the standard ones else; of the texts those that are not set are the standard ones
as well. -/
theorem ofEnvironment_spec :
    (∀ (env : Environment) (c : Config), Config.ofEnvironment env = .ok c → c.Sound) ∧
    ∀ (env : Environment) (given : Quantity → Option Nat), (∀ v ∈ env, Known v.1) →
      (∀ q : Quantity, env.Writes q.name (given q)) →
      (∀ q n, given q = some n → q.least ≤ n ∧ n ≤ q.limit ∧ n < 2 ^ 63) →
      (Quantity.queryPort.orStandard given = 0 ∨
        Quantity.queryPort.orStandard given ≠ Quantity.ingestPort.orStandard given) →
      ∃ c, Config.ofEnvironment env = .ok c ∧ (∀ q : Quantity, q.of c = q.orStandard given) ∧
        ∀ t : Wording, (∀ v ∈ env, v.1 ≠ t.name) → t.of c = t.standard env :=
  ⟨fun _ _ => sound_of_ofEnvironment, fun _ _ hknown hwrites hbounds hports =>
    ofEnvironment_of_writes hknown hwrites hbounds hports⟩

/-- A port with a zero in front, a directory that looks like a number, and the name of the node. -/
theorem ofEnvironment_spec_zero_in_front :
    (∃ c, Config.ofEnvironment [("COLLECTOR_QUERY_PORT", "0080"), ("COLLECTOR_PROC_ROOT", "1e3"),
        ("NODE_NAME", "n1")] = .ok c ∧
      (∀ q : Quantity, q.of c = q.orStandard fun q => if q = .queryPort then some 80 else none) ∧
      ∀ t : Wording, (∀ v ∈ [("COLLECTOR_QUERY_PORT", "0080"), ("COLLECTOR_PROC_ROOT", "1e3"),
        ("NODE_NAME", "n1")], v.1 ≠ t.name) → t.of c =
          t.standard [("COLLECTOR_QUERY_PORT", "0080"), ("COLLECTOR_PROC_ROOT", "1e3"),
            ("NODE_NAME", "n1")]) ∧
    Config.Sound ⟨"n1", 80, 3101, 1000, 900, "1000"⟩ := by
  refine ⟨ofEnvironment_spec.2 _ _ ?_ ?_ ?_ (by decide), ofEnvironment_spec.1
    [("COLLECTOR_QUERY_PORT", "0080"), ("COLLECTOR_PROC_ROOT", "1e3"), ("NODE_NAME", "n1")] _
    (by decide +kernel)⟩
  · intro v hv
    simp only [List.mem_cons, List.not_mem_nil, or_false] at hv
    rcases hv with rfl | rfl | rfl
    · exact .inl ⟨.queryPort, rfl⟩
    · exact .inr (.inl ⟨.root, rfl⟩)
    · exact .inr (.inr rfl)
  · intro q
    cases q <;> decide +kernel
  · intro q n h
    cases q <;> cases h
    decide

end NodeTelemetry.Collector
