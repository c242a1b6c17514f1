import NodeTelemetry.Proofs.Collector.Settings
import NodeTelemetry.Proofs.Keyed

/-!
# What an environment makes of the configuration

Each part of the configuration has one option that sets it. Setting an option reads its value for the
part of this name and leaves the other parts alone (`set_eq_ok`), and since no option is there twice, a
run over all of them leaves in each part what its own option is read as, or what was there before
(`Part.foldlM`).

From this it follows what a configuration can be (`sound_of_ofEnvironment`): whatever the texts of the
variables are, its numbers are within their bounds, and the two ports differ.
-/

namespace NodeTelemetry.Collector

open Text

/-! ### The parts of a configuration -/

/-- The parts that are natural numbers. -/
inductive Quantity where
  /-- The port of the query surface. -/
  | queryPort
  /-- The port of the ingest surface. -/
  | ingestPort
  /-- The time between samples. -/
  | intervalMs
  /-- How many entries each history keeps. -/
  | capacity
  deriving DecidableEq, Repr

/-- The parts that are texts. -/
inductive Wording where
  /-- The name of the node. -/
  | nodeName
  /-- The directory with the kernel's tables. -/
  | root
  deriving DecidableEq, Repr

namespace Quantity

/-- The option that sets it. -/
def key : Quantity → String
  | queryPort => "query_port"
  | ingestPort => "ingest_port"
  | intervalMs => "sample_interval_ms"
  | capacity => "history_capacity"

/-- The variable that sets the option. -/
def name : Quantity → String
  | queryPort => "COLLECTOR_QUERY_PORT"
  | ingestPort => "COLLECTOR_INGEST_PORT"
  | intervalMs => "COLLECTOR_SAMPLE_INTERVAL_MS"
  | capacity => "COLLECTOR_HISTORY_CAPACITY"

/-- The least number that is accepted. -/
def least : Quantity → Nat
  | queryPort | ingestPort => 0
  | intervalMs | capacity => 1

/-- The largest number that there is room for. -/
def limit : Quantity → Nat
  | queryPort | ingestPort => Setting.maxPort
  | intervalMs | capacity => maxWord

/-- The number without an option. -/
def standard : Quantity → Nat
  | queryPort => 3100
  | ingestPort => 3101
  | intervalMs => 1000
  | capacity => 900

/-- The number of a configuration. -/
def of (c : Config) : Quantity → Nat
  | queryPort => c.queryPort
  | ingestPort => c.ingestPort
  | intervalMs => c.intervalMs
  | capacity => c.capacity

/-- The configuration with another number. -/
def write (c : Config) (n : Nat) : Quantity → Config
  | queryPort => { c with queryPort := n }
  | ingestPort => { c with ingestPort := n }
  | intervalMs => { c with intervalMs := n }
  | capacity => { c with capacity := n }

/-- What the value of an option is read as. -/
def read (v : Setting) : Quantity → Except ConfigError Nat
  | queryPort => v.toPort queryPort.key
  | ingestPort => v.toPort ingestPort.key
  | intervalMs => v.toNatural intervalMs.key
  | capacity => v.toNatural capacity.key

end Quantity

namespace Wording

/-- The option that sets it. -/
def key : Wording → String
  | nodeName => "node_name"
  | root => "proc_root"

/-- The variable that sets the option. -/
def name : Wording → String
  | nodeName => "COLLECTOR_NODE_NAME"
  | root => "COLLECTOR_PROC_ROOT"

/-- The text without an option. -/
def standard (env : Environment) : Wording → String
  | nodeName => (env.value? "NODE_NAME").getD "unknown"
  | root => "/proc"

/-- The text of a configuration. -/
def of (c : Config) : Wording → String
  | nodeName => c.nodeName
  | root => c.root

/-- The configuration with another text. -/
def write (c : Config) (s : String) : Wording → Config
  | nodeName => { c with nodeName := s }
  | root => { c with root := s }

end Wording

variable {c c' : Config} {k : String} {v : Setting}

/-! ### Setting one option -/

theorem bind_pure_eq_map {α β ε : Type} (r : Except ε α) (f : α → β) :
    (r >>= fun a => pure (f a)) = r.map f := by
  cases r <;> rfl

theorem set_quantity (c : Config) (q : Quantity) (v : Setting) :
    c.set q.key v = (q.read v).map (q.write c ·) := by
  cases q <;> exact bind_pure_eq_map _ _

theorem set_wording (c : Config) (w : Wording) (v : Setting) :
    c.set w.key v = (v.toText w.key).map (w.write c ·) := by
  cases w <;> exact bind_pure_eq_map _ _

/-- Options of other names do not count. -/
theorem set_other (c : Config) (v : Setting) (hq : ∀ q : Quantity, k ≠ q.key)
    (hw : ∀ w : Wording, k ≠ w.key) : c.set k v = .ok c := by
  unfold Config.set
  split
  · exact absurd rfl (hw .nodeName)
  · exact absurd rfl (hq .queryPort)
  · exact absurd rfl (hq .ingestPort)
  · exact absurd rfl (hq .intervalMs)
  · exact absurd rfl (hq .capacity)
  · exact absurd rfl (hw .root)
  · rfl

/-- An option is that of a number, that of a text, or none. -/
theorem option_cases (k : String) :
    (∃ q : Quantity, k = q.key) ∨ (∃ w : Wording, k = w.key) ∨
      (∀ q : Quantity, k ≠ q.key) ∧ ∀ w : Wording, k ≠ w.key := by
  by_cases hq : ∃ q : Quantity, k = q.key
  · exact .inl hq
  by_cases hw : ∃ w : Wording, k = w.key
  · exact .inr (.inl hw)
  · exact .inr (.inr ⟨not_exists.mp hq, not_exists.mp hw⟩)

theorem map_eq_ok {α β ε : Type} {r : Except ε α} {f : α → β} {b : β} (h : r.map f = .ok b) :
    ∃ a, r = .ok a ∧ f a = b := by
  cases r with
  | error e => cases h
  | ok a => exact ⟨a, rfl, Except.ok.inj h⟩

/-- **What setting an option does.** It reads the value for the part of this name and changes no other
part. -/
theorem set_eq_ok (h : c.set k v = .ok c') :
    (∃ q : Quantity, ∃ n, k = q.key ∧ q.read v = .ok n ∧ c' = q.write c n) ∨
    (∃ w : Wording, ∃ s, k = w.key ∧ v.toText w.key = .ok s ∧ c' = w.write c s) ∨
    (∀ q : Quantity, k ≠ q.key) ∧ (∀ w : Wording, k ≠ w.key) ∧ c' = c := by
  rcases option_cases k with ⟨q, rfl⟩ | ⟨w, rfl⟩ | ⟨hq, hw⟩
  · rw [set_quantity] at h
    obtain ⟨n, hread, rfl⟩ := map_eq_ok h
    exact .inl ⟨q, n, rfl, hread, rfl⟩
  · rw [set_wording] at h
    obtain ⟨s, hread, rfl⟩ := map_eq_ok h
    exact .inr (.inl ⟨w, s, rfl, hread, rfl⟩)
  · rw [set_other c v hq hw] at h
    cases h
    exact .inr (.inr ⟨hq, hw, rfl⟩)

/-! ### A run over all options -/

/-- A part of the configuration with its option: setting the option reads a value for the part, and
setting any other leaves it alone. -/
structure Part (α : Type) where
  /-- The option. -/
  key : String
  /-- What its value is read as. -/
  read : Setting → Except ConfigError α
  /-- The part. -/
  of : Config → α
  /-- The law of its option and of the others. -/
  set : ∀ {c c' : Config} {k : String} {v : Setting}, c.set k v = .ok c' →
    if k = key then read v = .ok (of c') else of c' = of c

/-- **A run leaves in a part what its option is read as**, and what was there without one. -/
theorem Part.foldlM {α : Type} (p : Part α) {options : Keyed Setting} (hsorted : options.Sorted)
    (h : options.foldlM (fun c o => c.set o.1 o.2) c = .ok c') :
    match options.find? p.key with
    | some v => p.read v = .ok (p.of c')
    | none => p.of c' = p.of c := by
  induction options generalizing c with
  | nil =>
    cases h
    rfl
  | cons o options ih =>
    obtain ⟨k, v⟩ := o
    obtain ⟨hlt, hrest⟩ := List.pairwise_cons.mp hsorted
    rw [List.foldlM_cons] at h
    cases hset : c.set k v with
    | error e =>
      rw [hset] at h
      cases h
    | ok next =>
      rw [hset] at h
      have hstep := p.set hset
      have hrun := ih hrest h
      rw [Keyed.find?_cons]
      by_cases hk : p.key = k
      · -- the names ascend, so none of the rest is this one
        have hnone : Keyed.find? p.key options = none :=
          Keyed.find?_eq_none_of_lt (hk ▸ hlt)
        rw [hnone] at hrun
        rw [if_pos hk.symm] at hstep
        rw [if_pos hk]
        simp only at hrun ⊢
        rw [hrun]
        exact hstep
      · rw [if_neg (Ne.symm hk)] at hstep
        rw [if_neg hk, ← hstep]
        exact hrun

theorem Quantity.key_inj {q q' : Quantity} (h : q.key = q'.key) : q = q' := by
  cases q <;> cases q' <;> first | rfl | exact absurd h (by decide)

theorem Quantity.key_ne_wording (q : Quantity) (w : Wording) : q.key ≠ w.key := by
  cases q <;> cases w <;> decide

theorem Wording.key_inj {w w' : Wording} (h : w.key = w'.key) : w = w' := by
  cases w <;> cases w' <;> first | rfl | exact absurd h (by decide)

/-- A number as a part. -/
def Quantity.part (q : Quantity) : Part Nat where
  key := q.key
  read := q.read
  of := q.of
  set := by
    intro c c' k v h
    rcases set_eq_ok h with ⟨q', n, rfl, hread, rfl⟩ | ⟨w, s, rfl, -, rfl⟩ | ⟨hq, -, rfl⟩
    · by_cases hqq : q' = q
      · rw [if_pos (congrArg key hqq), ← hqq, hread]
        cases q' <;> rfl
      · rw [if_neg (mt key_inj hqq)]
        cases q' <;> cases q <;> first | rfl | exact absurd rfl hqq
    · rw [if_neg (key_ne_wording q w).symm]
      cases w <;> cases q <;> rfl
    · rw [if_neg (hq q)]

/-- A text as a part. -/
def Wording.part (w : Wording) : Part String where
  key := w.key
  read := fun v => v.toText w.key
  of := w.of
  set := by
    intro c c' k v h
    rcases set_eq_ok h with ⟨q, n, rfl, -, rfl⟩ | ⟨w', s, rfl, hread, rfl⟩ | ⟨-, hw, rfl⟩
    · rw [if_neg (q.key_ne_wording w)]
      cases w <;> cases q <;> rfl
    · by_cases hww : w' = w
      · rw [if_pos (congrArg key hww), ← hww, hread]
        cases w' <;> rfl
      · rw [if_neg (mt key_inj hww)]
        cases w' <;> cases w <;> first | rfl | exact absurd rfl hww
    · rw [if_neg (hw w)]

/-- Options that can be read give a configuration. -/
theorem foldlM_total {options : Keyed Setting}
    (hq : ∀ o ∈ options, ∀ q : Quantity, o.1 = q.key → ∃ n, q.read o.2 = .ok n)
    (hw : ∀ o ∈ options, ∀ w : Wording, o.1 = w.key → ∃ s, o.2.toText w.key = .ok s) (c : Config) :
    ∃ c', options.foldlM (fun c o => c.set o.1 o.2) c = .ok c' := by
  induction options generalizing c with
  | nil => exact ⟨c, rfl⟩
  | cons o options ih =>
    obtain ⟨next, hnext⟩ : ∃ next, c.set o.1 o.2 = .ok next := by
      rcases option_cases o.1 with ⟨q, hkey⟩ | ⟨w, hkey⟩ | ⟨hq', hw'⟩
      · obtain ⟨n, hn⟩ := hq o List.mem_cons_self q hkey
        exact ⟨_, by rw [hkey, set_quantity, hn]; rfl⟩
      · obtain ⟨s, hs⟩ := hw o List.mem_cons_self w hkey
        exact ⟨_, by rw [hkey, set_wording, hs]; rfl⟩
      · exact ⟨c, set_other c o.2 hq' hw'⟩
    obtain ⟨c', hc'⟩ := ih (fun o ho => hq o (List.mem_cons_of_mem _ ho))
      (fun o ho => hw o (List.mem_cons_of_mem _ ho)) next
    refine ⟨c', ?_⟩
    rw [List.foldlM_cons, hnext]
    exact hc'

/-! ### What the numbers of a configuration can be -/

/-- A configuration whose numbers are within their bounds and whose surfaces have ports of their own. -/
structure Config.Sound (c : Config) : Prop where
  /-- Each number is accepted. -/
  bounds : ∀ q : Quantity, q.least ≤ q.of c ∧ q.of c ≤ q.limit
  /-- The ports differ unless the system chooses the first. -/
  apart : c.queryPort = 0 ∨ c.queryPort ≠ c.ingestPort

/-- What a check lets pass. -/
theorem check_eq_ok : c.check = .ok c' ↔
    c' = c ∧ (∀ q : Quantity, q.least ≤ q.of c) ∧ (c.queryPort = 0 ∨ c.queryPort ≠ c.ingestPort) := by
  have hleast : (∀ q : Quantity, q.least ≤ q.of c) ↔ c.intervalMs ≠ 0 ∧ c.capacity ≠ 0 := by
    constructor
    · intro h
      exact ⟨Nat.one_le_iff_ne_zero.mp (h .intervalMs), Nat.one_le_iff_ne_zero.mp (h .capacity)⟩
    · rintro ⟨hinterval, hcapacity⟩ q
      cases q
      · exact Nat.zero_le _
      · exact Nat.zero_le _
      · exact Nat.one_le_iff_ne_zero.mpr hinterval
      · exact Nat.one_le_iff_ne_zero.mpr hcapacity
  rw [hleast]
  unfold Config.check
  split_ifs with hinterval hcapacity hsame
  · exact iff_of_false nofun fun h => h.2.1.1 hinterval
  · exact iff_of_false nofun fun h => h.2.1.2 hcapacity
  · exact iff_of_false nofun fun h => h.2.2.elim hsame.1 fun hne => hne hsame.2
  · rw [Except.ok.injEq, eq_comm]
    have happart : c.queryPort = 0 ∨ c.queryPort ≠ c.ingestPort := by
      by_contra h
      obtain ⟨hzero, hne⟩ := not_or.mp h
      exact hsame ⟨hzero, not_not.mp hne⟩
    exact (and_iff_left ⟨⟨hinterval, hcapacity⟩, happart⟩).symm

theorem ofEnvironment_eq_ok {env : Environment} : Config.ofEnvironment env = .ok c ↔
    (Config.options env).foldlM (fun c o => c.set o.1 o.2) (Config.default env) = .ok c ∧
      (∀ q : Quantity, q.least ≤ q.of c) ∧ (c.queryPort = 0 ∨ c.queryPort ≠ c.ingestPort) := by
  unfold Config.ofEnvironment
  cases hrun : (Config.options env).foldlM (fun c o => c.set o.1 o.2) (Config.default env) with
  | error e => exact iff_of_false nofun fun h => nomatch h.1
  | ok next =>
    show next.check = .ok c ↔ _
    rw [check_eq_ok, Except.ok.injEq, eq_comm (a := c)]
    constructor
    · rintro ⟨rfl, h⟩
      exact ⟨rfl, h⟩
    · rintro ⟨rfl, h⟩
      exact ⟨rfl, h⟩

/-- **What stands in a part of a configuration.** -/
theorem Part.of_ofEnvironment {α : Type} (p : Part α) {env : Environment}
    (h : Config.ofEnvironment env = .ok c) :
    match (Config.options env).find? p.key with
    | some v => p.read v = .ok (p.of c)
    | none => p.of c = p.of (Config.default env) :=
  p.foldlM (Keyed.sorted_ofList _) (ofEnvironment_eq_ok.mp h).1

theorem toPort_eq_ok {key : String} {n : Nat} :
    v.toPort key = .ok n ↔ v.toNatural key = .ok n ∧ n ≤ Setting.maxPort := by
  unfold Setting.toPort
  cases v.toNatural key with
  | error e => exact iff_of_false nofun fun h => nomatch h.1
  | ok m =>
    show (if Setting.maxPort < m then _ else _) = _ ↔ _
    split_ifs with hlarge
    · refine iff_of_false nofun ?_
      rintro ⟨hm, hn⟩
      cases hm
      omega
    · constructor
      · intro h
        cases h
        exact ⟨rfl, Nat.le_of_not_lt hlarge⟩
      · exact And.left

/-- A text is read as a number that there is room for. -/
theorem read_ofText {q : Quantity} {s : String} {n : Nat} :
    q.read (.ofText s) = .ok n ↔ (Setting.ofText s).toNatural q.key = .ok n ∧ n ≤ q.limit := by
  cases q with
  | queryPort | ingestPort => exact toPort_eq_ok
  | intervalMs | capacity => exact (and_iff_left_of_imp toNatural_le).symm

/-- The value that a variable gives is its text, or has steps to it. -/
theorem value_of_entry {name s : String} (h : Config.entry? name s = some (k, v)) :
    v = .ofText s ∨ ∃ step : Config.Step, v = step.reach := by
  unfold Config.entry? at h
  cases hstart : Config.afterStart? name with
  | none =>
    rw [hstart] at h
    cases h
  | some cs =>
    rw [hstart] at h
    simp only [Option.bind_eq_bind, Option.bind_some] at h
    split at h
    · rename_i step _ _
      split_ifs at h
      · cases h
        exact .inl rfl
      · cases h
        exact .inr ⟨step, rfl⟩
    · cases h
      exact .inl rfl

theorem setting_of_options {env : Environment} (h : (Config.options env).find? k = some v) :
    ∃ w ∈ env, Config.entry? w.1 w.2 = some (k, v) := by
  obtain ⟨w, hw, hentry⟩ := List.mem_filterMap.mp (Keyed.mem_of_mem_ofList (Keyed.mem_of_find? h))
  exact ⟨w, hw, hentry⟩

/-- **Whatever the variables hold, a configuration is sound.** -/
theorem sound_of_ofEnvironment {env : Environment} (h : Config.ofEnvironment env = .ok c) :
    c.Sound := by
  obtain ⟨-, hleast, hapart⟩ := ofEnvironment_eq_ok.mp h
  refine ⟨fun q => ⟨hleast q, ?_⟩, hapart⟩
  have hpart := q.part.of_ofEnvironment h
  cases hfind : (Config.options env).find? q.key with
  | none =>
    rw [show q.part.key = q.key from rfl, hfind] at hpart
    have hstandard : q.of c = q.standard := hpart.trans (by cases q <;> rfl)
    rw [hstandard]
    cases q <;> decide
  | some v =>
    rw [show q.part.key = q.key from rfl, hfind] at hpart
    have hread : q.read v = .ok (q.of c) := hpart
    obtain ⟨w, -, hentry⟩ := setting_of_options hfind
    rcases value_of_entry hentry with rfl | ⟨step, rfl⟩
    · exact (read_ofText.mp hread).2
    · cases step <;> cases q <;> cases hread

end NodeTelemetry.Collector
