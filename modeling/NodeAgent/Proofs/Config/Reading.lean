import NodeAgent.Proofs.Result
import NodeAgent.Proofs.Text.Sorted
import NodeAgent.Startup.Basic

/-!
# What reading a configuration keeps

A configuration is read field by field, from a start on, whatever fields are given and in which order.
What no field breaks holds of each configuration that is read: its tools are a table.

## Main definitions

* `Datum.Keeps`: a field that breaks nothing of a property.

## Main results

* `Datum.record?_induction`: what no field breaks holds of a record that is read.
* `Startup.isTable_toolLocations`: the tools of a configuration file are a table.
-/

namespace NodeAgent

open Text

/-! ## Records -/

namespace Datum

variable {α : Type} {P : α → Prop} {fields : List (Field α)} {record read : α}

/-- **A field keeps a property** when it is read into a record. -/
def Keeps (field : Field α) (P : α → Prop) : Prop :=
  ∀ d record changed, field.2 d record = some changed → P record → P changed

/-- A field keeps what no value of it breaks. -/
theorem Keeps.set {β : Type} {name : String} {value? : Datum → Option β} {change : α → β → α}
    (h : ∀ d x, value? d = some x → ∀ record, P record → P (change record x)) :
    Keeps (Field.set name value? change) P := by
  intro d record changed hread hrecord
  obtain ⟨x, hx, rfl⟩ := Option.map_eq_some_iff.mp hread
  exact h d x hx record hrecord

theorem readEntries_induction (hkeeps : ∀ field ∈ fields, Keeps field P)
    {entries : List (String × Datum)} (h : readEntries fields entries record = some read)
    (hrecord : P record) : P read := by
  induction entries generalizing record with
  | nil =>
    obtain rfl := Option.some.inj h
    exact hrecord
  | cons entry entries ih =>
    obtain ⟨name, d⟩ := entry
    unfold readEntries at h
    split at h
    · exact ih h hrecord
    · next change hfield =>
      obtain ⟨changed, hchanged, h⟩ := Option.bind_eq_some_iff.mp h
      have hmem : (name, change) ∈ fields := by
        obtain ⟨before, after, rfl, -⟩ := List.lookup_eq_some_iff.mp hfield
        simp
      exact ih h (hkeeps _ hmem d record changed hchanged hrecord)

theorem readItems_induction {format : DataFormat} (hkeeps : ∀ field ∈ fields, Keeps field P)
    {items : List Datum} (h : readItems format fields items record = some read)
    (hrecord : P record) : P read := by
  induction fields generalizing items record with
  | nil =>
    cases items with
    | nil =>
      obtain rfl := Option.some.inj h
      exact hrecord
    | cons d items =>
      -- Items that are too many do not count, or spoil the record.
      cases format with
      | json => cases h
      | toml =>
        obtain rfl := Option.some.inj h
        exact hrecord
  | cons field fields ih =>
    obtain ⟨hfield, hfields⟩ := List.forall_mem_cons.mp hkeeps
    cases items with
    | nil =>
      obtain rfl := Option.some.inj h
      exact hrecord
    | cons d items =>
      obtain ⟨changed, hchanged, h⟩ := Option.bind_eq_some_iff.mp h
      exact ih hfields h (hfield d record changed hchanged hrecord)

/-- **What no field breaks** holds of a record that is read, if it holds at the start. -/
theorem record?_induction {format : DataFormat} (hkeeps : ∀ field ∈ fields, Keeps field P) {d : Datum}
    (h : d.record? format fields record = some read) (hrecord : P record) : P read := by
  unfold record? at h
  split at h
  · exact readItems_induction hkeeps h hrecord
  · obtain ⟨entries, -, h⟩ := Option.bind_eq_some_iff.mp h
    exact readEntries_induction hkeeps h hrecord

theorem isTable_of_textTable? {d : Datum} {table : List (String × String)}
    (h : d.textTable? = some table) : IsTable table := by
  obtain ⟨entries, -, h⟩ := Option.bind_eq_some_iff.mp h
  obtain ⟨read, -, h⟩ := Option.bind_eq_some_iff.mp h
  obtain rfl := Option.some.inj h
  exact isTable_sortedTable read

end Datum

/-! ## Configurations -/

section Tools

variable {c : NodeConfig}

/-- No field spoils the table of tools. -/
theorem NodeConfig.keeps_isTable (format : DataFormat) :
    ∀ field ∈ fields format, Datum.Keeps field fun c => IsTable c.toolLocations := by
  unfold fields
  simp only [List.forall_mem_cons]
  repeat' apply And.intro
  -- One field is the one of the tools, and the others do not touch them.
  all_goals first
    | exact Datum.Keeps.set fun _ _ _ _ h => h
    | exact Datum.Keeps.set fun _ _ htable _ _ => Datum.isTable_of_textTable? htable
    | exact nofun

theorem isTable_of_readConfig {s : Surroundings} {source : String} (h : readConfig s source = .ok c) :
    IsTable c.toolLocations := by
  unfold readConfig at h
  split at h
  · cases h
  · split at h
    · next hread =>
      obtain rfl := Except.ok.inj h
      exact Datum.record?_induction (P := fun c => IsTable c.toolLocations)
        (NodeConfig.keeps_isTable .toml) hread isTable_nil
    · cases h

theorem isTable_of_loadConfig {s : Surroundings} {t : FileTree} {path : String}
    (h : loadConfig s t path = .ok c) : IsTable c.toolLocations := by
  unfold loadConfig at h
  split at h
  · cases h
  · split at h
    · cases h
    · exact isTable_of_readConfig h

/-- **The tools of a configuration file are a table**, whichever file it is. -/
theorem Startup.isTable_toolLocations {s : Startup} {t : FileTree} {a : Arguments}
    (h : s.fileConfig t a = .ok c) : IsTable c.toolLocations := by
  have hfile : ∀ path, s.configIn t path = .ok c → IsTable c.toolLocations := by
    intro path hpath
    exact isTable_of_loadConfig (mapError_eq_ok.mp hpath)
  unfold fileConfig at h
  split at h
  · exact hfile _ h
  · dsimp only at h
    split at h
    · exact hfile _ h
    · obtain rfl := Except.ok.inj h
      exact isTable_nil

end Tools

end NodeAgent
