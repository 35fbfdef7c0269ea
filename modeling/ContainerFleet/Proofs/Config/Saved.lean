import ContainerFleet.Config.File
import ContainerFleet.Proofs.Disk.Writable
import ContainerFleet.Proofs.Duration
import ContainerFleet.Proofs.Toml.Document

/-!
A configuration that is saved is the one that is loaded. Main statement:
`FleetConfig.loads_what_it_saves`.

An option that is absent is left out of the file, and reading it gives back its default, which is
its absence.
-/

namespace ContainerFleet

-- What is written of a record is taken apart by these, and put together again.
attribute [local simp] Toml.Item.toValue Toml.Item.plainValues Toml.Item.tableValues
  Toml.Value.toJson Toml.Value.entriesToJson Json.record? Json.Record.required?
  Json.Record.defaulted? Json.Record.get? Json.nullable? Json.str? Json.bool? Json.duration?
  Duration.ofText?_toText

namespace Toml.Item

variable {α : Type} {write : α → Item} (hwrite : ∀ a, (write a).isTable = true)
  (records : List (String × α))

include hwrite

theorem tableValues_map :
    tableValues (records.map fun entry => (entry.1, write entry.2)) =
      records.map fun entry => (entry.1, (write entry.2).toValue) := by
  induction records with
  | nil => rfl
  | cons entry records ih =>
      rw [List.map_cons, List.map_cons, tableValues, if_pos (hwrite entry.2), ih]

/-- A table of tables is read as one, in the same order. -/
theorem toValue_tables :
    (table (records.map fun entry => (entry.1, write entry.2))).toValue =
      .table (records.map fun entry => (entry.1, (write entry.2).toValue)) := by
  have hplain : plainValues (records.map fun entry => (entry.1, write entry.2)) = [] := by
    refine List.filterMap_eq_nil_iff.2 fun entry hentry => ?_
    obtain ⟨entry, -, rfl⟩ := List.mem_map.1 hentry
    rw [plainValue?_eq_none_iff.2 (hwrite entry.2), Option.map_none]
  rw [toValue, hplain, tableValues_map hwrite, List.nil_append]

end Toml.Item

namespace MachineProfile

theorem fits_toToml (m : MachineProfile) (depth : Nat) : m.toToml.Fits (depth + 1) := by
  obtain ⟨address, username, privateKeyPath, hostKey, enabled, notes⟩ := m
  cases hostKey <;> cases notes <;> simp [toToml, Toml.Item.Fits]

theorem ofJson?_toToml (how : Json.Strictness) (env : Environment) (m : MachineProfile) :
    ofJson? how env m.toToml.toValue.toJson = some m := by
  obtain ⟨address, username, privateKeyPath, hostKey, enabled, notes⟩ := m
  cases hostKey <;> cases notes <;> simp [toToml, ofJson?, fieldNames]

end MachineProfile

namespace UpdaterConfig

theorem fits_toToml (c : UpdaterConfig) (depth : Nat) : c.toToml.Fits (depth + 1) := by
  obtain ⟨sidecarUrl, selfContainerId, stopTimeout, allowSelfUpdate, notifyOnly, optInOnly⟩ := c
  cases selfContainerId <;> simp [toToml, Toml.Item.Fits]

theorem ofJson?_toToml (how : Json.Strictness) (c : UpdaterConfig) :
    ofJson? how c.toToml.toValue.toJson = some c := by
  obtain ⟨sidecarUrl, selfContainerId, stopTimeout, allowSelfUpdate, notifyOnly, optInOnly⟩ := c
  cases selfContainerId <;> simp [toToml, ofJson?, fieldNames]

end UpdaterConfig

namespace FleetConfig

/-- The machines of a configuration in its file. -/
def machinesItem (machines : Map String MachineProfile) : Toml.Item :=
  .table (machines.map fun entry => (entry.1, entry.2.toToml))

theorem fits_machinesItem {machines : Map String MachineProfile} (h : (Map.keys machines).Nodup)
    (depth : Nat) : (machinesItem machines).Fits (depth + 2) := by
  refine ⟨by simpa [Map.keys, Function.comp_def] using h, fun entry hentry => ?_⟩
  obtain ⟨entry, -, rfl⟩ := List.mem_map.1 hentry
  exact entry.2.fits_toToml depth

theorem mapM_toToml (how : Json.Strictness) (env : Environment)
    (machines : Map String MachineProfile) :
    (Toml.Value.entriesToJson (machines.map fun entry => (entry.1, entry.2.toToml.toValue))).mapM
      (fun entry => (MachineProfile.ofJson? how env entry.2).map (entry.1, ·)) = some machines := by
  induction machines with
  | nil => rfl
  | cons entry machines ih =>
      rw [List.map_cons, Toml.Value.entriesToJson, List.mapM_cons, ih,
        MachineProfile.ofJson?_toToml]
      rfl

theorem map?_machinesItem (how : Json.Strictness) (env : Environment)
    {machines : Map String MachineProfile} (h : (Map.keys machines).Nodup) :
    Json.map? (MachineProfile.ofJson? how env) (machinesItem machines).toValue.toJson =
      some machines := by
  rw [machinesItem, Toml.Item.toValue_tables fun m => rfl, Toml.Value.toJson, Json.map?,
    mapM_toToml, Option.map_some, Map.ofEntries_eq_self h]

theorem port?_ofNat (port : UInt16) : Json.port? (.int (port.toNat : Int)) = some port := by
  have hnat : Json.nat? (.int (port.toNat : Int)) = some port.toNat := rfl
  rw [Json.port?, hnat]
  simp [port.toNat_lt]

theorem fits_toToml {c : FleetConfig} (h : (Map.keys c.machines).Nodup) :
    (Toml.Item.table c.toToml).Fits Toml.depthLimit := by
  have hmachines : (machinesItem c.machines).Fits 79 := fits_machinesItem h 77
  have hupdater := c.updater.fits_toToml 78
  have hport : (Toml.Item.int (c.remoteTcpPort.toNat : Int)).Fits 79 :=
    Toml.Item.fits_ofNat 79 (by have := c.remoteTcpPort.toNat_lt; omega)
  rw [machinesItem] at hmachines
  refine ⟨?_, ?_⟩
  · rw [toToml]
    cases c.localSocket <;> cases c.updateStorePath <;> simp
  · rw [toToml]
    cases c.localSocket <;> cases c.updateStorePath <;> simp [hmachines, hupdater, hport]

theorem ofJson?_toToml (how : Json.Strictness) (env : Environment) {c : FleetConfig}
    (h : (Map.keys c.machines).Nodup) :
    ofJson? how env (Toml.Item.table c.toToml).toValue.toJson = some c := by
  have hmachines := map?_machinesItem how env h
  have hupdater := UpdaterConfig.ofJson?_toToml how c.updater
  -- The two tables are read by these facts, so what they hold does not matter here.
  have hmachinesTable : (machinesItem c.machines).isTable = true := rfl
  have hupdaterTable : c.updater.toToml.isTable = true := rfl
  have hmachinesPlain := Toml.Item.plainValue?_eq_none_iff.2 hmachinesTable
  have hupdaterPlain := Toml.Item.plainValue?_eq_none_iff.2 hupdaterTable
  rw [toToml, ← machinesItem]
  generalize machinesItem c.machines = machinesTable at *
  generalize c.updater.toToml = updaterTable at *
  obtain ⟨localHostName, localSocket, rpcTimeout, remoteSocketPath, remoteTcpPort, machines,
    updater, updateStorePath⟩ := c
  cases localSocket <;> cases updateStorePath <;>
    simp [ofJson?, fieldNames, port?_ofNat, hmachines, hupdater, hmachinesTable, hupdaterTable,
      hmachinesPlain, hupdaterPlain]

/-- The text of a configuration reads back. -/
theorem ofText?_toText (env : Environment) {c : FleetConfig} (h : (Map.keys c.machines).Nodup) :
    ofText? env c.toText = some c := by
  rw [ofText?, toText, Toml.Item.parse?_write (fits_toToml h), Option.bind_some,
    ofJson?_toToml Json.lenient env h]

theorem run_save {path dir : String} {c : FleetConfig} {d made e : Disk}
    (hparent : FilePath.parent? path = some dir)
    (hmade : d.makeDirectories (Disk.resolve dir) = .ok made)
    (hwrite : made.write (Disk.resolve path) (Files.bytesOf c.toText) = .ok e) :
    Disk.run (save path c) d = (.ok (), e) := by
  have hprepare : Disk.run (prepare path) d = (.ok (), made) := by
    simp only [prepare, hparent, Disk.run, FileProgram.makeDirectories, Program.call, Program.run,
      Disk.handle, hmade]
  rw [save, Disk.run_bind, hprepare]
  simp only [Disk.run, Bind.bind, Program.bind, FileProgram.write, Program.call, Program.run,
    Disk.handle, hwrite]
  rfl

theorem run_load (env : Environment) {path : String} {c : FleetConfig} {d : Disk}
    (h : d.get? (Disk.resolve path) = some (.file (Files.bytesOf c.toText)))
    (hmachines : (Map.keys c.machines).Nodup) : Disk.run (load env path) d = (.ok c, d) := by
  have hread : d.read (Disk.resolve path) = .ok (Files.bytesOf c.toText) := by rw [Disk.read, h]
  rw [load]
  simp only [Disk.run, Bind.bind, Program.bind, FileProgram.isThere, FileProgram.read, Program.call,
    Program.run, Disk.handle, h, hread, Option.isSome_some, if_true, Files.textOf?_bytesOf,
    ofText?_toText env hmachines]
  rfl

/-- Saving at a path where a file can be succeeds, and loading from there gives the same
configuration. -/
theorem loads_what_it_saves (env : Environment) {c : FleetConfig}
    (hmachines : (Map.keys c.machines).Nodup) {d : Disk} (hd : d.IsTree) {path : String}
    (hpath : d.IsWritable path) :
    ∃ e, Disk.run (save path c) d = (.ok (), e) ∧ Disk.run (load env path) e = (.ok c, e) := by
  obtain ⟨dir, made, e, hparent, hmade, hwrite⟩ :=
    hpath.exists_write hd (Files.bytesOf c.toText)
  exact ⟨e, run_save hparent hmade hwrite, run_load env (Disk.get?_of_write hwrite) hmachines⟩

/-- A configuration whose texts and names need all kinds of quotes, and whose spans of time have odd
nanoseconds. -/
def awkward : FleetConfig where
  localHostName := "the \"local\" host"
  localSocket := some "C:\\docker\\it's.sock"
  rpcTimeout := ⟨34876543, 987654321, by decide, by decide⟩
  remoteSocketPath := ""
  remoteTcpPort := 65535
  machines := [("", ⟨"db:22", "root", "/root/.ssh/id", none, true, some "first\nsecond '\"'"⟩),
    ("a.b \"c\"\r\n", ⟨"host", "\u0007\t", "", some "'''\\", false, none⟩)]
  updater := { UpdaterConfig.default with
    selfContainerId := some "\n"
    stopTimeout := ⟨18446744073709551615, 999999999, by decide, by decide⟩
    optInOnly := true }
  updateStorePath := some "/var/lib/updates.json"

theorem loads_what_it_saves_awkward :
    (Map.keys awkward.machines).Nodup ∧ Disk.empty.IsTree ∧
      Disk.empty.IsWritable "/etc/dockman/config.toml" ∧
      ∃ e, Disk.run (save "/etc/dockman/config.toml" awkward) Disk.empty = (.ok (), e) ∧
        Disk.run (load ⟨"/root", none⟩ "/etc/dockman/config.toml") e = (.ok awkward, e) := by
  have hmachines : (Map.keys awkward.machines).Nodup := by decide
  have hpath : Disk.empty.IsWritable "/etc/dockman/config.toml" :=
    Disk.isWritable_empty (by decide +kernel) (by decide +kernel)
  exact ⟨hmachines, Disk.isTree_empty, hpath,
    loads_what_it_saves ⟨"/root", none⟩ hmachines Disk.isTree_empty hpath⟩

end FleetConfig

end ContainerFleet
