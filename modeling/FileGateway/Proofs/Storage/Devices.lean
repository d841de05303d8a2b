import FileGateway.Proofs.Look
import FileGateway.Proofs.Storage.Ends

/-! # Devices

A client copies from one device to another, be they clusters or the disk, and it may be the same one
twice. `Attached` says which device a client works on. `Evolved` says what no part of a copy ever
does: clients, settings and other devices stay as they are, and files that are settled stay settled,
but for a draft that is being written.
-/

namespace FileGateway

/-- No file stands at a place but a complete one with the defaults of the cluster. -/
def Cluster.Settled (cluster : Cluster) (location : Location) : Prop :=
  ∀ node, cluster.tree.get? location = some (.file node) → node.underConstruction = false ∧
    node.replication = cluster.defaultReplication ∧ node.blockSize = cluster.defaultBlockSize

inductive Device
  | cluster (number : Nat)
  | disk
deriving DecidableEq, Repr

namespace Storage

variable {storage before middle after : Storage} {client number : Nat} {device : Device}
  {directory place : Location} {cluster : Cluster} {draft : Option Location}

/-- What stands at every place of a device. -/
def look (storage : Storage) : Device → Location → Option Occupant
  | .cluster number => fun location => (storage.clusters[number]?).bind (·.tree.look location)
  | .disk => storage.disk.look

/-- On a cluster no file stands at a place but a complete one with the defaults. -/
def Settled (storage : Storage) : Device → Location → Prop
  | .cluster number, location => ∀ cluster, storage.clusters[number]? = some cluster → cluster.Settled location
  | .disk, _ => True

theorem look_of_cluster (present : storage.clusters[number]? = some cluster) :
    storage.look (.cluster number) = cluster.tree.look := by
  rw [look, present]
  rfl

@[simp] theorem look_withStreams (storage : Storage) (streams : List Stream) (device : Device) :
    look { storage with streams } device = storage.look device := by
  cases device <;> rfl

theorem settled_withStreams {streams : List Stream} :
    Settled { storage with streams } device place ↔ storage.Settled device place := by
  cases device <;> rfl

/-- The namespace of a cluster is a tree; a disk has no links. -/
def Tidy (storage : Storage) : Device → Prop
  | .cluster number => ∀ cluster, storage.clusters[number]? = some cluster → cluster.tree.IsTree
  | .disk => storage.disk.Regular

/-- An unscripted client works on a tidy device from a proper directory. -/
inductive Attached (storage : Storage) (client : Nat) : Device → Location → Prop
  | cluster {number : Nat} {directory : Location} {cluster : Cluster}
      (found : storage.clients[client]? = some ⟨.cluster number, directory, .none⟩)
      (present : storage.clusters[number]? = some cluster) (isTree : cluster.tree.IsTree)
      (proper : directory.Proper) : Attached storage client (.cluster number) directory
  | disk {conf : Configuration} {directory : Location}
      (found : storage.clients[client]? = some ⟨.disk conf, directory, .none⟩)
      (regular : storage.disk.Regular) (proper : directory.Proper) : Attached storage client .disk directory

namespace Attached

theorem proper (attached : storage.Attached client device directory) : directory.Proper := by
  cases attached <;> assumption

theorem hierarchy (attached : storage.Attached client device directory) : Hierarchy (storage.look device) := by
  cases attached with
  | cluster _ present isTree =>
    rw [look_of_cluster present]
    exact isTree.hierarchy
  | disk _ regular => exact regular.hierarchy

/-- Nothing on the device is a link. -/
theorem noLink (attached : storage.Attached client device directory) (location : Location) (link : Bytes) :
    storage.look device location ≠ some (.link link) := by
  intro found
  cases attached with
  | cluster _ present =>
    rw [look_of_cluster present, Namespace.look, Option.map_eq_some_iff] at found
    obtain ⟨entry, -, same⟩ := found
    cases entry <;> simp [Entry.occupant] at same
  | disk _ regular =>
    obtain ⟨entry, there, same⟩ := Option.map_eq_some_iff.mp found
    cases entry with
    | directory | file => simp [Disk.occupantOf] at same
    | link => exact regular.noLink there

end Attached

/-! ## Evolution -/

/-- Clients, settings and other devices stay, and what is settled stays settled, a draft apart. -/
structure Evolved (device : Device) (draft : Option Location) (before after : Storage) : Prop where
  clients : after.clients = before.clients
  settings : after.clusters.map (·.conf) = before.clusters.map (·.conf)
  tidy : ∀ {other}, before.Tidy other → after.Tidy other
  elsewhere : ∀ {other}, other ≠ device → after.look other = before.look other
  settled : ∀ {other place}, (other = device → some place ≠ draft) → before.Settled other place →
    after.Settled other place

namespace Evolved

theorem trans (first : Evolved device draft before middle) (second : Evolved device draft middle after) :
    Evolved device draft before after where
  clients := second.clients.trans first.clients
  settings := second.settings.trans first.settings
  tidy tidy := second.tidy (first.tidy tidy)
  elsewhere other := (second.elsewhere other).trans (first.elsewhere other)
  settled notDraft settled := second.settled notDraft (first.settled notDraft settled)

/-- A settled draft is no draft any more. -/
theorem settle (evolved : Evolved device (some place) before after) (settled : after.Settled device place) :
    Evolved device none before after where
  clients := evolved.clients
  settings := evolved.settings
  tidy := evolved.tidy
  elsewhere := evolved.elsewhere
  settled {other location} _ before := by
    by_cases atDraft : other = device ∧ location = place
    · obtain ⟨rfl, rfl⟩ := atDraft
      exact settled
    · refine evolved.settled (fun same there => atDraft ⟨same, ?_⟩) before
      exact Option.some.inj there

theorem attached (evolved : Evolved device draft before after) {other : Device}
    (attached : before.Attached client other directory) : after.Attached client other directory := by
  cases attached with
  | disk found regular proper =>
    exact .disk (evolved.clients ▸ found) (evolved.tidy (show before.Tidy .disk from regular)) proper
  | @cluster own _ cluster found present isTree proper =>
    have settings := congrArg (·[own]?) evolved.settings
    simp only [List.getElem?_map, present, Option.map_some, Option.map_eq_some_iff] at settings
    obtain ⟨now, stillPresent, -⟩ := settings
    have tidy : before.Tidy (.cluster own) := fun other same =>
      Option.some.inj (present.symm.trans same) ▸ isTree
    exact .cluster (evolved.clients ▸ found) stillPresent (evolved.tidy tidy now stillPresent) proper

/-- One cluster changes, and keeps its settings. -/
theorem of_cluster (present : storage.clusters[number]? = some cluster) (changed : Cluster)
    (conf : changed.conf = cluster.conf) (isTree : cluster.tree.IsTree → changed.tree.IsTree)
    (settled : ∀ place, some place ≠ draft → cluster.Settled place → changed.Settled place)
    (streams : List Stream) :
    Evolved (.cluster number) draft storage { storage.withCluster number changed with streams } := by
  have bound : number < storage.clusters.length := (List.getElem?_eq_some_iff.mp present).1
  have changedOr {own : Nat} {other : Cluster}
      (there : (storage.clusters.set number changed)[own]? = some other) :
      own = number ∧ other = changed ∨ storage.clusters[own]? = some other := by
    by_cases same : own = number
    · subst same
      rw [List.getElem?_set_self bound, Option.some.injEq] at there
      exact .inl ⟨rfl, there.symm⟩
    · rw [List.getElem?_set_ne (Ne.symm same)] at there
      exact .inr there
  refine ⟨rfl, ?_, fun {other} tidy => ?_, fun {other} different => ?_, fun {other place} notDraft before => ?_⟩
  · have own : storage.clusters[number] = cluster := (List.getElem?_eq_some_iff.mp present).2
    have same : changed.conf = (storage.clusters.map (·.conf)).get ⟨number, by simpa using bound⟩ := by
      rw [conf, List.get_eq_getElem, List.getElem_map, own]
    simp only [withCluster, List.map_set]
    rw [same, List.get_eq_getElem, List.set_getElem_self]
  · cases other with
    | disk => exact tidy
    | cluster own =>
      intro other there
      rcases changedOr there with ⟨rfl, rfl⟩ | there
      · exact isTree (tidy cluster present)
      · exact tidy other there
  · cases other with
    | disk => rfl
    | cluster own =>
      have apart : number ≠ own := fun same => different (same ▸ rfl)
      simp only [look, withCluster, List.getElem?_set_ne apart]
  · cases other with
    | disk => trivial
    | cluster own =>
      intro other there
      rcases changedOr there with ⟨rfl, rfl⟩ | there
      · exact settled place (notDraft rfl) (before cluster present)
      · exact before other there

/-- Streams alone change. -/
theorem of_streams (device : Device) (draft : Option Location) (storage : Storage) (streams : List Stream) :
    Evolved device draft storage { storage with streams } :=
  ⟨rfl, rfl, fun {other} tidy => by cases other <;> exact tidy,
    fun {other} _ => look_withStreams storage streams other, fun _ => settled_withStreams.mpr⟩

theorem of_disk {disk : Disk} (regular : storage.disk.Regular → disk.Regular) (streams : List Stream) :
    Evolved .disk draft storage { storage with disk, streams } := by
  refine ⟨rfl, rfl, fun {other} tidy => ?_, fun {other} different => ?_, fun {other place} _ before => ?_⟩
  · cases other with
    | disk => exact regular tidy
    | cluster own => exact tidy
  · cases other with
    | disk => exact absurd rfl different
    | cluster own => rfl
  · cases other with
    | disk => trivial
    | cluster own => exact before

end Evolved

theorem look_withCluster (present : storage.clusters[number]? = some cluster) (changed : Cluster)
    (streams : List Stream) :
    look { storage.withCluster number changed with streams } (.cluster number) = changed.tree.look := by
  have bound : number < storage.clusters.length := (List.getElem?_eq_some_iff.mp present).1
  exact look_of_cluster (List.getElem?_set_self bound)

end Storage

end FileGateway
