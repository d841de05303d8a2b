import FileGateway.Proofs.Storage.Lifetimes
import FileGateway.Proofs.Storage.Operations

/-! # Building at a place

Whoever makes directories at or below a place of a cluster, creates files there and writes them, builds at that
place: what is not at the place or below it stays, but for directories that were missing above. The streams that
were open stay what they were, and so do the clients.
-/

namespace FileGateway

open Function (update)

/-! ## Clusters -/

namespace Cluster

variable {cluster middle after : Cluster} {goal location : Location}

/-- Something was built at a place, and nothing else has changed but for directories missing above it. -/
structure Built (goal : Location) (before after : Cluster) : Prop where
  settings : ∃ tree cursor, after = { before with tree, cursor }
  entries : ∀ query, goal <+: query ∨ after.tree.get? query = before.tree.get? query ∨
    query <+: goal ∧ before.tree.get? query = none ∧ ∃ modified, after.tree.get? query = some (.directory modified)

namespace Built

protected theorem refl (goal : Location) (cluster : Cluster) : Built goal cluster cluster :=
  ⟨⟨_, _, rfl⟩, fun _ => .inr (.inl rfl)⟩

protected theorem trans (first : Built goal cluster middle) (second : Built goal middle after) :
    Built goal cluster after where
  settings := by
    obtain ⟨tree, cursor, rfl⟩ := first.settings
    exact second.settings
  entries query := by
    rcases first.entries query with inside | same | ⟨above, free, modified, made⟩
    · exact .inl inside
    · rcases second.entries query with inside | still | ⟨above, free, made⟩
      · exact .inl inside
      · exact .inr (.inl (still.trans same))
      · exact .inr (.inr ⟨above, same ▸ free, made⟩)
    · rcases second.entries query with inside | still | ⟨-, gone, -⟩
      · exact .inl inside
      · exact .inr (.inr ⟨above, free, modified, still.trans made⟩)
      · simp [made] at gone

/-- What was anywhere is there still, if nothing was at the place. -/
theorem keeps (built : Built goal cluster after) (isTree : cluster.tree.IsTree)
    (free : cluster.tree.get? goal = none) {query : Location} {entry : Entry}
    (found : cluster.tree.get? query = some entry) : after.tree.get? query = some entry := by
  rcases built.entries query with inside | same | ⟨-, missing, -⟩
  · simp [isTree.none_of_free free inside] at found
  · rw [same, found]
  · simp [missing] at found

/-- One place has changed, in directories made for it where they were missing. -/
private theorem of_shape {above : Location} {tree : Namespace} {cursor : UInt64} (now : Int)
    (within : goal <+: location) (higher : above <+: location)
    (shape : ∀ query, query ≠ location → tree.get? query =
      (cluster.tree.get? query).or (if query <+: above then some (.directory now) else none)) :
    Built goal cluster { cluster with tree, cursor } where
  settings := ⟨tree, cursor, rfl⟩
  entries query := by
    by_cases atPlace : query = location
    · exact .inl (atPlace ▸ within)
    · rw [shape query atPlace]
      by_cases onTheWay : query <+: above
      · rcases List.prefix_or_prefix_of_prefix (onTheWay.trans higher) within with before | inside
        · cases found : cluster.tree.get? query with
          | none => exact .inr (.inr ⟨before, rfl, now, by simp [onTheWay]⟩)
          | some entry => exact .inr (.inl (by simp))
        · exact .inl inside
      · exact .inr (.inl (by simp [onTheWay]))

end Built

end Cluster

/-- An operation builds at a place. -/
def Operation.BuildsAt (goal : Location) : Operation → Prop
  | createDirectories _ location => goal <+: location
  | startFile _ location _ => goal <+: location
  | call writer _ _ => goal <+: writer.location
  | delete _ | rename _ _ | setReplication _ _ | lock _ _ | release _ => False

namespace Cluster

variable {cluster : Cluster} {goal location : Location}

private theorem createDirectories_built (isTree : cluster.tree.IsTree) (now : Int) (within : goal <+: location) :
    cluster.Built goal (cluster.createDirectories now location).2 := by
  by_cases blocked : ∃ above node, above <+: location ∧ cluster.tree.get? above = some (.file node)
  · obtain ⟨above, node, onTheWay, found⟩ := blocked
    rw [createDirectories_of_file isTree now onTheWay found]
    exact .refl goal cluster
  · simp only [not_exists, not_and] at blocked
    obtain ⟨made, ran, shape⟩ :=
      cluster.createDirectories_of_noFile now fun above onTheWay node => blocked above node onTheWay
    rw [ran]
    exact .of_shape now within List.prefix_rfl fun query _ => shape query

private theorem startFile_built (isTree : cluster.tree.IsTree) (now : Int) (options : CreateOptions)
    (within : goal <+: location) : cluster.Built goal (cluster.startFile now location options).2 := by
  rcases startFile_cases isTree now location options with ⟨exception, ran, -⟩ | ⟨-, -, -, made, ran, shape⟩
  · rw [ran]
    exact .refl goal cluster
  · rw [ran]
    refine .of_shape now within (List.dropLast_prefix location) fun query elsewhere => ?_
    rw [SortedMap.get?_insert, if_neg elsewhere, shape]

private theorem withFile_built (within : goal <+: location) (node : FileNode) (cursor : UInt64) :
    cluster.Built goal (cluster.withFile location node cursor) where
  settings := ⟨_, _, rfl⟩
  entries query := by
    by_cases atPlace : query = location
    · exact .inl (atPlace ▸ within)
    · exact .inr (.inl (by rw [withFile_tree, SortedMap.get?_insert, if_neg atPlace]))

end Cluster

namespace ClusterWriter

variable {writer : ClusterWriter} {cluster : Cluster} {goal : Location}

/-- What a call does to a writer and its cluster, whatever the call. -/
private theorem answer_cases (writer : ClusterWriter) (cluster : Cluster) (now : Int) (asked : WriterCall) :
    (writer.answer cluster now asked).2.1.location = writer.location ∧
      ((writer.answer cluster now asked).2.2 = cluster ∨
        ∃ node cursor, (writer.answer cluster now asked).2.2 = cluster.withFile writer.location node cursor) := by
  by_cases isClosed : writer.closed = true
  · rw [answer_of_closed isClosed]
    exact ⟨rfl, .inl rfl⟩
  · rw [Bool.not_eq_true] at isClosed
    by_cases leased : cluster.Leased writer.location
    · obtain ⟨bytes, leased⟩ := leased
      obtain ⟨node, changed, cursor, -, ran, -⟩ := answer_of_leased isClosed leased now asked
      rw [ran]
      exact ⟨rfl, .inr ⟨changed, cursor, rfl⟩⟩
    · rw [answer_of_not_leased isClosed leased]
      split <;> exact ⟨rfl, .inl rfl⟩

theorem answer_location (writer : ClusterWriter) (cluster : Cluster) (now : Int) (asked : WriterCall) :
    (writer.answer cluster now asked).2.1.location = writer.location :=
  (answer_cases writer cluster now asked).1

private theorem answer_built (now : Int) (asked : WriterCall) (within : goal <+: writer.location) :
    cluster.Built goal (writer.answer cluster now asked).2.2 := by
  rcases (answer_cases writer cluster now asked).2 with same | ⟨node, cursor, changed⟩
  · rw [same]
    exact .refl goal cluster
  · rw [changed]
    exact Cluster.withFile_built within node cursor

end ClusterWriter

theorem Operation.BuildsAt.built {cluster : Cluster} {goal : Location} {operation : Operation}
    (isTree : cluster.tree.IsTree) (builds : operation.BuildsAt goal) :
    cluster.Built goal (operation.perform cluster).2 := by
  cases operation with
  | createDirectories now location => exact Cluster.createDirectories_built isTree now builds
  | startFile now location options => exact Cluster.startFile_built isTree now options builds
  | call writer now asked => exact ClusterWriter.answer_built now asked builds
  | delete | rename | setReplication | lock | release => exact builds.elim

/-! ## Storage -/

namespace Storage

variable {α β : Type} {storage before middle after : Storage} {goal? : Nat → Option Location}
  {client number stream : Nat} {path : Path} {cluster : Cluster} {writer : ClusterWriter}

/-- Something was built at a place of some clusters. -/
structure Built (goal? : Nat → Option Location) (before after : Storage) : Prop where
  sound : after.Sound
  clients : after.clients = before.clients
  clusters : ∀ {number cluster}, before.clusters[number]? = some cluster →
    ∃ later, after.clusters[number]? = some later ∧
      (later = cluster ∨ ∃ goal, goal? number = some goal ∧ cluster.Built goal later)
  streams : Kept before after
  writers : ∀ {number stream writer}, before.writers number stream = some writer →
    ∃ later, after.writers number stream = some later ∧ later.location = writer.location

namespace Built

protected theorem refl (sound : storage.Sound) : Built goal? storage storage :=
  ⟨sound, rfl, fun present => ⟨_, present, .inl rfl⟩, .refl storage, fun found => ⟨_, found, rfl⟩⟩

protected theorem trans (first : Built goal? before middle) (second : Built goal? middle after) :
    Built goal? before after where
  sound := second.sound
  clients := second.clients.trans first.clients
  clusters present := by
    obtain ⟨mid, isMiddle, one⟩ := first.clusters present
    obtain ⟨last, isLast, two⟩ := second.clusters isMiddle
    refine ⟨last, isLast, ?_⟩
    rcases one with rfl | ⟨goal, atGoal, one⟩
    · exact two
    · rcases two with rfl | ⟨other, same, two⟩
      · exact .inr ⟨goal, atGoal, one⟩
      · obtain rfl : goal = other := Option.some.inj (atGoal.symm.trans same)
        exact .inr ⟨goal, atGoal, one.trans two⟩
  streams := first.streams.trans second.streams
  writers found := by
    obtain ⟨mid, isMiddle, one⟩ := first.writers found
    obtain ⟨last, isLast, two⟩ := second.writers isMiddle
    exact ⟨last, isLast, two.trans one⟩

end Built

/-- A writer keeps its place. -/
private theorem Deed.writer_kept {events : Nat → List Event} (deed : Deed storage events after)
    (found : storage.writers number stream = some writer) :
    ∃ later, after.writers number stream = some later ∧ later.location = writer.location := by
  cases deed with
  | aside _ same | started _ _ _ _ _ _ same | changed _ _ _ same => exact ⟨writer, by rw [same, found], rfl⟩
  | @created own opened _ _ _ _ _ _ _ _ _ new _ _ same =>
    have different : stream ≠ opened := by
      rintro rfl
      simp [new] at found
    refine ⟨writer, ?_, rfl⟩
    rw [same, Function.update_apply]
    split
    · next isOwn => rw [Function.update_of_ne different, ← isOwn, found]
    · exact found
  | @called own called cluster caller _ present atOwn now asked _ same =>
    by_cases isCalled : number = own ∧ stream = called
    · obtain ⟨rfl, rfl⟩ := isCalled
      obtain rfl : caller = writer := Option.some.inj (atOwn.symm.trans found)
      exact ⟨_, by rw [same, Function.update_self, Function.update_self], caller.answer_location cluster now asked⟩
    · refine ⟨writer, ?_, rfl⟩
      rw [same, Function.update_apply]
      split
      · next isOwn =>
        rw [Function.update_of_ne fun isStream => isCalled ⟨isOwn, isStream⟩, ← isOwn, found]
      · exact found

/-- A request builds at a place if the operation that it comes down to does, and it leaves the clients. -/
theorem Sound.built (sound : storage.Sound) (request : Request)
    (clients : (storage.after request).clients = storage.clients)
    (builds : ∀ {number operation}, storage.operation? number request = some operation →
      ∃ goal, goal? number = some goal ∧ operation.BuildsAt goal) :
    Built goal? storage (storage.after request) where
  sound := sound.serve request
  clients := clients
  clusters {number cluster} present := by
    cases isOperation : storage.operation? number request with
    | none => exact ⟨cluster, sound.spared present isOperation, .inl rfl⟩
    | some operation =>
      obtain ⟨goal, atGoal, building⟩ := builds isOperation
      refine ⟨(operation.perform cluster).2, ?_, .inr ⟨goal, atGoal, ?_⟩⟩
      · rw [(sound.performs present isOperation).2,
          List.getElem?_set_self (List.getElem?_eq_some_iff.mp present).1]
      · exact building.built (sound.trees cluster (List.mem_of_getElem? present))
  streams := by
    rw [Storage.after, final_eq_ended]
    exact serve_keeps request storage
  writers := (deed_of_request sound.plain sound.founded request).1.writer_kept

/-! ## Actions that build -/

/-- An action builds at a place of some clusters, whether it answers or fails. -/
def Builds (goal? : Nat → Option Location) (action : Action α) (storage : Storage) : Prop :=
  Built goal? storage (ended (action storage))

namespace Builds

variable {action : Action α} {next : α → Action β}

theorem bind (first : Builds goal? action storage)
    (second : ∀ value middle, action storage = .ok value middle → Built goal? storage middle →
      Builds goal? (next value) middle) : Builds goal? (action >>= next) storage := by
  rw [Builds] at first ⊢
  rcases ran : action storage with ⟨value, middle⟩ | ⟨failure, middle⟩ <;> rw [ran] at first
  · rw [bind_of_ok ran]
    exact first.trans (second value middle ran first)
  · rw [bind_of_error ran]
    exact first

theorem of_ok {value : α} (builds : Builds goal? action storage) (ran : action storage = .ok value after) :
    Built goal? storage after := by
  rwa [Builds, ran] at builds

theorem attempt (builds : Builds goal? action storage) : Builds goal? (attempt action) storage := by
  rw [Builds] at builds ⊢
  unfold Storage.attempt
  simp only [Bind.bind, EStateM.bind, tryCatch, tryCatchThe, MonadExceptOf.tryCatch, EStateM.tryCatch]
  rcases ran : action storage with ⟨value, after⟩ | ⟨_ | _ | _ | _, after⟩ <;> rw [ran] at builds <;> exact builds

theorem endingWith {ending : Action Unit} (first : Builds goal? action storage)
    (last : ∀ after : Storage, after.Sound → Builds goal? ending after) :
    Builds goal? (endingWith ending action) storage := by
  have both : Built goal? storage (ended (ending (ended (action storage)))) :=
    Built.trans first (last _ first.sound)
  rw [Builds, endingWith_run]
  rcases ran : action storage with ⟨value, middle⟩ | ⟨failure, middle⟩ <;> rw [ran] at both <;> exact both

/-- A loop builds if every turn does, from wherever the turns before it have led. -/
theorem forIn {entries : List α} {turn : α → PUnit → Action (ForInStep PUnit)} (sound : storage.Sound)
    (turns : ∀ entry middle, Built goal? storage middle → Builds goal? (turn entry .unit) middle) :
    Builds goal? (ForIn.forIn entries PUnit.unit turn : Action PUnit) storage := by
  induction entries generalizing storage with
  | nil => exact .refl sound
  | cons entry rest ih =>
    rw [List.forIn_cons]
    refine bind (turns entry storage (.refl sound)) fun outcome middle _ built => ?_
    cases outcome with
    | done value => exact .refl built.sound
    | yield value => exact ih built.sound fun other later more => turns other later (built.trans more)

end Builds

/-! ### Clients -/

/-- A path means places at or below the one where a client builds. -/
def Aims (goal? : Nat → Option Location) (storage : Storage) (client : Nat) (path : Path) : Prop :=
  ∀ number place, storage.placeOn? number client path = some place →
    ∃ goal, goal? number = some goal ∧ goal <+: place

theorem Aims.join (aims : Aims goal? storage client path) {name : Name} (proper : Location.ProperName name) :
    Aims goal? storage client (path.join ⟨name⟩) := by
  intro number place atPlace
  rw [placeOn?] at atPlace
  split at atPlace
  · next own directory script known =>
    split at atPlace
    · next same =>
      obtain rfl := Option.some.inj atPlace
      have atParent : storage.placeOn? number client path = some (directory.resolve path) := by
        rw [placeOn?, known]
        exact if_pos same
      obtain ⟨goal, atGoal, within⟩ := aims _ _ atParent
      refine ⟨goal, atGoal, ?_⟩
      rw [Location.resolve_join_name _ _ proper]
      exact within.trans (List.prefix_append ..)
    · contradiction
  · contradiction

end Storage

end FileGateway
