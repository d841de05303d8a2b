import FileGateway.Engine.Connect
import FileGateway.Proofs.Storage.Ends
import FileGateway.Proofs.Within

/-! # Default names

The text of a target is a default name, and reading it gives the target back, whatever the host. The port is
what makes this so: it ends the text in a digit, so nothing is trimmed behind it, no local name is met, and the
last colon is the one before it. Hence the default target leads to a target that needs no further look at the
configuration.
-/

namespace FileGateway

theorem trimEnd_concat {α : Type} (drops : α → Bool) {last : α} (kept : drops last = false) (items : List α) :
    trimEnd drops (items ++ [last]) = items ++ [last] := by
  rw [trimEnd, List.reverse_append, List.reverse_singleton, List.singleton_append,
    List.dropWhile_cons_of_neg (by simp [kept]), List.reverse_cons, List.reverse_reverse]

namespace Target

/-! ## The parts of a name -/

@[simp] theorem dropScheme_append (rest : List Char) : dropScheme (scheme ++ rest) = rest := by
  have ahead : scheme.isPrefixOf (scheme ++ rest) = true := by simp
  rw [dropScheme, if_pos ahead, List.drop_left]

theorem splitAtLastColon?_append (host : List Char) {digits : List Char} (noColon : ':' ∉ digits) :
    splitAtLastColon? (host ++ ':' :: digits) = some (host, digits) := by
  have behind : ∀ digit ∈ digits.reverse, (digit != ':') = true := by
    intro digit member
    rw [bne_iff_ne]
    rintro rfl
    exact noColon (List.mem_reverse.mp member)
  have reversed : (host ++ ':' :: digits).reverse = digits.reverse ++ ':' :: host.reverse := by simp
  rw [splitAtLastColon?, reversed, List.takeWhile_append_of_pos behind, List.dropWhile_append_of_pos behind]
  simp

/-- The digits of a port. -/
def digits (port : UInt16) : List Char := Nat.toDigits 10 port.toNat

theorem isDigit_of_mem_digits {port : UInt16} {digit : Char} (member : digit ∈ digits port) :
    digit.isDigit = true :=
  Nat.isDigit_of_mem_toDigits (by decide) (by decide) member

/-- The digits of a port end in one. -/
theorem digits_eq_concat (port : UInt16) :
    ∃ (early : List Char) (last : Char), digits port = early ++ [last] ∧ last.isDigit = true := by
  obtain ⟨early, last, whole⟩ := (List.eq_nil_or_concat' (digits port)).resolve_left Nat.toDigits_ne_nil
  have member : last ∈ digits port := by simp [whole]
  exact ⟨early, last, whole, isDigit_of_mem_digits member⟩

theorem port?_digits (port : UInt16) : port? (digits port) = some port := by
  have noPlus : ∀ rest, digits port = '+' :: rest → False := by
    intro rest same
    have plus : '+' ∈ digits port := same ▸ List.mem_cons_self ..
    exact absurd (isDigit_of_mem_digits plus) (by decide)
  have numeral : ¬((digits port).isEmpty = true ∨ ¬(digits port).all Char.isDigit = true) := by
    rw [not_or, not_not, List.isEmpty_iff, List.all_eq_true]
    exact ⟨Nat.toDigits_ne_nil, fun _ => isDigit_of_mem_digits⟩
  have value : (digits port).foldl (fun value digit => 10 * value + (digit.toNat - 48)) 0 = port.toNat :=
    Nat.ofDigitChars_toDigits (by decide) (by decide)
  rw [port?, if_neg numeral]
  · simp only [value, if_pos port.toNat_lt, UInt16.ofNat_toNat]
  · exact noPlus

/-! ## Reading the text of a target -/

theorem toList_text_remote (host : String) (port : UInt16) :
    (text (.remote host port)).toList = scheme ++ (host.toList ++ ':' :: digits port) := by
  have whole : text (.remote host port) = "hdfs://" ++ (host ++ ":" ++ Nat.repr port.toNat) := rfl
  rw [whole, String.toList_append, String.toList_append, String.toList_append, Nat.toList_repr, List.append_assoc]
  rfl

private theorem isBlank_of_isDigit {digit : Char} (isDigit : digit.isDigit = true) : isBlank digit = false := by
  have bounds : 48 ≤ digit.toNat ∧ digit.toNat ≤ 57 := by
    simpa [Char.isDigit, UInt32.le_iff_toNat_le] using isDigit
  simp [isBlank]
  omega

/-- A text that ends in a digit is no local name. -/
private theorem localNames_contains {early : List Char} {last : Char} (isDigit : last.isDigit = true) :
    localNames.contains (early ++ [last]) = false := by
  rw [Bool.eq_false_iff, ne_eq, List.contains_iff_mem]
  intro member
  have noDigit : ∀ name ∈ localNames, name.getLast?.all (!·.isDigit) := by decide +kernel
  simpa [isDigit] using noDigit _ member

theorem ofDefaultName_text_remote (host : String) (port : UInt16) :
    ofDefaultName (text (.remote host port)) = .ok (.remote host port) := by
  obtain ⟨early, last, ending, isDigit⟩ := digits_eq_concat port
  have noColon : ':' ∉ digits port := fun member => absurd (isDigit_of_mem_digits member) (by decide)
  have concat : host.toList ++ ':' :: digits port = (host.toList ++ ':' :: early) ++ [last] := by simp [ending]
  have unblanked : trimBlanks (text (.remote host port)).toList = scheme ++ (host.toList ++ ':' :: digits port) := by
    rw [toList_text_remote, trimBlanks, concat, ← List.append_assoc]
    have start : (scheme ++ (host.toList ++ ':' :: early) ++ [last]).dropWhile isBlank =
        scheme ++ (host.toList ++ ':' :: early) ++ [last] := List.dropWhile_cons_of_neg (by decide)
    rw [start, trimEnd_concat isBlank (isBlank_of_isDigit isDigit)]
  have unslashed : trimEnd (· == '/') (host.toList ++ ':' :: digits port) = host.toList ++ ':' :: digits port := by
    have notSlash : (last == '/') = false := by
      rw [beq_eq_false_iff_ne]
      rintro rfl
      exact absurd isDigit (by decide)
    rw [concat]
    exact trimEnd_concat (· == '/') notSlash _
  have notLocal : localNames.contains (host.toList ++ ':' :: digits port) = false :=
    concat ▸ localNames_contains isDigit
  rw [ofDefaultName, unblanked, dropScheme_append]
  simp only [unslashed, notLocal, splitAtLastColon?_append _ noColon, port?_digits, String.ofList_toList,
    Bool.false_eq_true, if_false]

theorem ofDefaultName_text_local : ofDefaultName (text .local) = .ok .local := by decide +kernel

/-- What is read is the local disk or a remote target, and a name that cannot be read is one of no known host. -/
theorem ofDefaultName_cases (name : String) :
    ofDefaultName name = .ok .local ∨ (∃ host port, ofDefaultName name = .ok (.remote host port)) ∨
      ∃ exception, ofDefaultName name = .error exception ∧ exception.kind = .unknownHost := by
  simp only [ofDefaultName]
  split
  · exact .inl rfl
  · split
    · exact .inr (.inr ⟨_, rfl, rfl⟩)
    · split
      · exact .inr (.inr ⟨_, rfl, rfl⟩)
      · exact .inr (.inl ⟨_, _, rfl⟩)

end Target

/-! ## Connecting -/

namespace Engine

theorem connect_local (engine : Engine) :
    connect .local engine = onStorage (Storage.localClient engine.conf) engine := by
  rw [connect, bind_get]
  exact bind_of_ok rfl

theorem connect_remote (engine : Engine) (host : String) (port : UInt16) :
    connect (.remote host port) engine = connectRemote host port engine := by
  rw [connect, bind_get]
  exact bind_of_ok rfl

/-- Connecting to the default target is connecting to what the configured name says, which is not that target. -/
theorem connect_default (engine : Engine) :
    (∃ target, target ≠ .default ∧ Target.ofDefaultName engine.conf.defaultName = .ok target ∧
      connect .default engine = connect target engine) ∨
    ∃ exception, Target.ofDefaultName engine.conf.defaultName = .error exception ∧
      connect .default engine = .error (.raised exception) engine := by
  rw [connect, bind_get]
  rcases Target.ofDefaultName_cases engine.conf.defaultName with read | ⟨host, port, read⟩ | ⟨exception, read, -⟩
  · rw [read]
    exact .inl ⟨.local, by simp, rfl, (bind_of_ok rfl).trans (connect_local engine).symm⟩
  · rw [read]
    exact .inl ⟨.remote host port, by simp, rfl, (bind_of_ok rfl).trans (connect_remote engine host port).symm⟩
  · rw [read]
    exact .inr ⟨exception, rfl, bind_of_error rfl⟩

/-! ## Connecting comes to an end -/

private theorem onStorage_ends {action : Action Nat} {engine : Engine}
    (ends : Storage.Ends (action engine.storage) fun _ _ => True) (after : Engine) :
    onStorage action engine ≠ .error .endless after := by
  rw [onStorage]
  rcases ran : action engine.storage with ⟨client, storage⟩ | ⟨failure, storage⟩
  · simp
  · rw [ran] at ends
    have notEndless : failure ≠ .endless := ends
    simp [notEndless]

private theorem localClient_ends (conf : Configuration) (storage : Storage) :
    Storage.Ends (Storage.localClient conf storage) fun _ _ => True := by
  rw [Storage.localClient, bind_get]
  cases storage.disk.workingDirectory with
  | none => exact .raise _
  | some directory => trivial

private theorem connectCluster_ends (cluster : Nat) (authority : String) (script : Script) (storage : Storage) :
    Storage.Ends (Storage.connectCluster cluster authority script storage) fun _ _ => True := by
  have connects : Storage.Ends ((do
      let found ← Storage.clusterAt cluster
      if found.authority ≠ authority then Storage.raise (.refused authority)
      Storage.clusterClient cluster script : Action Nat) storage) fun _ _ => True := by
    cases present : storage.clusters[cluster]? with
    | none =>
      rw [bind_of_error (Storage.clusterAt_of_none present)]
      exact show Failure.unknown ≠ .endless by simp
    | some found =>
      rw [bind_of_ok (Storage.clusterAt_of_some present)]
      split
      · exact .raise _
      · trivial
  rw [Storage.connectCluster, Storage.scripted]
  rcases script.reaction? .connect with _ | exception | words | answer
  · exact connects
  · exact .raise exception
  · exact show Failure.crashed words ≠ .endless by simp
  · exact connects

/-- No connecting goes on for ever. -/
theorem connect_ends (engine : Engine) (target : Target) (after : Engine) :
    connect target engine ≠ .error .endless after := by
  have direct (target : Target) (named : target ≠ .default) : connect target engine ≠ .error .endless after := by
    cases target with
    | default => contradiction
    | «local» =>
      rw [connect_local]
      exact onStorage_ends (localClient_ends engine.conf engine.storage) after
    | remote host port =>
      rw [connect_remote, connectRemote, bind_get]
      cases engine.factories.get? (Target.authority host port) with
      | none => exact show EStateM.Result.error _ engine ≠ _ by simp
      | some factory => exact onStorage_ends (connectCluster_ends _ _ _ engine.storage) after
  by_cases named : target = .default
  · subst named
    rcases connect_default engine with ⟨target, named, -, same⟩ | ⟨exception, -, same⟩ <;> rw [same]
    · exact direct target named
    · simp
  · exact direct target named

/-- Connecting as it recurs: the default target asks again, with the target that the configured name says. -/
inductive Connects (engine : Engine) : Target → EStateM.Result Failure Engine Nat → Prop
  | toDisk : Connects engine .local (onStorage (Storage.localClient engine.conf) engine)
  | toCluster (host : String) (port : UInt16) :
      Connects engine (.remote host port) (connectRemote host port engine)
  | unread {exception : Exception} (failed : Target.ofDefaultName engine.conf.defaultName = .error exception) :
      Connects engine .default (.error (.raised exception) engine)
  | again {target : Target} {result : EStateM.Result Failure Engine Nat}
      (read : Target.ofDefaultName engine.conf.defaultName = .ok target) (onward : Connects engine target result) :
      Connects engine .default result

/-- The recursion comes to an end for every target and every configuration, and this is what it comes to. -/
theorem connects_iff (engine : Engine) (target : Target) (result : EStateM.Result Failure Engine Nat) :
    Connects engine target result ↔ result = connect target engine := by
  have direct (target : Target) (named : target ≠ .default) : Connects engine target (connect target engine) := by
    cases target with
    | default => contradiction
    | «local» => exact connect_local engine ▸ .toDisk
    | remote host port => exact connect_remote engine host port ▸ .toCluster host port
  constructor
  · intro connects
    induction connects with
    | toDisk => exact (connect_local engine).symm
    | toCluster host port => exact (connect_remote engine host port).symm
    | unread failed =>
      rcases connect_default engine with ⟨target, -, read, -⟩ | ⟨exception, read, same⟩ <;> rw [failed] at read
      · cases read
      · rw [same, Except.error.inj read]
    | again found _ same =>
      rcases connect_default engine with ⟨target, -, read, onward⟩ | ⟨exception, read, -⟩ <;> rw [found] at read
      · rw [onward, same, Except.ok.inj read]
      · cases read
  · rintro rfl
    by_cases named : target = .default
    · subst named
      rcases connect_default engine with ⟨target, named, read, same⟩ | ⟨exception, read, same⟩ <;> rw [same]
      · exact .again read (direct target named)
      · exact .unread read
    · exact direct target named

/-- For every host and every port, the text of the target is read as the target, and the text of the local disk
as the local disk. Whatever name is read, the text of what was read is read as the same again, and it is never the
default target; a name that is not read is one of no known host. So connecting to the default target comes to an
end under every configuration: the recursion has a result, which is that of connecting to what the configured
name says. -/
theorem default_names_round_trip :
    (∀ host port, Target.ofDefaultName (Target.text (.remote host port)) = .ok (.remote host port)) ∧
    Target.ofDefaultName (Target.text .local) = .ok .local ∧
    (∀ name target, Target.ofDefaultName name = .ok target →
      Target.ofDefaultName target.text = .ok target ∧ target ≠ .default) ∧
    (∀ name exception, Target.ofDefaultName name = .error exception → exception.kind = .unknownHost) ∧
    ∀ engine : Engine,
      (∀ result, Connects engine .default result ↔ result = connect .default engine) ∧
      (∀ after, connect .default engine ≠ .error .endless after) ∧
      connect .default engine = match Target.ofDefaultName engine.conf.defaultName with
        | .ok target => connect target engine
        | .error exception => .error (.raised exception) engine := by
  refine ⟨Target.ofDefaultName_text_remote, Target.ofDefaultName_text_local, fun name target found => ?_,
    fun name exception failed => ?_, fun engine => ⟨connects_iff engine .default, connect_ends engine .default, ?_⟩⟩
  · rcases Target.ofDefaultName_cases name with read | ⟨host, port, read⟩ | ⟨exception, read, -⟩ <;>
      rw [read] at found <;> cases found
    · exact ⟨Target.ofDefaultName_text_local, by simp⟩
    · exact ⟨Target.ofDefaultName_text_remote host port, by simp⟩
  · rcases Target.ofDefaultName_cases name with read | ⟨host, port, read⟩ | ⟨other, read, unknown⟩ <;>
      rw [read] at failed <;> cases failed
    exact unknown
  · rcases connect_default engine with ⟨target, -, read, same⟩ | ⟨exception, read, same⟩ <;> rw [same, read]

/-- A host of slashes, blanks and colons, with blanks, the scheme and slashes around it and a port that is written
at length; and a name without a port. -/
theorem default_names_round_trip_of_strange_host :
    let name := " hdfs://hdfs:// a:/b:+0080// "
    let target := Target.remote "hdfs:// a:/b" 80
    Target.ofDefaultName name = .ok target ∧ Target.ofDefaultName target.text = .ok target ∧
      target.text = "hdfs://hdfs:// a:/b:80" ∧
      ∃ exception, Target.ofDefaultName "default" = .error exception ∧ exception.kind = .unknownHost := by
  intro name target
  obtain ⟨-, -, again, unread, -⟩ := default_names_round_trip
  have read : Target.ofDefaultName name = .ok target := by decide +kernel
  have failed : Target.ofDefaultName "default" = .error (.noPort "default") := by decide +kernel
  exact ⟨read, (again name target read).1, by decide +kernel, _, failed, unread _ _ failed⟩

end Engine

end FileGateway
