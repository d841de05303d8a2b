import FileGateway.SystemError

/-! # Transfers

Reading from a file and writing to one goes by transfers of the system. A transfer moves at least one
byte where there is one to move, but perhaps fewer than it could, or it is refused and moves none. What
becomes of the transfers of a stream is written down beforehand; nothing else is known of it, so what
holds for all such lists holds whatever the system does.
-/

namespace FileGateway

/-- What the system makes of one transfer. -/
inductive Transfer
  /-- So many bytes move at most, and one at least. -/
  | moved (most : Nat)
  | refused (error : SystemError)
deriving DecidableEq, Repr

namespace Transfer

/-- No transfer moves more bytes. -/
def limit : Nat := 0x7ffff000

/-- The bytes that the first transfer moves at most, and the transfers after it. Behind the last one
that is written down, every transfer moves what it can. -/
def next : List Transfer → Except SystemError Nat × List Transfer
  | [] => (.ok limit, [])
  | moved most :: rest => (.ok (min limit (max 1 most)), rest)
  | refused error :: rest => (.error error, rest)

/-- How far writing got, whether it was stopped, and the transfers that are left. -/
structure Delivery where
  arrived : Nat
  outcome : Except SystemError Unit
  transfers : List Transfer

/-- Writes so many bytes, in as many transfers as it takes. A transfer that was interrupted is tried
again; any other refusal stops it. -/
def deliver : List Transfer → Nat → Delivery
  | transfers, 0 => ⟨0, .ok (), transfers⟩
  | [], count => ⟨count, .ok (), []⟩
  | moved most :: rest, count =>
    let step := min count (min limit (max 1 most))
    let later := deliver rest (count - step)
    { later with arrived := step + later.arrived }
  | refused error :: rest, count =>
    if error.errorKind = .interrupted then deliver rest count else ⟨0, .error error, rest⟩

end Transfer

end FileGateway
