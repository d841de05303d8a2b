import FileGateway.Exception
import FileGateway.Text.Blank

/-! # Connection targets

A target says what to connect to. The configuration names one as `local` or `host:port`, with an
optional scheme in front and slashes behind.
-/

namespace FileGateway

inductive Target
  /-- The local disk. -/
  | local
  /-- What the configuration names. -/
  | default
  | remote (host : String) (port : UInt16)
deriving DecidableEq, Repr

namespace Target

def scheme : List Char := "hdfs://".toList

/-- The spellings that mean the local disk, once slashes behind are gone. -/
def localNames : List (List Char) :=
  ["".toList, "local".toList, "file:".toList, "file://".toList]

/-- A decimal number below 65536, with an optional plus sign and any leading zeros. -/
def port? (text : List Char) : Option UInt16 :=
  let digits := match text with
    | '+' :: rest => rest
    | _ => text
  if digits.isEmpty ∨ ¬ digits.all Char.isDigit then none
  else
    let value := digits.foldl (fun value digit => 10 * value + (digit.toNat - 48)) 0
    if value < 65536 then some (UInt16.ofNat value) else none

/-- The text around the last colon. -/
def splitAtLastColon? (text : List Char) : Option (List Char × List Char) :=
  let behind := text.reverse.takeWhile (· != ':')
  match text.reverse.dropWhile (· != ':') with
  | [] => none
  | _ :: ahead => some (ahead.reverse, behind.reverse)

def dropScheme (text : List Char) : List Char :=
  if scheme.isPrefixOf text then text.drop scheme.length else text

/-- Reads a default name. -/
def ofDefaultName (name : String) : Except Exception Target :=
  let text := trimEnd (· == '/') (dropScheme (trimBlanks name.toList))
  if localNames.contains text then .ok .local
  else
    match splitAtLastColon? text with
    | none => .error (.noPort (String.ofList text))
    | some (host, digits) =>
      match port? digits with
      | none => .error (.badPort (String.ofList text))
      | some port => .ok (.remote (String.ofList host) port)

/-- The address of a remote target. -/
def authority (host : String) (port : UInt16) : String := s!"{host}:{port}"

def text : Target → String
  | .local => "file:///"
  | .default => "default"
  | .remote host port => s!"hdfs://{authority host port}"

end Target

end FileGateway
