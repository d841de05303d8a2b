import FileGateway.Toml.Document

/-! # Option (TOML × List Char) lines

A text is read line by line into pairs and headers. Readers take the characters ahead and return
what they found with the characters behind it, or nothing if the text is malformed. Values nest at
most `maxDepth - 1` deep and keys have fewer than `maxDepth` parts.
-/

namespace FileGateway.Toml

/-- Nesting from this depth on is refused. -/
def maxDepth : Nat := 80

/-! ## Blanks, comments and line ends -/

def isSpace (character : Char) : Bool := character == ' ' || character == '\t'

def skipSpaces (text : List Char) : List Char := text.dropWhile isSpace

/-- Control characters other than the tab never stand in comments and strings. -/
def isPlain (character : Char) : Bool :=
  character == '\t' || (' ' ≤ character && character != '\x7f')

def newline? : List Char → Option (List Char)
  | '\n' :: rest => some rest
  | '\r' :: '\n' :: rest => some rest
  | _ => none

/-- What follows a comment, if one starts here. -/
def skipComment : List Char → List Char
  | '#' :: rest => rest.dropWhile isPlain
  | text => text

/-- The end of a line: spaces, a comment, and a newline or the end of the text. -/
def lineEnd? (text : List Char) : Option (List Char) :=
  match skipComment (skipSpaces text) with
  | [] => some []
  | rest => newline? rest

/-- Skips spaces, comments and newlines, at most `fuel` of them. -/
def skipLines : Nat → List Char → List Char
  | 0, text => text
  | fuel + 1, text =>
    let rest := skipSpaces text
    match newline? (skipComment rest) with
    | some next => skipLines fuel next
    | none => rest

def skipBlank (text : List Char) : List Char := skipLines text.length text

/-- Skips spaces and newlines, at most `fuel` of the latter. -/
def skipGap : Nat → List Char → List Char
  | 0, text => skipSpaces text
  | fuel + 1, text =>
    match newline? (skipSpaces text) with
    | some next => skipGap fuel next
    | none => skipSpaces text

/-! ## Strings -/

/-- The value of a hexadecimal digit. -/
def hexValue? (character : Char) : Option Nat :=
  if '0' ≤ character ∧ character ≤ '9' then some (character.toNat - 48)
  else if 'a' ≤ character ∧ character ≤ 'f' then some (character.toNat - 87)
  else if 'A' ≤ character ∧ character ≤ 'F' then some (character.toNat - 55)
  else none

/-- A Unicode scalar value written in hexadecimal. -/
def scalar? (digits : List Char) : Option Char := do
  let values ← digits.mapM hexValue?
  let code := values.foldl (fun code digit => 16 * code + digit) 0
  if code < 0xd800 ∨ (0xdfff < code ∧ code < 0x110000) then some (Char.ofNat code) else none

/-- The character of an escape, from behind the backslash. -/
def escaped? : List Char → Option (Char × List Char)
  | 'b' :: rest => some ('\x08', rest)
  | 't' :: rest => some ('\t', rest)
  | 'n' :: rest => some ('\n', rest)
  | 'f' :: rest => some ('\x0c', rest)
  | 'r' :: rest => some ('\r', rest)
  | '\x22' :: rest => some ('\x22', rest)
  | '\\' :: rest => some ('\\', rest)
  | 'u' :: rest =>
    if 4 ≤ rest.length then (scalar? (rest.take 4)).map (·, rest.drop 4) else none
  | 'U' :: rest =>
    if 8 ≤ rest.length then (scalar? (rest.take 8)).map (·, rest.drop 8) else none
  | _ => none

/-- The rest of a string between double quotes. -/
def basicString : Nat → List Char → Option (List Char × List Char)
  | 0, _ => none
  | _ + 1, [] => none
  | _ + 1, '\x22' :: rest => some ([], rest)
  | fuel + 1, '\\' :: rest => do
    let (character, rest) ← escaped? rest
    let (text, rest) ← basicString fuel rest
    some (character :: text, rest)
  | fuel + 1, character :: rest =>
    if isPlain character then
      (basicString fuel rest).map fun (text, rest) => (character :: text, rest)
    else none

/-- The rest of a string between apostrophes. -/
def literalString : List Char → Option (List Char × List Char)
  | [] => none
  | character :: rest =>
    if character = '\x27' then some ([], rest)
    else if isPlain character then
      (literalString rest).map fun (text, rest) => (character :: text, rest)
    else none

/-- A run of quotes inside a long string: its content, and what follows the string if the run
closes it. Up to two quotes may stand right before the closing three. -/
def closing (quote : Char) (run : List Char) (rest : List Char) : List Char × Option (List Char) :=
  if run.length < 3 then (run, none)
  else
    let inside := min (run.length - 3) 2
    (List.replicate inside quote, some (run.drop (inside + 3) ++ rest))

/-- The rest of a long string. A basic one knows escapes, and a backslash at the end of a line
swallows the blanks up to the next text. -/
def longString (quote : Char) : Nat → List Char → Option (List Char × List Char)
  | 0, _ => none
  | _ + 1, [] => none
  | fuel + 1, character :: rest =>
    if character = quote then
      match closing quote (quote :: rest.takeWhile (· == quote)) (rest.dropWhile (· == quote)) with
      | (inside, some rest) => some (inside, rest)
      | (inside, none) =>
        (longString quote fuel (rest.dropWhile (· == quote))).map fun (text, rest) =>
          (inside ++ text, rest)
    else if character = '\\' ∧ quote = '\x22' then
      match newline? (skipSpaces rest) with
      | some next =>
        longString quote fuel (skipGap next.length next)
      | none => do
        let (escapedCharacter, rest) ← escaped? rest
        let (text, rest) ← longString quote fuel rest
        some (escapedCharacter :: text, rest)
    else
      match newline? (character :: rest) with
      | some next => (longString quote fuel next).map fun (text, rest) => ('\n' :: text, rest)
      | none =>
        if isPlain character then
          (longString quote fuel rest).map fun (text, rest) => (character :: text, rest)
        else none

/-- A long string does not hold a newline right behind its opening. -/
def longStringBody (quote : Char) (text : List Char) : Option (List Char × List Char) :=
  let body := (newline? text).getD text
  longString quote (body.length + 1) body

/-- Any string, from its opening quote on. -/
def string? : List Char → Option (String × List Char)
  | '\x22' :: '\x22' :: '\x22' :: rest =>
    (longStringBody '\x22' rest).map fun (text, rest) => (.ofList text, rest)
  | '\x27' :: '\x27' :: '\x27' :: rest =>
    (longStringBody '\x27' rest).map fun (text, rest) => (.ofList text, rest)
  | '\x22' :: rest =>
    (basicString (rest.length + 1) rest).map fun (text, rest) => (.ofList text, rest)
  | '\x27' :: rest => (literalString rest).map fun (text, rest) => (.ofList text, rest)
  | _ => none

/-! ## Keys -/

def isBare (character : Char) : Bool :=
  character.isAlphanum || character == '_' || character == '-'

/-- One part of a key. -/
def keyPart? : List Char → Option (Key × List Char)
  | '\x22' :: rest =>
    (basicString (rest.length + 1) rest).map fun (text, rest) => (.ofList text, rest)
  | '\x27' :: rest => (literalString rest).map fun (text, rest) => (.ofList text, rest)
  | text =>
    match text.takeWhile isBare with
    | [] => none
    | bare => some (.ofList bare, text.dropWhile isBare)

/-- The parts of a key between dots. -/
def keyParts : Nat → List Char → Option (List Key × List Char)
  | 0, _ => none
  | fuel + 1, text => do
    let (part, rest) ← keyPart? (skipSpaces text)
    match skipSpaces rest with
    | '.' :: rest =>
      let (parts, rest) ← keyParts fuel rest
      some (part :: parts, rest)
    | rest => some ([part], rest)

/-- A key, split into the path in front and its last part. -/
def key? (text : List Char) : Option ((List Key × Key) × List Char) := do
  let (parts, rest) ← keyParts maxDepth text
  if maxDepth ≤ parts.length then none
  else
    let last ← parts.getLast?
    some ((parts.dropLast, last), rest)

/-! ## Numbers and dates -/

/-- Digits with single underscores between them. -/
def grouped? (isDigit : Char → Bool) : List Char → Option (List Char)
  | [] => none
  | [digit] => if isDigit digit then some [digit] else none
  | digit :: '_' :: rest =>
    if isDigit digit then (grouped? isDigit rest).map (digit :: ·) else none
  | digit :: rest => if isDigit digit then (grouped? isDigit rest).map (digit :: ·) else none

/-- The value of digits in a base. -/
def digitsValue (base : Nat) (digits : List Char) : Nat :=
  digits.foldl (fun value digit => base * value + (hexValue? digit).getD 0) 0

/-- A sign in front of a number: whether it is a minus, and the rest. -/
def signed : List Char → Bool × List Char
  | '-' :: rest => (true, rest)
  | '+' :: rest => (false, rest)
  | text => (false, text)

/-- Decimal digits without a superfluous zero in front. -/
def decimal? (text : List Char) : Option (List Char) :=
  match grouped? Char.isDigit text with
  | some ('0' :: _ :: _) => none
  | digits => digits

/-- Integers have 64 bits with a sign. -/
def integerLimit : Int := 0x8000000000000000

/-- An integer is decimal with an optional sign, or unsigned in another base, within 64 bits. -/
def integer? (text : List Char) : Option Int :=
  let inBase := fun (base : Nat) (isDigit : Char → Bool) (digits : List Char) =>
    (grouped? isDigit digits).map fun digits => (digitsValue base digits : Int)
  let value := match text with
    | '0' :: 'x' :: digits => inBase 16 (fun c => (hexValue? c).isSome) digits
    | '0' :: 'o' :: digits => inBase 8 (fun c => '0' ≤ c && c ≤ '7') digits
    | '0' :: 'b' :: digits => inBase 2 (fun c => c == '0' || c == '1') digits
    | _ =>
      let (negative, digits) := signed text
      (decimal? digits).map fun digits =>
        let value : Int := digitsValue 10 digits
        if negative then -value else value
  value.filter fun value => -integerLimit ≤ value ∧ value < integerLimit

/-- The exponent behind an `e`. -/
def exponent? (text : List Char) : Option Int :=
  let (negative, digits) := signed text
  (grouped? Char.isDigit digits).map fun digits =>
    let value : Int := digitsValue 10 digits
    if negative then -value else value

/-- A float has a fraction, an exponent, or both, or is infinite or no number. A positive number
beyond the range is refused. -/
def float? (text : List Char) : Option Binary64 :=
  let (negative, body) := signed text
  if body = ['i', 'n', 'f'] then some (.infinite negative)
  else if body = ['n', 'a', 'n'] then some .notANumber
  else do
    let isExponent := fun c => c == 'e' || c == 'E'
    let mantissa := body.takeWhile fun c => !isExponent c
    let behind := body.dropWhile fun c => !isExponent c
    let power ← match behind with
      | [] => some 0
      | _ :: digits => exponent? digits
    let whole ← decimal? (mantissa.takeWhile (· != '.'))
    let fraction ← match mantissa.dropWhile (· != '.') with
      | [] => if behind.isEmpty then none else some []
      | _ :: digits => grouped? Char.isDigit digits
    let value :=
      Binary64.ofDecimal negative (digitsValue 10 (whole ++ fraction)) (power - fraction.length)
    if value = .infinite false then none else some value

/-- A number of exactly `count` digits within bounds. -/
def field? (count low high : Nat) (text : List Char) : Option (Nat × List Char) :=
  let digits := text.take count
  let value := digitsValue 10 digits
  if digits.length = count ∧ digits.all Char.isDigit ∧ low ≤ value ∧ value ≤ high then
    some (value, text.drop count)
  else none

/-- One expected character. -/
def expect (character : Char) : List Char → Option (List Char)
  | [] => none
  | found :: rest => if found = character then some rest else none

def daysIn (year month : Nat) : Nat :=
  if month = 2 then
    if year % 4 = 0 ∧ (year % 100 ≠ 0 ∨ year % 400 = 0) then 29 else 28
  else if month = 4 ∨ month = 6 ∨ month = 9 ∨ month = 11 then 30 else 31

/-- A date, with what follows it. -/
def date? (text : List Char) : Option (List Char) := do
  let (year, rest) ← field? 4 0 9999 text
  let rest ← expect '-' rest
  let (month, rest) ← field? 2 1 12 rest
  let rest ← expect '-' rest
  let (_, rest) ← field? 2 1 (daysIn year month) rest
  some rest

/-- A time of day, with what follows it. -/
def time? (text : List Char) : Option (List Char) := do
  let (_, rest) ← field? 2 0 23 text
  let rest ← expect ':' rest
  let (_, rest) ← field? 2 0 59 rest
  let rest ← expect ':' rest
  let (_, rest) ← field? 2 0 60 rest
  match rest with
  | '.' :: digits =>
    if (digits.takeWhile Char.isDigit).isEmpty then none
    else some (digits.dropWhile Char.isDigit)
  | rest => some rest

/-- An offset from universal time, with what follows it. -/
def offset? : List Char → Option (List Char)
  | 'Z' :: rest | 'z' :: rest => some rest
  | sign :: rest =>
    if sign = '+' ∨ sign = '-' then do
      let (_, rest) ← field? 2 0 23 rest
      let rest ← expect ':' rest
      let (_, rest) ← field? 2 0 59 rest
      some rest
    else none
  | [] => none

/-- A time with an optional offset that takes up the whole text. -/
def isClock (text : List Char) : Bool :=
  match time? text with
  | some [] => true
  | some rest => offset? rest == some []
  | none => false

/-- A date, a time of day, or a date and a time, that takes up the whole text. -/
def isMoment (text : List Char) : Bool :=
  match date? text with
  | some [] => true
  | some (separator :: rest) => (separator == 'T' || separator == 't') && isClock rest
  | none => time? text == some []

/-- A value ends before a blank, a comment or a character that closes or separates values. -/
def endsValue (character : Char) : Bool :=
  [' ', '\t', '\n', '\r', '#', ',', ']', '\x7d'].contains character

/-- A value that is neither string nor collection. A date may be followed by one space and a time
of day. -/
def word? (text : List Char) : Option (Value × List Char) :=
  let word := text.takeWhile fun c => !endsValue c
  let rest := text.dropWhile fun c => !endsValue c
  if word = "true".toList then some (.boolean true, rest)
  else if word = "false".toList then some (.boolean false, rest)
  else if date? word = some [] then
    match rest with
    | ' ' :: clock =>
      if isClock (clock.takeWhile fun c => !endsValue c) then
        some (.moment, clock.dropWhile fun c => !endsValue c)
      else some (.moment, rest)
    | _ => some (.moment, rest)
  else if isMoment word then some (.moment, rest)
  else
    match float? word, integer? word with
    | some value, _ => some (.float value, rest)
    | none, some value => some (.integer value, rest)
    | none, none => none

/-! ## Collections -/

/-- The rest of an array, before an element or the closing bracket. -/
def elements (element : List Char → Option (Value × List Char)) :
    Nat → List Char → Option (List Char)
  | 0, _ => none
  | fuel + 1, text =>
    match skipBlank text with
    | ']' :: rest => some rest
    | text => do
      let (_, rest) ← element text
      match skipBlank rest with
      | ',' :: rest => elements element fuel rest
      | ']' :: rest => some rest
      | _ => none

/-- The pairs of an inline table, each behind the opening brace or a comma. -/
def pairs (element : List Char → Option (Value × List Char)) (table : Node) :
    Nat → List Char → Option (List Char)
  | 0, _ => none
  | fuel + 1, text => do
    let ((path, key), rest) ← key? text
    let rest ← expect '=' rest
    let (value, rest) ← element (skipSpaces rest)
    let table ← table.addPair path key value
    match skipSpaces rest with
    | ',' :: rest => pairs element table fuel rest
    | '\x7d' :: rest => some rest
    | _ => none

/-- A value that may nest `depth` deep. -/
def value? : Nat → List Char → Option (Value × List Char)
  | _, '\x22' :: rest => (string? ('\x22' :: rest)).map fun (text, rest) => (.text text, rest)
  | _, '\x27' :: rest => (string? ('\x27' :: rest)).map fun (text, rest) => (.text text, rest)
  | depth + 1, '[' :: rest =>
    (elements (value? depth) (rest.length + 1) rest).map (Value.array, ·)
  | depth + 1, '\x7b' :: rest =>
    match skipSpaces rest with
    | '\x7d' :: rest => some (.inlineTable, rest)
    | rest => (pairs (value? depth) .emptyTable (rest.length + 1) rest).map (Value.inlineTable, ·)
  | _, text => word? text

/-! ## Lines -/

/-- A line that says something, up to the start of the next line. -/
def line? : List Char → Option (Line × List Char)
  | '[' :: '[' :: rest => do
    let ((path, key), rest) ← key? rest
    let rest ← expect ']' rest
    let rest ← expect ']' rest
    let rest ← lineEnd? rest
    some (.arrayHeader path key, rest)
  | '[' :: rest => do
    let ((path, key), rest) ← key? rest
    let rest ← expect ']' rest
    let rest ← lineEnd? rest
    some (.header path key, rest)
  | text => do
    let ((path, key), rest) ← key? text
    let rest ← expect '=' rest
    let (value, rest) ← value? (maxDepth - 1) (skipSpaces rest)
    let rest ← lineEnd? rest
    some (.pair path key value, rest)

/-- The lines of a text. -/
def linesFrom : Nat → List Char → Option (List Line)
  | 0, _ => none
  | fuel + 1, text =>
    match skipBlank text with
    | [] => some []
    | '#' :: rest => if (rest.dropWhile isPlain).isEmpty then some [] else none
    | text => do
      let (line, rest) ← line? text
      let lines ← linesFrom fuel rest
      some (line :: lines)

/-- The top-level entries of a TOML text, in order. A byte order mark in front is skipped. -/
def parse? (text : List Char) : Option (List (Key × Node)) := do
  let body := match text with
    | '\ufeff' :: rest => rest
    | text => text
  let lines ← linesFrom (body.length + 1) body
  Document.ofLines? lines

end FileGateway.Toml
