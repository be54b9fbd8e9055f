import Troupe.Cursor
import Troupe.Json.Basic
import Troupe.Text.Hex
import Troupe.Text.Utf8

/-!
# JSON text, read

A reader for one JSON document that names what is wrong with a bad one and where.
It works on bytes; the text of a string is checked to be UTF-8 when its closing
quote is reached.

## Numbers

A literal without fraction and exponent stays an integer if it fits 64 bits,
unsigned or negative; `-0` and everything else is the nearest float, and a float
that would overflow is an error.

## Repeated keys

The last value of a repeated key wins and takes the first one's place.
-/

namespace Troupe

open Number

inductive JsonFault where
  | endInValue
  | endInList
  | endInObject
  | endInString
  | expectedValue
  | expectedCommaOrBracket
  | expectedCommaOrBrace
  | expectedColon
  | keyNotString
  | trailingComma
  | trailingCharacters
  | tooDeep
  | invalidNumber
  | numberOutOfRange
  | expectedIdent
  | invalidEscape
  | controlCharacter
  | unexpectedEndOfHexEscape
  | loneLeadingSurrogate
  | invalidCodePoint
deriving DecidableEq, Repr

def JsonFault.message : JsonFault -> String
  | endInValue => "EOF while parsing a value"
  | endInList => "EOF while parsing a list"
  | endInObject => "EOF while parsing an object"
  | endInString => "EOF while parsing a string"
  | expectedValue => "expected value"
  | expectedCommaOrBracket => "expected `,` or `]`"
  | expectedCommaOrBrace => "expected `,` or `\x7d`"
  | expectedColon => "expected `:`"
  | keyNotString => "key must be a string"
  | trailingComma => "trailing comma"
  | trailingCharacters => "trailing characters"
  | tooDeep => "recursion limit exceeded"
  | invalidNumber => "invalid number"
  | numberOutOfRange => "number out of range"
  | expectedIdent => "expected ident"
  | invalidEscape => "invalid escape"
  | controlCharacter => "control character (\\u0000-\\u001F) found while parsing a string"
  | unexpectedEndOfHexEscape => "unexpected end of hex escape"
  | loneLeadingSurrogate => "lone leading surrogate in hex escape"
  | invalidCodePoint => "invalid unicode code point"

/-- A fault with the place where reading stopped: the lines are counted from one,
the column is the number of bytes read of the last line. -/
structure JsonTextError where
  fault : JsonFault
  line : Nat
  column : Nat
deriving DecidableEq, Repr

def JsonTextError.message (error : JsonTextError) : String :=
  error.fault.message ++ " at line " ++ toString error.line ++ " column " ++
    toString error.column

namespace Json

def maxTextDepth : Nat := 127

/-!
## Positions
-/

/-- A fault, the number of bytes read, and how far its column lies before them. -/
structure Stop where
  fault : JsonFault
  offset : Nat
  back : Nat

/-- A fault noticed after the byte in question was read. -/
def stopAt (c : Cursor) (fault : JsonFault) : Stop :=
  { fault := fault, offset := c.offset, back := 0 }

/-- A fault noticed at the next byte, which then counts as read. -/
def stopAtNext (c : Cursor) (fault : JsonFault) : Stop :=
  stopAt c.next fault

def isBlank (b : UInt8) : Bool :=
  b == 0x20 || b == 0x09 || b == 0x0a || b == 0x0d

def skipBlanks (c : Cursor) : Cursor :=
  c.advance (c.rest.takeWhile isBlank).length

def Stop.locate (stop : Stop) (input : List UInt8) : JsonTextError :=
  let before := input.take stop.offset
  let lastLine := before.reverse.takeWhile (· != 0x0a)
  { fault := stop.fault
    line := 1 + before.count 0x0a
    column := lastLine.length - stop.back }

/-!
## Words and numbers
-/

def readWord (value : Json) : List UInt8 -> Cursor -> Except Stop (Json × Cursor)
  | [], c => .ok (value, c)
  | expected :: more, c =>
      match c.rest with
      | [] => .error (stopAt c JsonFault.endInValue)
      | b :: _ =>
          if b == expected then readWord value more c.next
          else .error (stopAt c.next JsonFault.expectedIdent)

def isDigit (b : UInt8) : Bool :=
  0x30 ≤ b && b ≤ 0x39

def digitsValue (digits : List UInt8) : Nat :=
  digits.foldl (fun n b => n * 10 + (b.toNat - 0x30)) 0

def readDigits (c : Cursor) : List UInt8 × Cursor :=
  let digits := c.rest.takeWhile isDigit
  (digits, c.advance digits.length)

/-- The integer part: a zero by itself, or digits that start with another one. -/
def readWhole (c : Cursor) : Except Stop (List UInt8 × Cursor) :=
  match c.rest with
  | [] => .error (stopAt c JsonFault.endInValue)
  | b :: _ =>
      if b == 0x30 then
        if c.next.rest.head?.any isDigit then
          .error (stopAtNext c.next JsonFault.invalidNumber)
        else .ok ([b], c.next)
      else if isDigit b then .ok (readDigits c)
      else .error (stopAt c.next JsonFault.invalidNumber)

def readFraction (c : Cursor) : Except Stop (Option (List UInt8) × Cursor) :=
  if c.rest.head? == some 0x2e then
    let (digits, after) := readDigits c.next
    if digits.isEmpty then
      if c.next.rest.isEmpty then .error (stopAt c.next JsonFault.endInValue)
      else .error (stopAtNext c.next JsonFault.invalidNumber)
    else .ok (some digits, after)
  else .ok (none, c)

/-- An exponent as it is written: its sign and its value, which is missing when
it does not fit 32 bits. -/
structure WrittenExponent where
  negative : Bool
  value : Option Nat

/-- How many of the digits make the exponent overflow, if they do. -/
def exponentOverflow? (digits : List UInt8) : Option Nat :=
  (List.range digits.length).find? fun (n : Nat) =>
    0x80000000 ≤ digitsValue (digits.take (n + 1))

/-- The exponent, if there is one.  `zero` tells that the digits before it are
all zeros: only then may a positive exponent overflow. -/
def readExponent (zero : Bool) (c : Cursor) : Except Stop (Option WrittenExponent × Cursor) :=
  if c.rest.head? == some 0x65 || c.rest.head? == some 0x45 then
    let sign := c.next.rest.head?
    let negative := sign == some 0x2d
    let start := if negative || sign == some 0x2b then c.next.next else c.next
    let (digits, after) := readDigits start
    if digits.isEmpty then
      if start.rest.isEmpty then .error (stopAt start JsonFault.endInValue)
      else .error (stopAt start.next JsonFault.invalidNumber)
    else
      match exponentOverflow? digits with
      | none => .ok (some { negative := negative, value := some (digitsValue digits) }, after)
      | some n =>
          if !zero && !negative then
            .error (stopAt (start.advance (n + 1)) JsonFault.numberOutOfRange)
          else .ok (some { negative := negative, value := none }, after)
  else .ok (none, c)

/-- The float nearest to `n * 10 ^ e`.  Exponents that decide the outcome by
themselves are not multiplied out. -/
def nearestReal (negative : Bool) (n : Nat) (e : Int) : Binary64 :=
  let size : Int := (Nat.toDigits 10 n).length + e
  if n = 0 || size < -400 then Binary64.ofMagnitude negative 0
  else if 400 < size then Binary64.ofMagnitude negative BinaryFormat.binary64.infinity
  else if 0 ≤ e then Binary64.ofRatio negative (n * Nat.pow 10 e.toNat) 1
  else Binary64.ofRatio negative n (Nat.pow 10 (-e).toNat)

def integerNumber (negative : Bool) (n : Nat) : JsonNumber :=
  if negative then
    if 0 < n && n ≤ 0x8000000000000000 then JsonNumber.negative (Int64.ofInt (-(n : Int)))
    else JsonNumber.real (nearestReal true n 0)
  else if n < 0x10000000000000000 then JsonNumber.natural (UInt64.ofNat n)
  else JsonNumber.real (nearestReal false n 0)

/-- The decimal exponent of all digits taken together; an exponent too large to
be read as a number only occurs where it makes the value zero. -/
def realNumber (negative : Bool) (whole fraction : List UInt8)
    (exponent : Option WrittenExponent) : Binary64 :=
  let n := digitsValue (whole ++ fraction)
  match exponent with
  | none => nearestReal negative n (-(fraction.length : Int))
  | some { negative := below, value := some e } =>
      nearestReal negative n ((if below then -(e : Int) else e) - fraction.length)
  | some { value := none, .. } => Binary64.ofMagnitude negative 0

def readNumber (negative : Bool) (start : Cursor) : Except Stop (Json × Cursor) := do
  let (whole, c) <- readWhole start
  let (fraction, c) <- readFraction c
  let digits := whole ++ fraction.getD []
  let (exponent, c) <- readExponent (digits.all (· == 0x30)) c
  let value :=
    if fraction.isNone && exponent.isNone then integerNumber negative (digitsValue whole)
    else JsonNumber.real (realNumber negative whole (fraction.getD []) exponent)
  match value with
  | JsonNumber.real x =>
      if x.isFinite then return (number value, c)
      else throw (stopAt c JsonFault.numberOutOfRange)
  | _ => return (number value, c)

/-!
## Strings
-/

def simpleEscape? (letter : UInt8) : Option UInt8 :=
  if letter == 0x22 || letter == 0x5c || letter == 0x2f then some letter
  else if letter == 0x62 then some 0x08
  else if letter == 0x66 then some 0x0c
  else if letter == 0x6e then some 0x0a
  else if letter == 0x72 then some 0x0d
  else if letter == 0x74 then some 0x09
  else none

def hexUnit? (a b c d : UInt8) : Option Nat :=
  Text.hexNumber? ([a, b, c, d].map fun x => Char.ofNat x.toNat)

def codePointBytes (n : Nat) : List UInt8 :=
  String.utf8EncodeChar (Char.ofNat n)

/-- The bytes of a string up to its closing quote, escapes resolved.  `done`
holds the bytes so far in reverse. -/
def readStringBytes (done : List UInt8) (offset : Nat) :
    List UInt8 -> Except Stop (List UInt8 × Cursor)
  | [] => .error { fault := JsonFault.endInString, offset := offset, back := 0 }
  | b :: rest =>
      let stopAfter (n : Nat) (fault : JsonFault) : Except Stop (List UInt8 × Cursor) :=
        .error { fault := fault, offset := offset + n, back := 0 }
      if b == 0x22 then .ok (done.reverse, { rest := rest, offset := offset + 1 })
      else if b < 0x20 then stopAfter 1 JsonFault.controlCharacter
      else if b != 0x5c then readStringBytes (b :: done) (offset + 1) rest
      else
        match rest with
        | [] => stopAfter 1 JsonFault.endInString
        | letter :: rest =>
            if letter != 0x75 then
              match simpleEscape? letter with
              | some x => readStringBytes (x :: done) (offset + 2) rest
              | none => stopAfter 2 JsonFault.invalidEscape
            else
              match rest with
              | h1 :: h2 :: h3 :: h4 :: rest =>
                  match hexUnit? h1 h2 h3 h4 with
                  | none => stopAfter 6 JsonFault.invalidEscape
                  | some unit =>
                      if unit < 0xd800 || 0xdfff < unit then
                        readStringBytes ((codePointBytes unit).reverse ++ done) (offset + 6) rest
                      else if 0xdc00 ≤ unit then stopAfter 6 JsonFault.loneLeadingSurrogate
                      else
                        match rest with
                        | [] => stopAfter 6 JsonFault.endInString
                        | slash :: rest =>
                            if slash != 0x5c then stopAfter 7 JsonFault.unexpectedEndOfHexEscape
                            else
                              match rest with
                              | [] => stopAfter 7 JsonFault.endInString
                              | u :: rest =>
                                  if u != 0x75 then
                                    stopAfter 8 JsonFault.unexpectedEndOfHexEscape
                                  else
                                    match rest with
                                    | g1 :: g2 :: g3 :: g4 :: rest =>
                                        match hexUnit? g1 g2 g3 g4 with
                                        | none => stopAfter 12 JsonFault.invalidEscape
                                        | some trail =>
                                            if trail < 0xdc00 || 0xdfff < trail then
                                              stopAfter 12 JsonFault.loneLeadingSurrogate
                                            else
                                              let point := (unit - 0xd800) * 0x400 +
                                                (trail - 0xdc00) + 0x10000
                                              readStringBytes
                                                ((codePointBytes point).reverse ++ done)
                                                (offset + 12) rest
                                    | short => stopAfter (8 + short.length) JsonFault.endInString
              | short => stopAfter (2 + short.length) JsonFault.endInString

def readString (c : Cursor) : Except Stop (String × Cursor) := do
  let (bytes, after) <- readStringBytes [] c.offset c.rest
  match Text.decodeUtf8 bytes with
  | .ok s => return (s, after)
  | .error fault =>
      throw { fault := JsonFault.invalidCodePoint, offset := after.offset
              back := bytes.length - fault.validUpTo }

/-!
## Containers

The bytes left bound the number of entries, so they bound the loops; nesting
bounds the recursion.
-/

/-- The items of an array, read from after its bracket or the item before.
`first` tells that no item was read yet. -/
def readItems (value : Cursor -> Except Stop (Json × Cursor)) :
    Nat -> Bool -> Cursor -> Except Stop (List Json × Cursor)
  | 0, _, c => .error (stopAt c JsonFault.endInList)
  | fuel + 1, first, c =>
      let c := skipBlanks c
      match c.rest with
      | [] => .error (stopAt c JsonFault.endInList)
      | b :: _ => do
          if b == 0x5d then return ([], c.next)
          let start <-
            if first then pure c
            else if b == 0x2c then
              let c := skipBlanks c.next
              match c.rest with
              | [] => throw (stopAt c JsonFault.endInValue)
              | b :: _ =>
                  if b == 0x5d then throw (stopAtNext c JsonFault.trailingComma) else pure c
            else throw (stopAtNext c JsonFault.expectedCommaOrBracket)
          let (item, c) <- value start
          let (items, c) <- readItems value fuel false c
          return (item :: items, c)

/-- The place of a member's key: after the comma, unless it is the first. -/
def readKeyStart (first : Bool) (c : Cursor) (b : UInt8) : Except Stop Cursor :=
  if first then
    if b == 0x22 then .ok c else .error (stopAtNext c JsonFault.keyNotString)
  else if b == 0x2c then
    let c := skipBlanks c.next
    match c.rest with
    | [] => .error (stopAt c JsonFault.endInValue)
    | b :: _ =>
        if b == 0x22 then .ok c
        else if b == 0x7d then .error (stopAtNext c JsonFault.trailingComma)
        else .error (stopAtNext c JsonFault.keyNotString)
  else .error (stopAtNext c JsonFault.expectedCommaOrBrace)

def readColon (c : Cursor) : Except Stop Cursor :=
  let c := skipBlanks c
  match c.rest with
  | [] => .error (stopAt c JsonFault.endInObject)
  | b :: _ =>
      if b == 0x3a then .ok c.next else .error (stopAtNext c JsonFault.expectedColon)

def readMembers (value : Cursor -> Except Stop (Json × Cursor)) :
    Nat -> Bool -> Entries Json -> Cursor -> Except Stop (Entries Json × Cursor)
  | 0, _, _, c => .error (stopAt c JsonFault.endInObject)
  | fuel + 1, first, members, c =>
      let c := skipBlanks c
      match c.rest with
      | [] => .error (stopAt c JsonFault.endInObject)
      | b :: _ => do
          if b == 0x7d then return (members, c.next)
          let start <- readKeyStart first c b
          let (key, c) <- readString start.next
          let c <- readColon c
          let (member, c) <- value c
          readMembers value fuel false (Entries.insert members key member) c

/-- A value in which containers nest at most `levels` deep. -/
def readValue (levels : Nat) (start : Cursor) : Except Stop (Json × Cursor) :=
  let c := skipBlanks start
  match c.rest with
  | [] => .error (stopAt c JsonFault.endInValue)
  | b :: _ =>
      if b == 0x6e then readWord null [0x75, 0x6c, 0x6c] c.next
      else if b == 0x74 then readWord (bool true) [0x72, 0x75, 0x65] c.next
      else if b == 0x66 then readWord (bool false) [0x61, 0x6c, 0x73, 0x65] c.next
      else if b == 0x2d then readNumber true c.next
      else if isDigit b then readNumber false c
      else if b == 0x22 then do
        let (s, c) <- readString c.next
        return (string s, c)
      else if b == 0x5b || b == 0x7b then
        match levels with
        | 0 => .error (stopAtNext c JsonFault.tooDeep)
        | inner + 1 =>
            if b == 0x5b then do
              let (items, c) <-
                readItems (readValue inner) (c.rest.length + 1) true c.next
              return (array items, c)
            else do
              let (members, c) <-
                readMembers (readValue inner) (c.rest.length + 1) true [] c.next
              return (object members, c)
      else .error (stopAtNext c JsonFault.expectedValue)

def readDocument (c : Cursor) : Except Stop Json := do
  let (value, c) <- readValue maxTextDepth c
  let c := skipBlanks c
  if c.rest.isEmpty then return value
  else throw (stopAtNext c JsonFault.trailingCharacters)

def parse (input : List UInt8) : Except JsonTextError Json :=
  match readDocument (Cursor.start input) with
  | .ok value => .ok value
  | .error stop => .error (stop.locate input)

end Json
end Troupe
