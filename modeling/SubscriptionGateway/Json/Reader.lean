import SubscriptionGateway.Json.Value
import SubscriptionGateway.Text.Hex

/-! Strict reading of JSON text. Blanks are space, tab, line feed and carriage return; nothing may
follow the value; at most 127 arrays and objects may be open at once. -/
namespace SubscriptionGateway.Json

def isBlank (c : Char) : Bool := c == ' ' || c == '\t' || c == '\n' || c == '\r'

def skipBlank (cs : List Char) : List Char := cs.dropWhile isBlank

def isHighSurrogate (u : Nat) : Bool := 0xD800 ≤ u && u < 0xDC00

def isLowSurrogate (u : Nat) : Bool := 0xDC00 ≤ u && u < 0xE000

/-- The character of a surrogate pair. -/
def pairedChar (high low : Nat) : Char :=
  Char.ofNat (0x10000 + (high - 0xD800) * 0x400 + (low - 0xDC00))

def shortEscape? : Char → Option Char
  | '"' => some '"'
  | '\\' => some '\\'
  | '/' => some '/'
  | 'b' => some '\x08'
  | 'f' => some '\x0c'
  | 'n' => some '\n'
  | 'r' => some '\r'
  | 't' => some '\t'
  | _ => none

def prepend (c : Char) (read : Option (List Char × List Char)) : Option (List Char × List Char) :=
  read.map fun (text, rest) => (c :: text, rest)

/-- The characters up to the closing quote, and what follows it. Control characters stand only
behind an escape, and a surrogate only as half of a pair in its order. -/
def stringBody : List Char → Option (List Char × List Char)
  | [] => none
  | '"' :: rest => some ([], rest)
  | '\\' :: 'u' :: a :: b :: c :: d :: rest =>
    match codeUnit? a b c d with
    | none => none
    | some unit =>
      if isHighSurrogate unit then
        match rest with
        | '\\' :: 'u' :: e :: f :: g :: h :: rest =>
          match codeUnit? e f g h with
          | none => none
          | some low =>
            if isLowSurrogate low then prepend (pairedChar unit low) (stringBody rest) else none
        | _ => none
      else if isLowSurrogate unit then none
      else prepend (Char.ofNat unit) (stringBody rest)
  | '\\' :: e :: rest =>
    match shortEscape? e with
    | none => none
    | some c => prepend c (stringBody rest)
  | c :: rest => if c.toNat < 0x20 then none else prepend c (stringBody rest)

/-- The parts of a number as written. -/
structure NumberText where
  negative : Bool
  whole : List Char
  fraction : Option (List Char)
  /-- Whether the exponent is negative, and its digits. -/
  exponent : Option (Bool × List Char)
deriving Repr

def digitValue (c : Char) : Nat := c.toNat - 48

def digitsValue (digits : List Char) : Nat :=
  digits.foldl (fun n c => n * 10 + digitValue c) 0

/-- At least one digit. -/
def digits? (cs : List Char) : Option (List Char × List Char) :=
  match cs.span Char.isDigit with
  | ([], _) => none
  | read => some read

/-- A whole part has no zero in front of another digit. -/
def whole? (cs : List Char) : Option (List Char × List Char) :=
  match digits? cs with
  | some ('0' :: _ :: _, _) => none
  | read => read

def fraction? : List Char → Option (Option (List Char) × List Char)
  | '.' :: rest => (digits? rest).map fun (digits, rest) => (some digits, rest)
  | rest => some (none, rest)

def exponentDigits? : List Char → Option ((Bool × List Char) × List Char)
  | '+' :: rest => (digits? rest).map fun (digits, rest) => ((false, digits), rest)
  | '-' :: rest => (digits? rest).map fun (digits, rest) => ((true, digits), rest)
  | rest => (digits? rest).map fun (digits, rest) => ((false, digits), rest)

def exponent? : List Char → Option (Option (Bool × List Char) × List Char)
  | 'e' :: rest => (exponentDigits? rest).map fun (e, rest) => (some e, rest)
  | 'E' :: rest => (exponentDigits? rest).map fun (e, rest) => (some e, rest)
  | rest => some (none, rest)

def unsignedText? (negative : Bool) (cs : List Char) : Option (NumberText × List Char) :=
  match whole? cs with
  | none => none
  | some (whole, rest) =>
    match fraction? rest with
    | none => none
    | some (fraction, rest) =>
      match exponent? rest with
      | none => none
      | some (exponent, rest) => some (⟨negative, whole, fraction, exponent⟩, rest)

def numberText? : List Char → Option (NumberText × List Char)
  | '-' :: rest => unsignedText? true rest
  | rest => unsignedText? false rest

/-- Leading digits appended to a significand while it fits 64 bits, and how many were. -/
def accumulate (significand : Nat) : List Char → Nat × Nat
  | [] => (significand, 0)
  | c :: rest =>
    let next := significand * 10 + digitValue c
    if next < UInt64.size then
      let (last, count) := accumulate next rest
      (last, count + 1)
    else (significand, 0)

namespace NumberText

def exponentValue (n : NumberText) : Int :=
  match n.exponent with
  | none => 0
  | some (true, digits) => -digitsValue digits
  | some (false, digits) => digitsValue digits

/-- The 64-bit significand and the power of ten it is scaled by. Digits of the whole part that no
longer fit only count as places; digits of the fraction that no longer fit are dropped. -/
def scaled (n : NumberText) : Nat × Int :=
  let (whole, kept) := accumulate 0 n.whole
  let (significand, places) := accumulate whole (n.fraction.getD [])
  (significand, (n.whole.length - kept : Nat) - (places : Int) + n.exponentValue)

def real? (n : NumberText) : Option Json :=
  (Magnitude.ofDecimal n.scaled.1 n.scaled.2).map fun x => .real ⟨n.negative, x⟩

/-- An integer if it is written as one and fits 64 bits; a negative zero is not an integer. -/
def value? (n : NumberText) : Option Json :=
  let size := digitsValue n.whole
  match n.fraction, n.exponent, n.negative with
  | none, none, false => if size < UInt64.size then some (.integer size) else n.real?
  | none, none, true =>
    if 0 < size ∧ size ≤ UInt64.size / 2 then some (.integer (-size)) else n.real?
  | _, _, _ => n.real?

end NumberText

def number? (cs : List Char) : Option (Json × List Char) :=
  match numberText? cs with
  | none => none
  | some (text, rest) => text.value?.map fun value => (value, rest)

def keyword? (word : String) (value : Json) (cs : List Char) : Option (Json × List Char) :=
  (word.toList.isPrefixOf? cs).map fun rest => (value, rest)

mutual

/-- One value, blanks before it allowed, inside at most `depth` further arrays and objects. -/
def value? : (fuel depth : Nat) → List Char → Option (Json × List Char)
  | 0, _, _ => none
  | fuel + 1, depth, cs =>
    match skipBlank cs with
    | '"' :: rest => (stringBody rest).map fun (text, rest) => (.string (String.ofList text), rest)
    | '[' :: rest =>
      match depth, skipBlank rest with
      | 0, _ => none
      | _ + 1, ']' :: rest => some (.array [], rest)
      | depth + 1, rest => (items? fuel depth rest).map fun (items, rest) => (.array items, rest)
    | '\x7b' :: rest =>
      match depth, skipBlank rest with
      | 0, _ => none
      | _ + 1, '\x7d' :: rest => some (.object [], rest)
      | depth + 1, rest =>
        (members? fuel depth rest).map fun (members, rest) =>
          (.object (Members.ofList members), rest)
    | 'n' :: rest => keyword? "null" .null ('n' :: rest)
    | 't' :: rest => keyword? "true" (.bool true) ('t' :: rest)
    | 'f' :: rest => keyword? "false" (.bool false) ('f' :: rest)
    | rest => number? rest

/-- The items of an array that is not empty, up to its bracket. -/
def items? : (fuel depth : Nat) → List Char → Option (List Json × List Char)
  | 0, _, _ => none
  | fuel + 1, depth, cs =>
    match value? fuel depth cs with
    | none => none
    | some (item, rest) =>
      match skipBlank rest with
      | ']' :: rest => some ([item], rest)
      | ',' :: rest => (items? fuel depth rest).map fun (items, rest) => (item :: items, rest)
      | _ => none

/-- The members of an object that is not empty, as written, up to its brace. -/
def members? : (fuel depth : Nat) → List Char → Option (List (String × Json) × List Char)
  | 0, _, _ => none
  | fuel + 1, depth, cs =>
    match skipBlank cs with
    | '"' :: rest =>
      match stringBody rest with
      | none => none
      | some (key, rest) =>
        match skipBlank rest with
        | ':' :: rest =>
          match value? fuel depth rest with
          | none => none
          | some (value, rest) =>
            match skipBlank rest with
            | '\x7d' :: rest => some ([(String.ofList key, value)], rest)
            | ',' :: rest =>
              (members? fuel depth rest).map fun (members, rest) =>
                ((String.ofList key, value) :: members, rest)
            | _ => none
        | _ => none
    | _ => none

end

/-- How many arrays and objects may be open at once. -/
def maxDepth : Nat := 127

/-- A whole text. Every call of the readers consumes a character or is followed by one that does,
so twice the length is fuel enough. -/
def read? (text : String) : Option Json :=
  let cs := text.toList
  match value? (2 * cs.length + 2) maxDepth cs with
  | none => none
  | some (value, rest) => if (skipBlank rest).isEmpty then some value else none

end SubscriptionGateway.Json
