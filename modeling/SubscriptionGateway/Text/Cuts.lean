/-! Texts that are cut: at white space as Unicode defines it, and at byte offsets. An offset counts
the bytes of the text in UTF-8, so it may lie outside the text or inside a character, and a slice
from there is a failure. -/
namespace SubscriptionGateway.Text

def isBlank (c : Char) : Bool :=
  let n := c.toNat
  (9 ≤ n && n ≤ 13) || n == 0x20 || n == 0x85 || n == 0xA0 || n == 0x1680
    || (0x2000 ≤ n && n ≤ 0x200A) || n == 0x2028 || n == 0x2029 || n == 0x202F || n == 0x205F
    || n == 0x3000

def trimStart (cs : List Char) : List Char := cs.dropWhile isBlank

def trimEnd (cs : List Char) : List Char := (cs.reverse.dropWhile isBlank).reverse

def trim (cs : List Char) : List Char := trimEnd (trimStart cs)

/-- The words of a text: its longest stretches without white space, in order. -/
def words : List Char → List (List Char)
  | [] => []
  | c :: rest =>
    if isBlank c then words rest
    else
      match rest with
      | [] => [[c]]
      | next :: _ =>
        if isBlank next then [c] :: words rest
        else
          match words rest with
          | [] => [[c]]
          | word :: later => (c :: word) :: later

example : words "  a bc\u2003d ".toList = ["a".toList, "bc".toList, "d".toList] := by decide +kernel

/-- The byte offset of the first occurrence of a character. -/
def offsetOf? (mark : Char) : List Char → Option Nat
  | [] => none
  | c :: rest => if c = mark then some 0 else (offsetOf? mark rest).map (c.utf8Size + ·)

/-- The byte offset of the last occurrence of a character. -/
def lastOffsetOf? (mark : Char) : List Char → Option Nat
  | [] => none
  | c :: rest =>
    match lastOffsetOf? mark rest with
    | some later => some (c.utf8Size + later)
    | none => if c = mark then some 0 else none

/-- The ends of a slice that the text does not have. -/
structure BadSlice where
  start : Nat
  stop : Nat
deriving DecidableEq, Repr

/-- The bytes from one offset up to another, where both lie between characters of the text. -/
def slice (text : String) (start stop : Nat) : Except BadSlice String :=
  if start ≤ stop ∧ String.Pos.Raw.IsValid text ⟨start⟩ ∧ String.Pos.Raw.IsValid text ⟨stop⟩ then
    .ok (String.Pos.Raw.extract text ⟨start⟩ ⟨stop⟩)
  else .error ⟨start, stop⟩

end SubscriptionGateway.Text
