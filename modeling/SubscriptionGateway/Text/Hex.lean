/-! Hexadecimal digits, read in either case and written in small letters: four of them spell the
code unit of an escape, and two a byte. -/
namespace SubscriptionGateway

namespace Json

def hexDigit (n : Nat) : Char := if n < 10 then Char.ofNat (48 + n) else Char.ofNat (87 + n)

def hexDigit? (c : Char) : Option Nat :=
  if '0' ≤ c ∧ c ≤ '9' then some (c.toNat - 48)
  else if 'a' ≤ c ∧ c ≤ 'f' then some (c.toNat - 87)
  else if 'A' ≤ c ∧ c ≤ 'F' then some (c.toNat - 55)
  else none

/-- The code unit of four hexadecimal digits, in either case. -/
def codeUnit? (a b c d : Char) : Option Nat :=
  match hexDigit? a, hexDigit? b, hexDigit? c, hexDigit? d with
  | some a, some b, some c, some d => some (((a * 16 + b) * 16 + c) * 16 + d)
  | _, _, _, _ => none

theorem hexDigit?_hexDigit : ∀ n < 16, hexDigit? (hexDigit n) = some n := by decide

end Json

namespace Text

def bytesOfDigits : List Char → List UInt8
  | high :: low :: rest =>
    let value (c : Char) : Nat := (Json.hexDigit? c).getD 0
    UInt8.ofNat (value high * 16 + value low) :: bytesOfDigits rest
  | _ => []

def bytesOfHex (hex : String) : ByteArray := ⟨(bytesOfDigits hex.toList).toArray⟩

def hexOfBytes (bytes : ByteArray) : String :=
  String.ofList (bytes.toList.flatMap fun b =>
    [Json.hexDigit (b.toNat / 16), Json.hexDigit (b.toNat % 16)])

end Text

end SubscriptionGateway
