/-! Numbers as hexadecimal text, lower case above nine. The marked form starts with `0x` and has no
leading zeros; the padded form has no mark and at least a given number of digits. -/

namespace GuestResume.Text

def hex (n : Nat) : String :=
  String.ofList ('0' :: 'x' :: Nat.toDigits 16 n)

def hexPadded (width n : Nat) : String :=
  String.ofList ((Nat.toDigits 16 n).leftpad width '0')

/-- Fills a text up to `width` characters with spaces on its right. -/
def padRight (width : Nat) (text : String) : String :=
  String.ofList (text.toList.rightpad width ' ')

/-- Two digits for every byte, in order. -/
def hexBytes (bytes : List UInt8) : String :=
  String.ofList (bytes.flatMap fun byte => (Nat.toDigits 16 byte.toNat).leftpad 2 '0')

end GuestResume.Text
