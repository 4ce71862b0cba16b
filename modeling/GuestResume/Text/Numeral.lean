import GuestResume.Text.Blank

/-! Numbers as a person writes them into a setting: decimal, or hexadecimal after `0x`, with
underscores anywhere and blanks around. The digits may follow one plus sign. -/

namespace GuestResume.Text

def digitValue? (radix : Nat) (c : Char) : Option Nat :=
  let n := c.toNat
  let value? :=
    if 0x30 ≤ n ∧ n ≤ 0x39 then some (n - 0x30)
    else if 0x61 ≤ n ∧ n ≤ 0x7A then some (n - 0x61 + 10)
    else if 0x41 ≤ n ∧ n ≤ 0x5A then some (n - 0x41 + 10)
    else none
  value?.filter (· < radix)

/-- The number that the digits denote, if there is at least one and each is a digit of the radix. -/
def ofDigits? (radix : Nat) : List Char → Option Nat
  | [] => none
  | c :: rest => (c :: rest).foldlM (fun value c => (digitValue? radix c).map (value * radix + ·)) 0

def signed? (radix : Nat) : List Char → Option Nat
  | '+' :: digits => ofDigits? radix digits
  | digits => ofDigits? radix digits

/-- A number below two to the 64th. -/
def word? (text : String) : Option UInt64 :=
  let value? :=
    match (trim text.toList).filter (· ≠ '_') with
    | '0' :: 'x' :: digits => signed? 16 digits
    | '0' :: 'X' :: digits => signed? 16 digits
    | digits => signed? 10 digits
  (value?.filter (· < UInt64.size)).map UInt64.ofNat

end GuestResume.Text
