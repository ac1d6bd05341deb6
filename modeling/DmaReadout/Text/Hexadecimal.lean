/-!
# Hexadecimal numbers

Addresses and byte counts in messages are lower-case hexadecimal, marked by a leading
`0x` and never padded.
-/

namespace DmaReadout.Text

/-- The number in lower-case hexadecimal after `0x`. -/
def hexadecimal (n : Nat) : String :=
  "0x" ++ String.ofList (Nat.toDigits 16 n)

end DmaReadout.Text
