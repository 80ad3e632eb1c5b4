/-!
# Powers

The powers of two and of ten that number formats are made of, and the numbers of values that words of
some width have.
-/

namespace TransferHistory

/-- A power of two. -/
def twoTo (exponent : Nat) : Nat :=
  Nat.pow 2 exponent

/-- A power of ten. -/
def tenTo (exponent : Nat) : Nat :=
  Nat.pow 10 exponent

/-- The number of values that 16 bits have. -/
def values16 : Nat := 65536

/-- The number of values that 63 bits have, which is the number of negative integers of 64 bits. -/
def values63 : Nat := 9223372036854775808

/-- The number of values that 64 bits have. -/
def values64 : Nat := 18446744073709551616

end TransferHistory
