/-!
# Integers

Integers of the language: signed, 32 bits wide. Results are reduced to the width by keeping the
low 32 bits, and division truncates toward zero.
-/

namespace Scriptlet.Integer

def width : Nat := 32

def least : Int := -2147483648

def greatest : Int := 2147483647

/-- The signed reading of the low 32 bits of a number. -/
def wrap (number : Int) : Int :=
  number.bmod (1 <<< width)

/-- The quotient rounded toward zero and the remainder that carries the dividend's sign, both
wrapped; there is none for divisor zero. The remainder is taken from the unwrapped quotient. -/
def divMod? (dividend divisor : Int) : Option (Int × Int) :=
  if divisor = 0 then
    none
  else
    let quotient := dividend.tdiv divisor
    some (wrap quotient, wrap (dividend - quotient * divisor))

def zeroDivisorMessage : String :=
  "integer division or modulo by zero"

end Scriptlet.Integer
