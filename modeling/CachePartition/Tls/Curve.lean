/-! Elliptic curves over prime fields, and the two that keys may be on. A point is given by its
coordinates; the neutral element has none. -/
namespace CachePartition

structure Curve where
  /-- The size of the field, a prime. -/
  prime : Nat
  /-- The coefficient of the linear term. -/
  slope : Nat
  /-- The number of multiples of the base point. -/
  order : Nat
  base : Nat × Nat
  /-- The number of bytes of a coordinate. -/
  size : Nat
  deriving DecidableEq, Repr

namespace Curve

/-- A power modulo a number. -/
def powMod (modulus b e : Nat) : Nat :=
  if h : e = 0 then 1 % modulus
  else
    let half := powMod modulus (b * b % modulus) (e / 2)
    if e % 2 = 1 then b * half % modulus else half
termination_by e
decreasing_by omega

variable (c : Curve)

def sub (a b : Nat) : Nat := (a + (c.prime - b % c.prime)) % c.prime

/-- A quotient; the divisor is not zero. -/
def div (a b : Nat) : Nat := a * powMod c.prime b (c.prime - 2) % c.prime

/-- The third point on a line of a direction through two points, mirrored. -/
def third (direction : Nat) (p q : Nat × Nat) : Nat × Nat :=
  let x := c.sub (direction * direction) (p.1 + q.1)
  (x, c.sub (direction * c.sub p.1 x) p.2)

def add : Option (Nat × Nat) → Option (Nat × Nat) → Option (Nat × Nat)
  | none, q => q
  | p, none => p
  | some p, some q =>
    if p.1 = q.1 then
      if (p.2 + q.2) % c.prime = 0 then none
      else some (c.third (c.div (3 * p.1 * p.1 + c.slope) (2 * p.2)) p q)
    else some (c.third (c.div (c.sub q.2 p.2) (c.sub q.1 p.1)) p q)

/-- A multiple of a point. -/
def multiply (n : Nat) (p : Option (Nat × Nat)) : Option (Nat × Nat) :=
  if h : n = 0 then none
  else
    let rest := multiply (n / 2) (c.add p p)
    if n % 2 = 1 then c.add p rest else rest
termination_by n
decreasing_by omega

/-- The public point of a secret number. -/
def publicPoint (secret : Nat) : Option (Nat × Nat) := c.multiply secret (some c.base)

def p256 : Curve where
  prime := 0xffffffff00000001000000000000000000000000ffffffffffffffffffffffff
  slope := 0xffffffff00000001000000000000000000000000fffffffffffffffffffffffc
  order := 0xffffffff00000000ffffffffffffffffbce6faada7179e84f3b9cac2fc632551
  base := (0x6b17d1f2e12c4247f8bce6e563a440f277037d812deb33a0f4a13945d898c296,
    0x4fe342e2fe1a7f9b8ee7eb4a7c0f9e162bce33576b315ececbb6406837bf51f5)
  size := 32

def p384 : Curve where
  prime := 0xfffffffffffffffffffffffffffffffffffffffffffffffffffffffffffffffeffffffff0000000000000000ffffffff
  slope := 0xfffffffffffffffffffffffffffffffffffffffffffffffffffffffffffffffeffffffff0000000000000000fffffffc
  order := 0xffffffffffffffffffffffffffffffffffffffffffffffffc7634d81f4372ddf581a0db248b0a77aecec196accc52973
  base := (0xaa87ca22be8b05378eb1c71ef320ad746e1d3b628ba79b9859f741e082542a385502f25dbf55296c3a545e3872760ab7,
    0x3617de4a96262c6f5d9e98bf9292dc29f8f41dbd289a147ce9da3113b5f0b8c00a60b1ce1d7e819d7a431d7c90ea0e5f)
  size := 48

end Curve

end CachePartition
