import LedgerClient.Crypto.Sha256

/-!
# The curve secp256k1

Arithmetic on the points of `y² = x³ + 7` over the integers modulo `p`, whose group has the
prime order `n`. Points are added in Jacobian coordinates, where `(x, y, z)` stands for
`(x / z², y / z³)` and `z = 0` for the point at infinity, so that only the conversion back
needs an inverse.
-/

namespace LedgerClient.Curve

/-- The modulus of the coordinates. -/
def p : Nat :=
  0xfffffffffffffffffffffffffffffffffffffffffffffffffffffffefffffc2f

/-- The order of the group. -/
def n : Nat :=
  0xfffffffffffffffffffffffffffffffebaaedce6af48a03bbfd25e8cd0364141

/-- The low `count` bits of a number, highest first. -/
def bits (count k : Nat) : List Bool :=
  (List.range count).reverse.map fun i => k.testBit i

/-- A power modulo `m`, for exponents below `2 ^ 256`. -/
def powMod (m base exponent : Nat) : Nat :=
  (bits 256 exponent).foldl (fun acc bit =>
    let square := acc * acc % m
    if bit then square * base % m else square) (1 % m)

/-- The inverse modulo a prime. -/
def invMod (m a : Nat) : Nat :=
  powMod m a (m - 2)

/-- The difference modulo `m` of two numbers below `m`. -/
def subMod (m a b : Nat) : Nat :=
  (a + (m - b)) % m

/-- A point in Jacobian coordinates. -/
structure Point where
  x : Nat
  y : Nat
  z : Nat

/-- The neutral element. -/
def Point.infinity : Point := ⟨1, 1, 0⟩

/-- The generator of the group. -/
def Point.generator : Point :=
  ⟨0x79be667ef9dcbbac55a06295ce870b07029bfcdb2dce28d959f2815b16f81798,
    0x483ada7726a3c4655da4fbfc0e1108a8fd17b448a68554199c47d08ffb10d4b8, 1⟩

/-- Twice a point. -/
def Point.double (a : Point) : Point :=
  if a.z = 0 ∨ a.y = 0 then .infinity
  else
    let yy := a.y * a.y % p
    let s := 4 * a.x * yy % p
    let m := 3 * a.x * a.x % p
    let x := subMod p (m * m % p) (2 * s % p)
    let y := subMod p (m * subMod p s x % p) (8 * yy * yy % p)
    ⟨x, y, 2 * a.y * a.z % p⟩

/-- The sum of two points. -/
def Point.add (a b : Point) : Point :=
  if a.z = 0 then b
  else if b.z = 0 then a
  else
    let az2 := a.z * a.z % p
    let bz2 := b.z * b.z % p
    let u1 := a.x * bz2 % p
    let u2 := b.x * az2 % p
    let s1 := a.y * (bz2 * b.z % p) % p
    let s2 := b.y * (az2 * a.z % p) % p
    if u1 = u2 then
      if s1 = s2 then a.double else .infinity
    else
      let h := subMod p u2 u1
      let r := subMod p s2 s1
      let h2 := h * h % p
      let h3 := h2 * h % p
      let v := u1 * h2 % p
      let x := subMod p (subMod p (r * r % p) h3) (2 * v % p)
      let y := subMod p (r * subMod p v x % p) (s1 * h3 % p)
      ⟨x, y, h * (a.z * b.z % p) % p⟩

/-- A multiple of a point, for factors below `2 ^ 256`. -/
def Point.scale (k : Nat) (a : Point) : Point :=
  (bits 256 k).foldl (fun acc bit => if bit then acc.double.add a else acc.double) .infinity

/-- The affine coordinates; the point at infinity has none. -/
def Point.affine? (a : Point) : Option (Nat × Nat) :=
  if a.z = 0 then none
  else
    let zi := invMod p a.z
    let zi2 := zi * zi % p
    some (a.x * zi2 % p, a.y * (zi2 * zi % p) % p)

/-- The point with a given first coordinate whose second one has a given parity. -/
def Point.lift? (x : Nat) (odd : Bool) : Option Point :=
  if p ≤ x then none
  else
    let square := (x * x % p * x + 7) % p
    let root := powMod p square ((p + 1) / 4)
    if root * root % p ≠ square then none
    else if (root % 2 == 1) == odd then some ⟨x, root, 1⟩
    else some ⟨x, subMod p 0 root % p, 1⟩

end LedgerClient.Curve
