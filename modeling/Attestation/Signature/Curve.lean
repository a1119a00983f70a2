/-!
# The curve secp256k1

Points of `y² = x³ + 7` over the prime field of `2²⁵⁶ - 2³² - 977` elements, in Jacobian
coordinates: `(x, y, z)` with `z ≠ 0` stands for the affine point `(x / z², y / z³)`, and `z = 0`
for the point at infinity. Scalars act by double-and-add over their 256 bits.
-/

namespace Attestation.Curve

/-- The order of the field. -/
def fieldOrder : Nat := 0xfffffffffffffffffffffffffffffffffffffffffffffffffffffffefffffc2f

/-- The order of the group, a prime. -/
def groupOrder : Nat := 0xfffffffffffffffffffffffffffffffebaaedce6af48a03bbfd25e8cd0364141

/-- The 256 lowest bits of a number, highest first. -/
def bits (n : Nat) : List Bool := (List.range 256).foldl (fun bs i => n.testBit i :: bs) []

/-- `base ^ exponent` modulo `modulus`, for exponents of at most 256 bits. -/
def powMod (base exponent modulus : Nat) : Nat :=
  (bits exponent).foldl
    (fun acc b =>
      let square := acc * acc % modulus
      if b then square * base % modulus else square)
    1

/-- The inverse modulo a prime, by Fermat's little theorem. -/
def inverse (a modulus : Nat) : Nat := powMod a (modulus - 2) modulus

/-- Subtraction modulo the order of the field, of reduced numbers. -/
def sub (a b : Nat) : Nat := (a + fieldOrder - b) % fieldOrder

/-- Multiplication modulo the order of the field. -/
def mul (a b : Nat) : Nat := a * b % fieldOrder

/-- A point in Jacobian coordinates, all reduced modulo the order of the field. -/
structure Point where
  x : Nat
  y : Nat
  z : Nat

namespace Point

/-- The point at infinity. -/
def infinity : Point := ⟨1, 1, 0⟩

/-- The point with the given affine coordinates. -/
def ofAffine (x y : Nat) : Point := ⟨x, y, 1⟩

/-- The generator of the group. -/
def generator : Point :=
  ofAffine 0x79be667ef9dcbbac55a06295ce870b07029bfcdb2dce28d959f2815b16f81798
    0x483ada7726a3c4655da4fbfc0e1108a8fd17b448a68554199c47d08ffb10d4b8

/-- Twice a point. -/
def double (a : Point) : Point :=
  if a.z = 0 ∨ a.y = 0 then infinity
  else
    let yy := mul a.y a.y
    let s := mul 4 (mul a.x yy)
    let m := mul 3 (mul a.x a.x)
    let x := sub (mul m m) (mul 2 s)
    ⟨x, sub (mul m (sub s x)) (mul 8 (mul yy yy)), mul 2 (mul a.y a.z)⟩

/-- The sum of two points. -/
def add (a b : Point) : Point :=
  if a.z = 0 then b
  else if b.z = 0 then a
  else
    let za := mul a.z a.z
    let zb := mul b.z b.z
    let u₁ := mul a.x zb
    let u₂ := mul b.x za
    let s₁ := mul a.y (mul b.z zb)
    let s₂ := mul b.y (mul a.z za)
    if u₁ = u₂ then
      if s₁ = s₂ then double a else infinity
    else
      let h := sub u₂ u₁
      let r := sub s₂ s₁
      let hh := mul h h
      let hhh := mul h hh
      let v := mul u₁ hh
      let x := sub (sub (mul r r) hhh) (mul 2 v)
      ⟨x, sub (mul r (sub v x)) (mul s₁ hhh), mul h (mul a.z b.z)⟩

/-- `i • a + j • b`, both scalars read bit by bit together. -/
def combination (i : Nat) (a : Point) (j : Nat) (b : Point) : Point :=
  let both := add a b
  ((bits i).zip (bits j)).foldl
    (fun acc (ia, jb) =>
      let acc := double acc
      match ia, jb with
      | true, true => add acc both
      | true, false => add acc a
      | false, true => add acc b
      | false, false => acc)
    infinity

/-- A multiple of the generator. -/
def ofScalar (i : Nat) : Point := combination i generator 0 infinity

/-- The affine coordinates, unless the point is at infinity. -/
def toAffine? (a : Point) : Option (Nat × Nat) :=
  if a.z = 0 then none
  else
    let w := inverse a.z fieldOrder
    let ww := mul w w
    some (mul a.x ww, mul a.y (mul w ww))

/-- The point with the given reduced abscissa whose ordinate has the given parity, if the abscissa
belongs to a point at all. The field order is 3 modulo 4, so a square root is a power. -/
def lift? (x : Nat) (odd : Bool) : Option Point :=
  let square := (mul x (mul x x) + 7) % fieldOrder
  let root := powMod square ((fieldOrder + 1) / 4) fieldOrder
  if mul root root = square then
    some (ofAffine x (if (root % 2 == 1) == odd then root else fieldOrder - root))
  else none

end Point

end Attestation.Curve
