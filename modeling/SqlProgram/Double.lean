import SqlProgram.Decimal.Reader

/-!
Numbers of double and of single precision, kept as their bit patterns. Two patterns are the same
number only if they are equal, so a negative zero and the sign of what is no number are told apart.
-/

namespace SqlProgram

structure Double where
  bits : UInt64
  deriving DecidableEq

structure Single where
  bits : UInt32
  deriving DecidableEq

namespace Double

def ofPattern (pattern : Nat) : Double := ⟨UInt64.ofNat pattern⟩

def binary (value : Double) : Decimal.Binary := Decimal.Format.double.decode value.bits.toNat

def nan : Double := .ofPattern Decimal.Format.double.nan

def infinity (negative : Bool) : Double :=
  .ofPattern (Decimal.Format.double.signed negative Decimal.Format.double.infinity)

def ofInt (value : Int) : Double := .ofPattern (Decimal.Format.double.ofInt value)

def ofText? (text : String) : Option Double := (Decimal.Format.double.read? text).map .ofPattern

def ofFloat (value : Float) : Double := ⟨value.toBits⟩

end Double

namespace Single

def ofPattern (pattern : Nat) : Single := ⟨UInt32.ofNat pattern⟩

def binary (value : Single) : Decimal.Binary := Decimal.Format.single.decode value.bits.toNat

def ofInt (value : Int) : Single := .ofPattern (Decimal.Format.single.ofInt value)

def ofText? (text : String) : Option Single := (Decimal.Format.single.read? text).map .ofPattern

def toDouble (value : Single) : Double :=
  .ofPattern (Decimal.Format.double.ofBinary value.binary)

end Single

def Double.toSingle (value : Double) : Single :=
  .ofPattern (Decimal.Format.single.ofBinary value.binary)

end SqlProgram
