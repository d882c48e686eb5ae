import LayeredConfig.Decimal.Binary64
import LayeredConfig.Duration.Basic
import LayeredConfig.Logging.Format
import LayeredConfig.Network.Address

namespace LayeredConfig.Schema

/-- The integer types, by signedness and width; a word has 64 bits. -/
inductive IntegerKind where
  | i8 | i16 | i32 | i64 | isize | u8 | u16 | u32 | u64 | usize
  deriving DecidableEq, Repr

namespace IntegerKind

def name : IntegerKind → String
  | i8 => "i8" | i16 => "i16" | i32 => "i32" | i64 => "i64" | isize => "isize"
  | u8 => "u8" | u16 => "u16" | u32 => "u32" | u64 => "u64" | usize => "usize"

def bits : IntegerKind → Nat
  | i8 | u8 => 8
  | i16 | u16 => 16
  | i32 | u32 => 32
  | i64 | isize | u64 | usize => 64

def isSigned : IntegerKind → Bool
  | i8 | i16 | i32 | i64 | isize => true
  | u8 | u16 | u32 | u64 | usize => false

def low (k : IntegerKind) : Int := if k.isSigned then -2 ^ (k.bits - 1) else 0

def high (k : IntegerKind) : Int := if k.isSigned then 2 ^ (k.bits - 1) - 1 else 2 ^ k.bits - 1

def Holds (k : IntegerKind) (i : Int) : Prop := k.low ≤ i ∧ i ≤ k.high

instance (k : IntegerKind) (i : Int) : Decidable (k.Holds i) := by
  unfold Holds; infer_instance

end IntegerKind

inductive Scalar where
  | text (s : String)
  | flag (b : Bool)
  | integer (i : Int)
  | float (x : Decimal.Binary64)
  | duration (d : Duration)
  | path (bytes : ByteArray)
  | socketAddress (a : Network.SocketAddress)
  | ipAddress (a : Network.IpAddress)
  | logFormat (f : LogFormat)
  deriving DecidableEq

/-- A configuration value. A record holds the values of its fields in flattened order. -/
inductive Value where
  | scalar (content : Scalar)
  | unset
  | set (content : Value)
  | items (elements : List Value)
  | record (fields : List Value)
  deriving Inhabited

namespace Value

def elements : Value → List Value
  | items vs => vs
  | _ => []

def fields : Value → List Value
  | record vs => vs
  | _ => []

end Value

end LayeredConfig.Schema
