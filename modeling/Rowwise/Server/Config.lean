import Rowwise.Cache.Basic

/-!
# Settings of the server

Read from environment variables; what is missing or makes no sense takes its default.
-/

namespace Rowwise.Server

/-- The settings. -/
structure Config where
  port : UInt16
  cacheCapacity : UInt64
  deriving DecidableEq

namespace Config

/-- The settings of an empty environment. -/
def default : Config :=
  ⟨3000, UInt64.ofNat Cache.defaultCapacity⟩

/-- The natural number below a bound that a text writes: digits, with or without a plus sign, and
white space around them. -/
def natural? (bound : Nat) (text : Text) : Option Nat :=
  let digits := match Text.trim text with
    | '+' :: digits => digits
    | digits => digits
  let value := Number.readDigits 0 digits
  if digits ≠ [] ∧ digits.all Char.isDigit ∧ value < bound then some value else none

/-- The settings in an environment. -/
def ofEnvironment (setting? : String → Option Text) : Config :=
  let port := ((setting? "ROWCAST_PORT").bind (natural? UInt16.size)).map UInt16.ofNat
  let capacity :=
    ((setting? "ROWCAST_CACHE_CAPACITY").bind (natural? UInt64.size)).map UInt64.ofNat
  ⟨port.getD default.port, capacity.getD default.cacheCapacity⟩

/-- The settings with another port. -/
def withPort (config : Config) (port : UInt16) : Config :=
  { config with port }

end Config

end Rowwise.Server
