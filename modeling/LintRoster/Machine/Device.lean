/-!
# Devices

Some places among the files of a machine are devices, and some are names for the streams of whoever
opens them.
-/

namespace LintRoster.Machine

/-- A device. -/
inductive Device where
  /-- Takes everything and gives nothing. -/
  | nothing
  /-- Gives zero bytes without end. -/
  | zeros
  /-- Has no room for anything. -/
  | full
deriving DecidableEq, Repr

namespace Device

/-- The devices with their names. -/
def table : List (String × Device) :=
  [("full", full), ("null", nothing), ("zero", zeros)]

/-- The device at a place. -/
def at? : List String → Option Device
  | ["dev", name] => (table.find? fun entry => entry.1 == name).map Prod.snd
  | _ => none

/-- The names for the first streams. -/
def streamNames : List (String × Nat) :=
  [("stdin", 0), ("stdout", 1), ("stderr", 2)]

/-- The number of the stream that a place names. -/
def streamAt? : List String → Option Nat
  | ["dev", name] => (streamNames.find? fun entry => entry.1 == name).map Prod.snd
  | ["dev", "fd", n] => if n.toList.all Char.isDigit then n.toNat? else none
  | _ => none

end Device

end LintRoster.Machine
