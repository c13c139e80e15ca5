import SqlGateway.Number.Binary64
import SqlGateway.Number.Rounding

/-!
# Sizes in units

A number of bytes is divided by 1024 until it is below that, and shown in the unit reached: without
decimal places when it is whole, and with two of them otherwise.
-/

namespace SqlGateway.Report

def sizeUnits : List String := ["B", "kB", "MB", "GB", "TB", "PB", "EB"]

/-- The unit for a number of bytes: as many divisions by 1024 as leave at least one. -/
def unitOf (bytes : Nat) : Nat := bytes.log2 / 10

/-- The size of a number of bytes in the largest unit of which there is at least one. The number is
first rounded to a binary floating-point number; a fraction too small to be told from zero in that
format is left out. -/
def size (bytes : UInt64) : String :=
  match Number.Binary64.ofNat bytes.toNat with
  | none => ""
  | some value =>
    let whole := value.ratio.1 / value.ratio.2
    let unit := unitOf whole
    let divisor := Nat.pow 1024 unit
    let amount :=
      if whole % divisor * 4503599627370496 ≤ divisor then toString (whole / divisor)
      else Number.fixed 2 whole divisor
    amount ++ " " ++ sizeUnits.getD unit ""

example : size 512 = "512 B" := by decide +kernel
example : size 1024 = "1 kB" := by decide +kernel
example : size 1536 = "1.50 kB" := by decide +kernel

end SqlGateway.Report
