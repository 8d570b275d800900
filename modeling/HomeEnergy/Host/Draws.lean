import HomeEnergy.Button.Simulated

/-!
# Draws for bench and program

The buttons of the bench and of the program need some source of random draws.  This one stands
where a library's seeded generator would stand, and nothing is proved of it: with another, other
samples are pressed, if the chance lies strictly between zero and one.
-/

namespace HomeEnergy

/-- The random bits of a draw: a state that has made so many steps by a fixed odd number from the
seed, with its bits mixed twice. -/
def mixedBits (seed : UInt64) (drawn : Nat) : UInt64 :=
  let state := seed + UInt64.ofNat (drawn + 1) * 0x9E3779B97F4A7C15
  let a := (state ^^^ (state >>> 30)) * 0xBF58476D1CE4E5B9
  let b := (a ^^^ (a >>> 27)) * 0x94D049BB133111EB
  b ^^^ (b >>> 31)

/-- A draw comes out with a chance if its bits, as a number, are below that share of their range. -/
instance : RandomDraws where
  happens seed drawn chance := mixedBits seed drawn < (chance * 18446744073709551616.0).toUInt64

end HomeEnergy
