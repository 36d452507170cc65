/-!
Numbers as bytes, the greatest byte first.
-/

namespace AlarmKeypad.WebSocket

/-- The `n` last bytes of a number. -/
def bigEndian (n x : Nat) : List UInt8 :=
  (List.range n).reverse.map fun i => (x >>> (8 * i)).toUInt8

/-- The number of these bytes. -/
def ofBigEndian (bs : List UInt8) : Nat := bs.foldl (fun n b => n * 256 + b.toNat) 0

end AlarmKeypad.WebSocket
