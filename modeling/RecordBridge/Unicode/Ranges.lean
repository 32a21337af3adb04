namespace RecordBridge.Unicode

-- Stops at the first range that ends at or after the code point: the ranges ascend.
def inRanges : List (Nat × Nat) → Nat → Bool
  | [], _ => false
  | (first, last) :: rest, code => if last < code then inRanges rest code else first ≤ code

end RecordBridge.Unicode
