import AttachmentIntake.Bytes

/-!
Rows of samples that are stored as differences. Each row starts with a byte that says what its
samples are predicted from: nothing, the sample to the left, the one above, the sum of the former
and half of the latter, or whichever of these and the one above to the left is nearest to their
trend.
-/

namespace AttachmentIntake.Pdf.RowPredictor

/-- The neighbour nearest to `left + above - corner`, the first of equals. -/
def nearest (left above corner : UInt8) : UInt8 :=
  let trend : Int := left.toNat + above.toNat - corner.toNat
  let far (x : UInt8) : Nat := (trend - x.toNat).natAbs
  if far left ≤ far above ∧ far left ≤ far corner then left
  else if far above ≤ far corner then above
  else corner

def predicted? (kind : UInt8) (left above corner : UInt8) : Option UInt8 :=
  if kind = 0 then some 0
  else if kind = 1 then some left
  else if kind = 2 then some above
  else if kind = 3 then some (left + above / 2)
  else if kind = 4 then some (nearest left above corner)
  else none

/-- The samples of a row. What is `step` bytes back counts as zero in front of the row. -/
def row? (step : Nat) (kind : UInt8) (previous stored : ByteArray) : Option ByteArray :=
  (List.range stored.size).foldlM (fun row i =>
    let back (r : ByteArray) : UInt8 := if step ≤ i then r[i - step]?.getD 0 else 0
    (predicted? kind (back row) (previous[i]?.getD 0) (back previous)).map fun p =>
      row.push ((stored[i]?.getD 0) + p)) .empty

/-- Restores rows of `width` bytes until the data end, which they must do after a whole row. -/
def rows (step width : Nat) (data : ByteArray) : Nat → ByteArray → Nat → ByteArray →
    Option ByteArray
  | 0, _, _, done => some done
  | fuel + 1, previous, i, done =>
    match data[i]? with
    | none => some done
    | some kind =>
      if i + 1 + width ≤ data.size then
        match row? step kind previous (data.extract (i + 1) (i + 1 + width)) with
        | some row => rows step width data fuel row (i + 1 + width) (done ++ row)
        | none => none
      else none

def decode (step width : Nat) (data : ByteArray) : Option ByteArray :=
  rows step width data data.size .empty 0 .empty

end AttachmentIntake.Pdf.RowPredictor
