/-!
How much of an output has been delivered when its production fails. The output is produced in stages
and fetched by requests, which ask for more as the buffer that they fill grows; the request in which
the failure happens gets nothing.
-/

namespace AttachmentIntake.Pdf.Delivery

/-- Bytes that are produced without a pause, and whether the data in hand are used up after them. -/
structure Stage where
  size : Nat
  isDrained : Bool

/-- Serves a request that has `got` bytes so far: how many it gets in all, what is left of the stage
that it ends in, and the later stages. It ends once it is full or the data in hand are used up,
unless it has nothing yet; behind the last stage is the failure. -/
def serve (request : Nat) : List Stage → Nat → Option (Nat × Nat × List Stage)
  | [], _ => none
  | stage :: later, got =>
    let total := got + stage.size
    if total = 0 || (!stage.isDrained && total < request) then serve request later total
    else some (min total request, total - request, later)

/-- How much is delivered, how much there is room for, and how much is asked for at most. -/
structure Buffer where
  length : Nat
  capacity : Nat
  limit : Nat

/-- What is asked for at least. -/
def probe : Nat := 32

/-- A buffer that is too small is doubled at least. -/
def grown (capacity needed : Nat) : Nat := max (max (2 * capacity) needed) 8

/-- The next request and the buffer made ready for it. A buffer that may turn out to be just large
enough is left as it is, and so is one that starts too small. -/
def Buffer.request (initial : Nat) (b : Buffer) : Nat × Buffer :=
  if (b.length = 0 && b.capacity < probe) || (b.length = b.capacity && b.capacity = initial) then
    (probe, b)
  else
    let capacity :=
      if b.length = b.capacity then grown b.capacity (b.length + probe) else b.capacity
    (min (capacity - b.length) b.limit, { b with capacity })

/-- Takes in the answer to a request. After one that was as large as allowed and got all that it
asked for, twice as much may be asked for. -/
def Buffer.put (request got : Nat) (b : Buffer) : Buffer :=
  let length := b.length + got
  { length
    capacity := if b.capacity < length then grown b.capacity length else b.capacity
    limit := if b.limit ≤ request && got = request then 2 * b.limit else b.limit }

/-- Sends requests until one fails; `left` is what is left of a stage that is produced already. -/
def deliver (initial : Nat) : Nat → Buffer → Nat → List Stage → Nat
  | 0, b, _, _ => b.length
  | fuel + 1, b, left, stages =>
    let (request, b) := b.request initial
    let served :=
      if left = 0 then serve request stages 0 else some (min left request, left - request, stages)
    match served with
    | none => b.length
    | some (got, left, stages) => deliver initial fuel (b.put request got) left stages

/-- What is asked for at most in the beginning. -/
def firstLimit : Nat := 8192

/-- How many bytes have been delivered when production fails after the stages. The buffer starts at
twice the size of the data; no request gets nothing, which bounds their number. -/
def delivered (dataSize : Nat) (stages : List Stage) : Nat :=
  let total := stages.foldl (fun n stage => n + stage.size) 0
  deliver (2 * dataSize) (total + 1) ⟨0, 2 * dataSize, firstLimit⟩ 0 stages

end AttachmentIntake.Pdf.Delivery
