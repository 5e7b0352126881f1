import AttachmentIntake.Batch.Validation
import AttachmentIntake.Scan.Service
import Mathlib.Tactic.SplitIfs

/-! Computations that stop wherever they put content to an address or let time pass. A scanner that
is used over them sends nothing by itself; whoever goes on with a stopped computation does, at a
time of his own choice. -/

namespace AttachmentIntake

inductive Exchange (α : Type) where
  | done (a : α)
  | putting (address : Web.Address) (content : ByteArray) (next : Scan.Reply → Exchange α)
  | waiting (milliseconds : Nat) (next : Exchange α)

/-- The transport by which a computation stops at every request and every delay. -/
def Scan.Transport.suspended : Scan.Transport Exchange where
  put address content := .putting address content .done
  wait milliseconds := .waiting milliseconds (.done ())

namespace Exchange

variable {α β : Type}

def bind : Exchange α → (α → Exchange β) → Exchange β
  | done a, f => f a
  | putting address content next, f => putting address content fun reply => (next reply).bind f
  | waiting milliseconds next, f => waiting milliseconds (next.bind f)

instance : Monad Exchange where
  pure := done
  bind := bind

@[simp] theorem done_bind (a : α) (f : α → Exchange β) : done a >>= f = f a := rfl

@[simp] theorem putting_bind (address : Web.Address) (content : ByteArray)
    (next : Scan.Reply → Exchange α) (f : α → Exchange β) :
    putting address content next >>= f = putting address content fun reply => next reply >>= f :=
  rfl

@[simp] theorem waiting_bind (milliseconds : Nat) (next : Exchange α) (f : α → Exchange β) :
    waiting milliseconds next >>= f = waiting milliseconds (next >>= f) := rfl

theorem map_eq_bind (f : α → β) (x : Exchange α) : f <$> x = x >>= fun a => done (f a) := rfl

/-! ### Going on without a stop -/

section Eval

variable {m : Type → Type} [Monad m] (transport : Scan.Transport m)

/-- Goes on at each stop at once. -/
def eval : Exchange α → m α
  | done a => pure a
  | putting address content next => do
    let reply ← transport.put address content
    (next reply).eval
  | waiting milliseconds next => do
    transport.wait milliseconds
    next.eval

@[simp] theorem eval_pure (a : α) : eval transport (pure a) = pure a := rfl

variable [LawfulMonad m]

@[simp] theorem eval_bind (x : Exchange α) (f : α → Exchange β) :
    eval transport (x >>= f) = eval transport x >>= fun a => eval transport (f a) := by
  induction x with
  | done a => rw [done_bind, eval, pure_bind]
  | putting address content next ih => simp only [putting_bind, eval, ih, bind_assoc]
  | waiting milliseconds next ih => simp only [waiting_bind, eval, ih, bind_assoc]

@[simp] theorem eval_map (f : α → β) (x : Exchange α) :
    eval transport (f <$> x) = f <$> eval transport x := by
  rw [map_eq_bind, eval_bind, ← bind_pure_comp]
  rfl

@[simp] theorem eval_put (address : Web.Address) (content : ByteArray) :
    eval transport (Scan.Transport.suspended.put address content) =
      transport.put address content :=
  bind_pure _

@[simp] theorem eval_wait (milliseconds : Nat) :
    eval transport (Scan.Transport.suspended.wait milliseconds) = transport.wait milliseconds :=
  bind_pure _

end Eval

/-! ### Results and length -/

/-- Whatever the replies are, the result is such. -/
def Always (p : α → Prop) : Exchange α → Prop
  | done a => p a
  | putting _ _ next => ∀ reply, (next reply).Always p
  | waiting _ next => next.Always p

/-- Whatever the replies are, there are at most so many stops. -/
def Within : Nat → Exchange α → Prop
  | _, done _ => True
  | 0, _ => False
  | n + 1, putting _ _ next => ∀ reply, (next reply).Within n
  | n + 1, waiting _ next => next.Within n

variable {x : Exchange α} {f : α → Exchange β} {n k : Nat}

theorem always_bind {p : β → Prop} (h : ∀ a, (f a).Always p) (x : Exchange α) :
    (x >>= f).Always p := by
  induction x with
  | done a => exact h a
  | putting address content next ih => exact ih
  | waiting milliseconds next ih => exact ih

@[simp] theorem within_done (n : Nat) (a : α) : (done a).Within n := by
  cases n <;> exact trivial

theorem Within.mono (h : x.Within n) (hle : n ≤ k) : x.Within k := by
  induction x generalizing n k with
  | done a => exact within_done k a
  | putting address content next ih =>
    cases n with
    | zero => cases h
    | succ n =>
    cases k with
    | zero => exact absurd hle (Nat.not_succ_le_zero n)
    | succ k => exact fun reply => ih reply (h reply) (Nat.le_of_succ_le_succ hle)
  | waiting milliseconds next ih =>
    cases n with
    | zero => cases h
    | succ n =>
    cases k with
    | zero => exact absurd hle (Nat.not_succ_le_zero n)
    | succ k => exact ih h (Nat.le_of_succ_le_succ hle)

theorem Within.bind (h : x.Within n) (hf : ∀ a, (f a).Within k) : (x >>= f).Within (n + k) := by
  induction x generalizing n with
  | done a => exact (hf a).mono (Nat.le_add_left k n)
  | putting address content next ih =>
    cases n with
    | zero => cases h
    | succ n =>
      rw [Nat.succ_add]
      exact fun reply => ih reply (h reply)
  | waiting milliseconds next ih =>
    cases n with
    | zero => cases h
    | succ n =>
      rw [Nat.succ_add]
      exact ih h

theorem Within.map (h : x.Within n) (g : α → β) : (g <$> x).Within n :=
  h.bind fun a => within_done 0 (g a)

end Exchange

/-! ### The service as a scanner -/

namespace Scan.Settings

open Exchange

variable (s : Settings)

section Eval

variable {m : Type → Type} [Monad m] [LawfulMonad m] (transport : Transport m)

@[simp] theorem eval_attempt (content : ByteArray) :
    eval transport (s.attempt .suspended content) = s.attempt transport content := by
  unfold attempt
  cases endpoint s.url with
  | error reason => rfl
  | ok address => simp only [eval_bind, eval_put, eval_pure]

theorem eval_results (content : ByteArray) (number left : Nat) :
    eval transport (s.results .suspended content number left) =
      s.results transport content number left := by
  induction left generalizing number with
  | zero =>
    rw [results, results, eval_bind, eval_attempt]
    congr 1
    funext attempt
    cases attempt <;> rfl
  | succ left ih =>
    rw [results, results, eval_bind, eval_attempt]
    congr 1
    funext attempt
    cases attempt with
    | retryable reason => simp only [eval_bind, eval_wait, ih, eval_pure]
    | results rs => rfl
    | fatal failure => rfl

theorem eval_scan (request : Request) :
    eval transport (s.scan .suspended request) = s.scan transport request := by
  unfold scan
  split_ifs with h
  · rfl
  · rw [eval_bind, eval_results]
    congr 1
    funext outcome
    obtain ⟨result, events⟩ := outcome
    cases result <;> rfl

@[simp] theorem eval_scanner (request : Request) :
    eval transport (s.scanner .suspended request) = s.scanner transport request := by
  rw [scanner, scanner, eval_bind, eval_scan]
  congr 1
  funext outcome
  obtain ⟨result, events⟩ := outcome
  cases result <;> rfl

end Eval

theorem within_attempt (content : ByteArray) : (s.attempt .suspended content).Within 1 := by
  unfold attempt
  cases endpoint s.url with
  | error reason => exact within_done 1 _
  | ok address => exact fun reply => within_done 0 _

/-- Each repetition takes a delay and a request. -/
theorem within_results (content : ByteArray) (number left : Nat) :
    (s.results .suspended content number left).Within (2 * left + 1) := by
  induction left generalizing number with
  | zero =>
    rw [results]
    refine (s.within_attempt content).bind (k := 0) fun attempt => ?_
    cases attempt <;> exact within_done 0 _
  | succ left ih =>
    have hlength : 2 * (left + 1) + 1 = 1 + (1 + (2 * left + 1)) := by omega
    rw [results, hlength]
    refine (s.within_attempt content).bind fun attempt => ?_
    cases attempt with
    | retryable reason =>
      have hwait : (Transport.suspended.wait (s.delay number)).Within 1 := within_done 0 ()
      exact hwait.bind fun _ => (ih (number + 1)).map _
    | results rs => exact within_done _ _
    | fatal failure => exact within_done _ _

theorem within_scanner (request : Request) :
    (s.scanner .suspended request).Within (2 * s.maxRetries + 1) := by
  have hscan : (s.scan .suspended request).Within (2 * s.maxRetries + 1) := by
    unfold scan
    split_ifs with h
    · exact within_done _ _
    · refine (s.within_results request.content 0 s.maxRetries).bind (k := 0) fun outcome => ?_
      obtain ⟨result, events⟩ := outcome
      cases result <;> exact within_done 0 _
  refine hscan.bind (k := 0) fun outcome => ?_
  obtain ⟨result, events⟩ := outcome
  cases result <;> exact within_done 0 _

end Scan.Settings

end AttachmentIntake
