import AttachmentIntake.Scan.Service
import Mathlib.Algebra.Ring.Nat
import Mathlib.Data.Nat.Find

/-! Scanning by a service, whatever it replies. A file passes only on one result `OK` in the first
reply that counts; the number of requests is bounded, and each failure says what went wrong. -/

namespace AttachmentIntake.Scan

/-! ### Services that follow a script -/

/-- What is done on the way to a service. -/
inductive Step where
  | put (address : Web.Address) (content : ByteArray)
  | wait (milliseconds : Nat)

def Step.isPut : Step → Bool
  | .put .. => true
  | .wait _ => false

/-- How many replies were given so far, and what was done. -/
structure Progress where
  given : Nat
  steps : List Step

/-- The service whose reply to each request is known beforehand. -/
def Transport.scripted (replies : Nat → Reply) : Transport (StateM Progress) where
  put address content := do
    let progress ← get
    set { given := progress.given + 1
          steps := progress.steps ++ [.put address content] : Progress }
    return replies progress.given
  wait milliseconds :=
    modify fun progress => { progress with steps := progress.steps ++ [.wait milliseconds] }

/-- What comes of a file with such a service, and what is done for it. -/
def Settings.scanned (s : Settings) (replies : Nat → Reply) (request : Request) :
    Except Failure Unit × List Step :=
  let ((outcome, _), progress) :=
    (s.scan (.scripted replies) request).run { given := 0, steps := [] }
  (outcome, progress.steps)

/-! ### What replies mean -/

namespace Reply

/-- No answer came, or the server failed. -/
def IsRetryable : Reply → Prop
  | .dropped => True
  | .answered status _ => 500 ≤ status ∧ status ≤ 599

/-- Success, with one result and nothing found. -/
def Clears (reply : Reply) : Prop :=
  ∃ status body filename, reply = .answered status body ∧ (200 ≤ status ∧ status ≤ 299) ∧
    Result.parse body = .ok [{ filename, status := .ok }]

end Reply

/-- The outcome for a file of a reply that is not retryable. -/
inductive Judged (filename : String) : Reply → Except Failure Unit → Prop
  | clean {status : Nat} {body : List UInt8} {name : Option String}
    (success : 200 ≤ status ∧ status ≤ 299)
    (parsed : Result.parse body = .ok [{ filename := name, status := .ok }]) :
    Judged filename (.answered status body) (.ok ())
  | infected {status : Nat} {body : List UInt8} {r : Result}
    (success : 200 ≤ status ∧ status ≤ 299) (parsed : Result.parse body = .ok [r])
    (found : r.status ≠ .ok) :
    Judged filename (.answered status body) (.error (.infected filename r.status.name))
  | miscounted {status : Nat} {body : List UInt8} {rs : List Result}
    (success : 200 ≤ status ∧ status ≤ 299) (parsed : Result.parse body = .ok rs)
    (count : rs.length ≠ 1) :
    Judged filename (.answered status body)
      (.error (.unexpectedResponse s!"expected 1 result, got {rs.length}"))
  | unreadable {status : Nat} {body : List UInt8} {fault : Json.Fault}
    (success : 200 ≤ status ∧ status ≤ 299) (parsed : Result.parse body = .error fault) :
    Judged filename (.answered status body)
      (.error (.unexpectedResponse "error decoding response body"))
  | refused {status : Nat} {body : List UInt8} (failure : ¬ (200 ≤ status ∧ status ≤ 299)) :
    Judged filename (.answered status body) (.error (.unavailable (Web.Status.text status)))

/-- Reply `n` is the first that is not retryable, and comes within the limit on repetitions. -/
structure FirstFinal (replies : Nat → Reply) (limit n : Nat) : Prop where
  within : n ≤ limit
  before : ∀ k < n, (replies k).IsRetryable
  final : ¬ (replies n).IsRetryable

theorem exists_firstFinal (replies : Nat → Reply) (limit : Nat) :
    (∀ k ≤ limit, (replies k).IsRetryable) ∨ ∃ n, FirstFinal replies limit n := by
  classical
  by_cases hsome : ∃ n, n ≤ limit ∧ ¬ (replies n).IsRetryable
  · obtain ⟨hwithin, hfinal⟩ := Nat.find_spec hsome
    refine Or.inr ⟨Nat.find hsome, hwithin, fun k hk => ?_, hfinal⟩
    by_contra hnot
    exact Nat.find_min hsome hk ⟨Nat.le_trans (Nat.le_of_lt hk) hwithin, hnot⟩
  · exact Or.inl fun k hk => by_contra fun hnot => hsome ⟨k, hk, hnot⟩

/-! ### Single attempts -/

@[simp] theorem isSuccess_iff {status : Nat} :
    Web.Status.isSuccess status = true ↔ 200 ≤ status ∧ status ≤ 299 := by
  simp [Web.Status.isSuccess]
  omega

@[simp] theorem isServerError_iff {status : Nat} :
    Web.Status.isServerError status = true ↔ 500 ≤ status ∧ status ≤ 599 := by
  simp [Web.Status.isServerError]
  omega

namespace Attempt

theorem ofReply_of_retryable (address : Web.Address) {reply : Reply} (h : reply.IsRetryable) :
    ∃ reason, ofReply address reply = .retryable reason := by
  cases reply with
  | dropped => exact ⟨_, rfl⟩
  | answered status body => exact ⟨_, by rw [ofReply, ofAnswer, if_pos (isServerError_iff.mpr h)]⟩

/-- What an attempt comes to if no other follows. -/
def last : Attempt → Except Failure (List Result)
  | .results rs => .ok rs
  | .retryable reason => .error (.unavailable reason)
  | .fatal failure => .error failure

theorem ofReply_ne_retryable (address : Web.Address) {reply : Reply} (h : ¬ reply.IsRetryable)
    (reason : String) : ofReply address reply ≠ .retryable reason := by
  cases reply with
  | dropped => exact absurd trivial h
  | answered status body =>
    rw [ofReply, ofAnswer, if_neg (mt isServerError_iff.mp h)]
    split
    · split <;> nofun
    · nofun

end Attempt

namespace Settings

variable {s : Settings} {address : Web.Address} {replies : Nat → Reply} {content : ByteArray}

/-- Requests from number `first` on with the delays between them, `count` of which are repeated. -/
def exchanges (s : Settings) (address : Web.Address) (content : ByteArray) (first count : Nat) :
    List Step :=
  (List.range' first count).flatMap (fun k => [.put address content, .wait (s.delay k)]) ++
    [.put address content]

theorem filter_isPut_exchanges (first count : Nat) :
    (s.exchanges address content first count).filter Step.isPut =
      List.replicate (count + 1) (.put address content) := by
  unfold exchanges
  induction count generalizing first with
  | zero => rfl
  | succ count ih =>
    rw [List.range'_succ, List.flatMap_cons, List.append_assoc, List.filter_append, ih]
    rfl

theorem delay_eq {k : Nat} (h : k < 32) : s.delay k = s.backoff * 2 ^ k := by
  have hfactor : 2 ^ k ≤ maxFactor := by
    have hpow : 2 ^ k ≤ 2 ^ 31 := Nat.pow_le_pow_right (by omega) (by omega)
    exact Nat.le_trans hpow (by decide)
  have hmin : min (Nat.pow 2 k) maxFactor = 2 ^ k := Nat.min_eq_left hfactor
  rw [delay, hmin]

theorem attempt_scripted (h : endpoint s.url = .ok address) (p : Progress) :
    (s.attempt (.scripted replies) content).run p =
      (Attempt.ofReply address (replies p.given),
        { given := p.given + 1, steps := p.steps ++ [.put address content] }) := by
  rw [attempt, h]
  rfl

/-- With no repetition left, or a reply that is final, there is one request. -/
theorem results_of_last (h : endpoint s.url = .ok address) {p : Progress} {left : Nat}
    (hlast : left = 0 ∨ ¬ (replies p.given).IsRetryable) (number : Nat) :
    (s.results (.scripted replies) content number left).run p =
      (((Attempt.ofReply address (replies p.given)).last, []),
        { given := p.given + 1, steps := p.steps ++ [.put address content] }) := by
  cases left with
  | zero =>
    simp only [results, StateT.run_bind, attempt_scripted h]
    cases Attempt.ofReply address (replies p.given) <;> rfl
  | succ left =>
    have hfinal : ¬ (replies p.given).IsRetryable := hlast.resolve_left (by omega)
    simp only [results, StateT.run_bind, attempt_scripted h]
    cases hattempt : Attempt.ofReply address (replies p.given) with
    | retryable reason => exact absurd hattempt (Attempt.ofReply_ne_retryable address hfinal reason)
    | results rs => rfl
    | fatal failure => rfl

/-- An attempt that is retryable is followed by a delay and the other attempts. -/
theorem results_of_retryable {p q : Progress} {reason : String}
    (h : (s.attempt (.scripted replies) content).run p = (.retryable reason, q))
    (number left : Nat) :
    (s.results (.scripted replies) content number (left + 1)).run p =
      let ((outcome, events), r) := (s.results (.scripted replies) content (number + 1) left).run
        { q with steps := q.steps ++ [.wait (s.delay number)] }
      ((outcome, s.retryEvent number reason :: events), r) := by
  conv_lhs => rw [results, StateT.run_bind, h]
  rfl

/-- Requests are repeated up to the first reply that is final, or the last repetition. -/
theorem results_scripted (h : endpoint s.url = .ok address) {k count left : Nat}
    (hcount : count ≤ left) (hbefore : ∀ j < count, (replies (k + j)).IsRetryable)
    (hlast : count = left ∨ ¬ (replies (k + count)).IsRetryable) (steps : List Step) :
    ∃ events, (s.results (.scripted replies) content k left).run { given := k, steps } =
      (((Attempt.ofReply address (replies (k + count))).last, events),
        { given := k + count + 1, steps := steps ++ s.exchanges address content k count }) := by
  -- By the number of repetitions: the first request is peeled off with the delay after it.
  induction count generalizing k left steps with
  | zero =>
    refine ⟨[], results_of_last h ?_ k⟩
    exact hlast.imp Eq.symm id
  | succ count ih =>
    obtain ⟨left, rfl⟩ : ∃ n, left = n + 1 := ⟨left - 1, by omega⟩
    have hfirst : (replies k).IsRetryable := hbefore 0 (by omega)
    obtain ⟨reason, hretryable⟩ := Attempt.ofReply_of_retryable address hfirst
    have hattempt := @attempt_scripted s address replies content h { given := k, steps }
    rw [hretryable] at hattempt
    have hnext : k + 1 + count = k + (count + 1) := by omega
    have hlater : ∀ j < count, (replies (k + 1 + j)).IsRetryable := by
      intro j hj
      have hreply := hbefore (j + 1) (by omega)
      rwa [show k + (j + 1) = k + 1 + j by omega] at hreply
    have hend : count = left ∨ ¬ (replies (k + 1 + count)).IsRetryable := by
      rw [hnext]
      exact hlast.imp (by omega) id
    obtain ⟨events, hrest⟩ := @ih (k + 1) left (by omega) hlater hend
      (steps ++ [.put address content] ++ [.wait (s.delay k)])
    have hsteps : steps ++ [.put address content] ++ [.wait (s.delay k)] ++
          s.exchanges address content (k + 1) count =
        steps ++ s.exchanges address content k (count + 1) := by
      simp [exchanges, List.range'_succ]
    rw [hsteps, hnext] at hrest
    refine ⟨s.retryEvent k reason :: events, ?_⟩
    rw [results_of_retryable hattempt, hrest]

/-! ### Whole scans -/

/-- The trigger for tests is set, and a name starts with it. -/
def Triggers (s : Settings) (filename : String) : Prop :=
  ∃ start, s.trigger = some start ∧ start.toList <+: filename.toList

@[simp] theorem isTriggered_iff {filename : String} :
    s.isTriggered filename = true ↔ s.Triggers filename := by
  unfold isTriggered Triggers
  cases s.trigger with
  | none => exact ⟨nofun, fun ⟨_, hnone, _⟩ => nomatch hnone⟩
  | some start =>
    rw [List.isPrefixOf_iff_prefix]
    exact ⟨fun h => ⟨start, rfl, h⟩, fun ⟨_, rfl, h⟩ => h⟩

/-- What the last attempt says about a file. -/
def concluded (request : Request) (attempt : Attempt) : Except Failure Unit :=
  attempt.last >>= fun rs => (judgeAll request rs).1

theorem judged_results (request : Request) {status : Nat} {body : List UInt8} {rs : List Result}
    (hstatus : 200 ≤ status ∧ status ≤ 299) (hparse : Result.parse body = .ok rs) :
    Judged request.filename (.answered status body) (concluded request (.results rs)) := by
  match rs with
  | [] => exact .miscounted hstatus hparse (by simp)
  | _ :: _ :: _ => exact .miscounted hstatus hparse (by simp)
  | [r] =>
    have hconcluded : concluded request (.results [r]) = (judge request r).1 := rfl
    rw [hconcluded, judge]
    by_cases hclean : r.status = .ok
    · rw [if_pos hclean]
      exact .clean hstatus (by rw [hparse, ← hclean])
    · rw [if_neg hclean]
      exact .infected hstatus hparse hclean

theorem judged_ofReply (request : Request) {reply : Reply} (h : ¬ reply.IsRetryable) :
    Judged request.filename reply (concluded request (.ofReply address reply)) := by
  cases reply with
  | dropped => exact absurd trivial h
  | answered status body =>
    rw [Attempt.ofReply, Attempt.ofAnswer, if_neg (mt isServerError_iff.mp h)]
    by_cases hsuccess : Web.Status.isSuccess status = true
    · rw [if_pos hsuccess]
      have hstatus := isSuccess_iff.mp hsuccess
      cases hparse : Result.parse body with
      | error fault => exact .unreadable hstatus hparse
      | ok rs => exact judged_results request hstatus hparse
    · rw [if_neg hsuccess]
      exact .refused (mt isSuccess_iff.mpr hsuccess)

theorem scanned_of_triggers {request : Request} (h : s.Triggers request.filename) :
    s.scanned replies request = (.error (.infected request.filename "TEST_TRIGGER"), []) := by
  unfold scanned
  rw [scan, if_pos (isTriggered_iff.mpr h)]
  rfl

theorem scanned_of_results {request : Request} (h : ¬ s.Triggers request.filename)
    {last : Attempt} {events : List Event} {p : Progress}
    (hresults : (s.results (.scripted replies) request.content 0 s.maxRetries).run
      { given := 0, steps := [] } = ((last.last, events), p)) :
    s.scanned replies request = (concluded request last, p.steps) := by
  unfold scanned
  rw [scan, if_neg (mt isTriggered_iff.mp h), StateT.run_bind, hresults, concluded]
  cases last.last <;> rfl

/-- With a URL that no request can go to, only time passes. -/
theorem results_of_unsendable {reason : String} (h : endpoint s.url = .error reason)
    (number left : Nat) (p : Progress) :
    ∃ events, (s.results (.scripted replies) content number left).run p =
      ((.error (.unavailable reason), events),
        { p with steps := p.steps ++
            (List.range' number left).map fun k => .wait (s.delay k) }) := by
  have hattempt (q : Progress) :
      (s.attempt (.scripted replies) content).run q = (.retryable reason, q) := by
    rw [attempt, h]
    rfl
  induction left generalizing number p with
  | zero =>
    refine ⟨[], ?_⟩
    rw [results, StateT.run_bind, hattempt, List.range'_zero, List.map_nil, List.append_nil]
    rfl
  | succ left ih =>
    obtain ⟨events, hrest⟩ := ih (number + 1)
      { p with steps := p.steps ++ [.wait (s.delay number)] }
    refine ⟨s.retryEvent number reason :: events, ?_⟩
    have hsteps : p.steps ++ [.wait (s.delay number)] ++
          (List.range' (number + 1) left).map (fun k => .wait (s.delay k)) =
        p.steps ++ (List.range' number (left + 1)).map fun k => .wait (s.delay k) := by
      rw [List.range'_succ, List.map_cons, List.append_assoc, List.singleton_append]
    rw [hsteps] at hrest
    rw [results_of_retryable (hattempt p), hrest]

/-- Each of `repeated + 1` requests carries the whole content, and only repetitions are waited
for. -/
structure Paced (s : Settings) (address : Web.Address) (content : ByteArray) (repeated : Nat)
    (steps : List Step) : Prop where
  course : steps = s.exchanges address content 0 repeated
  puts : steps.filter Step.isPut = List.replicate (repeated + 1) (.put address content)
  waits : steps.filter (fun step => !step.isPut) =
    (List.range repeated).map fun k => .wait (s.delay k)

theorem paced_exchanges (repeated : Nat) :
    s.Paced address content repeated (s.exchanges address content 0 repeated) where
  course := rfl
  puts := filter_isPut_exchanges 0 repeated
  waits := by
    rw [exchanges, List.filter_append, List.filter_flatMap, List.range_eq_range']
    simp [Step.isPut, List.map_eq_flatMap]

/-- What comes of a file that is put to an address. -/
structure Served (s : Settings) (address : Web.Address) (replies : Nat → Reply)
    (request : Request) (outcome : Except Failure Unit) (steps : List Step) : Prop where
  judged : ∀ n, FirstFinal replies s.maxRetries n →
    Judged request.filename (replies n) outcome ∧ s.Paced address request.content n steps
  exhausted : (∀ k ≤ s.maxRetries, (replies k).IsRetryable) →
    (∃ reason, outcome = .error (.unavailable reason)) ∧
      s.Paced address request.content s.maxRetries steps

theorem served_scanned (h : endpoint s.url = .ok address) {request : Request}
    (htrigger : ¬ s.Triggers request.filename) :
    s.Served address replies request (s.scanned replies request).1
      (s.scanned replies request).2 := by
  constructor
  · intro n hfinal
    obtain ⟨events, hresults⟩ := @results_scripted s address replies request.content h 0 n
      s.maxRetries hfinal.within (by simpa using hfinal.before)
      (Or.inr (by simpa using hfinal.final)) []
    rw [scanned_of_results htrigger hresults, Nat.zero_add]
    exact ⟨judged_ofReply request hfinal.final, paced_exchanges n⟩
  · intro hall
    obtain ⟨events, hresults⟩ := @results_scripted s address replies request.content h 0
      s.maxRetries s.maxRetries (Nat.le_refl _)
      (fun j hj => by simpa using hall j (Nat.le_of_lt hj)) (Or.inl rfl) []
    rw [scanned_of_results htrigger hresults, Nat.zero_add]
    obtain ⟨reason, hattempt⟩ :=
      Attempt.ofReply_of_retryable address (hall s.maxRetries (Nat.le_refl _))
    rw [hattempt]
    exact ⟨⟨reason, rfl⟩, paced_exchanges s.maxRetries⟩

end Settings

theorem Judged.eq_ok_iff {filename : String} {reply : Reply} {outcome : Except Failure Unit}
    (h : Judged filename reply outcome) : outcome = .ok () ↔ reply.Clears := by
  constructor
  · rintro rfl
    cases h with
    | clean success parsed => exact ⟨_, _, _, rfl, success, parsed⟩
  · rintro ⟨status, body, name, rfl, hsuccess, hparse⟩
    cases h with
    | clean _ _ => rfl
    | infected _ parsed found =>
      rw [hparse] at parsed
      cases parsed
      exact absurd rfl found
    | miscounted _ parsed count =>
      rw [hparse] at parsed
      cases parsed
      exact absurd rfl count
    | unreadable _ parsed => rw [hparse] at parsed; cases parsed
    | refused failure => exact absurd hsuccess failure

namespace Settings

variable {s : Settings} {address : Web.Address} {replies : Nat → Reply}

theorem Served.eq_ok_iff {request : Request} {outcome : Except Failure Unit} {steps : List Step}
    (h : s.Served address replies request outcome steps) :
    outcome = .ok () ↔ ∃ n, FirstFinal replies s.maxRetries n ∧ (replies n).Clears := by
  constructor
  · intro hok
    rcases exists_firstFinal replies s.maxRetries with hall | ⟨n, hfinal⟩
    · obtain ⟨⟨reason, hfailed⟩, -⟩ := h.exhausted hall
      rw [hfailed] at hok
      cases hok
    · exact ⟨n, hfinal, (h.judged n hfinal).1.eq_ok_iff.mp hok⟩
  · rintro ⟨n, hfinal, hclears⟩
    exact (h.judged n hfinal).1.eq_ok_iff.mpr hclears

/-- A scan with these replies passes a file only if it is cleared, and makes no more requests than
it may. -/
structure FailsClosed (s : Settings) (replies : Nat → Reply) (request : Request) : Prop where
  cleared_iff : (s.scanned replies request).1 = .ok () ↔
    ¬ s.Triggers request.filename ∧ (∃ address, endpoint s.url = .ok address) ∧
      ∃ n, FirstFinal replies s.maxRetries n ∧ (replies n).Clears
  triggered : s.Triggers request.filename →
    s.scanned replies request = (.error (.infected request.filename "TEST_TRIGGER"), [])
  served : ¬ s.Triggers request.filename → ∀ address, endpoint s.url = .ok address →
    s.Served address replies request (s.scanned replies request).1 (s.scanned replies request).2
  unsendable : ¬ s.Triggers request.filename → ∀ reason, endpoint s.url = .error reason →
    s.scanned replies request =
      (.error (.unavailable reason), (List.range s.maxRetries).map fun k => .wait (s.delay k))
  doubling : ∀ k < 32, s.delay k = s.backoff * 2 ^ k

theorem scanned_of_unsendable {request : Request} {reason : String}
    (h : endpoint s.url = .error reason) (htrigger : ¬ s.Triggers request.filename) :
    s.scanned replies request =
      (.error (.unavailable reason), (List.range s.maxRetries).map fun k => .wait (s.delay k)) := by
  obtain ⟨events, hresults⟩ := @results_of_unsendable s replies request.content reason h 0
    s.maxRetries { given := 0, steps := [] }
  rw [@scanned_of_results s replies request htrigger (.retryable reason) _ _ hresults,
    List.range_eq_range', List.nil_append]
  rfl

theorem scan_failsClosed (s : Settings) (replies : Nat → Reply) (request : Request) :
    s.FailsClosed replies request where
  triggered := scanned_of_triggers
  served htrigger _ h := served_scanned h htrigger
  unsendable htrigger _ h := scanned_of_unsendable h htrigger
  doubling _ := delay_eq
  cleared_iff := by
    by_cases htrigger : s.Triggers request.filename
    · simp [scanned_of_triggers htrigger, htrigger]
    · cases h : endpoint s.url with
      | error reason => simp [scanned_of_unsendable h htrigger]
      | ok address => simp [(served_scanned h htrigger).eq_ok_iff, htrigger]

end Settings

namespace Sample

def settings : Settings := .forUrl "http://[::1]/scan"

def request : Request := { filename := "a.pdf", size := 2, content := ⟨#[1, 2]⟩ }

/-- A service that is not there at first, then fails, then clears the file. -/
def replies : Nat → Reply
  | 0 => .dropped
  | 1 => .answered 503 []
  | _ => .answered 200 (Bytes.ascii "[\x7b\"Result\":\"OK\"\x7d]")

theorem replies_clears : (replies 2).Clears := by
  refine ⟨200, Bytes.ascii "[\x7b\"Result\":\"OK\"\x7d]", none, rfl, by decide, ?_⟩
  have hread : (Result.parse (Bytes.ascii "[\x7b\"Result\":\"OK\"\x7d]")).toOption =
      some [{ filename := none, status := .ok }] := by decide +kernel
  cases hparse : Result.parse (Bytes.ascii "[\x7b\"Result\":\"OK\"\x7d]") with
  | error fault =>
    rw [hparse] at hread
    cases hread
  | ok rs =>
    rw [hparse] at hread
    cases hread
    rfl

theorem replies_firstFinal : FirstFinal replies settings.maxRetries 2 where
  within := by decide
  before := by
    intro k hk
    match k, hk with
    | 0, _ => trivial
    | 1, _ => exact ⟨by decide, by decide⟩
  final := fun h => absurd h.1 (by decide)

end Sample

theorem Settings.scan_failsClosed_sample :
    ∃ address, endpoint Sample.settings.url = .ok address ∧
      (Sample.settings.scanned Sample.replies Sample.request).1 = .ok () ∧
      (Sample.settings.scanned Sample.replies Sample.request).2.filter Step.isPut =
        List.replicate 3 (.put address Sample.request.content) := by
  have hsendable : (endpoint Sample.settings.url).isOk = true := by decide +kernel
  have htrigger : ¬ Sample.settings.Triggers Sample.request.filename :=
    fun ⟨_, hnone, _⟩ => nomatch hnone
  cases h : endpoint Sample.settings.url with
  | error reason => rw [h] at hsendable; cases hsendable
  | ok address =>
    have hserved := (Settings.scan_failsClosed Sample.settings Sample.replies Sample.request).served
      htrigger address h
    refine ⟨address, rfl, ?_, (hserved.judged 2 Sample.replies_firstFinal).2.puts⟩
    exact hserved.eq_ok_iff.mpr ⟨2, Sample.replies_firstFinal, Sample.replies_clears⟩

end AttachmentIntake.Scan
