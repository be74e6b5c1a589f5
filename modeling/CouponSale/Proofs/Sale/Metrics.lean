import CouponSale.Proofs.Pool.Tickets
import CouponSale.Proofs.Sale.Serving
import CouponSale.Proofs.Sale.Sinks

/-!
The metrics of a sale agree with what it did. Each answer to a claim is counted once, under its
outcome or as a failure, and each asked the counter once or hit a flag; the metrics of the pool are
its counters; and the dead letters counted are those that the sink was handed, whatever it does with
them.
-/
namespace CouponSale

/-- An answer that is none. -/
def Answer.isFailure {α : Type} : Answer α → Bool
  | .ok _ => false
  | .error _ => true

/-- Was told a failure and is still to be answered. -/
def Call.failed (call : Call) : Bool :=
  match call.stage with
  | .told verdict => verdict.isFailure
  | _ => false

/-- The letter that a sink logged. -/
def Note.logged? : Note → Option DeadLetter
  | .letterLogged letter => some letter
  | _ => none

/-- The letter that a sink failed on. -/
def Note.lost? : Note → Option DeadLetter
  | .letterLost letter _ => some letter
  | _ => none

/-- The dead letters that the sink was handed so far: those it keeps, logged or failed on. -/
def Sale.offered (s : Sale Memory) (notes : List Note) : List DeadLetter :=
  match s.stores.sink with
  | .recording => s.stores.letters.reverse
  | .logging => notes.filterMap Note.logged?
  | .failing => notes.filterMap Note.lost?

/-- Counts what claims do. -/
def Series.ofClaim : Series → Bool
  | .claims _ | .transientErrors | .soldOutHits => true
  | _ => false

namespace Note

theorem growth_append (x : Series) (earlier later : List Note) :
    growth x (earlier ++ later) = growth x earlier + growth x later := by
  rw [growth, List.flatMap_append, List.count_append]
  rfl

theorem growth_cons (x : Series) (note : Note) (notes : List Note) :
    growth x (note :: notes) = note.series.count x + growth x notes := by
  rw [growth, List.flatMap_cons, List.count_append]
  rfl

theorem growth_of_silent {x : Series} {notes : List Note}
    (silent : ∀ note ∈ notes, x ∉ note.series) : growth x notes = 0 := by
  rw [growth, List.count_eq_zero, List.mem_flatMap]
  rintro ⟨note, member, counts⟩
  exact silent note member counts

/-- What a sink says of letters is in no metric. -/
theorem growth_tell (x : Series) (sink : Sink) (notes : List Note) :
    growth x (sink.tell notes) = growth x notes := by
  induction notes with
  | nil => rfl
  | cons note notes ih =>
    have response : ∀ letter, growth x (sink.response letter) = 0 := by
      intro letter
      cases sink <;> rfl
    have own : growth x ((note.letter?.map sink.response).getD []) = 0 := by
      cases note.letter? with
      | none => rfl
      | some letter => exact response letter
    rw [Sink.tell, List.flatMap_cons, List.cons_append, growth_cons, growth_cons, growth_append, own,
      Nat.zero_add]
    exact congrArg _ ih

theorem growth_deadLettered (reason : GiveUp) (notes : List Note) :
    growth (.deadLettered reason) notes = (lettersIn notes).countP (·.reason = reason) := by
  induction notes with
  | nil => rfl
  | cons note notes ih =>
    rw [growth_cons, ih, lettersIn, lettersIn, List.filterMap_cons]
    cases note with
    | deadLettered job why lastError =>
      simp only [series, letter?, List.count_singleton, List.countP_cons]
      simp [Nat.add_comm, beq_iff_eq]
    | _ => simp [series, letter?]

end Note

open Note (growth)

namespace Pool

/-- The notes of a pool count in its metrics what they count in its counters. -/
theorem foldl_growth (stats : Stats) (notes : List Note) :
    (notes.foldl Stats.after stats).dropped = stats.dropped + growth .dropped notes ∧
      (notes.foldl Stats.after stats).persisted = stats.persisted + growth .persisted notes ∧
      (notes.foldl Stats.after stats).retried = stats.retried + growth .retried notes ∧
      (notes.foldl Stats.after stats).deadLettered =
        stats.deadLettered + (lettersIn notes).length := by
  induction notes generalizing stats with
  | nil => exact ⟨rfl, rfl, rfl, rfl⟩
  | cons note notes ih =>
    obtain ⟨dropped, persisted, retried, deadLettered⟩ := ih (stats.after note)
    rw [List.foldl_cons, dropped, persisted, retried, deadLettered]
    simp only [Note.growth_cons, lettersIn, List.filterMap_cons]
    cases note <;> simp [Stats.after, Note.series, Note.letter?] <;> omega

theorem foldl_poolNotes (stats : Stats) (notes : List Note) :
    (poolNotes notes).foldl Stats.after stats = notes.foldl Stats.after stats := by
  induction notes generalizing stats with
  | nil => rfl
  | cons note notes ih =>
    rw [poolNotes_cons]
    cases note <;> exact ih _

end Pool

namespace Sale

variable {s t : Sale Memory} {notes more : List Note}

theorem growth_absorb {x : Series} (ofClaim : x.ofClaim = true) {label : Pool.Label}
    {moved : Pool.Moved} (u : Sale Memory) (step : u.pool.step? label = some moved) :
    growth x (u.absorb moved).2 = 0 := by
  apply Note.growth_of_silent
  intro note member counts
  rcases mem_absorb u step note member with ⟨pools, _⟩ | letter
  · cases note <;> simp_all [Note.ofPool, Note.series, Series.ofClaim]
  · cases note <;> simp_all [Note.ofLetter, Note.series]

theorem growth_answerNotes (x : Series) (call : Call) (answer : Answer Outcome) :
    growth x (answerNotes call answer) = 0 := by
  unfold answerNotes
  split <;> rfl

theorem growth_follow {x : Series} (ofClaim : x.ofClaim = true) (call : Call)
    (verdict : Reservation) : growth x (s.follow call verdict).2 = 0 := by
  cases verdict with
  | claimed =>
    have submits : s.pool.step? (.submit (.fresh call.user call.coupon)) =
      some (s.pool.submit (.fresh call.user call.coupon)).2 := rfl
    exact growth_absorb ofClaim s submits
  | outOfStock =>
    simp only [follow, flag]
    split <;> rfl
  | _ => rfl

/-- The answers of a sale and its metrics. A failure is counted when a claim is told of it. -/
structure Metered (s : Sale Memory) (notes : List Note) : Prop where
  outcomes : ∀ outcome, growth (.claims outcome) notes = (answersIn notes).count (.ok outcome)
  failures : growth .transientErrors notes =
    (answersIn notes).countP Answer.isFailure + s.calls.countP Call.failed
  asked : s.stores.reserving.calls + growth .soldOutHits notes =
    (answersIn notes).length + s.calls.length

/-- What leaves the claims and the counter's calls alone, and counts nothing of theirs. -/
theorem Metered.aside (metered : Metered s notes) (calls : t.calls = s.calls)
    (asked : t.stores.reserving.calls = s.stores.reserving.calls) (unanswered : answersIn more = [])
    (silent : ∀ x : Series, x.ofClaim = true → growth x more = 0) : Metered t (notes ++ more) := by
  constructor
  · intro outcome
    rw [Note.growth_append, silent _ rfl, answersIn_append, unanswered, List.append_nil]
    exact metered.outcomes outcome
  · rw [Note.growth_append, silent _ rfl, answersIn_append, unanswered, List.append_nil, calls]
    exact metered.failures
  · rw [Note.growth_append, silent _ rfl, answersIn_append, unanswered, List.append_nil, calls,
      asked]
    exact metered.asked

theorem Metered.tell {call : Call} {due expiry : Nat} (metered : Metered s notes)
    (numbered : (s.calls.map Call.number).Nodup) (found : s.call? call.number = some call)
    (asks : call.stage = .asking due expiry) (verdict : Answer Reservation)
    (calls : t.calls = (s.setStage call.number (.told verdict)).calls)
    (asked : t.stores.reserving.calls = s.stores.reserving.calls) :
    Metered t (notes ++ reserveNotes call verdict) := by
  obtain ⟨before, after, parts, same, earlier, later⟩ := call_parts numbered found
  rw [calls_setStage parts same earlier later] at calls
  have waits : call.failed = false := by simp [Call.failed, asks]
  have told : ({ call with stage := .told verdict } : Call).failed = verdict.isFailure := rfl
  have counted : growth .transientErrors (reserveNotes call verdict) =
      if verdict.isFailure then 1 else 0 := by
    cases verdict <;> rfl
  have others : ∀ x : Series, x ≠ .transientErrors → x ≠ .reserveDurations →
      growth x (reserveNotes call verdict) = 0 := by
    intro x first second
    apply Note.growth_of_silent
    cases verdict <;> simp [reserveNotes, Note.series, first, second]
  constructor
  · intro outcome
    rw [Note.growth_append, others _ (by simp) (by simp), answersIn_append, answersIn_reserveNotes,
      List.append_nil]
    exact metered.outcomes outcome
  · have failures := metered.failures
    rw [Note.growth_append, counted, answersIn_append, answersIn_reserveNotes, List.append_nil,
      calls]
    simp only [parts, List.countP_append, List.countP_cons, waits, told, Bool.false_eq_true,
      if_false] at failures ⊢
    omega
  · have sum := metered.asked
    rw [Note.growth_append, others _ (by simp) (by simp), answersIn_append, answersIn_reserveNotes,
      List.append_nil, calls, asked]
    simp only [parts, List.length_append, List.length_cons] at sum ⊢
    omega

/-- A claim that has its verdict is answered, and its outcome is counted, if it has one. -/
theorem Metered.answer {call : Call} {verdict : Answer Reservation} (metered : Metered s notes)
    (numbered : (s.calls.map Call.number).Nodup) (found : s.call? call.number = some call)
    (told : call.stage = .told verdict) (calls : t.calls = (s.dropCall call.number).calls)
    (asked : t.stores.reserving.calls = s.stores.reserving.calls)
    (answers : answersIn more = [verdict.map Reservation.outcome])
    (outcomes : ∀ outcome, growth (.claims outcome) more =
      if verdict.map Reservation.outcome = .ok outcome then 1 else 0)
    (others : growth .transientErrors more = 0 ∧ growth .soldOutHits more = 0) :
    Metered t (notes ++ more) := by
  obtain ⟨before, after, parts, same, earlier, later⟩ := call_parts numbered found
  rw [calls_dropCall parts same earlier later] at calls
  constructor
  · intro outcome
    rw [Note.growth_append, outcomes, answersIn_append, answers, List.count_append,
      List.count_singleton, metered.outcomes]
    simp
  · have failures := metered.failures
    have own : call.failed = Answer.isFailure (verdict.map Reservation.outcome) := by
      unfold Call.failed
      rw [told]
      cases verdict <;> rfl
    rw [Note.growth_append, others.1, answersIn_append, answers, calls]
    simp only [parts, List.countP_append, List.countP_cons, own, List.countP_nil] at failures ⊢
    omega
  · have sum := metered.asked
    rw [Note.growth_append, others.2, answersIn_append, answers, calls, asked]
    simp only [parts, List.length_append, List.length_cons, List.length_nil] at sum ⊢
    omega

theorem Move.metered {label : Label} (numbered : (s.calls.map Call.number).Nodup)
    (metered : Metered s notes) (move : Move s label t more) : Metered t (notes ++ more) := by
  have absorbed : ∀ {part : Pool.Label} {moved : Pool.Moved} (u : Sale Memory),
      u.calls = s.calls → u.stores.reserving = s.stores.reserving →
      u.pool.step? part = some moved →
      Metered (u.absorb moved).1 (notes ++ (u.absorb moved).2) := by
    intro part moved u calls asked step
    refine metered.aside calls ?_ (answersIn_absorb u step) fun x own => growth_absorb own u step
    simp only [absorb, fileLetters_memory, asked]
  cases move with
  | @refuse call known =>
    have answers : answersIn (.soldOutHit call.user call.coupon ::
        answerNotes call (.ok .outOfStock)) = [.ok .outOfStock] := answersIn_answerNotes call _
    have counted : ∀ x : Series, growth x (.soldOutHit call.user call.coupon ::
        answerNotes call (.ok .outOfStock)) =
          List.count x [.soldOutHits, .claims .outOfStock] := by
      intro x
      rw [Note.growth_cons, growth_answerNotes]
      rfl
    constructor
    · intro outcome
      rw [Note.growth_append, counted, answersIn_append, answers, List.count_append,
        metered.outcomes]
      cases outcome <;> rfl
    · rw [Note.growth_append, counted, answersIn_append, answers, List.countP_append]
      exact metered.failures
    · have asked := metered.asked
      rw [Note.growth_append, counted, answersIn_append, answers, List.length_append]
      simp only [List.length_singleton, List.count_cons, List.count_nil] at asked ⊢
      simp
      omega
  | @ask call due expiry asks new =>
    have waits : call.failed = false := by simp [Call.failed, asks]
    constructor
    · simpa using metered.outcomes
    · simpa [waits] using metered.failures
    · have asked := metered.asked
      simp only [Backend.beginReserve, Service.begin, List.append_nil, List.length_append,
        List.length_singleton]
      omega
  | @hear call due expiry found asks ripe =>
    refine metered.tell numbered found asks _ rfl ?_
    simp only [Backend.reserve, Memory.reserve, setStage]
    split <;> rfl
  | expire found asks late => exact metered.tell numbered found asks _ rfl rfl
  | @fail call e found told =>
    refine metered.answer numbered found told rfl rfl (answersIn_answerNotes call _) ?_ ?_
    · intro outcome
      rw [growth_answerNotes]
      rfl
    · exact ⟨growth_answerNotes _ call _, growth_answerNotes _ call _⟩
  | @decide call verdict found told =>
    have calls : ((s.follow call verdict).1.dropCall call.number).calls =
        (s.dropCall call.number).calls := by
      simp only [dropCall, calls_follow]
    have asked : (s.follow call verdict).1.stores.reserving.calls = s.stores.reserving.calls := by
      cases verdict with
      | claimed => simp only [follow, absorb, fileLetters_memory]
      | _ => rfl
    have answers : answersIn (.decided call.user call.coupon verdict.outcome
        :: answerNotes call (.ok verdict.outcome)) = [.ok verdict.outcome] :=
      answersIn_answerNotes call _
    have counted : ∀ x : Series, x.ofClaim = true → growth x ((s.follow call verdict).2 ++
        .decided call.user call.coupon verdict.outcome
          :: answerNotes call (.ok verdict.outcome)) = List.count x [.claims verdict.outcome] := by
      intro x own
      rw [Note.growth_append, growth_follow own, Note.growth_cons, growth_answerNotes]
      simp [Note.series]
    refine metered.answer numbered found told calls asked ?_ ?_ ⟨counted _ rfl, counted _ rfl⟩
    · rw [answersIn_append, answersIn_follow, answers]
      rfl
    · intro outcome
      rw [counted _ rfl]
      simp [Except.map, List.count_singleton]
  | beginWrite stage step =>
    exact absorbed { s with stores := Backend.beginWrite s.stores } rfl rfl step
  | @endWrite w draw job due moved writes step =>
    refine absorbed { s with
      stores := (Backend.write s.stores job.task.user job.task.coupon).2 } rfl ?_ step
    simp only [Backend.write, Memory.write]
    split <;> rfl
  | work apart step => exact absorbed s rfl rfl step
  | manage same step => exact absorbed s rfl rfl step
  | @create c now =>
    unfold openCoupon writeCoupon
    cases c.validate now <;> exact metered.aside rfl rfl rfl fun x own => rfl
  | seed found => exact metered.aside rfl rfl rfl fun x own => rfl
  | @reseed coupon =>
    simp only [Sale.reseed, Backend.find, Ledger.get]
    cases s.stores.ledger.find? coupon <;> exact metered.aside rfl rfl rfl fun x own => rfl
  | wait => exact metered.aside rfl rfl rfl fun x own => rfl

/-- A sink that keeps its letters says nothing of them. -/
theorem Move.unlettered {label : Label} (keeps : s.stores.sink = .recording)
    (move : Move s label t notes) : notes.filter Note.ofLetter = [] := by
  have absorbed : ∀ {part : Pool.Label} {moved : Pool.Moved} (u : Sale Memory),
      u.stores.sink = .recording → u.pool.step? part = some moved →
      (u.absorb moved).2.filter Note.ofLetter = [] := by
    intro part moved u keeps step
    have told : (u.absorb moved).2 = moved.2 := by
      have filed := tell_fileLetters u.stores moved.2
      rwa [keeps, Sink.tell_recording] at filed
    have pools := (Pool.step?_move (q := moved.1) step).ofPool
    rw [told, List.filter_eq_nil_iff]
    intro note member
    have own := List.filter_eq_self.mp pools note member
    cases note <;> simp_all [Note.ofPool, Note.ofLetter]
  have answered : ∀ (call : Call) (answer : Answer Outcome),
      (answerNotes call answer).filter Note.ofLetter = [] := by
    intro call answer
    unfold answerNotes
    split <;> rfl
  cases move with
  | refuse known => exact answered _ _
  | @hear call due expiry found asks ripe =>
    cases (Backend.reserve s.stores call.coupon call.user).1 <;> rfl
  | expire found asks late => rfl
  | fail found told => exact answered _ _
  | @decide call verdict found told =>
    have submits : s.pool.step? (.submit (.fresh call.user call.coupon)) =
      some (s.pool.submit (.fresh call.user call.coupon)).2 := rfl
    rw [List.filter_append]
    refine List.append_eq_nil_iff.mpr ⟨?_, answered call _⟩
    cases verdict with
    | claimed => exact absorbed s keeps submits
    | outOfStock =>
      simp only [follow, flag]
      split <;> rfl
    | _ => rfl
  | beginWrite stage step => exact absorbed { s with stores := _ } keeps step
  | @endWrite w draw job due moved writes step =>
    have same := (s.stores.write_frame job.task.user job.task.coupon).2.2
    exact absorbed { s with
      stores := (Backend.write s.stores job.task.user job.task.coupon).2 } (same.trans keeps) step
  | work apart step => exact absorbed s keeps step
  | manage same step => exact absorbed s keeps step
  | @create c now =>
    unfold openCoupon writeCoupon
    cases c.validate now <;> rfl
  | @reseed coupon =>
    simp only [Sale.reseed, Backend.find, Ledger.get]
    cases s.stores.ledger.find? coupon <;> rfl
  | _ => rfl

end Sale

theorem logged_tell {notes : List Note} (unlettered : notes.filter Note.ofLetter = []) :
    (Sink.logging.tell notes).filterMap Note.logged? = lettersIn notes ∧
      (Sink.failing.tell notes).filterMap Note.lost? = lettersIn notes := by
  induction notes with
  | nil => exact ⟨rfl, rfl⟩
  | cons note notes ih =>
    obtain ⟨own, rest⟩ := List.forall_mem_cons.mp (List.filter_eq_nil_iff.mp unlettered)
    obtain ⟨logged, lost⟩ := ih (List.filter_eq_nil_iff.mpr rest)
    simp only [Sink.tell, lettersIn, List.flatMap_cons, List.filterMap_append,
      List.filterMap_cons] at logged lost ⊢
    rw [logged, lost]
    cases note with
    | letterLogged | letterLost => exact absurd rfl own
    | _ => exact ⟨rfl, rfl⟩

theorem answersIn_tell (sink : Sink) (notes : List Note) :
    answersIn (sink.tell notes) = answersIn notes := by
  induction notes with
  | nil => rfl
  | cons note notes ih =>
    have own : answersIn ((note.letter?.map sink.response).getD []) = [] := by
      cases note.letter? with
      | none => rfl
      | some letter => cases sink <;> rfl
    simp only [Sink.tell, answersIn, List.flatMap_cons, List.filterMap_append, List.cons_append,
      List.filterMap_cons] at own ih ⊢
    rw [own, ih]
    rfl

/-- Under another sink the other notes are the same. -/
theorem filter_tell (sink : Sink) (notes : List Note) :
    (sink.tell notes).filter (!·.ofLetter) = notes.filter (!·.ofLetter) := by
  induction notes with
  | nil => rfl
  | cons note notes ih =>
    have own : ((note.letter?.map sink.response).getD []).filter (!·.ofLetter) = [] := by
      cases note.letter? with
      | none => rfl
      | some letter => cases sink <;> rfl
    rw [Sink.tell] at ih ⊢
    rw [List.flatMap_cons, List.cons_append, List.filter_cons, List.filter_append, own, ih,
      List.nil_append, List.filter_cons]

/-- Each answer is a failure or has one outcome. -/
theorem length_answers (answers : List (Answer Outcome)) :
    answers.count (.ok .success) + answers.count (.ok .alreadyClaimed) +
      answers.count (.ok .outOfStock) + answers.countP Answer.isFailure = answers.length := by
  induction answers with
  | nil => rfl
  | cons answer answers ih =>
    rw [List.length_cons, ← ih]
    rcases answer with e | (_ | _ | _) <;> simp [List.countP_cons, Answer.isFailure] <;> omega

/-- Each letter has one reason. -/
theorem length_letters (letters : List DeadLetter) :
    letters.countP (·.reason = .retriesExhausted) + letters.countP (·.reason = .retryQueueFull) +
      letters.countP (·.reason = .shutdown) = letters.length := by
  induction letters with
  | nil => rfl
  | cons letter letters ih =>
    rw [List.length_cons, ← ih]
    obtain ⟨_, _ | _ | _, _⟩ := letter <;> simp <;> omega

/-- The claims that the metrics have counted, whatever became of them. -/
def claimsCounted (notes : List Note) : Nat :=
  growth (.claims .success) notes + growth (.claims .alreadyClaimed) notes +
    growth (.claims .outOfStock) notes + growth .transientErrors notes

/-- The dead letters that the metrics have counted, whatever their reason. -/
def lettersCounted (notes : List Note) : Nat :=
  growth (.deadLettered .retriesExhausted) notes + growth (.deadLettered .retryQueueFull) notes +
    growth (.deadLettered .shutdown) notes

namespace MemorySale

variable {config : Pool.Config} {reserveTimeout : Span} {sink : Sink} {s : Sale Memory}
  {notes : List Note} {labels : List Label}

theorem Reachable.metered (run : Reachable config reserveTimeout sink notes s) :
    Sale.Metered s notes := by
  refine (run.keeps (P := fun s notes => Reachable config reserveTimeout sink notes s ∧
    Sale.Metered s notes) ⟨.refl _, ⟨fun _ => rfl, rfl, rfl⟩⟩ ?_).2
  rintro s notes label t more ⟨reached, metered⟩ step
  refine ⟨reached.trans (.next step), ?_⟩
  cases label with
  | move label => exact (Sale.step?_move step).metered reached.granted.numbered metered
  | set setting =>
    cases step
    cases setting <;> exact metered.aside rfl rfl rfl fun _ _ => rfl

theorem Reachable.unlettered (run : Reachable config reserveTimeout .recording notes s) :
    notes.filter Note.ofLetter = [] := by
  refine (run.keeps (P := fun s notes => s.stores.sink = .recording ∧
    notes.filter Note.ofLetter = []) ⟨rfl, rfl⟩ ?_).2
  rintro s notes label t more ⟨keeps, kept⟩ step
  refine ⟨(leads_letters (.next step)).2.trans keeps, ?_⟩
  rw [List.filter_append, kept, List.nil_append]
  cases label with
  | move label => exact (Sale.step?_move step).unlettered keeps
  | set setting =>
    cases step
    rfl

/-- The metrics of the pool are its counters. -/
theorem Reachable.counted (run : Reachable config reserveTimeout sink notes s) :
    growth .dropped notes = s.pool.stats.dropped ∧
      growth .persisted notes = s.pool.stats.persisted ∧
      growth .retried notes = s.pool.stats.retried ∧
      (lettersIn notes).length = s.pool.stats.deadLettered := by
  have stats := run.pool.stats
  obtain ⟨dropped, persisted, retried, deadLettered⟩ := Pool.foldl_growth .zero notes
  rw [Pool.foldl_poolNotes] at stats
  rw [← stats] at dropped persisted retried deadLettered
  simp only [Pool.Stats.zero, Nat.zero_add] at dropped persisted retried deadLettered
  exact ⟨dropped.symm, persisted.symm, retried.symm, deadLettered.symm⟩

/-- What a sink was handed is what the pool gave up, whatever the sink does with it. -/
theorem Reachable.offered_under (run : Reachable config reserveTimeout .recording notes s)
    (sink : Sink) : (s.under sink).offered (sink.tell notes) = lettersIn notes := by
  obtain ⟨logged, lost⟩ := logged_tell run.unlettered
  cases sink with
  | recording =>
    have letters := (leads_letters run).1
    simp [Sale.offered, Sale.under, Memory.under, letters, Memory.lettersAfter, Sale.new,
      Memory.new]
  | logging => exact logged
  | failing => exact lost

theorem new_under (config : Pool.Config) (reserveTimeout : Span) (sink : Sink) :
    (Sale.new config reserveTimeout (Memory.new .recording)).under sink =
      .new config reserveTimeout (.new sink) := by
  cases sink <;> rfl

/-- A run over any sink is one over a sink that keeps its letters, seen under that sink. -/
theorem run?_new (labels : List Label) :
    run? step? (.new config reserveTimeout (.new sink)) labels =
      (run? step? (.new config reserveTimeout (.new .recording)) labels).map
        (Sale.Moved.under · sink) := by
  rw [← new_under, run?_under rfl]

/-- Metrics, counters and sink agree over every run. Each outcome's metric is the number of answers
of that outcome, and when no claim is in progress all answers are counted and each was one call of
the counter, but for the hits of a flag. The metrics of dropped, persisted and retried tasks are the
pool's counters; the metric of a reason is the number of dead letters of that reason that the sink
was handed, and all of them are the counter of dead letters. With any other sink the same moves lead
to the same sale, apart from what that sink keeps, with the same metrics, the same answers, the same
letters handed over and the same notes, apart from what that sink says of letters. -/
theorem metrics_agree
    (run : run? step? (.new config reserveTimeout (.new sink)) labels = some (s, notes)) :
    (∀ outcome, growth (.claims outcome) notes = (answersIn notes).count (.ok outcome)) ∧
      (s.calls = [] → claimsCounted notes = (answersIn notes).length ∧
        s.stores.reserving.calls + growth .soldOutHits notes = claimsCounted notes) ∧
      growth .dropped notes = s.pool.stats.dropped ∧
      growth .persisted notes = s.pool.stats.persisted ∧
      growth .retried notes = s.pool.stats.retried ∧
      (∀ reason, growth (.deadLettered reason) notes =
        (s.offered notes).countP (·.reason = reason)) ∧
      lettersCounted notes = s.pool.stats.deadLettered ∧
      ∀ other : Sink, ∃ t told,
        run? step? (.new config reserveTimeout (.new other)) labels = some (t, told) ∧
        t = { s with stores := { s.stores with sink := other, letters := t.stores.letters } } ∧
        (∀ x, growth x told = growth x notes) ∧ answersIn told = answersIn notes ∧
        t.offered told = s.offered notes ∧
        told.filter (!·.ofLetter) = notes.filter (!·.ofLetter) := by
  have reached : Reachable config reserveTimeout sink notes s := ⟨labels, run⟩
  have metered := reached.metered
  obtain ⟨dropped, persisted, retried, deadLettered⟩ := reached.counted
  -- The run over a sink that keeps its letters, which every other is compared with.
  rw [run?_new] at run
  obtain ⟨⟨base, heard⟩, keeping, same⟩ := Option.map_eq_some_iff.mp run
  have based : Reachable config reserveTimeout .recording heard base := ⟨labels, keeping⟩
  obtain ⟨rfl, rfl⟩ : base.under sink = s ∧ sink.tell heard = notes := by
    simpa [Sale.Moved.under] using same
  refine ⟨metered.outcomes, ?_, dropped, persisted, retried, ?_, ?_, ?_⟩
  · intro quiet
    have failures := metered.failures
    have asked := metered.asked
    have all := length_answers (answersIn (sink.tell heard))
    rw [quiet] at failures asked
    simp only [claimsCounted, metered.outcomes, failures, List.countP_nil, Nat.add_zero] at all ⊢
    exact ⟨all, asked.trans all.symm⟩
  · intro reason
    rw [Note.growth_tell, Note.growth_deadLettered, based.offered_under]
  · rw [← deadLettered, lettersCounted, Note.growth_deadLettered, Note.growth_deadLettered,
      Note.growth_deadLettered, length_letters]
  · intro other
    refine ⟨base.under other, other.tell heard, ?_, ?_, ?_, ?_, ?_, ?_⟩
    · rw [run?_new, keeping]
      rfl
    · rfl
    · intro x
      rw [Note.growth_tell, Note.growth_tell]
    · rw [answersIn_tell, answersIn_tell]
    · rw [based.offered_under, based.offered_under]
    · rw [filter_tell, filter_tell]

/-- One worker, and no second attempt at a write. -/
def oneChance : Pool.Config :=
  { Pool.Config.standard with workers := 1, retry := { RetryPolicy.standard with maxRetries := 0 } }

/-- The only unit is claimed and its write fails for good; two more claims find the coupon sold out,
the second by its flag. -/
def shortDay : List Label :=
  [.move (.create ⟨"Opening", 1, 0, ⟨0, 0⟩, ⟨10, 0⟩⟩ ⟨0, 0⟩), .move (.seed ⟨1⟩),
    .set (.failWrites 1), .move .start, .move (.claim 0 ⟨7⟩ ⟨1⟩ none), .move (.call 0),
    .move (.call 0), .move (.claim 1 ⟨8⟩ ⟨1⟩ none), .move (.call 1), .move (.call 1),
    .move (.claim 2 ⟨9⟩ ⟨1⟩ none)] ++ List.replicate 8 (.move (.worker 0 default))

theorem metrics_agree_shortDay : ∃ s notes,
    run? step? (.new oneChance Sale.standardTimeout (.new .failing)) shortDay = some (s, notes) ∧
      s.calls = [] ∧ claimsCounted notes = 3 ∧ s.stores.reserving.calls = 2 ∧
      (s.offered notes).countP (·.reason = .retriesExhausted) = 1 := by
  have ends : (run? step? (.new oneChance Sale.standardTimeout (.new .failing)) shortDay).any
      (fun (s, notes) => s.calls.isEmpty && (answersIn notes).length == 3 &&
        growth .soldOutHits notes == 1 &&
        growth (.deadLettered .retriesExhausted) notes == 1) = true := by decide +kernel
  obtain ⟨⟨s, notes⟩, run, ends⟩ := (Option.any_eq_true _ _).mp ends
  simp only [Bool.and_eq_true, List.isEmpty_iff, beq_iff_eq] at ends
  obtain ⟨⟨⟨quiet, answered⟩, hits⟩, buried⟩ := ends
  obtain ⟨_, claims, _, _, _, letters, _⟩ := metrics_agree run
  obtain ⟨counted, asked⟩ := claims quiet
  refine ⟨s, notes, run, quiet, counted.trans answered, ?_, (letters _).symm.trans buried⟩
  omega

end MemorySale
end CouponSale
