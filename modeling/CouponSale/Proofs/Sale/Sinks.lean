import CouponSale.Proofs.Sale.Rows

/-!
What becomes of dead letters changes nothing else. Whether a sink keeps the letters, logs them or
fails on each, the sale moves the same and reports the same, but for what the sink itself has to
say of the letters.
-/
namespace CouponSale

/-- What is reported of a letter that a sink was handed. -/
def Sink.response : Sink → DeadLetter → List Note
  | .recording, _ => []
  | .logging, letter => [.letterLogged letter]
  | .failing, letter => [.letterLost letter Memory.fileFault]

/-- Some notes with what a sink says of each letter right after it. -/
def Sink.tell (sink : Sink) (notes : List Note) : List Note :=
  notes.flatMap fun note => note :: (note.letter?.map sink.response).getD []

/-- Stores that keep their letters, with another sink in place of theirs. -/
def Memory.under (m : Memory) (sink : Sink) : Memory :=
  { m with sink, letters := if sink = .recording then m.letters else [] }

/-- A sale that keeps its letters, with another sink. -/
def Sale.under (s : Sale Memory) (sink : Sink) : Sale Memory :=
  { s with stores := s.stores.under sink }

variable {sink : Sink}

namespace Sink

@[simp] theorem tell_nil (sink : Sink) : sink.tell [] = [] := rfl

@[simp] theorem tell_append (sink : Sink) (earlier later : List Note) :
    sink.tell (earlier ++ later) = sink.tell earlier ++ sink.tell later :=
  List.flatMap_append

theorem tell_of_silent {notes : List Note} (silent : lettersIn notes = []) :
    sink.tell notes = notes := by
  induction notes with
  | nil => rfl
  | cons note notes ih =>
    cases letter : note.letter? with
    | some letter' => simp [lettersIn, letter] at silent
    | none =>
      rw [lettersIn, List.filterMap_cons, letter] at silent
      rw [tell, List.flatMap_cons, letter]
      exact congrArg (note :: ·) (ih silent)

theorem tell_recording (notes : List Note) : Sink.recording.tell notes = notes := by
  induction notes with
  | nil => rfl
  | cons note notes ih =>
    rw [tell, List.flatMap_cons]
    cases note.letter? <;> exact congrArg (note :: ·) ih

end Sink

/-- A sink in memory says of each letter what it has to say. -/
theorem tell_fileLetters (m : Memory) (notes : List Note) :
    (Sale.fileLetters m notes).2 = m.sink.tell notes := by
  induction notes generalizing m with
  | nil => rfl
  | cons note notes ih =>
    cases note with
    | deadLettered job reason lastError =>
      simp only [Sale.fileLetters, Backend.file, ih]
      unfold Memory.file
      cases sink : m.sink <;> simp [Sink.tell, Note.letter?, Sink.response, sink]
    | _ =>
      simp only [Sale.fileLetters, ih]
      rfl

namespace Memory

variable {m : Memory}

theorem write_under (m : Memory) (user : UserId) (coupon : CouponId) :
    (m.under sink).write user coupon =
      ((m.write user coupon).1, (m.write user coupon).2.under sink) := by
  unfold write
  cases failing : m.writing.failing <;> simp [under, failing]

theorem reserve_under (m : Memory) (coupon : CouponId) (user : UserId) :
    (m.under sink).reserve coupon user =
      ((m.reserve coupon user).1, (m.reserve coupon user).2.under sink) := by
  unfold reserve
  cases failing : m.reserving.failing <;> simp [under, failing]

theorem adjust_under (m : Memory) (setting : Setting) :
    (m.under sink).adjust setting = (m.adjust setting).under sink := by
  cases setting <;> rfl

theorem lettersAfter_under (keeps : m.sink = .recording) (notes : List Note) :
    ({ m.under sink with letters := (m.under sink).lettersAfter notes } : Memory) =
      ({ m with letters := m.lettersAfter notes } : Memory).under sink := by
  cases sink <;> simp [under, lettersAfter, keeps]

end Memory

namespace Sale

variable {s t : Sale Memory} {notes : List Note}

/-- A move with another sink. -/
def Moved.under (moved : Moved Memory) (sink : Sink) : Moved Memory :=
  (moved.1.under sink, sink.tell moved.2)

theorem absorb_under (keeps : s.stores.sink = .recording) (moved : Pool.Moved) :
    (s.under sink).absorb moved = (s.absorb moved).under sink := by
  have there := tell_fileLetters (s.stores.under sink) moved.2
  have here := tell_fileLetters s.stores moved.2
  rw [keeps, Sink.tell_recording] at here
  simp only [absorb, under, Moved.under, fileLetters_memory, Memory.lettersAfter_under keeps, there,
    here]
  rfl

theorem silent_answerNotes (call : Call) (answer : Answer Outcome) :
    lettersIn (answerNotes call answer) = [] := by
  rw [← lettersIn_poolNotes, poolNotes_answerNotes]
  rfl

theorem silent_reserveNotes (call : Call) (answer : Answer Reservation) :
    lettersIn (reserveNotes call answer) = [] := by
  rw [← lettersIn_poolNotes, poolNotes_reserveNotes]
  rfl

theorem openCall_under (s : Sale Memory) (number : Nat) (user : UserId) (coupon : CouponId)
    (admin : Option UserId) :
    (s.under sink).openCall number user coupon admin =
      (s.openCall number user coupon admin).under sink := by
  unfold openCall
  have flags : (s.under sink).soldOut = s.soldOut := rfl
  rw [flags]
  split
  · refine Prod.ext rfl (Sink.tell_of_silent ?_).symm
    exact silent_answerNotes _ _
  · rfl

theorem hear_under (s : Sale Memory) (call : Call) (due expiry : Nat) :
    (s.under sink).hear call due expiry = (s.hear call due expiry).map (Moved.under · sink) := by
  have asked : (s.stores.under sink).reserve call.coupon call.user = _ :=
    s.stores.reserve_under call.coupon call.user
  have told : ∀ verdict, sink.tell (reserveNotes call verdict) = reserveNotes call verdict :=
    fun verdict => Sink.tell_of_silent (silent_reserveNotes call verdict)
  have now : (s.under sink).now = s.now := rfl
  unfold hear
  rw [now]
  split
  · simp only [Backend.reserve, under, asked, Option.map_some, Moved.under, told]
    rfl
  · split
    · simp only [Option.map_some, Moved.under, told]
      rfl
    · rfl

theorem follow_under (keeps : s.stores.sink = .recording) (call : Call) (verdict : Reservation) :
    (s.under sink).follow call verdict = (s.follow call verdict).under sink := by
  cases verdict with
  | claimed => exact absorb_under keeps _
  | outOfStock =>
    simp only [follow, flag, Moved.under]
    have flags : (s.under sink).soldOut = s.soldOut := rfl
    rw [flags]
    split <;> rfl
  | _ => rfl

theorem conclude_under (keeps : s.stores.sink = .recording) (call : Call)
    (verdict : Answer Reservation) :
    (s.under sink).conclude call verdict = (s.conclude call verdict).under sink := by
  cases verdict with
  | error e => exact Prod.ext rfl (Sink.tell_of_silent (silent_answerNotes call _)).symm
  | ok verdict =>
    have told : sink.tell (.decided call.user call.coupon verdict.outcome
        :: answerNotes call (.ok verdict.outcome)) =
          .decided call.user call.coupon verdict.outcome
            :: answerNotes call (.ok verdict.outcome) :=
      Sink.tell_of_silent (silent_answerNotes call _)
    simp only [conclude, follow_under keeps, Moved.under, Sink.tell_append, told]
    rfl

theorem callStep?_under (keeps : s.stores.sink = .recording) (number : Nat) :
    (s.under sink).callStep? number = (s.callStep? number).map (Moved.under · sink) := by
  have calls : (s.under sink).call? number = s.call? number := rfl
  unfold callStep?
  rw [calls]
  cases s.call? number with
  | none => rfl
  | some call =>
    cases stage : call.stage with
    | asking due expiry => simpa only [stage] using hear_under s call due expiry
    | told verdict => simp only [stage, conclude_under keeps, Option.map_some]

theorem map_absorb_under (keeps : s.stores.sink = .recording) (step : Option Pool.Moved) :
    step.map (s.under sink).absorb = (step.map s.absorb).map (Moved.under · sink) := by
  rw [Option.map_map]
  congr 1
  funext moved
  exact absorb_under keeps moved

theorem workerStep?_under (keeps : s.stores.sink = .recording) (w : Nat) (draw : Binary64) :
    (s.under sink).workerStep? w draw = (s.workerStep? w draw).map (Moved.under · sink) := by
  unfold workerStep?
  have pool : (s.under sink).pool = s.pool := rfl
  rw [pool]
  split
  · exact map_absorb_under (s := { s with stores := Backend.beginWrite s.stores }) keeps _
  · rename_i job due _
    have now : (s.under sink).now = s.now := rfl
    have wrote : (s.stores.under sink).write job.task.user job.task.coupon = _ :=
      s.stores.write_under job.task.user job.task.coupon
    rw [now]
    split
    · simp only [Backend.write, under, wrote]
      refine map_absorb_under (s := { s with
        stores := (s.stores.write job.task.user job.task.coupon).2 }) ?_ _
      rw [(s.stores.write_frame job.task.user job.task.coupon).2.2, keeps]
    · rfl
  · exact map_absorb_under keeps _

theorem reseed_under (s : Sale Memory) (coupon : CouponId) :
    ((s.under sink).reseed coupon).2 = (s.reseed coupon).2.under sink := by
  have same : (s.under sink).stores.ledger.get coupon = s.stores.ledger.get coupon := rfl
  simp only [reseed, Backend.find, same]
  cases s.stores.ledger.get coupon <;> rfl

theorem openCoupon_under (s : Sale Memory) (c : NewCoupon) (now : Moment) :
    (s.under sink).openCoupon c now = (s.openCoupon c now).under sink := by
  unfold openCoupon writeCoupon
  cases c.validate now <;> rfl

/-- A sale that keeps its letters moves the same under any sink. -/
theorem step?_under (keeps : s.stores.sink = .recording) (label : Label) :
    (s.under sink).step? label = (s.step? label).map (Moved.under · sink) := by
  cases label with
  | claim number user coupon admin =>
    have calls : (s.under sink).call? number = s.call? number := rfl
    simp only [step?, calls, openCall_under]
    split <;> rfl
  | call number => exact callStep?_under keeps number
  | worker w draw => exact workerStep?_under keeps w draw
  | create c now => exact congrArg some (openCoupon_under s c now)
  | seed coupon =>
    have waiting : (s.under sink).unseeded = s.unseeded := rfl
    simp only [step?, finishCoupon?, waiting, Option.map_map]
    rfl
  | reseed coupon => exact congrArg some (reseed_under s coupon)
  | wait ms => rfl
  | submit task => exact map_absorb_under keeps (s.pool.step? (.submit task))
  | scheduler => exact map_absorb_under keeps (s.pool.step? .scheduler)
  | stopper => exact map_absorb_under keeps (s.pool.step? .stopper)
  | start => exact map_absorb_under keeps (s.pool.step? .start)
  | stop => exact map_absorb_under keeps (s.pool.step? .stop)

end Sale

namespace MemorySale

variable {s t : Sale Memory} {notes : List Note}

theorem step?_under (keeps : s.stores.sink = .recording) (label : Label) :
    step? (s.under sink) label = (step? s label).map (Sale.Moved.under · sink) := by
  cases label with
  | move label => exact Sale.step?_under keeps label
  | set setting =>
    exact congrArg (fun stores => some ({ s with stores }, [])) (s.stores.adjust_under setting)

/-- A run is the same under any sink, but for what the sink says of the letters. -/
theorem run?_under (keeps : s.stores.sink = .recording) (labels : List Label) :
    run? step? (s.under sink) labels = (run? step? s labels).map (Sale.Moved.under · sink) := by
  induction labels generalizing s with
  | nil => rfl
  | cons label labels ih =>
    simp only [run?, step?_under keeps]
    cases step : step? s label with
    | none => rfl
    | some moved =>
      obtain ⟨t, told⟩ := moved
      have still : t.stores.sink = .recording :=
        (leads_letters (Leads.next step)).2.trans keeps
      simp only [Option.map_some, Sale.Moved.under, ih still, Option.map_map]
      congr 1
      funext ended
      exact Prod.ext rfl (Sink.tell_append sink told ended.2).symm

end MemorySale
end CouponSale
