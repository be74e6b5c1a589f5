import CouponSale.Proofs.Sale.Calls
import CouponSale.Proofs.Sale.Front

/-!
A sale that is asked for one thing after the other gives the answers of its front. Between two
requests the front is where they have led it, and a claim in progress has made of its request what
its stage says, however the pool and the durable store move meanwhile. So two such sales that are
asked the same give the same answers, and every request finds the same in both.
-/
namespace CouponSale

/-- What a note answers to a claim. -/
def Note.answer? : Note → Option (Answer Outcome)
  | .answered _ answer => some answer
  | _ => none

/-- The answers to claims among some notes, in order. -/
def answersIn (notes : List Note) : List (Answer Outcome) := notes.filterMap Note.answer?

theorem answersIn_append (earlier later : List Note) :
    answersIn (earlier ++ later) = answersIn earlier ++ answersIn later :=
  List.filterMap_append

namespace Sale

variable {s t : Sale Memory} {notes : List Note}

theorem front_absorb (s : Sale Memory) (moved : Pool.Moved) :
    (s.absorb moved).1.front = s.front := by
  simp [front, absorb, fileLetters_memory]

theorem answersIn_absorb {label : Pool.Label} {moved : Pool.Moved} (s : Sale Memory)
    (step : s.pool.step? label = some moved) : answersIn (s.absorb moved).2 = [] := by
  apply List.filterMap_eq_nil_iff.mpr
  intro note member
  rcases mem_absorb s step note member with ⟨pools, _⟩ | letter
  · cases note <;> simp_all [Note.ofPool, Note.answer?]
  · cases note <;> simp_all [Note.ofLetter, Note.answer?]

theorem answersIn_answerNotes (call : Call) (answer : Answer Outcome) :
    answersIn (answerNotes call answer) = [answer] := by
  unfold answerNotes
  split <;> rfl

theorem answersIn_reserveNotes (call : Call) (answer : Answer Reservation) :
    answersIn (reserveNotes call answer) = [] := by
  cases answer <;> rfl

/-- What leaves the claims, their front and the clock alone, and answers nobody. -/
structure Behind (s t : Sale Memory) (notes : List Note) : Prop where
  front : t.front = s.front
  calls : t.calls = s.calls
  now : t.now = s.now
  silent : answersIn notes = []

theorem Behind.absorb {label : Pool.Label} {moved : Pool.Moved} (u : Sale Memory)
    (front : u.front = s.front) (calls : u.calls = s.calls) (pool : u.pool = s.pool)
    (still : ∀ ms, label ≠ .wait ms) (step : u.pool.step? label = some moved) :
    Behind s (u.absorb moved).1 (u.absorb moved).2 where
  front := (front_absorb u moved).trans front
  calls := calls
  now := by
    have move : u.pool.Move label moved.1 moved.2 := Pool.step?_move step
    exact (move.now still).trans (congrArg Pool.now pool)
  silent := answersIn_absorb u step

/-- The moves of a sale that are neither a claim's nor a seeding nor the clock's. -/
def Label.behind : Label → Bool
  | .claim _ _ _ _ | .call _ | .seed _ | .reseed _ | .wait _ => false
  | _ => true

/-- The pool and the durable store move behind the front. -/
theorem Move.behind {label : Label} (move : Move s label t notes) (apart : label.behind = true) :
    Behind s t notes := by
  cases move with
  | beginWrite holds step =>
    exact .absorb { s with stores := Backend.beginWrite s.stores } rfl rfl rfl (by simp) step
  | @endWrite w draw job due moved writes step =>
    have front : ({ s with
        stores := (s.stores.write job.task.user job.task.coupon).2 } : Sale Memory).front =
          s.front := by
      unfold Memory.write
      cases failing : s.stores.writing.failing <;> rfl
    exact .absorb { s with
      stores := (Backend.write s.stores job.task.user job.task.coupon).2 } front rfl rfl (by simp)
      step
  | work elsewhere step => exact .absorb s rfl rfl rfl (by simp) step
  | @manage label part moved same step =>
    have still : ∀ ms, part ≠ .wait ms := by
      rintro ms rfl
      cases label <;> simp [Label.pool?] at same
    exact .absorb s rfl rfl rfl still step
  | @create c now =>
    unfold openCoupon writeCoupon
    cases c.validate now <;> exact ⟨rfl, rfl, rfl, rfl⟩
  | _ => simp [Label.behind] at apart

theorem front_follow (call : Call) (verdict : Reservation) :
    (s.follow call verdict).1.front = s.front.conclude call.coupon (.ok verdict) := by
  cases verdict with
  | claimed => exact front_absorb s _
  | _ => rfl

theorem answersIn_follow (call : Call) (verdict : Reservation) :
    answersIn (s.follow call verdict).2 = [] := by
  cases verdict with
  | claimed =>
    have submits : s.pool.step? (.submit (.fresh call.user call.coupon)) =
      some (s.pool.submit (.fresh call.user call.coupon)).2 := rfl
    exact answersIn_absorb s submits
  | outOfStock =>
    simp only [follow, flag]
    split <;> rfl
  | _ => rfl

theorem reserve_front (s : Sale Memory) (user : UserId) (coupon : CouponId) :
    (s.stores.reserve coupon user).1 = (s.front.reserve user coupon).1 ∧
      ({ s with stores := (s.stores.reserve coupon user).2 } : Sale Memory).front =
        (s.front.reserve user coupon).2 := by
  unfold Memory.reserve Front.reserve
  simp only [front]
  cases s.stores.reserving.failing <;> exact ⟨rfl, rfl⟩

/-- What is concluded from what a claim was told, and what its caller hears of it. -/
theorem conclude_front (call : Call) (told : Answer Reservation) :
    (s.conclude call told).1.front = s.front.conclude call.coupon told ∧
      (s.conclude call told).1.calls = s.calls.filter (·.number ≠ call.number) ∧
      answersIn (s.conclude call told).2 = [told.map Reservation.outcome] := by
  cases told with
  | error e => exact ⟨rfl, rfl, answersIn_answerNotes call _⟩
  | ok verdict =>
    refine ⟨front_follow call verdict, ?_, ?_⟩
    · simp only [conclude, dropCall, calls_follow]
    · have decides : answersIn (.decided call.user call.coupon verdict.outcome
          :: answerNotes call (.ok verdict.outcome)) = [.ok verdict.outcome] :=
        answersIn_answerNotes call _
      simp only [conclude, answersIn_append, answersIn_follow, decides, List.nil_append]
      rfl

end Sale

namespace SeededSale

/-- How far a sale has come with some requests, and which answers it has given. -/
inductive Serves (flags : Bool) (f : Front) (requests : List Front.Request)
    (answers : List (Answer Outcome)) (s : Sale Memory) : Prop where
  /-- Every request is served. -/
  | quiet (idle : s.calls = []) (front : s.front = f.served flags requests)
      (told : answers = f.told flags requests)
  /-- The last request, a claim, waits for the counter. -/
  | asking {earlier : List Front.Request} {call : Call} {due expiry : Nat} (only : s.calls = [call])
      (asks : call.stage = .asking due expiry)
      (last : requests = earlier ++ [.claim call.user call.coupon])
      (unflagged : (flags && (f.served flags earlier).soldOut.check call.coupon) = false)
      (front : s.front = (f.served flags earlier).begin)
      (told : answers = f.told flags earlier)
      (lasts : due ≤ expiry ↔ s.front.answers = true) (punctual : call.punctual s.now = true)
  /-- The last request, a claim, has been told a verdict. -/
  | told {earlier : List Front.Request} {call : Call} (only : s.calls = [call])
      (last : requests = earlier ++ [.claim call.user call.coupon])
      (unflagged : (flags && (f.served flags earlier).soldOut.check call.coupon) = false)
      (stage : call.stage =
        .told ((f.served flags earlier).begin.hear call.user call.coupon).1)
      (front : s.front = ((f.served flags earlier).begin.hear call.user call.coupon).2)
      (told : answers = f.told flags earlier)

variable {flags : Bool} {f : Front} {rs : List Front.Request} {answers : List (Answer Outcome)}
  {s t : Sale Memory} {notes : List Note}

/-- What happens behind the front, or takes time that the claims in progress have. -/
theorem Serves.aside (serves : Serves flags f rs answers s) (front : t.front = s.front)
    (calls : t.calls = s.calls)
    (later : ∀ call ∈ s.calls, call.punctual s.now = true → call.punctual t.now = true) :
    Serves flags f rs answers t := by
  cases serves with
  | quiet idle front' told => exact .quiet (calls.trans idle) (front.trans front') told
  | asking only asks last unflagged front' told lasts punctual =>
    refine .asking (calls.trans only) asks last unflagged (front.trans front') told ?_ ?_
    · rwa [front]
    · exact later _ (by simp [only]) punctual
  | told only last unflagged stage front' told =>
    exact .told (calls.trans only) last unflagged stage (front.trans front') told

theorem Serves.behind (serves : Serves flags f rs answers s) (behind : Sale.Behind s t notes) :
    Serves flags f rs (answers ++ answersIn notes) t := by
  rw [behind.silent, List.append_nil]
  refine serves.aside behind.front behind.calls ?_
  rw [behind.now]
  exact fun _ _ punctual => punctual

/-- Without a claim in progress every request is served. -/
theorem Serves.rest (serves : Serves flags f rs answers s) (idle : s.calls = []) :
    s.front = f.served flags rs ∧ answers = f.told flags rs := by
  cases serves with
  | quiet _ front told => exact ⟨front, told⟩
  | asking only | told only => simp [idle] at only

/-- A request that finds the sale quiet and is served in one move. -/
theorem Serves.request (serves : Serves flags f rs answers s) (idle : s.calls = [])
    {r : Front.Request} (front : t.front = s.front.after flags r) (calls : t.calls = [])
    (answer : answersIn notes = (s.front.answer? flags r).toList) :
    Serves flags f (rs ++ [r]) (answers ++ answersIn notes) t := by
  obtain ⟨front', told⟩ := serves.rest idle
  rw [front'] at front answer
  refine .quiet calls ?_ ?_
  · rw [front, Front.served_append]
    rfl
  · rw [answer, told, Front.told_append]
    simp [Front.told]

/-- A claim that finds the sale quiet and asks the counter. -/
theorem Serves.ask (serves : Serves flags f rs answers s) (idle : s.calls = []) {user : UserId}
    {coupon : CouponId} (unflagged : (flags && s.front.soldOut.check coupon) = false)
    (number : Nat) (admin : Option UserId) :
    Serves flags f (rs ++ [.claim user coupon]) answers
      (s.askCounter number user coupon admin).1 := by
  obtain ⟨front, told⟩ := serves.rest idle
  rw [front] at unflagged
  refine .asking (by simp [Sale.askCounter, idle]; rfl) rfl rfl unflagged ?_ told ?_ ?_
  · rw [← front]
    rfl
  · rw [Front.answers_iff]
    exact Nat.add_le_add_iff_left
  · simp [Call.punctual, Sale.now, Sale.askCounter]
    omega

theorem call?_only {call c : Call} {n : Nat} (only : s.calls = [call])
    (found : s.call? n = some c) : c = call ∧ n = call.number := by
  have number := Sale.call?_number found
  have member := List.mem_of_find?_eq_some found
  rw [only, List.mem_singleton] at member
  exact ⟨member, by rw [← number, member]⟩

/-- The claim in progress moves: it hears its verdict, or answers its caller. -/
theorem Serves.proceed (serves : Serves flags f rs answers s) {n : Nat}
    (step : s.callStep? n = some (t, notes)) :
    Serves flags f rs (answers ++ answersIn notes) t := by
  unfold Sale.callStep? at step
  cases found : s.call? n with
  | none => simp [found] at step
  | some c =>
    simp only [found] at step
    cases serves with
    | quiet idle => simp [Sale.call?, idle] at found
    | @asking earlier call due expiry only asks last unflagged front told lasts punctual =>
      obtain ⟨rfl, rfl⟩ := call?_only only found
      have heard : ∀ verdict, (Sale.setStage s c.number (.told verdict)).calls =
          [{ c with stage := .told verdict }] := by
        intro verdict
        simp [Sale.setStage, only]
      simp only [asks, Sale.hear] at step
      split at step
      · rename_i ripe
        obtain ⟨verdict, after⟩ := s.reserve_front c.user c.coupon
        have answered : (f.served flags earlier).begin.answers = true := by
          rw [← front, ← lasts]
          simp only [Call.punctual, asks, Bool.or_eq_true, decide_eq_true_eq] at punctual
          omega
        have hears : (f.served flags earlier).begin.hear c.user c.coupon =
            s.front.reserve c.user c.coupon := by
          rw [Front.hear, if_pos answered, front]
        cases step
        rw [Sale.answersIn_reserveNotes, List.append_nil]
        refine .told (heard _) last unflagged ?_ ?_ told
        · rw [hears]
          exact congrArg Call.Stage.told verdict
        · rw [hears]
          exact after
      · rename_i unripe
        split at step
        · rename_i late
          have missed : ¬ (f.served flags earlier).begin.answers = true := by
            rw [← front, ← lasts]
            omega
          have hears : (f.served flags earlier).begin.hear c.user c.coupon =
              (.error (.counterTimeout s.reserveTimeout), s.front) := by
            rw [Front.hear, if_neg missed, ← front]
            rfl
          cases step
          rw [Sale.answersIn_reserveNotes, List.append_nil]
          refine .told (heard _) last unflagged ?_ ?_ told
          · rw [hears]
          · rw [hears]
            rfl
        · contradiction
    | @told earlier call only last unflagged stage front told =>
      obtain ⟨rfl, rfl⟩ := call?_only only found
      simp only [stage] at step
      have concluded := s.conclude_front c ((f.served flags earlier).begin.hear c.user c.coupon).1
      rw [Option.some.inj step] at concluded
      obtain ⟨after, calls, answer⟩ := concluded
      have asks : (f.served flags earlier).claim flags c.user c.coupon =
          (f.served flags earlier).ask c.user c.coupon := by
        rw [Front.claim, unflagged, if_neg Bool.false_ne_true]
      refine .quiet ?_ ?_ ?_
      · simpa [only] using calls
      · rw [after, front, last, Front.served_append]
        exact (congrArg Prod.snd asks).symm
      · rw [answer, told, last, Front.told_append]
        exact congrArg (_ ++ [·]) (congrArg Prod.fst asks).symm

theorem permits_request {label : Label} {r : Front.Request} (permitted : permits s label = true)
    (asked : request? s label = some r) : s.calls = [] := by
  unfold permits at permitted
  split at permitted
  · simp [request?] at asked
  · simpa [asked] using permitted

/-- A claim is opened when the sale is quiet. -/
theorem Serves.claim (serves : Serves flags f rs answers s) (idle : s.calls = []) {number : Nat}
    {user : UserId} {coupon : CouponId} {admin : Option UserId}
    (step : step? flags s (.sale (.move (.claim number user coupon admin))) = some (t, notes)) :
    Serves flags f (rs ++ [.claim user coupon]) (answers ++ answersIn notes) t := by
  have opened : (if flags && s.soldOut.check coupon then
      (s, .soldOutHit user coupon :: Sale.answerNotes ⟨number, user, coupon, admin, default⟩
        (.ok .outOfStock))
      else s.askCounter number user coupon admin) = (t, notes) := by
    cases flags with
    | true =>
      simp only [step?, MemorySale.step?, Sale.step?, if_true] at step
      split at step
      · contradiction
      · rw [Sale.openCall_eq _ _ _ _ _ default] at step
        exact Option.some.inj step
    | false =>
      simp only [step?, Bool.false_eq_true, if_false] at step
      split at step
      · contradiction
      · exact Option.some.inj step
  split at opened
  · rename_i known
    have refused : s.front.claim flags user coupon = (.ok .outOfStock, s.front) := if_pos known
    cases opened
    refine serves.request idle ?_ idle ?_
    · exact (congrArg Prod.snd refused).symm
    · rw [Front.answer?, refused]
      exact Sale.answersIn_answerNotes _ _
  · rename_i unknown
    have unflagged : (flags && s.front.soldOut.check coupon) = false := eq_false_of_ne_true unknown
    have asked : Serves flags f (rs ++ [.claim user coupon]) answers
        (s.askCounter number user coupon admin).1 := serves.ask idle unflagged number admin
    cases opened
    rwa [answersIn, List.filterMap_nil, List.append_nil]

theorem Serves.elsewhere (serves : Serves flags f rs answers s) {label : Sale.Label}
    (apart : label.behind = true) (step : step? flags s (.sale (.move label)) = some (t, notes)) :
    Serves flags f rs (answers ++ answersIn notes) t := by
  have same : step? flags s (.sale (.move label)) = s.step? label := by
    cases label <;> first | rfl | cases apart
  rw [same] at step
  exact serves.behind ((Sale.step?_move step).behind apart)

theorem Serves.unasked (serves : Serves flags f rs answers t) {label : Label}
    (silent : request? s label = none) :
    Serves flags f (rs ++ (request? s label).toList) answers t := by
  rwa [silent, Option.toList_none, List.append_nil]

/-- A move of the sale alone. -/
theorem Serves.move (serves : Serves flags f rs answers s) {label : Sale.Label}
    (permitted : permits s (.sale (.move label)) = true)
    (step : step? flags s (.sale (.move label)) = some (t, notes)) :
    Serves flags f (rs ++ (request? s (.sale (.move label))).toList) (answers ++ answersIn notes)
      t := by
  cases label with
  | claim number user coupon admin => exact serves.claim (permits_request permitted rfl) step
  | call n => exact (serves.proceed step).unasked rfl
  | seed coupon =>
    simp only [step?, MemorySale.step?, Sale.step?, Sale.finishCoupon?] at step
    obtain ⟨c, found, ends⟩ := Option.map_eq_some_iff.mp step
    have asked : request? s (.sale (.move (.seed coupon))) = some (.seed c.id c.total) := by
      simp [request?, found]
    have idle := permits_request permitted asked
    rw [asked]
    cases ends
    exact serves.request idle rfl idle rfl
  | reseed coupon =>
    have ends : (s.reseed coupon).2 = (t, notes) := Option.some.inj step
    simp only [Sale.reseed, Backend.find, Ledger.get] at ends
    cases found : s.stores.ledger.find? coupon with
    | none =>
      simp only [found] at ends
      cases ends
      exact (serves.behind ⟨rfl, rfl, rfl, rfl⟩).unasked (by simp [request?, found])
    | some c =>
      have asked : request? s (.sale (.move (.reseed coupon))) = some (.seed coupon c.stock) := by
        simp [request?, found]
      have idle := permits_request permitted asked
      rw [asked]
      simp only [found] at ends
      cases ends
      exact serves.request idle rfl idle rfl
  | wait ms =>
    cases step
    refine Serves.unasked ?_ rfl
    have still : Serves flags f rs answers (s.wait ms) := by
      refine serves.aside rfl rfl fun call member _ => ?_
      exact List.all_eq_true.mp permitted call member
    simpa [answersIn] using still
  | _ => exact (serves.elsewhere rfl step).unasked rfl

theorem Serves.step (serves : Serves flags f rs answers s) {label : Label}
    (step : orderly? flags s label = some (t, notes)) :
    Serves flags f (rs ++ (request? s label).toList) (answers ++ answersIn notes) t := by
  unfold orderly? at step
  split at step
  · rename_i permitted
    cases label with
    | seed coupon total =>
      have idle := permits_request permitted rfl
      cases step
      exact serves.request idle rfl idle rfl
    | sale label =>
      cases label with
      | move label => exact serves.move permitted step
      | set setting =>
        cases step
        cases setting with
        | failReserves count | delayReserves latency =>
          have idle := permits_request permitted rfl
          exact serves.request idle rfl idle rfl
        | failWrites count | delayWrites latency =>
          refine Serves.unasked (serves.behind ?_) rfl
          exact ⟨rfl, rfl, rfl, rfl⟩
  · contradiction

variable {config : Pool.Config} {reserveTimeout : Span} {sink : Sink} {moves : List Move}

theorem requests_append (moves : List Move) (move : Move) :
    requests (moves ++ [move]) =
      requests moves ++ (request? move.before move.label).toList := by
  rw [requests, List.filterMap_append]
  cases asked : request? move.before move.label <;> simp [requests, asked]

theorem sights_append (moves : List Move) (move : Move) :
    sights (moves ++ [move]) = sights moves ++
      ((request? move.before move.label).map (⟨·, move.before.front⟩)).toList := by
  rw [sights, List.filterMap_append]
  cases asked : request? move.before move.label <;> simp [sights, asked]

/-- A sale that is asked for one thing after the other serves what it was asked. -/
theorem serves (run : Trace (orderly? flags) (.new config reserveTimeout (.new sink)) moves s) :
    Serves flags (.new reserveTimeout) (requests moves) (answersIn (heard moves)) s := by
  induction run with
  | start => exact .quiet rfl rfl rfl
  | move sofar step ih =>
    rw [requests_append, heard_append, heard_singleton, answersIn_append]
    exact ih.step step

/-- Each request finds the front where the requests before it have led it. -/
theorem sights_eq (run : Trace (orderly? flags) (.new config reserveTimeout (.new sink)) moves s) :
    sights moves = (Front.new reserveTimeout).sights flags (requests moves) := by
  induction run with
  | start => rfl
  | @move moves t u label told sofar step ih =>
    rw [requests_append, sights_append, Front.sights_append, ih]
    cases asked : request? t label with
    | none => simp [Front.sights]
    | some r =>
      have permitted : permits t label = true := by
        unfold orderly? at step
        split at step
        · assumption
        · contradiction
      have found := ((serves sofar).rest (permits_request permitted asked)).1
      simp [Front.sights, found]

/-- The answers given so far are those of the front, but for the claim in progress. -/
theorem Serves.answers_prefix (serves : Serves flags f rs answers s) :
    answers <+: f.told flags rs := by
  cases serves with
  | quiet _ _ told => exact told ▸ List.prefix_rfl
  | asking _ _ last _ _ told | told _ last _ _ _ told =>
    rw [told, last, Front.told_append]
    exact List.prefix_append _ _

theorem Serves.answer (serves : Serves flags f rs answers s) {n : Nat} {answer : Answer Outcome}
    (given : answers[n]? = some answer) : (f.told flags rs)[n]? = some answer := by
  obtain ⟨rest, told⟩ := serves.answers_prefix
  rw [← told, List.getElem?_append_left (List.getElem?_eq_some_iff.mp given).1, given]

/-- What happens behind the front is never seen by those who claim. Two sales that are asked for
the same things one after the other, over pools built in any way that move and fail in any way,
show every request the same counter and the same flags, and give the same answers; while a claim is
in progress in one of them, that one may be an answer behind. -/
theorem pool_unseen {config₁ config₂ : Pool.Config} {sink₁ sink₂ : Sink} {moves₁ moves₂ : List Move}
    {s₁ s₂ : Sale Memory}
    (run₁ : Trace (orderly? true) (.new config₁ reserveTimeout (.new sink₁)) moves₁ s₁)
    (run₂ : Trace (orderly? true) (.new config₂ reserveTimeout (.new sink₂)) moves₂ s₂)
    (same : requests moves₁ = requests moves₂) :
    sights moves₁ = sights moves₂ ∧
      (answersIn (heard moves₁) <+: answersIn (heard moves₂) ∨
        answersIn (heard moves₂) <+: answersIn (heard moves₁)) ∧
      (s₁.calls = [] → s₂.calls = [] →
        answersIn (heard moves₁) = answersIn (heard moves₂) ∧ s₁.front = s₂.front) := by
  have first := serves run₁
  have second := serves run₂
  rw [← same] at second
  refine ⟨?_, List.prefix_or_prefix_of_prefix first.answers_prefix second.answers_prefix, ?_⟩
  · rw [sights_eq run₁, sights_eq run₂, same]
  · intro idle₁ idle₂
    obtain ⟨front₁, told₁⟩ := first.rest idle₁
    obtain ⟨front₂, told₂⟩ := second.rest idle₂
    exact ⟨told₁.trans told₂.symm, front₁.trans front₂.symm⟩

/-- Opens a claim for the first coupon and lets it end. -/
def claimed (number : Nat) (user : UserId) : List Label :=
  [.claim number user ⟨1⟩ none, .call number, .call number].map (.sale ∘ .move)

/-- Two units, claimed by three users over a pool that is never started. -/
def unattended : List Label :=
  .seed ⟨1⟩ 2 :: claimed 0 ⟨7⟩ ++ claimed 1 ⟨8⟩ ++ claimed 2 ⟨9⟩

/-- The same over a pool that meets a failure, waits to try again and is stopped. -/
def interrupted : List Label :=
  .sale (.set (.failWrites 1)) :: .sale (.move .start) :: .seed ⟨1⟩ 2 :: claimed 0 ⟨7⟩ ++
    .replicate 8 (.sale (.move (.worker 0 .one))) ++ claimed 1 ⟨8⟩ ++
    .sale (.move .stop) :: claimed 2 ⟨9⟩

/-- The first of two such sales has no room for a task, the second counts a retry. -/
theorem pool_unseen_interrupted : ∃ moves₁ moves₂ s₁ s₂,
    Trace (orderly? true) (.new { Pool.Config.standard with queueCapacity := 1 }
      Sale.standardTimeout (.new .failing)) moves₁ s₁ ∧
    Trace (orderly? true) (.new { Pool.Config.standard with workers := 1 }
      Sale.standardTimeout (.new .recording)) moves₂ s₂ ∧
    s₁.pool.stats.dropped = 1 ∧ s₂.pool.stats.retried = 1 ∧ (sights moves₁).length = 4 ∧
    sights moves₁ = sights moves₂ ∧
    answersIn (heard moves₁) = answersIn (heard moves₂) ∧ s₁.front = s₂.front := by
  have ends : (trace? (orderly? true) (.new { Pool.Config.standard with queueCapacity := 1 }
      Sale.standardTimeout (.new .failing)) unattended).any (fun (moves₁, s₁) =>
        (trace? (orderly? true) (.new { Pool.Config.standard with workers := 1 }
          Sale.standardTimeout (.new .recording)) interrupted).any fun (moves₂, s₂) =>
            requests moves₁ = requests moves₂ ∧ s₁.calls.isEmpty ∧ s₂.calls.isEmpty ∧
              s₁.pool.stats.dropped = 1 ∧ s₂.pool.stats.retried = 1 ∧
              (sights moves₁).length = 4) = true := by decide +kernel
  obtain ⟨⟨moves₁, s₁⟩, traced₁, ends⟩ := (Option.any_eq_true _ _).mp ends
  obtain ⟨⟨moves₂, s₂⟩, traced₂, ends⟩ := (Option.any_eq_true _ _).mp ends
  simp only [List.isEmpty_iff, decide_eq_true_eq] at ends
  obtain ⟨same, idle₁, idle₂, dropped, retried, asked⟩ := ends
  have run₁ := Trace.of_trace? traced₁
  have run₂ := Trace.of_trace? traced₂
  obtain ⟨alike, _, quiet⟩ := pool_unseen run₁ run₂ same
  exact ⟨moves₁, moves₂, s₁, s₂, run₁, run₂, dropped, retried, asked, alike, quiet idle₁ idle₂⟩

end SeededSale
end CouponSale
