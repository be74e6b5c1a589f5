import CouponSale.Proofs.Sale.Serving
import CouponSale.Proofs.Store.Counter

/-!
The flags are a short cut to the counter's own answer. A sale is set beside one whose claims always
ask the counter, both asked for the same things. As long as no coupon is seeded twice, a flagged one
is exhausted for good, so that what the flags keep from the counter would change nothing there. The
two part in one answer only: to somebody who holds the coupon the counter would say so, and the
flags say that it is sold out.
-/
namespace CouponSale

/-- Makes no reservation fail. -/
def Front.Request.faultless : Request → Bool
  | .fail count => count = 0
  | _ => true

/-- The coupon that a claim is for and the front that it finds. -/
def Front.Sight.claim? (sight : Sight) : Option (CouponId × Front) :=
  sight.request.claim?.map fun claim => (claim.2, sight.front)

/-- Seeds no coupon again, makes nothing fail, and lets no wait run out. -/
def Front.Sight.Fair (sight : Sight) : Prop :=
  match sight.request with
  | .seed coupon _ => sight.front.counter.tab? coupon = none
  | .fail count => count = 0
  | .delay _ => True
  | .claim _ _ => sight.front.answers = true

namespace Front

variable {f g : Front} {user : UserId} {coupon : CouponId}

/-- How a claim may be answered with the flags and without them, by the front it finds. -/
def Alike (seen : CouponId × Front) (flagged plain : Answer Outcome) : Prop :=
  flagged = plain ∨
    flagged = .ok .outOfStock ∧ plain = .ok .alreadyClaimed ∧ seen.2.soldOut.check seen.1 = true

/-- A front whose claims look at the flags beside one whose claims always ask. Only the number of
reservations may differ. -/
structure Abreast (f g : Front) : Prop where
  counter : f.counter = g.counter
  soldOut : f.soldOut = g.soldOut
  latency : f.reserving.latency = g.reserving.latency
  timeout : f.reserveTimeout = g.reserveTimeout
  faultless : f.reserving.failing = 0 ∧ g.reserving.failing = 0
  exhausted : ∀ coupon, f.soldOut.check coupon = true → f.counter.Exhausted coupon

theorem Abreast.answers (abreast : Abreast f g) : f.answers = g.answers := by
  unfold Front.answers Service.wait?
  rw [abreast.latency, abreast.timeout]

/-- Without faults and in time, the counter's verdict is what a claim is told. -/
theorem ask_eq (answers : f.answers = true) (faultless : f.reserving.failing = 0) (user : UserId)
    (coupon : CouponId) :
    f.ask user coupon = (.ok (f.counter.reserve coupon user).1.outcome,
      { f.begin with counter := (f.counter.reserve coupon user).2 }.conclude coupon
        (.ok (f.counter.reserve coupon user).1)) := by
  have answers : f.begin.answers = true := answers
  have faultless : f.begin.reserving.failing = 0 := faultless
  rw [ask, hear, if_pos answers, reserve, faultless]
  rfl

/-- A verdict flags a coupon in both, and only when it is exhausted. -/
theorem Abreast.conclude (abreast : Abreast f g) {verdict : Reservation}
    (decided : verdict = .outOfStock → f.counter.Exhausted coupon) :
    Abreast (f.conclude coupon (.ok verdict)) (g.conclude coupon (.ok verdict)) := by
  cases verdict with
  | outOfStock =>
    refine ⟨abreast.counter, ?_, abreast.latency, abreast.timeout, abreast.faultless, ?_⟩
    · exact congrArg (fun flags => (flags.mark coupon).2) abreast.soldOut
    · intro other flagged
      have known : other = coupon ∨ f.soldOut.check other = true := by
        simpa [Front.conclude, SoldOut.check_mark] using flagged
      rcases known with rfl | known
      · exact decided rfl
      · exact abreast.exhausted other known
  | _ => exact abreast

/-- A claim that asks in both. -/
theorem Abreast.ask (abreast : Abreast f g) (answers : g.answers = true) :
    Abreast (f.ask user coupon).2 (g.ask user coupon).2 ∧
      (f.ask user coupon).1 = (g.ask user coupon).1 := by
  rw [ask_eq (abreast.answers.trans answers) abreast.faultless.1,
    ask_eq answers abreast.faultless.2, abreast.counter]
  have reserves := g.counter.reserve_reserves coupon user
  refine ⟨Abreast.conclude ?_ fun verdict => (verdict ▸ reserves).outOfStock_exhausted, rfl⟩
  exact ⟨rfl, abreast.soldOut, abreast.latency, abreast.timeout, abreast.faultless,
    fun other flagged => reserves.exhausted (abreast.counter ▸ abreast.exhausted other flagged)⟩

/-- A claim that the flags answer in the one, and that asks in the other. -/
theorem Abreast.refused (abreast : Abreast f g) (answers : g.answers = true)
    (flagged : f.soldOut.check coupon = true) :
    Abreast f (g.ask user coupon).2 ∧
      Alike (coupon, f) (.ok .outOfStock) (g.ask user coupon).1 := by
  rw [ask_eq answers abreast.faultless.2]
  have exhausted := abreast.exhausted coupon flagged
  obtain ⟨kept, verdict⟩ :=
    (abreast.counter ▸ exhausted).refuses (g.counter.reserve_reserves coupon user)
  rw [kept]
  rcases verdict with held | none
  · rw [held]
    exact ⟨⟨abreast.counter, abreast.soldOut, abreast.latency, abreast.timeout, abreast.faultless,
      abreast.exhausted⟩, .inr ⟨rfl, rfl, flagged⟩⟩
  · rw [none]
    have marked : (g.soldOut.mark coupon).2 = f.soldOut := by
      rw [SoldOut.mark, ← abreast.soldOut, if_pos flagged]
    exact ⟨⟨abreast.counter, marked.symm, abreast.latency, abreast.timeout, abreast.faultless,
      abreast.exhausted⟩, .inl rfl⟩

theorem Abreast.claim (abreast : Abreast f g) (answers : g.answers = true) :
    Abreast (f.claim true user coupon).2 (g.claim false user coupon).2 ∧
      Alike (coupon, f) (f.claim true user coupon).1 (g.claim false user coupon).1 := by
  have plain : g.claim false user coupon = g.ask user coupon := rfl
  rw [plain, Front.claim, Bool.true_and]
  split
  · rename_i flagged
    exact abreast.refused answers flagged
  · have asked : Abreast (f.ask user coupon).2 (g.ask user coupon).2 ∧
        (f.ask user coupon).1 = (g.ask user coupon).1 := abreast.ask answers
    exact ⟨asked.1, .inl asked.2⟩

theorem Abreast.after (abreast : Abreast f g) {r : Request} (fair : Sight.Fair ⟨r, g⟩) :
    Abreast (f.after true r) (g.after false r) := by
  cases r with
  | seed coupon total =>
    have unseeded : g.counter.tab? coupon = none := fair
    refine ⟨?_, abreast.soldOut, abreast.latency, abreast.timeout, abreast.faultless, ?_⟩
    · exact congrArg (·.seed coupon total) abreast.counter
    · intro other flagged
      exact (abreast.exhausted other flagged).seed (abreast.counter ▸ unseeded) total
  | fail count =>
    obtain rfl : count = 0 := fair
    exact ⟨abreast.counter, abreast.soldOut, abreast.latency, abreast.timeout, ⟨rfl, rfl⟩,
      abreast.exhausted⟩
  | delay latency =>
    exact ⟨abreast.counter, abreast.soldOut, rfl, abreast.timeout, abreast.faultless,
      abreast.exhausted⟩
  | claim user coupon => exact (abreast.claim fair).1

section Requests

variable {rs : List Request}

/-- Requests keep two fronts abreast, and each finds the same counter and the same flags. -/
theorem Abreast.sights (abreast : Abreast f g) (fair : ∀ sight ∈ g.sights false rs, sight.Fair) :
    Abreast (f.served true rs) (g.served false rs) ∧
      (f.sights true rs).map (fun sight => (sight.front.counter, sight.front.soldOut)) =
        (g.sights false rs).map (fun sight => (sight.front.counter, sight.front.soldOut)) := by
  induction rs generalizing f g with
  | nil => exact ⟨abreast, rfl⟩
  | cons r rs ih =>
    obtain ⟨now, later⟩ := List.forall_mem_cons.mp fair
    obtain ⟨ends, same⟩ := ih (abreast.after now) later
    refine ⟨ends, ?_⟩
    rw [Front.sights, Front.sights, List.map_cons, List.map_cons, same, abreast.counter,
      abreast.soldOut]

/-- The answers to one claim are alike by the front that it finds. -/
theorem Abreast.told (abreast : Abreast f g) (fair : ∀ sight ∈ g.sights false rs, sight.Fair)
    {n : Nat} {flagged plain : Answer Outcome} (here : (f.told true rs)[n]? = some flagged)
    (there : (g.told false rs)[n]? = some plain) :
    ∃ seen, ((f.sights true rs).filterMap Sight.claim?)[n]? = some seen ∧
      Alike seen flagged plain := by
  induction rs generalizing f g n with
  | nil => simp [Front.told] at here
  | cons r rs ih =>
    obtain ⟨now, later⟩ := List.forall_mem_cons.mp fair
    have next := abreast.after now
    cases r with
    | claim user coupon =>
      cases n with
      | zero =>
        obtain rfl : (f.claim true user coupon).1 = flagged := Option.some.inj here
        obtain rfl : (g.claim false user coupon).1 = plain := Option.some.inj there
        exact ⟨(coupon, f), rfl, (abreast.claim now).2⟩
      | succ n => exact ih next later here there
    | _ => exact ih next later here there

@[simp] theorem conclude_counter (f : Front) (coupon : CouponId) (verdict : Answer Reservation) :
    (f.conclude coupon verdict).counter = f.counter := by
  unfold conclude
  split <;> rfl

theorem claim_unseeded {flags : Bool} (unseeded : f.counter.tab? coupon = none) (user : UserId)
    (wanted : CouponId) : (f.claim flags user wanted).2.counter.tab? coupon = none := by
  have kept := (f.counter.reserve_reserves wanted user).unseeded unseeded
  unfold claim
  split
  · exact unseeded
  · simp only [ask, conclude_counter]
    unfold hear reserve
    split
    · split
      · exact unseeded
      · exact kept
    · exact unseeded

theorem after_unseeded {flags : Bool} {r : Request} (unseeded : f.counter.tab? coupon = none)
    (other : r.seeded? ≠ some coupon) : (f.after flags r).counter.tab? coupon = none := by
  cases r with
  | seed seeded total =>
    have apart : coupon ≠ seeded := fun same => other (congrArg some same.symm)
    simp [after, Counter.seed, apart, unseeded]
  | claim user wanted => exact claim_unseeded unseeded user wanted
  | _ => exact unseeded

/-- Where no coupon is seeded twice, each is unknown to the counter when it is seeded. -/
theorem sights_unseeded {flags : Bool} (once : (rs.filterMap Request.seeded?).Nodup)
    (fresh : ∀ coupon ∈ rs.filterMap Request.seeded?, f.counter.tab? coupon = none) :
    ∀ sight ∈ f.sights flags rs, ∀ coupon, sight.request.seeded? = some coupon →
      sight.front.counter.tab? coupon = none := by
  induction rs generalizing f with
  | nil => simp [sights]
  | cons r rs ih =>
    have rest : (rs.filterMap Request.seeded?).Nodup ∧
        ∀ coupon ∈ rs.filterMap Request.seeded?,
          r.seeded? ≠ some coupon ∧ f.counter.tab? coupon = none := by
      cases seeds : r.seeded? with
      | none =>
        simp only [List.filterMap_cons, seeds] at once fresh
        refine ⟨once, fun coupon member => ⟨?_, fresh coupon member⟩⟩
        exact (Option.some_ne_none coupon).symm
      | some seeded =>
        simp only [List.filterMap_cons, seeds, List.nodup_cons] at once fresh
        refine ⟨once.2, fun coupon member => ⟨?_, fresh coupon (.tail _ member)⟩⟩
        rintro same
        exact once.1 (Option.some.inj same ▸ member)
    rw [sights, List.forall_mem_cons]
    constructor
    · intro coupon seeds
      have member : coupon ∈ (r :: rs).filterMap Request.seeded? := by simp_all
      exact fresh coupon member
    · refine ih rest.1 fun coupon member => ?_
      exact after_unseeded (rest.2 coupon member).2 (rest.2 coupon member).1

theorem fair_sights (once : (rs.filterMap Request.seeded?).Nodup)
    (fresh : ∀ coupon ∈ rs.filterMap Request.seeded?, f.counter.tab? coupon = none)
    (faultless : ∀ r ∈ rs, r.faultless = true)
    (timely : ∀ sight ∈ f.sights false rs,
      sight.request.claim?.isSome → sight.front.answers = true) :
    ∀ sight ∈ f.sights false rs, sight.Fair := by
  intro sight member
  have unseeded := sights_unseeded once fresh sight member
  have faultless : sight.request.faultless = true := by
    apply faultless
    rw [← requests_sights false f rs]
    exact List.mem_map_of_mem member
  have timely := timely sight member
  unfold Sight.Fair
  cases asked : sight.request with
  | seed coupon total => exact unseeded coupon (by rw [asked]; rfl)
  | fail count => simpa [asked, Request.faultless] using faultless
  | delay => trivial
  | claim => exact timely (by rw [asked]; rfl)

end Requests

/-- What two answers to one claim have in common. -/
theorem Alike.success {seen : CouponId × Front} {flagged plain : Answer Outcome}
    (alike : Alike seen flagged plain) : flagged = .ok .success ↔ plain = .ok .success := by
  rcases alike with rfl | ⟨rfl, rfl, _⟩
  · exact Iff.rfl
  · simp

theorem abreast_new (reserveTimeout : Span) : Abreast (new reserveTimeout) (new reserveTimeout) :=
  ⟨rfl, rfl, rfl, rfl, ⟨rfl, rfl⟩, by simp [new, SoldOut.check, SoldOut.empty]⟩

end Front

namespace SeededSale

/-- The claims among some moves, each by its coupon and the front that it found. -/
def claimsSeen (moves : List Move) : List (CouponId × Front) :=
  (sights moves).filterMap Front.Sight.claim?

/-- What a sale with the flags has in common with one without them. Both are asked for the same
things one after the other, no coupon is seeded twice, no reservation is made to fail, and no wait
for the counter runs out. Then every request finds the same counter and the same flags in both, the
same claims succeed, and two answers differ only where a claim for a flagged coupon is answered by
the flags as sold out and by the counter as claimed already. -/
theorem flags_faithful {config₁ config₂ : Pool.Config} {reserveTimeout : Span} {sink₁ sink₂ : Sink}
    {moves₁ moves₂ : List Move} {s₁ s₂ : Sale Memory}
    (run₁ : Trace (orderly? true) (.new config₁ reserveTimeout (.new sink₁)) moves₁ s₁)
    (run₂ : Trace (orderly? false) (.new config₂ reserveTimeout (.new sink₂)) moves₂ s₂)
    (same : requests moves₁ = requests moves₂)
    (once : ((requests moves₁).filterMap Front.Request.seeded?).Nodup)
    (faultless : ∀ r ∈ requests moves₁, r.faultless = true)
    (timely : ∀ sight ∈ sights moves₂,
      sight.request.claim?.isSome → sight.front.answers = true) :
    (sights moves₁).map (fun sight => (sight.front.counter, sight.front.soldOut)) =
        (sights moves₂).map (fun sight => (sight.front.counter, sight.front.soldOut)) ∧
      (∀ (n : Nat) (flagged plain : Answer Outcome), (answersIn (heard moves₁))[n]? = some flagged →
        (answersIn (heard moves₂))[n]? = some plain →
          (flagged = .ok .success ↔ plain = .ok .success) ∧
          (flagged ≠ plain → flagged = .ok .outOfStock ∧ plain = .ok .alreadyClaimed ∧
            ∃ (coupon : CouponId) (front : Front), (claimsSeen moves₁)[n]? = some (coupon, front) ∧
              front.soldOut.check coupon = true)) ∧
      (s₁.calls = [] → s₂.calls = [] →
        s₁.stores.counter = s₂.stores.counter ∧ s₁.soldOut = s₂.soldOut ∧
          (answersIn (heard moves₁)).length =
            ((requests moves₁).filterMap Front.Request.claim?).length ∧
          (answersIn (heard moves₂)).length =
            ((requests moves₁).filterMap Front.Request.claim?).length) := by
  have first := serves run₁
  have second := serves run₂
  rw [sights_eq run₂] at timely
  rw [claimsSeen, sights_eq run₁, sights_eq run₂]
  rw [← same] at second timely ⊢
  have fair := Front.fair_sights once (by simp [Front.new, Counter.empty, Counter.tab?]) faultless
    timely
  have abreast := Front.abreast_new reserveTimeout
  obtain ⟨ends, finds⟩ := abreast.sights fair
  refine ⟨finds, ?_, ?_⟩
  · intro n flagged plain here there
    obtain ⟨⟨coupon, front⟩, found, alike⟩ :=
      abreast.told fair (first.answer here) (second.answer there)
    refine ⟨alike.success, fun differ => ?_⟩
    obtain ⟨refused, held, known⟩ := alike.resolve_left differ
    exact ⟨refused, held, coupon, front, found, known⟩
  · intro idle₁ idle₂
    obtain ⟨front₁, told₁⟩ := first.rest idle₁
    obtain ⟨front₂, told₂⟩ := second.rest idle₂
    have counter : s₁.front.counter = s₂.front.counter := by rw [front₁, front₂, ends.counter]
    have soldOut : s₁.front.soldOut = s₂.front.soldOut := by rw [front₁, front₂, ends.soldOut]
    exact ⟨counter, soldOut, by rw [told₁, Front.length_told], by rw [told₂, Front.length_told]⟩

/-- One unit, claimed by two users, of whom the first asks again. -/
def askedAgain : List Label := .seed ⟨1⟩ 1 :: claimed 0 ⟨7⟩ ++ claimed 1 ⟨8⟩

/-- To that user the flags say something else than the counter. -/
theorem flags_faithful_askedAgain : ∃ moves₁ moves₂ s₁ s₂,
    Trace (orderly? true) (.new .standard Sale.standardTimeout (.new .recording)) moves₁ s₁ ∧
    Trace (orderly? false) (.new .standard Sale.standardTimeout (.new .recording)) moves₂ s₂ ∧
    requests moves₁ = requests moves₂ ∧ s₁.stores.counter = s₂.stores.counter ∧
    (answersIn (heard moves₁))[2]? = some (.ok .outOfStock) ∧
    (answersIn (heard moves₂))[2]? = some (.ok .alreadyClaimed) ∧
    ∃ coupon front, (claimsSeen moves₁)[2]? = some (coupon, front) ∧
      front.soldOut.check coupon = true := by
  have ends : (trace? (orderly? true) (.new .standard Sale.standardTimeout (.new .recording))
      (askedAgain ++ [.sale (.move (.claim 2 ⟨7⟩ ⟨1⟩ none))])).any (fun (moves₁, s₁) =>
        (trace? (orderly? false) (.new .standard Sale.standardTimeout (.new .recording))
          (askedAgain ++ claimed 2 ⟨7⟩)).any fun (moves₂, s₂) =>
            requests moves₁ = requests moves₂ ∧
              ((requests moves₁).filterMap Front.Request.seeded?).Nodup ∧
              (∀ r ∈ requests moves₁, r.faultless = true) ∧
              (∀ sight ∈ sights moves₂,
                sight.request.claim?.isSome → sight.front.answers = true) ∧
              s₁.calls.isEmpty ∧ s₂.calls.isEmpty ∧
              (answersIn (heard moves₁))[2]? = some (.ok .outOfStock) ∧
              (answersIn (heard moves₂))[2]? = some (.ok .alreadyClaimed)) = true := by
    decide +kernel
  obtain ⟨⟨moves₁, s₁⟩, traced₁, ends⟩ := (Option.any_eq_true _ _).mp ends
  obtain ⟨⟨moves₂, s₂⟩, traced₂, ends⟩ := (Option.any_eq_true _ _).mp ends
  obtain ⟨same, once, faultless, timely, idle₁, idle₂, here, there⟩ := of_decide_eq_true ends
  have run₁ := Trace.of_trace? traced₁
  have run₂ := Trace.of_trace? traced₂
  obtain ⟨_, answers, quiet⟩ := flags_faithful run₁ run₂ same once faultless timely
  have counters := (quiet (List.isEmpty_iff.mp idle₁) (List.isEmpty_iff.mp idle₂)).1
  obtain ⟨_, _, known⟩ := (answers 2 _ _ here there).2 (by simp)
  exact ⟨moves₁, moves₂, s₁, s₂, run₁, run₂, same, counters, here, there, known⟩

end SeededSale
end CouponSale
